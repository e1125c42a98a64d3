import Promotion.Proofs.Calendar.Instant
import Promotion.Proofs.Client.Exchange
import Promotion.Proofs.Http.Address
import Promotion.Proofs.Json.Depth
import Promotion.Proofs.Json.Wholeness
import Promotion.Proofs.Rule.Compiled

/-! Requests that can be put together. An open client whose headers show ASCII texts has a request
for every call whose address there is, with the id in its header. -/
namespace Promotion

namespace Http.Headers

lemma sameName_iff {a b : String} : sameName a b = true ↔ Text.lower a = Text.lower b := by
  simp [sameName]

@[simp] lemma sameName_self (a : String) : sameName a a = true := sameName_iff.mpr rfl

/-- Headers of other names do not count for the values of a header. -/
lemma get?_override_of_forall {headers others : Headers} {name : String}
    (h : ∀ other ∈ others, sameName other.1 name = false) :
    (headers.override others).get? name = headers.get? name := by
  have hothers : others.filter (fun header => sameName header.1 name) = [] := by
    simpa using h
  have hkept : ∀ header ∈ headers, sameName header.1 name = true →
      (others.any fun other => sameName other.1 header.1) = false := by
    intro header _ hname
    refine List.any_eq_false.mpr fun other hother hsame => ?_
    have hother := h other hother
    rw [sameName_iff.mpr ((sameName_iff.mp hsame).trans (sameName_iff.mp hname))] at hother
    cases hother
  have hheaders : (headers.filter fun header =>
      !others.any fun other => sameName other.1 header.1).filter
        (fun header => sameName header.1 name) =
      headers.filter fun header => sameName header.1 name := by
    rw [List.filter_filter]
    refine List.filter_congr fun header hmem => ?_
    cases hname : sameName header.1 name with
    | true => simp [hkept header hmem hname]
    | false => simp
  unfold get? override
  rw [List.filter_append, hothers, hheaders, List.append_nil]

/-- The value of a header that stands in front of headers of other names. -/
lemma get?_override_cons {headers others : Headers} {name value : String}
    (hheaders : ∀ header ∈ headers, sameName header.1 name = false)
    (hothers : ∀ other ∈ others, sameName other.1 name = false) :
    (headers.override ((name, value) :: others)).get? name = some value := by
  have hfirst : (headers.filter fun header =>
      !((name, value) :: others).any fun other => sameName other.1 header.1).filter
        (fun header => sameName header.1 name) = [] := by
    rw [List.filter_eq_nil_iff]
    exact fun header hmem hname =>
      by simp [hheaders header (List.mem_filter.mp hmem).1] at hname
  have hrest : others.filter (fun header => sameName header.1 name) = [] := by
    simpa using hothers
  unfold get? override
  rw [List.filter_append, hfirst, List.nil_append, List.filter_cons_of_pos (by simp), hrest]
  rfl

end Http.Headers

namespace Client
variable {c : Client} {ctx : Context} {endpoint : Endpoint} {path : String} {extra : Http.Headers}
  {body : String} {rule : Rule} {header id : String} {url : Http.Url}

/-- Headers that show ASCII texts only. -/
def AllAscii (headers : Http.Headers) : Prop := ∀ h ∈ headers, isAscii h.1 ∧ isAscii h.2

lemma allAscii_nil : AllAscii [] := fun _ h => absurd h List.not_mem_nil

lemma checkHeader_of_ascii {name value : String} (hname : isAscii name) (hvalue : isAscii value) :
    checkHeader (.str name) (.str value) = .ok (name, value) := by
  simp [checkHeader, hname, hvalue]

lemma mapM_checkHeader {headers : Http.Headers} (h : AllAscii headers) :
    (headers.mapM fun header => checkHeader (.str header.1) (.str header.2)) = .ok headers := by
  induction headers with
  | nil => rfl
  | cons header headers ih =>
    obtain ⟨hname, hvalue⟩ := h header List.mem_cons_self
    have hrest := ih fun other hother => h other (List.mem_cons_of_mem _ hother)
    rw [List.mapM_cons, checkHeader_of_ascii hname hvalue, hrest]
    rfl

/-- ASCII headers are put together. The id stands in its header, unless there is another one of
exactly that name. -/
lemma headers_of_ascii {header id : String} {others : Http.Headers} (hheader : isAscii header)
    (hid : isAscii id) (hothers : AllAscii others) :
    ∃ first, headers (.str header) (.str id) others = .ok (Http.Headers.override standardHeaders
        ((header, first) :: others.filter fun other => other.1 != header)) ∧
      ((∀ other ∈ others, other.1 ≠ header) → first = id) := by
  have hrest : AllAscii (others.filter fun other => other.1 != header) :=
    fun other hother => hothers other (List.mem_filter.mp hother).1
  unfold headers
  cases hfind : others.find? fun other => Json.str other.1 = .str header with
  | none =>
    refine ⟨id, ?_, fun _ => rfl⟩
    simp only [checkHeader_of_ascii hheader hid, bind, Except.bind, mapM_checkHeader hrest]
    rfl
  | some other =>
    have hmem := List.mem_of_find?_eq_some hfind
    have hname : other.1 = header := by simpa using List.find?_some hfind
    refine ⟨other.2, ?_, fun hnone => absurd hname (hnone other hmem)⟩
    have hfirst := checkHeader_of_ascii hheader (hothers other hmem).2
    simp only [hfirst, bind, Except.bind, mapM_checkHeader hrest]
    rfl

lemma isAscii_append (s t : String) : isAscii (s ++ t) = (isAscii s && isAscii t) := by
  simp [isAscii, String.toList_append]

lemma authHeader_of_ascii
    (h : c.token.truthy = true → ∃ token, c.token = .str token ∧ isAscii token) :
    ∃ auth, c.authHeader = .ok auth ∧ AllAscii auth ∧
      ∀ header ∈ auth, header.1 = "Authorization" := by
  unfold authHeader
  split
  · exact ⟨[], rfl, allAscii_nil, by simp⟩
  · next htruthy =>
    obtain ⟨token, htoken, hascii⟩ := h (by simpa using htruthy)
    have hbearer : isAscii ("Bearer " ++ token) := by
      rw [isAscii_append, hascii]
      rfl
    have hname : isAscii "Authorization" := by decide
    simp only [htoken]
    split
    · exact ⟨_, rfl, by simp [AllAscii, hname, hascii], by simp⟩
    · exact ⟨_, rfl, by simp [AllAscii, hname, hbearer], by simp⟩

lemma credentialsHeader_name {url : Http.Url} :
    ∀ header ∈ credentialsHeader url, header.1 = "Authorization" := by
  unfold credentialsHeader
  split <;> simp

/-- An open client that shows its token, if it has one, and the id of a request as ASCII texts. -/
structure Able (c : Client) (ctx : Context) (header id : String) : Prop where
  isOpen : c.closed = false
  token : c.token.truthy = true → ∃ token, c.token = .str token ∧ isAscii token
  header_eq : ctx.settings.requestIdHeader = .str header
  id_eq : ctx.currentId = .str id
  id_ascii : isAscii id
  id_ne : id ≠ ""

lemma Able.withId (h : c.Able ctx header id) : c.Able ctx.withId header id where
  isOpen := h.isOpen
  token := h.token
  header_eq := h.header_eq
  id_eq := (Context.ids_withId h.id_eq h.id_ne).1
  id_ascii := h.id_ascii
  id_ne := h.id_ne

/-- The name of the header for the id is ASCII as well. -/
structure CanSend (c : Client) (ctx : Context) (header id : String) : Prop
    extends c.Able ctx header id where
  header_ascii : isAscii header

/-- The header of the id has another name than those that the client has anyway. -/
def OwnName (header : String) (extra : Http.Headers) : Prop :=
  ∀ name ∈ "accept" :: "Authorization" :: extra.map (·.1), Http.Headers.sameName name header = false

/-- A client that can send has a request for every call whose address there is. -/
lemma callRequest_of_canSend (endpoint : Endpoint) (body : String) (h : c.CanSend ctx header id)
    (hurl : c.base.join path.toList = some url) (hextra : AllAscii extra) :
    ∃ headers, c.callRequest ctx endpoint path none extra body =
        .ok ⟨endpoint.method, url, headers, body⟩ ∧
      (OwnName header extra → headers.get? header = some id) := by
  obtain ⟨auth, hauth, hascii, hname⟩ := authHeader_of_ascii h.token
  have hothers : AllAscii (auth ++ extra) := fun other hother =>
    (List.mem_append.mp hother).elim (hascii other) (hextra other)
  obtain ⟨first, hheaders, hfirst⟩ := headers_of_ascii h.header_ascii h.id_ascii hothers
  refine ⟨Http.Headers.override (Http.Headers.override standardHeaders ((header, first) ::
    (auth ++ extra).filter fun other => other.1 != header)) (credentialsHeader url), ?_,
    fun hown => ?_⟩
  · simp only [callRequest, h.header_eq, NodeKey.ofJson?_str, Option.isNone_some, hauth, h.id_eq,
      request?, hurl, validUrl, hheaders, h.isOpen, Except.bind, bind]
    rfl
  · have hotherName : ∀ other ∈ auth ++ extra, Http.Headers.sameName other.1 header = false := by
      intro other hother
      rcases List.mem_append.mp hother with hother | hother
      · rw [hname other hother]
        exact hown _ (by simp)
      · exact hown _ (List.mem_cons_of_mem _ (List.mem_cons_of_mem _ (List.mem_map_of_mem hother)))
    have hcredentials : ∀ other ∈ credentialsHeader url,
        Http.Headers.sameName other.1 header = false := by
      intro other hother
      rw [credentialsHeader_name other hother]
      exact hown _ (by simp)
    have hid : first = id := hfirst fun other hother heq => by
      simpa [heq] using hotherName other hother
    rw [Http.Headers.get?_override_of_forall hcredentials, hid]
    refine Http.Headers.get?_override_cons (fun own hown' => ?_) fun other hother =>
      hotherName other (List.mem_filter.mp hother).1
    rw [List.mem_singleton.mp hown']
    exact hown _ (by simp)

lemma checkHeader_error_of_not_ascii (value : Json) (h : ¬ isAscii header) :
    checkHeader (.str header) value = .error .headerNotAscii := by
  simp [checkHeader, h]

/-- A call whose request there is has an address, and the name of the header for its id is ASCII. -/
lemma of_callRequest_eq_ok {query : Option (List Char)} {request : Http.Request}
    (hheader : ctx.settings.requestIdHeader = .str header)
    (h : c.callRequest ctx endpoint path query extra body = .ok request) :
    (c.base.join path.toList).isSome ∧ isAscii header := by
  unfold callRequest at h
  split at h
  · cases h
  obtain ⟨auth, -, hrequest⟩ := bind_eq_ok_iff.mp h
  obtain ⟨url, hurl, hrest⟩ := bind_eq_ok_iff.mp hrequest
  obtain ⟨shown, hshown, -⟩ := bind_eq_ok_iff.mp hrest
  refine ⟨?_, ?_⟩
  · cases hjoin : c.base.join path.toList with
    | none => rw [hjoin] at hurl; cases hurl
    | some _ => rfl
  · by_contra hnot
    rw [hheader, headers, checkHeader_error_of_not_ascii _ hnot] at hshown
    cases hshown

/-! ### The request that hands a rule in -/

/-- What it takes to hand in a document: it can be sent, the address of the rules can be put
together, and the name of the header for the id is ASCII. -/
structure CanHandIn (c : Client) (header : String) (limits : Json.Limits) (document : Json) :
    Prop extends document.Printable limits where
  url : (c.base.join rulesPath.toList).isSome
  header : isAscii header

/-- A request that hands a rule in: its body is the document of the rule, it goes to the address of
the rules, and the id stands in its header. -/
structure HandsIn (c : Client) (rule : Rule) (header id : String) (request : Http.Request) :
    Prop where
  method : request.method = .post
  url : c.base.join rulesPath.toList = some request.url
  path : ∀ u : Http.Url, u.Plain → u.asBase = some c.base →
    request.url = { u with path := u.path ++ rulesPath.toList }
  body : rule.toJson?.map Json.canonical = some request.body
  id : OwnName header contentHeader → request.headers.get? header = some id

lemma allAscii_contentHeader : AllAscii contentHeader := by
  unfold AllAscii
  decide

/-- The rules are found right behind a plain base address. -/
lemma url_eq_of_plain {u : Http.Url} (hu : u.Plain) (hbase : u.asBase = some c.base)
    (hurl : c.base.join rulesPath.toList = some url) :
    url = { u with path := u.path ++ rulesPath.toList } := by
  have hreference : Http.Url.ofChars? ('/' :: "admin/promotion-rules".toList) =
      some ⟨[], [], rulesPath.toList, none, none⟩ := rfl
  have hwritten : Http.Url.Written "admin/promotion-rules".toList :=
    ⟨List.all_eq_true.mp rfl, by unfold Http.Url.NoDots; decide⟩
  exact ((hu.join_eq_some_iff hbase hwritten (by decide) hreference rfl).mp hurl).1

/-- A document that is sent is one that can be. -/
lemma body?_eq_some_iff_printable {document : Json} {limits : Json.Limits} {text : String}
    (hdocument : rule.toJson? = some document) :
    rule.body? limits = some text ↔ document.Printable limits ∧ document.canonical = text := by
  simp only [Rule.body?_eq_some_iff, hdocument, Option.some.injEq, exists_eq_left',
    Json.canonicalText, Json.encode_eq_ok_iff]
  constructor
  · rintro ⟨⟨hkeeps, rfl⟩, hwhole⟩
    exact ⟨⟨hkeeps, Json.holdsHalf_canonical_iff.mp hwhole⟩, rfl⟩
  · rintro ⟨⟨hkeeps, hwhole⟩, rfl⟩
    exact ⟨⟨hkeeps, rfl⟩, Json.holdsHalf_canonical_iff.mpr hwhole⟩

/-- The request that hands a document in is there if and only if it takes nothing more. -/
lemma creation?_isSome_iff {document : Json} (h : c.Able ctx header id)
    (hdocument : rule.toJson? = some document) :
    (c.creation? rule ctx).isSome ↔ c.CanHandIn header ctx.writing document := by
  rw [Option.isSome_iff_exists]
  simp only [creation?_eq_some_iff, body?_eq_some_iff_printable hdocument]
  constructor
  · rintro ⟨request, text, ⟨hprintable, rfl⟩, hrequest⟩
    obtain ⟨hurl, hheader⟩ := of_callRequest_eq_ok h.header_eq hrequest
    exact ⟨hprintable, hurl, hheader⟩
  · rintro ⟨hprintable, hurl, hheader⟩
    obtain ⟨url, hurl⟩ := Option.isSome_iff_exists.mp hurl
    obtain ⟨headers, hrequest, -⟩ := callRequest_of_canSend .createRule document.canonical
      ⟨h, hheader⟩ hurl allAscii_contentHeader
    exact ⟨_, document.canonical, ⟨hprintable, rfl⟩, hrequest⟩

/-- The request that there is for a rule hands it in. -/
lemma handsIn_of_creation? {request : Http.Request} (h : c.Able ctx header id)
    (hrequest : c.creation? rule ctx = some request) : c.HandsIn rule header id request := by
  obtain ⟨text, htext, hcall⟩ := creation?_eq_some_iff.mp hrequest
  obtain ⟨document, hdocument, -⟩ := Rule.body?_eq_some_iff.mp htext
  obtain ⟨-, rfl⟩ := (body?_eq_some_iff_printable hdocument).mp htext
  obtain ⟨hurl, hheader⟩ := of_callRequest_eq_ok h.header_eq hcall
  obtain ⟨url, hurl⟩ := Option.isSome_iff_exists.mp hurl
  obtain ⟨headers, hbuilt, hid⟩ := callRequest_of_canSend .createRule document.canonical
    ⟨h, hheader⟩ hurl allAscii_contentHeader
  obtain rfl := Except.ok.inj (hbuilt.symm.trans hcall)
  exact ⟨rfl, hurl, fun u hu hbase => url_eq_of_plain hu hbase hurl, by rw [hdocument]; rfl, hid⟩

/-! ### The sample -/

def sample : Client where
  baseUrl := "http://rules.test/api"
  token := .str "secret"
  timeout := .int 10
  maxRetries := .int 0
  base := ⟨"http".toList, "rules.test".toList, "/api/".toList, none, none⟩
  closed := false

/-- Surroundings with a server that always replies the same. -/
def sampleContext (reply : Http.Reply) : Context where
  settings := .standard
  clock := Graph.sampleNow
  requestId := .str ""
  freshId n := String.ofList ("generated-".toList ++ List.replicate (n + 1) 'i')
  issued := 0
  server _ _ := reply
  sent := []
  log := []
  metrics := .fresh
  elapsed := "0"

lemma canSend_sample (reply : Http.Reply) :
    sample.CanSend (sampleContext reply) "X-Request-ID" "generated-i" where
  isOpen := rfl
  token _ := ⟨"secret", rfl, by decide⟩
  header_eq := rfl
  header_ascii := by decide
  id_eq := rfl
  id_ascii := by decide
  id_ne := by decide

lemma canHandIn_sample : ∃ document, Graph.sampleRule.toJson? = some document ∧
    sample.CanHandIn "X-Request-ID" .writing document := by
  refine ⟨_, rfl, ⟨?_, ?_⟩, by decide, by decide⟩
  · rw [Json.keepsTo_iff]
    decide +kernel
  · decide +kernel

end Client
end Promotion
