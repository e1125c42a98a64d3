import Promotion.Proofs.Client.Request
import Promotion.Proofs.Http.Reference

/-! Deletions. The id of a rule becomes part of a path that is read again, so a request names the
rule of an id exactly where nothing in the id means something in a path. -/
namespace Promotion.Client
variable {settings : ActiveSettings} {options : ClientOptions} {c : Client} {ctx : Context}
  {header requestId id : String} {rules url : Http.Url} {request : Http.Request}

/-- The path of the rules as it stands behind a base address. -/
def rulesFront : List Char := "admin/promotion-rules/".toList

/-- The request that has a rule deleted, if there is one. -/
def deletion? (c : Client) (ctx : Context) (id : String) : Option Http.Request :=
  (c.callRequest ctx .deleteRule (rulePath (.str id)) none [] "").toOption

lemma deleteRule_leaves (c : Client) (ctx : Context) (id : String) :
    ctx.Leaves (c.deletion? ctx id).toList ctx.freshIds
      ((c.deleteRule (.str id)).context ctx) := by
  unfold deletion? deleteRule
  refine Work.leaves_bind ?_ fun reply => ?_
  · cases h : c.callRequest ctx .deleteRule (rulePath (.str id)) none [] "" with
    | ok request => simpa [h, Except.toOption] using call_leaves_of_ok h
    | error fault => simpa [h, Except.toOption] using call_leaves_of_error h
  · obtain ⟨request, status, body⟩ := reply
    dsimp only
    split
    · exact Work.quiet_pure _
    · exact (Work.quiet_bodyJson _).bind fun _ => Work.quiet_ofExcept _ _

/-- An address without a query whose path goes on behind that of the rules with a single segment,
which spells the id. -/
def NamesRule (c : Client) (id : String) (url : Http.Url) : Prop :=
  url.query = none ∧ ∃ segment, url.path = c.base.rawPath ++ rulesFront ++ segment ∧
    '/' ∉ segment ∧ Http.percentBytes segment = Http.utf8Bytes id.toList

lemma exists_rooted (h : create settings options = .ok c) (hscheme : c.base.scheme ≠ [])
    (hquery : c.base.query = none) : ∃ front, c.base.Rooted front := by
  unfold create at h
  split at h
  · next address =>
    dsimp only at h
    split at h
    · cases h
    · next base hbase =>
      cases h
      obtain ⟨u, hu, hbase⟩ := Option.bind_eq_some_iff.mp hbase
      exact Http.Url.exists_rooted hu hbase hscheme hquery
  · cases h

lemma rulePath_toList (id : String) :
    (rulePath (.str id)).toList = '/' :: rulesFront ++ id.toList := by
  have hfront : rulesPath.toList ++ "/".toList = '/' :: rulesFront := rfl
  rw [rulePath, Json.plain_str, String.toList_append, String.toList_append, hfront]

/-- What the request that has a rule deleted looks like: it goes to where the rules are, and names
the rule of the id exactly if that can stand in a path as it is. -/
structure Deletes (c : Client) (rules : Http.Url) (id : String) (request : Http.Request) :
    Prop where
  method : request.method = .delete
  url : ∃ path query, request.url = { rules with path := path, query := query }
  names : c.NamesRule id request.url ↔ Http.Url.Addressable id.toList

/-- The address of an id is put together from what the id holds. -/
lemma join_rulePath_iff {front : List Char} (hbase : c.base.Rooted front)
    (hrules : c.base.join rulesPath.toList = some rules) (id : String) :
    c.base.join (rulePath (.str id)).toList = some url ↔
      c.base.Joinable rulesFront id.toList ∧
        url = { rules with
          path := Http.Url.resolveDots (c.base.rawPath ++ rulesFront ++
            Http.percentEncode Http.pathSafe (Http.Url.pathPart id.toList))
          query := (Http.Url.queryPart id.toList).map (Http.percentEncode Http.querySafe) } := by
  have hsafe : ∀ c ∈ rulesFront, Http.pathSafe c := List.all_eq_true.mp rfl
  have hplain : rulesPath.toList = '/' :: "admin/promotion-rules".toList ++ [] := rfl
  rw [hplain, hbase.join_eq_some_iff ⟨'a', rfl, by decide⟩ (List.all_eq_true.mp rfl)] at hrules
  obtain ⟨-, authority, hauthority, rfl⟩ := hrules
  rw [rulePath_toList, hbase.join_eq_some_iff ⟨'a', rfl, by decide⟩ hsafe]
  simp only [hauthority, Option.some.injEq, exists_eq_left']

/-- A client that can send has a request for every id for which there is an address. -/
lemma exists_deletion?_eq (h : c.CanSend ctx header requestId) (id : String) :
    ∃ headers, c.deletion? ctx id = (c.base.join (rulePath (.str id)).toList).map
      fun url => ⟨.delete, url, headers, ""⟩ := by
  unfold deletion?
  cases hurl : c.base.join (rulePath (.str id)).toList with
  | some url =>
    obtain ⟨headers, hrequest, -⟩ := callRequest_of_canSend .deleteRule "" h hurl allAscii_nil
    rw [hrequest]
    exact ⟨headers, rfl⟩
  | none =>
    obtain ⟨auth, hauth, -, -⟩ := authHeader_of_ascii h.token
    simp only [callRequest, h.header_eq, NodeKey.ofJson?_str, Option.isNone_some, hauth,
      Except.bind, request?, hurl, validUrl, bind]
    exact ⟨[], rfl⟩

lemma deletes_of_mem {front : List Char} (hbase : c.base.Rooted front)
    (hrules : c.base.join rulesPath.toList = some rules) (h : c.CanSend ctx header requestId)
    (hrequest : request ∈ c.deletion? ctx id) : c.Deletes rules id request := by
  obtain ⟨headers, heq⟩ := exists_deletion?_eq h id
  rw [heq, Option.mem_def, Option.map_eq_some_iff] at hrequest
  obtain ⟨url, hurl, rfl⟩ := hrequest
  obtain ⟨-, rfl⟩ := (join_rulePath_iff hbase hrules id).mp hurl
  have hfront (cs : List Char) : c.base.rawPath ++ rulesFront ++ cs =
      (front ++ '/' :: "admin/promotion-rules".toList) ++ '/' :: cs := by
    have hrulesFront : rulesFront = "admin/promotion-rules".toList ++ ['/'] := rfl
    rw [hbase.rawPath, hrulesFront]
    simp only [List.append_assoc, List.cons_append, List.nil_append]
  have hnoDots : Http.Url.NoDots (front ++ '/' :: "admin/promotion-rules".toList) :=
    hbase.written.noDots.append (by unfold Http.Url.NoDots; decide)
  refine ⟨rfl, ⟨_, _, rfl⟩, ?_⟩
  simp only [NamesRule, hfront, Option.map_eq_none_iff]
  exact Http.Url.exists_segment_iff hnoDots

/-- Of two ids whose rules one address names neither is another one. -/
lemma eq_of_namesRule {id' : String} (h : c.NamesRule id url) (h' : c.NamesRule id' url) :
    id = id' := by
  obtain ⟨-, segment, hpath, -, hbytes⟩ := h
  obtain ⟨-, segment', hpath', -, hbytes'⟩ := h'
  have hsegment : segment = segment' := List.append_cancel_left (hpath.symm.trans hpath')
  subst hsegment
  exact String.toList_inj.mp (Http.utf8Bytes_injective (hbytes.symm.trans hbytes'))

/-- A deletion is one request, and its address names the rule of the id exactly if nothing in the id
means something in a path. No two such ids share an address. -/
theorem deletion_names_rule (hcreate : create settings options = .ok c)
    (hscheme : c.base.scheme ≠ []) (hquery : c.base.query = none)
    (hrules : c.base.join rulesPath.toList = some rules)
    (h : c.CanSend ctx header requestId) :
    (∀ id : String,
      ctx.Leaves (c.deletion? ctx id).toList ctx.freshIds
        ((c.deleteRule (.str id)).context ctx) ∧
      ((c.deletion? ctx id).isSome ↔ c.base.Joinable rulesFront id.toList) ∧
      ∀ request ∈ c.deletion? ctx id, c.Deletes rules id request) ∧
    ∀ id id' : String, Http.Url.Addressable id.toList → Http.Url.Addressable id'.toList →
      ∀ request ∈ c.deletion? ctx id, ∀ request' ∈ c.deletion? ctx id',
        request.url = request'.url → id = id' := by
  obtain ⟨front, hbase⟩ := exists_rooted hcreate hscheme hquery
  refine ⟨fun id => ⟨c.deleteRule_leaves ctx id, ?_, fun request hrequest =>
    deletes_of_mem hbase hrules h hrequest⟩, ?_⟩
  · obtain ⟨headers, heq⟩ := exists_deletion?_eq h id
    rw [heq, Option.isSome_map, Option.isSome_iff_exists]
    simp only [join_rulePath_iff hbase hrules, exists_and_left, exists_eq, and_true]
  · intro id id' hid hid' request hrequest request' hrequest' hurl
    have hnames := (deletes_of_mem hbase hrules h hrequest).names.mpr hid
    have hnames' := (deletes_of_mem hbase hrules h hrequest').names.mpr hid'
    exact eq_of_namesRule hnames (hurl ▸ hnames')

/-- Options that make the sample client. -/
def sampleOptions : ClientOptions :=
  ⟨.str "http://rules.test/api/", .str "secret", .int 10, .int 0⟩

/-- Where the sample client finds the rules, and what stands behind them. -/
def sampleRules (behind : String) : Http.Url :=
  ⟨"http".toList, "rules.test".toList, "/api/admin/promotion-rules".toList ++ behind.toList,
    none, none⟩

theorem deletion_names_rule_sample :
    ∃ request, sample.deletion? (sampleContext (.response 204 .empty)) "17" = some request ∧
      request.method = .delete ∧ sample.NamesRule "17" request.url := by
  have hcreate : create .standard sampleOptions = .ok sample := rfl
  have hrules : sample.base.join rulesPath.toList = some (sampleRules "") := by decide
  obtain ⟨-, hsome, hdeletes⟩ := (deletion_names_rule hcreate (by decide) rfl hrules
    (canSend_sample (.response 204 .empty))).1 "17"
  have hjoinable : sample.base.Joinable rulesFront "17".toList :=
    ⟨by simp [Http.Url.isControl], by decide, by unfold Http.Url.Short; decide⟩
  obtain ⟨request, hrequest⟩ := Option.isSome_iff_exists.mp (hsome.mpr hjoinable)
  have hrule := hdeletes request hrequest
  exact ⟨request, hrequest, hrule.method,
    hrule.names.mpr ⟨by decide, by decide, by decide, by decide, by decide, by decide⟩⟩

/-- Ids with the same address have the same request. -/
lemma deletion?_congr {id' : String} (h : c.base.join (rulePath (.str id)).toList =
    c.base.join (rulePath (.str id')).toList) : c.deletion? ctx id = c.deletion? ctx id' := by
  simp only [deletion?, callRequest, request?, h]

/-- The request for an id with a number sign is that for the text in front of it and names no rule
of that id, and dots in an id lead to another endpoint. -/
theorem deletions_astray :
    (∃ request, sample.deletion? (sampleContext (.response 204 .empty)) "7#1" = some request ∧
      sample.deletion? (sampleContext (.response 204 .empty)) "7" = some request ∧
      ¬ sample.NamesRule "7#1" request.url) ∧
    ∃ request,
      sample.deletion? (sampleContext (.response 204 .empty)) "../../evaluate" = some request ∧
        sample.base.join evaluatePath.toList = some request.url := by
  have hsend := canSend_sample (.response 204 .empty)
  have hseven : sample.base.join (rulePath (.str "7")).toList = some (sampleRules "/7") := by decide
  have hsign : sample.base.join (rulePath (.str "7#1")).toList = some (sampleRules "/7") := by
    decide
  have hdots : sample.base.join (rulePath (.str "../../evaluate")).toList =
      sample.base.join evaluatePath.toList := by
    decide
  constructor
  · obtain ⟨headers, heq⟩ := exists_deletion?_eq hsend "7"
    rw [hseven] at heq
    refine ⟨_, (deletion?_congr (hsign.trans hseven.symm)).trans heq, heq, ?_⟩
    rintro ⟨-, segment, hpath, -, hbytes⟩
    have hpath' : sample.base.rawPath ++ rulesFront ++ "7".toList =
        sample.base.rawPath ++ rulesFront ++ segment := hpath
    have hsegment := List.append_cancel_left hpath'
    rw [← hsegment] at hbytes
    exact absurd hbytes (by decide)
  · obtain ⟨headers, heq⟩ := exists_deletion?_eq hsend "../../evaluate"
    obtain ⟨url, hurl⟩ : ∃ url, sample.base.join evaluatePath.toList = some url := ⟨_, rfl⟩
    rw [hdots, hurl] at heq
    exact ⟨_, heq, hurl⟩

end Promotion.Client
