import Promotion.Proofs.Settings.Reading

/-! Settings read a second time. Every check lets its own results through as they are, but for the
check of the address: it keeps too little of one with nothing but slashes behind its scheme. -/
namespace Promotion.Settings
variable {α : Type} {fields given : Fields} {environment : List (String × String)} {s : Settings}
  {key : String} {check : Json → Checked α} {toJson' : α → Json} {fallback a : α}

/-- The values of settings under their names. -/
def stored (s : Settings) : Fields := s.toJson.fields?.getD []

/-- A check lets its own results through as they are. -/
def Settles (check : Json → Checked α) (toJson' : α → Json) : Prop :=
  ∀ json a, check json = .valid a → check (toJson' a) = .valid a

/-- A setting passes again that passed its check, or that has a standard value that does. -/
lemma Settles.again (h : Settles check toJson') (hget : s.stored.get? key = some (toJson' a))
    (hfallback : check (toJson' fallback) = .valid fallback)
    (hpassed : Check.optional fields key fallback check = .valid a) :
    Check.optional s.stored key fallback check = .valid a := by
  refine Check.optional_eq_valid_iff.mpr (.inl ⟨toJson' a, hget, ?_⟩)
  rcases Check.optional_eq_valid_iff.mp hpassed with ⟨json, -, hjson⟩ | ⟨-, rfl⟩
  · exact h json a hjson
  · exact hfallback

/-! ### The checks -/

lemma settles_text : Settles Check.text .str := fun _ _ _ => rfl

lemma settles_truth : Settles Check.truth .bool := fun _ _ _ => rfl

lemma settles_token : Settles (Check.orNull Check.text) (Json.ofOption .str) := by
  intro json a _
  cases a <;> rfl

lemma settles_environment : Settles checkEnvironment fun e => .str e.word := by
  intro json e _
  cases e <;> rfl

lemma settles_level : Settles checkLevel .str := by
  intro json name h
  have hmem := mem_of_checkLevel h
  simp only [levelNames, List.mem_cons, List.not_mem_nil, or_false] at hmem
  rcases hmem with rfl | rfl | rfl | rfl | rfl <;> rfl

lemma settles_double : Settles (fun json => (Check.double json).map .real) Amount.toJson := by
  intro json a h
  cases hdouble : Check.double json with
  | valid x =>
    simp only [hdouble, Checked.map, Checked.valid.injEq] at h
    rw [← h]
    rfl
  | invalid issues => simp [hdouble, Checked.map] at h

/-- A check that adds a bound to a whole number. -/
lemma settles_bounded (low : Int) (text : String) :
    Settles (fun json => (Check.whole json).andThen fun n =>
      if n < low then Checked.reject (.rejected text) else .valid n) .int := by
  intro json n h
  obtain ⟨m, -, hm⟩ := Checked.andThen_eq_valid_iff.mp h
  split at hm
  · cases hm
  · next hlow =>
    obtain rfl := Checked.valid.inj hm
    exact if_neg hlow

/-! ### The address -/

/-- The address begins with one of the schemes of the web and two slashes. -/
def startsWeb (address : String) : Bool :=
  "http://".toList.isPrefixOf address.toList || "https://".toList.isPrefixOf address.toList

/-- The address has something besides slashes behind a scheme of the web. -/
def NamesHost (address : String) : Prop :=
  ∃ start ∈ ["http://", "https://"], ∃ rest,
    address.toList = start.toList ++ rest ∧ ∃ c ∈ rest, c ≠ '/'

lemma checkBaseUrl_str (address : String) : checkBaseUrl (.str address) =
    if startsWeb address then .valid (Text.dropTrailing '/' address)
    else Checked.reject
      (.rejected s!"api_base_url must use http:// or https://, got '{address}'") := rfl

lemma startsWeb_iff {address : String} : startsWeb address = true ↔
    ∃ start ∈ ["http://", "https://"], ∃ rest, address.toList = start.toList ++ rest := by
  simp only [startsWeb, Bool.or_eq_true, List.isPrefixOf_iff_prefix, List.mem_cons,
    List.not_mem_nil, or_false, exists_eq_or_imp, exists_eq_left, List.IsPrefix]
  simp only [eq_comm]

/-- Only slashes are dropped at the end, and all of them. -/
lemma exists_eq_dropTrailing (address : String) :
    ∃ slashes, address.toList = (Text.dropTrailing '/' address).toList ++ slashes ∧
      ∀ c ∈ slashes, c = '/' := by
  refine ⟨(address.toList.reverse.takeWhile (· == '/')).reverse, ?_, fun c hc => ?_⟩
  · rw [Text.dropTrailing, String.toList_ofList, ← List.reverse_append,
      List.takeWhile_append_dropWhile, List.reverse_reverse]
  · simpa using List.mem_takeWhile_imp (List.mem_reverse.mp hc)

lemma getLast?_dropTrailing (address : String) :
    (Text.dropTrailing '/' address).toList.getLast? ≠ some '/' := by
  rw [Text.dropTrailing, String.toList_ofList, List.getLast?_reverse]
  intro hlast
  have hhead := List.head?_dropWhile_not (fun c => c == '/') address.toList.reverse
  rw [hlast] at hhead
  simp at hhead

lemma dropTrailing_of_getLast? {address : String} (h : address.toList.getLast? ≠ some '/') :
    Text.dropTrailing '/' address = address := by
  obtain ⟨slashes, hsplit, hslashes⟩ := exists_eq_dropTrailing address
  cases hlast : slashes.getLast? with
  | none =>
    rw [List.getLast?_eq_none_iff.mp hlast, List.append_nil] at hsplit
    exact String.toList_inj.mp hsplit.symm
  | some c =>
    refine absurd ?_ h
    rw [hsplit, List.getLast?_append, hlast, hslashes c (List.mem_of_getLast? hlast)]
    rfl

/-- Slashes behind an address do not count. -/
lemma dropTrailing_append {address : String} {front slashes : List Char}
    (h : address.toList = front ++ slashes) (hslashes : ∀ c ∈ slashes, c = '/') :
    Text.dropTrailing '/' address = Text.dropTrailing '/' (String.ofList front) := by
  unfold Text.dropTrailing
  rw [h, List.reverse_append, String.toList_ofList,
    List.dropWhile_append_of_pos fun c hc => by simp [hslashes c (List.mem_reverse.mp hc)]]

/-- What is left of an address is one of the web again if the address goes on with more than
slashes behind its scheme. -/
lemma startsWeb_dropTrailing_iff {address : String} :
    startsWeb (Text.dropTrailing '/' address) = true ↔ NamesHost address := by
  obtain ⟨slashes, hsplit, hslashes⟩ := exists_eq_dropTrailing address
  have hlast := getLast?_dropTrailing address
  rw [startsWeb_iff]
  constructor
  · rintro ⟨start, hstart, host, hhost⟩
    refine ⟨start, hstart, host ++ slashes, by rw [hsplit, hhost, List.append_assoc], ?_⟩
    rw [hhost, List.getLast?_append] at hlast
    cases hc : host.getLast? with
    | none =>
      rw [hc] at hlast
      rcases List.mem_pair.mp hstart with rfl | rfl <;> exact absurd rfl hlast
    | some c =>
      refine ⟨c, List.mem_append_left _ (List.mem_of_getLast? hc), ?_⟩
      rintro rfl
      exact hlast (by rw [hc]; rfl)
  · rintro ⟨start, hstart, rest, haddress, c, hc, hne⟩
    rw [haddress] at hsplit
    rcases List.append_eq_append_iff.mp hsplit with ⟨host, hhost, -⟩ | ⟨more, -, hmore⟩
    · exact ⟨start, hstart, host, hhost⟩
    · exact absurd (hslashes c (hmore ▸ List.mem_append_right _ hc)) hne

/-- Of an address with nothing but slashes behind its scheme, the scheme is left. -/
lemma dropTrailing_of_not_namesHost {address : String} (h : startsWeb address = true)
    (hhost : ¬NamesHost address) : Text.dropTrailing '/' address ∈ ["http:", "https:"] := by
  obtain ⟨start, hstart, rest, haddress⟩ := startsWeb_iff.mp h
  have hrest : ∀ c ∈ rest, c = '/' := by
    intro c hc
    by_contra hne
    exact hhost ⟨start, hstart, rest, haddress, c, hc, hne⟩
  rw [dropTrailing_append haddress hrest]
  rcases List.mem_pair.mp hstart with rfl | rfl <;> decide

/-! ### A second reading -/

/-- Everything passes again but the address, for which there is a check to pass. -/
lemma Passed.again (h : Passed fields s) {address : String}
    (haddress : checkBaseUrl (.str s.apiBaseUrl) = .valid address) :
    Passed s.stored { s with apiBaseUrl := address } where
  environment := settles_environment.again rfl rfl h.environment
  appName := settles_text.again rfl rfl h.appName
  logLevel := settles_level.again rfl rfl h.logLevel
  structuredLogs := settles_truth.again rfl rfl h.structuredLogs
  requestIdHeader := settles_text.again rfl rfl h.requestIdHeader
  apiBaseUrl := Check.optional_eq_valid_iff.mpr (.inl ⟨_, rfl, haddress⟩)
  apiTimeout := settles_double.again rfl rfl h.apiTimeout
  apiToken := settles_token.again rfl rfl h.apiToken
  apiMaxRetries := (settles_bounded 0 _).again rfl rfl h.apiMaxRetries
  defaultSalience := (settles_bounded 1 _).again rfl rfl h.defaultSalience
  maxGraphNodes := (settles_bounded 1 _).again rfl rfl h.maxGraphNodes
  enforceWindow := settles_truth.again rfl rfl h.enforceWindow

/-- The second reading of settings: the environment does not matter, and only the address may
fail. -/
lemma Passed.read_stored (h : Passed fields s) (environment : List (String × String)) :
    (∀ address, checkBaseUrl (.str s.apiBaseUrl) = .valid address →
      read s.stored environment = .ok { s with apiBaseUrl := address }) ∧
    (startsWeb s.apiBaseUrl = false →
      ∃ issues, read s.stored environment = .error (.invalid issues)) := by
  have hgather : gather s.stored environment = s.stored := rfl
  have hword : s.stored.get? "app_env" = some (.str s.environment.word) := rfl
  simp only [read, hgather, hword]
  constructor
  · intro address haddress
    rw [ofFields_eq_valid_iff.mpr (h.again haddress)]
  · intro hweb
    cases hfields : ofFields s.stored with
    | valid t =>
      have hurl := (ofFields_eq_valid_iff.mp hfields).apiBaseUrl
      rcases Check.optional_eq_valid_iff.mp hurl with ⟨json, hget, hcheck⟩ | ⟨hnone, -⟩
      · obtain rfl : Json.str s.apiBaseUrl = json := Option.some.inj hget
        rw [checkBaseUrl_str, hweb] at hcheck
        cases hcheck
      · cases hnone
    | invalid issues => exact ⟨issues, rfl⟩

/-- The address that a reading starts from. -/
def givenAddress (given : Fields) (environment : List (String × String)) : Json :=
  ((gather given environment).get? "api_base_url").getD (.str standard.apiBaseUrl)

/-- The address is the given one without the slashes at its end. -/
lemma exists_givenAddress (h : read given environment = .ok s) :
    ∃ address, givenAddress given environment = .str address ∧ startsWeb address = true ∧
      s.apiBaseUrl = Text.dropTrailing '/' address := by
  rcases Check.optional_eq_valid_iff.mp (passed_of_read h).apiBaseUrl with
    ⟨json, hget, hcheck⟩ | ⟨hnone, hsame⟩
  · obtain ⟨address, htext, -⟩ := Checked.andThen_eq_valid_iff.mp hcheck
    obtain rfl := Check.text_eq_valid_iff.mp htext
    rw [checkBaseUrl_str] at hcheck
    split at hcheck
    · next hweb =>
      exact ⟨address, by rw [givenAddress, hget]; rfl, hweb, (Checked.valid.inj hcheck).symm⟩
    · cases hcheck
  · exact ⟨standard.apiBaseUrl, by rw [givenAddress, hnone]; rfl, rfl, hsame.symm⟩

/-- Settings that were read name one of the levels of a log and an address without a slash at its
end. Read again, in whatever environment, they are the same, if the address that was given goes on
with more than slashes behind its scheme. If it does not, a bare scheme is stored, which is no
address of the web any more and is refused. -/
theorem read_again (h : read given environment = .ok s)
    (environment' : List (String × String)) :
    s.logLevel ∈ levelNames ∧ s.apiBaseUrl.toList.getLast? ≠ some '/' ∧
    ∃ address, givenAddress given environment = .str address ∧
      (startsWeb s.apiBaseUrl = true ↔ NamesHost address) ∧
      (NamesHost address → read s.stored environment' = .ok s) ∧
      (¬NamesHost address → s.apiBaseUrl ∈ ["http:", "https:"] ∧
        ∃ issues, read s.stored environment' = .error (.invalid issues)) := by
  obtain ⟨address, hgiven, hweb, haddress⟩ := exists_givenAddress h
  have hlast : s.apiBaseUrl.toList.getLast? ≠ some '/' := haddress ▸ getLast?_dropTrailing address
  have hstarts : startsWeb s.apiBaseUrl = true ↔ NamesHost address :=
    haddress ▸ startsWeb_dropTrailing_iff
  obtain ⟨hagain, hrefused⟩ := (passed_of_read h).read_stored environment'
  refine ⟨mem_levelNames h, hlast, address, hgiven, hstarts, fun hhost => ?_, fun hhost => ?_⟩
  · refine hagain s.apiBaseUrl ?_
    rw [checkBaseUrl_str, if_pos (hstarts.mpr hhost), dropTrailing_of_getLast? hlast]
  · refine ⟨haddress ▸ dropTrailing_of_not_namesHost hweb hhost, hrefused ?_⟩
    rwa [← Bool.not_eq_true, hstarts]

/-- Values in other forms than those that are stored. -/
def roughSettings : Settings :=
  { standard with environment := .production, logLevel := "WARNING",
                  apiBaseUrl := "https://rules.test/api", maxGraphNodes := 12 }

theorem read_again_rough :
    let given : Fields := [("app_env", .str "Prod"),
      ("api_base_url", .str "https://rules.test/api//"), ("app_log_level", .str " Warning ")]
    read given [("Max_Graph_Nodes", "12")] = .ok roughSettings ∧
      read roughSettings.stored [("APP_ENV", "test")] = .ok roughSettings := by
  intro given
  have hread : read given [("Max_Graph_Nodes", "12")] = .ok roughSettings := by rfl
  obtain ⟨-, -, address, hgiven, -, hagain, -⟩ := read_again hread [("APP_ENV", "test")]
  obtain rfl : "https://rules.test/api//" = address := Json.str.inj hgiven
  exact ⟨hread, hagain
    ⟨"https://", by simp, "rules.test/api//".toList, rfl, 'r', by decide, by decide⟩⟩

/-- Of an address that is a bare scheme the slashes go, too, and what is left is refused. -/
theorem bareScheme_unstable :
    ∃ s, read [("api_base_url", .str "http://")] [] = .ok s ∧ s.apiBaseUrl = "http:" ∧
      startsWeb s.apiBaseUrl = false ∧ ∃ issues, read s.stored [] = .error (.invalid issues) :=
  ⟨{ standard with apiBaseUrl := "http:" }, rfl, rfl, rfl, _, rfl⟩

end Promotion.Settings
