import Promotion.Proofs.Http.Escapes
import Promotion.Proofs.Http.Scheme

/-! References behind a base address, whatever they hold: the text behind a number sign is left out,
the text behind the first question mark is a query, and dot segments take segments away. -/
namespace Promotion.Http.Url
variable {u base url : Url} {p : Char → Bool} {path w cs : List Char} {pieces : List (List Char)}

/-! ### Cutting -/

lemma cutAt_append (h : ∀ c ∈ w, p c = false) (cs : List Char) :
    cutAt p (w ++ cs) = (w ++ (cutAt p cs).1, (cutAt p cs).2) := by
  have hkeep : ∀ c ∈ w, (!p c) = true := fun c hc => by rw [h c hc]; rfl
  unfold cutAt
  rw [List.dropWhile_append_of_pos hkeep, List.takeWhile_append_of_pos hkeep]
  cases cs.dropWhile fun c => !p c <;> rfl

lemma fst_cutAt (p : Char → Bool) (cs : List Char) :
    (cutAt p cs).1 = cs.takeWhile fun c => !p c := by
  unfold cutAt
  split <;> rfl

lemma forall_mem_fst_cutAt {c : Char} (h : c ∈ (cutAt p cs).1) : c ∈ cs ∧ p c = false := by
  rw [fst_cutAt] at h
  exact ⟨(List.takeWhile_prefix _).subset h, by simpa using List.mem_takeWhile_imp h⟩

/-! ### Segments of encoded paths -/

lemma segments_of_not_mem (h : '/' ∉ cs) : segments cs = [cs] := by
  rw [segments_eq_splitOn, List.splitOn_eq_singleton h]

lemma segments_intercalate (hne : pieces ≠ []) (h : ∀ s ∈ pieces, '/' ∉ s) :
    segments (List.intercalate ['/'] pieces) = pieces := by
  rw [segments_eq_splitOn, List.splitOn_intercalate '/' h hne]

lemma segments_append_of_not_mem (h : '/' ∉ w) (cs : List Char) :
    segments (w ++ '/' :: cs) = w :: segments cs := by
  rw [segments_append, segments_of_not_mem h, List.singleton_append]

/-- Induction over the segments of a text. -/
lemma segments_induction {motive : List Char → Prop} (last : ∀ w, '/' ∉ w → motive w)
    (front : ∀ w cs, '/' ∉ w → motive cs → motive (w ++ '/' :: cs)) (cs : List Char) :
    motive cs := by
  induction hn : cs.length using Nat.strong_induction_on generalizing cs with
  | _ n ih =>
    by_cases h : '/' ∈ cs
    · obtain ⟨w, rest, rfl, hw⟩ := List.eq_append_cons_of_mem h
      refine front w rest hw (ih rest.length ?_ rest rfl)
      simp only [List.length_append, List.length_cons] at hn
      omega
    · exact last cs h

lemma slash_not_mem_of_mem_segments {s : List Char} (h : s ∈ segments cs) : '/' ∉ s := by
  induction cs using segments_induction with
  | last w hw =>
    rw [segments_of_not_mem hw, List.mem_singleton] at h
    exact h ▸ hw
  | front w cs hw ih =>
    rw [segments_append_of_not_mem hw] at h
    obtain rfl | h := List.mem_cons.mp h
    · exact hw
    · exact ih h

lemma mem_of_mem_segments {s : List Char} {c : Char} (hs : s ∈ segments cs) (hc : c ∈ s) :
    c ∈ cs := by
  induction cs using segments_induction with
  | last w hw =>
    rw [segments_of_not_mem hw, List.mem_singleton] at hs
    exact hs ▸ hc
  | front w cs hw ih =>
    rw [segments_append_of_not_mem hw] at hs
    obtain rfl | hs := List.mem_cons.mp hs
    · exact List.mem_append_left _ hc
    · exact List.mem_append_right _ (List.mem_cons_of_mem _ (ih hs))

lemma slash_not_mem_percentEncode (h : '/' ∉ w) : '/' ∉ percentEncode pathSafe w := by
  intro hslash
  obtain ⟨hw, -⟩ | hc | hc := mem_percentEncode hslash
  · exact h hw
  · exact absurd hc (by decide)
  · exact absurd hc (by decide)

lemma percentEncode_append_slash (w cs : List Char) : percentEncode pathSafe (w ++ '/' :: cs) =
    percentEncode pathSafe w ++ '/' :: percentEncode pathSafe cs := by
  have hslash : percentChar pathSafe '/' = ['/'] := percentChar_of_safe (by decide)
  simp only [percentEncode, List.flatMap_append, List.flatMap_cons, hslash, List.singleton_append]

lemma segments_percentEncode (cs : List Char) :
    segments (percentEncode pathSafe cs) = (segments cs).map (percentEncode pathSafe) := by
  induction cs using segments_induction with
  | last w hw =>
    rw [segments_of_not_mem hw, segments_of_not_mem (slash_not_mem_percentEncode hw)]
    rfl
  | front w cs hw ih =>
    rw [percentEncode_append_slash, segments_append_of_not_mem (slash_not_mem_percentEncode hw),
      segments_append_of_not_mem hw, ih, List.map_cons]

/-! ### Resolved paths -/

lemma mem_of_mem_drop_resolveStep {done : List (List Char)} {n : Nat} {s t : List Char}
    (h : s ∈ (resolveStep done t).drop n) : s ∈ done.drop n ∨ s = t := by
  unfold resolveStep at h
  split_ifs at h
  · exact .inl h
  · exact .inl h
  · rw [List.dropLast_eq_take, List.drop_take] at h
    exact .inl (List.mem_of_mem_take h)
  · rw [List.drop_append] at h
    obtain h | h := List.mem_append.mp h
    · exact .inl h
    · exact .inr (List.mem_singleton.mp (List.mem_of_mem_drop h))

/-- What stands behind the segments that were there first came with the new ones. -/
lemma mem_of_mem_drop_foldl {done : List (List Char)} {n : Nat} {s : List Char}
    (h : s ∈ (pieces.foldl resolveStep done).drop n) : s ∈ done.drop n ∨ s ∈ pieces := by
  induction pieces generalizing done with
  | nil => exact .inl h
  | cons t pieces ih =>
    obtain h | h := ih h
    · exact (mem_of_mem_drop_resolveStep h).imp_right fun h => by
        rw [h]
        exact List.mem_cons_self
    · exact .inr (List.mem_cons_of_mem _ h)

/-- Resolving leaves no dot segments. -/
lemma foldl_resolveStep_ne {done : List (List Char)}
    (h : ∀ s ∈ done, s ≠ ['.'] ∧ s ≠ ['.', '.']) :
    ∀ s ∈ pieces.foldl resolveStep done, s ≠ ['.'] ∧ s ≠ ['.', '.'] := by
  induction pieces generalizing done with
  | nil => exact h
  | cons t pieces ih =>
    refine ih fun s hs => ?_
    unfold resolveStep at hs
    split_ifs at hs with hdot hdots
    · exact h s hs
    · exact h s hs
    · exact h s ((List.dropLast_sublist done).subset hs)
    · obtain hs | hs := List.mem_append.mp hs
      · exact h s hs
      · rw [List.mem_singleton.mp hs]
        exact ⟨hdot, hdots⟩

/-- The segments of a resolved path. -/
lemma segments_resolveDots (path : List Char) :
    segments (resolveDots path) = [[]] ∨
      segments (resolveDots path) = (segments path).foldl resolveStep [] := by
  unfold resolveDots
  by_cases hnil : (segments path).foldl resolveStep [] = []
  · rw [hnil]
    exact .inl rfl
  · refine .inr (segments_intercalate hnil fun s hs => ?_)
    have hs : s ∈ ((segments path).foldl resolveStep []).drop 0 := hs
    exact slash_not_mem_of_mem_segments ((mem_of_mem_drop_foldl hs).resolve_left (by simp))

lemma noDots_resolveDots (path : List Char) : NoDots (resolveDots path) := by
  unfold NoDots
  obtain h | h := segments_resolveDots path
  · simp [h]
  · rw [h]
    exact foldl_resolveStep_ne (by simp)

lemma mem_intercalate {c : Char} (h : c ∈ List.intercalate ['/'] pieces) :
    c = '/' ∨ ∃ s ∈ pieces, c ∈ s := by
  induction pieces with
  | nil => cases h
  | cons s pieces ih =>
    cases pieces with
    | nil => exact .inr ⟨s, List.mem_cons_self, by simpa using h⟩
    | cons t pieces =>
      simp only [List.intercalate_cons_cons, List.mem_append, List.mem_singleton] at h
      obtain (h | h) | h := h
      · exact .inr ⟨s, List.mem_cons_self, h⟩
      · exact .inl h
      · exact (ih h).imp_right fun ⟨r, hr, hc⟩ => ⟨r, List.mem_cons_of_mem _ hr, hc⟩

lemma safe_resolveDots (h : ∀ c ∈ path, pathSafe c) : ∀ c ∈ resolveDots path, pathSafe c := by
  intro c hc
  obtain rfl | ⟨s, hs, hc⟩ := mem_intercalate hc
  · decide
  · have hs : s ∈ ((segments path).foldl resolveStep []).drop 0 := hs
    exact h c (mem_of_mem_segments ((mem_of_mem_drop_foldl hs).resolve_left (by simp)) hc)

/-- A text stays as it is, or a percent sign comes into it. -/
lemma percentEncode_eq_self_or (safe : Char → Bool) (cs : List Char) :
    percentEncode safe cs = cs ∨ '%' ∈ percentEncode safe cs := by
  by_cases h : ∀ c ∈ cs, safe c
  · exact .inl (percentEncode_of_safe h)
  · obtain ⟨c, hc, hunsafe⟩ : ∃ c ∈ cs, ¬ safe c := by simpa using h
    obtain ⟨rest, hrest⟩ := exists_percentChar_of_not_safe hunsafe
    exact .inr (List.mem_flatMap.mpr ⟨c, hc, hrest ▸ List.mem_cons_self⟩)

lemma NoDots.percentEncode (h : NoDots path) : NoDots (percentEncode pathSafe path) := by
  unfold NoDots
  rw [segments_percentEncode]
  intro s hs
  obtain ⟨t, ht, rfl⟩ := List.mem_map.mp hs
  obtain heq | hpercent := percentEncode_eq_self_or pathSafe t
  · rw [heq]
    exact h t ht
  · constructor <;> intro heq <;> rw [heq] at hpercent <;> exact absurd hpercent (by decide)

lemma written_percentEncode_resolveDots (path : List Char) :
    Written (percentEncode pathSafe (resolveDots path)) where
  safe _ hc := pathSafe_of_mem_percentEncode hc
  noDots := (noDots_resolveDots path).percentEncode

/-! ### References behind a base address -/

/-- Path and query in one, as they stand in a request. -/
def inOne (path : List Char) (query : Option (List Char)) : List Char :=
  path ++ query.elim [] ('?' :: ·)

/-- Parts of an address of which none is too long. -/
def Short (parts : List (List Char)) : Prop := ∀ part ∈ parts, part.length ≤ maxLength

lemma cutAt_inOne (hpath : ∀ c ∈ path, pathSafe c) (query : Option (List Char)) :
    cutAt (· == '?') (inOne path query) = (path, query) := by
  have hfree : ∀ c ∈ path, (c == '?') = false := by
    intro c hc
    by_contra hquestion
    have hc' : c = '?' := by simpa using hquestion
    exact absurd (hc' ▸ hpath c hc) (by decide)
  unfold inOne
  rw [cutAt_append hfree]
  cases query with
  | none => simp [cutAt]
  | some query => simp [cutAt]

/-- A path in safe characters and a query, set behind a scheme. -/
lemma withRawPath_inOne (hscheme : u.scheme ≠ []) (hpath : ∀ c ∈ path, pathSafe c)
    (query : Option (List Char)) :
    u.withRawPath (inOne path query) = some url ↔
      Short [u.scheme, u.authority, path, query.getD [], u.fragment.getD []] ∧
        ∃ authority, authorityText u.scheme u.authority = some authority ∧
          url = ⟨u.scheme, authority, resolveDots path, query.map (percentEncode querySafe),
            u.fragment⟩ := by
  have hshort : ([u.scheme, u.authority, path, query.getD [], u.fragment.getD []].any fun part =>
      decide (maxLength < part.length)) = true ↔
      ¬ Short [u.scheme, u.authority, path, query.getD [], u.fragment.getD []] := by
    simp only [Short, List.any_eq_true, decide_eq_true_eq, not_forall, Nat.not_le, exists_prop]
  have habs : (!u.scheme.isEmpty) = true := by simpa [List.isEmpty_iff] using hscheme
  unfold withRawPath
  rw [cutAt_inOne hpath]
  simp only [withParts, Option.ite_none_left_eq_some, hshort, not_not, Option.bind_eq_some_iff,
    ofParts, habs, Bool.true_or, if_true, Bool.not_true, Bool.false_and, Bool.false_eq_true,
    if_false, percentEncode_of_safe (safe_resolveDots hpath), Option.some.injEq, eq_comm (b := url)]

/-- A base address with a scheme and without a query, whose path is `front` and a slash. -/
structure Rooted (base : Url) (front : List Char) : Prop where
  scheme : base.scheme ≠ []
  noQuery : base.query = none
  written : Written front
  rawPath : base.rawPath = front ++ ['/']

/-- The path that a reference holds, up to a number sign or a question mark. -/
def pathPart (cs : List Char) : List Char := (cutAt (· == '?') (cutAt (· == '#') cs).1).1

/-- The query that a reference holds, up to a number sign. -/
def queryPart (cs : List Char) : Option (List Char) := (cutAt (· == '?') (cutAt (· == '#') cs).1).2

lemma not_isControl_of_pathSafe {c : Char} (h : pathSafe c) : isControl c = false := by
  simp only [pathSafe, querySafe, isVisible, Bool.and_eq_true, decide_eq_true_eq] at h
  simp only [isControl, Bool.or_eq_false_iff, decide_eq_false_iff_not]
  omega

lemma beq_of_pathSafe {c d : Char} (h : pathSafe c) (hd : ¬ pathSafe d) : (c == d) = false := by
  by_contra heq
  have hcd : c = d := by simpa using heq
  exact hd (hcd ▸ h)

/-- A reference behind the root, of a fixed beginning in safe characters and any rest. -/
lemma ofChars?_eq_some_iff {first : Char} {fixed rest : List Char} {reference : Url}
    (hfirst : first ≠ '/') (hfixed : ∀ c ∈ first :: fixed, pathSafe c) :
    ofChars? ('/' :: first :: fixed ++ rest) = some reference ↔
      (∀ c ∈ rest, isControl c = false) ∧
        ('/' :: first :: fixed ++ rest).length ≤ maxLength ∧
        reference = ⟨[], [], '/' :: first :: fixed ++ percentEncode pathSafe (pathPart rest),
          (queryPart rest).map (percentEncode querySafe),
          (cutAt (· == '#') rest).2.map (percentEncode fragmentSafe)⟩ := by
  have hsafe : ∀ c ∈ '/' :: first :: fixed, pathSafe c := by
    intro c hc
    obtain rfl | hc := List.mem_cons.mp hc
    · decide
    · exact hfixed c hc
  have hcut {d : Char} (hd : ¬ pathSafe d) (cs : List Char) :
      cutAt (· == d) ('/' :: first :: fixed ++ cs) =
        ('/' :: first :: fixed ++ (cutAt (· == d) cs).1, (cutAt (· == d) cs).2) :=
    cutAt_append (fun c hc => beq_of_pathSafe (hsafe c hc) hd) cs
  have hscheme : splitScheme ('/' :: first :: fixed ++ rest) =
      ([], '/' :: first :: fixed ++ rest) := by
    simp [splitScheme]
  have hauthority : splitAuthority ('/' :: first :: fixed ++ rest) =
      ([], '/' :: first :: fixed ++ rest) := by
    simp [splitAuthority, hfirst]
  have hnone : authorityText [] [] = some [] := rfl
  have hencode (cs : List Char) : percentEncode pathSafe ('/' :: first :: fixed ++ cs) =
      '/' :: first :: fixed ++ percentEncode pathSafe cs := by
    rw [percentEncode, List.flatMap_append]
    exact congrArg (· ++ _) (percentEncode_of_safe hsafe)
  have hcontrol : ('/' :: first :: fixed ++ rest).any isControl = false ↔
      ∀ c ∈ rest, isControl c = false := by
    simp only [List.any_append, Bool.or_eq_false_iff, List.any_eq_false, Bool.not_eq_true,
      and_iff_right_iff_imp]
    exact fun _ c hc => not_isControl_of_pathSafe (hsafe c hc)
  have hrelative : ("//".toList.isPrefixOf ('/' :: first :: fixed ++
      percentEncode pathSafe (pathPart rest)) || ":".toList.isPrefixOf ('/' :: first :: fixed ++
      percentEncode pathSafe (pathPart rest))) = false := by
    simp [List.isPrefixOf, Ne.symm hfirst]
  unfold ofChars?
  simp only [hscheme, hauthority, hcut (by decide : ¬ pathSafe '#'),
    hcut (by decide : ¬ pathSafe '?'), hnone, Option.bind_some, ofParts, List.isEmpty_nil,
    Bool.not_true, Bool.or_false, Bool.false_eq_true, if_false, Bool.not_false, Bool.true_and]
  rw [hencode]
  change (if _ then none else if (_ || _) = true then none else some _) = some reference ↔ _
  simp only [pathPart] at hrelative
  simp only [hrelative, Bool.false_eq_true, if_false, Option.ite_none_left_eq_some,
    Bool.or_eq_true, decide_eq_true_eq, not_or, Bool.not_eq_true, hcontrol, Nat.not_lt, and_assoc]
  rw [Option.some.injEq, eq_comm (b := reference)]
  rfl

lemma NoDots.of_append {p q : List Char} (h : NoDots (p ++ '/' :: q)) : NoDots p := by
  intro s hs
  exact h s (by rw [segments_append]; exact List.mem_append_left _ hs)

lemma Written.of_append {p q : List Char} (h : Written (p ++ '/' :: q)) : Written p :=
  ⟨fun c hc => h.safe c (List.mem_append_left _ hc), h.noDots.of_append⟩

lemma written_of_ofChars? (h : ofChars? cs = some u) (hscheme : u.scheme ≠ []) :
    Written u.path := by
  simp only [ofChars?, Option.ite_none_left_eq_some, Option.bind_eq_some_iff] at h
  obtain ⟨-, authority, -, h⟩ := h
  have hu := scheme_ofParts h
  simp only [ofParts, Option.ite_none_left_eq_some, Option.some.injEq] at h
  rw [← h.2, ← hu]
  have habs : (!u.scheme.isEmpty) = true := by simpa [List.isEmpty_iff] using hscheme
  simp only [habs, Bool.true_or, if_true]
  exact written_percentEncode_resolveDots _

/-- A base address that was read with a scheme and without a query. -/
lemma exists_rooted (hu : ofChars? cs = some u) (hbase : u.asBase = some base)
    (hscheme : base.scheme ≠ []) (hquery : base.query = none) : ∃ front, base.Rooted front := by
  have huscheme : u.scheme ≠ [] := scheme_asBase hbase ▸ hscheme
  obtain ⟨path, hpath, hraw⟩ : ∃ path, Written path ∧ u.rawPath = inOne path u.query := by
    refine ⟨if u.path.isEmpty then ['/'] else u.path, ?_, ?_⟩
    · split
      · exact written_nil.append written_nil
      · exact written_of_ofChars? hu huscheme
    · unfold Url.rawPath inOne
      cases u.query <;> rfl
  unfold asBase at hbase
  split at hbase
  · next hslash =>
    cases Option.some.inj hbase
    obtain ⟨front, hfront⟩ := List.isSuffixOf_iff_suffix.mp hslash
    have hone : inOne path u.query = path := by
      rw [hquery]
      exact List.append_nil path
    have heq : path = front ++ ['/'] := hone.symm.trans (hraw.symm.trans hfront.symm)
    exact ⟨front, hscheme, hquery, (heq ▸ hpath).of_append, hfront.symm⟩
  · cases huquery : u.query with
    | some query =>
      have hraw' : u.rawPath ++ ['/'] = inOne path (some (query ++ ['/'])) := by
        rw [hraw, huquery]
        simp [inOne]
      rw [hraw', withRawPath_inOne huscheme hpath.safe] at hbase
      obtain ⟨-, authority, -, rfl⟩ := hbase
      cases hquery
    | none =>
      have hwritten := hpath.append written_nil
      have hraw' : u.rawPath ++ ['/'] = inOne (path ++ ['/']) none := by
        rw [hraw, huquery]
        simp [inOne]
      rw [hraw', withRawPath_inOne huscheme hwritten.safe, hwritten.noDots.resolveDots_eq] at hbase
      obtain ⟨-, authority, -, rfl⟩ := hbase
      exact ⟨path, huscheme, rfl, hpath, by simp [Url.rawPath]⟩

/-- What an address behind a base address can be made of: no control characters, and nothing that
is too long. -/
structure Joinable (base : Url) (fixed rest : List Char) : Prop where
  control : ∀ c ∈ rest, isControl c = false
  reference : ('/' :: fixed ++ rest).length ≤ maxLength
  parts : Short [base.scheme, base.authority,
    base.rawPath ++ fixed ++ percentEncode pathSafe (pathPart rest),
    ((queryPart rest).map (percentEncode querySafe)).getD [], base.fragment.getD []]

lemma Rooted.safe_rawPath {front : List Char} (h : base.Rooted front) :
    ∀ c ∈ base.rawPath, pathSafe c := by
  rw [h.rawPath, List.forall_mem_append]
  exact ⟨h.written.safe, by simp [pathSafe, querySafe, isVisible]⟩

/-- A query that is encoded already is left as it is. -/
lemma encodeQuery_twice (query : Option (List Char)) :
    (query.map (percentEncode querySafe)).map (percentEncode querySafe) =
      query.map (percentEncode querySafe) := by
  cases query with
  | none => rfl
  | some q =>
    exact congrArg some (percentEncode_of_safe fun c hc => querySafe_of_mem_percentEncode hc)

/-- The address of any reference with a fixed beginning behind a base address. -/
theorem Rooted.join_eq_some_iff {front fixed rest : List Char} (hbase : base.Rooted front)
    (hfirst : ∃ first ∈ fixed.head?, first ≠ '/') (hfixed : ∀ c ∈ fixed, pathSafe c) :
    base.join ('/' :: fixed ++ rest) = some url ↔
      base.Joinable fixed rest ∧
        ∃ authority, authorityText base.scheme base.authority = some authority ∧
          url = ⟨base.scheme, authority,
            resolveDots (base.rawPath ++ fixed ++ percentEncode pathSafe (pathPart rest)),
            (queryPart rest).map (percentEncode querySafe), base.fragment⟩ := by
  obtain ⟨first, hhead, hfirst⟩ := hfirst
  obtain ⟨fixed, rfl⟩ := List.head?_eq_some_iff.mp hhead
  have hsafe : ∀ c ∈ base.rawPath ++ first :: fixed ++ percentEncode pathSafe (pathPart rest),
      pathSafe c := by
    simp only [List.forall_mem_append]
    exact ⟨⟨hbase.safe_rawPath, hfixed⟩, fun c hc => pathSafe_of_mem_percentEncode hc⟩
  -- Behind the slash of the base stands the reference without its own.
  have hraw (fragment : Option (List Char)) : base.rawPath ++
      (⟨[], [], '/' :: first :: fixed ++ percentEncode pathSafe (pathPart rest),
        (queryPart rest).map (percentEncode querySafe), fragment⟩ : Url).rawPath.dropWhile
          (· == '/') =
      inOne (base.rawPath ++ first :: fixed ++ percentEncode pathSafe (pathPart rest))
        ((queryPart rest).map (percentEncode querySafe)) := by
    rw [Url.rawPath.eq_def ⟨[], [], _, _, _⟩]
    unfold inOne
    cases queryPart rest <;> simp [hfirst]
  unfold join
  simp only [Option.bind_eq_some_iff, ofChars?_eq_some_iff hfirst hfixed]
  constructor
  · rintro ⟨reference, ⟨hcontrol, hlength, rfl⟩, hjoin⟩
    rw [hraw, withRawPath_inOne hbase.scheme hsafe, encodeQuery_twice] at hjoin
    exact ⟨⟨hcontrol, hlength, hjoin.1⟩, hjoin.2⟩
  · rintro ⟨⟨hcontrol, hlength, hparts⟩, hauthority⟩
    refine ⟨_, ⟨hcontrol, hlength, rfl⟩, ?_⟩
    rw [hraw, withRawPath_inOne hbase.scheme hsafe, encodeQuery_twice]
    exact ⟨hparts, hauthority⟩

/-! ### A single segment -/

/-- A text that can stand in a path as a single segment and spells itself there. -/
structure Addressable (cs : List Char) : Prop where
  slash : '/' ∉ cs
  question : '?' ∉ cs
  number : '#' ∉ cs
  escape : hasEscape cs = false
  dot : cs ≠ ['.']
  dots : cs ≠ ['.', '.']

lemma length_segments_pos (cs : List Char) : 0 < (segments cs).length :=
  List.length_pos_iff.mpr (segments_ne_nil cs)

/-- If just one segment is left of a path behind another one, all the others were dots. -/
lemma foldl_eq_of_resolveDots_eq {front seg : List Char} (hfront : NoDots front)
    (hseg : '/' ∉ seg) (h : resolveDots (front ++ '/' :: path) = front ++ '/' :: seg) :
    (segments path).foldl resolveStep (segments front) = segments front ++ [seg] := by
  have hresolve := segments_resolveDots (front ++ '/' :: path)
  rw [h, segments_append, segments_append, segments_of_not_mem hseg, List.foldl_append,
    foldl_resolveStep hfront, List.nil_append] at hresolve
  obtain hone | heq := hresolve
  · have hlength := congrArg List.length hone
    have hpos := length_segments_pos front
    simp only [List.length_append, List.length_singleton] at hlength
    omega
  · exact heq.symm

lemma mem_segments_length {s : List Char} (h : s ∈ segments cs) :
    s = cs ∨ (utf8Bytes s).length < (utf8Bytes cs).length := by
  have hpos := length_utf8EncodeChar_pos '/'
  induction cs using segments_induction with
  | last w hw =>
    rw [segments_of_not_mem hw] at h
    exact .inl (List.mem_singleton.mp h)
  | front w cs hw ih =>
    rw [segments_append_of_not_mem hw] at h
    simp only [utf8Bytes_append, utf8Bytes_cons, List.length_append]
    obtain rfl | h := List.mem_cons.mp h
    · exact .inr (by omega)
    · obtain rfl | hlt := ih h <;> exact .inr (by omega)

lemma prefix_length {s : List Char} (h : s <+: cs) :
    s = cs ∨ (utf8Bytes s).length < (utf8Bytes cs).length := by
  obtain ⟨more, rfl⟩ := h
  cases more with
  | nil => exact .inl (List.append_nil s).symm
  | cons c more =>
    have hpos := length_utf8EncodeChar_pos c
    simp only [utf8Bytes_append, utf8Bytes_cons, List.length_append]
    exact .inr (by omega)

lemma pathPart_prefix_self (cs : List Char) : pathPart cs <+: cs := by
  unfold pathPart
  rw [fst_cutAt, fst_cutAt]
  exact (List.takeWhile_prefix _).trans (List.takeWhile_prefix _)

lemma mem_pathPart {c : Char} (h : c ∈ pathPart cs) : c ≠ '?' ∧ c ≠ '#' := by
  obtain ⟨h, hquestion⟩ := forall_mem_fst_cutAt h
  obtain ⟨-, hnumber⟩ := forall_mem_fst_cutAt h
  exact ⟨by simpa using hquestion, by simpa using hnumber⟩

lemma length_resolveStep_of_dots {done : List (List Char)} {s : List Char}
    (h : s = ['.'] ∨ s = ['.', '.']) : (resolveStep done s).length ≤ done.length := by
  unfold resolveStep
  split_ifs with hdot hdots hroot
  · exact Nat.le_refl _
  · exact Nat.le_refl _
  · simp
  · exact absurd h (not_or.mpr ⟨hdot, hdots⟩)

/-- The bytes of a text leave no room for a segment shorter than the text. -/
lemma eq_of_mem_segments_pathPart {t : List Char} (ht : t ∈ segments (pathPart cs))
    (hlength : (utf8Bytes cs).length ≤ (utf8Bytes t).length) : t = cs ∧ pathPart cs = cs := by
  obtain heq | hlt := mem_segments_length ht
  · obtain heq' | hlt' := prefix_length (pathPart_prefix_self cs)
    · exact ⟨heq.trans heq', heq'⟩
    · rw [heq] at hlength
      omega
  · obtain heq' | hlt' := prefix_length (pathPart_prefix_self cs)
    · rw [heq'] at hlt
      omega
    · omega

/-- Only an addressable text is spelled by a single segment. -/
lemma addressable_of_segment {front seg : List Char} (hfront : NoDots front) (hseg : '/' ∉ seg)
    (hpath : resolveDots (front ++ '/' :: percentEncode pathSafe (pathPart cs)) =
      front ++ '/' :: seg) (hspelled : percentBytes seg = utf8Bytes cs) : Addressable cs := by
  have hfold := foldl_eq_of_resolveDots_eq hfront hseg hpath
  have hmem : seg ∈ segments (percentEncode pathSafe (pathPart cs)) := by
    have hdrop : seg ∈ ((segments (percentEncode pathSafe (pathPart cs))).foldl resolveStep
        (segments front)).drop (segments front).length := by
      rw [hfold, List.drop_left]
      exact List.mem_singleton_self seg
    exact (mem_of_mem_drop_foldl hdrop).resolve_left (by simp)
  rw [segments_percentEncode] at hmem
  obtain ⟨t, ht, rfl⟩ := List.mem_map.mp hmem
  have hlength : (utf8Bytes cs).length ≤ (utf8Bytes t).length :=
    (congrArg List.length hspelled).symm.le.trans (length_spelled_le t)
  obtain ⟨htcs, hpathcs⟩ := eq_of_mem_segments_pathPart ht hlength
  have hslash := slash_not_mem_of_mem_segments ht
  subst htcs
  have hnodot : ¬ (t = ['.'] ∨ t = ['.', '.']) := by
    intro hdots
    have hencode : percentEncode pathSafe t = t := by
      obtain rfl | rfl := hdots <;> decide
    rw [hpathcs, hencode, segments_of_not_mem hslash, List.foldl_cons, List.foldl_nil] at hfold
    have hless : (resolveStep (segments front) t).length ≤ (segments front).length :=
      length_resolveStep_of_dots hdots
    rw [hfold, List.length_append, List.length_singleton] at hless
    omega
  have hfree {c : Char} (hc : c ∈ t) : c ≠ '?' ∧ c ≠ '#' := mem_pathPart (hpathcs.symm ▸ hc)
  exact {
    slash := hslash
    question := fun hc => (hfree hc).1 rfl
    number := fun hc => (hfree hc).2 rfl
    escape := spelled_eq_iff.mp hspelled
    dot := fun hdot => hnodot (.inl hdot)
    dots := fun hdots => hnodot (.inr hdots) }

/-- Exactly the addressable texts come out as a single segment that spells them. -/
theorem exists_segment_iff {front : List Char} (hfront : NoDots front) :
    (queryPart cs = none ∧ ∃ seg,
      resolveDots (front ++ '/' :: percentEncode pathSafe (pathPart cs)) = front ++ '/' :: seg ∧
        '/' ∉ seg ∧ percentBytes seg = utf8Bytes cs) ↔ Addressable cs := by
  constructor
  · rintro ⟨-, seg, hpath, hseg, hspelled⟩
    exact addressable_of_segment hfront hseg hpath hspelled
  · intro h
    have hnumber : cutAt (· == '#') cs = (cs, none) :=
      cutAt_of_forall fun c hc => by simpa using fun heq : c = '#' => h.number (heq ▸ hc)
    have hquestion : cutAt (· == '?') cs = (cs, none) :=
      cutAt_of_forall fun c hc => by simpa using fun heq : c = '?' => h.question (heq ▸ hc)
    have hpath : pathPart cs = cs := by simp only [pathPart, hnumber, hquestion]
    have hquery : queryPart cs = none := by simp only [queryPart, hnumber, hquestion]
    have hdots : NoDots cs := by
      unfold NoDots
      rw [segments_of_not_mem h.slash]
      simpa using ⟨h.dot, h.dots⟩
    refine ⟨hquery, percentEncode pathSafe cs, ?_, slash_not_mem_percentEncode h.slash,
      spelled_eq_iff.mpr h.escape⟩
    rw [hpath, (hfront.append hdots.percentEncode).resolveDots_eq]

end Promotion.Http.Url
