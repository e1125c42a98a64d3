import Mathlib.Data.List.TakeWhile
import Promotion.Http.Url

/-! Addresses behind a base address. Where the base has neither dot segments nor a query, a path
goes right behind its own. -/
namespace Promotion.Http

lemma percentEncode_of_safe {safe : Char → Bool} {cs : List Char} (h : ∀ c ∈ cs, safe c) :
    percentEncode safe cs = cs := by
  induction cs with
  | nil => rfl
  | cons c cs ih =>
    have hrest := ih fun d hd => h d (List.mem_cons_of_mem _ hd)
    unfold percentEncode at hrest ⊢
    rw [List.flatMap_cons, hrest, percentChar, if_pos (h c List.mem_cons_self)]
    rfl

namespace Url
variable {u base v url : Url} {path : List Char}

lemma cutAt_of_forall {p : Char → Bool} {cs : List Char} (h : ∀ c ∈ cs, p c = false) :
    cutAt p cs = (cs, none) := by
  have htake : cs.takeWhile (fun c => !p c) = cs :=
    List.takeWhile_eq_self_iff.mpr fun c hc => by simp [h c hc]
  have hdrop : cs.dropWhile (fun c => !p c) = [] :=
    List.dropWhile_eq_nil_iff.mpr fun c hc => by simp [h c hc]
  unfold cutAt
  rw [hdrop, htake]

/-! ### Segments -/

lemma segments_ne_nil (cs : List Char) : segments cs ≠ [] := by
  cases cs with
  | nil => simp [segments]
  | cons c cs =>
    unfold segments
    split <;> (try split_ifs) <;> simp

lemma segments_eq_splitOn (cs : List Char) : segments cs = cs.splitOn '/' := by
  induction cs with
  | nil => rfl
  | cons c cs ih =>
    obtain ⟨piece, pieces, hpieces⟩ := List.exists_cons_of_ne_nil (segments_ne_nil cs)
    rw [List.splitOn_cons_eq_if_modifyHead, ← ih]
    simp only [segments, hpieces, beq_iff_eq, List.modifyHead_cons]

lemma segments_append (p q : List Char) : segments (p ++ '/' :: q) = segments p ++ segments q := by
  simp only [segments_eq_splitOn, List.splitOn_append_cons_self]

lemma intercalate_segments (cs : List Char) : List.intercalate ['/'] (segments cs) = cs := by
  rw [segments_eq_splitOn, List.intercalate_splitOn]

/-- A path without dot segments. -/
def NoDots (path : List Char) : Prop := ∀ s ∈ segments path, s ≠ ['.'] ∧ s ≠ ['.', '.']

lemma NoDots.append {p q : List Char} (hp : NoDots p) (hq : NoDots q) : NoDots (p ++ '/' :: q) := by
  intro s hs
  rw [segments_append] at hs
  exact (List.mem_append.mp hs).elim (hp s) (hq s)

lemma foldl_resolveStep {pieces : List (List Char)}
    (h : ∀ s ∈ pieces, s ≠ ['.'] ∧ s ≠ ['.', '.']) (done : List (List Char)) :
    pieces.foldl resolveStep done = done ++ pieces := by
  induction pieces generalizing done with
  | nil => simp
  | cons s pieces ih =>
    obtain ⟨hdot, hdots⟩ := h s List.mem_cons_self
    rw [List.foldl_cons, ih fun t ht => h t (List.mem_cons_of_mem _ ht)]
    simp [resolveStep, hdot, hdots]

lemma NoDots.resolveDots_eq (h : NoDots path) : resolveDots path = path := by
  unfold resolveDots
  rw [foldl_resolveStep h, List.nil_append, intercalate_segments]

/-! ### Paths behind a base address -/

/-- A path in its written form. -/
structure Written (path : List Char) : Prop where
  safe : ∀ c ∈ path, pathSafe c
  noDots : NoDots path

lemma Written.append {p q : List Char} (hp : Written p) (hq : Written q) :
    Written (p ++ '/' :: q) where
  safe c hc := by
    rcases List.mem_append.mp hc with hc | hc
    · exact hp.safe c hc
    · rcases List.mem_cons.mp hc with rfl | hc
      · decide
      · exact hq.safe c hc
  noDots := hp.noDots.append hq.noDots

/-- An address with an authority, whose path and authority stand in their written form. -/
structure Plain (u : Url) : Prop where
  absolute : u.scheme ≠ [] ∨ u.authority ≠ []
  authority : authorityText u.scheme u.authority = some u.authority
  path : Written u.path
  noQuery : u.query = none
  noSlash : u.path.getLast? ≠ some '/'

/-- No part of the address is too long. -/
def Fits (u : Url) : Prop :=
  ∀ part ∈ [u.scheme, u.authority, u.path, u.query.getD [], u.fragment.getD []],
    part.length ≤ maxLength

lemma withRawPath_eq_some_iff (habsolute : u.scheme ≠ [] ∨ u.authority ≠ [])
    (hauthority : authorityText u.scheme u.authority = some u.authority) (hpath : Written path) :
    u.withRawPath path = some v ↔ v = { u with path := path, query := none } ∧ v.Fits := by
  have hcut : cutAt (· == '?') path = (path, none) := by
    refine cutAt_of_forall fun c hc => ?_
    have hsafe := hpath.safe c hc
    by_contra hquestion
    have hc : c = '?' := by simpa using hquestion
    subst hc
    exact absurd hsafe (by decide)
  have habs : (!u.scheme.isEmpty || !u.authority.isEmpty) = true := by
    simpa [List.isEmpty_iff] using habsolute
  have hfits : ([u.scheme, u.authority, path, [], u.fragment.getD []].any fun part =>
      decide (maxLength < part.length)) = true ↔
      ¬ Fits { u with path := path, query := none } := by
    simp only [Fits, List.any_eq_true, decide_eq_true_eq, not_forall, Nat.not_le, exists_prop,
      Option.getD_none]
  unfold withRawPath
  rw [hcut]
  simp only [withParts, hauthority, Option.bind_some, Option.getD_none, ofParts, habs, if_true,
    hpath.noDots.resolveDots_eq, percentEncode_of_safe hpath.safe, Bool.not_true, Bool.false_and,
    Bool.false_eq_true, if_false, Option.map_none]
  split_ifs with h
  · refine iff_of_false (by simp) ?_
    rintro ⟨rfl, hv⟩
    exact hfits.mp h hv
  · rw [hfits, not_not] at h
    constructor
    · rintro ⟨rfl⟩
      exact ⟨rfl, h⟩
    · exact fun hv => congrArg some hv.1.symm

lemma written_nil : Written [] := ⟨by simp, by simp [NoDots, segments]⟩

/-- As a base an address differs in its path at most, and a slash stands behind that. -/
lemma Plain.exists_of_asBase (hu : u.Plain) (hbase : u.asBase = some base) :
    ∃ path, base = { u with path := path } ∧ base.rawPath = u.path ++ ['/'] := by
  have hraw : ∀ path : List Char, rawPath { u with path := path } =
      if path.isEmpty then ['/'] else path := by
    intro path
    simp [rawPath, hu.noQuery]
  have hself : u.rawPath = if u.path.isEmpty then ['/'] else u.path := hraw u.path
  unfold asBase at hbase
  cases hpath : u.path with
  | nil =>
    rw [hself, hpath, if_pos (by rfl)] at hbase
    cases hbase
    exact ⟨u.path, rfl, by rw [hself, hpath]; rfl⟩
  | cons c cs =>
    have hslash : "/".toList.isSuffixOf (c :: cs) = false := by
      rw [Bool.eq_false_iff, Ne, List.isSuffixOf_iff_suffix]
      rintro ⟨front, hfront⟩
      refine hu.noSlash ?_
      rw [hpath, ← hfront]
      simp
    rw [hself, hpath, List.isEmpty_cons, if_neg Bool.false_ne_true, hslash,
      if_neg Bool.false_ne_true] at hbase
    have hwritten : Written (c :: cs ++ ['/']) := hpath ▸ hu.path.append written_nil
    have heq := ((withRawPath_eq_some_iff hu.absolute hu.authority hwritten).mp hbase).1
    rw [← hu.noQuery] at heq
    refine ⟨_, heq, ?_⟩
    rw [heq, hraw]
    simp

/-- A path behind a plain address goes right behind its own path, if no part is too long. -/
theorem Plain.join_eq_some_iff {r : List Char} {reference : Url} (hu : u.Plain)
    (hbase : u.asBase = some base) (hr : Written r) (hslash : r.head? ≠ some '/')
    (href : ofChars? ('/' :: r) = some reference) (hraw : reference.rawPath = '/' :: r) :
    base.join ('/' :: r) = some url ↔ url = { u with path := u.path ++ '/' :: r } ∧ url.Fits := by
  obtain ⟨path, rfl, hpath⟩ := hu.exists_of_asBase hbase
  have hdrop : ('/' :: r).dropWhile (· == '/') = r := by
    cases r with
    | nil => rfl
    | cons c cs =>
      have hc : c ≠ '/' := by simpa using hslash
      simp [hc]
  unfold join
  rw [href, Option.bind_some, hpath, hraw, hdrop, List.append_assoc, List.singleton_append,
    withRawPath_eq_some_iff (u := { u with path := path }) hu.absolute hu.authority
      (hu.path.append hr), ← hu.noQuery]

end Url
end Promotion.Http
