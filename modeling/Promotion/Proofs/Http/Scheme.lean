import Promotion.Proofs.Http.Address

/-! Schemes of addresses. A base address hands its scheme on, and the text of an address with a
scheme begins with that. -/
namespace Promotion.Http.Url
variable {u v base : Url}

/-- The address begins with a scheme of letters, digits and the signs that schemes may have. -/
structure HasScheme (u : Url) : Prop where
  ne_nil : u.scheme ≠ []
  plain : ∀ c ∈ u.scheme, c.isAlphanum || c == '+' || c == '.' || c == '-'

lemma HasScheme.of_eq (hu : u.HasScheme) (h : v.scheme = u.scheme) : v.HasScheme :=
  ⟨h ▸ hu.ne_nil, h ▸ hu.plain⟩

lemma hasScheme_of_web (h : u.scheme ∈ ["http".toList, "https".toList]) : u.HasScheme := by
  simp only [List.mem_cons, List.not_mem_nil, or_false] at h
  rcases h with h | h
  · exact ⟨by simp [h], by rw [h]; exact List.all_eq_true.mp rfl⟩
  · exact ⟨by simp [h], by rw [h]; exact List.all_eq_true.mp rfl⟩

/-! ### The scheme of a base address -/

lemma scheme_ofParts {scheme authority path : List Char} {query fragment : Option (List Char)}
    (h : ofParts scheme authority path query fragment = some u) : u.scheme = scheme := by
  simp only [ofParts, Option.ite_none_left_eq_some, Option.some.injEq] at h
  exact h.2 ▸ rfl

lemma scheme_withParts {path : List Char} {query : Option (List Char)}
    (h : u.withParts path query = some v) : v.scheme = u.scheme := by
  simp only [withParts, Option.ite_none_left_eq_some] at h
  obtain ⟨authority, -, h⟩ := Option.bind_eq_some_iff.mp h.2
  exact scheme_ofParts h

lemma scheme_asBase (h : u.asBase = some v) : v.scheme = u.scheme := by
  unfold asBase at h
  split at h
  · rw [Option.some.inj h]
  · exact scheme_withParts h

lemma scheme_join {reference : List Char} (h : base.join reference = some v) :
    v.scheme = base.scheme := by
  obtain ⟨r, -, h⟩ := Option.bind_eq_some_iff.mp h
  exact scheme_withParts h

/-! ### The text of an address -/

/-- Number signs behind a colon cut nothing off in front of it. -/
lemma exists_trunk_eq {name rest : List Char} (h : '#' ∉ name) :
    ∃ more, trunk (name ++ ':' :: rest) = name ++ ':' :: more := by
  unfold trunk
  split
  · next hsign =>
    have hrest : '#' ∈ rest.reverse := by
      simpa [h] using hsign
    have hne : rest.reverse.dropWhile (· != '#') ≠ [] := by
      rw [Ne, List.dropWhile_eq_nil_iff]
      exact fun hall => by simpa using hall _ hrest
    obtain ⟨c, cs, hdrop⟩ := List.exists_cons_of_ne_nil hne
    refine ⟨cs.reverse, ?_⟩
    rw [List.reverse_append, List.reverse_cons, List.append_assoc, List.dropWhile_append, hdrop]
    simp
  · exact ⟨rest, rfl⟩

lemma HasScheme.schemeFault?_eq_none (h : u.HasScheme) : u.schemeFault? = none := by
  have hsign : ∀ c ∈ u.scheme, c ≠ '#' ∧ c ≠ ':' ∧ c ≠ '/' := by
    intro c hc
    have hplain := h.plain c hc
    refine ⟨?_, ?_, ?_⟩ <;> rintro rfl <;> exact absurd hplain (by decide)
  obtain ⟨rest, hchars⟩ : ∃ rest, u.chars = u.scheme ++ ':' :: rest := by
    unfold chars
    simp [List.isEmpty_iff, h.ne_nil]
  obtain ⟨more, htrunk⟩ : ∃ more, trunk (u.scheme ++ ':' :: rest) = u.scheme ++ ':' :: more :=
    exists_trunk_eq fun hc => (hsign '#' hc).1 rfl
  have hname : ∀ c ∈ u.scheme, (!(c == ':' || c == '/')) = true := fun c hc => by
    simp [(hsign c hc).2]
  obtain ⟨c, cs, hscheme⟩ := List.exists_cons_of_ne_nil h.ne_nil
  have htake : (u.scheme ++ ':' :: more).takeWhile (fun c => !(c == ':' || c == '/')) =
      c :: cs := by
    rw [List.takeWhile_append_of_pos hname, ← hscheme]
    simp
  have hdrop : (u.scheme ++ ':' :: more).dropWhile (fun c => !(c == ':' || c == '/')) =
      ':' :: more := by
    rw [List.dropWhile_append_of_pos hname]
    rfl
  simp only [schemeFault?, hchars, htrunk, htake, hdrop, if_true]

end Promotion.Http.Url
