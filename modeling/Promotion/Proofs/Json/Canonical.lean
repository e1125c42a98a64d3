import Promotion.Proofs.Check.Outcome
import Promotion.Proofs.Json.Depth
import Promotion.Proofs.Json.Quoting

/-! Canonical texts. Both layouts of a value are read back, gaps or not, and so the canonical text
tells values apart up to the order of keys. The values that have these texts are those that keep to
the limits. -/
namespace Promotion

/-- A double whose text is read as that double. -/
def Double.ReadsBack (x : Double) : Prop :=
  Json.readWord none (Json.floatText x) = .ok (.float x, [])

instance (x : Double) : Decidable x.ReadsBack :=
  decidable_of_iff ((Json.readWord none (Json.floatText x)).toOption = some (.float x, [])) (by
    unfold Double.ReadsBack
    cases Json.readWord none (Json.floatText x) <;> simp [Except.toOption])

namespace Fields

lemma putAll_of_nodup (before fields : Fields) (h : (keys (before ++ fields)).Nodup) :
    putAll before fields = before ++ fields := by
  induction fields generalizing before with
  | nil => simp [putAll]
  | cons field fields ih =>
    obtain ⟨key, x⟩ := field
    have hnew : before.has key = false := by
      rw [has_eq_false_iff]
      rintro field hfield rfl
      rw [keys, List.map_append] at h
      exact List.disjoint_of_nodup_append h (List.mem_map_of_mem hfield) (by simp)
    have hput : before.put key x = before ++ [(key, x)] := by simp [put, hnew]
    have hrest := ih (before ++ [(key, x)]) (by simpa using h)
    simp only [putAll, List.foldl_cons, hput] at hrest ⊢
    simpa using hrest

lemma ofPairs_of_nodup {fields : Fields} (h : (keys fields).Nodup) : ofPairs fields = fields :=
  putAll_of_nodup [] fields h

end Fields

namespace Json
variable {limit : Option Nat} {rest : List Char} {fuel : Nat} {x : Json}

/-- What the text of a value rests on besides its parts: an object has no key twice, and a double is
read back. -/
def Faithful : Json → Prop
  | .float x => x.ReadsBack
  | .obj fields => (Fields.keys fields).Nodup
  | _ => True

/-- Texts and keys can be read back. -/
def LegibleTexts (ascii : Bool) : Json → Prop
  | .str s => Legible ascii s.toList
  | .obj fields => ∀ key ∈ Fields.keys fields, Legible ascii key.toList
  | _ => True

/-- What it takes, besides depth, for a value to be read back. -/
structure Readable (limit : Option Nat) (ascii : Bool) (x : Json) : Prop where
  faithful : Faithful x
  inLimit : InLimit limit x
  legible : LegibleTexts ascii x

lemma legible_false (cs : List Char) : Legible false cs := nofun

lemma legibleTexts_false (x : Json) : LegibleTexts false x := by
  cases x with
  | str s => exact legible_false _
  | obj fields => exact fun key _ => legible_false _
  | _ => trivial

lemma Readable.everywhere {x : Json} (hx : x.Everywhere Faithful)
    (hdigits : x.Everywhere (InLimit limit)) : x.Everywhere (Readable limit false) :=
  (hx.and hdigits).mono fun y hy => ⟨hy.1, hy.2, legibleTexts_false y⟩

/-- Where a text may have gaps: in front of the first item, the next ones and a closing bracket, by
depth, and behind a colon. -/
structure Layout where
  ascii : Bool
  first : Nat → List Char
  next : Nat → List Char
  last : Nat → List Char
  colon : List Char

namespace Layout

@[simps]
def canonical : Layout := ⟨false, fun _ => [], fun _ => [], fun _ => [], []⟩

@[simps]
def pretty : Layout :=
  ⟨false, fun depth => newLine (depth + 1), fun depth => newLine (depth + 1), newLine, [' ']⟩

/-- There is nothing but blanks in the gaps. -/
structure Blank (l : Layout) : Prop where
  first : ∀ depth, ∀ c ∈ l.first depth, isGap c = true
  next : ∀ depth, ∀ c ∈ l.next depth, isGap c = true
  last : ∀ depth, ∀ c ∈ l.last depth, isGap c = true
  colon : ∀ c ∈ l.colon, isGap c = true

lemma blank_canonical : canonical.Blank := by
  constructor <;> simp [canonical]

lemma isGap_of_mem_newLine {depth : Nat} {c : Char} (h : c ∈ newLine depth) : isGap c = true := by
  simp only [newLine, List.mem_cons, List.mem_replicate] at h
  rcases h with rfl | ⟨-, rfl⟩ <;> decide

lemma blank_pretty : pretty.Blank where
  first _ _ h := isGap_of_mem_newLine h
  next _ _ h := isGap_of_mem_newLine h
  last _ _ h := isGap_of_mem_newLine h
  colon c h := by
    rw [List.mem_singleton.mp h]
    decide

end Layout

mutual
/-- The text of a value in a layout. -/
def layOut (l : Layout) (depth : Nat) : Json → List Char
  | .arr [] => ['[', ']']
  | .arr (x :: xs) =>
    '[' :: (l.first depth ++ layOut l (depth + 1) x ++ layOutItems l depth xs)
  | .obj [] => ['\x7b', '\x7d']
  | .obj ((k, x) :: xs) =>
    '\x7b' :: (l.first depth ++ quotedText l.ascii k ++ ':' ::
      (l.colon ++ layOut l (depth + 1) x ++ layOutFields l depth xs))
  | x => scalarText l.ascii x

def layOutItems (l : Layout) (depth : Nat) : List Json → List Char
  | [] => l.last depth ++ [']']
  | x :: xs => ',' :: (l.next depth ++ layOut l (depth + 1) x ++ layOutItems l depth xs)

def layOutFields (l : Layout) (depth : Nat) : List (String × Json) → List Char
  | [] => l.last depth ++ ['\x7d']
  | (k, x) :: xs =>
    ',' :: (l.next depth ++ quotedText l.ascii k ++ ':' ::
      (l.colon ++ layOut l (depth + 1) x ++ layOutFields l depth xs))
end

/-- A layout that keeps to one line, in the style of that line. -/
structure Layout.OneLine (l : Layout) (style : Style) : Prop where
  ascii : l.ascii = style.ascii
  first : ∀ depth, l.first depth = []
  next : ∀ depth, style.comma = ',' :: l.next depth
  last : ∀ depth, l.last depth = []
  colon : style.colon = ':' :: l.colon

lemma Layout.oneLine_canonical : Layout.canonical.OneLine .canonical :=
  ⟨rfl, fun _ => rfl, fun _ => rfl, fun _ => rfl, rfl⟩

section
variable {l : Layout} {style : Style}

mutual
lemma write_eq_layOut (h : l.OneLine style) (depth : Nat) (x : Json) :
    write style x = layOut l depth x := by
  cases x with
  | arr xs =>
    cases xs with
    | nil => rfl
    | cons x xs =>
      simp [write, layOut, h.first, write_eq_layOut h (depth + 1) x,
        writeItems_eq_layOut h depth xs]
  | obj fields =>
    cases fields with
    | nil => rfl
    | cons field fields =>
      obtain ⟨key, x⟩ := field
      simp [write, layOut, h.ascii, h.first, h.colon, write_eq_layOut h (depth + 1) x,
        writeFields_eq_layOut h depth fields]
  | _ => simp [write, layOut, h.ascii]

lemma writeItems_eq_layOut (h : l.OneLine style) (depth : Nat) (xs : List Json) :
    writeItems style xs = layOutItems l depth xs := by
  cases xs with
  | nil => simp [writeItems, layOutItems, h.last]
  | cons x xs =>
    simp [writeItems, layOutItems, h.next depth, write_eq_layOut h (depth + 1) x,
      writeItems_eq_layOut h depth xs]

lemma writeFields_eq_layOut (h : l.OneLine style) (depth : Nat) (fields : List (String × Json)) :
    writeFields style fields = layOutFields l depth fields := by
  cases fields with
  | nil => simp [writeFields, layOutFields, h.last]
  | cons field fields =>
    obtain ⟨key, x⟩ := field
    simp [writeFields, layOutFields, h.ascii, h.next depth, h.colon,
      write_eq_layOut h (depth + 1) x, writeFields_eq_layOut h depth fields]
end

end

mutual
lemma spread_eq_layOut (depth : Nat) (x : Json) : spread depth x = layOut .pretty depth x := by
  cases x with
  | arr xs =>
    cases xs with
    | nil => rfl
    | cons x xs =>
      simp [spread, layOut, spread_eq_layOut (depth + 1) x, spreadItems_eq_layOut depth xs]
  | obj fields =>
    cases fields with
    | nil => rfl
    | cons field fields =>
      obtain ⟨key, x⟩ := field
      simp [spread, layOut, spread_eq_layOut (depth + 1) x, spreadFields_eq_layOut depth fields]
  | _ => rfl

lemma spreadItems_eq_layOut (depth : Nat) (xs : List Json) :
    spreadItems depth xs = layOutItems .pretty depth xs := by
  cases xs with
  | nil => rfl
  | cons x xs =>
    simp [spreadItems, layOutItems, spread_eq_layOut (depth + 1) x, spreadItems_eq_layOut depth xs]

lemma spreadFields_eq_layOut (depth : Nat) (fields : List (String × Json)) :
    spreadFields depth fields = layOutFields .pretty depth fields := by
  cases fields with
  | nil => rfl
  | cons field fields =>
    obtain ⟨key, x⟩ := field
    simp [spreadFields, layOutFields, spread_eq_layOut (depth + 1) x,
      spreadFields_eq_layOut depth fields]
end

/-! ### Reading what was laid out -/

/-- A character that a value starts with. -/
def opens (c : Char) : Bool := startsWord c || c == '"' || c == '[' || c == '\x7b'

/-- A value that is no text, array or object. -/
def IsWord : Json → Prop
  | .str _ => False
  | .arr _ => False
  | .obj _ => False
  | _ => True

lemma readWord_scalarText (hword : IsWord x) (hx : Faithful x) (hlimit : InLimit limit x)
    (ascii : Bool) : readWord limit (scalarText ascii x) = .ok (x, []) := by
  cases x with
  | null => rfl
  | bool b => cases b <;> rfl
  | int n => exact readWord_intText hlimit
  | float x => exact readWord_float hx
  | str s => exact hword.elim
  | arr xs => exact hword.elim
  | obj fields => exact hword.elim

lemma layOut_of_isWord (hword : IsWord x) (l : Layout) (depth : Nat) :
    layOut l depth x = scalarText l.ascii x := by
  cases x with
  | arr xs => exact hword.elim
  | obj fields => exact hword.elim
  | _ => rfl

lemma exists_layOut_eq_cons (hx : Faithful x) (l : Layout) (depth : Nat) :
    ∃ c cs, layOut l depth x = c :: cs ∧ opens c = true := by
  by_cases hword : IsWord x
  · obtain ⟨c, cs, hcs, hc⟩ :=
      startsWord_of_readWord (readWord_scalarText hword hx (inLimit_none x) l.ascii)
    rw [layOut_of_isWord hword]
    exact ⟨c, cs, hcs, by simp [opens, hc]⟩
  · cases x with
    | str s => exact ⟨_, _, rfl, rfl⟩
    | arr xs => cases xs <;> exact ⟨_, _, rfl, rfl⟩
    | obj fields => cases fields <;> exact ⟨_, _, rfl, rfl⟩
    | _ => exact absurd trivial hword

/-- A value starts with neither a gap nor the end of an array, nor with a byte order mark. -/
lemma not_isGap_of_opens {c : Char} (h : opens c = true) :
    isGap c = false ∧ c ≠ ']' ∧ c.toNat ≠ 0xfeff := by
  refine ⟨?_, ?_, ?_⟩
  · by_contra hgap
    simp only [isGap, Bool.not_eq_false, decide_eq_true_eq] at hgap
    rcases hgap with rfl | rfl | rfl | rfl <;> exact absurd h (by decide)
  · rintro rfl
    exact absurd h (by decide)
  · intro hmark
    have hc : c = Char.ofNat 0xfeff := by rw [← hmark, Char.ofNat_toNat]
    exact absurd (hc ▸ h) (by decide)

lemma skipGap_append {gap : List Char} (h : ∀ c ∈ gap, isGap c = true) (cs : List Char) :
    skipGap (gap ++ cs) = skipGap cs := List.dropWhile_append_of_pos h

lemma skipGap_cons {c : Char} (h : isGap c = false) (cs : List Char) :
    skipGap (c :: cs) = c :: cs := List.dropWhile_cons_of_neg (by simp [h])

lemma skipGap_layOut (hx : Faithful x) (l : Layout) (depth : Nat) (rest : List Char) :
    skipGap (layOut l depth x ++ rest) = layOut l depth x ++ rest := by
  obtain ⟨c, cs, hcs, hc⟩ := exists_layOut_eq_cons hx l depth
  rw [hcs]
  exact skipGap_cons (not_isGap_of_opens hc).1 _

lemma Ends.append {gap : List Char} (h : ∀ c ∈ gap, isGap c = true) (hrest : Ends rest) :
    Ends (gap ++ rest) := by
  cases gap with
  | nil => exact hrest
  | cons c gap =>
    intro d hd
    obtain rfl : c = d := by simpa using hd
    exact .inl (h c List.mem_cons_self)

lemma ends_cons {c : Char} (h : c = ',' ∨ c = ']' ∨ c = '\x7d') (cs : List Char) :
    Ends (c :: cs) := by
  intro d hd
  obtain rfl : c = d := by simpa using hd
  exact .inr h

lemma ends_layOutItems {l : Layout} (hl : l.Blank) (depth : Nat) (xs : List Json) :
    Ends (layOutItems l depth xs ++ rest) := by
  cases xs with
  | nil =>
    rw [layOutItems, List.append_assoc]
    exact .append (hl.last depth) (ends_cons (by simp) _)
  | cons x xs => exact ends_cons (by simp) _

lemma ends_layOutFields {l : Layout} (hl : l.Blank) (depth : Nat) (fields : Fields) :
    Ends (layOutFields l depth fields ++ rest) := by
  cases fields with
  | nil =>
    rw [layOutFields, List.append_assoc]
    exact .append (hl.last depth) (ends_cons (by simp) _)
  | cons field fields => exact ends_cons (by simp) _

section
variable {cs more next : List Char} {xs : List Json} {key : String} {fields : Fields} {deep : Nat}
  {ascii : Bool}

lemma readValue_word {c : Char} (h : startsWord c = true) (cs : List Char) :
    readValue limit (fuel + 1) deep (c :: cs) = readWord limit (c :: cs) := by
  have hquote : c ≠ '"' := by
    rintro rfl
    exact absurd h (by decide)
  have harray : c ≠ '[' := by
    rintro rfl
    exact absurd h (by decide)
  have hobject : c ≠ '\x7b' := by
    rintro rfl
    exact absurd h (by decide)
  rw [readValue.eq_def]
  simp [hquote, harray, hobject]

lemma readValue_quoted {s : String} (hs : Legible ascii s.toList) (rest : List Char) :
    readValue limit (fuel + 1) deep (quotedText ascii s ++ rest) = .ok (.str s, rest) := by
  have htext := readText_quoted hs (quotedText ascii s ++ rest) rest
  simp only [quotedText, List.cons_append, List.append_assoc, List.nil_append] at htext ⊢
  simp only [readValue, htext]

lemma readValue_items {c : Char} (hskip : skipGap cs = c :: more) (hc : opens c = true)
    (hread : readItems limit fuel deep (c :: more) = .ok (xs, rest)) :
    readValue limit (fuel + 1) (deep + 1) ('[' :: cs) = .ok (.arr xs, rest) := by
  have hend := (not_isGap_of_opens hc).2.1
  simp [readValue, hskip, hend, hread]

lemma readItems_last (hread : readValue limit fuel deep cs = .ok (x, more))
    (hskip : skipGap more = ']' :: rest) :
    readItems limit (fuel + 1) deep cs = .ok ([x], rest) := by
  simp [readItems, hread, hskip]

lemma readItems_more (hread : readValue limit fuel deep cs = .ok (x, more))
    (hskip : skipGap more = ',' :: next)
    (hrest : readItems limit fuel deep (skipGap next) = .ok (xs, rest)) :
    readItems limit (fuel + 1) deep cs = .ok (x :: xs, rest) := by
  simp [readItems, hread, hskip, hrest]

lemma readValue_fields (ascii : Bool) (hskip : skipGap cs = quotedText ascii key ++ more)
    (hread : readPairs limit fuel deep (quotedText ascii key ++ more) = .ok (fields, rest)) :
    readValue limit (fuel + 1) (deep + 1) ('\x7b' :: cs) =
      .ok (.obj (Fields.ofPairs fields), rest) := by
  simp only [quotedText, List.cons_append, List.append_assoc, List.nil_append] at hskip hread
  simp [readValue, hskip, hread]

lemma readPairs_last (hkey : Legible ascii key.toList)
    (hread : readValue limit fuel deep (skipGap cs) = .ok (x, more))
    (hskip : skipGap more = '\x7d' :: rest) :
    readPairs limit (fuel + 1) deep (quotedText ascii key ++ ':' :: cs) =
      .ok ([(key, x)], rest) := by
  have htext := readText_quoted hkey (quotedText ascii key ++ ':' :: cs) (':' :: cs)
  have hcolon := skipGap_cons (c := ':') (by decide) cs
  simp only [quotedText, List.cons_append, List.append_assoc, List.nil_append] at htext ⊢
  simp [readPairs, htext, hcolon, hread, hskip]

lemma readPairs_more (hkey : Legible ascii key.toList)
    (hread : readValue limit fuel deep (skipGap cs) = .ok (x, more))
    (hskip : skipGap more = ',' :: next)
    (hrest : readPairs limit fuel deep (skipGap next) = .ok (fields, rest)) :
    readPairs limit (fuel + 1) deep (quotedText ascii key ++ ':' :: cs) =
      .ok ((key, x) :: fields, rest) := by
  have htext := readText_quoted hkey (quotedText ascii key ++ ':' :: cs) (':' :: cs)
  have hcolon := skipGap_cons (c := ':') (by decide) cs
  simp only [quotedText, List.cons_append, List.append_assoc, List.nil_append] at htext ⊢
  simp [readPairs, htext, hcolon, hread, hskip, hrest]

end

lemma length_layOut_pos (hx : Faithful x) (l : Layout) (depth : Nat) :
    0 < (layOut l depth x).length := by
  obtain ⟨c, cs, hcs, -⟩ := exists_layOut_eq_cons hx l depth
  simp [hcs]

lemma length_layOutItems_pos (l : Layout) (depth : Nat) (xs : List Json) :
    0 < (layOutItems l depth xs).length := by
  cases xs <;> simp [layOutItems]

lemma skipGap_quotedText (ascii : Bool) (key : String) (rest : List Char) :
    skipGap (quotedText ascii key ++ rest) = quotedText ascii key ++ rest :=
  skipGap_cons (by decide) _

/-- Wherever a value is laid out in a text, it is read up to its end by a reader that goes deep
enough. The reader takes at most two steps for each character. -/
def ReadFrom (l : Layout) (limit : Option Nat) (deep : Nat) (x : Json) : Prop :=
  ∀ (depth : Nat) (rest : List Char), Ends rest → ∀ fuel, 2 * (layOut l depth x).length ≤ fuel →
    readValue limit fuel deep (layOut l depth x ++ rest) = .ok (x, rest)

section
variable {l : Layout} {deep : Nat}

/-- Items are read up to the bracket behind the last one. -/
lemma readItems_layOut (hl : l.Blank) (xs : List Json) (x : Json)
    (hxs : ∀ y ∈ x :: xs, y.Faithful ∧ y.ReadFrom l limit deep) (depth : Nat) (rest : List Char)
    (fuel : Nat) (hfuel : 2 * (layOut l (depth + 1) x ++ layOutItems l depth xs).length ≤ fuel) :
    readItems limit fuel deep (layOut l (depth + 1) x ++ layOutItems l depth xs ++ rest) =
      .ok (x :: xs, rest) := by
  obtain ⟨⟨hself, hx⟩, htail⟩ := List.forall_mem_cons.mp hxs
  have hpos := length_layOut_pos hself l (depth + 1)
  have hend := length_layOutItems_pos l depth xs
  rw [List.length_append] at hfuel
  obtain ⟨fuel, rfl⟩ : ∃ n, fuel = n + 1 := ⟨fuel - 1, by omega⟩
  have hread := hx (depth + 1) (layOutItems l depth xs ++ rest) (ends_layOutItems hl depth xs) fuel
    (by omega)
  rw [← List.append_assoc] at hread
  cases xs with
  | nil =>
    refine readItems_last hread ?_
    rw [layOutItems, List.append_assoc, skipGap_append (hl.last depth)]
    rfl
  | cons y ys =>
    refine readItems_more hread (skipGap_cons (by decide) _) ?_
    have hmore := readItems_layOut hl ys y htail depth rest fuel (by
      simp only [layOutItems, List.length_cons, List.length_append] at hfuel ⊢
      omega)
    change readItems limit fuel deep (skipGap (l.next depth ++ layOut l (depth + 1) y ++
      layOutItems l depth ys ++ rest)) = _
    simp only [List.append_assoc] at hmore ⊢
    rw [skipGap_append (hl.next depth), skipGap_layOut (htail y List.mem_cons_self).1, hmore]

/-- Fields are read up to the bracket behind the last one. -/
lemma readPairs_layOut (hl : l.Blank) (fields : List (String × Json)) (key : String) (x : Json)
    (hkeys : ∀ k ∈ Fields.keys ((key, x) :: fields), Legible l.ascii k.toList)
    (hfields : ∀ field ∈ (key, x) :: fields, field.2.Faithful ∧ field.2.ReadFrom l limit deep)
    (depth : Nat) (rest : List Char) (fuel : Nat)
    (hfuel : 2 * (quotedText l.ascii key ++ ':' :: (l.colon ++ layOut l (depth + 1) x ++
      layOutFields l depth fields)).length ≤ fuel) :
    readPairs limit fuel deep (quotedText l.ascii key ++ ':' :: (l.colon ++
      layOut l (depth + 1) x ++ layOutFields l depth fields ++ rest)) =
        .ok ((key, x) :: fields, rest) := by
  obtain ⟨⟨hself : x.Faithful, hx : x.ReadFrom l limit deep⟩, htail⟩ :=
    List.forall_mem_cons.mp hfields
  have hkey : Legible l.ascii key.toList := hkeys key (by simp [Fields.keys])
  simp only [List.length_append, List.length_cons] at hfuel
  obtain ⟨fuel, rfl⟩ : ∃ n, fuel = n + 1 := ⟨fuel - 1, by omega⟩
  have hread := hx (depth + 1) (layOutFields l depth fields ++ rest)
    (ends_layOutFields hl depth fields) fuel (by omega)
  rw [← skipGap_layOut hself, ← skipGap_append hl.colon] at hread
  simp only [List.append_assoc] at hread ⊢
  cases fields with
  | nil =>
    refine readPairs_last hkey hread ?_
    rw [layOutFields, List.append_assoc, skipGap_append (hl.last depth)]
    rfl
  | cons field fields =>
    obtain ⟨next, y⟩ := field
    refine readPairs_more hkey hread (skipGap_cons (by decide) _) ?_
    have hnext : ∀ k ∈ Fields.keys ((next, y) :: fields), Legible l.ascii k.toList :=
      fun k hk => hkeys k (List.mem_cons_of_mem key hk)
    have hmore := readPairs_layOut hl fields next y hnext htail depth rest fuel (by
      simp only [layOutFields, List.length_cons, List.length_append] at hfuel ⊢
      omega)
    change readPairs limit fuel deep (skipGap (l.next depth ++ quotedText l.ascii next ++ ':' ::
      (l.colon ++ layOut l (depth + 1) y ++ layOutFields l depth fields) ++ rest)) = _
    simp only [List.append_assoc, List.cons_append] at hmore ⊢
    rw [skipGap_append (hl.next depth), skipGap_quotedText, hmore]

lemma readFrom_of_isWord (hword : IsWord x) (hx : Faithful x) (hlimit : InLimit limit x)
    (l : Layout) : x.ReadFrom l limit deep := by
  intro depth rest hrest fuel hfuel
  have htext := readWord_scalarText hword hx hlimit l.ascii
  obtain ⟨c, cs, hcs, hc⟩ := startsWord_of_readWord htext
  rw [layOut_of_isWord hword] at hfuel ⊢
  obtain ⟨fuel, rfl⟩ : ∃ n, fuel = n + 1 := ⟨fuel - 1, by simp [hcs] at hfuel; omega⟩
  rw [hcs, List.cons_append, readValue_word hc, ← List.cons_append, ← hcs]
  exact readWord_append hrest htext

lemma readFrom_arr (hl : l.Blank) {xs : List Json}
    (hxs : ∀ x ∈ xs, x.Faithful ∧ x.ReadFrom l limit deep) :
    (Json.arr xs).ReadFrom l limit (deep + 1) := by
  intro depth rest _ fuel hfuel
  have hpos := length_layOut_pos (x := .arr xs) trivial l depth
  obtain ⟨fuel, rfl⟩ : ∃ n, fuel = n + 1 := ⟨fuel - 1, by omega⟩
  cases xs with
  | nil => rfl
  | cons x xs =>
    have hfirst := (hxs x List.mem_cons_self).1
    obtain ⟨c, cs, hcs, hc⟩ := exists_layOut_eq_cons hfirst l (depth + 1)
    have hread := readItems_layOut hl xs x hxs depth rest fuel (by
      simp only [layOut, List.length_cons, List.length_append] at hfuel ⊢
      omega)
    have hskip := skipGap_layOut hfirst l (depth + 1) (layOutItems l depth xs ++ rest)
    rw [← skipGap_append (hl.first depth)] at hskip
    simp only [layOut, List.cons_append, List.append_assoc] at hread hskip ⊢
    rw [hcs, List.cons_append] at hread hskip
    exact readValue_items (hcs ▸ hskip) hc hread

lemma readFrom_obj (hl : l.Blank) {fields : Fields} (hkeys : (Fields.keys fields).Nodup)
    (hlegible : ∀ key ∈ Fields.keys fields, Legible l.ascii key.toList)
    (hfields : ∀ field ∈ fields, field.2.Faithful ∧ field.2.ReadFrom l limit deep) :
    (Json.obj fields).ReadFrom l limit (deep + 1) := by
  intro depth rest _ fuel hfuel
  have hpos := length_layOut_pos (x := .obj fields) hkeys l depth
  obtain ⟨fuel, rfl⟩ : ∃ n, fuel = n + 1 := ⟨fuel - 1, by omega⟩
  cases fields with
  | nil => rfl
  | cons field fields =>
    obtain ⟨key, x⟩ := field
    have hread := readPairs_layOut hl fields key x hlegible hfields depth rest fuel (by
      simp only [layOut, List.length_cons, List.length_append] at hfuel ⊢
      omega)
    have hskip := skipGap_quotedText l.ascii key (':' :: (l.colon ++ layOut l (depth + 1) x ++
      layOutFields l depth fields ++ rest))
    rw [← skipGap_append (hl.first depth)] at hskip
    simp only [layOut, List.cons_append, List.append_assoc] at hread hskip ⊢
    rw [readValue_fields l.ascii hskip hread, Fields.ofPairs_of_nodup hkeys]

lemma readFrom_str {s : String} (hs : Legible l.ascii s.toList) :
    (Json.str s).ReadFrom l limit deep := by
  intro depth rest _ fuel hfuel
  have hpos := length_layOut_pos (x := .str s) trivial l depth
  obtain ⟨fuel, rfl⟩ : ∃ n, fuel = n + 1 := ⟨fuel - 1, by omega⟩
  exact readValue_quoted hs rest

theorem readFrom (hl : l.Blank) (hx : x.Everywhere (Readable limit l.ascii))
    (hdepth : x.depth ≤ deep) : x.ReadFrom l limit deep := by
  induction x using induction_on generalizing deep with
  | str s => exact readFrom_str hx.self.legible
  | arr xs ih =>
    rw [everywhere_arr_iff] at hx
    obtain ⟨hpos, hdepth⟩ := depth_arr_le_iff.mp hdepth
    obtain ⟨deep, rfl⟩ := Nat.exists_eq_add_of_lt hpos
    simp only [Nat.zero_add, Nat.add_sub_cancel] at hdepth ⊢
    exact readFrom_arr hl fun y hy =>
      ⟨(hx.2 y hy).self.faithful, ih y hy (hx.2 y hy) (hdepth y hy)⟩
  | obj fields ih =>
    rw [everywhere_obj_iff] at hx
    obtain ⟨hpos, hdepth⟩ := depth_obj_le_iff.mp hdepth
    obtain ⟨deep, rfl⟩ := Nat.exists_eq_add_of_lt hpos
    simp only [Nat.zero_add, Nat.add_sub_cancel] at hdepth ⊢
    exact readFrom_obj hl hx.1.faithful hx.1.legible fun field hfield =>
      ⟨(hx.2 field hfield).self.faithful,
        ih field hfield (hx.2 field hfield) (hdepth field hfield)⟩
  | _ => exact readFrom_of_isWord (by trivial) hx.self.faithful hx.self.inLimit l

end

/-- A text that holds the layout of a value is read as the value. -/
theorem readWithin_layOut {l : Layout} {limits : Limits} (hl : l.Blank)
    (hx : x.Everywhere (Readable limits.digits l.ascii)) (hdepth : x.depth ≤ limits.depth) :
    readWithin limits (String.ofList (layOut l 0 x)) = .ok x := by
  obtain ⟨c, cs, hcs, hc⟩ := exists_layOut_eq_cons hx.self.faithful l 0
  obtain ⟨hgap, -, hmark⟩ := not_isGap_of_opens hc
  have hread := readFrom hl hx hdepth 0 [] (by simp [Ends]) (2 * (layOut l 0 x).length + 2)
    (by omega)
  rw [List.append_nil, hcs] at hread
  simp only [readWithin, String.toList_ofList, hcs, readChars, hmark, if_false, skipGap_cons hgap,
    hread]
  rfl

lemma ignoresOrder_faithful : IgnoresOrder Faithful :=
  ⟨fun h hxs => h.nodup hxs, fun _ => trivial⟩

lemma Everywhere.hasDistinctKeys (hx : x.Everywhere Faithful) : x.Everywhere HasDistinctKeys :=
  hx.mono fun y hy => by cases y <;> first | exact hy | trivial

/-- The text of a value in either layout is read as the value with its keys sorted. -/
theorem readWithin_canonical {limits : Limits} (hx : x.Everywhere Faithful)
    (hkeeps : x.KeepsTo limits) :
    readWithin limits (canonical x) = .ok (sortKeys x) ∧
      readWithin limits (pretty x) = .ok (sortKeys x) := by
  have hsorted := hx.reordered ignoresOrder_faithful (reordered_sortKeys x)
  have hwithin := hkeeps.reordered (reordered_sortKeys x)
  have hreadable := Readable.everywhere hsorted hwithin.digits
  rw [canonical, pretty, write_eq_layOut Layout.oneLine_canonical 0, spread_eq_layOut]
  exact ⟨readWithin_layOut Layout.blank_canonical hreadable hwithin.depth,
    readWithin_layOut Layout.blank_pretty hreadable hwithin.depth⟩

/-- Any value keeps to limits of its own. -/
lemma keepsTo_depth (x : Json) : x.KeepsTo ⟨none, x.depth⟩ :=
  ⟨Nat.le_refl _, everywhere_of_forall inLimit_none x⟩

lemma canonical_eq_iff {x y : Json} (hx : x.Everywhere Faithful) (hy : y.Everywhere Faithful) :
    canonical x = canonical y ↔ Reordered x y := by
  constructor
  · intro h
    -- One reader goes deep enough for both.
    have hboth (z : Json) (hz : z.depth ≤ max x.depth y.depth) :
        z.KeepsTo ⟨none, max x.depth y.depth⟩ := ⟨hz, (keepsTo_depth z).digits⟩
    have hfirst := (readWithin_canonical hx (hboth x (le_max_left _ _))).1
    have hsecond := (readWithin_canonical hy (hboth y (le_max_right _ _))).1
    rw [← h, hfirst, Except.ok.injEq] at hsecond
    exact (sortKeys_eq_iff_reordered hx.hasDistinctKeys).mp hsecond
  · intro h
    rw [canonical, canonical, sortKeys_eq_of_reordered hx.hasDistinctKeys h]

/-- What a text tells of the value that was written: nothing is lost but the order of keys, for a
reader with limits no tighter than the writer's. -/
def ReadBack (limits : Limits) (x : Json) (text : String) : Prop :=
  ∀ wider : Limits, limits.Wider wider → readWithin wider text = .ok (sortKeys x)

/-- A value has its two canonical texts if and only if it keeps to the limits. Values with the same
canonical text have the same keys and values throughout, and nothing of a value is lost in its texts
but the order of keys. -/
theorem canonical_normalForm (limits : Limits) {x y : Json} (hx : x.Everywhere Faithful)
    (hy : y.Everywhere Faithful) :
    ((∃ text, x.canonicalText limits = .ok text) ↔ x.KeepsTo limits) ∧
    ((∃ text, x.prettyText limits = .ok text) ↔ x.KeepsTo limits) ∧
    (∀ s t, x.canonicalText limits = .ok s → y.canonicalText limits = .ok t →
      (s = t ↔ Reordered x y)) ∧
    (∀ s, x.canonicalText limits = .ok s ∨ x.prettyText limits = .ok s → ReadBack limits x s) ∧
    Reordered x (sortKeys x) ∧ sortKeys (sortKeys x) = sortKeys x := by
  simp only [canonicalText, prettyText, encode_eq_ok_iff]
  refine ⟨by simp, by simp, ?_, ?_, reordered_sortKeys x, sortKeys_sortKeys x⟩
  · rintro _ _ ⟨-, rfl⟩ ⟨-, rfl⟩
    exact canonical_eq_iff hx hy
  · rintro _ (⟨hkeeps, rfl⟩ | ⟨hkeeps, rfl⟩) wider hwider
    · exact (readWithin_canonical hx (hkeeps.of_wider hwider)).1
    · exact (readWithin_canonical hx (hkeeps.of_wider hwider)).2

def share : Double := ⟨false, ⟨1024, by decide⟩, ⟨1125899906842624, by decide⟩⟩

lemma readsBack_share : share.ReadsBack := by decide +kernel

/-- A value with a double, escapes and an object inside, in either order of keys. -/
def offer (swapped : Bool) : Json :=
  let labels : Fields := [("z", .null), ("a\"\n\x7f", .str "\\ é 😀")]
  let parts : Fields :=
    [("share", .float share),
      ("labels", .arr [.int (-7), .obj (if swapped then labels.reverse else labels)])]
  .obj (if swapped then parts.reverse else parts)

lemma everywhere_faithful_offer (swapped : Bool) : (offer swapped).Everywhere Faithful := by
  cases swapped <;> simp [offer, Everywhere, EverywhereInFields, EverywhereInItems, Faithful,
    Fields.keys, readsBack_share]

lemma reordered_offer : Reordered (offer false) (offer true) :=
  have hlabels := Reordered.item [.int (-7)] [] (.fields (List.reverse_perm _).symm)
  (Reordered.value [_] [] "labels" hlabels).trans (.fields (List.reverse_perm _).symm)

lemma keepsTo_offer (swapped : Bool) : (offer swapped).KeepsTo .writing := by
  have hdigits : KeepsLimit Limits.writing.digits (-7) := by
    rintro _ ⟨rfl⟩
    decide
  cases swapped <;> refine ⟨by decide, ?_⟩ <;>
    simpa [offer, Everywhere, EverywhereInFields, EverywhereInItems, InLimit] using hdigits

theorem canonical_normalForm_sample :
    (offer false).Everywhere Faithful ∧ (offer true).Everywhere Faithful ∧
      ∃ text, (offer false).canonicalText .writing = .ok text ∧
        (offer true).canonicalText .writing = .ok text ∧
        read text = .ok (sortKeys (offer false)) := by
  obtain ⟨hfirst, -, hsame, hread, -⟩ := canonical_normalForm .writing
    (everywhere_faithful_offer false) (everywhere_faithful_offer true)
  obtain ⟨hsecond, -⟩ := canonical_normalForm .writing
    (everywhere_faithful_offer true) (everywhere_faithful_offer true)
  obtain ⟨s, hs⟩ := hfirst.mpr (keepsTo_offer false)
  obtain ⟨t, ht⟩ := hsecond.mpr (keepsTo_offer true)
  obtain rfl := (hsame s t hs ht).mpr reordered_offer
  exact ⟨everywhere_faithful_offer false, everywhere_faithful_offer true, s, hs, ht,
    hread s (.inl hs) .reading Limits.wider_reading⟩

/-- Lists inside each other, the innermost of them empty. -/
def nested : (levels : Nat) → Json
  | 0 => .arr []
  | levels + 1 => .arr [nested levels]

lemma depth_nested (levels : Nat) : (nested levels).depth = levels + 1 := by
  induction levels with
  | zero => rfl
  | succ levels ih => simp [nested, depth, depthOfItems, ih]

lemma everywhere_faithful_nested (levels : Nat) : (nested levels).Everywhere Faithful := by
  induction levels with
  | zero => simp [nested, Everywhere, EverywhereInItems, Faithful]
  | succ levels ih => simp [nested, Everywhere, EverywhereInItems, Faithful, ih]

/-- A value that is nested too deep has neither text. -/
theorem canonical_missing : (nested 599).Everywhere Faithful ∧
    ¬ (∃ text, (nested 599).canonicalText .writing = .ok text) ∧
    ¬ ∃ text, (nested 599).prettyText .writing = .ok text := by
  have hdeep : ¬ (nested 599).KeepsTo .writing := by
    intro h
    have hdepth := h.depth
    rw [depth_nested] at hdepth
    exact absurd hdepth (by decide)
  refine ⟨everywhere_faithful_nested 599, ?_, ?_⟩
  · rintro ⟨text, h⟩
    exact hdeep (encode_eq_ok_iff.mp h).1
  · rintro ⟨text, h⟩
    exact hdeep (encode_eq_ok_iff.mp h).1

end Json
end Promotion
