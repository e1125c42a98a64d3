import Promotion.Proofs.Editor.Submission
import Promotion.Proofs.Graph.Connecting
import Promotion.Proofs.Node.Grammar
import Promotion.Proofs.Rule.Compiled

/-! Where the nodes of a graph go when it is compiled. A node goes by the words for its kind and its
subtype alone, whatever it was made as. One whose words are on no list stops the compilation, so
that no node is left out of a rule. -/
namespace Promotion

/-- A group of entries, and a type in this group. -/
inductive EntryType where
  | condition (type : ConditionType)
  | action (type : ActionSubtype)
  | logical (type : LogicalSubtype)
  deriving DecidableEq, Repr

/-- What the words for a kind and a subtype stand for. -/
def EntryType.table : List (String × String × EntryType) :=
  [("condition", "product_id", .condition .productId),
    ("condition", "category", .condition .categoryId),
    ("condition", "email", .condition .customerEmail),
    ("condition", "quantity", .condition .quantity),
    ("condition", "customer_tier", .condition .customerTier),
    ("action", "percentage_discount", .action .percentageDiscount),
    ("action", "free_units", .action .freeUnits),
    ("logical", "and", .logical .and),
    ("logical", "or", .logical .or)]

/-- The type that a word stands for among the subtypes of a kind. -/
def Kind.type? (word : String) : Kind → Option EntryType
  | .condition => (ConditionSubtype.ofWord? word).map fun subtype => .condition subtype.compiled
  | .action => (ActionSubtype.ofWord? word).map .action
  | .logical => (LogicalSubtype.ofWord? word).map .logical

namespace Entry

def type : Entry → EntryType
  | .condition e => .condition e.type
  | .action e => .action e.type
  | .logical e => .logical e.type

/-- What an entry says apart from its type and its id is what a node has. -/
def Tells (n : Node) : Entry → Prop
  | .condition e => n.get? "operator" = some (.str e.operator) ∧ n.get? "value" = some e.value
  | .action e => ∃ value, n.get? "value" = some value ∧ Check.amount value = .valid e.value
  | .logical _ => True

end Entry

namespace Node

/-- The words of a node for its kind and its subtype stand for a type. -/
def Maps (n : Node) (type : EntryType) : Prop :=
  ∃ kind subtype, n.kindValue = .str kind ∧ n.subtypeValue = .str subtype ∧
    (kind, subtype, type) ∈ EntryType.table

def Unmapped (n : Node) : Prop := ∀ type, ¬n.Maps type

/-- An entry stands for a node: it has the type that the words of the node stand for, the id of the
node, and what else it says is what the node has. -/
structure Becomes (n : Node) (e : Entry) : Prop where
  type : n.Maps e.type
  id : n.id = .str e.id
  tells : e.Tells n

end Node

/-- The entries of a rule, one group behind the other. -/
def Rule.entries (r : Rule) : List Entry :=
  r.conditions.map .condition ++ r.actions.map .action ++ r.logicals.map .logical

/-! ### Single nodes -/

lemma EntryType.mem_table_iff {kind subtype : String} {type : EntryType} :
    (kind, subtype, type) ∈ table ↔
      ∃ k, Kind.ofWord? kind = some k ∧ k.type? subtype = some type := by
  constructor
  · intro h
    simp only [table, List.mem_cons, List.not_mem_nil, or_false, Prod.mk.injEq] at h
    rcases h with ⟨rfl, rfl, rfl⟩ | ⟨rfl, rfl, rfl⟩ | ⟨rfl, rfl, rfl⟩ | ⟨rfl, rfl, rfl⟩ |
      ⟨rfl, rfl, rfl⟩ | ⟨rfl, rfl, rfl⟩ | ⟨rfl, rfl, rfl⟩ | ⟨rfl, rfl, rfl⟩ | ⟨rfl, rfl, rfl⟩ <;>
      exact ⟨_, rfl, rfl⟩
  · rintro ⟨k, hkind, htype⟩
    obtain rfl := Kind.ofWord?_eq_some_iff.mp hkind
    cases k with
    | condition =>
      obtain ⟨s, hs, rfl⟩ := Option.map_eq_some_iff.mp htype
      obtain rfl := ConditionSubtype.ofWord?_eq_some_iff.mp hs
      cases s <;> decide
    | action =>
      obtain ⟨s, hs, rfl⟩ := Option.map_eq_some_iff.mp htype
      obtain rfl := ActionSubtype.ofWord?_eq_some_iff.mp hs
      cases s <;> decide
    | logical =>
      obtain ⟨s, hs, rfl⟩ := Option.map_eq_some_iff.mp htype
      obtain rfl := LogicalSubtype.ofWord?_eq_some_iff.mp hs
      cases s <;> decide

namespace Node
variable {n : Node} {e : Entry} {type : EntryType} {kind : Kind}

lemma maps_iff : n.Maps type ↔ ∃ kind word, n.kind? = some kind ∧
    n.subtypeValue = .str word ∧ kind.type? word = some type := by
  simp only [Maps, EntryType.mem_table_iff]
  constructor
  · rintro ⟨kind, word, hkind, hword, k, hk, htype⟩
    exact ⟨k, word, by simp [kind?, hkind, Json.str?, hk], hword, htype⟩
  · rintro ⟨k, word, hk, hword, htype⟩
    obtain ⟨kind, hkind, hof⟩ := kind?_eq_some_iff.mp hk
    exact ⟨kind, word, by simp [kindValue, hkind], hword, k, hof, htype⟩

/-- A node of a known kind maps by its subtype only. -/
lemma maps_iff_of_kind? (hkind : n.kind? = some kind) : n.Maps type ↔
    ∃ word, n.subtypeValue = .str word ∧ kind.type? word = some type := by
  rw [maps_iff]
  constructor
  · rintro ⟨kind', word, hkind', h⟩
    obtain rfl := Option.some.inj (hkind.symm.trans hkind')
    exact ⟨word, h⟩
  · rintro ⟨word, h⟩
    exact ⟨kind, word, hkind, h⟩

section Subtype
variable {α : Type} {ofWord? : String → Option α} {a : α}

lemma knownSubtype_eq_ok_iff : n.knownSubtype ofWord? = .ok a ↔
    ∃ word, n.subtypeValue = .str word ∧ ofWord? word = some a := by
  unfold knownSubtype
  cases n.subtypeValue with
  | str word => cases h : ofWord? word <;> simp [Json.str?, h]
  | _ => simp [Json.str?]

/-- A subtype that can be looked up, but is not known, makes the node one of unknown type. -/
lemma knownSubtype_of_unknown (hkey : (NodeKey.ofJson? n.subtypeValue).isSome)
    (hunknown : ∀ word, n.subtypeValue = .str word → ofWord? word = none) :
    n.knownSubtype ofWord? = .error n.unknownType := by
  unfold knownSubtype
  cases hsubtype : n.subtypeValue with
  | str word => simp [Json.str?, hunknown word hsubtype]
  | arr items => simp [hsubtype, NodeKey.ofJson?] at hkey
  | obj fields => simp [hsubtype, NodeKey.ofJson?] at hkey
  | _ => simp [Json.str?]

end Subtype

lemma needed_eq_ok_iff {key : String} {json : Json} :
    n.needed key = .ok json ↔ n.get? key = some json := by
  unfold needed
  cases n.get? key <;> simp

lemma checkId_eq_valid_iff {id : String} : n.checkId = .valid id ↔ n.id = .str id := by
  simp [checkId]

lemma entryOf_eq_ok_iff {α : Type} {f : α → Entry} {checked : Checked α} :
    entryOf f checked = .ok e ↔ ∃ a, checked = .valid a ∧ f a = e := by
  rw [entryOf, CompileFault.ofChecked_eq_ok_iff]
  exact Checked.map_eq_valid_iff

lemma compile_condition_eq_ok_iff (hkind : n.kind? = some .condition) :
    n.compile = .ok e ↔ n.Becomes e := by
  simp only [compile, hkind, bind_eq_ok_iff, knownSubtype_eq_ok_iff, needed_eq_ok_iff,
    entryOf_eq_ok_iff, Checked.seq_eq_valid_iff, Checked.map_eq_valid_iff,
    Checked.under_eq_valid_iff, Check.text_eq_valid_iff, checkId_eq_valid_iff]
  constructor
  · rintro ⟨subtype, ⟨word, hword, hof⟩, _, hoperator, value, hvalue, _,
      ⟨_, id, ⟨operator, rfl, rfl⟩, hid, rfl⟩, rfl⟩
    refine ⟨(maps_iff_of_kind? hkind).mpr ⟨word, hword, ?_⟩, hid, hoperator, hvalue⟩
    simp [Kind.type?, hof, Entry.type]
  · rintro ⟨htype, hid, htells⟩
    obtain ⟨word, hword, htype⟩ := (maps_iff_of_kind? hkind).mp htype
    obtain ⟨subtype, hof, htype⟩ := Option.map_eq_some_iff.mp htype
    cases e with
    | condition e =>
      obtain ⟨type, operator, value, id⟩ := e
      obtain rfl := EntryType.condition.inj htype
      exact ⟨subtype, ⟨word, hword, hof⟩, _, htells.1, value, htells.2, _,
        ⟨_, id, ⟨operator, rfl, rfl⟩, hid, rfl⟩, rfl⟩
    | _ => cases htype

lemma compile_action_eq_ok_iff (hkind : n.kind? = some .action) :
    n.compile = .ok e ↔ n.Becomes e := by
  simp only [compile, hkind, bind_eq_ok_iff, knownSubtype_eq_ok_iff, needed_eq_ok_iff,
    entryOf_eq_ok_iff, Checked.seq_eq_valid_iff, Checked.map_eq_valid_iff,
    Checked.under_eq_valid_iff, checkId_eq_valid_iff]
  constructor
  · rintro ⟨subtype, ⟨word, hword, hof⟩, value, hvalue, _,
      ⟨_, id, ⟨amount, hamount, rfl⟩, hid, rfl⟩, rfl⟩
    refine ⟨(maps_iff_of_kind? hkind).mpr ⟨word, hword, ?_⟩, hid, value, hvalue, hamount⟩
    simp [Kind.type?, hof, Entry.type]
  · rintro ⟨htype, hid, htells⟩
    obtain ⟨word, hword, htype⟩ := (maps_iff_of_kind? hkind).mp htype
    obtain ⟨subtype, hof, htype⟩ := Option.map_eq_some_iff.mp htype
    cases e with
    | action e =>
      obtain ⟨type, amount, id⟩ := e
      obtain rfl := EntryType.action.inj htype
      obtain ⟨value, hvalue, hamount⟩ := htells
      exact ⟨subtype, ⟨word, hword, hof⟩, value, hvalue, _,
        ⟨_, id, ⟨amount, hamount, rfl⟩, hid, rfl⟩, rfl⟩
    | _ => cases htype

lemma compile_logical_eq_ok_iff (hkind : n.kind? = some .logical) :
    n.compile = .ok e ↔ n.Becomes e := by
  simp only [compile, hkind, bind_eq_ok_iff, knownSubtype_eq_ok_iff, entryOf_eq_ok_iff,
    Checked.map_eq_valid_iff, checkId_eq_valid_iff]
  constructor
  · rintro ⟨subtype, ⟨word, hword, hof⟩, _, ⟨id, hid, rfl⟩, rfl⟩
    refine ⟨(maps_iff_of_kind? hkind).mpr ⟨word, hword, ?_⟩, hid, trivial⟩
    simp [Kind.type?, hof, Entry.type]
  · rintro ⟨htype, hid, -⟩
    obtain ⟨word, hword, htype⟩ := (maps_iff_of_kind? hkind).mp htype
    obtain ⟨subtype, hof, htype⟩ := Option.map_eq_some_iff.mp htype
    cases e with
    | logical e =>
      obtain ⟨type, id⟩ := e
      obtain rfl := EntryType.logical.inj htype
      exact ⟨subtype, ⟨word, hword, hof⟩, _, ⟨id, hid, rfl⟩, rfl⟩
    | _ => cases htype

/-- A node compiles just to the entries that stand for it. -/
theorem compile_eq_ok_iff : n.compile = .ok e ↔ n.Becomes e := by
  cases hkind : n.kind? with
  | none =>
    simp only [compile, hkind]
    refine iff_of_false throw_ne_ok fun h => ?_
    obtain ⟨kind, _, hkind', _⟩ := maps_iff.mp h.type
    cases hkind.symm.trans hkind'
  | some kind =>
    cases kind with
    | condition => exact compile_condition_eq_ok_iff hkind
    | action => exact compile_action_eq_ok_iff hkind
    | logical => exact compile_logical_eq_ok_iff hkind

/-! ### Faults of single nodes -/

lemma needed_fault {key : String} {fault : CompileFault} (h : n.needed key = .error fault) :
    (Fault.ofCompile fault).family? = none := by
  unfold needed at h
  split at h
  · cases h
  · cases h
    rfl

lemma entryOf_fault {α : Type} {f : α → Entry} {checked : Checked α} {fault : CompileFault}
    (h : entryOf f checked = .error fault) : (Fault.ofCompile fault).family? = none := by
  cases checked with
  | valid a => cases h
  | invalid issues =>
    cases h
    rfl

/-- A node of a known kind is compiled in two steps. Its subtype is looked up among those of its
kind, and what is wrong behind that is of no family. -/
lemma exists_compile_eq_bind (hkind : n.kind? = some kind) :
    ∃ (α : Type) (ofWord? : String → Option α) (rest : α → Except CompileFault Entry),
      n.compile = (n.knownSubtype ofWord? >>= rest) ∧
      (∀ word, ofWord? word = none ↔ kind.type? word = none) ∧
      ∀ a fault, rest a = .error fault → (Fault.ofCompile fault).family? = none := by
  unfold compile
  rw [hkind]
  cases kind with
  | condition =>
    refine ⟨_, ConditionSubtype.ofWord?, _, rfl, fun word => by simp [Kind.type?], ?_⟩
    intro subtype fault h
    simp only [bind_eq_error_iff] at h
    rcases h with h | ⟨_, -, h | ⟨_, -, h⟩⟩
    exacts [needed_fault h, needed_fault h, entryOf_fault h]
  | action =>
    refine ⟨_, ActionSubtype.ofWord?, _, rfl, fun word => by simp [Kind.type?], ?_⟩
    intro subtype fault h
    simp only [bind_eq_error_iff] at h
    rcases h with h | ⟨_, -, h⟩
    exacts [needed_fault h, entryOf_fault h]
  | logical =>
    refine ⟨_, LogicalSubtype.ofWord?, _, rfl, fun word => by simp [Kind.type?], ?_⟩
    intro subtype fault h
    exact entryOf_fault h

/-- A node whose words stand for no type is one of unknown type. -/
lemma compile_of_unmapped (hkey : (NodeKey.ofJson? n.subtypeValue).isSome) (h : n.Unmapped) :
    n.compile = .error n.unknownType := by
  cases hkind : n.kind? with
  | none =>
    unfold compile
    rw [hkind]
    rfl
  | some kind =>
    obtain ⟨_, ofWord?, rest, hcompile, hof, -⟩ := exists_compile_eq_bind hkind
    have hunknown : ∀ word, n.subtypeValue = .str word → ofWord? word = none := by
      intro word hword
      refine (hof word).mpr (Option.eq_none_iff_forall_not_mem.mpr fun type htype => ?_)
      exact h type ((maps_iff_of_kind? hkind).mpr ⟨word, hword, htype⟩)
    rw [hcompile, knownSubtype_of_unknown hkey hunknown]
    rfl

/-- What is wrong with a node whose words stand for a type is of no family. -/
lemma family?_of_maps {fault : CompileFault} (h : n.Maps type) (hfault : n.compile = .error fault) :
    (Fault.ofCompile fault).family? = none := by
  obtain ⟨kind, word, hkind, hword, htype⟩ := maps_iff.mp h
  obtain ⟨_, ofWord?, rest, hcompile, hof, hrest⟩ := exists_compile_eq_bind hkind
  obtain ⟨a, ha⟩ : ∃ a, ofWord? word = some a := by
    refine Option.ne_none_iff_exists'.mp fun hnone => ?_
    cases ((hof word).mp hnone).symm.trans htype
  rw [hcompile, knownSubtype_eq_ok_iff.mpr ⟨word, hword, ha⟩] at hfault
  exact hrest a fault hfault

/-- A node is reported as one of unknown kind just if its words stand for no type. Only a subtype
that cannot be looked up at all is told differently. -/
lemma family?_eq_unknownKind_iff {fault : CompileFault} (hfault : n.compile = .error fault)
    (hkey : (NodeKey.ofJson? n.subtypeValue).isSome) :
    (Fault.ofCompile fault).family? = some .unknownKind ↔ n.Unmapped := by
  constructor
  · intro hfamily type hmaps
    rw [family?_of_maps hmaps hfault] at hfamily
    cases hfamily
  · intro hunmapped
    obtain rfl := Except.error.inj (hfault.symm.trans (compile_of_unmapped hkey hunmapped))
    rfl

end Node

/-! ### Whole graphs -/

/-- Entries are the same as those of their groups. -/
lemma Entry.perm_groups (entries : List Entry) :
    List.Perm ((entries.filterMap condition?).map .condition ++
      (entries.filterMap action?).map .action ++ (entries.filterMap logical?).map .logical)
        entries := by
  induction entries with
  | nil => exact .nil
  | cons e entries ih =>
    cases e with
    | condition e => exact ih.cons _
    | action e =>
      refine (List.Perm.append_right _ List.perm_middle).trans ?_
      exact ih.cons _
    | logical e => exact List.perm_middle.trans (ih.cons _)

/-- Nodes and the entries that stand for them have the same ids. -/
lemma Node.keys_of_becomes {nodes : List Node} {entries : List Entry}
    (h : List.Forall₂ Becomes nodes entries) :
    entries.map (fun e => NodeKey.text e.id) = nodes.map key := by
  induction h with
  | nil => rfl
  | cons hfirst _ ih =>
    rw [List.map_cons, List.map_cons, ih, key_eq_text_iff.mpr hfirst.id]

namespace Graph
variable {g : Graph} {metadata : RuleMetadata} {now : DateTime} {rule : Rule}

/-- The entries of a rule stand for the nodes of its graph, one for each. -/
theorem exists_becomes_of_compile (hok : g.compile metadata now = .ok rule) :
    ∃ entries, List.Forall₂ Node.Becomes g.nodes entries ∧ rule.entries.Perm entries := by
  obtain ⟨entries, hentries, hconditions, hactions, hlogicals, -⟩ := lists_of_compile hok
  refine ⟨entries, (forall₂_of_mapM hentries).imp fun _ _ => Node.compile_eq_ok_iff.mp, ?_⟩
  rw [Rule.entries, hconditions, hactions, hlogicals]
  exact Entry.perm_groups entries

/-- No entry of a rule stands under the id of another. -/
theorem nodup_entry_ids (hg : g.Reachable) (hok : g.compile metadata now = .ok rule) :
    (rule.entries.map Entry.id).Nodup := by
  obtain ⟨entries, hbecomes, hperm⟩ := exists_becomes_of_compile hok
  rw [(hperm.map Entry.id).nodup_iff]
  have hkeys := hg.wellFormed.keys_nodup
  rw [keys, ← Node.keys_of_becomes hbecomes] at hkeys
  rw [← Function.comp_def, ← List.map_map] at hkeys
  exact List.Nodup.of_map _ hkeys

/-- A node whose words stand for nothing stops the compilation, with the fault of the first node
that does not compile. -/
lemma first_fault_of_unmapped (metadata : RuleMetadata) (now : DateTime)
    (h : ∃ n ∈ g.nodes, n.Unmapped) :
    ∃ before n after fault, g.nodes = before ++ n :: after ∧
      (∀ m ∈ before, ∃ e, m.compile = .ok e) ∧ n.compile = .error fault ∧
      g.compile metadata now = .error fault := by
  obtain ⟨stray, hstray, hunmapped⟩ := h
  cases hentries : g.nodes.mapM Node.compile with
  | ok entries =>
    obtain ⟨e, he⟩ := exists_mapM_eq_ok_iff.mp ⟨entries, hentries⟩ stray hstray
    exact absurd (Node.compile_eq_ok_iff.mp he).type (hunmapped _)
  | error fault =>
    obtain ⟨before, n, after, hnodes, hbefore, hfault⟩ := first_of_mapM_error hentries
    exact ⟨before, n, after, fault, hnodes, hbefore, hfault, bind_eq_error_iff.mpr (.inl hentries)⟩

/-- The salience apart, a graph makes a rule just if every node has an entry that stands for it. -/
lemma exists_compile_iff_becomes : (∃ rule, g.compile metadata now = .ok rule) ↔
    (∀ n ∈ g.nodes, ∃ e, n.Becomes e) ∧
      ∃ salience, Check.whole metadata.salience = .valid salience := by
  simp only [← Node.compile_eq_ok_iff, ← exists_mapM_eq_ok_iff]
  constructor
  · rintro ⟨rule, hok⟩
    obtain ⟨entries, hentries, hrest⟩ := bind_eq_ok_iff.mp hok
    obtain ⟨salience, hsalience, -⟩ := bind_eq_ok_iff.mp hrest
    refine ⟨⟨entries, hentries⟩, salience, ?_⟩
    simpa [CompileFault.ofChecked_eq_ok_iff] using hsalience
  · rintro ⟨⟨entries, hentries⟩, salience, hsalience⟩
    refine ⟨_, bind_eq_ok_iff.mpr ⟨entries, hentries, bind_eq_ok_iff.mpr ⟨salience, ?_, rfl⟩⟩⟩
    simpa [CompileFault.ofChecked_eq_ok_iff] using hsalience

/-- A rule has just one entry for each node of its graph, in the group of its kind and with the type
that its subtype stands for, and no other entries. A node whose words stand for nothing stops the
compilation; what is reported is then the first node that does not compile, as one of unknown kind
just if its own words stand for nothing. -/
theorem compile_keeps_every_node (g : Graph) (metadata : RuleMetadata) (now : Option DateTime)
    (ctx : Context) :
    (∀ rule, (g.compileLogged metadata now).outcome ctx = .ok rule →
      (∃ entries, List.Forall₂ Node.Becomes g.nodes entries ∧ rule.entries.Perm entries) ∧
        (g.Reachable → (rule.entries.map Entry.id).Nodup)) ∧
    ((∃ rule, (g.compileLogged metadata now).outcome ctx = .ok rule) ↔
      (∀ n ∈ g.nodes, ∃ e, n.Becomes e) ∧
        ∃ salience, Check.whole metadata.salience = .valid salience) ∧
    ((∃ n ∈ g.nodes, n.Unmapped) → ∃ before n after fault, g.nodes = before ++ n :: after ∧
      (∀ m ∈ before, ∃ e, m.compile = .ok e) ∧ n.compile = .error fault ∧
      (g.compileLogged metadata now).outcome ctx = .error (.ofCompile fault) ∧
      ((NodeKey.ofJson? n.subtypeValue).isSome →
        ((Fault.ofCompile fault).family? = some .unknownKind ↔ n.Unmapped) ∧
          (n.Unmapped → (Fault.ofCompile fault).details =
            [("node_id", n.id), ("kind", n.kindValue), ("subtype", n.subtypeValue)]))) := by
  simp only [outcome_compileLogged_at, mapError_eq_ok_iff]
  refine ⟨fun rule hok => ?_, exists_compile_iff_becomes, fun hstray => ?_⟩
  · exact ⟨exists_becomes_of_compile hok, fun hg => nodup_entry_ids hg hok⟩
  · obtain ⟨before, n, after, fault, hnodes, hbefore, hfault, hcompile⟩ :=
      first_fault_of_unmapped metadata (now.getD ctx.clock) hstray
    refine ⟨before, n, after, fault, hnodes, hbefore, hfault, by rw [hcompile]; rfl, fun hkey => ?_⟩
    refine ⟨Node.family?_eq_unknownKind_iff hfault hkey, fun hunmapped => ?_⟩
    obtain rfl := Except.error.inj (hfault.symm.trans (Node.compile_of_unmapped hkey hunmapped))
    rfl

/-- A condition of unknown make, an action with a subtype that is on no list, and a node of a kind
that is on none. -/
def strays : List LooseNode :=
  [⟨none, .str "like", [("kind", .str "condition"), ("subtype", .str "email"),
      ("operator", .str "resembles"), ("value", .null)], .text "like", rfl⟩,
    ⟨some .action, .str "points", [("kind", .str "action"), ("subtype", .str "loyalty_points"),
      ("value", .int 100)], .text "points", rfl⟩,
    ⟨none, .str "extra", [("kind", .str "bundle")], .text "extra", rfl⟩]

def ofStrays (nodes : List LooseNode) : Graph :=
  (empty (.int 5)).run (nodes.map fun n => .insert (.loose n))

/-- The first stray becomes a condition in spite of its make. With the others there is no rule. -/
theorem compile_keeps_every_node_strays :
    (∃ rule, ((ofStrays (strays.take 1)).compileLogged sampleMetadata none).outcome
        (Client.sampleContext (.failure "ConnectError" "refused")) = .ok rule ∧
      (∃ entries, List.Forall₂ Node.Becomes (ofStrays (strays.take 1)).nodes entries ∧
        rule.entries.Perm entries) ∧ (rule.entries.map Entry.id).Nodup) ∧
    ∃ before n after fault, (ofStrays strays).nodes = before ++ n :: after ∧
      (∀ m ∈ before, ∃ e, m.compile = .ok e) ∧ n.compile = .error fault ∧
      ((ofStrays strays).compileLogged sampleMetadata none).outcome
        (Client.sampleContext (.failure "ConnectError" "refused")) = .error (.ofCompile fault) ∧
      ((Fault.ofCompile fault).family? = some .unknownKind ↔ n.Unmapped) := by
  have hkeyed : ∀ n ∈ (ofStrays strays).nodes, (NodeKey.ofJson? n.subtypeValue).isSome := by decide
  constructor
  · obtain ⟨hkeeps, -⟩ := compile_keeps_every_node (ofStrays (strays.take 1)) sampleMetadata none
      (Client.sampleContext (.failure "ConnectError" "refused"))
    obtain ⟨hentries, hnodup⟩ := hkeeps _ rfl
    exact ⟨_, rfl, hentries, hnodup ⟨_, _, _, .inl rfl, rfl⟩⟩
  · obtain ⟨-, -, hstops⟩ := compile_keeps_every_node (ofStrays strays) sampleMetadata none
      (Client.sampleContext (.failure "ConnectError" "refused"))
    have hpoints : ∃ n ∈ (ofStrays strays).nodes, n.Unmapped := by
      refine ⟨.loose strays[1], by decide, fun type hmaps => ?_⟩
      have hkind : (Node.loose strays[1]).kind? = some .action := rfl
      obtain ⟨word, hword, htype⟩ := (Node.maps_iff_of_kind? hkind).mp hmaps
      obtain rfl := Json.str.inj hword
      cases htype
    obtain ⟨before, n, after, fault, hnodes, hbefore, hfault, hraised, htold⟩ := hstops hpoints
    refine ⟨before, n, after, fault, hnodes, hbefore, hfault, hraised, (htold ?_).1⟩
    exact hkeyed n (by simp [hnodes])

end Graph
end Promotion
