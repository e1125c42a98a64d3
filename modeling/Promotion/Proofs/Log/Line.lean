import Promotion.Log.Record
import Promotion.Proofs.Calendar.Conversion
import Promotion.Proofs.Check.Outcome
import Promotion.Proofs.Json.Line

/-! The lines of log records. A line is plain text that is read back as the record's own parts, and
its further attributes stand in a place of their own, whatever their names are. Only the parts that
more is done with than to show them can keep a record from having a line. -/
namespace Promotion

open Json (IsValue)

namespace Fields
variable {fields : Fields} {key : String} {value : Json}

lemma nodup_keys_put (h : fields.keys.Nodup) : (fields.put key value).keys.Nodup := by
  rw [keys_put]
  split
  · exact h
  · next hnew =>
    rw [Bool.not_eq_true, has_eq_false_iff] at hnew
    refine List.nodup_append.mpr ⟨h, List.nodup_singleton key, ?_⟩
    rintro _ hmem _ hlast rfl
    obtain ⟨field, hfield, hkey⟩ := List.mem_map.mp hmem
    exact hnew field hfield (hkey.trans (List.mem_singleton.mp hlast))

lemma eq_or_mem_of_mem_put {field : String × Json} (h : field ∈ fields.put key value) :
    field = (key, value) ∨ field ∈ fields := by
  unfold put at h
  split at h
  · obtain ⟨old, hold, hfield⟩ := List.mem_map.mp h
    split at hfield
    · exact .inl hfield.symm
    · exact .inr (hfield ▸ hold)
  · rw [List.mem_append, List.mem_singleton] at h
    exact h.symm

lemma isValue_put (h : (Json.obj fields).Everywhere IsValue) (hkey : Text.Apart key.toList)
    (hvalue : value.Everywhere IsValue) : (Json.obj (fields.put key value)).Everywhere IsValue := by
  rw [Json.everywhere_obj_iff] at h ⊢
  obtain ⟨⟨hnodup, hkeys⟩, hvalues⟩ := h
  refine ⟨⟨nodup_keys_put hnodup, fun other hother => ?_⟩, fun field hfield => ?_⟩
  · obtain rfl | hold := mem_keys_put.mp hother
    · exact hkey
    · exact hkeys other hold
  · obtain rfl | hold := eq_or_mem_of_mem_put hfield
    · exact hvalue
    · exact hvalues field hold

end Fields

/-- The failure can be told: a value in its place, unless it counts as none, has a text. -/
def LogFailure.Usable (limits : Json.Limits) : LogFailure → Prop
  | .unusable _ => False
  | .nameless value => value.truthy = true → value.KeepsTo limits
  | _ => True

/-- The time in a line is plain text. -/
lemma DateTime.plain_logText (t : DateTime) : Text.Plain t.logText.toList := by
  simp only [logText, dayAndTime, Date.chars, TimeOfDay.chars, fractionChars, offsetChars,
    String.toList_ofList]
  split_ifs <;> simp [Text.plain_padded, Text.isPlain]

namespace LogRecord
variable {r : LogRecord} {limits wider : Json.Limits} {name id : String} {value : Json}
  {attributes parts : Fields}

/-- Sets attributes one after the other. -/
def setAll (r : LogRecord) (attributes : Fields) : LogRecord :=
  attributes.foldl (fun r a => r.set a.1 a.2) r

/-! ### What attributes change -/

/-- What setting one attribute keeps, setting all of them keeps. -/
lemma setAll_induction {P : LogRecord → Prop} {Q : String × Json → Prop}
    (hset : ∀ (r : LogRecord) (a : String × Json), P r → Q a → P (r.set a.1 a.2)) (hr : P r)
    (h : ∀ a ∈ attributes, Q a) : P (r.setAll attributes) := by
  induction attributes generalizing r with
  | nil => exact hr
  | cons a attributes ih =>
    obtain ⟨hfirst, hrest⟩ := List.forall_mem_cons.mp h
    exact ih (hset r a hr hfirst) hrest

/-- The parts of the record itself among its attributes. -/
def own (attributes : Fields) : Fields := attributes.filter (·.1 ∈ reserved)

/-- The names of the parts that more is done with than to show them. -/
def computed : List String := ["msg", "args", "created", "getMessage", "exc_info"]

/-- The values fit the placeholders of the message, if there are any. -/
def Fits (limits : Json.Limits) (r : LogRecord) : Prop :=
  r.arguments.isEmpty = true ∨ ∃ text left,
    Piece.fill limits (Piece.ofText r.message.plain) r.arguments.supply = .ok (text, left) ∧
      left.isSpent = true

/-- The part of the line that tells of the failure, with no text for a value in its place. -/
def shownFailure (r : LogRecord) : Fields :=
  match r.failure with
  | .raised type message => [("exception", .obj [("type", type), ("message", message)])]
  | .nameless _ => [("exception", .obj [("type", .null), ("message", .null)])]
  | _ => []

/-- There is room for the parts that are shown. -/
structure Bounded (limits : Json.Limits) (r : LogRecord) : Prop where
  room : 0 < limits.depth
  level : r.level.KeepsTo limits.inner
  logger : r.logger.KeepsTo limits.inner
  file : r.file.KeepsTo limits.inner
  line : r.line.KeepsTo limits.inner
  function : r.function.KeepsTo limits.inner
  failure : ∀ field ∈ r.shownFailure, field.2.KeepsTo limits.inner
  extra : r.extra ≠ [] → (Json.obj r.extra).KeepsTo limits.inner

/-- The time is one of the years 1 to 9999, the message can be made, the failure has a type and a
message, and there is room for it all. -/
structure Ready (limits : Json.Limits) (r : LogRecord) : Prop where
  time : ∃ t : DateTime, t.offset = some 0 ∧ micros? r.created = .ok t.instant
  free : r.blocked = false
  template : r.message.KeepsTo limits
  fits : r.Fits limits
  failure : r.failure.Usable limits
  bounded : r.Bounded limits

lemma plainText_eq_ok_iff {text : String} :
    plainText limits value = .ok text ↔ value.KeepsTo limits ∧ value.plain = text := by
  rw [plainText, mapError_eq_ok_iff, Json.textWithin_eq_ok_iff]

/-- The part of a line that tells of a failure; only a value in its place adds a text to it. -/
lemma failureFields_cases {failure : Fields} (h : r.failureFields limits = .ok failure) :
    failure = r.shownFailure ∨ ∃ value, r.failure = .nameless value ∧
      failure = [("exception", .obj [("type", .null), ("message", .str value.plain)])] := by
  unfold failureFields at h
  unfold shownFailure
  cases hcase : r.failure with
  | none =>
    rw [hcase] at h
    exact .inl (Except.ok.inj h).symm
  | raised type message =>
    rw [hcase] at h
    exact .inl (Except.ok.inj h).symm
  | nameless value =>
    simp only [hcase] at h
    split_ifs at h
    · obtain ⟨text, htext, h⟩ := bind_eq_ok_iff.mp h
      obtain ⟨-, rfl⟩ := plainText_eq_ok_iff.mp htext
      exact .inr ⟨value, rfl, (Except.ok.inj h).symm⟩
    · exact .inl (Except.ok.inj h).symm
  | unusable fault =>
    rw [hcase] at h
    cases h

/-- The fields of a line, in order. -/
def assemble (r : LogRecord) (id time message : String) (failure : Fields) : Fields :=
  [("timestamp", .str time), ("level", r.level), ("logger", r.logger), ("message", .str message)] ++
    (if id = "" then [] else [("request_id", .str id)]) ++ failure ++
    [("file", r.file), ("line", r.line), ("function", r.function)] ++
    (if r.extra = [] then [] else [("extra", .obj r.extra)])

/-- An attribute that is only shown leaves room for the line if there is room for it where the
further attributes stand. -/
lemma Bounded.set (hr : r.Bounded limits) (h : name ∉ computed) (hroom : 1 < limits.depth)
    (hvalue : value.KeepsTo limits.inner.inner) : (r.set name value).Bounded limits := by
  have hinner : value.KeepsTo limits.inner := hvalue.of_wider limits.inner.wider_of_inner
  obtain ⟨room, level, logger, file, line, function, failure, extra⟩ := hr
  unfold LogRecord.set
  split
  case h_11 =>
    split
    · exact ⟨room, level, logger, file, line, function, failure, extra⟩
    · refine ⟨room, level, logger, file, line, function, failure, fun _ => ?_⟩
      refine Json.keepsTo_obj_iff.mpr ⟨Nat.sub_pos_of_lt hroom, fun field hfield => ?_⟩
      obtain rfl | hold := Fields.eq_or_mem_of_mem_put hfield
      · exact hvalue
      · exact (Json.keepsTo_obj_iff.mp (extra (List.ne_nil_of_mem hold))).2 field hold
  all_goals first | exact absurd h (by decide) | (constructor <;> assumption)

/-- The attributes that are only shown leave alone what a line is computed from. -/
lemma Ready.set (hr : r.Ready limits) (h : name ∉ computed) (hroom : 1 < limits.depth)
    (hvalue : value.KeepsTo limits.inner.inner) : (r.set name value).Ready limits := by
  have hkeep : (r.set name value).created = r.created ∧ (r.set name value).blocked = r.blocked ∧
      (r.set name value).arguments = r.arguments ∧ (r.set name value).message = r.message ∧
      (r.set name value).failure = r.failure := by
    unfold LogRecord.set
    split
    case h_11 => split <;> simp
    all_goals first | exact absurd h (by decide) | simp
  obtain ⟨hcreated, hblocked, harguments, hmessage, hfailure⟩ := hkeep
  have hfits : (r.set name value).Fits limits ↔ r.Fits limits := by
    simp only [Fits, harguments, hmessage]
  obtain ⟨time, free, template, fits, failure, bounded⟩ := hr
  exact ⟨hcreated ▸ time, hblocked ▸ free, hmessage ▸ template, hfits.mpr fits,
    hfailure ▸ failure, bounded.set h hroom hvalue⟩

lemma Ready.setAll (hr : r.Ready limits) (hroom : 1 < limits.depth)
    (h : ∀ a ∈ attributes, a.1 ∉ computed ∧ a.2.KeepsTo limits.inner.inner) :
    (r.setAll attributes).Ready limits :=
  setAll_induction (fun _ _ hr ha => hr.set ha.1 hroom ha.2) hr h

/-- The values that a line is made of are values throughout. -/
structure Sound (r : LogRecord) : Prop where
  level : r.level.Everywhere IsValue
  logger : r.logger.Everywhere IsValue
  file : r.file.Everywhere IsValue
  line : r.line.Everywhere IsValue
  function : r.function.Everywhere IsValue
  failure : ∀ type message, r.failure = .raised type message →
    type.Everywhere IsValue ∧ message.Everywhere IsValue
  extra : (Json.obj r.extra).Everywhere IsValue

/-- No halves of a pair, each on its own, come to stand one behind the other in the texts that are
made for a line. -/
structure Unjoined (limits : Json.Limits) (r : LogRecord) : Prop where
  message : ∀ text, r.messageText limits = .ok text → Text.Apart text.toList
  failure : ∀ value, r.failure = .nameless value → Text.Apart value.plain.toList

lemma Sound.set (hr : r.Sound) (hname : Text.Apart name.toList)
    (hvalue : value.Everywhere IsValue) : (r.set name value).Sound := by
  have hparts : ∀ type message, LogFailure.ofJson value ≠ .raised type message := by
    intro type message h
    unfold LogFailure.ofJson at h
    split_ifs at h
    split at h
    case h_1 =>
      split_ifs at h
      split at h <;> cases h
    all_goals cases h
  obtain ⟨level, logger, file, line, function, failure, extra⟩ := hr
  unfold LogRecord.set
  split
  case h_10 =>
    exact ⟨level, logger, file, line, function, fun type message h => absurd h (hparts _ _), extra⟩
  case h_11 =>
    split
    · exact ⟨level, logger, file, line, function, failure, extra⟩
    · exact ⟨level, logger, file, line, function, failure, Fields.isValue_put extra hname hvalue⟩
  all_goals constructor <;> assumption

lemma Sound.setAll (hr : r.Sound)
    (h : ∀ a ∈ attributes, Text.Apart a.1.toList ∧ a.2.Everywhere IsValue) :
    (r.setAll attributes).Sound :=
  setAll_induction (fun _ _ hr ha => hr.set ha.1 ha.2) hr h

/-- The names of the fields of a line. -/
def fieldNames : List String :=
  ["timestamp", "level", "logger", "message", "request_id", "exception", "file", "line", "function",
    "extra"]

section
variable {time message : String} {failure : Fields}

lemma failureFields_shape (h : r.failureFields limits = .ok failure) :
    failure = [] ∨ ∃ value, failure = [("exception", value)] := by
  obtain rfl | ⟨value, -, rfl⟩ := failureFields_cases h
  · unfold shownFailure
    split
    · exact .inr ⟨_, rfl⟩
    · exact .inr ⟨_, rfl⟩
    · exact .inl rfl
  · exact .inr ⟨_, rfl⟩

lemma keys_assemble (h : r.failureFields limits = .ok failure) :
    (Fields.keys (r.assemble id time message failure)).Sublist fieldNames := by
  by_cases hid : id = "" <;> by_cases hextra : r.extra = [] <;>
    obtain rfl | ⟨value, rfl⟩ := failureFields_shape h <;>
    simp [assemble, fieldNames, Fields.keys, hid, hextra]

lemma isValue_exception {type text : Json} (htype : type.Everywhere IsValue)
    (htext : text.Everywhere IsValue) :
    (Json.obj [("type", type), ("message", text)]).Everywhere IsValue := by
  have hkeys : ∀ key ∈ ["type", "message"], Text.Apart key.toList := by decide
  exact Json.everywhere_obj_iff.mpr ⟨⟨by simp [Fields.keys], hkeys⟩, by simp [htype, htext]⟩

lemma Sound.failureFields (hr : r.Sound) (hjoined : r.Unjoined limits)
    (h : r.failureFields limits = .ok failure) :
    ∀ field ∈ failure, field.2.Everywhere IsValue := by
  obtain rfl | ⟨value, hnameless, rfl⟩ := failureFields_cases h
  · unfold shownFailure
    split
    · next type message hraised =>
      obtain ⟨htype, hmessage⟩ := hr.failure type message hraised
      exact List.forall_mem_singleton.mpr (isValue_exception htype hmessage)
    · exact List.forall_mem_singleton.mpr (isValue_exception trivial trivial)
    · exact List.forall_mem_nil _
  · have htext : (Json.str value.plain).Everywhere IsValue := hjoined.failure value hnameless
    exact List.forall_mem_singleton.mpr (isValue_exception trivial htext)

lemma plain_timeText (h : r.timeText = .ok time) : Text.Plain time.toList := by
  obtain ⟨micros, -, h⟩ := bind_eq_ok_iff.mp h
  split at h
  · next t ht =>
    obtain rfl := Except.ok.inj h
    exact t.plain_logText
  · cases h

lemma Sound.assemble (hr : r.Sound) (hjoined : r.Unjoined limits) (hid : Text.Apart id.toList)
    (htime : r.timeText = .ok time) (hmessage : r.messageText limits = .ok message)
    (hfailure : r.failureFields limits = .ok failure) :
    (Json.obj (r.assemble id time message failure)).Everywhere IsValue := by
  have hnodup : fieldNames.Nodup := by decide
  have hplain : ∀ key ∈ fieldNames, Text.Plain key.toList := by decide
  have hkeys : (Fields.keys (r.assemble id time message failure)).Sublist fieldNames :=
    keys_assemble hfailure
  have htimeValue : (Json.str time).Everywhere IsValue := (plain_timeText htime).apart
  have hmessageValue : (Json.str message).Everywhere IsValue := hjoined.message message hmessage
  have hidValue : (Json.str id).Everywhere IsValue := hid
  refine Json.everywhere_obj_iff.mpr ⟨⟨hnodup.sublist hkeys, fun key hkey =>
    (hplain key (hkeys.subset hkey)).apart⟩, ?_⟩
  simp only [LogRecord.assemble, List.forall_mem_append]
  refine ⟨⟨⟨⟨?_, ?_⟩, hr.failureFields hjoined hfailure⟩, ?_⟩, ?_⟩
  · simp [htimeValue, hmessageValue, hr.level, hr.logger]
  · split <;> simp [hidValue]
  · simp [hr.file, hr.line, hr.function]
  · split <;> simp [hr.extra]

/-- What a record says of itself stands under the names for it, next to the request and with the
further attributes in one place; nothing stands under other names. -/
structure Tells (limits : Json.Limits) (r : LogRecord) (id : String) (parts : Fields) : Prop where
  time : ∃ time, r.timeText = .ok time ∧ parts.get? "timestamp" = some (.str time)
  message : ∃ message, r.messageText limits = .ok message ∧
    parts.get? "message" = some (.str message)
  level : parts.get? "level" = some r.level
  logger : parts.get? "logger" = some r.logger
  file : parts.get? "file" = some r.file
  line : parts.get? "line" = some r.line
  function : parts.get? "function" = some r.function
  requestId : parts.get? "request_id" = if id = "" then none else some (.str id)
  failure : ∃ failure, r.failureFields limits = .ok failure ∧
    parts.get? "exception" = failure.get? "exception"
  extra : parts.get? "extra" = if r.extra = [] then none else some (.obj r.extra)
  names : parts.keys ⊆ fieldNames

end

/-- A record whose texts hold what a line must not. -/
def entry : LogRecord where
  level := .str "ERROR"
  logger := .str "rules\"\u2028"
  message := .str "%s of\n{é😀}"
  arguments := .several [.int 7]
  created := .int 1740821400
  failure := .raised .null (.str "\x1b")
  file := .str "rules.py"
  line := .int 12
  function := .null
  blocked := false
  extra := []

/-- Attributes with the names of fields, and one in the place of the level. -/
def labels : Fields :=
  [("message", .str "none\n"), ("levelname", .str "INFO"), ("extra", .obj [("\\", .float .nan)]),
    ("message", .arr [.null])]

end LogRecord
end Promotion
