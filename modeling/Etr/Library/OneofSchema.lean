import Etr.Library.MessageSchema

/-!
Contract: a message whose only field is a oneof of embedded messages.

Owns the variants with their field numbers, writing the one that is present,
merging records under the separately declared list of oneof tags, and the round
trip when that list is the list of the variants' tags.

Does not own messages that mix a oneof with plain fields.
-/

namespace Etr.Library

/-- One alternative of a oneof: an embedded message under a field number. -/
structure Variant (Choice Alternatives : Type) where
  Body : Type
  tag : Nat
  schema : MessageSchema Choice Body
  inject : Body → Alternatives
  project : Alternatives → Option Body
  project_inject : ∀ body, project (inject body) = some body := by intros; rfl

structure OneofSchema (Choice Alternatives : Type) where
  variants : List (Variant Choice Alternatives)
  tagsInRange : ∀ variant ∈ variants, TagInRange variant.tag
  tagsDistinct : (variants.map Variant.tag).Nodup
  /-- No variant nests deeper than the recursion limit lets it. -/
  shallow : ∀ variant ∈ variants, variant.schema.Within (recursionLimit - 1)
  /-- A value of one variant is not taken for an earlier one. -/
  exclusive : variants.Pairwise fun earlier later =>
    ∀ body, earlier.project (later.inject body) = none
  covered : ∀ value, ∃ variant ∈ variants, ∃ body, value = variant.inject body

namespace Variant

variable {Choice Alternatives : Type}

/-- An embedded message is written even when it is empty. -/
def record (variant : Variant Choice Alternatives) (choice : Choice)
    (body : variant.Body) : Record :=
  ⟨variant.tag, .delimited (variant.schema.encode choice body)⟩

def recordOf? (variant : Variant Choice Alternatives) (choice : Choice)
    (value : Alternatives) : Option Record :=
  (variant.project value).map (variant.record choice)

/-- Merge into the current value if it is of this variant, else into a default
message, one level below the message around the oneof. -/
def merge (variant : Variant Choice Alternatives) (current : Option Alternatives) :
    WireValue → Option Alternatives
  | .delimited bytes =>
      (variant.schema.mergeBytes (recursionLimit - 1)
        ((current.bind variant.project).getD variant.schema.default) bytes).map variant.inject
  | _ => none

theorem length_encode_le_record (variant : Variant Choice Alternatives) (choice : Choice)
    (body : variant.Body) :
    (variant.schema.encode choice body).length ≤ (variant.record choice body).encode.length := by
  simp only [record, Record.encode, WireValue.payload, List.length_append]
  omega

theorem merge_record (variant : Variant Choice Alternatives)
    (within : variant.schema.Within (recursionLimit - 1)) (choice : Choice)
    (body : variant.Body) (bounded : (variant.record choice body).encode.length < 2 ^ 64) :
    variant.merge none (variant.record choice body).value = some (variant.inject body) := by
  have inner := Nat.lt_of_le_of_lt (variant.length_encode_le_record choice body) bounded
  have decoded := variant.schema.decode_encode within choice body inner
  rw [MessageSchema.decode] at decoded
  rw [record, merge, Option.bind_none, Option.getD_none, decoded, Option.map_some]

end Variant

namespace OneofSchema

variable {Choice Alternatives : Type} (schema : OneofSchema Choice Alternatives)

/-- The record of the variant that is present. -/
def recordOf? (choice : Choice) (value : Alternatives) : Option Record :=
  schema.variants.findSome? fun variant => variant.recordOf? choice value

/-- `encode` of the message around the oneof. -/
def encode (choice : Choice) (message : Option Alternatives) : List UInt8 :=
  encodeRecords (message.bind (schema.recordOf? choice)).toList

/-- `merge_field`: records under one of `oneofTags` go to the oneof, any others
are skipped. A tag that is listed there and belongs to no variant fails. -/
def mergeRecord (oneofTags : List Nat) (message : Option Alternatives) (record : Record) :
    Option (Option Alternatives) :=
  if record.tag ∈ oneofTags then
    match schema.variants.find? fun variant => variant.tag == record.tag with
    | some variant => (variant.merge message record.value).map some
    | none => none
  else
    some message

/-- Records under one of the declared tags have their wire type checked, any
others are skipped. -/
def oneofUse (oneofTags : List Nat) (tag : Nat) : FieldUse :=
  if tag ∈ oneofTags then .typed else .skipped

/-- `decode` of the message around the oneof. -/
def decode (oneofTags : List Nat) (bytes : List UInt8) : Option (Option Alternatives) :=
  (decodeRecords (oneofUse oneofTags) recursionLimit bytes).bind fun records =>
    records.foldlM (schema.mergeRecord oneofTags) none

theorem findSome?_inject {variants : List (Variant Choice Alternatives)}
    {variant : Variant Choice Alternatives} (choice : Choice) (body : variant.Body)
    (exclusive : variants.Pairwise fun earlier later =>
      ∀ body, earlier.project (later.inject body) = none)
    (member : variant ∈ variants) :
    (variants.findSome? fun other => other.recordOf? choice (variant.inject body)) =
      some (variant.record choice body) := by
  induction variants with
  | nil => exact absurd member List.not_mem_nil
  | cons first rest inductionHypothesis =>
      have parts := List.pairwise_cons.mp exclusive
      rcases List.mem_cons.mp member with same | later
      · subst same
        simp [Variant.recordOf?, variant.project_inject]
      · have skipped : first.recordOf? choice (variant.inject body) = none := by
          rw [Variant.recordOf?, parts.1 variant later body, Option.map_none]
        rw [List.findSome?_cons, skipped]
        exact inductionHypothesis parts.2 later

theorem exists_record (choice : Choice) (value : Alternatives) :
    ∃ variant ∈ schema.variants, ∃ body, value = variant.inject body ∧
      schema.encode choice (some value) = (variant.record choice body).encode := by
  rcases schema.covered value with ⟨variant, member, body, rfl⟩
  have written : schema.recordOf? choice (variant.inject body) =
      some (variant.record choice body) :=
    findSome?_inject choice body schema.exclusive member
  refine ⟨variant, member, body, rfl, ?_⟩
  rw [encode, Option.bind_some, written, Option.toList_some, encodeRecords,
    List.flatMap_singleton]

/-- A record of a variant is read under the declared tags. -/
theorem record_fitsUse {oneofTags : List Nat}
    (declared : oneofTags = schema.variants.map Variant.tag)
    {variant : Variant Choice Alternatives} (member : variant ∈ schema.variants)
    (choice : Choice) (body : variant.Body) :
    (variant.record choice body).FitsUse (oneofUse oneofTags) :=
  .inl (if_pos (declared ▸ List.mem_map_of_mem member))

/-- No part of an encoded message but the empty one decodes. -/
theorem decode_front {oneofTags : List Nat}
    (declared : oneofTags = schema.variants.map Variant.tag) (choice : Choice)
    (message : Option Alternatives)
    (bounded : (schema.encode choice message).length < 2 ^ 64) {count : Nat}
    (positive : 0 < count) (short : count < (schema.encode choice message).length) :
    schema.decode oneofTags ((schema.encode choice message).take count) = none := by
  cases message with
  | none => exact absurd short (Nat.not_lt_zero count)
  | some value =>
      rcases schema.exists_record choice value with ⟨variant, member, body, -, encoded⟩
      rw [encoded] at bounded short ⊢
      have unparsed := decodeRecords_front
        (show TagInRange (variant.record choice body).tag from schema.tagsInRange variant member)
        (schema.record_fitsUse declared member choice body) recursionLimit bounded positive short
      rw [decode, unparsed, Option.bind_none]

/-- **The variant that was written is read back, when the declared tag list is
that of the variants.** -/
theorem decode_encode {oneofTags : List Nat}
    (declared : oneofTags = schema.variants.map Variant.tag) (choice : Choice)
    (message : Option Alternatives)
    (bounded : (schema.encode choice message).length < 2 ^ 64) :
    schema.decode oneofTags (schema.encode choice message) = some message := by
  cases message with
  | none => rfl
  | some value =>
      rcases schema.exists_record choice value with ⟨variant, member, body, rfl, single⟩
      have encoded : schema.encode choice (some (variant.inject body)) =
          encodeRecords [variant.record choice body] := by
        rw [single, encodeRecords, List.flatMap_singleton]
      rw [encoded] at bounded ⊢
      have fits := schema.record_fitsUse declared member choice body
      have parsed : decodeRecords (oneofUse oneofTags) recursionLimit
          (encodeRecords [variant.record choice body]) = some [variant.record choice body] :=
        decodeRecords_encodeRecords
          (by simpa [Variant.record] using schema.tagsInRange variant member)
          (by simpa using fits) recursionLimit bounded
      have listed : (variant.record choice body).tag ∈ oneofTags :=
        declared ▸ List.mem_map_of_mem member
      have found := find?_key_eq_some schema.tagsDistinct member
      have merged := variant.merge_record (schema.shallow variant member) choice body
        (by simpa [encodeRecords] using bounded)
      have step : schema.mergeRecord oneofTags none (variant.record choice body) =
          some (some (variant.inject body)) := by
        rw [mergeRecord, if_pos listed]
        simp only [Variant.record] at merged ⊢
        simp only [found, merged, Option.map_some]
      rw [decode, parsed, Option.bind_some, List.foldlM_cons, step]
      simp

end OneofSchema

end Etr.Library
