import Etr.Library.Varint

/-!
Contract: a protobuf message as a list of tagged wire values.

Owns:
- the wire types of proto3, the record key, one record and a list of records as
  bytes;
- skipping a field that the message does not have, with the groups of older
  writers nested up to the recursion limit;
- the parser of a whole message body into the records of its fields;
- the round trip, for a body whose length fits 64 bits.

Does not own what a record means to a message.
-/

namespace Etr.Library

/-- Payload of one record, by its wire type. -/
inductive WireValue where
  | varint (value : UInt64)
  | fixed64 (bytes : List UInt8) (sized : bytes.length = 8)
  | delimited (bytes : List UInt8)
  | fixed32 (bytes : List UInt8) (sized : bytes.length = 4)
deriving DecidableEq, Repr

namespace WireValue

/-- Wire type number in the record key. -/
def wireType : WireValue → Nat
  | .varint _ => 0
  | .fixed64 _ _ => 1
  | .delimited _ => 2
  | .fixed32 _ _ => 5

/-- Bytes behind the record key. -/
def payload : WireValue → List UInt8
  | .varint value => Varint.encode value
  | .fixed64 bytes _ => bytes
  | .delimited bytes => Varint.encode (UInt64.ofNat bytes.length) ++ bytes
  | .fixed32 bytes _ => bytes

end WireValue

/-- One occurrence of a field. -/
structure Record where
  tag : Nat
  value : WireValue
deriving DecidableEq, Repr

def encodeKey (tag wireType : Nat) : List UInt8 :=
  Varint.encode (UInt64.ofNat (tag * 8 + wireType))

def Record.encode (record : Record) : List UInt8 :=
  encodeKey record.tag record.value.wireType ++ record.value.payload

def encodeRecords (records : List Record) : List UInt8 :=
  records.flatMap Record.encode

/-- Field numbers are 29 bits wide and not zero. -/
def TagInRange (tag : Nat) : Prop :=
  0 < tag ∧ tag < 2 ^ 29

instance (tag : Nat) : Decidable (TagInRange tag) :=
  inferInstanceAs (Decidable (_ ∧ _))

/-! ## Parsing -/

/-- Exactly `count` bytes, and the rest. -/
def takeExact (count : Nat) (bytes : List UInt8) :
    Option ({ taken : List UInt8 // taken.length = count } × List UInt8) :=
  if enough : count ≤ bytes.length then
    some (⟨bytes.take count, List.length_take_of_le enough⟩, bytes.drop count)
  else
    none

/-- `decode_key`: the field number and the wire type, which is at most five. -/
def decodeKey (bytes : List UInt8) : Option ((Nat × Nat) × List UInt8) :=
  (Varint.decode bytes).bind fun key =>
    if key.1.toNat < 2 ^ 32 ∧ key.1.toNat % 8 < 6 ∧ 0 < key.1.toNat / 8 then
      some ((key.1.toNat / 8, key.1.toNat % 8), key.2)
    else
      none

def decodePayload (wireType : Nat) (bytes : List UInt8) : Option (WireValue × List UInt8) :=
  match wireType with
  | 0 => (Varint.decode bytes).map fun number => (.varint number.1, number.2)
  | 1 => (takeExact 8 bytes).map fun fixed => (.fixed64 fixed.1.1 fixed.1.2, fixed.2)
  | 2 => (Varint.decode bytes).bind fun length =>
      (takeExact length.1.toNat length.2).map fun body => (.delimited body.1.1, body.2)
  | 5 => (takeExact 4 bytes).map fun fixed => (.fixed32 fixed.1.1 fixed.1.2, fixed.2)
  | _ => none

/-- The start of a group, a wire type proto3 only skips. -/
def startGroup : Nat := 3

/-- The end of a group. -/
def endGroup : Nat := 4

/-- The fields of a group up to its own end key, at most `fuel` of them. -/
def skipGroup (skip : Nat → Nat → List UInt8 → Option (List UInt8)) (tag : Nat) :
    Nat → List UInt8 → Option (List UInt8)
  | 0, _ => none
  | fuel + 1, bytes =>
      (decodeKey bytes).bind fun key =>
        if key.1.2 = endGroup then
          if key.1.1 = tag then some key.2 else none
        else
          (skip key.1.1 key.1.2 key.2).bind (skipGroup skip tag fuel)

/-- `skip_field`, with the levels that are left of the recursion limit. A key of
a group takes a byte, so the length is fuel enough. -/
def skipField : Nat → Nat → Nat → List UInt8 → Option (List UInt8)
  | 0, _, _, _ => none
  | depth + 1, tag, wireType, bytes =>
      if wireType = startGroup then
        skipGroup (skipField depth) tag bytes.length bytes
      else
        (decodePayload wireType bytes).map Prod.snd

def recursionLimit : Nat := 100

/-- What a message does with a field number. -/
inductive FieldUse where
  /-- No field has it. -/
  | skipped
  /-- The key names the wire type of the value. -/
  | typed
  /-- A map entry, read with its length in front whatever the key names. -/
  | entry
deriving DecidableEq, Repr

/-- The next field of a message, and its record if the message has the field. -/
def decodeField (use : Nat → FieldUse) (depth : Nat) (bytes : List UInt8) :
    Option (Option Record × List UInt8) :=
  (decodeKey bytes).bind fun key =>
    match use key.1.1 with
    | .skipped => (skipField depth key.1.1 key.1.2 key.2).map fun rest => (none, rest)
    | .typed =>
        (decodePayload key.1.2 key.2).map fun parsed => (some ⟨key.1.1, parsed.1⟩, parsed.2)
    | .entry =>
        (decodePayload 2 key.2).map fun parsed => (some ⟨key.1.1, parsed.1⟩, parsed.2)

/-- Fields until the bytes are used up, at most `fuel` of them. -/
def decodeRecordsWithin (use : Nat → FieldUse) (depth : Nat) :
    Nat → List UInt8 → Option (List Record)
  | _, [] => some []
  | 0, _ :: _ => none
  | fuel + 1, byte :: bytes =>
      (decodeField use depth (byte :: bytes)).bind fun first =>
        (decodeRecordsWithin use depth fuel first.2).map fun records =>
          first.1.toList ++ records

/-- The body of a message. No field is empty, so the length is fuel enough. -/
def decodeRecords (use : Nat → FieldUse) (depth : Nat) (bytes : List UInt8) :
    Option (List Record) :=
  decodeRecordsWithin use depth bytes.length bytes

/-- The message has the record's field and reads it as it was written. -/
def Record.FitsUse (use : Nat → FieldUse) (record : Record) : Prop :=
  use record.tag = .typed ∨ use record.tag = .entry ∧ record.value.wireType = 2

/-! ## Every record is read back -/

@[simp] theorem takeExact_append (bytes rest : List UInt8) :
    takeExact bytes.length (bytes ++ rest) = some (⟨bytes, rfl⟩, rest) := by
  have enough : bytes.length ≤ (bytes ++ rest).length := by
    rw [List.length_append]
    omega
  rw [takeExact, dif_pos enough]
  simp

theorem takeExact_append_of_length {count : Nat} {bytes : List UInt8}
    (sized : bytes.length = count) (rest : List UInt8) :
    takeExact count (bytes ++ rest) = some (⟨bytes, sized⟩, rest) := by
  subst sized
  exact takeExact_append bytes rest

theorem decodeKey_encodeKey {tag wireType : Nat} (inRange : TagInRange tag)
    (small : wireType < 6) (rest : List UInt8) :
    decodeKey (encodeKey tag wireType ++ rest) = some ((tag, wireType), rest) := by
  have width : tag * 8 + wireType < 2 ^ 32 := by
    have below := inRange.2
    omega
  have number : (UInt64.ofNat (tag * 8 + wireType)).toNat = tag * 8 + wireType := by
    rw [UInt64.toNat_ofNat']
    exact Nat.mod_eq_of_lt (Nat.lt_trans width (by decide))
  have quotient : (tag * 8 + wireType) / 8 = tag := by omega
  have remainder : (tag * 8 + wireType) % 8 = wireType := by omega
  rw [decodeKey, encodeKey, Varint.decode_encode_append, Option.bind_some, number, quotient,
    remainder, if_pos ⟨width, small, inRange.1⟩]

/-- A value whose payload has a 64-bit length. -/
theorem decodePayload_payload (value : WireValue) (rest : List UInt8)
    (bounded : value.payload.length < 2 ^ 64) :
    decodePayload value.wireType (value.payload ++ rest) = some (value, rest) := by
  cases value with
  | varint value =>
      simp [WireValue.wireType, WireValue.payload, decodePayload]
  | fixed64 bytes sized =>
      simp [WireValue.wireType, WireValue.payload, decodePayload,
        takeExact_append_of_length sized]
  | delimited bytes =>
      rw [WireValue.payload, List.length_append] at bounded
      have length : (UInt64.ofNat bytes.length).toNat = bytes.length := by
        rw [UInt64.toNat_ofNat']
        exact Nat.mod_eq_of_lt (by omega)
      simp only [WireValue.wireType, WireValue.payload, decodePayload, List.append_assoc,
        Varint.decode_encode_append, Option.bind_some]
      rw [takeExact_append_of_length length.symm, Option.map_some]
  | fixed32 bytes sized =>
      simp [WireValue.wireType, WireValue.payload, decodePayload,
        takeExact_append_of_length sized]

theorem wireType_lt (value : WireValue) : value.wireType < 6 := by
  cases value <;> simp [WireValue.wireType]

theorem decodeField_encode {use : Nat → FieldUse} {record : Record}
    (inRange : TagInRange record.tag) (fits : record.FitsUse use) (depth : Nat)
    (rest : List UInt8) (bounded : record.encode.length < 2 ^ 64) :
    decodeField use depth (record.encode ++ rest) = some (some record, rest) := by
  rw [Record.encode, List.length_append] at bounded
  have payloadBounded : record.value.payload.length < 2 ^ 64 := by omega
  have read := decodePayload_payload record.value rest payloadBounded
  rw [decodeField, Record.encode, List.append_assoc,
    decodeKey_encodeKey inRange (wireType_lt record.value), Option.bind_some]
  rcases fits with typed | ⟨entry, delimited⟩
  · simp only [typed]
    rw [read, Option.map_some]
  · simp only [entry]
    rw [← delimited, read, Option.map_some]

/-! ## Bytes behind a record -/

theorem takeExact_append_more {count : Nat} {bytes rest : List UInt8}
    {taken : { taken : List UInt8 // taken.length = count }}
    (split : takeExact count bytes = some (taken, rest)) (more : List UInt8) :
    takeExact count (bytes ++ more) = some (taken, rest ++ more) := by
  unfold takeExact at split
  split at split
  · rename_i enough
    cases split
    have whole : bytes ++ more = bytes.take count ++ (bytes.drop count ++ more) := by
      rw [← List.append_assoc, List.take_append_drop]
    rw [whole, takeExact_append_of_length (List.length_take_of_le enough)]
  · contradiction

theorem decodePayload_append {wireType : Nat} {bytes rest : List UInt8} {value : WireValue}
    (parsed : decodePayload wireType bytes = some (value, rest)) (more : List UInt8) :
    decodePayload wireType (bytes ++ more) = some (value, rest ++ more) := by
  unfold decodePayload at parsed ⊢
  split at parsed
  · rcases Option.map_eq_some_iff.mp parsed with ⟨number, read, same⟩
    cases same
    rw [Varint.decode_append read, Option.map_some]
  · rcases Option.map_eq_some_iff.mp parsed with ⟨fixed, split, same⟩
    cases same
    rw [takeExact_append_more split, Option.map_some]
  · rcases Option.bind_eq_some_iff.mp parsed with ⟨length, read, body⟩
    rcases Option.map_eq_some_iff.mp body with ⟨fixed, split, same⟩
    cases same
    rw [Varint.decode_append read, Option.bind_some, takeExact_append_more split,
      Option.map_some]
  · rcases Option.map_eq_some_iff.mp parsed with ⟨fixed, split, same⟩
    cases same
    rw [takeExact_append_more split, Option.map_some]
  · contradiction

theorem decodeKey_append {bytes rest : List UInt8} {key : Nat × Nat}
    (parsed : decodeKey bytes = some (key, rest)) (more : List UInt8) :
    decodeKey (bytes ++ more) = some (key, rest ++ more) := by
  rcases Option.bind_eq_some_iff.mp parsed with ⟨number, read, checked⟩
  split at checked
  · rename_i inRange
    cases checked
    rw [decodeKey, Varint.decode_append read, Option.bind_some, if_pos inRange]
  · contradiction

/-- More bytes and more fuel leave a group that was skipped as it is. -/
theorem skipGroup_append {skip : Nat → Nat → List UInt8 → Option (List UInt8)}
    (stable : ∀ tag wireType bytes rest more, skip tag wireType bytes = some rest →
      skip tag wireType (bytes ++ more) = some (rest ++ more))
    {tag fuel larger : Nat} {bytes rest : List UInt8}
    (skipped : skipGroup skip tag fuel bytes = some rest) (more : List UInt8)
    (enough : fuel ≤ larger) : skipGroup skip tag larger (bytes ++ more) = some (rest ++ more) := by
  induction fuel generalizing bytes larger with
  | zero => cases skipped
  | succ fuel inductionHypothesis =>
      obtain ⟨smaller, rfl⟩ : ∃ smaller, larger = smaller + 1 := ⟨larger - 1, by omega⟩
      rcases Option.bind_eq_some_iff.mp skipped with ⟨key, keyed, tail⟩
      rw [skipGroup, decodeKey_append keyed, Option.bind_some]
      split at tail
      · rename_i ended
        split at tail
        · rename_i same
          cases tail
          rw [if_pos ended, if_pos same]
        · contradiction
      · rename_i inner
        rcases Option.bind_eq_some_iff.mp tail with ⟨behind, field, others⟩
        rw [if_neg inner, stable _ _ _ _ more field, Option.bind_some]
        exact inductionHypothesis others (Nat.le_of_succ_le_succ enough)

theorem skipField_append (depth tag wireType : Nat) (bytes rest more : List UInt8)
    (skipped : skipField depth tag wireType bytes = some rest) :
    skipField depth tag wireType (bytes ++ more) = some (rest ++ more) := by
  induction depth generalizing tag wireType bytes rest more with
  | zero => cases skipped
  | succ depth inductionHypothesis =>
      unfold skipField at skipped ⊢
      split at skipped
      · rename_i group
        rw [if_pos group]
        refine skipGroup_append inductionHypothesis skipped more ?_
        rw [List.length_append]
        exact Nat.le_add_right _ _
      · rename_i single
        rcases Option.map_eq_some_iff.mp skipped with ⟨parsed, read, same⟩
        subst same
        rw [if_neg single, decodePayload_append read more, Option.map_some]

/-- A field that was parsed is the same with more bytes behind it. -/
theorem decodeField_append {use : Nat → FieldUse} {depth : Nat} {bytes rest : List UInt8}
    {field : Option Record} (parsed : decodeField use depth bytes = some (field, rest))
    (more : List UInt8) :
    decodeField use depth (bytes ++ more) = some (field, rest ++ more) := by
  rcases Option.bind_eq_some_iff.mp parsed with ⟨key, keyed, body⟩
  rw [decodeField, decodeKey_append keyed, Option.bind_some]
  cases used : use key.1.1 with
  | skipped =>
      simp only [used] at body ⊢
      rcases Option.map_eq_some_iff.mp body with ⟨behind, skipped, same⟩
      cases same
      rw [skipField_append _ _ _ _ _ more skipped, Option.map_some]
  | typed =>
      simp only [used] at body ⊢
      rcases Option.map_eq_some_iff.mp body with ⟨value, valued, same⟩
      cases same
      rw [decodePayload_append valued, Option.map_some]
  | entry =>
      simp only [used] at body ⊢
      rcases Option.map_eq_some_iff.mp body with ⟨value, valued, same⟩
      cases same
      rw [decodePayload_append valued, Option.map_some]

/-! ## The fuel suffices -/

theorem takeExact_length_le {count : Nat} {bytes rest : List UInt8}
    {taken : { taken : List UInt8 // taken.length = count }}
    (split : takeExact count bytes = some (taken, rest)) : rest.length ≤ bytes.length := by
  unfold takeExact at split
  split at split
  · cases split
    simp
  · contradiction

theorem decodePayload_length_le {wireType : Nat} {bytes rest : List UInt8} {value : WireValue}
    (parsed : decodePayload wireType bytes = some (value, rest)) :
    rest.length ≤ bytes.length := by
  unfold decodePayload at parsed
  split at parsed
  · rcases Option.map_eq_some_iff.mp parsed with ⟨number, read, same⟩
    cases same
    exact Nat.le_of_lt (Varint.length_lt_of_decode read)
  · rcases Option.map_eq_some_iff.mp parsed with ⟨fixed, split, same⟩
    cases same
    exact takeExact_length_le split
  · rcases Option.bind_eq_some_iff.mp parsed with ⟨length, read, body⟩
    rcases Option.map_eq_some_iff.mp body with ⟨fixed, split, same⟩
    cases same
    have shorter := Varint.length_lt_of_decode read
    have shortest := takeExact_length_le split
    omega
  · rcases Option.map_eq_some_iff.mp parsed with ⟨fixed, split, same⟩
    cases same
    exact takeExact_length_le split
  · contradiction

theorem decodeKey_length_lt {bytes rest : List UInt8} {key : Nat × Nat}
    (parsed : decodeKey bytes = some (key, rest)) : rest.length < bytes.length := by
  rcases Option.bind_eq_some_iff.mp parsed with ⟨number, read, checked⟩
  split at checked
  · cases checked
    exact Varint.length_lt_of_decode read
  · contradiction

theorem skipGroup_length_le {skip : Nat → Nat → List UInt8 → Option (List UInt8)}
    (shrinks : ∀ tag wireType bytes rest, skip tag wireType bytes = some rest →
      rest.length ≤ bytes.length)
    {tag fuel : Nat} {bytes rest : List UInt8}
    (skipped : skipGroup skip tag fuel bytes = some rest) : rest.length ≤ bytes.length := by
  induction fuel generalizing bytes with
  | zero => cases skipped
  | succ fuel inductionHypothesis =>
      rcases Option.bind_eq_some_iff.mp skipped with ⟨key, keyed, tail⟩
      have shorter := decodeKey_length_lt keyed
      split at tail
      · split at tail
        · cases tail
          exact Nat.le_of_lt shorter
        · contradiction
      · rcases Option.bind_eq_some_iff.mp tail with ⟨behind, field, others⟩
        have first := shrinks _ _ _ _ field
        have later := inductionHypothesis others
        omega

theorem skipField_length_le (depth tag wireType : Nat) (bytes rest : List UInt8)
    (skipped : skipField depth tag wireType bytes = some rest) : rest.length ≤ bytes.length := by
  induction depth generalizing tag wireType bytes rest with
  | zero => cases skipped
  | succ depth inductionHypothesis =>
      unfold skipField at skipped
      split at skipped
      · exact skipGroup_length_le inductionHypothesis skipped
      · rcases Option.map_eq_some_iff.mp skipped with ⟨parsed, read, same⟩
        subst same
        exact decodePayload_length_le read

/-- A field takes at least one byte away. -/
theorem decodeField_length_lt {use : Nat → FieldUse} {depth : Nat} {bytes rest : List UInt8}
    {field : Option Record} (parsed : decodeField use depth bytes = some (field, rest)) :
    rest.length < bytes.length := by
  rcases Option.bind_eq_some_iff.mp parsed with ⟨key, keyed, body⟩
  have shorter := decodeKey_length_lt keyed
  refine Nat.lt_of_le_of_lt ?_ shorter
  cases used : use key.1.1 with
  | skipped =>
      simp only [used] at body
      rcases Option.map_eq_some_iff.mp body with ⟨behind, skipped, same⟩
      cases same
      exact skipField_length_le _ _ _ _ _ skipped
  | typed =>
      simp only [used] at body
      rcases Option.map_eq_some_iff.mp body with ⟨value, valued, same⟩
      cases same
      exact decodePayload_length_le valued
  | entry =>
      simp only [used] at body
      rcases Option.map_eq_some_iff.mp body with ⟨value, valued, same⟩
      cases same
      exact decodePayload_length_le valued

/-- No part of a record but the empty one parses. -/
theorem decodeRecords_front {use : Nat → FieldUse} {record : Record}
    (inRange : TagInRange record.tag) (fits : record.FitsUse use) (depth : Nat)
    (bounded : record.encode.length < 2 ^ 64) {count : Nat} (positive : 0 < count)
    (short : count < record.encode.length) :
    decodeRecords use depth (record.encode.take count) = none := by
  cases front : record.encode.take count with
  | nil =>
      have empty := congrArg List.length front
      rw [List.length_take_of_le (Nat.le_of_lt short), List.length_nil] at empty
      omega
  | cons byte tail =>
      cases parsed : decodeField use depth (byte :: tail) with
      | none => simp only [decodeRecords, List.length_cons, decodeRecordsWithin, parsed,
          Option.bind_none]
      | some first =>
          -- The rest of the record would then be left over behind the record.
          have whole := decodeField_append parsed (record.encode.drop count)
          have exact := decodeField_encode inRange fits depth [] bounded
          rw [← front, List.take_append_drop] at whole
          rw [List.append_nil, whole, Option.some.injEq, Prod.mk.injEq, List.append_eq_nil_iff,
            List.drop_eq_nil_iff] at exact
          omega

/-- More fuel than bytes changes nothing. -/
theorem decodeRecordsWithin_eq {use : Nat → FieldUse} {depth fuel : Nat} {bytes : List UInt8}
    (enough : bytes.length ≤ fuel) :
    decodeRecordsWithin use depth fuel bytes = decodeRecords use depth bytes := by
  unfold decodeRecords
  induction bound : bytes.length using Nat.strongRecOn generalizing fuel bytes with
  | ind size inductionHypothesis =>
      cases bytes with
      | nil => cases fuel <;> cases size <;> rfl
      | cons byte tail =>
          rw [List.length_cons] at enough bound
          obtain ⟨moreFuel, rfl⟩ : ∃ moreFuel, fuel = moreFuel + 1 := ⟨fuel - 1, by omega⟩
          subst bound
          simp only [decodeRecordsWithin]
          cases parsed : decodeField use depth (byte :: tail) with
          | none => rfl
          | some first =>
              have shorter := decodeField_length_lt parsed
              rw [List.length_cons] at shorter
              have left := inductionHypothesis first.2.length shorter
                (show first.2.length ≤ moreFuel by omega) rfl
              have right := inductionHypothesis first.2.length shorter
                (show first.2.length ≤ tail.length by omega) rfl
              rw [Option.bind_some, Option.bind_some, left, right]

/-- **The records of a message body are read back by a message that has their
fields.** -/
theorem decodeRecords_encodeRecords {use : Nat → FieldUse} {records : List Record}
    (inRange : ∀ record ∈ records, TagInRange record.tag)
    (fits : ∀ record ∈ records, record.FitsUse use) (depth : Nat)
    (bounded : (encodeRecords records).length < 2 ^ 64) :
    decodeRecords use depth (encodeRecords records) = some records := by
  induction records with
  | nil => rfl
  | cons record rest inductionHypothesis =>
      have rangeParts := List.forall_mem_cons.mp inRange
      have fitParts := List.forall_mem_cons.mp fits
      rw [encodeRecords, List.flatMap_cons] at bounded ⊢
      rw [List.length_append] at bounded
      have first := decodeField_encode rangeParts.1 fitParts.1 depth
        (rest.flatMap Record.encode) (by omega : record.encode.length < 2 ^ 64)
      have others := inductionHypothesis rangeParts.2 fitParts.2
        (show (encodeRecords rest).length < 2 ^ 64 by rw [encodeRecords]; omega)
      have consumed := decodeField_length_lt first
      cases body : record.encode ++ rest.flatMap Record.encode with
      | nil => simp [body] at consumed
      | cons byte tail =>
          rw [body] at first consumed
          have enough : (rest.flatMap Record.encode).length ≤ tail.length :=
            Nat.le_of_lt_succ consumed
          rw [decodeRecords, List.length_cons, decodeRecordsWithin, first, Option.bind_some,
            decodeRecordsWithin_eq enough, ← encodeRecords, others, Option.map_some,
            Option.toList_some, List.singleton_append]

end Etr.Library
