import Etr.Library.WireRecord
import Std.Data.ExtTreeMap

/-!
Contract: proto3 messages from a list of fields.

What a writer is free to choose, such as the order of a hash map's entries, is
a parameter of the writing half; the reading half does not see it.

Owns:
- field codecs that carry their own round trip: scalars left out at their
  default, repeated strings, and maps written as repeated entries;
- message schemas that carry the distinctness of their field numbers and the
  independence of their fields;
- the round trip of every message of such a schema.

Does not own any particular message. Unknown fields are skipped, the last
occurrence of a scalar wins, and the entries of a map are read whatever wire
type their key names.
-/

namespace Etr.Library

/-- With distinct keys, a member is found under its key. -/
theorem find?_key_eq_some {Item : Type*} {key : Item → Nat} {items : List Item} {item : Item}
    (distinct : (items.map key).Nodup) (member : item ∈ items) :
    (items.find? fun other => key other == key item) = some item := by
  induction items with
  | nil => exact absurd member List.not_mem_nil
  | cons first rest inductionHypothesis =>
      rw [List.map_cons, List.nodup_cons] at distinct
      rcases List.mem_cons.mp member with same | later
      · subst same
        simp
      · have different : key first ≠ key item := by
          intro clash
          exact distinct.1 (clash ▸ List.mem_map_of_mem later)
        rw [List.find?_cons_of_neg (by simpa using different)]
        exact inductionHypothesis distinct.2 later

/-! ## Field codecs -/

/-- How one field is written, and how its occurrences are merged back with the
levels that are left of the recursion limit. -/
structure FieldCodec (Choice Value : Type) where
  default : Value
  /-- Whether the wire type of an occurrence goes unchecked. -/
  isMap : Bool
  /-- Levels below the message that the field takes. -/
  levels : Nat
  write : Choice → Value → List WireValue
  merge : Nat → Value → WireValue → Option Value
  write_map : isMap = true → ∀ choice value, ∀ wire ∈ write choice value, wire.wireType = 2
  merge_write : ∀ choice depth value, levels ≤ depth →
    (write choice value).foldlM (merge depth) default = some value

namespace FieldCodec

variable {Choice : Type}

def use {Value : Type} (codec : FieldCodec Choice Value) : FieldUse :=
  if codec.isMap then .entry else .typed

/-- At most one occurrence, left out at the default value. -/
def scalar {Value : Type} [DecidableEq Value] (default : Value) (toWire : Value → WireValue)
    (ofWire : WireValue → Option Value)
    (ofWire_toWire : ∀ value, ofWire (toWire value) = some value) : FieldCodec Choice Value where
  default := default
  isMap := false
  levels := 0
  write := fun _ value => if value = default then [] else [toWire value]
  merge := fun _ _ wire => ofWire wire
  write_map := nofun
  merge_write := by
    intro _ _ value _
    by_cases omitted : value = default
    · simp [omitted]
    · simp [omitted, ofWire_toWire value]

def uint32 : FieldCodec Choice UInt32 :=
  scalar 0 (fun value => .varint value.toUInt64)
    (fun
      | .varint number => some number.toUInt32
      | _ => none)
    (fun value => by simp)

def uint64 : FieldCodec Choice UInt64 :=
  scalar 0 .varint
    (fun
      | .varint number => some number
      | _ => none)
    (fun _ => rfl)

def bool : FieldCodec Choice Bool :=
  scalar false (fun value => .varint (if value then 1 else 0))
    (fun
      | .varint number => some (decide (number ≠ 0))
      | _ => none)
    (fun value => by cases value <;> rfl)

/-- Enumerations are written as sign-extended integers, known or not. -/
def enumeration : FieldCodec Choice Int32 :=
  scalar 0 (fun value => .varint value.toInt64.toUInt64)
    (fun
      | .varint number => some number.toInt64.toInt32
      | _ => none)
    (fun value => by simp)

def bytes : FieldCodec Choice (List UInt8) :=
  scalar [] .delimited
    (fun
      | .delimited body => some body
      | _ => none)
    (fun _ => rfl)

/-- The UTF-8 bytes of a string. -/
def utf8 (text : String) : List UInt8 :=
  text.toByteArray.data.toList

/-- Bytes that are not UTF-8 are refused. -/
def ofUtf8 (bytes : List UInt8) : Option String :=
  String.fromUTF8? ⟨bytes.toArray⟩

@[simp] theorem ofUtf8_utf8 (text : String) : ofUtf8 (utf8 text) = some text := by
  have same : (⟨(utf8 text).toArray⟩ : ByteArray) = text.toByteArray := by
    simp [utf8]
  rw [ofUtf8, same, String.fromUTF8?, dif_pos text.isValidUTF8]
  rfl

def string : FieldCodec Choice String :=
  scalar "" (fun value => .delimited (utf8 value))
    (fun
      | .delimited body => ofUtf8 body
      | _ => none)
    ofUtf8_utf8

def appendString (texts : List String) : WireValue → Option (List String)
  | .delimited body => (ofUtf8 body).map fun text => texts ++ [text]
  | _ => none

theorem foldlM_appendString (texts earlier : List String) :
    (texts.map fun text => WireValue.delimited (utf8 text)).foldlM appendString earlier =
      some (earlier ++ texts) := by
  induction texts generalizing earlier with
  | nil => simp
  | cons text rest inductionHypothesis =>
      simp [appendString, inductionHypothesis]

/-- One occurrence for every element, none of them left out. -/
def repeatedString : FieldCodec Choice (List String) where
  default := []
  isMap := false
  levels := 0
  write := fun _ texts => texts.map fun text => .delimited (utf8 text)
  merge := fun _ => appendString
  write_map := nofun
  merge_write := fun _ _ texts _ => foldlM_appendString texts []

end FieldCodec

/-! ## Messages -/

/-- One field of a message. -/
structure Field (Choice Message : Type) where
  Value : Type
  tag : Nat
  codec : FieldCodec Choice Value
  get : Message → Value
  set : Message → Value → Message
  get_set : ∀ message value, get (set message value) = value := by intros; rfl
  set_get : ∀ message, set message (get message) = message := by intros; rfl
  set_set : ∀ message first second, set (set message first) second = set message second := by
    intros; rfl

namespace Field

variable {Choice Message : Type}

def records (field : Field Choice Message) (choice : Choice) (message : Message) : List Record :=
  (field.codec.write choice (field.get message)).map (Record.mk field.tag)

def merge (field : Field Choice Message) (depth : Nat) (message : Message) (wire : WireValue) :
    Option Message :=
  (field.codec.merge depth (field.get message) wire).map (field.set message)

/-- Writing `field` leaves `other` as it is. -/
def Independent (field other : Field Choice Message) : Prop :=
  ∀ message value, other.get (field.set message value) = other.get message

/-- Merging a field acts on its value alone. -/
theorem foldlM_merge (field : Field Choice Message) (depth : Nat) (wires : List WireValue)
    (message : Message) :
    wires.foldlM (field.merge depth) message =
      (wires.foldlM (field.codec.merge depth) (field.get message)).map (field.set message) := by
  induction wires generalizing message with
  | nil => simp [field.set_get]
  | cons wire rest inductionHypothesis =>
      rw [List.foldlM_cons, List.foldlM_cons]
      cases merged : field.codec.merge depth (field.get message) wire with
      | none => simp [merge, merged]
      | some value =>
          simp only [merge, merged, Option.map_some, Option.bind_eq_bind, Option.bind_some]
          rw [inductionHypothesis, field.get_set]
          congr 1
          funext final
          exact field.set_set message value final

end Field

/-- A message type: its fields in the order they are written. -/
structure MessageSchema (Choice Message : Type) where
  default : Message
  fields : List (Field Choice Message)
  tagsInRange : ∀ field ∈ fields, TagInRange field.tag
  tagsDistinct : (fields.map Field.tag).Nodup
  independent : fields.Pairwise Field.Independent
  fresh : ∀ field ∈ fields, field.get default = field.codec.default
  /-- The fields are the whole message. -/
  complete : ∀ message,
    fields.foldl (fun built field => field.set built (field.get message)) default = message

namespace MessageSchema

variable {Choice Message : Type} (schema : MessageSchema Choice Message)

def records (choice : Choice) (message : Message) : List Record :=
  schema.fields.flatMap fun field => field.records choice message

def encode (choice : Choice) (message : Message) : List UInt8 :=
  encodeRecords (schema.records choice message)

/-- What the arms of `merge_field` do with a field number. -/
def use (tag : Nat) : FieldUse :=
  match schema.fields.find? fun field => field.tag == tag with
  | some field => field.codec.use
  | none => .skipped

/-- The recursion limit is deep enough for what the fields embed. -/
def Within (depth : Nat) : Prop :=
  ∀ field ∈ schema.fields, field.codec.levels ≤ depth

instance (depth : Nat) : Decidable (schema.Within depth) :=
  inferInstanceAs (Decidable (∀ field ∈ schema.fields, field.codec.levels ≤ depth))

/-- `merge_field`, for a field the message has. -/
def mergeRecord (depth : Nat) (message : Message) (record : Record) : Option Message :=
  match schema.fields.find? fun field => field.tag == record.tag with
  | some field => field.merge depth message record.value
  | none => some message

/-- `merge`: all fields of a body, into a message that is already there. -/
def mergeBytes (depth : Nat) (message : Message) (bytes : List UInt8) : Option Message :=
  (decodeRecords schema.use depth bytes).bind fun records =>
    records.foldlM (schema.mergeRecord depth) message

def decode (depth : Nat) (bytes : List UInt8) : Option Message :=
  schema.mergeBytes depth schema.default bytes

theorem use_of_mem {field : Field Choice Message} (member : field ∈ schema.fields) :
    schema.use field.tag = field.codec.use := by
  have found := find?_key_eq_some schema.tagsDistinct member
  simp only [use, found]

/-- One field's records set that field, if it is still at its default. -/
theorem foldlM_field_records {field : Field Choice Message} (member : field ∈ schema.fields)
    {depth : Nat} (within : schema.Within depth) (choice : Choice) (message built : Message)
    (fresh : field.get built = field.codec.default) :
    (field.records choice message).foldlM (schema.mergeRecord depth) built =
      some (field.set built (field.get message)) := by
  have found := find?_key_eq_some schema.tagsDistinct member
  have merged :
      (fun message wire => schema.mergeRecord depth message (Record.mk field.tag wire)) =
        field.merge depth := by
    funext message wire
    simp only [mergeRecord, found]
  rw [Field.records, List.foldlM_map, merged, Field.foldlM_merge, fresh,
    field.codec.merge_write choice depth _ (within field member), Option.map_some]

/-- The records of the fields still to come set those fields. -/
theorem foldlM_records {fields : List (Field Choice Message)} {depth : Nat}
    (within : schema.Within depth) (choice : Choice) (message built : Message)
    (members : ∀ field ∈ fields, field ∈ schema.fields)
    (independent : fields.Pairwise Field.Independent)
    (fresh : ∀ field ∈ fields, field.get built = field.codec.default) :
    (fields.flatMap fun field => field.records choice message).foldlM
        (schema.mergeRecord depth) built =
      some (fields.foldl (fun built field => field.set built (field.get message)) built) := by
  induction fields generalizing built with
  | nil => rfl
  | cons field rest inductionHypothesis =>
      have memberParts := List.forall_mem_cons.mp members
      have freshParts := List.forall_mem_cons.mp fresh
      have independentParts := List.pairwise_cons.mp independent
      have first :=
        schema.foldlM_field_records memberParts.1 within choice message built freshParts.1
      have stillFresh : ∀ other ∈ rest,
          other.get (field.set built (field.get message)) = other.codec.default := by
        intro other later
        rw [independentParts.1 other later built (field.get message)]
        exact freshParts.2 other later
      rw [List.flatMap_cons, List.foldlM_append, first, Option.bind_eq_bind, Option.bind_some,
        List.foldl_cons]
      exact inductionHypothesis _ memberParts.2 independentParts.2 stillFresh

theorem tagInRange_of_mem_records {choice : Choice} {message : Message} {record : Record}
    (member : record ∈ schema.records choice message) : TagInRange record.tag := by
  rcases List.mem_flatMap.mp member with ⟨field, fieldMember, occurrence⟩
  rcases List.mem_map.mp occurrence with ⟨wire, -, rfl⟩
  exact schema.tagsInRange field fieldMember

theorem fitsUse_of_mem_records {choice : Choice} {message : Message} {record : Record}
    (member : record ∈ schema.records choice message) : record.FitsUse schema.use := by
  rcases List.mem_flatMap.mp member with ⟨field, fieldMember, occurrence⟩
  rcases List.mem_map.mp occurrence with ⟨wire, written, rfl⟩
  rw [Record.FitsUse, schema.use_of_mem fieldMember, FieldCodec.use]
  cases map : field.codec.isMap with
  | false => exact .inl rfl
  | true => exact .inr ⟨rfl, field.codec.write_map map choice _ wire written⟩

/-- **Every message is decoded from its encoding.** -/
theorem decode_encode {depth : Nat} (within : schema.Within depth) (choice : Choice)
    (message : Message) (bounded : (schema.encode choice message).length < 2 ^ 64) :
    schema.decode depth (schema.encode choice message) = some message := by
  have parsed := decodeRecords_encodeRecords
    (fun _ member => schema.tagInRange_of_mem_records member)
    (fun _ member => schema.fitsUse_of_mem_records member) depth bounded
  have merged := schema.foldlM_records within choice message schema.default
    (fun _ member => member) schema.independent schema.fresh
  rw [decode, mergeBytes, encode, parsed, Option.bind_some, records, merged,
    schema.complete message]

end MessageSchema

/-! ## Maps -/

/-- One entry of a map: a message with the key under 1 and the value under 2. -/
def entrySchema {Choice Key Value : Type} (key : FieldCodec Choice Key)
    (value : FieldCodec Choice Value) : MessageSchema Choice (Key × Value) where
  default := (key.default, value.default)
  fields :=
    [{ Value := Key, tag := 1, codec := key
       get := Prod.fst, set := fun entry key => (key, entry.2) },
     { Value := Value, tag := 2, codec := value
       get := Prod.snd, set := fun entry value => (entry.1, value) }]
  tagsInRange := by simp [TagInRange]
  tagsDistinct := by simp
  independent := by simp [Field.Independent]
  fresh := by simp
  complete := fun _ => rfl

/-- The order in which the entries of a hash map come out: any order, with
every entry once. -/
structure IterationOrder (Key Value : Type) [Ord Key] [Std.TransOrd Key] where
  entries : Std.ExtTreeMap Key Value → List (Key × Value)
  permutation : ∀ table, (entries table).Perm table.toList

/-- Iteration in key order. -/
def IterationOrder.ascending (Key Value : Type) [Ord Key] [Std.TransOrd Key] :
    IterationOrder Key Value where
  entries := Std.ExtTreeMap.toList
  permutation := fun _ => List.Perm.refl _

section Maps

variable {Choice Key Value : Type} [Ord Key] [Std.TransOrd Key] [Std.LawfulEqOrd Key]

def insertAll (table : Std.ExtTreeMap Key Value) (entries : List (Key × Value)) :
    Std.ExtTreeMap Key Value :=
  entries.foldl (fun table entry => table.insert entry.1 entry.2) table

theorem getElem?_insertAll_of_notMem {entries : List (Key × Value)}
    {table : Std.ExtTreeMap Key Value} {key : Key} (absent : key ∉ entries.map Prod.fst) :
    (insertAll table entries)[key]? = table[key]? := by
  induction entries generalizing table with
  | nil => rfl
  | cons entry rest inductionHypothesis =>
      rw [List.map_cons, List.mem_cons, not_or] at absent
      have different : compare entry.1 key ≠ .eq := by
        intro same
        exact absent.1 (Std.LawfulEqOrd.eq_of_compare same).symm
      rw [insertAll, List.foldl_cons, ← insertAll, inductionHypothesis absent.2,
        Std.ExtTreeMap.getElem?_insert, if_neg different]

theorem getElem?_insertAll_of_mem {entries : List (Key × Value)}
    {table : Std.ExtTreeMap Key Value} {entry : Key × Value}
    (distinct : (entries.map Prod.fst).Nodup) (member : entry ∈ entries) :
    (insertAll table entries)[entry.1]? = some entry.2 := by
  induction entries generalizing table with
  | nil => exact absurd member List.not_mem_nil
  | cons first rest inductionHypothesis =>
      rw [List.map_cons, List.nodup_cons] at distinct
      rw [insertAll, List.foldl_cons, ← insertAll]
      rcases List.mem_cons.mp member with same | later
      · subst same
        rw [getElem?_insertAll_of_notMem distinct.1, Std.ExtTreeMap.getElem?_insert]
        simp
      · exact inductionHypothesis distinct.2 later

omit [Std.LawfulEqOrd Key] in
theorem nodup_keys_of_perm {entries : List (Key × Value)} {table : Std.ExtTreeMap Key Value}
    (permuted : entries.Perm table.toList) : (entries.map Prod.fst).Nodup := by
  have keys := permuted.map Prod.fst
  rw [Std.ExtTreeMap.map_fst_toList_eq_keys] at keys
  exact keys.nodup_iff.mpr Std.ExtTreeMap.nodup_keys

/-- Inserting the entries of a map in any order rebuilds it. -/
theorem insertAll_of_perm {entries : List (Key × Value)} {table : Std.ExtTreeMap Key Value}
    (permuted : entries.Perm table.toList) : insertAll ∅ entries = table := by
  have distinct := nodup_keys_of_perm permuted
  apply Std.ExtTreeMap.ext_getElem?
  intro key
  cases stored : table[key]? with
  | none =>
      have absent : key ∉ entries.map Prod.fst := by
        intro listed
        rcases List.mem_map.mp listed with ⟨entry, member, rfl⟩
        have found := Std.ExtTreeMap.mem_toList_iff_getElem?_eq_some.mp
          (permuted.mem_iff.mp member)
        rw [stored] at found
        contradiction
      rw [getElem?_insertAll_of_notMem absent, Std.ExtTreeMap.getElem?_empty]
  | some value =>
      have member : (key, value) ∈ entries :=
        permuted.mem_iff.mpr (Std.ExtTreeMap.mem_toList_iff_getElem?_eq_some.mpr stored)
      have inserted : (insertAll ∅ entries)[(key, value).1]? = some (key, value).2 :=
        getElem?_insertAll_of_mem distinct member
      exact inserted

/-- Merge one embedded entry, a level further down; the last value of a key
wins. -/
def mergeEntry (key : FieldCodec Choice Key) (value : FieldCodec Choice Value) :
    Nat → Std.ExtTreeMap Key Value → WireValue → Option (Std.ExtTreeMap Key Value)
  | depth + 1, table, .delimited body =>
      ((entrySchema key value).decode depth body).map fun entry => table.insert entry.1 entry.2
  | _, _, _ => none

omit [Std.LawfulEqOrd Key] in
theorem foldlM_mergeEntry {key : FieldCodec Choice Key} {value : FieldCodec Choice Value}
    {depth : Nat} (within : (entrySchema key value).Within depth) {choice : Choice}
    (bounded : ∀ entry, ((entrySchema key value).encode choice entry).length < 2 ^ 64)
    (entries : List (Key × Value)) (earlier : Std.ExtTreeMap Key Value) :
    (entries.map fun entry =>
        WireValue.delimited ((entrySchema key value).encode choice entry)).foldlM
          (mergeEntry key value (depth + 1)) earlier = some (insertAll earlier entries) := by
  induction entries generalizing earlier with
  | nil => rfl
  | cons entry rest inductionHypothesis =>
      have decoded := (entrySchema key value).decode_encode within choice entry (bounded entry)
      rw [List.map_cons, List.foldlM_cons, mergeEntry, decoded, Option.map_some,
        Option.bind_eq_bind, Option.bind_some, inductionHypothesis, insertAll, insertAll,
        List.foldl_cons]

omit [Ord Key] [Std.TransOrd Key] [Std.LawfulEqOrd Key] in
theorem entrySchema_within {key : FieldCodec Choice Key} {value : FieldCodec Choice Value}
    {depth : Nat} (enough : max key.levels value.levels ≤ depth) :
    (entrySchema key value).Within depth := by
  have parts := Nat.max_le.mp enough
  intro field member
  simp only [entrySchema, List.mem_cons, List.not_mem_nil, or_false] at member
  rcases member with rfl | rfl
  · exact parts.1
  · exact parts.2

/-- Maps, written as one embedded entry message for every entry. The order is
the writer's choice. -/
def FieldCodec.map (key : FieldCodec (IterationOrder Key Value) Key)
    (value : FieldCodec (IterationOrder Key Value) Value)
    (bounded : ∀ order entry, ((entrySchema key value).encode order entry).length < 2 ^ 64) :
    FieldCodec (IterationOrder Key Value) (Std.ExtTreeMap Key Value) where
  default := ∅
  isMap := true
  levels := max key.levels value.levels + 1
  write := fun order table =>
    (order.entries table).map fun entry => .delimited ((entrySchema key value).encode order entry)
  merge := mergeEntry key value
  write_map := by
    intro _ order table wire written
    rcases List.mem_map.mp written with ⟨entry, -, rfl⟩
    rfl
  merge_write := by
    intro order depth table enough
    obtain ⟨inner, rfl⟩ : ∃ inner, depth = inner + 1 := ⟨depth - 1, by omega⟩
    rw [foldlM_mergeEntry (entrySchema_within (Nat.le_of_succ_le_succ enough)) (bounded order),
      insertAll_of_perm (order.permutation table)]

end Maps

/-! ## Lengths of small messages -/

theorem length_encode_varint_record_le (record : Record) {number : UInt64}
    (isVarint : record.value = .varint number) : record.encode.length ≤ 20 := by
  have key := Varint.length_encode_le (UInt64.ofNat (record.tag * 8 + record.value.wireType))
  have value := Varint.length_encode_le number
  rw [Record.encode, List.length_append, encodeKey, isVarint, WireValue.payload]
  rw [isVarint] at key
  omega

theorem length_encode_delimited_le (tag : Nat) (body : List UInt8) :
    (Record.mk tag (.delimited body)).encode.length ≤ body.length + 20 := by
  have key := Varint.length_encode_le (UInt64.ofNat (tag * 8 + 2))
  have length := Varint.length_encode_le (UInt64.ofNat body.length)
  simp only [Record.encode, encodeKey, WireValue.wireType, WireValue.payload, List.length_append]
  omega

/-- A field that is left out or written once. -/
theorem length_encode_optional_le {wires : List WireValue} {wire : WireValue}
    (written : wires = [] ∨ wires = [wire]) (tag : Nat) :
    (encodeRecords (wires.map (Record.mk tag))).length ≤ (Record.mk tag wire).encode.length := by
  rcases written with rfl | rfl
  · exact Nat.zero_le _
  · simp [encodeRecords]

/-- Entries of two integers are far from 64-bit lengths. -/
theorem length_encode_integer_entry {Choice : Type} (choice : Choice)
    (entry : UInt32 × UInt64) :
    ((entrySchema FieldCodec.uint32 FieldCodec.uint64).encode choice entry).length < 2 ^ 64 := by
  have keyLength := length_encode_varint_record_le ⟨1, .varint entry.1.toUInt64⟩ rfl
  have valueLength := length_encode_varint_record_le ⟨2, .varint entry.2⟩ rfl
  simp only [MessageSchema.encode, MessageSchema.records, entrySchema, Field.records,
    FieldCodec.uint32, FieldCodec.uint64, FieldCodec.scalar, encodeRecords, List.flatMap_cons,
    List.flatMap_nil, List.append_nil, List.length_append, List.flatMap_append]
  by_cases keyOmitted : entry.1 = 0
  · by_cases valueOmitted : entry.2 = 0
    · simp [keyOmitted, valueOmitted]
    · simp [keyOmitted, valueOmitted]
      omega
  · by_cases valueOmitted : entry.2 = 0
    · simp [keyOmitted, valueOmitted]
      omega
    · simp [keyOmitted, valueOmitted]
      omega

end Etr.Library
