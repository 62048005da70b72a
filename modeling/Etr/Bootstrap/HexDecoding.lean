import Etr.Bootstrap.Fields

/-!
Contract: `hex_decode`, which stands in `src/bin/etr.rs`, `src/bin/etrs.rs` and
`src/forward.rs` with the same body.

Owns the loop over byte offsets with the slice and the integer parser it calls,
its agreement with the decoder over characters, the bytes a string of digits
spells, and the strings on which the decoder is total and exact.

Does not own who calls it.
-/

namespace Etr.Bootstrap

/-! ## The loop over byte offsets -/

/-- `len` of a string: its bytes. -/
def byteLength (text : Text) : Nat :=
  (text.map Char.utf8Size).sum

/-- A string in two at a byte offset, if that is a character boundary. -/
def splitAtByte : Nat → Text → Option (Text × Text)
  | 0, text => some ([], text)
  | _ + 1, [] => none
  | offset + 1, c :: rest =>
      if c.utf8Size ≤ offset + 1 then
        (splitAtByte (offset + 1 - c.utf8Size) rest).map fun parts => (c :: parts.1, parts.2)
      else
        none

/-- `&s[start..start + 2]`. -/
def sliceOfTwo (text : Text) (start : Nat) : Except SlicePanic Text :=
  match (splitAtByte start text).bind fun parts => splitAtByte 2 parts.2 with
  | none => .error .notCharBoundary
  | some parts => .ok parts.1

/-- The digits of `u8::from_str_radix(_, 16)` behind those read so far, with
its two overflow checks. -/
def radixDigits (value : Nat) : Text → Option Nat
  | [] => some value
  | c :: rest =>
      if value * 16 < 256 then
        (hexValue c).bind fun digit =>
          if value * 16 + digit < 256 then radixDigits (value * 16 + digit) rest else none
      else
        none

/-- `u8::from_str_radix(_, 16)`: no digit at all is an error, and a plus sign may
come first. A minus sign is left to be no digit, since the type is unsigned. -/
def fromStrRadix16 (text : Text) : Option UInt8 :=
  let digits := if text.head? = some '+' then text.tail else text
  if digits.isEmpty then none else (radixDigits 0 digits).map UInt8.ofNat

/-- `(0..s.len()).step_by(2).map(..).collect()`, with so many slices left from
`start` on. The first one that is no number ends it. -/
def hexDecodeFrom (text : Text) (start : Nat) : Nat → Except SlicePanic (Option (List UInt8))
  | 0 => .ok (some [])
  | slices + 1 =>
      match sliceOfTwo text start with
      | .error panicked => .error panicked
      | .ok slice =>
          match fromStrRadix16 slice with
          | none => .ok none
          | some byte =>
              (hexDecodeFrom text (start + 2) slices).map fun bytes => bytes.map (byte :: ·)

/-- `hex_decode`. -/
def hexDecodeOffsets (text : Text) : Except SlicePanic (Option (List UInt8)) :=
  if byteLength text % 2 = 0 then hexDecodeFrom text 0 (byteLength text / 2) else .ok none

/-! ### Slices -/

theorem byteLength_append (front text : Text) :
    byteLength (front ++ text) = byteLength front + byteLength text := by
  rw [byteLength, List.map_append, List.sum_append, byteLength, byteLength]

theorem byteLength_cons (c : Char) (text : Text) :
    byteLength (c :: text) = c.utf8Size + byteLength text := by
  rw [byteLength, List.map_cons, List.sum_cons, byteLength]

theorem splitAtByte_cons {c : Char} {offset : Nat} (behind : c.utf8Size ≤ offset) (text : Text) :
    splitAtByte offset (c :: text) =
      (splitAtByte (offset - c.utf8Size) text).map fun parts => (c :: parts.1, parts.2) := by
  have filled := c.utf8Size_pos
  cases offset with
  | zero => omega
  | succ offset => rw [splitAtByte, if_pos behind]

theorem splitAtByte_cut {c : Char} {offset : Nat} (inside : offset < c.utf8Size)
    (started : 0 < offset) (text : Text) : splitAtByte offset (c :: text) = none := by
  cases offset with
  | zero => omega
  | succ offset => rw [splitAtByte, if_neg (by omega)]

/-- The end of a prefix is a character boundary. -/
theorem splitAtByte_byteLength (front text : Text) :
    splitAtByte (byteLength front) (front ++ text) = some (front, text) := by
  induction front with
  | nil =>
      have nothing : byteLength [] = 0 := rfl
      rw [nothing, List.nil_append, splitAtByte]
  | cons c front inductionHypothesis =>
      rw [List.cons_append, byteLength_cons, splitAtByte_cons (by omega), Nat.add_sub_cancel_left,
        inductionHypothesis, Option.map_some]

/-- A slice sees nothing of what is in front of it. -/
theorem sliceOfTwo_append (front text : Text) :
    sliceOfTwo (front ++ text) (byteLength front) = sliceOfTwo text 0 := by
  rw [sliceOfTwo, splitAtByte_byteLength, sliceOfTwo, splitAtByte, Option.bind_some,
    Option.bind_some]

/-- A slice panics where its end is inside of a character. -/
theorem sliceOfTwo_cut {text : Text} (cut : splitAtByte 2 text = none) :
    sliceOfTwo text 0 = .error .notCharBoundary := by
  rw [sliceOfTwo, splitAtByte, Option.bind_some, cut]

theorem sliceOfTwo_whole {text : Text} {parts : Text × Text}
    (whole : splitAtByte 2 text = some parts) : sliceOfTwo text 0 = .ok parts.1 := by
  rw [sliceOfTwo, splitAtByte, Option.bind_some, whole]

/-- A character of two bytes is a slice. -/
theorem sliceOfTwo_wide {c : Char} (wide : c.utf8Size = 2) (text : Text) :
    sliceOfTwo (c :: text) 0 = .ok [c] := by
  have whole : splitAtByte 2 (c :: text) = some ([c], text) := by
    rw [splitAtByte_cons (by omega), wide, Nat.sub_self, splitAtByte, Option.map_some]
  exact sliceOfTwo_whole whole

/-- And so are two characters of one byte. -/
theorem sliceOfTwo_narrow {high low : Char} (highNarrow : high.utf8Size = 1)
    (lowNarrow : low.utf8Size = 1) (text : Text) :
    sliceOfTwo (high :: low :: text) 0 = .ok [high, low] := by
  have whole : splitAtByte 2 (high :: low :: text) = some ([high, low], text) := by
    rw [splitAtByte_cons (by omega), highNarrow, splitAtByte_cons (by omega), lowNarrow,
      Nat.sub_self, splitAtByte, Option.map_some, Option.map_some]
  exact sliceOfTwo_whole whole

/-- A longer character is cut. -/
theorem sliceOfTwo_long {c : Char} (long : 2 < c.utf8Size) (text : Text) :
    sliceOfTwo (c :: text) 0 = .error .notCharBoundary :=
  sliceOfTwo_cut (splitAtByte_cut long (by omega) text)

/-- So is one that is not of a single byte behind one that is. -/
theorem sliceOfTwo_behind {high low : Char} (highNarrow : high.utf8Size = 1)
    (lowWide : 1 < low.utf8Size) (text : Text) :
    sliceOfTwo (high :: low :: text) 0 = .error .notCharBoundary := by
  apply sliceOfTwo_cut
  rw [splitAtByte_cons (by omega), highNarrow, splitAtByte_cut lowWide (by omega),
    Option.map_none]

/-! ### The integer parser on a slice -/

theorem hexValue_lt {c : Char} {value : Nat} (digit : hexValue c = some value) : value < 16 := by
  unfold hexValue at digit
  split at digit
  · rename_i decimal
    have bounded : c.toNat ≤ '9'.toNat := decimal.2
    have read := Option.some.inj digit
    simp only [Char.reduceToNat] at bounded read
    omega
  · split at digit
    · rename_i lower
      have bounded : c.toNat ≤ 'f'.toNat := lower.2
      have read := Option.some.inj digit
      simp only [Char.reduceToNat] at bounded read
      omega
    · split at digit
      · rename_i upper
        have bounded : c.toNat ≤ 'F'.toNat := upper.2
        have read := Option.some.inj digit
        simp only [Char.reduceToNat] at bounded read
        omega
      · contradiction

/-- A first digit overflows nothing. -/
theorem radixDigits_first (c : Char) (rest : Text) :
    radixDigits 0 (c :: rest) = (hexValue c).bind fun digit => radixDigits digit rest := by
  rw [radixDigits, if_pos (by omega)]
  cases digit : hexValue c with
  | none => rfl
  | some value =>
      have bounded := hexValue_lt digit
      rw [Option.bind_some, if_pos (by omega), Option.bind_some, Nat.zero_mul, Nat.zero_add]

/-- Nor does a second one. -/
theorem radixDigits_second {value : Nat} (bounded : value < 16) (c : Char) :
    radixDigits value [c] = (hexValue c).map fun digit => value * 16 + digit := by
  rw [radixDigits, if_pos (by omega)]
  cases digit : hexValue c with
  | none => rfl
  | some low =>
      have lowBounded := hexValue_lt digit
      rw [Option.bind_some, if_pos (by omega), radixDigits, Option.map_some]

/-- A character of two bytes is no number. -/
theorem fromStrRadix16_wide {c : Char} (wide : c.utf8Size = 2) : fromStrRadix16 [c] = none := by
  have noPlus : c ≠ '+' := by
    rintro rfl
    contradiction
  have noDigit : hexValue c = none := by
    cases digit : hexValue c with
    | none => rfl
    | some value =>
        rw [utf8Size_of_hexValue digit] at wide
        contradiction
  simp only [fromStrRadix16, List.head?_cons, Option.some.injEq, if_neg noPlus, List.isEmpty_cons,
    radixDigits_first, noDigit, Option.bind_none, Option.map_none, ite_self]

/-- On two characters the parser is the decoder of a pair. -/
theorem fromStrRadix16_pair (high low : Char) : fromStrRadix16 [high, low] = hexPair high low := by
  by_cases plus : high = '+'
  · simp only [fromStrRadix16, List.head?_cons, Option.some.injEq, if_pos plus, List.tail_cons,
      List.isEmpty_cons, Bool.false_eq_true, if_false, radixDigits_first, hexPair]
    cases hexValue low with
    | none => rfl
    | some value => rfl
  · simp only [fromStrRadix16, List.head?_cons, Option.some.injEq, if_neg plus, List.isEmpty_cons,
      Bool.false_eq_true, if_false, radixDigits_first, hexPair]
    cases digit : hexValue high with
    | none => rfl
    | some upper =>
        rw [Option.bind_some, Option.bind_some, radixDigits_second (hexValue_lt digit),
          Option.map_map]
        rfl

/-! ### The offsets read the characters -/

/-- The loop from a prefix on reads what is left, as many slices as it has. -/
theorem hexDecodeFrom_append (front text : Text) (slices : Nat)
    (even : byteLength text = 2 * slices) :
    hexDecodeFrom (front ++ text) (byteLength front) slices = hexDecodeSlices text := by
  fun_induction hexDecodeSlices text generalizing front slices with
  | case1 =>
      have finished : slices = 0 := by
        rw [byteLength, List.map_nil, List.sum_nil] at even
        omega
      rw [finished, hexDecodeFrom]
  | case2 c wide =>
      have last : slices = 0 + 1 := by
        rw [byteLength_cons, wide, byteLength, List.map_nil, List.sum_nil] at even
        omega
      rw [last, hexDecodeFrom, sliceOfTwo_append, sliceOfTwo_wide wide]
      simp only [fromStrRadix16_wide wide]
  | case3 c wide =>
      have filled := c.utf8Size_pos
      rw [byteLength_cons, byteLength, List.map_nil, List.sum_nil] at even
      obtain ⟨others, rfl⟩ : ∃ others, slices = others + 1 := ⟨slices - 1, by omega⟩
      rw [hexDecodeFrom, sliceOfTwo_append, sliceOfTwo_long (by omega)]
  | case4 high low rest wide =>
      rw [byteLength_cons, wide] at even
      obtain ⟨others, rfl⟩ : ∃ others, slices = others + 1 := ⟨slices - 1, by omega⟩
      rw [hexDecodeFrom, sliceOfTwo_append, sliceOfTwo_wide wide]
      simp only [fromStrRadix16_wide wide]
  | case5 high low rest wide narrow pair =>
      rw [byteLength_cons, byteLength_cons, narrow.1, narrow.2] at even
      obtain ⟨others, rfl⟩ : ∃ others, slices = others + 1 := ⟨slices - 1, by omega⟩
      rw [hexDecodeFrom, sliceOfTwo_append, sliceOfTwo_narrow narrow.1 narrow.2]
      simp only [fromStrRadix16_pair, pair]
  | case6 high low rest wide narrow byte pair inductionHypothesis =>
      rw [byteLength_cons, byteLength_cons, narrow.1, narrow.2] at even
      obtain ⟨others, rfl⟩ : ∃ others, slices = others + 1 := ⟨slices - 1, by omega⟩
      have behind := inductionHypothesis (front ++ [high, low]) others (by omega)
      have ends : byteLength (front ++ [high, low]) = byteLength front + 2 := by
        rw [byteLength_append, byteLength_cons, byteLength_cons, narrow.1, narrow.2]
        rfl
      rw [List.append_assoc, ends] at behind
      rw [hexDecodeFrom, sliceOfTwo_append, sliceOfTwo_narrow narrow.1 narrow.2]
      simp only [fromStrRadix16_pair, pair]
      rw [show front ++ high :: low :: rest = front ++ ([high, low] ++ rest) from rfl, behind]
  | case7 high low rest wide cut =>
      have filled := high.utf8Size_pos
      have lowFilled := low.utf8Size_pos
      rw [byteLength_cons, byteLength_cons] at even
      obtain ⟨others, rfl⟩ : ∃ others, slices = others + 1 := ⟨slices - 1, by omega⟩
      rw [hexDecodeFrom, sliceOfTwo_append]
      by_cases narrow : high.utf8Size = 1
      · rw [sliceOfTwo_behind narrow (by omega)]
      · rw [sliceOfTwo_long (by omega)]

/-- **The loop over offsets is the decoder of slices.** -/
theorem hexDecodeOffsets_eq (text : Text) : hexDecodeOffsets text = hexDecodeBytes text := by
  rw [hexDecodeOffsets, hexDecodeBytes, ← byteLength]
  split
  · rename_i even
    have whole := hexDecodeFrom_append [] text (byteLength text / 2) (by omega)
    exact whole
  · rfl

/-! ## What a string of digits spells -/

/-- The digits in the order of their values. -/
def lowerDigits : Text :=
  ['0', '1', '2', '3', '4', '5', '6', '7', '8', '9', 'a', 'b', 'c', 'd', 'e', 'f']

/-- The same in upper case. -/
def upperDigits : Text :=
  ['0', '1', '2', '3', '4', '5', '6', '7', '8', '9', 'A', 'B', 'C', 'D', 'E', 'F']

/-- A digit, and its value. -/
def IsDigit (c : Char) (value : Nat) : Prop :=
  lowerDigits[value]? = some c ∨ upperDigits[value]? = some c

instance (c : Char) (value : Nat) : Decidable (IsDigit c value) :=
  inferInstanceAs (Decidable (_ ∨ _))

/-- One of `0-9`, `a-f`, `A-F`. -/
def IsHexDigit (c : Char) : Prop :=
  c ∈ lowerDigits ∨ c ∈ upperDigits

instance (c : Char) : Decidable (IsHexDigit c) :=
  inferInstanceAs (Decidable (_ ∨ _))

/-- A string spells bytes: two digits for each of them, the higher one first. -/
inductive Spells : Text → List UInt8 → Prop where
  | nil : Spells [] []
  | cons {high low : Char} {upper lower : Nat} {text : Text} {bytes : List UInt8}
      (highDigit : IsDigit high upper) (lowDigit : IsDigit low lower) (rest : Spells text bytes) :
      Spells (high :: low :: text) (UInt8.ofNat (16 * upper + lower) :: bytes)

/-- Even length and digits only. -/
def HexString (text : Text) : Prop :=
  byteLength text % 2 = 0 ∧ ∀ c ∈ text, IsHexDigit c

/-- The decoder is total and exact on a string: it does not panic, it gives bytes
exactly where the string is made of digits and spells them, and what it gives is
written as the lower-case form of the string. -/
structure DecodesExactly (text : Text) : Prop where
  total : ∃ outcome, hexDecodeOffsets text = .ok outcome
  exact_iff : ∀ bytes,
    hexDecodeOffsets text = .ok (some bytes) ↔ HexString text ∧ Spells text bytes
  lowerCase : ∀ bytes,
    hexDecodeOffsets text = .ok (some bytes) → hexEncode bytes = text.map Char.toLower

/-! ### Digits -/

theorem hexValue_of_digits : ∀ value < 16, ∀ c,
    lowerDigits[value]? = some c ∨ upperDigits[value]? = some c → hexValue c = some value := by
  intro value bounded c digit
  have checked : ∀ value < 16, (lowerDigits[value]?.bind hexValue = some value) ∧
      (upperDigits[value]?.bind hexValue = some value) := by decide
  rcases digit with lower | upper
  · rw [← (checked value bounded).1, lower, Option.bind_some]
  · rw [← (checked value bounded).2, upper, Option.bind_some]

theorem isDigit_of_hexValue_ascii : ∀ code < 128, ∀ value < 16,
    hexValue (Char.ofNat code) = some value → IsDigit (Char.ofNat code) value := by
  decide

/-- The digits are what `to_digit` takes, with the values it gives them. -/
theorem hexValue_eq_some_iff {c : Char} {value : Nat} :
    hexValue c = some value ↔ IsDigit c value := by
  constructor
  · intro read
    have narrow : c.toNat < 128 := by
      have size := Char.utf8Size_eq_one_iff.mp (utf8Size_of_hexValue read)
      have bounded : c.toNat ≤ 127 := size
      omega
    have digit := isDigit_of_hexValue_ascii c.toNat narrow value (hexValue_lt read)
    rw [Char.ofNat_toNat] at digit
    exact digit read
  · intro digit
    have bounded : value < 16 := by
      rcases digit with lower | upper
      · exact (List.getElem?_eq_some_iff.mp lower).1
      · exact (List.getElem?_eq_some_iff.mp upper).1
    exact hexValue_of_digits value bounded c digit

theorem isHexDigit_iff {c : Char} : IsHexDigit c ↔ ∃ value, IsDigit c value := by
  rw [IsHexDigit, List.mem_iff_getElem?, List.mem_iff_getElem?]
  constructor
  · rintro (⟨value, lower⟩ | ⟨value, upper⟩)
    · exact ⟨value, Or.inl lower⟩
    · exact ⟨value, Or.inr upper⟩
  · rintro ⟨value, lower | upper⟩
    · exact Or.inl ⟨value, lower⟩
    · exact Or.inr ⟨value, upper⟩

/-- `{b:02x}` writes a digit in lower case. -/
theorem hexDigit_of_isDigit {c : Char} {value : Nat} (digit : IsDigit c value) :
    value < 16 ∧ hexDigit value = c.toLower := by
  have lowered : ∀ value < 16, (lowerDigits[value]?.map Char.toLower = some (hexDigit value)) ∧
      (upperDigits[value]?.map Char.toLower = some (hexDigit value)) := by decide
  have bounded := hexValue_lt (hexValue_eq_some_iff.mpr digit)
  have written := lowered value bounded
  rcases digit with lower | upper
  · rw [lower, Option.map_some] at written
    exact ⟨bounded, (Option.some.inj written.1).symm⟩
  · rw [upper, Option.map_some] at written
    exact ⟨bounded, (Option.some.inj written.2).symm⟩

theorem not_isDigit_plus (value : Nat) : ¬IsDigit '+' value := by
  intro digit
  have read := hexValue_eq_some_iff.mpr digit
  have refused : hexValue '+' = none := by decide
  rw [refused] at read
  contradiction

/-! ### Strings of digits -/

/-- A pair of digits is read as the byte it spells. -/
theorem hexPair_of_isDigit {high low : Char} {upper lower : Nat} (highDigit : IsDigit high upper)
    (lowDigit : IsDigit low lower) :
    hexPair high low = some (UInt8.ofNat (16 * upper + lower)) := by
  have noPlus : high ≠ '+' := by
    rintro rfl
    exact not_isDigit_plus upper highDigit
  rw [hexPair, if_neg noPlus, hexValue_eq_some_iff.mpr highDigit, Option.bind_some,
    hexValue_eq_some_iff.mpr lowDigit, Option.map_some, Nat.mul_comm upper]

/-- What a string spells is decoded. -/
theorem Spells.hexDecode {text : Text} {bytes : List UInt8} (spells : Spells text bytes) :
    hexDecode text = some bytes := by
  induction spells with
  | nil => rfl
  | cons highDigit lowDigit rest inductionHypothesis =>
      exact hexDecode_cons_eq_some_iff.mpr
        ⟨_, _, hexPair_of_isDigit highDigit lowDigit, inductionHypothesis, rfl⟩

/-- And it is written back in lower case. -/
theorem Spells.hexEncode {text : Text} {bytes : List UInt8} (spells : Spells text bytes) :
    hexEncode bytes = text.map Char.toLower := by
  induction spells with
  | nil => rfl
  | @cons high low upper lower text bytes highDigit lowDigit rest inductionHypothesis =>
      obtain ⟨highBounded, highWritten⟩ := hexDigit_of_isDigit highDigit
      obtain ⟨lowBounded, lowWritten⟩ := hexDigit_of_isDigit lowDigit
      have byte : (UInt8.ofNat (16 * upper + lower)).toNat = 16 * upper + lower := by
        rw [UInt8.toNat_ofNat']
        omega
      have highHalf : (16 * upper + lower) / 16 = upper := by omega
      have lowHalf : (16 * upper + lower) % 16 = lower := by omega
      rw [Etr.Bootstrap.hexEncode] at inductionHypothesis
      rw [Etr.Bootstrap.hexEncode, List.flatMap_cons, byte, highHalf, lowHalf, highWritten,
        lowWritten, inductionHypothesis, List.map_cons, List.map_cons]
      rfl

theorem Spells.length {text : Text} {bytes : List UInt8} (spells : Spells text bytes) :
    text.length = 2 * bytes.length := by
  induction spells with
  | nil => rfl
  | cons highDigit lowDigit rest inductionHypothesis =>
      rw [List.length_cons, List.length_cons, inductionHypothesis, List.length_cons]
      omega

theorem Spells.digits {text : Text} {bytes : List UInt8} (spells : Spells text bytes) :
    ∀ c ∈ text, IsHexDigit c := by
  induction spells with
  | nil =>
      intro c member
      contradiction
  | cons highDigit lowDigit rest inductionHypothesis =>
      have high := isHexDigit_iff.mpr ⟨_, highDigit⟩
      have low := isHexDigit_iff.mpr ⟨_, lowDigit⟩
      exact List.forall_mem_cons.mpr ⟨high, List.forall_mem_cons.mpr ⟨low, inductionHypothesis⟩⟩

/-- Digits are single bytes. -/
theorem byteLength_of_digits {text : Text} (digits : ∀ c ∈ text, IsHexDigit c) :
    byteLength text = text.length := by
  induction text with
  | nil => rfl
  | cons c text inductionHypothesis =>
      have parts := List.forall_mem_cons.mp digits
      obtain ⟨value, digit⟩ := isHexDigit_iff.mp parts.1
      rw [byteLength_cons, inductionHypothesis parts.2, List.length_cons,
        utf8Size_of_hexValue (hexValue_eq_some_iff.mpr digit), Nat.add_comm]

/-- An even number of digits spells some bytes. -/
theorem exists_spells_of_digits {text : Text} (digits : ∀ c ∈ text, IsHexDigit c)
    (even : text.length % 2 = 0) : ∃ bytes, Spells text bytes := by
  fun_induction hexDecode text with
  | case1 => exact ⟨[], .nil⟩
  | case2 => contradiction
  | case3 high low rest inductionHypothesis =>
      have parts := List.forall_mem_cons.mp digits
      have others := List.forall_mem_cons.mp parts.2
      obtain ⟨upper, highDigit⟩ := isHexDigit_iff.mp parts.1
      obtain ⟨lower, lowDigit⟩ := isHexDigit_iff.mp others.1
      rw [List.length_cons, List.length_cons] at even
      obtain ⟨bytes, spells⟩ := inductionHypothesis others.2 (by omega)
      exact ⟨_, .cons highDigit lowDigit spells⟩

/-- The strings that spell something are the even ones of digits. -/
theorem hexString_iff {text : Text} : HexString text ↔ ∃ bytes, Spells text bytes := by
  constructor
  · rintro ⟨even, digits⟩
    rw [byteLength_of_digits digits] at even
    exact exists_spells_of_digits digits even
  · rintro ⟨bytes, spells⟩
    refine ⟨?_, spells.digits⟩
    rw [byteLength_of_digits spells.digits, spells.length]
    omega

/-! ## Where the decoder is exact -/

/-- Two characters that the integer parser takes: a digit or a plus sign, then
a digit. -/
def AcceptedPair (high low : Char) : Prop :=
  (IsHexDigit high ∨ high = '+') ∧ IsHexDigit low

instance (high low : Char) : Decidable (AcceptedPair high low) :=
  inferInstanceAs (Decidable (_ ∧ _))

/-- A string made of such pairs. -/
def AcceptedPairs : Text → Prop
  | [] => True
  | [_] => False
  | high :: low :: rest => AcceptedPair high low ∧ AcceptedPairs rest

/-- Two bytes of whole characters that are no such pair. -/
inductive RefusedSlice : Text → Prop where
  | wide {c : Char} (size : c.utf8Size = 2) : RefusedSlice [c]
  | pair {high low : Char} (highSize : high.utf8Size = 1) (lowSize : low.utf8Size = 1)
      (refused : ¬AcceptedPair high low) : RefusedSlice [high, low]

/-- Only accepted pairs come in front of some refused slice. -/
def RefusedInOrder (text : Text) : Prop :=
  ∃ front slice rest, text = front ++ slice ++ rest ∧ AcceptedPairs front ∧ RefusedSlice slice

/-- The strings on which the decoder is exact: an odd number of bytes, digits
only, or a refused slice before the offsets come to cut a character. -/
def ExactOn (text : Text) : Prop :=
  byteLength text % 2 = 1 ∨ (∀ c ∈ text, IsHexDigit c) ∨ RefusedInOrder text

/-! ### Refused slices -/

/-- The pair decoder reads exactly the accepted pairs. -/
theorem hexPair_isSome_iff {high low : Char} :
    (hexPair high low).isSome = true ↔ AcceptedPair high low := by
  have lowRead : (hexValue low).isSome = true ↔ IsHexDigit low := by
    rw [isHexDigit_iff, Option.isSome_iff_exists]
    simp only [hexValue_eq_some_iff]
  have highRead : (hexValue high).isSome = true ↔ IsHexDigit high := by
    rw [isHexDigit_iff, Option.isSome_iff_exists]
    simp only [hexValue_eq_some_iff]
  rw [AcceptedPair, ← lowRead, ← highRead, hexPair]
  by_cases plus : high = '+'
  · rw [if_pos plus, Option.isSome_map]
    simp only [plus, or_true, true_and]
  · rw [if_neg plus, Option.isSome_bind]
    cases hexValue high with
    | none => simp only [Option.isSome_none, Bool.false_eq_true, plus, or_false, false_and,
        Option.any_none]
    | some upper => simp only [Option.any_some, Option.isSome_map, Option.isSome_some, true_or,
        true_and]

theorem hexPair_eq_none_iff {high low : Char} :
    hexPair high low = none ↔ ¬AcceptedPair high low := by
  rw [← hexPair_isSome_iff, Bool.not_eq_true, Option.isSome_eq_false_iff, Option.isNone_iff_eq_none]

/-- An accepted pair in front changes nothing. -/
theorem RefusedInOrder.cons {high low : Char} {text : Text} (accepted : AcceptedPair high low)
    (refused : RefusedInOrder text) : RefusedInOrder (high :: low :: text) := by
  obtain ⟨front, slice, rest, rfl, pairs, bad⟩ := refused
  exact ⟨high :: low :: front, slice, rest, rfl, ⟨accepted, pairs⟩, bad⟩

/-- Where the slices end without bytes, one of them was refused. -/
theorem refusedInOrder_of_slices {text : Text} (ended : hexDecodeSlices text = .ok none) :
    RefusedInOrder text := by
  fun_induction hexDecodeSlices text with
  | case1 => cases ended
  | case2 c wide => exact ⟨[], [c], [], rfl, trivial, .wide wide⟩
  | case3 => cases ended
  | case4 high low rest wide => exact ⟨[], [high], low :: rest, rfl, trivial, .wide wide⟩
  | case5 high low rest wide narrow pair =>
      have refused := hexPair_eq_none_iff.mp pair
      exact ⟨[], [high, low], rest, rfl, trivial, .pair narrow.1 narrow.2 refused⟩
  | case6 high low rest wide narrow byte pair inductionHypothesis =>
      have accepted : AcceptedPair high low := by
        rw [← hexPair_isSome_iff, pair, Option.isSome_some]
      cases slices : hexDecodeSlices rest with
      | error panicked =>
          rw [slices] at ended
          cases ended
      | ok decoded =>
          cases decoded with
          | none => exact (inductionHypothesis slices).cons accepted
          | some others =>
              rw [slices] at ended
              cases ended
  | case7 => cases ended

/-- A refused slice in front ends the slices. -/
theorem hexDecodeSlices_refused {slice : Text} (refused : RefusedSlice slice) (rest : Text) :
    hexDecodeSlices (slice ++ rest) = .ok none := by
  cases refused with
  | @wide c size =>
      cases rest with
      | nil => rw [List.append_nil, hexDecodeSlices, if_pos size]
      | cons low rest => rw [List.singleton_append, hexDecodeSlices, if_pos size]
  | @pair high low highSize lowSize refused =>
      have unread := hexPair_eq_none_iff.mpr refused
      rw [List.cons_append, List.singleton_append, hexDecodeSlices, if_neg (by omega),
        if_pos ⟨highSize, lowSize⟩, unread]

/-- And so does one behind accepted pairs. -/
theorem hexDecodeSlices_accepted {front text : Text} (pairs : AcceptedPairs front)
    (ended : hexDecodeSlices text = .ok none) : hexDecodeSlices (front ++ text) = .ok none := by
  fun_induction AcceptedPairs front with
  | case1 => exact ended
  | case2 => contradiction
  | case3 high low rest inductionHypothesis =>
      obtain ⟨byte, pair⟩ := Option.isSome_iff_exists.mp (hexPair_isSome_iff.mpr pairs.1)
      have narrow := utf8Size_of_hexPair pair
      rw [List.cons_append, List.cons_append, hexDecodeSlices, if_neg (by omega), if_pos narrow,
        pair]
      simp only [inductionHypothesis pairs.2]
      rfl

theorem hexDecodeSlices_eq_none_iff {text : Text} :
    hexDecodeSlices text = .ok none ↔ RefusedInOrder text := by
  constructor
  · exact refusedInOrder_of_slices
  · rintro ⟨front, slice, rest, rfl, pairs, refused⟩
    rw [List.append_assoc]
    exact hexDecodeSlices_accepted pairs (hexDecodeSlices_refused refused rest)

/-! ### The exact strings -/

/-- What a string spells is what the loop over offsets gives. -/
theorem Spells.hexDecodeOffsets {text : Text} {bytes : List UInt8} (spells : Spells text bytes) :
    hexDecodeOffsets text = .ok (some bytes) := by
  rw [hexDecodeOffsets_eq]
  exact hexDecodeBytes_eq_some_iff.mpr spells.hexDecode

theorem hexDecodeOffsets_unique {text : Text} {bytes others : List UInt8}
    (decoded : hexDecodeOffsets text = .ok (some bytes)) (spells : Spells text others) :
    others = bytes := by
  have same := spells.hexDecodeOffsets.symm.trans decoded
  injection same with same
  exact Option.some.inj same

/-- Where nothing is decoded, nothing is spelled. -/
theorem decodesExactly_of_none {text : Text} (nothing : hexDecodeOffsets text = .ok none) :
    DecodesExactly text where
  total := ⟨none, nothing⟩
  exact_iff := by
    intro bytes
    constructor
    · intro decoded
      rw [nothing] at decoded
      cases decoded
    · rintro ⟨-, spells⟩
      exact spells.hexDecodeOffsets
  lowerCase := by
    intro bytes decoded
    rw [nothing] at decoded
    cases decoded

/-- What a string spells is decoded exactly. -/
theorem Spells.decodesExactly {text : Text} {bytes : List UInt8} (spells : Spells text bytes) :
    DecodesExactly text where
  total := ⟨some bytes, spells.hexDecodeOffsets⟩
  exact_iff := by
    intro others
    constructor
    · intro decoded
      have same := hexDecodeOffsets_unique decoded spells
      subst same
      exact ⟨hexString_iff.mpr ⟨bytes, spells⟩, spells⟩
    · rintro ⟨-, spelled⟩
      exact spelled.hexDecodeOffsets
  lowerCase := by
    intro others decoded
    have same := hexDecodeOffsets_unique decoded spells
    subst same
    exact spells.hexEncode

theorem exactOn_of_decodesExactly {text : Text} (exactly : DecodesExactly text) :
    ExactOn text := by
  obtain ⟨outcome, decoded⟩ := exactly.total
  by_cases even : byteLength text % 2 = 0
  · cases outcome with
    | none =>
        rw [hexDecodeOffsets_eq, hexDecodeBytes, ← byteLength, if_pos even] at decoded
        exact Or.inr (Or.inr (hexDecodeSlices_eq_none_iff.mp decoded))
    | some bytes =>
        have isHex := ((exactly.exact_iff bytes).mp decoded).1
        exact Or.inr (Or.inl isHex.2)
  · exact Or.inl (by omega)

theorem decodesExactly_of_exactOn {text : Text} (exactOn : ExactOn text) :
    DecodesExactly text := by
  by_cases even : byteLength text % 2 = 0
  · rcases exactOn with odd | digits | refused
    · omega
    · obtain ⟨bytes, spells⟩ := hexString_iff.mp ⟨even, digits⟩
      exact spells.decodesExactly
    · apply decodesExactly_of_none
      rw [hexDecodeOffsets_eq, hexDecodeBytes, ← byteLength, if_pos even]
      exact hexDecodeSlices_eq_none_iff.mpr refused
  · apply decodesExactly_of_none
    rw [hexDecodeOffsets, if_neg even]

/-- **What was encoded is decoded, and the decoder is total and exact on just
these strings.** -/
theorem hexDecode_exact_iff (text : Text) (bytes : List UInt8) :
    hexDecodeOffsets (hexEncode bytes) = .ok (some bytes) ∧
      (DecodesExactly text ↔ ExactOn text) := by
  constructor
  · rw [hexDecodeOffsets_eq]
    exact hexDecodeBytes_hexEncode bytes
  · exact ⟨exactOn_of_decodesExactly, decodesExactly_of_exactOn⟩

/-- A plus sign is taken for a digit, and a slice that ends inside of a character
panics. -/
theorem plusSign_decoded :
    hexDecodeOffsets ['+', 'f'] = .ok (some [15]) ∧
      hexDecodeOffsets ['a', 'é', 'b'] = .error .notCharBoundary ∧
      ¬∀ text, DecodesExactly text := by
  have decoded : hexDecodeOffsets ['+', 'f'] = .ok (some [15]) := by decide
  refine ⟨decoded, by decide, ?_⟩
  intro exactly
  have isHex := (((exactly ['+', 'f']).exact_iff [15]).mp decoded).1
  have noDigit : ¬IsHexDigit '+' := by decide
  exact noDigit (isHex.2 '+' List.mem_cons_self)

end Etr.Bootstrap
