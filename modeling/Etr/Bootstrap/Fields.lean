import Etr.Bootstrap.RoundTrip

/-!
Contract: the fields of a line, as both programs take them apart.

Owns `split_whitespace`, `hex_decode` with the panic of a slice that ends
inside a character, and the loop that returns at the first line of a kind.

Does not own what the fields mean.
-/

namespace Etr.Bootstrap

/-! ## Words -/

/-- `split_whitespace`, inside its loop: `current` is the word being collected. -/
def splitWhitespaceFrom (current : Text) : Text → List Text
  | [] => if current.isEmpty then [] else [current]
  | c :: rest =>
      if isWhitespace c then
        if current.isEmpty then
          splitWhitespaceFrom [] rest
        else
          current :: splitWhitespaceFrom [] rest
      else
        splitWhitespaceFrom (current ++ [c]) rest

def splitWhitespace (text : Text) : List Text :=
  splitWhitespaceFrom [] text

/-- A nonempty text without white space. -/
structure IsWord (word : Text) : Prop where
  nonempty : word ≠ []
  visible : ∀ c ∈ word, isWhitespace c = false

theorem splitWhitespaceFrom_append {word : Text} (visible : ∀ c ∈ word, isWhitespace c = false)
    (current rest : Text) :
    splitWhitespaceFrom current (word ++ rest) = splitWhitespaceFrom (current ++ word) rest := by
  induction word generalizing current with
  | nil => rw [List.nil_append, List.append_nil]
  | cons c word inductionHypothesis =>
      have parts := List.forall_mem_cons.mp visible
      rw [List.cons_append, splitWhitespaceFrom, if_neg (by simp [parts.1]),
        inductionHypothesis parts.2, List.append_assoc, List.singleton_append]

/-- The first word of a text ends at the first white space. -/
theorem splitWhitespace_word_append {word : Text} (isWord : IsWord word) {blank : Char}
    (separates : isWhitespace blank = true) (rest : Text) :
    splitWhitespace (word ++ blank :: rest) = word :: splitWhitespace rest := by
  have collected := isWord.nonempty
  rw [splitWhitespace, splitWhitespaceFrom_append isWord.visible, List.nil_append,
    splitWhitespaceFrom, if_pos separates, if_neg (by simpa using collected), splitWhitespace]

theorem splitWhitespace_word {word : Text} (isWord : IsWord word) :
    splitWhitespace word = [word] := by
  have collected := splitWhitespaceFrom_append isWord.visible [] []
  have nonempty := isWord.nonempty
  rw [List.append_nil, List.nil_append] at collected
  rw [splitWhitespace, collected, splitWhitespaceFrom, if_neg (by simpa using nonempty)]

/-! ## Hexadecimal fields -/

/-- A string slice whose end is inside a character. -/
inductive SlicePanic where
  | notCharBoundary
deriving DecidableEq, Repr

/-- The two-byte slices of `hex_decode`, from the left: a two-byte character is
no number, a longer one is cut by the slice, and so is one behind a single
byte. -/
def hexDecodeSlices : Text → Except SlicePanic (Option (List UInt8))
  | [] => .ok (some [])
  | [c] => if c.utf8Size = 2 then .ok none else .error .notCharBoundary
  | high :: low :: rest =>
      if high.utf8Size = 2 then
        .ok none
      else if high.utf8Size = 1 ∧ low.utf8Size = 1 then
        match hexPair high low with
        | none => .ok none
        | some byte => (hexDecodeSlices rest).map fun bytes => bytes.map (byte :: ·)
      else
        .error .notCharBoundary

/-- `hex_decode`, with its check of the length in bytes. -/
def hexDecodeBytes (text : Text) : Except SlicePanic (Option (List UInt8)) :=
  if (text.map Char.utf8Size).sum % 2 = 0 then hexDecodeSlices text else .ok none

theorem utf8Size_of_hexValue {c : Char} {value : Nat} (digit : hexValue c = some value) :
    c.utf8Size = 1 := by
  have bounded : c ≤ '9' ∨ c ≤ 'f' ∨ c ≤ 'F' := by
    unfold hexValue at digit
    split at digit
    · rename_i decimal
      exact Or.inl decimal.2
    · split at digit
      · rename_i lower
        exact Or.inr (Or.inl lower.2)
      · split at digit
        · rename_i upper
          exact Or.inr (Or.inr upper.2)
        · contradiction
  rw [Char.utf8Size_eq_one_iff]
  rcases bounded with decimal | lower | upper
  · exact UInt32.le_trans decimal (by decide)
  · exact UInt32.le_trans lower (by decide)
  · exact UInt32.le_trans upper (by decide)

/-- Only characters of one byte are read. -/
theorem utf8Size_of_hexPair {high low : Char} {byte : UInt8} (read : hexPair high low = some byte) :
    high.utf8Size = 1 ∧ low.utf8Size = 1 := by
  unfold hexPair at read
  split at read
  · rename_i plus
    rcases Option.map_eq_some_iff.mp read with ⟨value, digit, -⟩
    exact ⟨by rw [plus]; decide, utf8Size_of_hexValue digit⟩
  · rcases Option.bind_eq_some_iff.mp read with ⟨upper, highDigit, rest⟩
    rcases Option.map_eq_some_iff.mp rest with ⟨lower, lowDigit, -⟩
    exact ⟨utf8Size_of_hexValue highDigit, utf8Size_of_hexValue lowDigit⟩

theorem hexDecode_cons_eq_some_iff {high low : Char} {rest : Text} {bytes : List UInt8} :
    hexDecode (high :: low :: rest) = some bytes ↔
      ∃ byte others, hexPair high low = some byte ∧ hexDecode rest = some others ∧
        byte :: others = bytes := by
  rw [hexDecode]
  constructor
  · intro read
    rcases Option.bind_eq_some_iff.mp read with ⟨byte, pair, rest⟩
    rcases Option.map_eq_some_iff.mp rest with ⟨others, decoded, same⟩
    exact ⟨byte, others, pair, decoded, same⟩
  · rintro ⟨byte, others, pair, decoded, same⟩
    rw [pair, Option.bind_some, decoded, Option.map_some, same]

/-- The slices give bytes exactly where the pairs of characters do. -/
theorem hexDecodeSlices_eq_some_iff {text : Text} {bytes : List UInt8} :
    hexDecodeSlices text = .ok (some bytes) ↔ hexDecode text = some bytes := by
  fun_induction hexDecodeSlices text generalizing bytes with
  | case1 => simp [hexDecode]
  | case2 => simp [hexDecode]
  | case3 => simp [hexDecode]
  | case4 high low rest wide =>
      rw [hexDecode_cons_eq_some_iff]
      constructor
      · intro impossible
        cases impossible
      · rintro ⟨byte, others, pair, -⟩
        rw [(utf8Size_of_hexPair pair).1] at wide
        contradiction
  | case5 high low rest wide narrow pair =>
      rw [hexDecode_cons_eq_some_iff, pair]
      simp
  | case6 high low rest wide narrow byte pair inductionHypothesis =>
      rw [hexDecode_cons_eq_some_iff, pair]
      constructor
      · intro read
        cases slices : hexDecodeSlices rest with
        | error panicked =>
            rw [slices] at read
            cases read
        | ok decoded =>
            cases decoded with
            | none =>
                rw [slices] at read
                cases read
            | some others =>
                rw [slices] at read
                cases read
                exact ⟨byte, others, rfl, inductionHypothesis.mp slices, rfl⟩
      · rintro ⟨found, others, same, decoded, rfl⟩
        cases same
        rw [inductionHypothesis.mpr decoded]
        rfl
  | case7 high low rest wide cut =>
      rw [hexDecode_cons_eq_some_iff]
      constructor
      · intro impossible
        cases impossible
      · rintro ⟨byte, others, pair, -⟩
        exact absurd (utf8Size_of_hexPair pair) cut

theorem utf8Size_of_hexDecode {text : Text} {bytes : List UInt8}
    (decoded : hexDecode text = some bytes) :
    (text.map Char.utf8Size).sum = 2 * bytes.length := by
  fun_induction hexDecode text generalizing bytes with
  | case1 =>
      cases decoded
      rfl
  | case2 => contradiction
  | case3 high low rest inductionHypothesis =>
      rw [← hexDecode, hexDecode_cons_eq_some_iff] at decoded
      rcases decoded with ⟨byte, others, pair, decoded, rfl⟩
      have sizes := utf8Size_of_hexPair pair
      rw [List.map_cons, List.map_cons, List.sum_cons, List.sum_cons, sizes.1, sizes.2,
        inductionHypothesis decoded, List.length_cons]
      omega

/-- **The decoder over bytes reads what the decoder over characters reads.** -/
theorem hexDecodeBytes_eq_some_iff {text : Text} {bytes : List UInt8} :
    hexDecodeBytes text = .ok (some bytes) ↔ hexDecode text = some bytes := by
  rw [hexDecodeBytes]
  split
  · exact hexDecodeSlices_eq_some_iff
  · rename_i odd
    constructor
    · intro impossible
      cases impossible
    · intro decoded
      rw [utf8Size_of_hexDecode decoded] at odd
      omega

/-- What `hex_encode` wrote is read back, and no slice panics. -/
theorem hexDecodeBytes_hexEncode (bytes : List UInt8) :
    hexDecodeBytes (hexEncode bytes) = .ok (some bytes) :=
  hexDecodeBytes_eq_some_iff.mpr (hexDecode_hexEncode bytes)

/-- A nonempty `hex_encode` output is one word. -/
theorem isWord_hexEncode {bytes : List UInt8} (filled : bytes ≠ []) : IsWord (hexEncode bytes) where
  nonempty := by
    intro empty
    have decoded := hexDecode_hexEncode bytes
    rw [empty, hexDecode, Option.some.injEq] at decoded
    exact filled decoded.symm
  visible := fun _ member => (mem_hexEncode_plain member).2.2

/-! ## Loops over lines -/

/-- A loop over lines that returns at the first one that `parse` takes. -/
def firstLine {Found : Type} (parse : Text → Except SlicePanic (Option Found)) :
    List Text → Except SlicePanic (Option Found)
  | [] => .ok none
  | line :: rest =>
      match parse line with
      | .error panic => .error panic
      | .ok none => firstLine parse rest
      | .ok (some found) => .ok (some found)

/-- Lines that are passed over make no difference. -/
theorem firstLine_append {Found : Type} {parse : Text → Except SlicePanic (Option Found)}
    {quietLines : List Text} (quiet : ∀ line ∈ quietLines, parse line = .ok none)
    (rest : List Text) : firstLine parse (quietLines ++ rest) = firstLine parse rest := by
  induction quietLines with
  | nil => rfl
  | cons line quietLines inductionHypothesis =>
      have parts := List.forall_mem_cons.mp quiet
      rw [List.cons_append, firstLine, parts.1]
      exact inductionHypothesis parts.2

end Etr.Bootstrap
