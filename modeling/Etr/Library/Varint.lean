import Mathlib.Algebra.Ring.Nat

/-!
Contract: base-128 varints of 64-bit numbers.

Owns the encoder and the decoder, both bounded at ten bytes, the round trip in
front of any rest, and the lengths.

Does not own field keys or messages.
-/

namespace Etr.Library.Varint

/-- Bytes a 64-bit number needs at most. -/
def maxGroups : Nat := 10

/-- Seven bits a byte, lowest first. Every byte but the last has its top bit
set. -/
def encodeGroups : Nat → Nat → List UInt8
  | 0, _ => []
  | groups + 1, value =>
      if value < 128 then
        [UInt8.ofNat value]
      else
        UInt8.ofNat (value % 128 + 128) :: encodeGroups groups (value / 128)

/-- `encode_varint`. -/
def encode (value : UInt64) : List UInt8 :=
  encodeGroups maxGroups value.toNat

/-- Read at most `groups` bytes. -/
def decodeGroups : Nat → List UInt8 → Option (Nat × List UInt8)
  | 0, _ => none
  | _ + 1, [] => none
  | groups + 1, byte :: rest =>
      if byte.toNat < 128 then
        some (byte.toNat, rest)
      else
        (decodeGroups groups rest).map fun high =>
          (byte.toNat - 128 + 128 * high.1, high.2)

/-- `decode_varint`. A tenth byte that overflows 64 bits is refused. -/
def decode (bytes : List UInt8) : Option (UInt64 × List UInt8) :=
  (decodeGroups maxGroups bytes).bind fun decoded =>
    if decoded.1 < 2 ^ 64 then some (UInt64.ofNat decoded.1, decoded.2) else none

theorem toNat_ofNat_of_lt_256 {value : Nat} (small : value < 256) :
    (UInt8.ofNat value).toNat = value := by
  rw [UInt8.toNat_ofNat']
  exact Nat.mod_eq_of_lt small

/-! ## Round trip -/

theorem decodeGroups_encodeGroups (groups value : Nat) (rest : List UInt8)
    (bounded : value < 128 ^ groups) (room : 0 < groups) :
    decodeGroups groups (encodeGroups groups value ++ rest) = some (value, rest) := by
  induction groups generalizing value with
  | zero => omega
  | succ groups inductionHypothesis =>
      unfold encodeGroups
      by_cases small : value < 128
      · have read := toNat_ofNat_of_lt_256 (show value < 256 by omega)
        simp [small, decodeGroups, read]
      · have read := toNat_ofNat_of_lt_256 (show value % 128 + 128 < 256 by omega)
        have quotient : value / 128 < 128 ^ groups := by
          rw [Nat.div_lt_iff_lt_mul (by decide)]
          exact bounded
        have more : 0 < groups := by
          apply Nat.pos_of_ne_zero
          intro none
          rw [none, Nat.pow_zero] at quotient
          omega
        have high := inductionHypothesis (value / 128) quotient more
        rw [if_neg small, List.cons_append, decodeGroups, read, high]
        rw [if_neg (by omega), Option.map_some]
        congr 2
        omega

@[simp] theorem decode_encode_append (value : UInt64) (rest : List UInt8) :
    decode (encode value ++ rest) = some (value, rest) := by
  have bounded : value.toNat < 128 ^ maxGroups :=
    Nat.lt_trans value.toNat_lt (by decide)
  unfold decode encode
  rw [decodeGroups_encodeGroups maxGroups value.toNat rest bounded (by decide),
    Option.bind_some, if_pos value.toNat_lt, UInt64.ofNat_toNat]

/-! ## Bytes behind a number -/

theorem decodeGroups_append {groups value : Nat} {bytes rest : List UInt8}
    (decoded : decodeGroups groups bytes = some (value, rest)) (more : List UInt8) :
    decodeGroups groups (bytes ++ more) = some (value, rest ++ more) := by
  induction groups generalizing value bytes with
  | zero => cases decoded
  | succ groups inductionHypothesis =>
      cases bytes with
      | nil => cases decoded
      | cons byte tail =>
          rw [List.cons_append]
          unfold decodeGroups at decoded ⊢
          split at decoded
          · rename_i last
            cases decoded
            rw [if_pos last]
          · rename_i continued
            rcases Option.map_eq_some_iff.mp decoded with ⟨high, inner, same⟩
            cases same
            rw [if_neg continued, inductionHypothesis inner, Option.map_some]

/-- What was decoded does not depend on the bytes behind it. -/
theorem decode_append {value : UInt64} {bytes rest : List UInt8}
    (decoded : decode bytes = some (value, rest)) (more : List UInt8) :
    decode (bytes ++ more) = some (value, rest ++ more) := by
  rcases Option.bind_eq_some_iff.mp decoded with ⟨groups, read, checked⟩
  split at checked
  · rename_i fits
    cases checked
    rw [decode, decodeGroups_append read more, Option.bind_some, if_pos fits]
  · contradiction

/-! ## Lengths -/

theorem length_encodeGroups_le (groups value : Nat) :
    (encodeGroups groups value).length ≤ groups := by
  induction groups generalizing value with
  | zero => exact Nat.le_refl 0
  | succ groups inductionHypothesis =>
      unfold encodeGroups
      split
      · simp
      · have high := inductionHypothesis (value / 128)
        rw [List.length_cons]
        omega

theorem length_encode_le (value : UInt64) : (encode value).length ≤ 10 :=
  length_encodeGroups_le maxGroups value.toNat

/-- A decoded number takes at least one byte away. -/
theorem length_lt_of_decodeGroups {groups value : Nat} {bytes rest : List UInt8}
    (decoded : decodeGroups groups bytes = some (value, rest)) : rest.length < bytes.length := by
  induction groups generalizing value bytes with
  | zero => cases decoded
  | succ groups inductionHypothesis =>
      cases bytes with
      | nil => cases decoded
      | cons byte tail =>
          unfold decodeGroups at decoded
          split at decoded
          · cases decoded
            simp
          · rcases Option.map_eq_some_iff.mp decoded with ⟨high, inner, same⟩
            cases same
            have shorter := inductionHypothesis inner
            rw [List.length_cons]
            omega

theorem length_lt_of_decode {value : UInt64} {bytes rest : List UInt8}
    (decoded : decode bytes = some (value, rest)) : rest.length < bytes.length := by
  rcases Option.bind_eq_some_iff.mp decoded with ⟨groups, read, checked⟩
  split at checked
  · cases checked
    exact length_lt_of_decodeGroups read
  · contradiction

end Etr.Library.Varint
