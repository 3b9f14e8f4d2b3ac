import DirectoryClient.Proofs.Tlv.Length
import DirectoryClient.Tlv.Integer
import Mathlib.Algebra.Group.Int.Defs

namespace DirectoryClient.Tlv

theorem toNat_lowByte (number : Int) : ((lowByte number).toNat : Int) = number % 256 := by
  have lower := Int.emod_nonneg number (show (256 : Int) ≠ 0 by decide)
  have upper := Int.emod_lt_of_pos number (show (0 : Int) < 256 by decide)
  rw [lowByte, toNat_ofNat_of_lt (by omega)]
  omega

theorem ofTwosComplement_append_singleton {bytes : List UInt8} (some : bytes ≠ []) (byte : UInt8) :
    ofTwosComplement (bytes ++ [byte]) = ofTwosComplement bytes * 256 + byte.toNat := by
  cases bytes with
  | nil => exact absurd rfl some
  | cons first rest =>
      have power : Int.pow 256 (first :: (rest ++ [byte])).length =
          Int.pow 256 (first :: rest).length * 256 := by
        rw [← List.cons_append, List.length_append]
        rfl
      have digits : ofBigEndian (first :: (rest ++ [byte])) =
          ofBigEndian (first :: rest) * 256 + byte.toNat :=
        ofBigEndian_append_singleton (first :: rest) byte
      simp only [List.cons_append, ofTwosComplement, digits, power]
      split
      · omega
      · omega

theorem length_twosComplement_pos (number : Int) : 0 < (twosComplement number).length := by
  rw [twosComplement]
  split <;> simp

@[simp] theorem ofTwosComplement_twosComplement (number : Int) :
    ofTwosComplement (twosComplement number) = number := by
  induction number using twosComplement.induct with
  | case1 number small =>
      have byte := toNat_lowByte number
      rw [twosComplement, if_pos small, ofTwosComplement]
      simp only [UInt8.lt_iff_toNat_lt, ofBigEndian, List.foldl_cons, List.foldl_nil]
      change (if (lowByte number).toNat < 128 then _ else _ - (256 : Int)) = _
      split <;> omega
  | case2 number large ih =>
      have some : twosComplement (number / 256) ≠ [] :=
        List.ne_nil_of_length_pos (length_twosComplement_pos _)
      rw [twosComplement, if_neg large, ofTwosComplement_append_singleton some, ih, toNat_lowByte]
      omega

theorem length_twosComplement_le_iff {number : Int} {more : Nat} :
    (twosComplement number).length ≤ more + 1 ↔
      -(128 * 256 ^ more) ≤ number ∧ number < 128 * 256 ^ more := by
  induction number using twosComplement.induct generalizing more with
  | case1 number small =>
      have enough : (0 : Int) < 256 ^ more := Int.pow_pos (by decide)
      rw [twosComplement, if_pos small, List.length_singleton]
      omega
  | case2 number large ih =>
      rw [twosComplement, if_neg large, List.length_append, List.length_singleton,
        Nat.add_le_add_iff_right]
      cases more with
      | zero =>
          have least := length_twosComplement_pos (number / 256)
          omega
      | succ more =>
          rw [ih, Int.pow_succ]
          omega

namespace Element

theorem decodeNumber_ofInteger {kind : NumberKind} {tag : Tag} {number : Int} {more : Nat}
    (lower : -(128 * 256 ^ more) ≤ number) (upper : number < 128 * 256 ^ more) :
    (ofInteger tag number).decodeNumber kind (more + 1) = .ok number := by
  have few := length_twosComplement_le_iff.mpr ⟨lower, upper⟩
  have some : (twosComplement number).isEmpty = false :=
    List.isEmpty_eq_false_iff.mpr (List.ne_nil_of_length_pos (length_twosComplement_pos number))
  rw [decodeNumber, ofInteger, some, decide_eq_false (Nat.not_lt.mpr few),
    ofTwosComplement_twosComplement]
  rfl

end Element

end DirectoryClient.Tlv
