import DirectoryClient.Tlv.Length
import Mathlib.Algebra.Group.Nat.Defs

namespace DirectoryClient.Tlv

theorem toNat_ofNat_of_lt {n : Nat} (small : n < 256) : (UInt8.ofNat n).toNat = n := by
  simp [Nat.mod_eq_of_lt small]

theorem ofBigEndian_append_singleton (bytes : List UInt8) (byte : UInt8) :
    ofBigEndian (bytes ++ [byte]) = ofBigEndian bytes * 256 + byte.toNat := by
  simp [ofBigEndian]

@[simp] theorem ofBigEndian_bigEndian (n : Nat) : ofBigEndian (bigEndian n) = n := by
  induction n using bigEndian.induct with
  | case1 n small =>
      rw [bigEndian, if_pos small]
      simp [ofBigEndian, Nat.mod_eq_of_lt small]
  | case2 n large ih =>
      rw [bigEndian, if_neg large, ofBigEndian_append_singleton, ih,
        toNat_ofNat_of_lt (Nat.mod_lt _ (by decide))]
      omega

theorem length_bigEndian_pos (n : Nat) : 0 < (bigEndian n).length := by
  rw [bigEndian]
  split <;> simp

theorem length_bigEndian_le_iff {n count : Nat} (some : 0 < count) :
    (bigEndian n).length ≤ count ↔ n < 256 ^ count := by
  induction n using bigEndian.induct generalizing count with
  | case1 n small =>
      rw [bigEndian, if_pos small]
      have enough : 256 ^ 1 ≤ 256 ^ count := Nat.pow_le_pow_right (by decide) some
      simp only [List.length_singleton]
      omega
  | case2 n large ih =>
      rw [bigEndian, if_neg large, List.length_append, List.length_singleton]
      obtain ⟨fewer, rfl⟩ := Nat.exists_eq_succ_of_ne_zero (Nat.ne_of_gt some)
      cases fewer with
      | zero =>
          have least := length_bigEndian_pos (n / 256)
          simp only [Nat.pow_one]
          omega
      | succ fewer =>
          have shorter := ih (Nat.succ_pos fewer)
          rw [Nat.succ_eq_add_one, Nat.add_le_add_iff_right, shorter, Nat.pow_succ 256 (fewer + 1),
            Nat.div_lt_iff_lt_mul (by decide)]

theorem byteCount_le_iff {n count : Nat} (some : 0 < count) :
    byteCount n ≤ count ↔ n < 256 ^ count := by
  have bits : 256 ^ count = 2 ^ (8 * count) := by
    rw [Nat.pow_mul]
  rw [byteCount, bits]
  by_cases zero : n = 0
  · subst zero
    have enough : 0 < 2 ^ (8 * count) := Nat.pow_pos (by decide)
    have none : Nat.log2 0 = 0 := by decide
    rw [none]
    omega
  · rw [← Nat.log2_lt zero]
    omega

theorem length_bigEndian (n : Nat) : (bigEndian n).length = byteCount n := by
  have some : 0 < byteCount n := Nat.succ_pos _
  have least := length_bigEndian_pos n
  apply Nat.le_antisymm
  · exact (length_bigEndian_le_iff some).mpr ((byteCount_le_iff some).mp (Nat.le_refl _))
  · exact (byteCount_le_iff least).mpr ((length_bigEndian_le_iff least).mp (Nat.le_refl _))

namespace Length

theorem length_encode (length : Nat) : (encode length).length = headerSize length := by
  rw [encode, headerSize]
  split
  · rfl
  · rw [List.length_cons, length_bigEndian, Nat.add_comm]

/-- A count below 128 leaves the top bit of the first byte to mark the long form. -/
theorem decode_longForm {count : Nat} (few : count < 128) (rest : List UInt8) :
    decode (UInt8.ofNat (128 + count) :: rest) =
      if count = 0 then .error .indefiniteLength
      else if mostBytes < count then .error (.lengthTooLong count)
      else if (rest.take count).length < count then .error (.truncated count rest.length)
      else .ok (ofBigEndian (rest.take count), rest.drop count) := by
  have first : (UInt8.ofNat (128 + count)).toNat = 128 + count := toNat_ofNat_of_lt (by omega)
  have marked : ¬UInt8.ofNat (128 + count) < 0x80 := by
    rw [UInt8.lt_iff_toNat_lt, first]
    exact Nat.not_lt.mpr (Nat.le_add_right 128 _)
  rw [decode, if_neg marked]
  simp only [first, Nat.add_sub_cancel_left]

theorem decode_encode {length : Nat} (short : length < 2 ^ 32) (rest : List UInt8) :
    decode (encode length ++ rest) = .ok (length, rest) := by
  rw [encode]
  split
  · next small =>
      have first : UInt8.ofNat length < 0x80 := by
        rw [UInt8.lt_iff_toNat_lt, toNat_ofNat_of_lt (by omega)]
        exact small
      rw [List.singleton_append, decode, if_pos first, toNat_ofNat_of_lt (by omega)]
  · next large =>
      have few : (bigEndian length).length ≤ 4 := (length_bigEndian_le_iff (by decide)).mpr short
      have some := length_bigEndian_pos length
      rw [List.cons_append, decode_longForm (by omega)]
      simp only [List.take_left, List.drop_left, Nat.lt_irrefl, ofBigEndian_bigEndian, mostBytes,
        Nat.not_lt.mpr few, Nat.ne_of_gt some, if_false]

theorem decode_encode_of_long {length : Nat} (long : 2 ^ 32 ≤ length) (bound : length < 2 ^ 63)
    (rest : List UInt8) :
    decode (encode length ++ rest) = .error (.lengthTooLong (byteCount length)) := by
  have large : ¬length < 128 := by omega
  have few : byteCount length ≤ 8 := (byteCount_le_iff (by decide)).mpr (by omega)
  have many : mostBytes < byteCount length :=
    Nat.lt_of_not_le fun fits => Nat.not_lt.mpr long ((byteCount_le_iff (by decide)).mp fits)
  rw [encode, if_neg large, List.cons_append, length_bigEndian, decode_longForm (by omega),
    if_neg (Nat.ne_of_gt (Nat.zero_lt_of_lt many)), if_pos many]

/-- A header has at most five bytes exactly for the lengths that can be read back. -/
theorem length_encode_le_five_iff {length : Nat} :
    (encode length).length ≤ 5 ↔ length < 2 ^ 32 := by
  rw [encode]
  split
  · simp only [List.length_singleton]
    omega
  · have limit : 256 ^ 4 = 2 ^ 32 := rfl
    rw [List.length_cons, Nat.succ_le_succ_iff, length_bigEndian_le_iff (by decide), limit]

end Length

end DirectoryClient.Tlv
