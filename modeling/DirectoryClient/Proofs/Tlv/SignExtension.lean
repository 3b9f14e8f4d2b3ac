import DirectoryClient.Proofs.Tlv.Payload
import Mathlib.Data.Nat.Digits.Defs
import Mathlib.Order.Bounds.Defs
import Mathlib.Tactic.Ring

namespace DirectoryClient.Tlv

variable {bytes : List UInt8}

theorem ofBigEndian_cons (first : UInt8) (rest : List UInt8) :
    ofBigEndian (first :: rest) = first.toNat * 256 ^ rest.length + ofBigEndian rest := by
  induction rest using List.reverseRecOn with
  | nil => simp [ofBigEndian]
  | append_singleton front byte ih =>
      rw [← List.cons_append, ofBigEndian_append_singleton, ih, ofBigEndian_append_singleton,
        List.length_append, List.length_singleton, Nat.pow_succ]
      ring

/-- The byte whose bits are all the sign of a number. -/
def signByte (number : Int) : UInt8 :=
  if 0 ≤ number then 0x00 else 0xFF

theorem ofTwosComplement_signByte_cons (some : bytes ≠ []) :
    ofTwosComplement (signByte (ofTwosComplement bytes) :: bytes) = ofTwosComplement bytes := by
  obtain ⟨first, rest, rfl⟩ := List.exists_cons_of_ne_nil some
  by_cases clear : first < 0x80
  · have sign : signByte (ofTwosComplement (first :: rest)) = 0x00 :=
      if_pos (ofTwosComplement_nonneg_iff.mpr clear)
    have digits : ofBigEndian (0x00 :: first :: rest) = ofBigEndian (first :: rest) := by
      rw [ofBigEndian_cons]
      simp
    rw [sign, ofTwosComplement, if_pos (by decide), digits, ofTwosComplement, if_pos clear]
  · have sign : signByte (ofTwosComplement (first :: rest)) = 0xFF :=
      if_neg (mt ofTwosComplement_nonneg_iff.mp clear)
    have digits : ofBigEndian (0xFF :: first :: rest) =
        255 * 256 ^ (first :: rest).length + ofBigEndian (first :: rest) := ofBigEndian_cons _ _
    have power : Int.pow 256 (0xFF :: first :: rest).length =
        256 ^ (first :: rest).length * 256 := rfl
    have size : Int.pow 256 (first :: rest).length = 256 ^ (first :: rest).length := rfl
    rw [sign, ofTwosComplement, if_neg (by decide), digits, power, ofTwosComplement, if_neg clear,
      size]
    push_cast
    omega

theorem ofTwosComplement_replicate_append (some : bytes ≠ []) (copies : Nat) :
    ofTwosComplement (List.replicate copies (signByte (ofTwosComplement bytes)) ++ bytes) =
      ofTwosComplement bytes := by
  induction copies with
  | zero => rfl
  | succ copies ih =>
      have more := List.append_ne_nil_of_right_ne_nil
        (List.replicate copies (signByte (ofTwosComplement bytes))) some
      have longer := ofTwosComplement_signByte_cons more
      rw [ih] at longer
      exact longer

/-- Every payload of a number is its shortest payload behind copies of the sign. -/
theorem exists_eq_replicate_append (some : bytes ≠ []) :
    ∃ copies, bytes = List.replicate copies (signByte (ofTwosComplement bytes)) ++
      twosComplement (ofTwosComplement bytes) := by
  have fewest := length_twosComplement_ofTwosComplement_le some
  have least := length_twosComplement_pos (ofTwosComplement bytes)
  have same := ofTwosComplement_replicate_append (List.ne_nil_of_length_pos least)
    (bytes.length - (twosComplement (ofTwosComplement bytes)).length)
  rw [ofTwosComplement_twosComplement] at same
  refine ⟨_, eq_of_ofTwosComplement_eq ?_ same.symm⟩
  rw [List.length_append, List.length_replicate]
  omega

/-- The balanced remainder: what the bytes hold without a sign, cut down to a word of their size. -/
theorem ofTwosComplement_eq_bmod (some : bytes ≠ []) :
    ofTwosComplement bytes = (ofBigEndian bytes : Int).bmod (256 ^ bytes.length) := by
  obtain ⟨more, size⟩ := Nat.exists_eq_add_one_of_ne_zero (mt List.eq_nil_of_length_eq_zero some)
  obtain ⟨lower, upper⟩ := ofTwosComplement_bounds size
  have power : ((256 ^ more : Nat) : Int) = 256 ^ more := Int.natCast_pow 256 more
  have whole : 256 ^ bytes.length = 256 ^ more * 256 := by rw [size, Nat.pow_succ]
  have modulus : ((256 ^ bytes.length : Nat) : Int) = 256 ^ bytes.length := Int.natCast_pow 256 _
  rw [← emod_ofTwosComplement, ← modulus, Int.emod_bmod, whole]
  exact (Int.bmod_eq_of_le (by omega) (by omega)).symm

theorem ofBigEndian_eq_ofDigits (bytes : List UInt8) :
    ofBigEndian bytes = Nat.ofDigits 256 (bytes.reverse.map UInt8.toNat) := by
  induction bytes using List.reverseRecOn with
  | nil => rfl
  | append_singleton front byte ih =>
      rw [ofBigEndian_append_singleton, List.reverse_append, ih]
      simp only [List.reverse_singleton, List.singleton_append, List.map_cons, Nat.ofDigits_cons]
      omega

/-- The number in a word that the bytes fill, the most significant first. -/
def wordValue (bytes : List UInt8) : Int :=
  (BitVec.ofNat (8 * bytes.length) (Nat.ofDigits 256 (bytes.reverse.map UInt8.toNat))).toInt

theorem wordValue_eq (some : bytes ≠ []) : wordValue bytes = ofTwosComplement bytes := by
  have power : 2 ^ (8 * bytes.length) = 256 ^ bytes.length := Nat.pow_mul 2 8 _
  have small := ofBigEndian_lt bytes
  rw [wordValue, ← ofBigEndian_eq_ofDigits, BitVec.toInt_eq_toNat_bmod, BitVec.toNat_ofNat, power,
    Nat.mod_eq_of_lt small, ofTwosComplement_eq_bmod some]

/-- A payload has room for the numbers of one bit less than it has, and for no others. -/
theorem isLeast_length_twosComplement (number : Int) :
    IsLeast {size | 1 ≤ size ∧ -2 ^ (8 * size - 1) ≤ number ∧ number < 2 ^ (8 * size - 1)}
      (twosComplement number).length := by
  have fits : ∀ size, 1 ≤ size → ((twosComplement number).length ≤ size ↔
      -2 ^ (8 * size - 1) ≤ number ∧ number < 2 ^ (8 * size - 1)) := by
    intro size some
    obtain ⟨more, rfl⟩ := Nat.exists_eq_add_of_le' some
    have bits : (2 : Int) ^ (8 * (more + 1) - 1) = 128 * 256 ^ more := by
      rw [show 8 * (more + 1) - 1 = 7 + 8 * more by omega, Int.pow_add, Int.pow_mul]
      rfl
    rw [bits]
    exact length_twosComplement_le_iff
  have some := length_twosComplement_pos number
  refine ⟨⟨some, (fits _ some).mp (Nat.le_refl _)⟩, fun size ⟨least, range⟩ => ?_⟩
  exact (fits size least).mpr range

theorem isEmpty_or_lt_iff {most : Nat} : (bytes.isEmpty || decide (most < bytes.length)) = true ↔
    ¬(bytes ≠ [] ∧ bytes.length ≤ most) := by
  rw [Bool.or_eq_true, List.isEmpty_iff, decide_eq_true_iff, not_and_or, not_not, Nat.not_le]

namespace Element

variable {kind : NumberKind} {most : Nat} {element : Element}

theorem decodeNumber_of_length (some : element.value ≠ []) (few : element.value.length ≤ most) :
    element.decodeNumber kind most = .ok (ofTwosComplement element.value) :=
  decodeNumber_eq_ok_iff.mpr ⟨some, few, rfl⟩

theorem decodeNumber_of_wrong (wrong : ¬(element.value ≠ [] ∧ element.value.length ≤ most)) :
    element.decodeNumber kind most = .error (.numberLength kind most element.value.length) := by
  rw [decodeNumber, if_pos (isEmpty_or_lt_iff.mpr wrong)]

/-- What a reader takes depends on the size alone, and its number on the bytes alone. -/
theorem decodeNumber_eq (kind : NumberKind) (most : Nat) (element : Element) :
    element.decodeNumber kind most =
      if 1 ≤ element.value.length ∧ element.value.length ≤ most then .ok (wordValue element.value)
      else .error (.numberLength kind most element.value.length) := by
  by_cases right : 1 ≤ element.value.length ∧ element.value.length ≤ most
  · have some : element.value ≠ [] := List.ne_nil_of_length_pos right.1
    rw [if_pos right, decodeNumber_of_length some right.2, wordValue_eq some]
  · rw [if_neg right, decodeNumber_of_wrong]
    intro taken
    exact right ⟨List.length_pos_iff.mpr taken.1, taken.2⟩

/-- A reader of fewer bytes reads what the reader of eight does. -/
theorem decodeNumber_eq_decodeInteger64 (kind : NumberKind) (few : most ≤ 8) (element : Element) :
    element.decodeNumber kind most =
      if 1 ≤ element.value.length ∧ element.value.length ≤ most then element.decodeInteger64
      else .error (.numberLength kind most element.value.length) := by
  rw [decodeInteger64, decodeNumber_eq, decodeNumber_eq]
  by_cases right : 1 ≤ element.value.length ∧ element.value.length ≤ most
  · rw [if_pos right, if_pos right, if_pos ⟨right.1, Nat.le_trans right.2 few⟩]
  · rw [if_neg right, if_neg right]

theorem decodeInteger32_ofInteger_eq_ok_iff {tag : Tag} {number found : Int} :
    (ofInteger tag number).decodeInteger32 = .ok found ↔
      found = number ∧ -2 ^ 31 ≤ number ∧ number < 2 ^ 31 := by
  have some := List.ne_nil_of_length_pos (length_twosComplement_pos number)
  have few : (twosComplement number).length ≤ 4 ↔ -2 ^ 31 ≤ number ∧ number < 2 ^ 31 :=
    length_twosComplement_le_iff
  rw [decodeInteger32, decodeNumber_eq_ok_iff, ofInteger, ofTwosComplement_twosComplement, few]
  constructor
  · intro read
    exact ⟨read.2.2.symm, read.2.1⟩
  · intro fits
    exact ⟨some, fits.2, fits.1.symm⟩

end Element

end DirectoryClient.Tlv
