import DirectoryClient.Proofs.Tlv.Canonical
import DirectoryClient.Proofs.Tlv.Integer

namespace DirectoryClient.Tlv

variable {bytes others : List UInt8}

theorem ofTwosComplement_bounds {more : Nat} (size : bytes.length = more + 1) :
    -(128 * 256 ^ more) ≤ ofTwosComplement bytes ∧ ofTwosComplement bytes < 128 * 256 ^ more := by
  induction bytes using List.reverseRecOn generalizing more with
  | nil => cases size
  | append_singleton front byte ih =>
      have bound := byte.toNat_lt
      rw [List.length_append, List.length_singleton, Nat.add_right_cancel_iff] at size
      cases more with
      | zero =>
          obtain rfl := List.eq_nil_of_length_eq_zero size
          simp only [List.nil_append, ofTwosComplement, UInt8.lt_iff_toNat_lt, ofBigEndian,
            List.foldl_cons, List.foldl_nil]
          change _ ≤ (if byte.toNat < 128 then _ else _ - (256 : Int)) ∧
            (if byte.toNat < 128 then _ else _ - (256 : Int)) < _
          split <;> omega
      | succ more =>
          obtain ⟨lower, upper⟩ := ih size
          have some : front ≠ [] := List.ne_nil_of_length_eq_add_one size
          rw [ofTwosComplement_append_singleton some, Int.pow_succ]
          omega

theorem emod_ofTwosComplement (bytes : List UInt8) :
    ofTwosComplement bytes % 256 ^ bytes.length = ofBigEndian bytes := by
  have power : ((256 ^ bytes.length : Nat) : Int) = 256 ^ bytes.length := Int.natCast_pow 256 _
  have small : (ofBigEndian bytes : Int) < 256 ^ bytes.length :=
    power ▸ Int.ofNat_lt.mpr (ofBigEndian_lt bytes)
  have whole := Int.emod_eq_of_lt (Int.natCast_nonneg _) small
  cases bytes with
  | nil => rfl
  | cons first rest =>
      rw [ofTwosComplement]
      split
      · exact whole
      · exact (Int.sub_emod_right _ _).trans whole

theorem eq_of_ofTwosComplement_eq (length : bytes.length = others.length)
    (same : ofTwosComplement bytes = ofTwosComplement others) : bytes = others := by
  apply eq_of_ofBigEndian_eq length
  have digits := emod_ofTwosComplement bytes
  rw [same, length, emod_ofTwosComplement] at digits
  exact (Int.natCast_inj.mp digits).symm

theorem length_twosComplement_ofTwosComplement_le (some : bytes ≠ []) :
    (twosComplement (ofTwosComplement bytes)).length ≤ bytes.length := by
  obtain ⟨more, size⟩ := Nat.exists_eq_add_one_of_ne_zero (mt List.eq_nil_of_length_eq_zero some)
  rw [size]
  exact length_twosComplement_le_iff.mpr (ofTwosComplement_bounds size)

theorem twosComplement_ofTwosComplement
    (least : bytes.length = (twosComplement (ofTwosComplement bytes)).length) :
    twosComplement (ofTwosComplement bytes) = bytes :=
  eq_of_ofTwosComplement_eq least.symm (ofTwosComplement_twosComplement _)

/-- The highest bit of the first byte is the sign. -/
theorem ofTwosComplement_nonneg_iff {first : UInt8} {rest : List UInt8} :
    0 ≤ ofTwosComplement (first :: rest) ↔ first < 0x80 := by
  have power : ((256 ^ (first :: rest).length : Nat) : Int) = 256 ^ (first :: rest).length :=
    Int.natCast_pow 256 _
  have small : (ofBigEndian (first :: rest) : Int) < 256 ^ (first :: rest).length :=
    power ▸ Int.ofNat_lt.mpr (ofBigEndian_lt (first :: rest))
  rw [ofTwosComplement]
  split
  next clear => exact iff_of_true (Int.natCast_nonneg _) clear
  next set => exact iff_of_false (Int.not_le.mpr (Int.sub_neg_of_lt small)) set

/-- A number of at most four bytes is one of 32 bits. -/
theorem exists_int32_of_length_le (some : bytes ≠ []) (few : bytes.length ≤ 4) :
    ∃ value : Int32, value.toInt = ofTwosComplement bytes := by
  obtain ⟨more, size⟩ := Nat.exists_eq_add_one_of_ne_zero (mt List.eq_nil_of_length_eq_zero some)
  obtain ⟨lower, upper⟩ := ofTwosComplement_bounds size
  have wide : 256 ^ more ≤ 256 ^ 3 := Nat.pow_le_pow_right (by decide) (by omega)
  have power : ((256 ^ more : Nat) : Int) = 256 ^ more := Int.natCast_pow 256 more
  exact ⟨.ofInt (ofTwosComplement bytes), Int32.toInt_ofInt_of_le (by omega) (by omega)⟩

theorem Element.decodeNumber_eq_ok_iff {kind : NumberKind} {most : Nat} {element : Element}
    {number : Int} : element.decodeNumber kind most = .ok number ↔
      element.value ≠ [] ∧ element.value.length ≤ most ∧
        ofTwosComplement element.value = number := by
  rw [decodeNumber]
  split
  · next refused =>
      rw [Bool.or_eq_true, List.isEmpty_iff, decide_eq_true_iff] at refused
      constructor
      · intro found
        cases found
      · rintro ⟨some, few, -⟩
        exact (refused.elim some (Nat.not_lt.mpr few)).elim
  · next accepted =>
      rw [Bool.or_eq_true, List.isEmpty_iff, decide_eq_true_iff, not_or, Nat.not_lt] at accepted
      rw [Except.ok.injEq]
      exact ⟨fun same => ⟨accepted.1, accepted.2, same⟩, fun found => found.2.2⟩

end DirectoryClient.Tlv
