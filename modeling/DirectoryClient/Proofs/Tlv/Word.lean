import DirectoryClient.Tlv.InPlace
import DirectoryClient.Proofs.Tlv.SignExtension

namespace DirectoryClient.Tlv

variable {bytes : List UInt8}

namespace InPlace

theorem length_lowBytes (size number : Nat) : (lowBytes size number).length = size := by
  induction size generalizing number with
  | zero => rfl
  | succ size ih => rw [lowBytes, List.length_append, ih, List.length_singleton]

theorem ofBigEndian_lowBytes (size number : Nat) :
    ofBigEndian (lowBytes size number) = number % 256 ^ size := by
  induction size generalizing number with
  | zero => rw [Nat.pow_zero, Nat.mod_one]; rfl
  | succ size ih =>
      have low : (UInt8.ofNat number).toNat = number % 256 := UInt8.toNat_ofNat'
      rw [lowBytes, ofBigEndian_append_singleton, ih, low, Nat.pow_succ', Nat.mod_mul]
      omega

theorem lowBytes_ne_nil (size number : Nat) : lowBytes (size + 1) number ≠ [] :=
  List.append_ne_nil_of_right_ne_nil _ (List.cons_ne_nil _ _)

theorem lowBytes_add (high low number : Nat) :
    lowBytes (high + low) number = lowBytes high (number / 256 ^ low) ++ lowBytes low number := by
  induction low generalizing number with
  | zero => rw [Nat.add_zero, Nat.pow_zero, Nat.div_one, lowBytes, List.append_nil]
  | succ low ih =>
      rw [← Nat.add_assoc, lowBytes, ih, lowBytes, List.append_assoc, Nat.div_div_eq_div_mul,
        Nat.pow_succ']

theorem lowBytes_byteCount (number : Nat) : lowBytes (byteCount number) number = bigEndian number := by
  have enough : number < 256 ^ byteCount number :=
    (byteCount_le_iff (Nat.succ_pos _)).mp (Nat.le_refl _)
  apply eq_of_ofBigEndian_eq
  · rw [length_lowBytes, length_bigEndian]
  · rw [ofBigEndian_lowBytes, Nat.mod_eq_of_lt enough, ofBigEndian_bigEndian]

/-- Eight bytes hold the number of a word. -/
theorem ofTwosComplement_lowBytes (number : Int64) :
    ofTwosComplement (lowBytes 8 number.toUInt64.toNat) = number.toInt := by
  have some : lowBytes 8 number.toUInt64.toNat ≠ [] := lowBytes_ne_nil 7 _
  have small : number.toUInt64.toNat < 256 ^ 8 := number.toUInt64.toNat_lt
  rw [ofTwosComplement_eq_bmod some, ofBigEndian_lowBytes, length_lowBytes, Nat.mod_eq_of_lt small]
  exact (BitVec.toInt_eq_toNat_bmod number.toBitVec).symm

theorem and_highBit_eq_zero_iff {byte : UInt8} : byte &&& 0x80 = 0 ↔ byte < 0x80 := by
  have each : ∀ value < 256, value &&& 128 = 0 ↔ value < 128 := by decide +kernel
  rw [← UInt8.toNat_inj, UInt8.toNat_and, UInt8.lt_iff_toNat_lt]
  exact each byte.toNat byte.toNat_lt

theorem repeatsSign_iff {first second : UInt8} {rest : List UInt8} :
    repeatsSign first second = true ↔ first = signByte (ofTwosComplement (second :: rest)) := by
  have sign : 0 ≤ ofTwosComplement (second :: rest) ↔ second < 0x80 := ofTwosComplement_nonneg_iff
  have bit : second &&& 0x80 = 0 ↔ second < 0x80 := and_highBit_eq_zero_iff
  rw [repeatsSign, signByte]
  by_cases clear : second < 0x80
  · simp [bit.mpr clear, sign.mpr clear]
  · simp [mt bit.mp clear, mt sign.mp clear]

theorem strip_twosComplement (number : Int) :
    strip (twosComplement number) = twosComplement number := by
  have value := ofTwosComplement_twosComplement number
  cases written : twosComplement number with
  | nil => rfl
  | cons first tail =>
      cases tail with
      | nil => rfl
      | cons second rest =>
          rw [written] at value
          by_cases repeated : repeatsSign first second = true
          · -- Without its first byte the payload would have the same number and be shorter.
            rw [repeatsSign_iff.mp repeated, ofTwosComplement_signByte_cons (List.cons_ne_nil _ _)]
              at value
            have fewer := length_twosComplement_ofTwosComplement_le (List.cons_ne_nil second rest)
            rw [value, written, List.length_cons] at fewer
            omega
          · rw [strip, if_neg repeated]

theorem strip_signByte_cons (some : bytes ≠ []) :
    strip (signByte (ofTwosComplement bytes) :: bytes) = strip bytes := by
  obtain ⟨second, rest, rfl⟩ := List.exists_cons_of_ne_nil some
  rw [strip, if_pos (repeatsSign_iff.mpr rfl)]

theorem strip_replicate_append (some : bytes ≠ []) (copies : Nat) :
    strip (List.replicate copies (signByte (ofTwosComplement bytes)) ++ bytes) = strip bytes := by
  induction copies with
  | zero => rfl
  | succ copies ih =>
      have more := List.append_ne_nil_of_right_ne_nil
        (List.replicate copies (signByte (ofTwosComplement bytes))) some
      have longer := strip_signByte_cons more
      rw [ofTwosComplement_replicate_append some, ih] at longer
      exact longer

theorem strip_eq_twosComplement (some : bytes ≠ []) :
    strip bytes = twosComplement (ofTwosComplement bytes) := by
  obtain ⟨copies, extended⟩ := exists_eq_replicate_append some
  have least := length_twosComplement_pos (ofTwosComplement bytes)
  have stripped := strip_replicate_append (List.ne_nil_of_length_pos least) copies
  rw [ofTwosComplement_twosComplement, ← extended, strip_twosComplement] at stripped
  exact stripped

theorem encodeInteger_eq (tag : Tag) (number : Int64) :
    encodeInteger tag number = .ofInteger tag number.toInt := by
  have some : lowBytes 8 number.toUInt64.toNat ≠ [] := lowBytes_ne_nil 7 _
  rw [encodeInteger, strip_eq_twosComplement some, ofTwosComplement_lowBytes, Element.ofInteger]

theorem toNat_moveIn (high : Int64) (byte : UInt8) :
    (moveIn high byte).toBitVec.toNat = high.toBitVec.toNat % 2 ^ 56 * 256 + byte.toNat := by
  have shifted : (high <<< 8).toBitVec.toNat = (high.toBitVec.toNat % 2 ^ 56) <<< 8 := by
    have count : ((8 : Int64).toBitVec.smod 64).toNat = 8 := by decide
    rw [Int64.toBitVec_shiftLeft, BitVec.shiftLeft_eq', BitVec.toNat_shiftLeft, count,
      Nat.shiftLeft_eq, Nat.shiftLeft_eq]
    omega
  have low : byte.toUInt64.toInt64.toBitVec.toNat = byte.toNat := UInt8.toNat_toUInt64 byte
  rw [moveIn, Int64.toBitVec_or, BitVec.toNat_or, shifted, low,
    ← Nat.shiftLeft_add_eq_or_of_lt byte.toNat_lt, Nat.shiftLeft_eq]

/-- As long as a word has room for one more byte, moving it in loses nothing. -/
theorem toInt_moveIn {high : Int64} (lower : -2 ^ 55 ≤ high.toInt) (upper : high.toInt < 2 ^ 55)
    (byte : UInt8) : (moveIn high byte).toInt = high.toInt * 256 + byte.toNat := by
  have bound := byte.toNat_lt
  have bits := toNat_moveIn high byte
  have before : high.toInt = _ := BitVec.toInt_eq_toNat_cond high.toBitVec
  have after : (moveIn high byte).toInt = _ := BitVec.toInt_eq_toNat_cond _
  rw [after, bits]
  split at before <;> split <;> omega

theorem toInt_moveIn_signWord (first : UInt8) :
    (moveIn (signWord first) first).toInt = ofTwosComplement [first] := by
  have digits : ofBigEndian [first] = first.toNat := by simp [ofBigEndian]
  have modulus : Int.pow 256 [first].length = 256 := rfl
  by_cases clear : first < 0x80
  · have sign : signWord first = 0 := if_pos (and_highBit_eq_zero_iff.mpr clear)
    have zero : (0 : Int64).toInt = 0 := by decide
    rw [sign, toInt_moveIn (by decide) (by decide), zero, ofTwosComplement, if_pos clear, digits]
    omega
  · have sign : signWord first = -1 := if_neg (mt and_highBit_eq_zero_iff.mp clear)
    have ones : (-1 : Int64).toInt = -1 := by decide
    rw [sign, toInt_moveIn (by decide) (by decide), ones, ofTwosComplement, if_neg clear, digits,
      modulus]
    omega

/-- Up to eight bytes, the word that they are moved into has their number. -/
theorem toInt_foldl_moveIn {first : UInt8} {rest : List UInt8} (few : rest.length ≤ 7) :
    ((first :: rest).foldl moveIn (signWord first)).toInt = ofTwosComplement (first :: rest) := by
  induction rest using List.reverseRecOn with
  | nil => exact toInt_moveIn_signWord first
  | append_singleton front byte ih =>
      rw [List.length_append, List.length_singleton] at few
      have value := ih (by omega)
      -- All but the last byte leave room for it.
      have size : (first :: front).length = front.length + 1 := rfl
      obtain ⟨lower, upper⟩ := ofTwosComplement_bounds size
      have wide : 256 ^ front.length ≤ 256 ^ 6 := Nat.pow_le_pow_right (by decide) (by omega)
      have power : ((256 ^ front.length : Nat) : Int) = 256 ^ front.length := Int.natCast_pow 256 _
      rw [← List.cons_append, List.foldl_append,
        ofTwosComplement_append_singleton (List.cons_ne_nil _ _), ← value]
      exact toInt_moveIn (by omega) (by omega) byte

variable {kind : NumberKind} {most : Nat}

theorem decodeSigned_of_length {first : UInt8} {rest : List UInt8}
    (few : (first :: rest).length ≤ most) : decodeSigned kind most (first :: rest) =
      .ok ((first :: rest).foldl moveIn (signWord first)) := by
  rw [decodeSigned, decide_eq_false (Nat.not_lt.mpr few)]
  rfl

theorem exists_decodeSigned (kind : NumberKind) (some : bytes ≠ []) (few : bytes.length ≤ most)
    (room : most ≤ 8) :
    ∃ word, decodeSigned kind most bytes = .ok word ∧ word.toInt = ofTwosComplement bytes := by
  obtain ⟨first, rest, rfl⟩ := List.exists_cons_of_ne_nil some
  refine ⟨_, decodeSigned_of_length few, toInt_foldl_moveIn ?_⟩
  rw [List.length_cons] at few
  omega

theorem decodeSigned_of_wrong (wrong : ¬(bytes ≠ [] ∧ bytes.length ≤ most)) :
    decodeSigned kind most bytes = refuse (.numberLength kind most bytes.length) := by
  rw [decodeSigned, if_pos (isEmpty_or_lt_iff.mpr wrong)]

/-- The first byte is only looked at where there is one, however many a reader takes. -/
theorem decodeSigned_ne_fault (kind : NumberKind) (most : Nat) (bytes : List UInt8) (fault : Fault) :
    decodeSigned kind most bytes ≠ .error (.fault fault) := by
  by_cases right : bytes ≠ [] ∧ bytes.length ≤ most
  · obtain ⟨first, rest, rfl⟩ := List.exists_cons_of_ne_nil right.1
    rw [decodeSigned_of_length right.2]
    intro failed
    cases failed
  · rw [decodeSigned_of_wrong right]
    intro failed
    cases failed

theorem map_toInt_decodeSigned (room : most ≤ 8) (element : Element) :
    (decodeSigned kind most element.value).map Int64.toInt =
      (element.decodeNumber kind most).mapError .refused := by
  by_cases right : element.value ≠ [] ∧ element.value.length ≤ most
  · obtain ⟨word, found, value⟩ := exists_decodeSigned kind right.1 right.2 room
    rw [found, Element.decodeNumber_of_length right.1 right.2, ← value]
    rfl
  · rw [decodeSigned_of_wrong right, Element.decodeNumber_of_wrong right]
    rfl

/-- A word that was read from four bytes or fewer is narrowed without loss. -/
theorem map_toInt_narrowed (few : most ≤ 4) (element : Element) :
    ((decodeSigned kind most element.value).map Int64.toInt32).map Int32.toInt =
      (element.decodeNumber kind most).mapError .refused := by
  by_cases right : element.value ≠ [] ∧ element.value.length ≤ most
  · have room : most ≤ 8 := by omega
    obtain ⟨word, found, value⟩ := exists_decodeSigned kind right.1 right.2 room
    obtain ⟨narrow, same⟩ := exists_int32_of_length_le right.1 (Nat.le_trans right.2 few)
    have lower := narrow.le_toInt
    have upper := narrow.toInt_lt
    have kept : word.toInt32.toInt = word.toInt := by
      rw [Int64.toInt_toInt32, value, ← same]
      exact Int.bmod_eq_of_le (by omega) (by omega)
    rw [found, Element.decodeNumber_of_length right.1 right.2, ← value, ← kept]
    rfl
  · rw [decodeSigned_of_wrong right, Element.decodeNumber_of_wrong right]
    rfl

end InPlace

/-- A number of 64 bits is written with the shortest of its payloads, of which all others are sign
extensions, and each reader reads a payload of a size that it takes as the number that a word of
this size would be. -/
theorem numbers_minimal_and_agreed (number : Int64) (tag : Tag) (element : Element) :
    InPlace.encodeInteger tag number = .ofInteger tag number.toInt ∧
    IsLeast {size | 1 ≤ size ∧ -2 ^ (8 * size - 1) ≤ number.toInt ∧
        number.toInt < 2 ^ (8 * size - 1)}
      (Element.ofInteger tag number.toInt).value.length ∧
    (Element.ofInteger tag number.toInt).decodeInteger64 = .ok number.toInt ∧
    (element.decodeInteger64 = .ok number.toInt →
      element.value ≠ (Element.ofInteger tag number.toInt).value →
      ∃ copies, 0 < copies ∧ element.value = List.replicate copies (signByte number.toInt) ++
        (Element.ofInteger tag number.toInt).value) ∧
    ((InPlace.decodeInteger64 element).map Int64.toInt = element.decodeInteger64.mapError .refused ∧
      (InPlace.decodeInteger32 element).map Int32.toInt =
        element.decodeInteger32.mapError .refused ∧
      (InPlace.decodeEnumerated element).map Int32.toInt =
        element.decodeEnumerated.mapError .refused) ∧
    (element.decodeInteger64 =
        if 1 ≤ element.value.length ∧ element.value.length ≤ 8 then .ok (wordValue element.value)
        else .error (.numberLength .integer 8 element.value.length)) ∧
    (element.decodeInteger32 =
        if 1 ≤ element.value.length ∧ element.value.length ≤ 4 then element.decodeInteger64
        else .error (.numberLength .integer 4 element.value.length)) ∧
    (element.decodeEnumerated =
        if 1 ≤ element.value.length ∧ element.value.length ≤ 4 then element.decodeInteger64
        else .error (.numberLength .enumerated 4 element.value.length)) ∧
    ∀ found, (Element.ofInteger tag number.toInt).decodeInteger32 = .ok found ↔
      found = number.toInt ∧ -2 ^ 31 ≤ number.toInt ∧ number.toInt < 2 ^ 31 := by
  have lower := number.le_toInt
  have upper := number.toInt_lt
  refine ⟨InPlace.encodeInteger_eq tag number, isLeast_length_twosComplement number.toInt,
    Element.decodeNumber_ofInteger (by omega) (by omega), fun read different => ?_,
    ⟨InPlace.map_toInt_decodeSigned (Nat.le_refl 8) element,
      InPlace.map_toInt_narrowed (Nat.le_refl 4) element,
      InPlace.map_toInt_narrowed (Nat.le_refl 4) element⟩,
    Element.decodeNumber_eq .integer 8 element,
    Element.decodeNumber_eq_decodeInteger64 .integer (by decide) element,
    Element.decodeNumber_eq_decodeInteger64 .enumerated (by decide) element,
    fun found => Element.decodeInteger32_ofInteger_eq_ok_iff⟩
  obtain ⟨some, -, value⟩ := Element.decodeNumber_eq_ok_iff.mp read
  obtain ⟨copies, extended⟩ := exists_eq_replicate_append some
  rw [value] at extended
  refine ⟨copies, Nat.pos_of_ne_zero ?_, extended⟩
  intro none
  rw [none] at extended
  exact different extended

/-- A number of two bytes in a payload of four, which a reader of 32 bits takes as well. -/
theorem numbers_minimal_and_agreed_padded :
    (⟨0x0A, [0xFF, 0xFF, 0xFF, 0x7F]⟩ : Element).decodeInteger64 = .ok (-129) ∧
      (∃ copies, 0 < copies ∧
        [0xFF, 0xFF, 0xFF, 0x7F] = List.replicate copies (signByte (-129)) ++ [0xFF, 0x7F]) ∧
      (⟨0x0A, [0xFF, 0xFF, 0xFF, 0x7F]⟩ : Element).decodeEnumerated = .ok (-129) ∧
      (Element.ofInteger Tag.integer (-129)).decodeInteger32 = .ok (-129) := by
  have value : (-129 : Int64).toInt = -129 := by decide
  have written : twosComplement (-129) = [0xFF, 0x7F] := by decide +kernel
  have read : (⟨0x0A, [0xFF, 0xFF, 0xFF, 0x7F]⟩ : Element).decodeInteger64 = .ok (-129) := by
    decide +kernel
  obtain ⟨-, -, -, padded, -, -, -, enumerated, narrow⟩ :=
    numbers_minimal_and_agreed (-129) Tag.integer ⟨0x0A, [0xFF, 0xFF, 0xFF, 0x7F]⟩
  rw [value, Element.ofInteger, written] at padded
  rw [value] at narrow
  refine ⟨read, padded read (by decide), ?_, (narrow _).mpr (by decide)⟩
  rw [enumerated, read]
  rfl

end DirectoryClient.Tlv
