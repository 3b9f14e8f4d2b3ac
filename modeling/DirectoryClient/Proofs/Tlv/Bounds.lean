import DirectoryClient.Proofs.Tlv.Word
import DirectoryClient.Tlv.Tree

/-!
# Readers stay within their bounds

A header is read before it is known whether the bytes behind it are there, so each difference, sum
and slice of a reader rests on what another one has found. Bytes either spell something at their
front or fail for a reason, and in both cases it is followed here what the reader in place does. It
comes to the same end as the reader of lists, and a reader of lists has no faults.
-/

namespace DirectoryClient.Tlv

namespace InPlace

theorem ok_bind {α β : Type} (value : α) (next : α → Except Stop β) :
    (Except.ok value >>= next) = next value :=
  rfl

/-! ## Operations within their limits -/

theorem add_of_lt {left right : Nat} (fits : left + right < 2 ^ 64) :
    add left right = .ok (left + right) :=
  if_pos fits

theorem sub_of_le {left right : Nat} (le : right ≤ left) : sub left right = .ok (left - right) :=
  if_pos le

theorem slice?_append (front part rest : List UInt8) :
    slice? (front ++ (part ++ rest)) front.length (front.length + part.length) = some part := by
  have within : front.length ≤ front.length + part.length ∧
      front.length + part.length ≤ (front ++ (part ++ rest)).length := by
    simp only [List.length_append]
    omega
  rw [slice?, if_pos within, ← List.append_assoc, ← List.length_append, List.take_left,
    List.drop_left]

theorem slice_append (front part rest : List UInt8) :
    slice (front ++ (part ++ rest)) front.length (front.length + part.length) = .ok part := by
  rw [slice, slice?_append]

theorem slice_to_end {bytes : List UInt8} {place : Nat} (within : place ≤ bytes.length) :
    slice bytes place bytes.length = .ok (bytes.drop place) := by
  rw [slice, slice?, if_pos ⟨within, Nat.le_refl _⟩, List.take_length]

theorem shiftIn_of_lt {high : Nat} (room : high < 2 ^ 56) (byte : UInt8) :
    shiftIn high byte = .ok (high * 256 + byte.toNat) := by
  have fits : high <<< 8 < 2 ^ 64 := by
    rw [Nat.shiftLeft_eq]
    omega
  rw [shiftIn, if_pos fits, ← Nat.shiftLeft_add_eq_or_of_lt byte.toNat_lt, Nat.shiftLeft_eq]

/-- Eight bytes can be moved into a word without a loss. -/
theorem foldlM_shiftIn {digits : List UInt8} (few : digits.length ≤ 8) :
    digits.foldlM shiftIn 0 = .ok (ofBigEndian digits) := by
  induction digits using List.reverseRecOn with
  | nil => rfl
  | append_singleton front byte ih =>
      rw [List.length_append, List.length_singleton] at few
      have wide : 256 ^ front.length ≤ 256 ^ 7 := Nat.pow_le_pow_right (by decide) (by omega)
      have room : ofBigEndian front < 2 ^ 56 := Nat.lt_of_lt_of_le (ofBigEndian_lt front) wide
      rw [List.foldlM_append, ih (by omega), ok_bind, ofBigEndian_append_singleton]
      simp only [List.foldlM_cons, List.foldlM_nil, shiftIn_of_lt room]
      rfl

/-! ## Length headers -/

theorem mostBytes_le_eight : Length.mostBytes ≤ 8 := by
  decide

theorem count_of_marked {first : UInt8} {count : Nat} (marked : first.toNat = 128 + count) :
    (first &&& ~~~0x80).toNat = count := by
  have bound := first.toNat_lt
  have low : first.toNat &&& (2 ^ 7 - 1) = first.toNat % 2 ^ 7 := Nat.and_two_pow_sub_one_eq_mod _ 7
  have mask : (~~~0x80 : UInt8).toNat = 2 ^ 7 - 1 := by decide
  rw [UInt8.toNat_and, mask, low]
  omega

theorem decodeLength_of_marked {first : UInt8} {count : Nat} (marked : first.toNat = 128 + count)
    (rest : List UInt8) : decodeLength (first :: rest) =
      if count = 0 then refuse .indefiniteLength
      else if Length.mostBytes < count then refuse (.lengthTooLong count)
      else decodeDigits (first :: rest) count := by
  have long : ¬first &&& 0x80 = 0 := by
    rw [and_highBit_eq_zero_iff, UInt8.lt_iff_toNat_lt, marked]
    exact Nat.not_lt.mpr (Nat.le_add_right 128 count)
  simp only [decodeLength, if_neg long, count_of_marked marked]

theorem decodeDigits_append (first : UInt8) {digits : List UInt8} (few : digits.length ≤ 8)
    (rest : List UInt8) : decodeDigits (first :: (digits ++ rest)) digits.length =
      .ok (ofBigEndian digits, 1 + digits.length) := by
  have stop : add 1 digits.length = .ok (1 + digits.length) := add_of_lt (by omega)
  have available : sub (first :: (digits ++ rest)).length 1 = .ok (digits ++ rest).length :=
    sub_of_le (Nat.succ_pos _)
  have part : slice? (first :: (digits ++ rest)) 1 (1 + digits.length) = some digits :=
    slice?_append [first] digits rest
  rw [decodeDigits, stop, ok_bind, available, ok_bind, part]
  simp only [foldlM_shiftIn few, ok_bind]
  rfl

theorem decodeDigits_of_short (first : UInt8) {digits : List UInt8} {count : Nat}
    (few : count ≤ 8) (short : digits.length < count) :
    decodeDigits (first :: digits) count = refuse (.truncated count digits.length) := by
  have stop : add 1 count = .ok (1 + count) := add_of_lt (by omega)
  have available : sub (first :: digits).length 1 = .ok digits.length := sub_of_le (Nat.succ_pos _)
  have part : slice? (first :: digits) 1 (1 + count) = none := by
    apply if_neg
    rw [List.length_cons]
    omega
  rw [decodeDigits, stop, ok_bind, available, ok_bind, part]

theorem decodeLength_of_spells {header : List UInt8} {length : Nat}
    (declared : Length.Spells header length) (rest : List UInt8) :
    decodeLength (header ++ rest) = .ok (length, header.length) := by
  cases declared with
  | @short first small =>
      rw [List.singleton_append, decodeLength, if_pos (and_highBit_eq_zero_iff.mpr small)]
      rfl
  | @long first digits marked some few =>
      have count : digits.length ≠ 0 := mt List.eq_nil_of_length_eq_zero some
      rw [List.cons_append, decodeLength_of_marked marked, if_neg count,
        if_neg (Nat.not_lt.mpr few), decodeDigits_append first (Nat.le_trans few mostBytes_le_eight),
        List.length_cons, Nat.add_comm]

theorem decodeLength_of_fails {bytes : List UInt8} {reason : DecodeError}
    (failed : Length.Fails bytes reason) : decodeLength bytes = refuse reason := by
  cases failed with
  | missing => rfl
  | @indefinite rest =>
      have marked : (0x80 : UInt8).toNat = 128 + 0 := rfl
      rw [decodeLength_of_marked marked, if_pos rfl]
  | @tooLong first rest count marked many =>
      rw [decodeLength_of_marked marked, if_neg (Nat.ne_of_gt (Nat.zero_lt_of_lt many)),
        if_pos many]
  | @cut first digits count marked few short =>
      rw [decodeLength_of_marked marked, if_neg (Nat.ne_of_gt (Nat.zero_lt_of_lt short)),
        if_neg (Nat.not_lt.mpr few),
        decodeDigits_of_short first (Nat.le_trans few mostBytes_le_eight) short]

theorem decodeLength_eq (bytes : List UInt8) :
    decodeLength bytes = ((Length.decode bytes).map fun found =>
      (found.1, bytes.length - found.2.length)).mapError .refused := by
  rcases Length.spells_or_fails bytes with
    ⟨header, length, rest, declared, rfl⟩ | ⟨reason, failed⟩
  · rw [decodeLength_of_spells declared, Length.decode_of_spells declared, Except.map,
      List.length_append, Nat.add_sub_cancel]
    rfl
  · rw [decodeLength_of_fails failed, Length.decode_of_fails failed]
    rfl

/-! ## Elements -/

open Element (Spells Fails)

variable {bytes form : List UInt8} {element : Element} {reason : DecodeError} {scan : Scan}

/-- Once the header is read, what is left of the bytes decides. -/
theorem decode_of_header {tag : Tag} {header body : List UInt8} {length : Nat}
    (single : tag.isMultiByte = false) (declared : Length.Spells header length)
    (bound : (tag :: (header ++ body)).length < 2 ^ 63) :
    decode (tag :: (header ++ body)) =
      if body.length < length then refuse (.truncated length body.length)
      else .ok (⟨tag, body.take length⟩, 1 + header.length + length) := by
  have size : (tag :: (header ++ body)).length = 1 + header.length + body.length := by
    rw [List.length_cons, List.length_append]
    omega
  have position : add 1 header.length = .ok (1 + header.length) := add_of_lt (by omega)
  have available : sub (tag :: (header ++ body)).length (1 + header.length) = .ok body.length := by
    rw [size, sub_of_le (Nat.le_add_right _ _), Nat.add_sub_cancel_left]
  rw [decode, single]
  simp only [decodeLength_of_spells declared, position, available, ok_bind, Bool.false_eq_true,
    if_false]
  split
  · rfl
  · next enough =>
      have stop : add (1 + header.length) length = .ok (1 + header.length + length) :=
        add_of_lt (by omega)
      have part : slice (tag :: (header ++ body)) (1 + header.length) (1 + header.length + length) =
          .ok (body.take length) := by
        have found := slice_append (tag :: header) (body.take length) (body.drop length)
        rw [List.take_append_drop, List.length_take_of_le (Nat.not_lt.mp enough), List.length_cons,
          Nat.add_comm header.length] at found
        exact found
      rw [stop, ok_bind, part]
      rfl

theorem decode_of_spells (spelled : Spells form element) (rest : List UInt8)
    (bound : (form ++ rest).length < 2 ^ 63) :
    decode (form ++ rest) = .ok (element, form.length) := by
  cases spelled with
  | @intro tag header value single declared =>
      have enough : ¬(value ++ rest).length < value.length := by
        rw [List.length_append]
        omega
      rw [List.cons_append, List.append_assoc] at bound ⊢
      rw [decode_of_header single declared bound, if_neg enough, List.take_left, List.length_cons,
        List.length_append, Nat.add_comm 1, Nat.add_right_comm]

theorem decode_of_fails (failed : Fails bytes reason) (bound : bytes.length < 2 ^ 63) :
    decode bytes = refuse reason := by
  cases failed with
  | empty => rfl
  | multiByteTag continued => rw [decode, if_pos continued]
  | header single failed =>
      rw [decode, single, decodeLength_of_fails failed]
      rfl
  | cut single declared short => rw [decode_of_header single declared bound, if_pos short]

/-- Reading in place finds what reading from a list finds, and no operation is out of bounds. -/
theorem decode_eq (bound : bytes.length < 2 ^ 63) :
    decode bytes = (Element.decode bytes).mapError .refused := by
  rcases Element.spells_or_fails bytes with
    ⟨form, element, rest, spelled, rfl⟩ | ⟨reason, failed⟩
  · rw [decode_of_spells spelled rest bound,
      Element.decode_eq_ok_iff.mpr ⟨form, rest, spelled, rfl, rfl⟩]
    rfl
  · rw [decode_of_fails failed bound, Element.decode_eq_error_iff.mpr failed]
    rfl

theorem decodeExact_eq (bound : bytes.length < 2 ^ 63) :
    decodeExact bytes = (Element.decodeExact bytes).mapError .refused := by
  rw [decodeExact, decode_eq bound, Element.decode, Element.decodeExact]
  cases found : Element.read bytes with
  | error reason => rfl
  | ok front =>
      obtain ⟨element, rest⟩ := front
      have shorter := Element.length_add_length_lt_of_read found
      have consumed : sub bytes.length (bytes.length - rest.length) = .ok rest.length := by
        rw [sub_of_le (Nat.sub_le _ _), Nat.sub_sub_self (by omega)]
      simp only [Except.mapError, ok_bind]
      cases rest with
      | nil =>
          rw [List.length_nil, Nat.sub_zero, if_pos rfl]
          rfl
      | cons byte rest =>
          have different : ¬bytes.length - (byte :: rest).length = bytes.length := by
            rw [List.length_cons] at shorter ⊢
            omega
          rw [if_neg different, consumed]
          rfl

/-! ## Siblings -/

namespace Scan

theorem length_ahead {rest : List UInt8} (ahead : bytes.drop scan.offset = form ++ rest) :
    bytes.length - scan.offset = form.length + rest.length := by
  rw [← List.length_drop, ahead, List.length_append]

theorem turn_of_spells {rest : List UInt8} (bound : bytes.length < 2 ^ 63)
    (within : scan.offset ≤ bytes.length) (spelled : Spells form element)
    (ahead : bytes.drop scan.offset = form ++ rest) :
    scan.turn bytes = .ok ⟨scan.offset + form.length, scan.elements ++ [element]⟩ := by
  have size := length_ahead ahead
  have found := decode_of_spells spelled rest (by rw [List.length_append]; omega)
  have moved : add scan.offset form.length = .ok (scan.offset + form.length) :=
    add_of_lt (by omega)
  rw [turn, slice_to_end within, ok_bind, ahead, found, ok_bind]
  simp only [moved, ok_bind]
  rfl

theorem turn_of_fails (bound : bytes.length < 2 ^ 63) (within : scan.offset ≤ bytes.length)
    (failed : Fails (bytes.drop scan.offset) reason) : scan.turn bytes = refuse reason := by
  have refused := decode_of_fails failed (by rw [List.length_drop]; omega)
  rw [turn, slice_to_end within, ok_bind, refused]
  rfl

/-- A turn that moves on takes two bytes or more, and none that are not there. -/
theorem turn_bounds {next : Scan} (bound : bytes.length < 2 ^ 63)
    (within : scan.offset ≤ bytes.length) (made : scan.turn bytes = .ok next) :
    scan.offset + 2 ≤ next.offset ∧ next.offset ≤ bytes.length := by
  rcases Element.spells_or_fails (bytes.drop scan.offset) with
    ⟨form, element, rest, spelled, ahead⟩ | ⟨reason, failed⟩
  · have size := length_ahead ahead
    have least := spelled.two_le_length
    rw [turn_of_spells bound within spelled ahead] at made
    cases made
    constructor <;> dsimp only <;> omega
  · rw [turn_of_fails bound within failed] at made
    cases made

theorem Reached.bounds {turns : Nat} (reached : Reached bytes turns scan)
    (bound : bytes.length < 2 ^ 63) : 2 * turns ≤ scan.offset ∧ scan.offset ≤ bytes.length := by
  induction reached with
  | start => exact ⟨Nat.zero_le _, Nat.zero_le _⟩
  | turn reached more made ih =>
      obtain ⟨least, most⟩ := turn_bounds bound ih.2 made
      omega

/-- Half as many turns as bytes are enough for what is left of the bytes. -/
theorem run_eq (scan : Scan) (turns : Nat) (bound : bytes.length < 2 ^ 63)
    (within : scan.offset ≤ bytes.length) (enough : (bytes.length - scan.offset) / 2 ≤ turns) :
    scan.run bytes turns = ((Element.decodeSiblings (bytes.drop scan.offset)).map
      (scan.elements ++ ·)).mapError .refused := by
  by_cases more : scan.offset < bytes.length
  · have some : bytes.drop scan.offset ≠ [] := mt List.drop_eq_nil_iff.mp (Nat.not_le.mpr more)
    rcases Element.spells_or_fails (bytes.drop scan.offset) with
      ⟨form, element, rest, spelled, ahead⟩ | ⟨reason, failed⟩
    · have size := length_ahead ahead
      have least := spelled.two_le_length
      obtain ⟨fewer, rfl⟩ : ∃ fewer, turns = fewer + 1 :=
        Nat.exists_eq_add_of_le' (by omega)
      have beyond : bytes.drop (scan.offset + form.length) = rest := by
        rw [← List.drop_drop, ahead, List.drop_left]
      have later := run_eq ⟨scan.offset + form.length, scan.elements ++ [element]⟩ fewer bound
        (by dsimp only; omega) (by dsimp only; omega)
      rw [run, if_pos more, turn_of_spells bound within spelled ahead, ok_bind]
      dsimp only at later ⊢
      rw [later, beyond, ahead, Element.decodeSiblings_of_spells spelled]
      cases Element.decodeSiblings rest with
      | error reason => rfl
      | ok elements => simp [Except.map, Except.mapError]
    · rw [run, if_pos more, turn_of_fails bound within failed,
        Element.decodeSiblings_of_fails some failed]
      rfl
  · have blank : bytes.drop scan.offset = [] := List.drop_eq_nil_iff.mpr (Nat.not_lt.mp more)
    rw [run, if_neg more, blank, Element.decodeSiblings_nil]
    simp [Except.map, Except.mapError]
termination_by turns

end Scan

theorem decodeSiblings_eq (bound : bytes.length < 2 ^ 63) :
    decodeSiblings bytes = (Element.decodeSiblings bytes).mapError .refused := by
  have whole := Scan.run_eq .start (bytes.length / 2) bound (Nat.zero_le _) (Nat.le_refl _)
  simp only [Scan.start, List.drop_zero, List.nil_append] at whole
  rw [decodeSiblings, Scan.start, whole]
  cases Element.decodeSiblings bytes <;> rfl

theorem children_eq (bound : element.value.length < 2 ^ 63) :
    children element = element.children.mapError .refused :=
  decodeSiblings_eq bound

/-- An element is part of the value of another, one level down. -/
def IsChild (child parent : Element) : Prop :=
  parent.value.length < 2 ^ 63 ∧ ∃ below, children parent = .ok below ∧ child ∈ below

theorem IsChild.length_lt {child parent : Element} (isChild : IsChild child parent) :
    child.value.length < parent.value.length := by
  obtain ⟨bound, below, divided, member⟩ := isChild
  rw [children_eq bound] at divided
  cases found : parent.children with
  | error reason =>
      rw [found] at divided
      cases divided
  | ok elements =>
      rw [found] at divided
      cases divided
      exact Element.length_value_lt_of_decodeSiblings found member

/-- Going down from an element to one of its children comes to an end. -/
theorem wellFounded_isChild : WellFounded IsChild :=
  Subrelation.wf IsChild.length_lt (measure fun element : Element => element.value.length).wf

/-! ## Writing length headers -/

theorem significantBytes_eq {length : Nat} (some : 0 < length) (bound : length < 2 ^ 64) :
    significantBytes length = .ok (byteCount length) := by
  have value : (BitVec.ofNat 64 length).toNat = length := Nat.mod_eq_of_lt bound
  have different : BitVec.ofNat 64 length ≠ 0#64 := by
    intro zero
    rw [zero] at value
    exact Nat.ne_of_lt some value
  have lower := BitVec.two_pow_sub_clz_le_toNat_of_ne_zero (by decide) different
  have upper : _ < 2 ^ (64 - (BitVec.ofNat 64 length).clz.toNat) :=
    BitVec.toNat_lt_two_pow_sub_clz
  rw [value] at lower upper
  rw [significantBytes, byteCount]
  generalize (BitVec.ofNat 64 length).clz.toNat = zeros at lower upper ⊢
  have few : zeros ≤ 63 := by
    by_contra many
    rw [Nat.sub_eq_zero_of_le (by omega : 64 ≤ zeros)] at upper
    omega
  have bits : 64 - zeros = 64 - 1 - zeros + 1 := by omega
  rw [bits] at upper
  rw [(Nat.log2_eq_iff (Nat.ne_of_gt some)).mpr ⟨lower, upper⟩, sub_of_le (by omega), ok_bind]
  change Except.ok _ = Except.ok _
  congr 1
  omega

theorem byteCount_le_eight {length : Nat} (bound : length < 2 ^ 64) : byteCount length ≤ 8 :=
  (byteCount_le_iff (by decide)).mpr bound

theorem exists_significantBytes {length : Nat} (bound : length < 2 ^ 64) :
    ∃ count ≤ 8, significantBytes length = .ok count := by
  rcases Nat.eq_zero_or_pos length with rfl | some
  · exact ⟨0, Nat.zero_le 8, rfl⟩
  · exact ⟨_, byteCount_le_eight bound, significantBytes_eq some bound⟩

/-- A count of length bytes leaves the marker alone, and the marker the count. -/
theorem marked_count {count : Nat} (few : count ≤ 8) :
    (0x80 ||| UInt8.ofNat count) &&& 0x80 = 0x80 ∧
      (0x80 ||| UInt8.ofNat count) &&& ~~~0x80 = UInt8.ofNat count ∧
      0x80 ||| UInt8.ofNat count = UInt8.ofNat (128 + count) := by
  have each : ∀ count < 9, (0x80 ||| UInt8.ofNat count) &&& 0x80 = 0x80 ∧
      (0x80 ||| UInt8.ofNat count) &&& ~~~0x80 = UInt8.ofNat count ∧
      0x80 ||| UInt8.ofNat count = UInt8.ofNat (128 + count) := by decide
  exact each count (Nat.lt_succ_of_le few)

/-- The bytes of a word behind its leading zeros are those of the number. -/
theorem slice_lowBytes {length : Nat} (bound : length < 2 ^ 64) :
    slice (lowBytes 8 length) (8 - byteCount length) 8 = .ok (bigEndian length) := by
  have few := byteCount_le_eight bound
  have whole := lowBytes_add (8 - byteCount length) (byteCount length) length
  rw [Nat.sub_add_cancel few, lowBytes_byteCount] at whole
  have within : 8 - byteCount length ≤ (lowBytes 8 length).length := by
    rw [length_lowBytes]
    exact Nat.sub_le _ _
  have part := slice_to_end within
  rw [length_lowBytes] at part
  rw [part, whole, List.drop_left' (length_lowBytes _ _)]

theorem encodeLength_eq {length : Nat} (bound : length < 2 ^ 64) :
    encodeLength length = .ok (Length.encode length) := by
  rw [encodeLength, Length.encode]
  split
  · rfl
  · next large =>
      have few := byteCount_le_eight bound
      have start : sub 8 (byteCount length) = .ok (8 - byteCount length) := sub_of_le few
      rw [significantBytes_eq (by omega) bound, ok_bind, start, ok_bind, slice_lowBytes bound,
        (marked_count few).2.2, length_bigEndian]
      rfl

end InPlace

/-- Whatever the bytes are, reading them in place comes to what reading them as a list comes to, and
so to no fault: no difference is below zero, no sum or shift leaves its word, no place is outside
the bytes, and no loop goes on after half as many turns as there are bytes. -/
theorem readers_stay_in_bounds {bytes : List UInt8} (bound : bytes.length < 2 ^ 63) :
    (InPlace.decodeLength bytes = ((Length.decode bytes).map fun found =>
      (found.1, bytes.length - found.2.length)).mapError .refused) ∧
    InPlace.decode bytes = (Element.decode bytes).mapError .refused ∧
    InPlace.decodeExact bytes = (Element.decodeExact bytes).mapError .refused ∧
    InPlace.decodeSiblings bytes = (Element.decodeSiblings bytes).mapError .refused ∧
    (∀ element : Element, element.value = bytes →
      InPlace.children element = element.children.mapError .refused ∧
      ∀ kind most, (∀ fault, InPlace.decodeSigned kind most bytes ≠ .error (.fault fault)) ∧
        (most ≤ 8 → (InPlace.decodeSigned kind most bytes).map Int64.toInt =
          (element.decodeNumber kind most).mapError .refused)) ∧
    (∀ turns scan, InPlace.Scan.Reached bytes turns scan →
      turns ≤ bytes.length / 2 ∧ scan.offset ≤ bytes.length ∧
      ∀ next, scan.turn bytes = .ok next → scan.offset + 2 ≤ next.offset) ∧
    (∀ child parent, InPlace.IsChild child parent →
      child.value.length < parent.value.length) ∧ WellFounded InPlace.IsChild ∧
    ∀ length < 2 ^ 64, InPlace.encodeLength length = .ok (Length.encode length) ∧
      ∃ count ≤ 8, InPlace.significantBytes length = .ok count ∧
        (0x80 ||| UInt8.ofNat count) &&& 0x80 = 0x80 ∧
        (0x80 ||| UInt8.ofNat count) &&& ~~~0x80 = UInt8.ofNat count := by
  refine ⟨InPlace.decodeLength_eq bytes, InPlace.decode_eq bound, InPlace.decodeExact_eq bound,
    InPlace.decodeSiblings_eq bound, ?_, fun turns scan reached => ?_,
    fun child parent isChild => isChild.length_lt, InPlace.wellFounded_isChild,
    fun length fits => ⟨InPlace.encodeLength_eq fits, ?_⟩⟩
  · intro element same
    subst same
    exact ⟨InPlace.children_eq bound, fun kind most =>
      ⟨InPlace.decodeSigned_ne_fault kind most element.value,
        fun room => InPlace.map_toInt_decodeSigned room element⟩⟩
  · obtain ⟨least, within⟩ := reached.bounds bound
    exact ⟨by omega, within, fun next made => (InPlace.Scan.turn_bounds bound within made).1⟩
  · obtain ⟨count, few, found⟩ := InPlace.exists_significantBytes fits
    obtain ⟨marker, kept, -⟩ := InPlace.marked_count few
    exact ⟨count, few, found, marker, kept⟩

/-- Siblings of which the second declares more than there is, an element in the value of another,
and the longest length there is. -/
theorem readers_stay_in_bounds_broken :
    InPlace.decodeSiblings [0x30, 0x81, 0x02, 0x05, 0x00, 0x04, 0x84, 0xFF, 0xFF, 0xFF, 0xFF] =
        .error (.refused (.truncated 4294967295 0)) ∧
      (InPlace.Scan.Reached [0x30, 0x81, 0x02, 0x05, 0x00, 0x04, 0x84, 0xFF, 0xFF, 0xFF, 0xFF] 1
          ⟨5, [⟨0x30, [0x05, 0x00]⟩]⟩ ∧ 1 ≤ 11 / 2 ∧ 5 ≤ 11) ∧
      (InPlace.IsChild ⟨0x05, []⟩ ⟨0x30, [0x05, 0x00]⟩ ∧ 0 < 2) ∧
      InPlace.encodeLength (2 ^ 64 - 1) =
        .ok [0x88, 0xFF, 0xFF, 0xFF, 0xFF, 0xFF, 0xFF, 0xFF, 0xFF] := by
  have bound : ([0x30, 0x81, 0x02, 0x05, 0x00, 0x04, 0x84, 0xFF, 0xFF, 0xFF, 0xFF] :
      List UInt8).length < 2 ^ 63 := by decide
  obtain ⟨-, -, -, siblings, -, loop, descent, -, lengths⟩ := readers_stay_in_bounds bound
  have refused : Element.decodeSiblings
      [0x30, 0x81, 0x02, 0x05, 0x00, 0x04, 0x84, 0xFF, 0xFF, 0xFF, 0xFF] =
        .error (.truncated 4294967295 0) := by decide +kernel
  have reached : InPlace.Scan.Reached
      [0x30, 0x81, 0x02, 0x05, 0x00, 0x04, 0x84, 0xFF, 0xFF, 0xFF, 0xFF] 1
      ⟨5, [⟨0x30, [0x05, 0x00]⟩]⟩ := .turn .start (by decide) (by decide +kernel)
  have isChild : InPlace.IsChild ⟨0x05, []⟩ ⟨0x30, [0x05, 0x00]⟩ :=
    ⟨by decide, [⟨0x05, []⟩], by decide +kernel, List.mem_singleton_self _⟩
  have written : Length.encode (2 ^ 64 - 1) =
      [0x88, 0xFF, 0xFF, 0xFF, 0xFF, 0xFF, 0xFF, 0xFF, 0xFF] := by decide +kernel
  obtain ⟨turns, offset, -⟩ := loop _ _ reached
  refine ⟨?_, ⟨reached, turns, offset⟩, ⟨isChild, descent _ _ isChild⟩, ?_⟩
  · rw [siblings, refused]
    rfl
  · rw [(lengths _ (by decide)).1, written]

end DirectoryClient.Tlv
