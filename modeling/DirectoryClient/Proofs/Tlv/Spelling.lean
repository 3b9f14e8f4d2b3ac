import DirectoryClient.Proofs.Tlv.Element

/-!
# What the reader accepts and what it refuses

The length bytes of a header may start with zeros, so a length has several spellings, and with it an
element. `Spells` lists them. `Fails` lists the bytes that begin with no element, each with the
reason. Every byte string begins with a spelling or fails, and the reader says which of the two.
-/

namespace DirectoryClient.Tlv

/-- Results are compared by evaluation. -/
instance decidableEqResult {ε α : Type} [DecidableEq ε] [DecidableEq α] : DecidableEq (Except ε α)
  | .error first, .error second => decidable_of_iff (first = second) (by rw [Except.error.injEq])
  | .ok first, .ok second => decidable_of_iff (first = second) (by rw [Except.ok.injEq])
  | .error _, .ok _ => isFalse (by rintro ⟨⟩)
  | .ok _, .error _ => isFalse (by rintro ⟨⟩)

namespace Length

/-- The headers that declare a length. -/
inductive Spells : List UInt8 → Nat → Prop where
  | short {first : UInt8} (small : first < 0x80) : Spells [first] first.toNat
  | long {first : UInt8} {digits : List UInt8} (marked : first.toNat = 128 + digits.length)
      (some : digits ≠ []) (few : digits.length ≤ mostBytes) :
      Spells (first :: digits) (ofBigEndian digits)

/-- The bytes that begin with no header, each with what the reader says about them. -/
inductive Fails : List UInt8 → DecodeError → Prop where
  | missing : Fails [] (.truncated 1 0)
  | indefinite {rest : List UInt8} : Fails (0x80 :: rest) .indefiniteLength
  | tooLong {first : UInt8} {rest : List UInt8} {count : Nat} (marked : first.toNat = 128 + count)
      (many : mostBytes < count) : Fails (first :: rest) (.lengthTooLong count)
  | cut {first : UInt8} {digits : List UInt8} {count : Nat} (marked : first.toNat = 128 + count)
      (few : count ≤ mostBytes) (short : digits.length < count) :
      Fails (first :: digits) (.truncated count digits.length)

variable {bytes header rest : List UInt8} {length : Nat} {reason : DecodeError}

theorem decode_of_marked {first : UInt8} {count : Nat} (marked : first.toNat = 128 + count)
    (rest : List UInt8) : decode (first :: rest) =
      if count = 0 then .error .indefiniteLength
      else if mostBytes < count then .error (.lengthTooLong count)
      else if (rest.take count).length < count then .error (.truncated count rest.length)
      else .ok (ofBigEndian (rest.take count), rest.drop count) := by
  have bound := first.toNat_lt
  have same : first = UInt8.ofNat (128 + count) := by rw [← marked, UInt8.ofNat_toNat]
  rw [same, decode_longForm (by omega)]

theorem decode_of_spells (declared : Spells header length) (rest : List UInt8) :
    decode (header ++ rest) = .ok (length, rest) := by
  cases declared with
  | short small => rw [List.singleton_append, decode, if_pos small]
  | @long first digits marked some few =>
      have count : digits.length ≠ 0 := mt List.eq_nil_of_length_eq_zero some
      rw [List.cons_append, decode_of_marked marked, if_neg count, if_neg (Nat.not_lt.mpr few),
        List.take_left, List.drop_left, if_neg (Nat.lt_irrefl _)]

theorem decode_of_fails (failed : Fails bytes reason) : decode bytes = .error reason := by
  cases failed with
  | missing => rfl
  | @indefinite rest =>
      have marked : (0x80 : UInt8).toNat = 128 + 0 := rfl
      rw [decode_of_marked marked, if_pos rfl]
  | @tooLong first rest count marked many =>
      rw [decode_of_marked marked, if_neg (Nat.ne_of_gt (Nat.zero_lt_of_lt many)), if_pos many]
  | @cut first digits count marked few short =>
      have cut : (digits.take count).length < count := by
        rw [List.length_take]
        omega
      rw [decode_of_marked marked, if_neg (Nat.ne_of_gt (Nat.zero_lt_of_lt short)),
        if_neg (Nat.not_lt.mpr few), if_pos cut]

theorem spells_or_fails (bytes : List UInt8) :
    (∃ header length rest, Spells header length ∧ bytes = header ++ rest) ∨
      ∃ reason, Fails bytes reason := by
  cases bytes with
  | nil => exact .inr ⟨_, .missing⟩
  | cons first rest =>
      by_cases small : first < 0x80
      · exact .inl ⟨[first], _, rest, .short small, rfl⟩
      · -- The first byte counts the length bytes, and it is refused before they are missed.
        have large : 128 ≤ first.toNat := Nat.not_lt.mp small
        obtain ⟨count, marked⟩ := Nat.exists_eq_add_of_le large
        by_cases none : count = 0
        · have same : first = 0x80 := UInt8.toNat_inj.mp (by rw [marked, none]; rfl)
          subst same
          exact .inr ⟨_, .indefinite⟩
        · by_cases many : mostBytes < count
          · exact .inr ⟨_, .tooLong marked many⟩
          · by_cases short : rest.length < count
            · exact .inr ⟨_, .cut marked (Nat.not_lt.mp many) short⟩
            · have all : (rest.take count).length = count :=
                List.length_take_of_le (Nat.not_lt.mp short)
              refine .inl ⟨first :: rest.take count, _, rest.drop count, .long ?_ ?_ ?_, ?_⟩
              · rw [all, marked]
              · apply List.ne_nil_of_length_pos
                rw [all]
                exact Nat.pos_of_ne_zero none
              · rw [all]
                exact Nat.not_lt.mp many
              · rw [List.cons_append, List.take_append_drop]

theorem Spells.length_pos (declared : Spells header length) : 0 < header.length := by
  cases declared <;> exact Nat.succ_pos _

end Length

namespace Element

/-- The bytes that are read as an element, to their end. -/
inductive Spells : List UInt8 → Element → Prop where
  | intro {tag : Tag} {header value : List UInt8} (single : tag.isMultiByte = false)
      (declared : Length.Spells header value.length) :
      Spells (tag :: (header ++ value)) ⟨tag, value⟩

/-- The bytes that begin with no element, each with what the reader says about them. -/
inductive Fails : List UInt8 → DecodeError → Prop where
  | empty : Fails [] .empty
  | multiByteTag {tag : Tag} {rest : List UInt8} (continued : tag.isMultiByte = true) :
      Fails (tag :: rest) (.multiByteTag tag)
  | header {tag : Tag} {rest : List UInt8} {reason : DecodeError} (single : tag.isMultiByte = false)
      (failed : Length.Fails rest reason) : Fails (tag :: rest) reason
  | cut {tag : Tag} {header value : List UInt8} {length : Nat} (single : tag.isMultiByte = false)
      (declared : Length.Spells header length) (short : value.length < length) :
      Fails (tag :: (header ++ value)) (.truncated length value.length)

variable {bytes form rest : List UInt8} {element : Element} {count : Nat} {reason : DecodeError}

theorem read_of_spells (spelled : Spells form element) (rest : List UInt8) :
    read (form ++ rest) = .ok (element, rest) := by
  cases spelled with
  | intro single declared =>
      rw [List.cons_append, List.append_assoc, read, single, Length.decode_of_spells declared]
      simp

theorem read_of_fails (failed : Fails bytes reason) : read bytes = .error reason := by
  cases failed with
  | empty => rfl
  | multiByteTag continued => rw [read, if_pos continued]
  | header single failed =>
      rw [read, single, Length.decode_of_fails failed]
      rfl
  | @cut tag header value length single declared short =>
      have cut : (value.take length).length < length := by
        rw [List.length_take]
        omega
      rw [read, single, Length.decode_of_spells declared]
      simp only [cut, Bool.false_eq_true, if_false, if_true]

theorem spells_or_fails (bytes : List UInt8) :
    (∃ form element rest, Spells form element ∧ bytes = form ++ rest) ∨
      ∃ reason, Fails bytes reason := by
  cases bytes with
  | nil => exact .inr ⟨_, .empty⟩
  | cons tag rest =>
      cases single : Tag.isMultiByte tag with
      | true => exact .inr ⟨_, .multiByteTag single⟩
      | false =>
          rcases Length.spells_or_fails rest with
            ⟨header, length, body, declared, rfl⟩ | ⟨reason, failed⟩
          · by_cases short : body.length < length
            · exact .inr ⟨_, .cut single declared short⟩
            · have all : (body.take length).length = length :=
                List.length_take_of_le (Nat.not_lt.mp short)
              refine .inl ⟨tag :: (header ++ body.take length), _, body.drop length,
                .intro single (all.symm ▸ declared), ?_⟩
              rw [List.cons_append, List.append_assoc, List.take_append_drop]
          · exact .inr ⟨reason, .header single failed⟩

theorem read_eq_ok_iff :
    read bytes = .ok (element, rest) ↔ ∃ form, Spells form element ∧ bytes = form ++ rest := by
  constructor
  · intro found
    rcases spells_or_fails bytes with ⟨form, other, more, spelled, rfl⟩ | ⟨reason, failed⟩
    · cases (read_of_spells spelled more).symm.trans found
      exact ⟨form, spelled, rfl⟩
    · cases (read_of_fails failed).symm.trans found
  · rintro ⟨form, spelled, rfl⟩
    exact read_of_spells spelled rest

theorem read_eq_error_iff : read bytes = .error reason ↔ Fails bytes reason := by
  constructor
  · intro refused
    rcases spells_or_fails bytes with ⟨form, other, more, spelled, rfl⟩ | ⟨other, failed⟩
    · cases (read_of_spells spelled more).symm.trans refused
    · cases (read_of_fails failed).symm.trans refused
      exact failed
  · exact read_of_fails

theorem decode_eq_ok_iff : decode bytes = .ok (element, count) ↔
    ∃ form rest, Spells form element ∧ bytes = form ++ rest ∧ form.length = count := by
  constructor
  · intro found
    rw [decode] at found
    split at found
    · cases found
    · next other rest front =>
        obtain ⟨form, spelled, rfl⟩ := read_eq_ok_iff.mp front
        cases found
        refine ⟨form, rest, spelled, rfl, ?_⟩
        rw [List.length_append, Nat.add_sub_cancel]
  · rintro ⟨form, rest, spelled, rfl, rfl⟩
    simp only [decode, read_of_spells spelled, List.length_append, Nat.add_sub_cancel]

theorem decode_eq_error_iff : decode bytes = .error reason ↔ Fails bytes reason := by
  rw [← read_eq_error_iff, decode]
  split <;> simp_all

theorem decodeExact_eq_ok_iff : decodeExact bytes = .ok element ↔ Spells bytes element := by
  constructor
  · intro found
    rw [decodeExact] at found
    split at found
    · cases found
    · next other rest front =>
        obtain ⟨form, spelled, rfl⟩ := read_eq_ok_iff.mp front
        split at found
        · next blank =>
            cases found
            rw [List.isEmpty_iff.mp blank, List.append_nil]
            exact spelled
        · cases found
  · intro spelled
    have found := read_of_spells spelled []
    rw [List.append_nil] at found
    rw [decodeExact, found]
    rfl

theorem Spells.two_le_length (spelled : Spells form element) : 2 ≤ form.length := by
  cases spelled with
  | intro single declared =>
      have header := declared.length_pos
      rw [List.length_cons, List.length_append]
      omega

theorem decode_of_spells (spelled : Spells form element) :
    decode form = .ok (element, form.length) :=
  decode_eq_ok_iff.mpr ⟨form, [], spelled, (List.append_nil form).symm, rfl⟩

/-- No spelling is the beginning of another. -/
theorem Spells.eq_of_append_eq {other more : List UInt8} {another : Element}
    (spelled : Spells form element) (alsoSpelled : Spells other another)
    (same : form ++ rest = other ++ more) : form = other ∧ element = another ∧ rest = more := by
  have found := read_of_spells spelled rest
  rw [same, read_of_spells alsoSpelled more] at found
  cases found
  exact ⟨List.append_cancel_right same, rfl, rfl⟩

end Element

end DirectoryClient.Tlv
