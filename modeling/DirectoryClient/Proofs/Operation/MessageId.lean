import DirectoryClient.Operation.MessageId
import Mathlib.Algebra.Group.Int.Defs
import Mathlib.Algebra.Group.Nat.Defs
import Mathlib.Data.List.Nodup

/-!
# The cycle of identifiers

After the last identifier comes the first one again. A sequence of identifiers stands at a place of
this cycle, and what it hands out next is found by counting places from there. So any row of
identifiers that is as long as the cycle holds each of them once.
-/

namespace DirectoryClient.IdSequence

/-- The sequence stands at an identifier. -/
structure InRange (ids : IdSequence) : Prop where
  least : 1 ≤ ids.next
  most : ids.next ≤ MessageId.last

/-- The identifier so many places behind the one that the sequence stands at. -/
def candidate (ids : IdSequence) (place : Nat) : MessageId :=
  ⟨(ids.next - 1 + place) % MessageId.last + 1⟩

/-- The sequence that stands so many places further on the cycle. -/
def skip (ids : IdSequence) (places : Nat) : IdSequence :=
  ⟨(ids.candidate places).value⟩

variable {ids : IdSequence}

theorem candidate_bounds (ids : IdSequence) (place : Nat) :
    1 ≤ (ids.candidate place).value ∧ (ids.candidate place).value ≤ MessageId.last := by
  simp only [candidate, MessageId.last]
  omega

theorem inRange_skip (ids : IdSequence) (places : Nat) : (ids.skip places).InRange := by
  obtain ⟨least, most⟩ := ids.candidate_bounds places
  exact ⟨least, most⟩

theorem candidate_zero (inRange : ids.InRange) : ids.candidate 0 = ⟨ids.next⟩ := by
  obtain ⟨least, most⟩ := inRange
  simp only [MessageId.last] at most
  simp only [candidate, MessageId.last, MessageId.mk.injEq]
  omega

theorem skip_zero (inRange : ids.InRange) : ids.skip 0 = ids := by
  rw [skip, candidate_zero inRange]

/-- Places add up along the cycle. -/
theorem candidate_skip (ids : IdSequence) (places place : Nat) :
    (ids.skip places).candidate place = ids.candidate (places + place) := by
  simp only [candidate, skip, MessageId.last, MessageId.mk.injEq]
  omega

theorem skip_skip (ids : IdSequence) (places more : Nat) :
    (ids.skip places).skip more = ids.skip (places + more) := by
  rw [skip, candidate_skip, skip]

/-- One place further on the cycle is the next number, or 1 behind the last one. -/
theorem skip_succ (ids : IdSequence) (places : Nat) :
    ids.skip (places + 1) = ⟨successor (ids.candidate places).value⟩ := by
  rw [skip, successor]
  split
  · next wraps =>
      simp only [candidate, MessageId.last] at wraps ⊢
      simp only [IdSequence.mk.injEq]
      omega
  · next inside =>
      simp only [candidate, MessageId.last] at inside ⊢
      simp only [IdSequence.mk.injEq]
      omega

theorem take_eq (inRange : ids.InRange) : ids.take = (ids.candidate 0, ids.skip 1) := by
  rw [take, skip_succ, candidate_zero inRange]

theorem takeMany_eq (inRange : ids.InRange) (count : Nat) :
    ids.takeMany count = ((List.range count).map ids.candidate, ids.skip count) := by
  induction count generalizing ids with
  | zero =>
      rw [skip_zero inRange]
      rfl
  | succ count ih =>
      have later : (ids.skip 1).candidate = ids.candidate ∘ Nat.succ := by
        funext place
        rw [candidate_skip, Nat.add_comm, Function.comp_apply]
      simp only [takeMany, take_eq inRange, ih (ids.inRange_skip 1), later, skip_skip,
        List.range_succ_eq_map, List.map_cons, List.map_map, Nat.add_comm 1 count]

/-- Less than a whole cycle apart, two places have different identifiers. -/
theorem eq_of_candidate_eq {place other : Nat} (near : place < MessageId.last.toNat)
    (alsoNear : other < MessageId.last.toNat) (same : ids.candidate place = ids.candidate other) :
    place = other := by
  simp only [candidate, MessageId.last, MessageId.mk.injEq] at near alsoNear same
  omega

theorem exists_candidate_eq (ids : IdSequence) {id : MessageId} (least : 1 ≤ id.value)
    (most : id.value ≤ MessageId.last) :
    ∃ place < MessageId.last.toNat, ids.candidate place = id := by
  obtain ⟨value⟩ := id
  refine ⟨((value - ids.next) % MessageId.last).toNat, ?_, ?_⟩
  · simp only [MessageId.last] at most ⊢
    omega
  · simp only [candidate, MessageId.last, MessageId.mk.injEq] at least most ⊢
    omega

theorem nodup_cycle (ids : IdSequence) :
    ((List.range MessageId.last.toNat).map ids.candidate).Nodup := by
  apply List.Nodup.map_on _ List.nodup_range
  intro place member other otherMember same
  exact eq_of_candidate_eq (List.mem_range.mp member) (List.mem_range.mp otherMember) same

theorem mem_cycle_iff {id : MessageId} :
    id ∈ (List.range MessageId.last.toNat).map ids.candidate ↔
      1 ≤ id.value ∧ id.value ≤ MessageId.last := by
  rw [List.mem_map]
  constructor
  · intro ⟨place, _, found⟩
    rw [← found]
    exact ids.candidate_bounds place
  · intro ⟨least, most⟩
    obtain ⟨place, near, found⟩ := ids.exists_candidate_eq least most
    exact ⟨place, List.mem_range.mpr near, found⟩

theorem inRange_startingAt (first : Int32) : (startingAt first.toInt).InRange := by
  have bound := first.toInt_lt
  constructor
  · exact Int.le_max_right _ _
  · simp only [startingAt, MessageId.last]
    omega

/-- What comes after a number in a word of 32 bits, where an increment could wrap around. -/
def successor32 (word : Int32) : Int32 :=
  if word = Int32.maxValue then 1 else word + 1

theorem toInt_add_one {word : Int32} (inside : word ≠ Int32.maxValue) :
    (word + 1).toInt = word.toInt + 1 := by
  have lower := word.le_toInt
  have upper := word.toInt_lt
  have one : (1 : Int32).toInt = 1 := by decide
  have most : Int32.maxValue.toInt = 2 ^ 31 - 1 := by decide
  have different : word.toInt ≠ Int32.maxValue.toInt := mt Int32.toInt_inj.mp inside
  rw [Int32.toInt_add, one]
  exact Int.bmod_eq_of_le (by omega) (by omega)

theorem toInt_successor32 (word : Int32) : (successor32 word).toInt = successor word.toInt := by
  have most : Int32.maxValue.toInt = MessageId.last := by decide
  rw [successor32, successor]
  by_cases wraps : word = Int32.maxValue
  · rw [if_pos wraps, if_pos (wraps ▸ most)]
    decide
  · have inside : word.toInt ≠ MessageId.last := most ▸ mt Int32.toInt_inj.mp wraps
    rw [if_neg wraps, if_neg inside, toInt_add_one wraps]

theorem InRange.exists_word (inRange : ids.InRange) : ∃ word : Int32, word.toInt = ids.next := by
  obtain ⟨least, most⟩ := inRange
  simp only [MessageId.last] at most
  exact ⟨.ofInt ids.next, Int32.toInt_ofInt_of_le (by omega) (by omega)⟩

/-- What a sequence hands out is known from the place alone. Its numbers stay in range, in words of
32 bits as without them, and every identifier comes once in each cycle, wherever a cycle begins. -/
theorem ids_follow_cycle (first : Int32) :
    (∀ count, ((startingAt first.toInt).takeMany count).1 = (List.range count).map fun place =>
      ⟨(max first.toInt 1 - 1 + place) % (2 ^ 31 - 1) + 1⟩) ∧
    (∀ count, ∀ id ∈ ((startingAt first.toInt).takeMany count).1,
      1 ≤ id.value ∧ id.value ≤ 2 ^ 31 - 1) ∧
    (∀ count, ∃ word : Int32, word.toInt = ((startingAt first.toInt).takeMany count).2.next ∧
      (successor32 word).toInt = ((startingAt first.toInt).takeMany (count + 1)).2.next ∧
      (word ≠ Int32.maxValue → (word + 1).toInt = word.toInt + 1)) ∧
    ∀ before, (((startingAt first.toInt).takeMany before).2.takeMany (2 ^ 31 - 1)).1.Nodup ∧
      ∀ id, id ∈ (((startingAt first.toInt).takeMany before).2.takeMany (2 ^ 31 - 1)).1 ↔
        1 ≤ id.value ∧ id.value ≤ 2 ^ 31 - 1 := by
  have inRange := inRange_startingAt first
  have period : 2 ^ 31 - 1 = MessageId.last.toNat := by decide
  refine ⟨fun count => ?_, fun count id member => ?_, fun count => ?_, fun before => ?_⟩
  · rw [takeMany_eq inRange]
    rfl
  · rw [takeMany_eq inRange] at member
    obtain ⟨place, -, rfl⟩ := List.mem_map.mp member
    exact candidate_bounds _ place
  · obtain ⟨word, same⟩ := ((startingAt first.toInt).inRange_skip count).exists_word
    rw [takeMany_eq inRange, takeMany_eq inRange, skip_succ]
    refine ⟨word, same, ?_, toInt_add_one⟩
    rw [toInt_successor32, same]
    rfl
  · simp only [takeMany_eq inRange, takeMany_eq (inRange_skip _ before), period]
    exact ⟨nodup_cycle _, fun id => mem_cycle_iff⟩

/-- A sequence that starts one before the last identifier, and its whole cycle from there. -/
theorem ids_follow_cycle_wrapping :
    ((startingAt 2147483646).takeMany 3).1 = [⟨2147483646⟩, ⟨2147483647⟩, ⟨1⟩] ∧
      (∀ id ∈ ((startingAt 2147483646).takeMany 3).1, 1 ≤ id.value ∧ id.value ≤ 2 ^ 31 - 1) ∧
      (∃ word : Int32, word.toInt = ((startingAt 2147483646).takeMany 0).2.next ∧
        (word + 1).toInt = 2147483647) ∧
      (((startingAt 2147483646).takeMany 0).2.takeMany (2 ^ 31 - 1)).1.Nodup := by
  have start : (2147483646 : Int32).toInt = 2147483646 := by decide
  obtain ⟨places, bounds, words, cycle⟩ := ids_follow_cycle 2147483646
  rw [start] at places bounds words cycle
  obtain ⟨word, same, -, next⟩ := words 0
  have value : word.toInt = 2147483646 := same
  have inside : word ≠ Int32.maxValue := by
    intro last
    rw [last] at value
    cases value
  refine ⟨places 3, bounds 3, ⟨word, same, ?_⟩, (cycle 0).1⟩
  rw [next inside, value]
  rfl

end DirectoryClient.IdSequence
