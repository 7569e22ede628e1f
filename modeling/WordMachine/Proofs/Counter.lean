import Mathlib
import WordMachine.Counter

/-! Counters under many operations. Whatever has been added to a counter, and in whatever order, it
stands where the exact sum leads from the start. Signed numbers of 128 bits are wide enough for
every step of this, if the capacity has no more than 64 bits. -/

set_option autoImplicit false

namespace WordMachine

/-! ## Operations -/

namespace Counter

inductive Operation where
  | move (delta : Int64)
  | moveWord (delta : Word)
  | next

def Operation.delta : Operation → Int
  | .move delta => delta.toInt
  | .moveWord delta => delta.toInt
  | .next => 1

def perform (counter : Counter) : Operation → Counter
  | .move delta => counter.move delta.toInt
  | .moveWord delta => counter.moveWord delta
  | .next => counter.next

def performAll (counter : Counter) (operations : List Operation) : Counter :=
  operations.foldl perform counter

private theorem perform_eq_move (counter : Counter) (operation : Operation) :
    counter.perform operation = counter.move operation.delta := by
  cases operation with
  | move delta => rfl
  | moveWord delta => rfl
  | next => rfl

/-- Operations one after another are one move by the sum of what they add. -/
theorem performAll_eq_move (counter : Counter) (operations : List Operation) :
    counter.performAll operations = counter.move (operations.map Operation.delta).sum := by
  induction operations generalizing counter with
  | nil => exact counter.move_zero.symm
  | cons operation rest ih =>
    have others := ih (counter.perform operation)
    rw [perform_eq_move, move_move] at others
    rw [List.map_cons, List.sum_cons, ← others, ← perform_eq_move]
    rfl

private theorem capacity_performAll (counter : Counter) (operations : List Operation) :
    (counter.performAll operations).capacity = counter.capacity := by
  rw [performAll_eq_move, capacity_move]

private theorem value_performAll {capacity : Nat} (positive : 0 < capacity) (initial : Nat)
    (operations : List Operation) :
    (((ofNat capacity initial positive).performAll operations).value : Int) =
      (initial + (operations.map Operation.delta).sum) % capacity := by
  rw [performAll_eq_move, value_move]
  show ((initial % capacity : Nat) + (operations.map Operation.delta).sum) % (capacity : Int) = _
  rw [Int.natCast_emod, Int.emod_add_emod]

private theorem performAll_perm (counter : Counter) {operations reordered : List Operation}
    (permuted : reordered.Perm operations) :
    counter.performAll reordered = counter.performAll operations := by
  rw [performAll_eq_move, performAll_eq_move, (permuted.map Operation.delta).sum_eq]

end Counter

/-! ## Numbers of 128 bits -/

namespace Wide

/-- The sum of two signed numbers; none if it overflows. -/
def sum? (left right : BitVec 128) : Option (BitVec 128) :=
  if left.saddOverflow right then none else some (left + right)

/-- The least nonnegative remainder of two signed numbers; none if the divisor is zero or the
quotient overflows. A division leaves a remainder with the sign of the dividend; if it is negative,
then the size of the divisor is added. -/
def remainder? (dividend divisor : BitVec 128) : Option (BitVec 128) :=
  if divisor = 0 ∨ dividend.sdivOverflow divisor then none
  else if (dividend.srem divisor).toInt < 0 then sum? (dividend.srem divisor) divisor.abs
  else some (dividend.srem divisor)

private theorem toInt_setWidth (number : UInt64) :
    (number.toBitVec.setWidth 128).toInt = number.toNat := by
  have below := number.toNat_lt
  rw [BitVec.toInt_setWidth, UInt64.toNat_toBitVec]
  exact Int.bmod_eq_of_le (by omega) (by omega)

private theorem toInt_signExtend (number : Int64) :
    (number.toBitVec.signExtend 128).toInt = number.toInt :=
  BitVec.toInt_signExtend_of_le (by decide)

private theorem exists_sum (left right : BitVec 128) (least : -2 ^ 127 ≤ left.toInt + right.toInt)
    (most : left.toInt + right.toInt < 2 ^ 127) :
    ∃ sum, sum? left right = some sum ∧ sum.toInt = left.toInt + right.toInt := by
  have fits : ¬left.saddOverflow right = true := by
    simp only [BitVec.saddOverflow, Bool.or_eq_true, decide_eq_true_eq]
    omega
  exact ⟨left + right, if_neg fits, BitVec.toInt_add_of_not_saddOverflow fits⟩

private theorem abs_of_pos {number : BitVec 128} (positive : 0 < number.toInt) :
    number.abs = number := by
  have unsigned : number.msb = false := by
    rw [BitVec.msb_eq_toInt, decide_eq_false_iff_not]
    omega
  simp [BitVec.abs, unsigned]

private theorem sdivOverflow_of_pos (dividend : BitVec 128) {divisor : BitVec 128}
    (positive : 0 < divisor.toInt) : dividend.sdivOverflow divisor = false := by
  have other : divisor ≠ BitVec.allOnes 128 := by
    rintro rfl
    exact absurd positive (by decide)
  rw [BitVec.sdivOverflow_eq, decide_eq_false other, Bool.and_false]

/-- The least nonnegative remainder from the one that has the sign of the dividend. -/
theorem emod_eq_tmod (dividend : Int) {divisor : Int} (positive : 0 < divisor) :
    dividend % divisor =
      if dividend.tmod divisor < 0 then dividend.tmod divisor + divisor
      else dividend.tmod divisor := by
  have least := Int.emod_nonneg dividend positive.ne'
  have most := Int.emod_lt_of_pos dividend positive
  rw [Int.tmod_eq_emod]
  split <;> split <;> omega

private theorem exists_remainder (dividend divisor : BitVec 128) (positive : 0 < divisor.toInt) :
    ∃ remainder, remainder? dividend divisor = some remainder ∧
      remainder.toInt = dividend.toInt % divisor.toInt := by
  have nonzero : divisor ≠ 0 := by
    rintro rfl
    exact absurd positive (by decide)
  have defined : ¬(divisor = 0 ∨ dividend.sdivOverflow divisor = true) := by
    rw [sdivOverflow_of_pos dividend positive]
    exact not_or.mpr ⟨nonzero, Bool.false_ne_true⟩
  rw [remainder?, if_neg defined, abs_of_pos positive, emod_eq_tmod _ positive,
    ← BitVec.toInt_srem]
  split
  next negative =>
    have least := (dividend.srem divisor).le_toInt
    have most := divisor.toInt_lt
    exact exists_sum _ _ (by omega) (by omega)
  next => exact ⟨_, rfl, rfl⟩

end Wide

namespace Counter

/-- The offset of a counter whose capacity and position are unsigned numbers of 64 bits, by way of
signed numbers of 128 bits; none if one of these overflows. -/
def wideOffset? (capacity value : UInt64) (delta : Int64) : Option UInt64 := do
  let sum ← Wide.sum? (value.toBitVec.setWidth 128) (delta.toBitVec.signExtend 128)
  let remainder ← Wide.remainder? sum (capacity.toBitVec.setWidth 128)
  return ⟨remainder.setWidth 64⟩

/-- What an operation adds, as a number of 64 bits. -/
def Operation.amount : Operation → Int64
  | .move delta => delta
  | .moveWord delta => Int64.ofInt delta.toInt
  | .next => 1

def widePerformAll? (capacity value : UInt64) (operations : List Operation) : Option UInt64 :=
  operations.foldlM (fun value operation => wideOffset? capacity value operation.amount) value

private theorem Operation.toInt_amount (operation : Operation) :
    operation.amount.toInt = operation.delta := by
  cases operation with
  | move delta => rfl
  | moveWord delta =>
    have least := delta.le_toInt
    have most := delta.toInt_lt
    exact Int64.toInt_ofInt_of_le (by omega) (by omega)
  | next => rfl

section

variable {capacity : UInt64}

private theorem toNat_ofNat_value (counter : Counter) (same : counter.capacity = capacity.toNat) :
    (UInt64.ofNat counter.value).toNat = counter.value :=
  UInt64.toNat_ofNat_of_lt (counter.value_lt.trans (same.trans_lt capacity.toNat_lt))

/-- Nothing overflows on the way to an offset, and nothing is cut off at the end. -/
theorem wideOffset?_eq_some {counter : Counter} (same : counter.capacity = capacity.toNat)
    (delta : Int64) :
    wideOffset? capacity (UInt64.ofNat counter.value) delta =
      some (UInt64.ofNat (counter.offset delta.toInt)) := by
  have inside := counter.value_lt
  have bounded := capacity.toNat_lt
  have least := delta.le_toInt
  have most := delta.toInt_lt
  have position := counter.toNat_ofNat_value same
  have reached := (counter.move delta.toInt).toNat_ofNat_value same
  obtain ⟨sum, summed, exact⟩ := Wide.exists_sum
    ((UInt64.ofNat counter.value).toBitVec.setWidth 128) (delta.toBitVec.signExtend 128)
    (by rw [Wide.toInt_setWidth, Wide.toInt_signExtend]; omega)
    (by rw [Wide.toInt_setWidth, Wide.toInt_signExtend]; omega)
  obtain ⟨remainder, divided, least⟩ := Wide.exists_remainder sum (capacity.toBitVec.setWidth 128)
    (by rw [Wide.toInt_setWidth]; omega)
  have widened :
      remainder = (UInt64.ofNat (counter.move delta.toInt).value).toBitVec.setWidth 128 := by
    apply BitVec.eq_of_toInt_eq
    rw [least, exact, Wide.toInt_setWidth, Wide.toInt_setWidth, Wide.toInt_setWidth,
      Wide.toInt_signExtend, position, reached, value_move, same]
  have narrowed : remainder.setWidth 64 = (UInt64.ofNat (counter.offset delta.toInt)).toBitVec := by
    rw [widened, BitVec.setWidth_setWidth_of_le _ (by decide), BitVec.setWidth_eq]
    rfl
  simp only [wideOffset?, summed, divided, narrowed, Option.bind_eq_bind, Option.bind_some,
    Option.pure_def]

private theorem widePerformAll?_eq_some {counter : Counter}
    (same : counter.capacity = capacity.toNat) (operations : List Operation) :
    widePerformAll? capacity (UInt64.ofNat counter.value) operations =
      some (UInt64.ofNat (counter.performAll operations).value) := by
  induction operations generalizing counter with
  | nil => rfl
  | cons operation rest ih =>
    have first := wideOffset?_eq_some same operation.amount
    have moved : counter.offset operation.amount.toInt = (counter.perform operation).value := by
      rw [operation.toInt_amount, perform_eq_move, move]
    have kept : (counter.perform operation).capacity = capacity.toNat := by
      rw [perform_eq_move, capacity_move, same]
    rw [widePerformAll?, List.foldlM_cons, first, moved]
    exact ih kept

end

/-- A counter stands at the Euclidean remainder of its start and the exact sum of everything that
was added, in whatever order. An offset is the position that a move by it leads to. Computed with
128 bits, all operations and all offsets come to the same positions, and nothing overflows. -/
theorem counters_are_modular (capacity : UInt64) (positive : 0 < capacity.toNat)
    (initial : UInt64) (operations : List Operation) :
    ∃ final, (ofNat capacity.toNat initial.toNat positive).performAll operations = final ∧
      (final.value : Int) =
        (initial.toNat + (operations.map Operation.delta).sum) % capacity.toNat ∧
      final.capacity = capacity.toNat ∧ final.value < capacity.toNat ∧
      (∀ reordered : List Operation, reordered.Perm operations →
        (ofNat capacity.toNat initial.toNat positive).performAll reordered = final) ∧
      widePerformAll? capacity (initial % capacity) operations =
        some (UInt64.ofNat final.value) ∧
      ∀ delta : Int64,
        final.offset delta.toInt = (final.perform (.move delta)).value ∧
        wideOffset? capacity (UInt64.ofNat final.value) delta =
          some (UInt64.ofNat (final.offset delta.toInt)) := by
  have same : ((ofNat capacity.toNat initial.toNat positive).performAll operations).capacity =
      capacity.toNat := capacity_performAll _ operations
  have start : UInt64.ofNat (ofNat capacity.toNat initial.toNat positive).value =
      initial % capacity := by
    rw [← UInt64.ofNat_toNat (x := initial % capacity), UInt64.toNat_mod]
    rfl
  refine ⟨_, rfl, value_performAll positive _ operations, same, ?_, ?_, ?_, ?_⟩
  · exact (value_lt _).trans_eq same
  · intro reordered permuted
    exact performAll_perm _ permuted
  · rw [← start]
    exact widePerformAll?_eq_some rfl operations
  · intro delta
    exact ⟨rfl, wideOffset?_eq_some same delta⟩

/-- Moves from the last position of the largest capacity; the first sum has more than 64 bits. -/
def farthest : List Operation :=
  [.move Int64.maxValue, .moveWord (Word.ofInt (-0x8000)), .next, .move Int64.minValue]

theorem farthest_is_modular : 0 < (0xFFFFFFFFFFFFFFFF : UInt64).toNat ∧
    farthest.reverse.Perm farthest ∧
    ∃ final,
      (ofNat 0xFFFFFFFFFFFFFFFF 0xFFFFFFFFFFFFFFFE (by decide)).performAll farthest = final ∧
      (final.value : Int) = 0xFFFFFFFFFFFF7FFE ∧
      (ofNat 0xFFFFFFFFFFFFFFFF 0xFFFFFFFFFFFFFFFE (by decide)).performAll farthest.reverse =
        final ∧
      widePerformAll? 0xFFFFFFFFFFFFFFFF 0xFFFFFFFFFFFFFFFE farthest =
        some 0xFFFFFFFFFFFF7FFE := by
  have positive : 0 < (0xFFFFFFFFFFFFFFFF : UInt64).toNat := by decide
  have reversed := List.reverse_perm farthest
  obtain ⟨final, performed, value, -, -, orders, computed, -⟩ :=
    counters_are_modular 0xFFFFFFFFFFFFFFFF positive 0xFFFFFFFFFFFFFFFE farthest
  have position : (final.value : Int) = 0xFFFFFFFFFFFF7FFE := value
  rw [Int.natCast_inj.mp position] at computed
  exact ⟨positive, reversed, final, performed, position, orders _ reversed, computed⟩

end Counter

end WordMachine
