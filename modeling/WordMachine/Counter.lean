import WordMachine.Radix

/-!
Wrap-around counters, which point into the memory. A counter stays below its capacity whatever is
added to it. Main statement: moving by two amounts in turn is moving by their sum.
-/

set_option autoImplicit false

namespace WordMachine

/-- A position below a fixed capacity. -/
structure Counter where
  capacity : Nat
  value : Nat
  value_lt : value < capacity
deriving DecidableEq

namespace Counter

/-- A counter at the position congruent to `initial`. -/
def ofNat (capacity initial : Nat) (positive : 0 < capacity) : Counter :=
  ⟨capacity, initial % capacity, Nat.mod_lt initial positive⟩

/-- The position that lies `delta` away, going around both ends. -/
def offset (counter : Counter) (delta : Int) : Nat :=
  ((counter.value + delta) % (counter.capacity : Int)).toNat

theorem capacity_pos (counter : Counter) : 0 < counter.capacity :=
  Nat.zero_lt_of_lt counter.value_lt

theorem offset_lt (counter : Counter) (delta : Int) : counter.offset delta < counter.capacity := by
  have positive : (0 : Int) < counter.capacity := Int.natCast_pos.2 counter.capacity_pos
  have nonnegative := Int.emod_nonneg (counter.value + delta) (Int.ne_of_gt positive)
  have below := Int.emod_lt_of_pos (counter.value + delta) positive
  simp only [offset]
  omega

def move (counter : Counter) (delta : Int) : Counter :=
  ⟨counter.capacity, counter.offset delta, counter.offset_lt delta⟩

def moveWord (counter : Counter) (delta : Word) : Counter := counter.move delta.toInt

def next (counter : Counter) : Counter := counter.move 1

def format (counter : Counter) (radix : Radix) : Text :=
  match radix with
  | .hexadecimal => Numeral.hex4 counter.value
  | other => Numeral.digits other.base counter.value

def inspect (counter : Counter) : String := s!"Counter({counter.value} mod {counter.capacity})"

theorem capacity_move (counter : Counter) (delta : Int) :
    (counter.move delta).capacity = counter.capacity := rfl

theorem value_move (counter : Counter) (delta : Int) :
    ((counter.move delta).value : Int) = (counter.value + delta) % counter.capacity := by
  have positive : (0 : Int) < counter.capacity := Int.natCast_pos.2 counter.capacity_pos
  exact Int.toNat_of_nonneg (Int.emod_nonneg _ (Int.ne_of_gt positive))

theorem value_next (counter : Counter) :
    counter.next.value = (counter.value + 1) % counter.capacity := by
  have moved := counter.value_move 1
  norm_cast at moved

theorem move_zero (counter : Counter) : counter.move 0 = counter := by
  have inside := Int.emod_eq_of_lt (Int.natCast_nonneg counter.value)
    (Int.ofNat_lt.2 counter.value_lt)
  simp only [move, offset, Int.add_zero, inside, Int.toNat_natCast]

theorem move_move (counter : Counter) (first second : Int) :
    (counter.move first).move second = counter.move (first + second) := by
  have positive : (0 : Int) < counter.capacity := Int.natCast_pos.2 counter.capacity_pos
  have nonnegative := Int.emod_nonneg (counter.value + first) (Int.ne_of_gt positive)
  simp only [move, offset, Counter.mk.injEq, true_and]
  rw [Int.toNat_of_nonneg nonnegative, Int.emod_add_emod, Int.add_assoc]

end Counter

end WordMachine
