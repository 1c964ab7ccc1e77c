/-!
# Counts

A count is a signed 64-bit integer, from `-2 ^ 63` to `2 ^ 63 - 1` (written out in full below);
the range is part of the type.

A counter changes its count in two ways. Raising or lowering it by a count *saturates*: the exact
integer result is clamped to the range, and the change reports whether it had to clamp. Adding
by an action *wraps*: the result is taken modulo `2 ^ 64` into the range.
-/

namespace WaitGate

/-- A signed 64-bit integer. -/
structure Count where
  val : Int
  ge_min : -9223372036854775808 ≤ val
  lt_bound : val < 9223372036854775808
  deriving DecidableEq

namespace Count

/-- The least count. -/
def least : Int := -9223372036854775808

/-- The greatest count. -/
def greatest : Int := 9223372036854775807

/-- The count of an integer in range. -/
def ofInt? (i : Int) : Option Count :=
  if h : -9223372036854775808 ≤ i ∧ i < 9223372036854775808 then some ⟨i, h.1, h.2⟩ else none

/-- Zero. -/
def zero : Count := ⟨0, by decide, by decide⟩

/-- One. -/
def one : Count := ⟨1, by decide, by decide⟩

/-- The nearest count to an integer. -/
def clamp (i : Int) : Count :=
  ⟨max (-9223372036854775808) (min i 9223372036854775807), by omega, by omega⟩

/-- Whether an integer lies outside the range of counts. -/
def outside (i : Int) : Bool := i < -9223372036854775808 || 9223372036854775808 ≤ i

/-- The count congruent to an integer modulo `2 ^ 64`. -/
def wrap (i : Int) : Count :=
  ⟨(i + 9223372036854775808) % 18446744073709551616 - 9223372036854775808, by omega, by omega⟩

/-- Raise a count by another, clamped; also whether it clamped. -/
def increase (v d : Count) : Count × Bool := (clamp (v.val + d.val), outside (v.val + d.val))

/-- Lower a count by another, clamped; also whether it clamped. -/
def decrease (v d : Count) : Count × Bool := (clamp (v.val - d.val), outside (v.val - d.val))

/-- The sum of two counts modulo `2 ^ 64`. -/
def wrappingAdd (v d : Count) : Count := wrap (v.val + d.val)

@[simp] theorem clamp_val (i : Int) :
    (clamp i).val = max (-9223372036854775808) (min i 9223372036854775807) := rfl

/-- A count that is already in range is its own clamp. -/
theorem clamp_of_inside (i : Int) (h : outside i = false) : (clamp i).val = i := by
  simp only [outside, Bool.or_eq_false_iff, decide_eq_false_iff_not] at h
  simp only [clamp_val]
  omega

end Count

end WaitGate
