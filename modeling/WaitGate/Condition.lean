import WaitGate.Gate.Basic
import WaitGate.Count
/-!
# Conditions and changes

A wait's condition is one of: always true, never true, one that aborts the wait, or a test of the
value. The tests depend on the kind of value:

* a count is compared with a target (`=`, `≠`, `<`, `≤`, `>`, `≥`, value on the left);
* a flag is tested for true or false;
* a text is compared with another, searched for one, tested for a prefix, for emptiness, or for
  its length in characters.

A change sets the value or transforms it: a count is set or has a count added (wrapping around
the 64-bit range), a flag is set or toggled, a text is set, appended to, cleared, or loses its
last character.
-/

namespace WaitGate

/-- A wait's condition, `Test` being the tests of one kind of value. -/
inductive Condition (Test : Type) where
  | always
  | never
  | aborting
  | test (t : Test)

/-- The verdict of a condition on a value, the tests decided by `holds`. -/
def Condition.verdict {Test α : Type} (holds : Test → α → Bool) : Condition Test → α → Verdict
  | .always, _ => .holds
  | .never, _ => .fails
  | .aborting, _ => .aborts
  | .test t, v => if holds t v then .holds else .fails

/-- How a count is compared with a target. -/
inductive Comparison where
  | eq
  | ne
  | lt
  | le
  | gt
  | ge
  deriving DecidableEq, Repr

/-- Whether `a` stands in the comparison to `b`. -/
def Comparison.holds : Comparison → Int → Int → Bool
  | .eq, a, b => a == b
  | .ne, a, b => a != b
  | .lt, a, b => decide (a < b)
  | .le, a, b => decide (a ≤ b)
  | .gt, a, b => decide (a > b)
  | .ge, a, b => decide (a ≥ b)

/-- A test of a count: a comparison with a target. -/
structure CountTest where
  rel : Comparison
  target : Count

/-- Whether a count passes a test. -/
def CountTest.holds (t : CountTest) (v : Count) : Bool := t.rel.holds v.val t.target.val

/-- A test of a flag. -/
inductive FlagTest where
  | isTrue
  | isFalse

/-- Whether a flag passes a test. -/
def FlagTest.holds : FlagTest → Bool → Bool
  | .isTrue, b => b
  | .isFalse, b => !b

/-- Whether `pat` occurs in `cs` as a contiguous part. -/
def occursIn (pat : List Char) : List Char → Bool
  | [] => pat.isEmpty
  | c :: cs => pat.isPrefixOf (c :: cs) || occursIn pat cs

/-- A test of a text; lengths count characters. -/
inductive TextTest where
  | equals (s : String)
  | contains (s : String)
  | startsWith (s : String)
  | lengthAtLeast (n : Nat)
  | lengthIs (n : Nat)
  | isEmpty

/-- Whether a text passes a test. -/
def TextTest.holds : TextTest → String → Bool
  | .equals s, v => v == s
  | .contains s, v => occursIn s.toList v.toList
  | .startsWith s, v => s.toList.isPrefixOf v.toList
  | .lengthAtLeast n, v => decide (n ≤ v.length)
  | .lengthIs n, v => v.length == n
  | .isEmpty, v => v.isEmpty

/-- A change of a count. -/
inductive CountChange where
  | set (c : Count)
  | add (c : Count)

/-- Apply a change to a count. -/
def CountChange.apply : CountChange → Count → Count
  | .set c, _ => c
  | .add c, v => v.wrappingAdd c

/-- A change of a flag. -/
inductive FlagChange where
  | set (b : Bool)
  | toggle

/-- Apply a change to a flag. -/
def FlagChange.apply : FlagChange → Bool → Bool
  | .set b, _ => b
  | .toggle, v => !v

/-- A change of a text. -/
inductive TextChange where
  | set (s : String)
  | append (s : String)
  | clear
  | pop

/-- Apply a change to a text. -/
def TextChange.apply : TextChange → String → String
  | .set s, _ => s
  | .append s, v => v ++ s
  | .clear, _ => ""
  | .pop, v => String.ofList v.toList.dropLast

end WaitGate
