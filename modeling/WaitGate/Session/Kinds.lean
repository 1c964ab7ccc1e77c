import WaitGate.Session.Command
import WaitGate.Condition
/-!
# Counter, flag and text gates

Three kinds of gate, each a session over one kind of value with commands of its own.

* A counter gate holds a count and is written `CounterGate { gate: … }`. Raising and lowering
  saturate and offer a warning when they clamp; incrementing and decrementing are raising and
  lowering by one. Its waits compare the count with a target, or take one unit: wait for a
  positive count and lower it by one in the same look.
* A flag gate holds an open/closed flag and is written `BooleanGate { gate: … }`. Opening and
  closing set the flag; its wait is for the flag to be open.
* A text gate holds a text and is written as the plain gate, its value quoted.

Inspecting the value in place gives the value itself, except for a text, which gives its length
in characters.
-/

namespace WaitGate

/-- How counts appear: in decimal, inside a counter gate. -/
def Appearance.count : Appearance Count := ⟨fun c => toString c.val, some "CounterGate"⟩

/-- How flags appear: `true` or `false`, inside a flag gate. -/
def Appearance.flag : Appearance Bool := ⟨fun b => toString b, some "BooleanGate"⟩

/-- How texts appear: quoted, in the plain gate. -/
def Appearance.text : Appearance String := ⟨Text.quote, none⟩

/-- A request from a condition and a change, the tests of the condition decided by `holds`. -/
def Request.ofCondition {Test α : Type} (holds : Test → α → Bool) (c : Condition Test)
    (action : Option (α → α)) : Request α :=
  { check := c.verdict holds, action }

/-- The verdict of a plain test. -/
def Verdict.ofBool (b : Bool) : Verdict := if b then .holds else .fails

/-- Commands only a counter gate has. -/
inductive CounterCommand where
  | increase (d : Count)
  | decrease (d : Count)
  | increment
  | decrement
  | waitFor (rel : Comparison) (target : Count) (mode : Mode)
  | waitAndDecrement (mode : Mode)

namespace CounterCommand

/-- Raise or lower a count, clamped, with the warning when it clamps. -/
def shift (lowering : Bool) (d : Count) (v : Count) : Count × Option Notice :=
  let (v', clamped) := if lowering then v.decrease d else v.increase d
  (v', if clamped then some (.saturated lowering d.val v.val) else none)

/-- The request of taking one unit: a positive count, lowered by one. -/
def takeOne : Request Count :=
  { check := fun v => Verdict.ofBool (decide (0 < v.val)), action := some fun v => (v.decrease Count.one).1 }

/-- The command of the generic gate that carries out a counter command. -/
def toCommand : CounterCommand → Command Count
  | increase d => .adjust (shift false d)
  | decrease d => .adjust (shift true d)
  | increment => .adjust (shift false Count.one)
  | decrement => .adjust (shift true Count.one)
  | waitFor rel target mode => .wait { check := fun v => Verdict.ofBool (rel.holds v.val target.val) } mode
  | waitAndDecrement mode => .wait takeOne mode

end CounterCommand

/-- Commands only a flag gate has. -/
inductive FlagCommand where
  | setOpen
  | setClosed
  | isOpen
  | waitOpen (mode : Mode)

/-- The command of the generic gate that carries out a flag command. -/
def FlagCommand.toCommand : FlagCommand → Command Bool
  | .setOpen => .set true
  | .setClosed => .set false
  | .isOpen => .read
  | .waitOpen mode => .wait { check := Verdict.ofBool } mode

/-- Inspecting a count or a flag in place gives the value. -/
def inspectValue {α : Type} : Command α := .inspect .value

/-- Inspecting a text in place gives its length in characters. -/
def inspectLength : Command String := .inspect fun s => .number s.length

end WaitGate
