import WaitGate.Trace.Pattern.Parse
import WaitGate.Trace.Pattern.Compile
/-!
# Field value patterns

A directive of a console filter may require a field to have a value. The value is read, in this
order, as a boolean (`true` or `false`), as a number (an optional sign, then digits with at most
one point and an optional exponent, or `inf`, `infinity` or `nan` in any case), and otherwise as a
regular expression. A value that is none of these makes its directive unreadable.

A regular expression is one when it reads (`WaitGate.Trace.Pattern.Parse`), nests at most 250
deep (`WaitGate.Trace.Pattern.Syntax`), and compiles into an automaton built without the Unicode
tables (`WaitGate.Trace.Pattern.Compile`).
-/

namespace WaitGate.Trace.Pattern

/-- Whether a text is a regular expression that a field value can be required to match. -/
def wellFormed (s : String) : Bool :=
  match parse s with
  | some n => decide (n.nesting ≤ nestLimit) && n.compiles
  | none => false

/-- Whether digits, an optional point and more digits, and an optional exponent make a number. -/
def isDecimal (cs : List Char) : Bool :=
  let whole := cs.takeWhile Char.isDigit
  let rest := cs.dropWhile Char.isDigit
  let (fraction, rest) := match rest with
    | '.' :: r => (r.takeWhile Char.isDigit, r.dropWhile Char.isDigit)
    | _ => ([], rest)
  let exponentOk := match rest with
    | [] => true
    | e :: r =>
      let digits := match r with
        | '+' :: d => d
        | '-' :: d => d
        | _ => r
      (e = 'e' || e = 'E') && !digits.isEmpty && digits.all Char.isDigit
  (!whole.isEmpty || !fraction.isEmpty) && exponentOk

/-- Whether a text reads as a number: an optional sign, then a decimal or `inf`, `infinity` or
`nan` in any case. -/
def isNumber (s : String) : Bool :=
  let cs := match s.toList with
    | '+' :: r => r
    | '-' :: r => r
    | cs => cs
  let word := String.ofList (cs.map Char.toLower)
  word = "inf" || word = "infinity" || word = "nan" || isDecimal cs

/-- Whether a field value can be required: a boolean, a number or a well-formed pattern. -/
def acceptable (s : String) : Bool := s = "true" || s = "false" || isNumber s || wellFormed s

example : acceptable "x" ∧ acceptable "1" ∧ acceptable "+1" ∧ acceptable "a{2,3}?" := by
  decide +kernel
example : acceptable "(" = false ∧ acceptable "[" = false ∧ acceptable "*a" = false := by
  decide +kernel
example : acceptable "(?-u)\\b" ∧ acceptable "[a--b]" ∧ acceptable "(?x)a # (" := by
  decide +kernel
example : acceptable "\\w" = false ∧ acceptable "(?i)a" = false ∧ acceptable "(?-u)." = false := by
  decide +kernel

end WaitGate.Trace.Pattern
