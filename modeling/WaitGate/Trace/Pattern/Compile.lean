import WaitGate.Trace.Pattern.Syntax
/-!
# Compiling patterns

A pattern that reads well must still compile into an automaton, and the automaton here is built
without the Unicode tables: it knows the code points of characters, but not which of them are
digits, letters, blanks or words, nor how their case folds. Compiling walks the pattern in order
under two flags, Unicode mode (on at the start, flag `u`) and case-insensitive matching (off,
flag `i`); a flag group changes them for the rest of the group it stands in, and a group with
flags for its body.

In Unicode mode a pattern matches characters:

* the classes `\d`, `\s`, `\w` and their negations, and every Unicode class, need the tables;
* case-insensitive matching needs them for every character written, alone or in a class, and for
  every named ASCII class; a class set that holds none of these, built only from nested classes
  and operators, is empty or full and folds without them;
* a word boundary needs them, and so does every other assertion about words.

With Unicode mode off a pattern matches bytes, and what it matches must still be text:

* `.` and the negated classes `\D`, `\S`, `\W` would match bytes that are not text;
* a byte escape `\x80` to `\xFF` names such a byte;
* a class holds ASCII only: a character beyond it, given plainly or as an end of a range, has no
  byte, and a negated class or named ASCII class would match the bytes beyond ASCII;
* case-insensitive matching takes ASCII characters only;
* Unicode classes are refused.

Assertions about words over ASCII, anchors, literals and the nesting of groups, repetitions and
alternations compile in both modes.
-/

namespace WaitGate.Trace.Pattern

/-- The flags that decide what compiles: Unicode mode and case-insensitive matching. -/
structure Mode where
  unicode : Bool := true
  caseless : Bool := false
  deriving DecidableEq, Repr

/-- The mode after a list of flags: the flags it names set or cleared, the others kept. -/
def Mode.apply (m : Mode) (items : List FlagItem) : Mode :=
  { unicode := (flagState items .unicode).getD m.unicode
    caseless := (flagState items .caseInsensitive).getD m.caseless }

/-- Whether a character written outside classes compiles. -/
def Literal.compiles (m : Mode) (l : Literal) : Bool :=
  if m.unicode then !m.caseless
  else !(l.byte && !l.ascii) && (!m.caseless || l.ascii)

mutual

/-- Whether the contents of a class compile. -/
def ClassSet.compiles (m : Mode) : ClassSet → Bool
  | .empty => true
  | .literal l => if m.unicode then !m.caseless else l.ascii
  | .range lo hi => if m.unicode then !m.caseless else lo.ascii && hi.ascii
  | .ascii _ negated => if m.unicode then !m.caseless else !negated
  | .perl _ negated => !m.unicode && !negated
  | .unicode _ _ => false
  | .bracketed negated s => (m.unicode || !negated) && s.compiles m
  | .union items => ClassSet.allCompile m items
  | .op _ l r => l.compiles m && r.compiles m

/-- Whether every class set of a list compiles. -/
def ClassSet.allCompile (m : Mode) : List ClassSet → Bool
  | [] => true
  | s :: rest => s.compiles m && ClassSet.allCompile m rest

end

mutual

/-- Compile a pattern under a mode: the mode after it, or `none` when it does not compile. -/
def Node.compile? (m : Mode) : Node → Option Mode
  | .empty => some m
  | .flags items => some (m.apply items)
  | .literal l => if l.compiles m then some m else none
  | .dot => if m.unicode then some m else none
  | .assertion a => if a.aboutWords && m.unicode then none else some m
  | .perl _ negated => if !m.unicode && !negated then some m else none
  | .unicode _ _ => none
  | .bracketed negated s => if (m.unicode || !negated) && s.compiles m then some m else none
  | .repetition body _ _ _ => body.compile? m
  | .group kind body =>
    let inner := match kind with
      | .plain items => m.apply items
      | .capture _ => m
    (body.compile? inner).map fun _ => m
  | .alternation branches => Node.compileAll? m branches
  | .concat items => Node.compileAll? m items

/-- Compile patterns one after another, each under the mode the one before leaves. -/
def Node.compileAll? (m : Mode) : List Node → Option Mode
  | [] => some m
  | n :: rest => (n.compile? m).bind fun m' => Node.compileAll? m' rest

end

/-- Whether a pattern compiles from the starting mode. -/
def Node.compiles (n : Node) : Bool := (n.compile? {}).isSome

end WaitGate.Trace.Pattern
