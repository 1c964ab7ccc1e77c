/-!
# Pattern syntax

A console filter may require a field to have a value that matches a regular expression. This
module holds the syntax tree such an expression is read into, and the depth of its nesting.

The tree keeps what decides whether the expression can be compiled: each character as written
(and whether it was written as a two-digit byte escape), the classes, the assertions, the flags
that groups set, and the shape of concatenations, alternations, repetitions and groups. A
concatenation or alternation of a single item is that item, and an empty one is `empty`.

Nesting counts the nodes that contain others: groups, repetitions, alternations and
concatenations of several items, bracketed classes, unions of several class items, and class set
operations. An expression may nest at most 250 of them.
-/

namespace WaitGate.Trace.Pattern

/-- A character as written in a pattern. `byte` marks the form `\x41` with exactly two digits,
which names a byte rather than a character where Unicode mode is off. -/
structure Literal where
  char : Char
  byte : Bool := false
  deriving DecidableEq, Repr

/-- Whether a written character is a single ASCII byte. -/
def Literal.ascii (l : Literal) : Bool := l.char.toNat < 128

/-- The flags a group can set or clear. -/
inductive Flag where
  | caseInsensitive
  | multiLine
  | dotMatchesNewLine
  | swapGreed
  | unicode
  | crlf
  | ignoreWhitespace
  deriving DecidableEq, Repr

/-- The flag a letter names: `i`, `m`, `s`, `U`, `u`, `R` or `x`. -/
def Flag.ofChar? : Char → Option Flag
  | 'i' => some .caseInsensitive
  | 'm' => some .multiLine
  | 's' => some .dotMatchesNewLine
  | 'U' => some .swapGreed
  | 'u' => some .unicode
  | 'R' => some .crlf
  | 'x' => some .ignoreWhitespace
  | _ => none

/-- An item of a list of flags: a flag, or the `-` that clears the flags after it. -/
inductive FlagItem where
  | flag (f : Flag)
  | negation
  deriving DecidableEq, Repr

/-- What a list of flags does to a flag, if it names it: sets it, or clears it when it stands
after the `-`. -/
def flagState (items : List FlagItem) (f : Flag) : Option Bool :=
  go items true
where
  go : List FlagItem → Bool → Option Bool
    | [], _ => none
    | .negation :: rest, _ => go rest false
    | .flag g :: rest, on => if g = f then some on else go rest on

/-- A zero-width assertion. -/
inductive Assertion where
  | startLine
  | endLine
  | startText
  | endText
  | wordBoundary
  | notWordBoundary
  | wordStart
  | wordEnd
  | wordStartHalf
  | wordEndHalf
  deriving DecidableEq, Repr

/-- Whether an assertion is about the boundaries of words. -/
def Assertion.aboutWords : Assertion → Bool
  | .startLine | .endLine | .startText | .endText => false
  | _ => true

/-- The classes written with a backslash and a letter: `\d`, `\s` and `\w`. -/
inductive PerlClass where
  | digit
  | space
  | word
  deriving DecidableEq, Repr

/-- An operation between two class sets: `&&`, `--` or `~~`. -/
inductive SetOp where
  | intersection
  | difference
  | symmetricDifference
  deriving DecidableEq, Repr

/-- The contents of a bracketed class. -/
inductive ClassSet where
  | empty
  | literal (l : Literal)
  | range (lo hi : Literal)
  | ascii (name : String) (negated : Bool)
  | perl (kind : PerlClass) (negated : Bool)
  | unicode (name : String) (negated : Bool)
  | bracketed (negated : Bool) (set : ClassSet)
  | union (items : List ClassSet)
  | op (kind : SetOp) (lhs rhs : ClassSet)
  deriving Repr

/-- What a group is: capturing, perhaps under a name, or not capturing and setting flags for its
body. -/
inductive GroupKind where
  | capture (name : Option String)
  | plain (flags : List FlagItem)
  deriving Repr

/-- A pattern. -/
inductive Node where
  | empty
  | flags (items : List FlagItem)
  | literal (l : Literal)
  | dot
  | assertion (a : Assertion)
  | perl (kind : PerlClass) (negated : Bool)
  | unicode (name : String) (negated : Bool)
  | bracketed (negated : Bool) (set : ClassSet)
  | repetition (body : Node) (least : Nat) (most : Option Nat) (greedy : Bool)
  | group (kind : GroupKind) (body : Node)
  | alternation (branches : List Node)
  | concat (items : List Node)
  deriving Repr

/-- The class items of a union: none is `empty`, one is that item. -/
def ClassSet.ofItems : List ClassSet → ClassSet
  | [] => .empty
  | [s] => s
  | items => .union items

/-- The items of a concatenation: none is `empty`, one is that item. -/
def Node.ofItems : List Node → Node
  | [] => .empty
  | [n] => n
  | items => .concat items

mutual

/-- How deeply a class set nests. -/
def ClassSet.nesting : ClassSet → Nat
  | .bracketed _ s => s.nesting + 1
  | .union items => ClassSet.nestingOfAll items + 1
  | .op _ l r => max l.nesting r.nesting + 1
  | _ => 0

/-- The deepest nesting among class sets. -/
def ClassSet.nestingOfAll : List ClassSet → Nat
  | [] => 0
  | s :: rest => max s.nesting (ClassSet.nestingOfAll rest)

end

mutual

/-- How deeply a pattern nests. -/
def Node.nesting : Node → Nat
  | .bracketed _ s => s.nesting + 1
  | .repetition body _ _ _ => body.nesting + 1
  | .group _ body => body.nesting + 1
  | .alternation branches => Node.nestingOfAll branches + 1
  | .concat items => Node.nestingOfAll items + 1
  | _ => 0

/-- The deepest nesting among patterns. -/
def Node.nestingOfAll : List Node → Nat
  | [] => 0
  | n :: rest => max n.nesting (Node.nestingOfAll rest)

end

/-- The deepest nesting a pattern may have. -/
def nestLimit : Nat := 250

end WaitGate.Trace.Pattern
