import WaitGate.Text.Blank
import WaitGate.Text.Numeric
import WaitGate.Trace.Pattern.Syntax
/-!
# Reading patterns

A pattern is read character by character into its syntax tree.

* Outside classes, `(` opens a group, `)` closes it, `|` separates alternatives, `[` opens a
  class, `?`, `*`, `+` and `{m}`, `{m,}`, `{m,n}` repeat the item before them (`m ≤ n`, counts in
  32 bits, a following `?` makes them lazy), and `.`, `^`, `$` and every other character stand
  for themselves or their assertion. A repetition needs an item before it in its alternative, and
  a flag group is none.
* An escape is a metacharacter or other ASCII punctuation taken literally, one of `\a \f \t \n
  \r \v`, a class `\d \D \s \S \w \W`, a Unicode class `\pL` or `\p{…}`, a code point `\x41`,
  `\x{…}`, `\u0041` or `\U00000041`, or an assertion: `\A`, `\z`, `\b`, `\B`, `\<`, `\>`, and
  `\b{start}`, `\b{end}`, `\b{start-half}`, `\b{end-half}`. Digits (back-references) and other
  letters are refused.
* A group is `(…)`, `(?:…)`, `(?P<name>…)` or `(?<name>…)` with a name not used before, or sets
  flags for its body (`(?i-s:…)`) or for the rest of the enclosing group (`(?i)`). A flag appears
  once, one `-` may clear the flags after it and needs one after it. Look-around is refused.
* A class may begin with `^`, takes leading `-` and a `]` right after its opening as literals,
  and holds characters, ranges with ascending ends, escapes that are characters or classes, named
  ASCII classes such as `[:alpha:]`, nested classes, and the operators `&&`, `--` and `~~`
  between unions of items.

With the flag `x`, blanks and comments from `#` to the end of the line are skipped between items,
also inside classes, counts and code points; a group restores the setting it opened with when it
closes.
-/

namespace WaitGate.Trace.Pattern

/-- Where the reader of a pattern stands: the characters left, whether blanks and comments are
skipped (flag `x`), and the names of the groups read so far. -/
structure Cursor where
  rest : List Char
  ignoreSpace : Bool := false
  names : List String := []

/-- A reader of patterns: it moves a cursor, or refuses the text. -/
abbrev Scan := StateT Cursor Option

/-- The characters after the blanks and comments at the start of a text; a comment runs from `#`
through the end of its line, and `inComment` tells that one is open. -/
def dropSpace (inComment : Bool) : List Char → List Char
  | [] => []
  | c :: cs =>
    if inComment then dropSpace (c ≠ '\n') cs
    else if Text.blank c then dropSpace false cs
    else if c = '#' then dropSpace true cs
    else c :: cs

namespace Scan

/-- The character under the cursor. -/
def peek : Scan (Option Char) := do return (← get).rest.head?

/-- Move past `n` characters. -/
def skip (n : Nat) : Scan Unit := modify fun c => { c with rest := c.rest.drop n }

/-- Move past the character under the cursor. -/
def bump : Scan Unit := skip 1

/-- Move past blanks and comments, where they are skipped. -/
def skipSpace : Scan Unit :=
  modify fun c => if c.ignoreSpace then { c with rest := dropSpace false c.rest } else c

/-- Move past the character under the cursor and the blanks after it; whether a character
follows. -/
def advance : Scan Bool := do
  bump
  skipSpace
  return (← peek).isSome

/-- Skip blanks and comments from now on, or stop skipping them. -/
def setIgnoreSpace (b : Bool) : Scan Unit := modify fun c => { c with ignoreSpace := b }

end Scan

/-- The characters that have a meaning of their own and mean themselves after a backslash. -/
def isMeta (c : Char) : Bool := "\\.+*?()|[]{}^$#&-~".toList.contains c

/-- Whether a backslash may stand before a character to take it literally: a metacharacter, or
any other ASCII character that is neither a letter, a digit, `<` nor `>`. -/
def escapable (c : Char) : Bool :=
  isMeta c || (c.toNat < 128 && !c.isAlphanum && c ≠ '<' && c ≠ '>')

/-- Whether a character is a hexadecimal digit. -/
def isHex (c : Char) : Bool := c.isDigit || ('a' ≤ c && c ≤ 'f') || ('A' ≤ c && c ≤ 'F')

/-- The value of hexadecimal digits. -/
def hexValue (cs : List Char) : Nat :=
  cs.foldl (fun n c =>
    16 * n + (if c.isDigit then c.toNat - 48 else if c ≤ 'F' then c.toNat - 55 else c.toNat - 87)) 0

/-- Whether a number is a Unicode scalar value. -/
def isScalar (n : Nat) : Bool := n < 0xD800 || (0xE000 ≤ n && n ≤ 0x10FFFF)

/-- The hexadecimal digits of a code point in braces, the cursor on the `{` or a digit read:
digits up to the `}`, where the cursor stops. -/
def braceDigits : Nat → List Char → Scan (List Char)
  | 0, _ => failure
  | fuel + 1, acc => do
    unless (← Scan.advance) do failure
    match ← Scan.peek with
    | some '}' => pure acc
    | some c => if isHex c then braceDigits fuel (acc ++ [c]) else failure
    | none => failure

/-- `n` hexadecimal digits, the first under the cursor (or after it, unless `first`). -/
def fixedDigits : Nat → Bool → Scan (List Char)
  | 0, _ => pure []
  | n + 1, first => do
    if !first then
      unless (← Scan.advance) do failure
    match ← Scan.peek with
    | some c => if isHex c then return c :: (← fixedDigits n false) else failure
    | none => failure

/-- The character of hexadecimal digits, if they name a scalar value. -/
def hexChar (ds : List Char) (byte : Bool) : Scan Literal :=
  let n := hexValue ds
  if ds.isEmpty || !isScalar n then failure else pure ⟨Char.ofNat n, byte⟩

/-- A code point after `\x`, `\u` or `\U`, the cursor on that letter: two, four or eight digits,
or any number of them in braces. -/
def hexLiteral (kind : Char) : Scan Literal := do
  unless (← Scan.advance) do failure
  if (← Scan.peek) = some '{' then
    let ds ← braceDigits ((← get).rest.length + 1) []
    let _ ← Scan.advance
    hexChar ds false
  else
    let width := if kind = 'x' then 2 else if kind = 'u' then 4 else 8
    let ds ← fixedDigits width true
    let _ ← Scan.advance
    hexChar ds (kind = 'x')

/-- The name of a Unicode class in braces, the cursor on the `{` or a character read: characters
up to the `}`, where the cursor stops. -/
def braceName : Nat → List Char → Scan (List Char)
  | 0, _ => failure
  | fuel + 1, acc => do
    unless (← Scan.advance) do failure
    match ← Scan.peek with
    | some '}' => pure acc
    | some c => braceName fuel (acc ++ [c])
    | none => failure

/-- A Unicode class after `\p` or `\P`, the cursor on that letter: one character other than a
backslash, or a name in braces. -/
def unicodeClass (negated : Bool) : Scan Node := do
  unless (← Scan.advance) do failure
  match ← Scan.peek with
  | some '{' =>
    let name ← braceName ((← get).rest.length + 1) []
    Scan.bump
    pure (.unicode (String.ofList name) negated)
  | some '\\' => failure
  | some c =>
    let _ ← Scan.advance
    pure (.unicode c.toString negated)
  | none => failure

/-- Whether a character may stand in the name of a special word boundary. -/
def boundaryNameChar (c : Char) : Bool := ('A' ≤ c && c ≤ 'Z') || ('a' ≤ c && c ≤ 'z') || c = '-'

/-- The name of a special word boundary, from the cursor on. -/
def boundaryName : Nat → Scan (List Char)
  | 0 => pure []
  | fuel + 1 => do
    match ← Scan.peek with
    | some c =>
      if boundaryNameChar c then
        let _ ← Scan.advance
        return c :: (← boundaryName fuel)
      else pure []
    | none => pure []

/-- The assertion after `\b`: a special word boundary when a brace follows that opens a name
(`{start}`, `{end}`, `{start-half}`, `{end-half}`); otherwise a word boundary, and a brace is
left for a repetition. -/
def wordBoundary : Scan Assertion := do
  let before ← get
  if (← Scan.peek) ≠ some '{' then return .wordBoundary
  unless (← Scan.advance) do failure
  match ← Scan.peek with
  | some c =>
    if !boundaryNameChar c then
      set before
      return .wordBoundary
    let name ← boundaryName ((← get).rest.length + 1)
    if (← Scan.peek) ≠ some '}' then failure
    Scan.bump
    match String.ofList name with
    | "start" => pure .wordStart
    | "end" => pure .wordEnd
    | "start-half" => pure .wordStartHalf
    | "end-half" => pure .wordEndHalf
    | _ => failure
  | none => failure

/-- The character that an escape letter such as `n` stands for. -/
def specialChar? : Char → Option Char
  | 'a' => some '\x07'
  | 'f' => some '\x0c'
  | 't' => some '\t'
  | 'n' => some '\n'
  | 'r' => some '\r'
  | 'v' => some '\x0b'
  | _ => none

/-- The class a Perl class letter names, and whether it is negated (upper case). -/
def perlClass? : Char → Option (PerlClass × Bool)
  | 'd' => some (.digit, false)
  | 'D' => some (.digit, true)
  | 's' => some (.space, false)
  | 'S' => some (.space, true)
  | 'w' => some (.word, false)
  | 'W' => some (.word, true)
  | _ => none

/-- An escape, the cursor on its backslash. -/
def escape : Scan Node := do
  Scan.bump
  let some c ← Scan.peek | failure
  if c.isDigit then failure
  else if c = 'x' || c = 'u' || c = 'U' then return .literal (← hexLiteral c)
  else if c = 'p' || c = 'P' then unicodeClass (c = 'P')
  else
    match perlClass? c with
    | some (kind, negated) =>
      Scan.bump
      pure (.perl kind negated)
    | none =>
      Scan.bump
      if escapable c then return .literal ⟨c, false⟩
      match specialChar? c with
      | some s => pure (.literal ⟨s, false⟩)
      | none =>
        match c with
        | 'A' => pure (.assertion .startText)
        | 'z' => pure (.assertion .endText)
        | 'b' => return .assertion (← wordBoundary)
        | 'B' => pure (.assertion .notWordBoundary)
        | '<' => pure (.assertion .wordStart)
        | '>' => pure (.assertion .wordEnd)
        | _ => failure

/-- One item outside classes, the cursor on it: an escape, `.`, `^`, `$` or a character. -/
def primitive : Scan Node := do
  match ← Scan.peek with
  | some '\\' => escape
  | some '.' =>
    Scan.bump
    pure .dot
  | some '^' =>
    Scan.bump
    pure (.assertion .startLine)
  | some '$' =>
    Scan.bump
    pure (.assertion .endLine)
  | some c =>
    Scan.bump
    pure (.literal ⟨c, false⟩)
  | none => failure

/-- One item inside a class, the cursor on it: an escape or a character. -/
def classPrimitive : Scan Node := do
  match ← Scan.peek with
  | some '\\' => escape
  | some c =>
    Scan.bump
    pure (.literal ⟨c, false⟩)
  | none => failure

/-- The class item an escape or character stands for: assertions are none. -/
def Node.classItem? : Node → Option ClassSet
  | .literal l => some (.literal l)
  | .perl kind negated => some (.perl kind negated)
  | .unicode name negated => some (.unicode name negated)
  | _ => none

/-- The character after the one under the cursor; where blanks are skipped, the first after it
that is neither a blank nor the first `#` among them, or, if none is, the next one. -/
def peekPast (ignoreSpace : Bool) (after : List Char) : Option Char :=
  if ignoreSpace then (scan after false).orElse fun _ => after.head? else after.head?
where
  scan : List Char → Bool → Option Char
    | [], _ => none
    | c :: cs, inComment =>
      if Text.blank c then scan cs inComment
      else if !inComment && c = '#' then scan cs true
      else some c

/-- A class item that is not a nested class, the cursor on it: a range when a `-` follows that
is followed by neither `]` nor `-`, with two characters as ends in ascending order. -/
def classItem : Scan ClassSet := do
  let first ← classPrimitive
  Scan.skipSpace
  let cur ← get
  match cur.rest with
  | [] => failure
  | c :: after =>
    let next := peekPast cur.ignoreSpace after
    if c ≠ '-' || next = some ']' || next = some '-' then
      match first.classItem? with
      | some s => pure s
      | none => failure
    else
      unless (← Scan.advance) do failure
      let second ← classPrimitive
      match first, second with
      | .literal lo, .literal hi => if lo.char ≤ hi.char then pure (.range lo hi) else failure
      | _, _ => failure

/-- The names of the ASCII classes. -/
def asciiClassNames : List String :=
  ["alnum", "alpha", "ascii", "blank", "cntrl", "digit", "graph", "lower", "print", "punct",
    "space", "upper", "word", "xdigit"]

/-- A named ASCII class such as `[:alpha:]` or `[:^digit:]` at the start of a text, and the rest
after it. -/
def asciiClass? (cs : List Char) : Option (ClassSet × List Char) :=
  match cs with
  | '[' :: ':' :: body =>
    let (negated, body) := match body with
      | '^' :: r => (true, r)
      | r => (false, r)
    let name := String.ofList (body.takeWhile (· ≠ ':'))
    match body.dropWhile (· ≠ ':') with
    | ':' :: ']' :: after =>
      if asciiClassNames.contains name then some (.ascii name negated, after) else none
    | _ => none
  | _ => none

/-- The `-` that a class takes literally right after its opening (and `^`). -/
def leadingDashes : Nat → Scan (List ClassSet)
  | 0 => pure []
  | fuel + 1 => do
    if (← Scan.peek) = some '-' then
      unless (← Scan.advance) do failure
      return .literal ⟨'-', false⟩ :: (← leadingDashes fuel)
    else pure []

/-- The contents of a class from the items read since the last operator and the operation
pending before them. -/
def closeSet (pending : Option (SetOp × ClassSet)) (items : List ClassSet) : ClassSet :=
  match pending with
  | none => ClassSet.ofItems items
  | some (kind, lhs) => .op kind lhs (ClassSet.ofItems items)

/-- The body of a group or of the whole pattern, from the alternatives closed so far and the
items of the one being read. -/
def closeBody (branches : List Node) (items : List Node) : Node :=
  if branches.isEmpty then Node.ofItems items else .alternation (branches ++ [Node.ofItems items])

/-- The last item of an alternative, which a repetition takes, and the items before it; a flag
group cannot be repeated. -/
def repeatable (items : List Node) : Scan (List Node × Node) :=
  match items.getLast? with
  | none => failure
  | some (.flags _) => failure
  | some n => pure (items.dropLast, n)

/-- The digits of a count, from the cursor on. -/
def digitRun : Nat → Scan (List Char)
  | 0 => pure []
  | fuel + 1 => do
    match ← Scan.peek with
    | some c =>
      if c.isDigit then
        let _ ← Scan.advance
        return c :: (← digitRun fuel)
      else pure []
    | none => pure []

/-- Move past the blanks after a count. -/
def blanksAfterCount : Scan Unit := modify fun c =>
  match c.rest with
  | d :: more =>
    if Text.blank d then
      { c with rest := if c.ignoreSpace then dropSpace false more else more.dropWhile Text.blank }
    else c
  | [] => c

/-- A count of a repetition, blanks around it skipped: `none` when it has no digits. A count must
fit in 32 bits. -/
def decimal : Scan (Option Nat) := do
  modify fun c => { c with rest := c.rest.dropWhile Text.blank }
  let ds ← digitRun ((← get).rest.length + 1)
  blanksAfterCount
  if ds.isEmpty then return none
  let n := ds.foldl (fun n c => 10 * n + (c.toNat - 48)) 0
  if n ≤ 4294967295 then return some n else failure

/-- The end of a counted repetition, the cursor on its `}`: the counts, if in order, and whether
the repetition is greedy. -/
def countedEnd (least : Nat) (most : Option Nat) : Scan (Nat × Option Nat × Bool) := do
  if (← Scan.peek) ≠ some '}' then failure
  let more ← Scan.advance
  let lazy ← if more && (← Scan.peek) = some '?' then do Scan.bump; pure true else pure false
  match most with
  | some m => if least ≤ m then pure (least, some m, !lazy) else failure
  | none => pure (least, none, !lazy)

/-- A counted repetition, the cursor on its `{`: `{m}`, `{m,}` or `{m,n}`. -/
def counted : Scan (Nat × Option Nat × Bool) := do
  unless (← Scan.advance) do failure
  let least ← decimal
  match ← Scan.peek with
  | none => failure
  | some ',' =>
    unless (← Scan.advance) do failure
    let some l := least | failure
    if (← Scan.peek) ≠ some '}' then
      let some m ← decimal | failure
      countedEnd l (some m)
    else countedEnd l none
  | some _ =>
    let some l := least | failure
    countedEnd l (some l)

/-- The flags after `(?`, up to the `:` or `)` that ends them: each flag at most once and one `-`
at most, which a flag must follow. The items, and the text from the end mark on. -/
def readFlags : List Char → List FlagItem → Option (List FlagItem × List Char)
  | [], _ => none
  | c :: rest, acc =>
    if c = ':' || c = ')' then
      if acc.getLast? = some .negation then none else some (acc, c :: rest)
    else if c = '-' then
      if acc.contains .negation then none else readFlags rest (acc ++ [.negation])
    else
      match Flag.ofChar? c with
      | some f => if acc.contains (.flag f) then none else readFlags rest (acc ++ [.flag f])
      | none => none

/-- Whether a character may stand in the name of a group, and begin one: `_` or a letter first,
then also numbers, `.`, `[` and `]`. -/
def nameChar (first : Bool) (c : Char) : Bool :=
  c = '_' || (if first then Text.alphabetic c else c = '.' || c = '[' || c = ']' || Text.alphanumeric c)

/-- The name of a group after its `<`, closed by `>`; a name is used once. -/
def captureName : Scan String := do
  let cur ← get
  let name := cur.rest.takeWhile (· ≠ '>')
  match name, cur.rest.dropWhile (· ≠ '>') with
  | c :: more, '>' :: after =>
    let n := String.ofList name
    if nameChar true c && more.all (nameChar false) && !cur.names.contains n then
      set { cur with rest := after, names := cur.names ++ [n] }
      pure n
    else failure
  | _, _ => failure

/-- What follows a `(`: flags for the rest of the enclosing group, or a group that opens. -/
inductive Opening where
  | setFlags (items : List FlagItem)
  | opens (kind : GroupKind)

/-- The opening of a group, the cursor after its `(`. -/
def groupOpening : Scan Opening := do
  let rest := (← get).rest
  if ["?=", "?!", "?<=", "?<!"].any (·.toList.isPrefixOf rest) then failure
  else if "?P<".toList.isPrefixOf rest then
    Scan.skip 3
    return .opens (.capture (some (← captureName)))
  else if "?<".toList.isPrefixOf rest then
    Scan.skip 2
    return .opens (.capture (some (← captureName)))
  else if "?".toList.isPrefixOf rest then
    match readFlags (rest.drop 1) [] with
    | some (items, ')' :: after) =>
      if items.isEmpty then failure
      modify fun c => { c with rest := after }
      return .setFlags items
    | some (items, _ :: after) =>
      modify fun c => { c with rest := after }
      return .opens (.plain items)
    | _ => failure
  else return .opens (.capture none)

mutual

/-- The items of a group's body or of the whole pattern, up to a `)` or the end, from the
alternatives closed so far and the items of the one being read: the body, and whether a `)`
ended it. -/
def sequence : Nat → List Node → List Node → Scan (Node × Bool)
  | 0, _, _ => failure
  | fuel + 1, branches, items => do
    Scan.skipSpace
    match ← Scan.peek with
    | none => pure (closeBody branches items, false)
    | some ')' =>
      Scan.bump
      pure (closeBody branches items, true)
    | some '(' =>
      Scan.bump
      Scan.skipSpace
      match ← groupOpening with
      | .setFlags fs =>
        match flagState fs .ignoreWhitespace with
        | some v => Scan.setIgnoreSpace v
        | none => pure ()
        sequence fuel branches (items ++ [.flags fs])
      | .opens kind =>
        let outer := (← get).ignoreSpace
        match kind with
        | .plain fs => Scan.setIgnoreSpace ((flagState fs .ignoreWhitespace).getD outer)
        | .capture _ => pure ()
        let (body, closed) ← sequence fuel [] []
        if !closed then failure
        Scan.setIgnoreSpace outer
        sequence fuel branches (items ++ [.group kind body])
    | some '|' =>
      Scan.bump
      sequence fuel (branches ++ [Node.ofItems items]) []
    | some '[' =>
      let (negated, s) ← classBody fuel
      sequence fuel branches (items ++ [.bracketed negated s])
    | some '{' =>
      let (front, body) ← repeatable items
      let (least, most, greedy) ← counted
      sequence fuel branches (front ++ [.repetition body least most greedy])
    | some c =>
      if c = '?' || c = '*' || c = '+' then
        let (front, body) ← repeatable items
        Scan.bump
        let lazy ← if (← Scan.peek) = some '?' then do Scan.bump; pure true else pure false
        let (least, most) : Nat × Option Nat :=
          if c = '?' then (0, some 1) else if c = '*' then (0, none) else (1, none)
        sequence fuel branches (front ++ [.repetition body least most !lazy])
      else
        let n ← primitive
        sequence fuel branches (items ++ [n])

/-- A bracketed class, the cursor on its `[`: whether it is negated, and its contents up to the
matching `]`. -/
def classBody : Nat → Scan (Bool × ClassSet)
  | 0 => failure
  | fuel + 1 => do
    unless (← Scan.advance) do failure
    let negated ← if (← Scan.peek) = some '^' then do
        unless (← Scan.advance) do failure
        pure true
      else pure false
    let dashes ← leadingDashes ((← get).rest.length + 1)
    let first ← if dashes.isEmpty && (← Scan.peek) = some ']' then do
        unless (← Scan.advance) do failure
        pure [ClassSet.literal ⟨']', false⟩]
      else pure []
    let s ← classItems fuel none (dashes ++ first)
    pure (negated, s)

/-- The items of a class up to its `]`, from the operation pending before them and the items read
since. -/
def classItems : Nat → Option (SetOp × ClassSet) → List ClassSet → Scan ClassSet
  | 0, _, _ => failure
  | fuel + 1, pending, items => do
    Scan.skipSpace
    let cur ← get
    match cur.rest with
    | [] => failure
    | '[' :: _ =>
      match asciiClass? cur.rest with
      | some (s, after) =>
        set { cur with rest := after }
        classItems fuel pending (items ++ [s])
      | none =>
        let (negated, s) ← classBody fuel
        classItems fuel pending (items ++ [.bracketed negated s])
    | ']' :: _ =>
      Scan.bump
      pure (closeSet pending items)
    | '&' :: '&' :: _ =>
      Scan.skip 2
      classItems fuel (some (.intersection, closeSet pending items)) []
    | '-' :: '-' :: _ =>
      Scan.skip 2
      classItems fuel (some (.difference, closeSet pending items)) []
    | '~' :: '~' :: _ =>
      Scan.skip 2
      classItems fuel (some (.symmetricDifference, closeSet pending items)) []
    | _ =>
      let s ← classItem
      classItems fuel pending (items ++ [s])

end

/-- Read a pattern into its syntax tree; `none` when it is not well formed. Every step of the
reader but one that opens a class moves past a character, so twice the length bounds them. -/
def parse (s : String) : Option Node :=
  match (sequence (2 * s.length + 2) [] []).run { rest := s.toList } with
  | some ((n, false), _) => some n
  | _ => none

end WaitGate.Trace.Pattern
