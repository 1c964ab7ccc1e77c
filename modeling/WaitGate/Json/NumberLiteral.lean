import WaitGate.Json.Reader
/-!
# Number literals

A number literal is an optional minus, then `0` or a digit string without a leading zero, then an
optional fraction and an optional exponent. Its value is

* a natural number when it has neither fraction nor exponent, is not negative and fits in 64
  bits;
* a negative integer when it has neither, is negative, and is at least `-2 ^ 63` and not `-0`;
* a double otherwise.

A double is formed as follows: the digits, as a natural number, are kept while they fit in 64
bits and the rest only count towards the exponent; the kept digits are rounded to a double and
then multiplied or divided once by the power of ten (in steps of `1e308` when the power is out of
range). A result that overflows is refused, and a very small one becomes zero.
-/

namespace WaitGate.Json

/-- The value of a number literal. -/
inductive Number where
  | unsigned (n : Nat)
  | signed (i : Int)
  | float (x : Float)

/-- The largest 64-bit natural number. -/
def nat64Max : Nat := 18446744073709551615

/-- The largest 32-bit signed integer, the bound on an exponent. -/
def i32Max : Nat := 2147483647

/-- Whether `n * 10 + d` would pass `bound`. -/
def overflows (n d bound : Nat) : Bool :=
  n ≥ bound / 10 && (n > bound / 10 || d > bound % 10)

/-- Whether a byte is an ASCII digit. -/
def isDigit (b : UInt8) : Bool := 48 ≤ b && b ≤ 57

/-- The value of an ASCII digit. -/
def digitOf (b : UInt8) : Nat := b.toNat - 48

/-- The double nearest `n · 2 ^ e`, rounding half to even, for `n` below `2 ^ 1100`. -/
def nearestDouble (n : Nat) (e : Int) : Float :=
  let len := Nat.log2 n + 1
  if len ≤ 53 then (n.toUInt64.toFloat).scaleB e
  else
    let drop := len - 53
    let q := n / Nat.pow 2 drop
    let r := n % Nat.pow 2 drop
    let half := Nat.pow 2 (drop - 1)
    let q := if r > half ∨ (r = half ∧ q % 2 = 1) then q + 1 else q
    (q.toUInt64.toFloat).scaleB (e + drop)

/-- Ten to the power `k`, for `k` up to 308, as the nearest double. -/
def powerOfTen (k : Nat) : Float := nearestDouble (Nat.pow 5 k) k

/-- The largest power of ten kept as a double. -/
def maxPower : Nat := 308

/-- Saturate an integer to 32 signed bits. -/
def clampI32 (i : Int) : Int := max (-2147483648) (min i 2147483647)

/-- The double of `significand · 10 ^ exponent`, refused when it overflows; at most `fuel` steps
of `1e308`. -/
def scaleByTen (significand : Nat) : Nat → Float → Int → Reader Float
  | 0, f, _ => pure f
  | fuel + 1, f, exponent =>
    if exponent.natAbs ≤ maxPower then
      if 0 ≤ exponent then
        let g := f * powerOfTen exponent.natAbs
        if g.isInf then fail .numberOutOfRange else pure g
      else pure (f / powerOfTen exponent.natAbs)
    else if f == 0 then pure f
    else if 0 ≤ exponent then fail .numberOutOfRange
    else scaleByTen significand fuel (f / powerOfTen maxPower) (exponent + maxPower)

/-- The double of a sign, a significand and a decimal exponent. -/
def fromParts (positive : Bool) (significand : Nat) (exponent : Int) : Reader Float := do
  let f ← scaleByTen significand 4 significand.toUInt64.toFloat exponent
  pure (if positive then f else -f)

/-- Skip digits, at most `fuel`. -/
def skipDigits : Nat → Reader Unit
  | 0 => pure ()
  | fuel + 1 => do
    match ← peek with
    | some b => if isDigit b then do bump; skipDigits fuel else pure ()
    | none => pure ()

/-- The value after an exponent too large for 32 bits: refused if it would overflow, else zero. -/
def exponentOverflow (positive zeroSignificand positiveExp : Bool) : Reader Float := do
  if !zeroSignificand && positiveExp then fail .numberOutOfRange
  else
    skipDigits (← bytesLeft)
    pure (if positive then 0 else -0)

/-- The digits of an exponent, its first digit read. -/
def exponentDigits : Nat → Nat → Reader (Option Nat)
  | 0, e => pure (some e)
  | fuel + 1, e => do
    match ← peek with
    | some b =>
      if isDigit b then do
        bump
        if overflows e (digitOf b) i32Max then pure none
        else exponentDigits fuel (e * 10 + digitOf b)
      else pure (some e)
    | none => pure (some e)

/-- An exponent, its `e` next, applied to the significand. -/
def exponentPart (positive : Bool) (significand : Nat) (startExp : Int) : Reader Float := do
  bump
  let positiveExp ← do
    match ← peek with
    | some 43 => bump; pure true
    | some 45 => bump; pure false
    | _ => pure true
  match ← next with
  | none => fail .eofInValue
  | some b =>
    if !isDigit b then fail .invalidNumber
    else
      match ← exponentDigits (← bytesLeft) (digitOf b) with
      | none => exponentOverflow positive (significand = 0) positiveExp
      | some e =>
        let final := if positiveExp then clampI32 (startExp + e) else clampI32 (startExp - e)
        fromParts positive significand final

/-- Whether a byte starts an exponent. -/
def isExponentMark (b : Option UInt8) : Bool := b = some 101 || b = some 69

/-- Digits of a fraction beyond 64 bits: skipped. -/
def fractionOverflow (positive : Bool) (significand : Nat) (exponent : Int) : Reader Float := do
  skipDigits (← bytesLeft)
  if isExponentMark (← peek) then exponentPart positive significand exponent
  else fromParts positive significand exponent

/-- The digits of a fraction; `after` counts them, negated. -/
def fractionDigits (positive : Bool) (before : Int) : Nat → Nat → Int → Reader Float
  | 0, significand, after => fromParts positive significand (before + after)
  | fuel + 1, significand, after => do
    match ← peek with
    | some b =>
      if isDigit b then
        if overflows significand (digitOf b) nat64Max then
          fractionOverflow positive significand (before + after)
        else do
          bump
          fractionDigits positive before fuel (significand * 10 + digitOf b) (after - 1)
      else finish significand after
    | none => finish significand after
where
  finish (significand : Nat) (after : Int) : Reader Float := do
    if after = 0 then
      match ← peek with
      | some _ => failAhead .invalidNumber
      | none => failAhead .eofInValue
    else if isExponentMark (← peek) then exponentPart positive significand (before + after)
    else fromParts positive significand (before + after)

/-- A fraction, its point next. -/
def fractionPart (positive : Bool) (significand : Nat) (before : Int) : Reader Float := do
  bump
  fractionDigits positive before (← bytesLeft) significand 0

/-- Digits of an integer beyond 64 bits: they raise the exponent. -/
def longInteger (positive : Bool) (significand : Nat) : Nat → Int → Reader Float
  | 0, exponent => fromParts positive significand exponent
  | fuel + 1, exponent => do
    let b ← peek
    match b with
    | some d =>
      if isDigit d then do bump; longInteger positive significand fuel (exponent + 1)
      else if d = 46 then fractionPart positive significand exponent
      else if isExponentMark b then exponentPart positive significand exponent
      else fromParts positive significand exponent
    | none => fromParts positive significand exponent

/-- What follows the integer digits: a fraction, an exponent, or the end of the number. -/
def afterInteger (positive : Bool) (significand : Nat) : Reader Number := do
  let b ← peek
  if b = some 46 then return .float (← fractionPart positive significand 0)
  else if isExponentMark b then return .float (← exponentPart positive significand 0)
  else if positive then return .unsigned significand
  else if significand = 0 ∨ 9223372036854775808 < significand then
    return .float (-(significand.toUInt64.toFloat))
  else return .signed (-(significand : Int))

/-- Integer digits after the first. -/
def integerDigits (positive : Bool) : Nat → Nat → Reader Number
  | 0, significand => afterInteger positive significand
  | fuel + 1, significand => do
    match ← peek with
    | some b =>
      if isDigit b then
        if overflows significand (digitOf b) nat64Max then
          return .float (← longInteger positive significand (← bytesLeft) 0)
        else do
          bump
          integerDigits positive fuel (significand * 10 + digitOf b)
      else afterInteger positive significand
    | none => afterInteger positive significand

/-- A number, its minus sign (if any) read. -/
def readNumber (positive : Bool) : Reader Number := do
  match ← next with
  | none => fail .eofInValue
  | some b =>
    if b = 48 then
      match ← peek with
      | some d => if isDigit d then failAhead .invalidNumber else afterInteger positive 0
      | none => afterInteger positive 0
    else if isDigit b then integerDigits positive (← bytesLeft) (digitOf b)
    else fail .invalidNumber

/-- Skip a number without forming its value, its minus sign (if any) read: the same form, with
no limit on its size. A number cut short by the end of the text is refused as invalid. -/
def skipNumber : Reader Unit := do
  match ← next with
  | none => fail .invalidNumber
  | some b =>
    if b = 48 then
      match ← peek with
      | some d => if isDigit d then failAhead .invalidNumber else pure ()
      | none => pure ()
    else if isDigit b then skipDigits (← bytesLeft)
    else fail .invalidNumber
  if (← peek) = some 46 then
    bump
    match ← peek with
    | some d => if isDigit d then skipDigits (← bytesLeft) else failAhead .invalidNumber
    | none => failAhead .invalidNumber
  if isExponentMark (← peek) then
    bump
    match ← peek with
    | some 43 | some 45 => bump
    | _ => pure ()
    match ← next with
    | some d => if isDigit d then skipDigits (← bytesLeft) else fail .invalidNumber
    | none => fail .invalidNumber

end WaitGate.Json
