/-!
# Shortest decimal text of a double

A finite double is `m · 2 ^ e`. Every real number strictly closer to it than to its neighbours
reads back as the same double, and so do the two midpoints when `m` is even (ties go to the even
mantissa). The shortest text of the double is a decimal of that interval with the fewest
significant digits; of two such decimals the one nearer the double wins, and of two equally near
the one with the even last digit.

The search is in exact natural-number arithmetic. For each count of digits `n`, the decimal grid
with `n` digits at the double's magnitude is tested at the two grid points around the double;
the first count with a point inside the interval gives the digits.

The layout (`Notation`) is a separate record: where positional notation stops, and how a whole
number and an exponent are written.
-/

namespace WaitGate.Decimal

/-- A finite double decoded: sign, mantissa and binary exponent, the value `m · 2 ^ e`. The
mantissa is even-tied and the predecessor is half as far when `narrowBelow` holds (the smallest
mantissa of a binade above the first). -/
structure Binary where
  negative : Bool
  mantissa : Nat
  exponent : Int
  narrowBelow : Bool

/-- The double with the given IEEE 754 bits, `none` for an infinity or a NaN. -/
def Binary.ofBits (bits : Nat) : Option Binary :=
  let negative : Bool := bits / 9223372036854775808 % 2 = 1
  let field : Nat := bits / 4503599627370496 % 2048
  let frac : Nat := bits % 4503599627370496
  if field = 2047 then none
  else if field = 0 then some ⟨negative, frac, -1074, false⟩
  else some ⟨negative, frac + 4503599627370496, (field : Int) - 1075, frac = 0 && field > 1⟩

/-- A decimal `digits · 10 ^ exp`. -/
structure Digits where
  digits : Nat
  exp : Int

/-- Numbers of the form `x / 2 ^ s` for one fixed `s`: the double, the ends of its interval. -/
structure Interval where
  scale : Nat
  low : Nat
  value : Nat
  high : Nat
  closed : Bool

/-- The interval of reals that read back as the double (mantissa nonzero). Values are given in
quarters of a unit of the last place, so that the midpoints are whole. -/
def Binary.interval (b : Binary) : Interval :=
  let lowGap := if b.narrowBelow then 1 else 2
  let e := b.exponent - 2
  let up := Nat.pow 2 e.toNat
  let scale := Nat.pow 2 (-e).toNat
  ⟨scale, (4 * b.mantissa - lowGap) * up, 4 * b.mantissa * up, (4 * b.mantissa + 2) * up,
    b.mantissa % 2 = 0⟩

/-- Compare `q · 10 ^ k` with `x / scale`. -/
def compareScaled (q : Nat) (k : Int) (x scale : Nat) : Ordering :=
  if 0 ≤ k then compare (q * Nat.pow 10 k.toNat * scale) x
  else compare (q * scale) (x * Nat.pow 10 (-k).toNat)

/-- Whether `q · 10 ^ k` lies in the interval. -/
def Interval.holds (iv : Interval) (q : Nat) (k : Int) : Bool :=
  match compareScaled q k iv.low iv.scale, compareScaled q k iv.high iv.scale with
  | .gt, .lt => true
  | .eq, .lt => iv.closed
  | .gt, .eq => iv.closed
  | .eq, .eq => iv.closed
  | _, _ => false

/-- The value's grid points at `10 ^ k`: the one at or below it, and whether it is exact. -/
def Interval.below (iv : Interval) (k : Int) : Nat × Bool :=
  if 0 ≤ k then
    let d := Nat.pow 10 k.toNat * iv.scale
    (iv.value / d, iv.value % d = 0)
  else
    let n := iv.value * Nat.pow 10 (-k).toNat
    (n / iv.scale, n % iv.scale = 0)

/-- The number of decimal digits of a positive number, less one: `floor (log10 n)` for whole
numbers. -/
def magnitudeNat (n : Nat) : Nat := (Nat.toDigits 10 n).length - 1

/-- `floor (log10 (value / scale))` for a positive value. -/
def Interval.magnitude (iv : Interval) : Int :=
  if iv.scale ≤ iv.value then magnitudeNat (iv.value / iv.scale)
  else
    -- the least `j` with `value · 10 ^ j ≥ scale`
    let j := ((List.range 400).find? fun j => iv.scale ≤ iv.value * Nat.pow 10 j).getD 400
    (0 : Int) - j

/-- Of the grid points `q` and `q + 1` around the value, those inside the interval, the nearer
first (the even one on a tie). -/
def Interval.pick (iv : Interval) (k : Int) : Option Nat :=
  let (q, exact) := iv.below k
  if exact then (if iv.holds q k then some q else none)
  else
    let lowIn := iv.holds q k
    let highIn := iv.holds (q + 1) k
    if lowIn && highIn then
      -- distances: value - q·10^k against (q+1)·10^k - value, doubled to compare with the middle
      match compareScaled (2 * q + 1) k (2 * iv.value) iv.scale with
      | .lt => some (q + 1)
      | .gt => some q
      | .eq => some (if q % 2 = 0 then q else q + 1)
    else if lowIn then some q
    else if highIn then some (q + 1)
    else none

/-- Drop trailing zeros of the digits, raising the exponent. -/
def Digits.trim (d : Digits) : Digits :=
  go 20 d
where
  go : Nat → Digits → Digits
    | 0, d => d
    | fuel + 1, d => if d.digits ≠ 0 ∧ d.digits % 10 = 0 then go fuel ⟨d.digits / 10, d.exp + 1⟩ else d

/-- The shortest decimal of a double with a nonzero mantissa. -/
def Binary.shortest (b : Binary) : Digits :=
  let iv := b.interval
  let top := iv.magnitude
  let found := (List.range 19).findSome? fun (n : Nat) =>
    let k := top - n + 1
    (iv.pick k).map fun q => (⟨q, k⟩ : Digits)
  (found.getD ⟨b.mantissa, 0⟩).trim

/-- Where decimal text is positional and how it marks whole numbers and exponents. -/
structure Notation where
  /-- Positional for values below `10 ^ positionalBelow`. -/
  positionalBelow : Nat
  /-- Positional for values of at least `10 ^ (-positionalFrom)`. -/
  positionalFrom : Nat
  /-- The text after a whole number written positionally. -/
  wholeSuffix : String
  /-- The mark before an exponent. -/
  exponentMark : String
  /-- The sign written before an exponent that is not negative. -/
  exponentPlus : String

/-- Decimal text in the fewest digits: positional from `1e-5` up to below `1e16`, whole numbers
with `.0`, other values as `1e+16` or `1.5e-7`. -/
def Notation.shortest : Notation := ⟨16, 5, ".0", "e", "+"⟩

/-- The text of a decimal `ds · 10 ^ k` under a notation, `ds` the digits without trailing
zeros. -/
def Notation.layout (nt : Notation) (ds : List Char) (k : Int) : String :=
  let len : Int := ds.length
  let kk := len + k
  if 0 ≤ k ∧ kk ≤ nt.positionalBelow then
    String.ofList ds ++ String.ofList (List.replicate k.toNat '0') ++ nt.wholeSuffix
  else if 0 < kk ∧ kk ≤ nt.positionalBelow then
    String.ofList (ds.take kk.toNat) ++ "." ++ String.ofList (ds.drop kk.toNat)
  else if -(nt.positionalFrom : Int) < kk ∧ kk ≤ 0 then
    "0." ++ String.ofList (List.replicate (-kk).toNat '0') ++ String.ofList ds
  else
    let mant := match ds with
      | [d] => String.singleton d
      | d :: rest => String.singleton d ++ "." ++ String.ofList rest
      | [] => "0"
    let exp := kk - 1
    mant ++ nt.exponentMark ++ (if 0 ≤ exp then nt.exponentPlus else "") ++ toString exp

/-- The shortest text of a finite double under a notation; zero is `0.0`, with its sign. -/
def Notation.render (nt : Notation) (x : Float) : String :=
  match Binary.ofBits x.toBits.toNat with
  | none => if x.isNaN then "NaN" else if x < 0 then "-inf" else "inf"
  | some b =>
    let sign := if b.negative then "-" else ""
    if b.mantissa = 0 then sign ++ "0" ++ nt.wholeSuffix
    else
      let d := b.shortest
      sign ++ nt.layout (Nat.toDigits 10 d.digits) d.exp

end WaitGate.Decimal
