/-!
# Spans of time

A span is a whole number of seconds, below `2 ^ 64`, and a number of nanoseconds below one
second. Intervals and timeouts of a gate are spans.

The written form of a span, used by diagnostics and by the text of a configuration, takes the
largest unit that leaves a whole part of at least one (`s`, `ms`, `µs`, else `ns`), then the rest
as a fraction with its trailing zeros dropped: `0ns`, `999.999µs`, `1.5s`, `60s`.
-/

namespace WaitGate

/-- A span of time: seconds in 64 bits and nanoseconds below one second. -/
structure Span where
  secs : Nat
  nanos : Nat
  secs_lt : secs < 18446744073709551616 := by omega
  nanos_lt : nanos < 1000000000 := by omega
  deriving DecidableEq

namespace Span

/-- The empty span. -/
def zero : Span := ⟨0, 0, by omega, by omega⟩

/-- The longest span. -/
def max : Span := ⟨18446744073709551615, 999999999, by omega, by omega⟩

/-- A span of `ms` milliseconds, for a count that fits in 64 bits. -/
def ofMillis (ms : Nat) (h : ms < 18446744073709551616) : Span :=
  ⟨ms / 1000, ms % 1000 * 1000000, by omega, by omega⟩

/-- A span of whole seconds and nanoseconds, the nanoseconds carried into the seconds when they
reach a second; `none` when the seconds then leave 64 bits. -/
def carry? (secs nanos : Nat) : Option Span :=
  let total := secs + nanos / 1000000000
  if h : total < 18446744073709551616 then
    some ⟨total, nanos % 1000000000, h, Nat.mod_lt _ (by omega)⟩
  else none

/-- The span as a number of nanoseconds; the order of spans is the order of these. -/
def toNanos (d : Span) : Nat := d.secs * 1000000000 + d.nanos

instance : LE Span := ⟨fun a b => a.toNanos ≤ b.toNanos⟩

instance (a b : Span) : Decidable (a ≤ b) := inferInstanceAs (Decidable (a.toNanos ≤ b.toNanos))

/-- The longer of two spans, the second when they are equal. -/
def longer (a b : Span) : Span := if b ≤ a then a else b

/-- One millisecond. -/
def milli : Span := ofMillis 1 (by omega)

@[simp] theorem toNanos_ofMillis (ms : Nat) (h : ms < 18446744073709551616) :
    (ofMillis ms h).toNanos = ms * 1000000 := by
  simp only [toNanos, ofMillis]
  omega

/-- The digits of `n`, at least `width` of them, with leading zeros. -/
def padded (n width : Nat) : List Char :=
  let ds := Nat.toDigits 10 n
  List.replicate (width - ds.length) '0' ++ ds

/-- The fraction `frac / 10 ^ width` written after a point, without trailing zeros; nothing when
the fraction is zero. -/
def fraction (frac width : Nat) : String :=
  let ds := ((padded frac width).reverse.dropWhile (· = '0')).reverse
  if ds.isEmpty then "" else "." ++ String.ofList ds

/-- A whole part, a fraction of `width` digits, and a unit. -/
def scaled (whole frac width : Nat) (unit : String) : String :=
  toString whole ++ fraction frac width ++ unit

/-- The written form of a span. -/
def render (d : Span) : String :=
  if d.secs > 0 then scaled d.secs d.nanos 9 "s"
  else if d.nanos ≥ 1000000 then scaled (d.nanos / 1000000) (d.nanos % 1000000) 6 "ms"
  else if d.nanos ≥ 1000 then scaled (d.nanos / 1000) (d.nanos % 1000) 3 "µs"
  else scaled d.nanos 0 0 "ns"

example : render (ofMillis 100 (by omega)) = "100ms" := by decide +kernel
example : render ⟨1, 500000000, by omega, by omega⟩ = "1.5s" := by decide +kernel
example : render ⟨0, 999999, by omega, by omega⟩ = "999.999µs" := by decide +kernel
example : render zero = "0ns" := by decide +kernel

end Span

end WaitGate
