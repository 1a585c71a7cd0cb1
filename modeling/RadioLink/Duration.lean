/-! Lengths of time, counted in nanoseconds. A duration is written with the largest unit
among seconds, milliseconds, microseconds and nanoseconds that it reaches, as a decimal
with no trailing zeros: `2s`, `1.5s`, `40ms`, `0ns`. -/
namespace RadioLink

/-- A length of time in nanoseconds. -/
structure Duration where
  nanos : Nat
  deriving DecidableEq, Repr, Inhabited

namespace Duration

def nanosPerSec : Nat := 1000000000

def ofMillis (n : Nat) : Duration := ⟨n * 1000000⟩

def ofSecs (n : Nat) : Duration := ⟨n * nanosPerSec⟩

def secs (d : Duration) : Nat := d.nanos / nanosPerSec

def subsecNanos (d : Duration) : Nat := d.nanos % nanosPerSec

def millis (d : Duration) : Nat := d.nanos / 1000000

def padded (width n : Nat) : String :=
  let ds := (Nat.toDigits 10 n)
  String.ofList (List.replicate (width - ds.length) '0' ++ ds)

def decimal (whole frac places : Nat) (unit : String) : String :=
  let digits := ((padded places frac).toList.reverse.dropWhile (· == '0')).reverse
  toString whole ++ (if digits.isEmpty then "" else "." ++ String.ofList digits) ++ unit

/-- The duration in its largest reached unit. -/
def display (d : Duration) : String :=
  if d.secs > 0 then decimal d.secs d.subsecNanos 9 "s"
  else if d.nanos ≥ 1000000 then decimal (d.nanos / 1000000) (d.nanos % 1000000) 6 "ms"
  else if d.nanos ≥ 1000 then decimal (d.nanos / 1000) (d.nanos % 1000) 3 "µs"
  else toString d.nanos ++ "ns"

end Duration

end RadioLink
