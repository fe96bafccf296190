/-!
# Durations

Spans of time in whole nanoseconds, and their text: the largest unit of which there is at least one,
with a decimal fraction that ends in no zero. A span has no largest value. Where one is added to the
time of the clock to fix a deadline, it is assumed that the clock can show the sum, which any span
below 2 ^ 63 seconds allows.
-/
namespace ViewerBridge

structure Duration where
  nanoseconds : Nat
  deriving DecidableEq, Repr

namespace Duration

def zero : Duration := ⟨0⟩

def ofMilliseconds (n : Nat) : Duration := ⟨n * 1000000⟩

def ofSeconds (n : Nat) : Duration := ⟨n * 1000000000⟩

def milliseconds (d : Duration) : Nat := d.nanoseconds / 1000000

/-- What is left of a span after a part of it; nothing if the part is longer. -/
def sub (d part : Duration) : Duration := ⟨d.nanoseconds - part.nanoseconds⟩

def min (d e : Duration) : Duration := ⟨Nat.min d.nanoseconds e.nanoseconds⟩

/-- The number `n / 10 ^ places` with no zero at the end of its fraction. -/
def decimal (n places : Nat) : String :=
  let unit := Nat.pow 10 places
  let fraction := (toString (unit + n % unit)).toList.drop 1
  let digits := (fraction.reverse.dropWhile (· == '0')).reverse
  let whole := toString (n / unit)
  if digits.isEmpty then whole else whole ++ "." ++ String.ofList digits

def render (d : Duration) : String :=
  if d.nanoseconds ≥ 1000000000 then decimal d.nanoseconds 9 ++ "s"
  else if d.nanoseconds ≥ 1000000 then decimal d.nanoseconds 6 ++ "ms"
  else if d.nanoseconds ≥ 1000 then decimal d.nanoseconds 3 ++ "µs"
  else decimal d.nanoseconds 0 ++ "ns"

end Duration
end ViewerBridge
