import ViewerBridge.Wire.LittleEndian
/-!
# Narrowing doubles to floats

The nearest 32-bit float to a 64-bit one, ties to the even neighbour, on the words of their bit
patterns and in exact arithmetic.
-/
namespace ViewerBridge.Narrowing

/-- The nearest whole number to `m / 2 ^ shift`, the even one of two equally near. -/
def halfEven (m shift : Nat) : Nat :=
  let unit := 1 <<< shift
  let quotient := m / unit
  let twice := 2 * (m % unit)
  if twice < unit ∨ (twice = unit ∧ quotient % 2 = 0) then quotient else quotient + 1

def infinity : Nat := 0x7F800000

/-- The float nearest to the magnitude `significand * 2 ^ (exponent - 1075)`; its unit in the last
place is `2 ^ (unit - 149)`. -/
def magnitude (exponent significand : Nat) : Nat :=
  let unit := exponent - 897
  min infinity (unit <<< 23 + halfEven significand (unit + 926 - exponent))

/-- Narrows the word of a double. What is no number stays so: it is made quiet and keeps its sign
and the high bits of its fraction. -/
def narrow (double : UInt64) : UInt32 :=
  let word := double.toNat
  let exponent := word >>> 52 % 1 <<< 11
  let fraction := word % 1 <<< 52
  let unsigned :=
    if exponent = 2047 then
      if fraction = 0 then infinity else 0x7FC00000 ||| (fraction >>> 29)
    else if exponent = 0 then magnitude 1 fraction
    else magnitude exponent (1 <<< 52 + fraction)
  UInt32.ofNat ((word >>> 63) <<< 31 + unsigned)

def narrowBytes (bs : List UInt8) : List UInt8 :=
  LittleEndian.bytes 4 (narrow (UInt64.ofNat (LittleEndian.value bs))).toNat

/-- Narrows every double in a run of bytes and puts the result after `done`, which is reversed; a
rest of fewer than eight bytes is dropped. -/
def narrowOnto : List UInt8 → List UInt8 → List UInt8
  | a :: b :: c :: d :: e :: f :: g :: h :: rest, done =>
    narrowOnto rest ((narrowBytes [a, b, c, d, e, f, g, h]).reverseAux done)
  | _, done => done.reverse

def narrowAll (bs : List UInt8) : List UInt8 := narrowOnto bs []

example : narrow 0x3FF8000000000000 = 0x3FC00000 := by decide
example : narrow 0xC000000000000000 = 0xC0000000 := by decide
example : narrow 0x7FEFFFFFFFFFFFFF = 0x7F800000 := by decide
example : narrow 0x36A0000000000001 = 1 := by decide +kernel

end ViewerBridge.Narrowing
