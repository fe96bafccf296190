import ViewerBridge.Json.Fault
/-!
# JSON numbers

Numbers in a place that asks for a value of some type. Whole numbers of 64 bits are kept; any other
number is only checked, and refused if a binary64 float cannot hold it.
-/
namespace ViewerBridge.Json

inductive Number where
  /-- A whole number without a sign and below `2 ^ 64`. -/
  | natural (n : Nat)
  | other
  deriving DecidableEq, Repr

namespace Number

def digit (c : Char) : Nat := c.toNat - '0'.toNat

def digits (cs : List Char) : List Char × List Char :=
  (cs.takeWhile Char.isDigit, cs.dropWhile Char.isDigit)

/-- Appends digits to a whole number for as long as it stays below `2 ^ 64`; gives the number and
how many digits were appended. -/
def appendDigits (n : Nat) : List Char → Nat × Nat
  | [] => (n, 0)
  | c :: cs =>
    let next := 10 * n + digit c
    if next < 1 <<< 64 then
      let (n, count) := appendDigits next cs
      (n, count + 1)
    else (n, 0)

/-- The nearest whole number with at most 53 significant bits, the even one of two. -/
def round53 (n : Nat) : Nat :=
  let unit := 1 <<< (n.log2 - 52)
  let low := n / unit
  let twice := 2 * (n % unit)
  if twice < unit ∨ (twice = unit ∧ low % 2 = 0) then low * unit else (low + 1) * unit

/-- Whether `significand * 10 ^ exponent` is too large for a float, when both factors are rounded
before they are multiplied. -/
def tooLarge (significand : Nat) (exponent : Int) : Bool :=
  if exponent ≤ 0 then false
  else if exponent ≤ 308 then
    1 <<< 1024 - 1 <<< 970 ≤ round53 significand * round53 (Nat.pow 10 exponent.toNat)
  else significand ≠ 0

def close (significand : Nat) (exponent : Int) (rest : List Char) :
    Except Fault (Number × List Char) :=
  if tooLarge significand exponent then .error .malformed else .ok (.other, rest)

def exponent (significand : Nat) (start : Int) (cs : List Char) :
    Except Fault (Number × List Char) :=
  let (sign, cs) : Int × List Char :=
    match cs with
    | '+' :: cs => (1, cs)
    | '-' :: cs => (-1, cs)
    | cs => (1, cs)
  match digits cs, cs with
  | ([], _), [] => .error .unfinished
  | ([], _), _ => .error .malformed
  | (ds, rest), _ =>
    close significand (start + sign * (ds.foldl (fun n c => 10 * n + digit c) 0 : Nat)) rest

def afterFraction (significand : Nat) (start : Int) (cs : List Char) :
    Except Fault (Number × List Char) :=
  match cs with
  | 'e' :: cs | 'E' :: cs => exponent significand start cs
  | cs => close significand start cs

def fraction (significand : Nat) (start : Int) (cs : List Char) :
    Except Fault (Number × List Char) :=
  match digits cs, cs with
  | ([], _), [] => .error .unfinished
  | ([], _), _ => .error .malformed
  | (ds, rest), _ =>
    let (significand, count) := appendDigits significand ds
    afterFraction significand (start - count) rest

/-- Reads what follows the digits of the whole part, of which those beyond 64 bits are counted in
`dropped`. -/
def afterWhole (positive : Bool) (significand dropped : Nat) (cs : List Char) :
    Except Fault (Number × List Char) :=
  match cs with
  | '.' :: cs => fraction significand dropped cs
  | 'e' :: cs | 'E' :: cs => exponent significand dropped cs
  | cs =>
    if dropped > 0 then close significand dropped cs
    else if positive then .ok (.natural significand, cs)
    else .ok (.other, cs)

def read (positive : Bool) (cs : List Char) : Except Fault (Number × List Char) :=
  match digits cs, cs with
  | ([], _), [] => .error .unfinished
  | ([], _), _ => .error .malformed
  | ('0' :: _ :: _, _), _ => .error .malformed
  | (ds, rest), _ =>
    let (significand, count) := appendDigits 0 ds
    afterWhole positive significand (ds.length - count) rest

end Number
end ViewerBridge.Json
