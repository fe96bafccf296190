/-!
# Decimal numbers

Whole numbers in decimal digits, with or without a plus sign before them, and the texts that stand
for numbers in general.
-/
namespace ViewerBridge.Decimal

def value (digits : List Char) : Nat :=
  digits.foldl (fun n c => 10 * n + (c.toNat - '0'.toNat)) 0

/-- Reads one or more digits, after a plus sign if there is one. -/
def parse? (text : List Char) : Option Nat :=
  let digits := if text.head? = some '+' then text.drop 1 else text
  if digits.isEmpty ∨ ¬ digits.all Char.isDigit then none else some (value digits)

def isExponent : List Char → Bool
  | [] => true
  | mark :: rest =>
    let digits := if rest.head? = some '+' ∨ rest.head? = some '-' then rest.drop 1 else rest
    (mark = 'e' || mark = 'E') && !digits.isEmpty && digits.all Char.isDigit

/-- Whether the text is a number without a sign: digits with at most one point before, among or
after them and maybe an exponent, or a word, in letters of either case, for an infinite number or
for what is no number. -/
def isMagnitude (text : List Char) : Bool :=
  let rest := text.dropWhile Char.isDigit
  let (fraction, exponent) :=
    match rest with
    | '.' :: more => (more.takeWhile Char.isDigit, more.dropWhile Char.isDigit)
    | _ => ([], rest)
  String.ofList (text.map Char.toLower) ∈ ["inf", "infinity", "nan"]
    || (!(text.takeWhile Char.isDigit ++ fraction).isEmpty && isExponent exponent)

def isNumber (text : List Char) : Bool :=
  isMagnitude (if text.head? = some '+' ∨ text.head? = some '-' then text.drop 1 else text)

end ViewerBridge.Decimal
