import ViewerBridge.Json.Fault
import ViewerBridge.Text.Hexadecimal
/-!
# JSON strings

Strings between double quotes: what their escapes stand for, and how a text is written as one.
-/
namespace ViewerBridge.Json

def unit? (a b c d : Char) : Option Nat := do
  let first := (← Hexadecimal.digit? a) * 16 + (← Hexadecimal.digit? b)
  return (first * 16 + (← Hexadecimal.digit? c)) * 16 + (← Hexadecimal.digit? d)

/-- What is wrong when fewer than four characters follow where four digits must stand. Digits are
looked for among the next four bytes, so enough longer characters count as digits that are wrong. -/
def shortUnit (rest : List Char) : Fault :=
  if 4 ≤ rest.foldl (fun n c => n + c.utf8Size) 0 then .malformed else .unfinished

def isLeading (n : Nat) : Bool := 0xD800 ≤ n && n ≤ 0xDBFF

def isTrailing (n : Nat) : Bool := 0xDC00 ≤ n && n ≤ 0xDFFF

def ofPair (leading trailing : Nat) : Char :=
  Char.ofNat (0x10000 + (leading - 0xD800) * 0x400 + (trailing - 0xDC00))

def unescape? : Char → Option Char
  | '"' => some '"'
  | '\\' => some '\\'
  | '/' => some '/'
  | 'b' => some '\x08'
  | 'f' => some '\x0c'
  | 'n' => some '\n'
  | 'r' => some '\r'
  | 't' => some '\t'
  | _ => none

/-- Reads the rest of a string after its opening quote and puts its characters after those in
`read`, which is reversed. -/
def quotedOnto (read : List Char) : List Char → Except Fault (String × List Char)
  | [] => .error .unfinished
  | '"' :: rest => .ok (String.ofList read.reverse, rest)
  | ['\\'] => .error .unfinished
  | '\\' :: 'u' :: a :: b :: c :: d :: rest =>
    match unit? a b c d with
    | none => .error .malformed
    | some n =>
      if isTrailing n then .error .malformed
      else if isLeading n then
        match rest with
        | '\\' :: 'u' :: e :: f :: g :: h :: rest =>
          match unit? e f g h with
          | none => .error .malformed
          | some m =>
            if isTrailing m then quotedOnto (ofPair n m :: read) rest else .error .malformed
        | '\\' :: 'u' :: short => .error (shortUnit short)
        | [] | ['\\'] => .error .unfinished
        | _ => .error .malformed
      else quotedOnto (Char.ofNat n :: read) rest
  | '\\' :: 'u' :: short => .error (shortUnit short)
  | '\\' :: c :: rest =>
    match unescape? c with
    | some c => quotedOnto (c :: read) rest
    | none => .error .malformed
  | c :: rest => if c < ' ' then .error .malformed else quotedOnto (c :: read) rest

def quoted : Scan String := quotedOnto []

def hexChar (n : Nat) : Char := Nat.digitChar (n % 16)

def escape (c : Char) : List Char :=
  match c with
  | '"' => ['\\', '"']
  | '\\' => ['\\', '\\']
  | '\x08' => ['\\', 'b']
  | '\x0c' => ['\\', 'f']
  | '\n' => ['\\', 'n']
  | '\r' => ['\\', 'r']
  | '\t' => ['\\', 't']
  | c => if c < ' ' then ['\\', 'u', '0', '0', hexChar (c.toNat / 16), hexChar c.toNat] else [c]

def writeQuoted (s : String) : List Char := '"' :: s.toList.flatMap escape ++ ['"']

def writeTexts (ss : List String) : String :=
  String.ofList ('[' :: [','].intercalate (ss.map writeQuoted) ++ [']'])

end ViewerBridge.Json
