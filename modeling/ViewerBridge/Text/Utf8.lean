/-!
# Texts as bytes

The UTF-8 bytes of a text, the text that bytes spell, and where bytes stop being UTF-8; parts of a
text between places that are counted in bytes.
Main statements: `decode?_encode` and `encode_of_decode?`, so each text has one spelling.
-/
namespace ViewerBridge.Utf8

def encode (s : String) : List UInt8 := s.toByteArray.data.toList

def decode? (bytes : List UInt8) : Option String := String.fromUTF8? ⟨bytes.toArray⟩

theorem decode?_encode (s : String) : decode? (encode s) = some s := by
  unfold decode? encode String.fromUTF8?
  have h : (⟨s.toByteArray.data.toList.toArray⟩ : ByteArray) = s.toByteArray := by simp
  simp only [h]
  rw [dif_pos s.isValidUTF8]
  rfl

theorem encode_of_decode? {bytes : List UInt8} {s : String} (h : decode? bytes = some s) :
    encode s = bytes := by
  unfold decode? String.fromUTF8? at h
  split at h
  · cases h
    simp [encode, String.fromUTF8]
  · cases h

structure Fault where
  index : Nat
  /-- How many bytes are at fault; none if the bytes end inside a character. -/
  length : Option Nat
  deriving DecidableEq, Repr

def Fault.message : Fault → String
  | ⟨index, some length⟩ => s!"invalid utf-8 sequence of {length} bytes from index {index}"
  | ⟨index, none⟩ => s!"incomplete utf-8 byte sequence from index {index}"

/-- The ranges in which the bytes after a leading byte must lie; none if it leads no character. -/
def followers (lead : UInt8) : Option (List (UInt8 × UInt8)) :=
  let any : UInt8 × UInt8 := (0x80, 0xBF)
  if lead < 0x80 then some []
  else if lead < 0xC2 then none
  else if lead < 0xE0 then some [any]
  else if lead = 0xE0 then some [(0xA0, 0xBF), any]
  else if lead = 0xED then some [(0x80, 0x9F), any]
  else if lead < 0xF0 then some [any, any]
  else if lead = 0xF0 then some [(0x90, 0xBF), any, any]
  else if lead < 0xF4 then some [any, any, any]
  else if lead = 0xF4 then some [(0x80, 0x8F), any, any]
  else none

/-- Looks for a fault from a character that begins at `start`, of which `seen` bytes are read and
the `expected` ones are still to come. -/
def scan (start seen : Nat) : List (UInt8 × UInt8) → List UInt8 → Option Fault
  | [], [] => none
  | _ :: _, [] => some ⟨start, none⟩
  | [], b :: bytes =>
    match followers b with
    | none => some ⟨start, some 1⟩
    | some [] => scan (start + 1) 0 [] bytes
    | some expected => scan start 1 expected bytes
  | (low, high) :: expected, b :: bytes =>
    if low ≤ b ∧ b ≤ high then
      if expected.isEmpty then scan (start + seen + 1) 0 [] bytes
      else scan start (seen + 1) expected bytes
    else some ⟨start, some seen⟩

def fault? (bytes : List UInt8) : Option Fault := scan 0 0 [] bytes

def read (bytes : List UInt8) : Except Fault String :=
  match decode? bytes with
  | some s => .ok s
  | none => .error ((fault? bytes).getD ⟨0, none⟩)

/-- The text, unless it holds the zero byte at which a foreign text ends. -/
def terminated? (s : String) : Option String := if (encode s).contains 0 then none else some s

/-- The text after its first bytes, unless these end inside a character. -/
def drop? : Nat → List Char → Option (List Char)
  | 0, text => some text
  | _ + 1, [] => none
  | n + 1, c :: text => if c.utf8Size ≤ n + 1 then drop? (n + 1 - c.utf8Size) text else none

def take? : Nat → List Char → Option (List Char)
  | 0, _ => some []
  | _ + 1, [] => none
  | n + 1, c :: text =>
    if c.utf8Size ≤ n + 1 then (take? (n + 1 - c.utf8Size) text).map (c :: ·) else none

end ViewerBridge.Utf8
