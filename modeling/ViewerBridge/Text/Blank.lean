/-!
# Blank texts

The characters that count as white space in a text, and texts that hold nothing else.
-/
namespace ViewerBridge.Blank

def isSpace (c : Char) : Bool :=
  c.toNat ∈ [0x20, 0x85, 0xA0, 0x1680, 0x2028, 0x2029, 0x202F, 0x205F, 0x3000]
    || (0x09 ≤ c.toNat && c.toNat ≤ 0x0D) || (0x2000 ≤ c.toNat && c.toNat ≤ 0x200A)

def isBlank (s : String) : Bool := s.toList.all isSpace

def trim (s : List Char) : List Char :=
  ((s.dropWhile isSpace).reverse.dropWhile isSpace).reverse

end ViewerBridge.Blank
