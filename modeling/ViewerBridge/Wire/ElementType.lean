/-!
# Element types

The types that the elements of a buffer can have, each with its code on the wire and its size.
-/
namespace ViewerBridge

inductive ElementType where
  | unsignedByte
  | unsignedShort
  | short
  | int32
  | float32
  | float64
  deriving DecidableEq, Repr

namespace ElementType

def all : List ElementType := [unsignedByte, unsignedShort, short, int32, float32, float64]

def name : ElementType → String
  | unsignedByte => "UnsignedByte"
  | unsignedShort => "UnsignedShort"
  | short => "Short"
  | int32 => "Int32"
  | float32 => "Float32"
  | float64 => "Float64"

/-- The number that stands for the type on the wire; 1 stands for none. -/
def code : ElementType → Int32
  | unsignedByte => 0
  | unsignedShort => 2
  | short => 3
  | int32 => 4
  | float32 => 5
  | float64 => 6

def ofCode? (code : Int32) : Option ElementType := all.find? (·.code == code)

def size : ElementType → Nat
  | unsignedByte => 1
  | unsignedShort | short => 2
  | int32 | float32 => 4
  | float64 => 8

theorem ofCode?_code (t : ElementType) : ofCode? t.code = some t := by cases t <;> rfl

theorem code_of_ofCode? {c : Int32} {t : ElementType} (h : ofCode? c = some t) : t.code = c := by
  have := List.find?_some h
  simpa using this

theorem size_pos (t : ElementType) : 0 < t.size := by cases t <;> decide

end ElementType
end ViewerBridge
