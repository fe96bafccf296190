import ViewerBridge.Wire.ElementType
import ViewerBridge.Wire.Kind
import ViewerBridge.Wire.LittleEndian
import ViewerBridge.Wire.Reader
import ViewerBridge.Text.Utf8
/-!
# Fields

The types of value that a frame is made of, how each is written and how it is read back. Numbers are
little-endian at their own width and carry no tag; texts, runs of bytes and lists come after their
length as a 64-bit count.
-/
namespace ViewerBridge

inductive FieldType where
  | u8 | i32 | u32 | i64 | u64 | f32 | f64 | bool | text | bytes | kind | element
  | list (item : FieldType)
  deriving DecidableEq, Repr

namespace FieldType

/-- The values of the type. A floating-point number is the word of its bit pattern. -/
abbrev Value : FieldType → Type
  | u8 => UInt8
  | i32 => Int32
  | u32 | f32 => UInt32
  | i64 => Int64
  | u64 | f64 => UInt64
  | bool => Bool
  | text => String
  | bytes => List UInt8
  | kind => Kind
  | element => ElementType
  | list item => List item.Value

end FieldType

namespace Field

def encodeLength (n : Nat) : List UInt8 := LittleEndian.bytes 8 n

def encodeBytes (bs : List UInt8) : List UInt8 := encodeLength bs.length ++ bs

def encodeWord (w : UInt32) : List UInt8 := LittleEndian.bytes 4 w.toNat

def encodeInt (i : Int32) : List UInt8 := encodeWord i.toUInt32

def encode : (t : FieldType) → t.Value → List UInt8
  | .u8, b => [b]
  | .i32, i => encodeInt i
  | .u32, w | .f32, w => encodeWord w
  | .i64, i => LittleEndian.bytes 8 i.toUInt64.toNat
  | .u64, w | .f64, w => LittleEndian.bytes 8 w.toNat
  | .bool, b => [if b then 1 else 0]
  | .text, s => encodeBytes (Utf8.encode s)
  | .bytes, bs => encodeBytes bs
  | .kind, k => encodeInt k.tag
  | .element, t => encodeInt t.code
  | .list item, vs => encodeLength vs.length ++ vs.flatMap (encode item)

def readNat (w : Nat) : Reader Nat := do return LittleEndian.value (← Reader.take w)

def readWord : Reader UInt32 := do return UInt32.ofNat (← readNat 4)

def readLongWord : Reader UInt64 := do return UInt64.ofNat (← readNat 8)

def readInt : Reader Int32 := do return (← readWord).toInt32

def readByte : Reader UInt8 := do return UInt8.ofNat (← readNat 1)

/-- Reads a count; one over the limit is refused after it is consumed. -/
def readLength : Reader Nat := do
  let n ← readNat 8
  if n ≤ Reader.maxLength then return n else Reader.fail (.oversized n)

def readBytes : Reader (List UInt8) := do Reader.take (← readLength)

def readText : Reader String := do
  match Utf8.decode? (← readBytes) with
  | some s => return s
  | none => Reader.fail .invalidText

def readKind : Reader Kind := do
  let tag ← readInt
  match Kind.ofTag? tag with
  | some kind => return kind
  | none => Reader.fail (.unknownKind tag)

def readElement : Reader ElementType := do
  let code ← readInt
  match ElementType.ofCode? code with
  | some element => return element
  | none => Reader.fail (.unknownElement code)

/-- Reads a value of the given type. Any byte but 0 is read as true. -/
def read : (t : FieldType) → Reader t.Value
  | .u8 => readByte
  | .i32 => readInt
  | .u32 | .f32 => readWord
  | .i64 => do return (← readLongWord).toInt64
  | .u64 | .f64 => readLongWord
  | .bool => do return (← readByte) != 0
  | .text => readText
  | .bytes => readBytes
  | .kind => readKind
  | .element => readElement
  | .list item => do Reader.repeated (read item) (← readLength)

end Field

structure Field where
  type : FieldType
  value : type.Value

namespace Field

def bytes (f : Field) : List UInt8 := encode f.type f.value

def ofText (s : String) : Field := ⟨.text, s⟩

def ofBytes (bs : List UInt8) : Field := ⟨.bytes, bs⟩

def ofTexts (ss : List String) : Field := ⟨.list .text, ss⟩

def encodeAll (fs : List Field) : List UInt8 := fs.flatMap bytes

def readAll : List FieldType → Reader (List Field)
  | [] => return []
  | type :: types => do
    let value ← read type
    return ⟨type, value⟩ :: (← readAll types)

end Field
end ViewerBridge
