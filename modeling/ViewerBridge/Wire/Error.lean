/-!
# Wire errors

Why bytes could not be read as a field or a frame.
-/
namespace ViewerBridge

inductive WireError where
  /-- Fewer bytes are left than the next piece needs. -/
  | truncated (needed available : Nat)
  | unknownKind (tag : Int32)
  | unknownElement (code : Int32)
  | invalidText
  /-- A length or a count is over the limit. -/
  | oversized (length : Nat)
  deriving DecidableEq, Repr

namespace WireError

def message : WireError → String
  | truncated needed available =>
    s!"truncated frame: needed {needed} bytes, {available} available"
  | unknownKind tag => s!"unknown message type tag {tag}"
  | unknownElement code => s!"unknown buffer element type {code}"
  | invalidText => "string field is not valid UTF-8"
  | oversized length => s!"field length {length} exceeds the 1 GiB limit"

def isTruncated : WireError → Bool
  | truncated .. => true
  | _ => false

end WireError
end ViewerBridge
