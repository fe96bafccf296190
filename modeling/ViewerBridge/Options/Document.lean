import ViewerBridge.Json.Scan
import ViewerBridge.Options.Basic
import ViewerBridge.Text.Blank
/-!
# Options documents

Options as a JSON object with any of the known keys, or as an array of the values in the order of
the keys. What is not given keeps its default, and members with other keys are passed over.
-/
namespace ViewerBridge

inductive OptionKey where
  | path
  | viewerBinary
  | style
  | timeout (t : Timeout)
  deriving DecidableEq, Repr

namespace OptionKey

def all : List OptionKey :=
  [path, viewerBinary, style, timeout .accept, timeout .request, timeout .eventLoop]

def name : OptionKey → String
  | path => "oid_path"
  | viewerBinary => "viewer_binary"
  | style => "style"
  | timeout t => t.name

def ofName? (name : String) : Option OptionKey := all.find? (·.name == name)

end OptionKey

namespace Options
open Json

def readValue (o : Options) : OptionKey → Scan Options
  | .path => return { o with path := ← Scan.optionalText }
  | .viewerBinary => return { o with viewerBinary := ← Scan.text }
  | .style => return { o with style := ← Scan.text }
  | .timeout .accept => return { o with acceptTimeout := ← Scan.natural }
  | .timeout .request => return { o with requestTimeout := ← Scan.natural }
  | .timeout .eventLoop => return { o with eventLoopTimeout := ← Scan.natural }

/-- Reads at most `limit` members of an object up to its end. A known key may come only once; those
in `seen` have come. -/
def readMembers (limit : Nat) (o : Options) (seen : List OptionKey) (first : Bool) :
    Scan Options :=
  match limit with
  | 0 => throw .unfinished
  | limit + 1 => do
    match ← Scan.nextKey first with
    | none => return o
    | some name =>
      match OptionKey.ofName? name with
      | some key =>
        if seen.contains key then throw .mistyped
        else
          Scan.colon
          readMembers limit (← o.readValue key) (key :: seen) false
      | none =>
        Scan.colon
        skipValue
        readMembers limit o seen false

/-- Reads the values of the given keys in their order, as far as the array goes. -/
def readElements (o : Options) (first : Bool) : List OptionKey → Scan Options
  | [] => return o
  | key :: keys => do
    if ← Scan.moreElements first then readElements (← o.readValue key) false keys
    else return o

/-- Reads an object or an array. A member takes a character at least, so the length of the document
bounds their number. -/
def scan : Scan Options := do
  match ← Scan.peek with
  | none => throw .unfinished
  | some '\x7b' =>
    Scan.drop
    let o ← readMembers ((← get).length + 1) {} [] true
    Scan.closeObject
    return o
  | some '[' =>
    Scan.drop
    let o ← readElements {} true OptionKey.all
    Scan.closeArray
    return o
  | some _ => Scan.mistyped

/-- Reads an options document; a blank one stands for the defaults. -/
def ofDocument (wording : Wording) (document : String) : Except OptionsError Options :=
  if Blank.isBlank document then .ok {}
  else (Scan.document wording scan document).mapError .unreadable

end Options
end ViewerBridge
