/-!
# Kinds of message

The five kinds of message that host and viewer exchange, each known on the wire by its tag.
-/
namespace ViewerBridge

inductive Kind where
  | symbolsQuery
  | symbolsAnswer
  | availableSymbols
  | bufferContents
  | plotRequest
  deriving DecidableEq, Repr

namespace Kind

def all : List Kind := [symbolsQuery, symbolsAnswer, availableSymbols, bufferContents, plotRequest]

def name : Kind → String
  | symbolsQuery => "GetObservedSymbols"
  | symbolsAnswer => "GetObservedSymbolsResponse"
  | availableSymbols => "SetAvailableSymbols"
  | bufferContents => "PlotBufferContents"
  | plotRequest => "PlotBufferRequest"

def tag : Kind → Int32
  | symbolsQuery => 0
  | symbolsAnswer => 1
  | availableSymbols => 2
  | bufferContents => 3
  | plotRequest => 4

def ofTag? (tag : Int32) : Option Kind := all.find? (·.tag == tag)

/-- Answers and plot requests come from the viewer; the other kinds go to it. -/
def fromViewer : Kind → Bool
  | symbolsAnswer | plotRequest => true
  | _ => false

theorem ofTag?_tag (k : Kind) : ofTag? k.tag = some k := by cases k <;> rfl

theorem tag_of_ofTag? {t : Int32} {k : Kind} (h : ofTag? t = some k) : k.tag = t := by
  have := List.find?_some h
  simpa using this

theorem mem_all (k : Kind) : k ∈ all := by cases k <;> decide

end Kind
end ViewerBridge
