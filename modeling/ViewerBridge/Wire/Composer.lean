import ViewerBridge.Wire.Message
/-!
# Composing frames

A composer gathers the fields of a frame one by one and writes the frame out under the tag of its
kind. It is empty again after that, so one composer serves for any number of frames.
-/
namespace ViewerBridge

structure Composer where
  body : List UInt8 := []
  deriving DecidableEq, Repr

namespace Composer

def push (c : Composer) (f : Field) : Composer := ⟨c.body ++ f.bytes⟩

def pushText (c : Composer) (s : String) : Composer := c.push (.ofText s)

def pushBytes (c : Composer) (bs : List UInt8) : Composer := c.push (.ofBytes bs)

def pushMessage (c : Composer) (m : Message) : Composer := m.fields.foldl push c

def finish (c : Composer) (kind : Kind) (output : List UInt8) : Composer × List UInt8 :=
  (⟨[]⟩, output ++ Field.encode .kind kind ++ c.body)

def encode (c : Composer) (m : Message) (output : List UInt8) : Composer × List UInt8 :=
  (c.pushMessage m).finish m.kind output

end Composer
end ViewerBridge
