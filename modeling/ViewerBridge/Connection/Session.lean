import ViewerBridge.Connection.FrameReader
import ViewerBridge.Wire.Composer
/-!
# Sessions

A session listens for the viewer, takes the first client that connects and stops listening. From
then on it sends and reads frames over that one connection. What the network does in the meantime is
given to each operation: who has connected, what has arrived, how far a send got.
-/
namespace ViewerBridge

/-- A connection to a client, which is known by a number. -/
structure Connection where
  client : Nat
  reader : FrameReader := {}
  /-- It makes the frames of all messages that are sent. -/
  composer : Composer := {}
  /-- What an earlier send has left unwritten. -/
  unsent : List UInt8 := []
  deriving DecidableEq, Repr

inductive Delivery where
  | complete
  | stalled (written : Nat)
  | broken (written : Nat) (cause : IoError)
  deriving DecidableEq, Repr

/-- How far a send of so many bytes gets. -/
abbrev Carrier := Nat → Delivery

structure Session where
  port : UInt16
  listening : Bool := true
  peer : Option Nat := none
  connection : Option Connection := none
  deriving DecidableEq, Repr

namespace Session

def isConnected (s : Session) : Bool := s.connection.isSome

/-- Takes the client that connects within the wait, if one does and the listener does not fail. After
the first, the same client is given again. -/
def accept (s : Session) (wait : Duration) (caller : Except IoError (Option Nat)) :
    Except SessionError Nat × Session :=
  match s.peer with
  | some peer => (.ok peer, s)
  | none =>
    if ¬ s.listening then (.error .notConnected, s)
    else
      match caller with
      | .error cause => (.error (.io cause), s)
      | .ok none => (.error (.acceptTimeout wait), s)
      | .ok (some client) =>
        (.ok client, { s with
          listening := false
          peer := some client
          connection := some { client } })

/-- Sends one frame, after what an earlier send has left; gives also the bytes that were written. -/
def send (s : Session) (m : Message) (wait : Duration) (carrier : Carrier) :
    Except SessionError Unit × List UInt8 × Session :=
  match s.connection with
  | none => (.error .notConnected, [], s)
  | some c =>
    let (composer, bytes) := c.composer.encode m c.unsent
    match carrier bytes.length with
    | .complete => (.ok (), bytes, { s with connection := some { c with composer, unsent := [] } })
    | .stalled n =>
      (.error (.sendTimeout wait), bytes.take n,
        { s with connection := some { c with composer, unsent := bytes.drop n } })
    | .broken n cause =>
      (.error (.ofStream cause), bytes.take n,
        { s with connection := some { c with composer, unsent := bytes.drop n } })

structure Reading where
  messages : List Message
  /-- The number of messages, if reading can go on. -/
  result : Except SessionError Nat
  reader : FrameReader
  rest : Inbound

/-- Polls for frames until none is ready, at most `limit` times; `delivered` were given before. -/
def readUpTo : Nat → Nat → FrameReader → Inbound → Reading
  | 0, delivered, r, i => ⟨[], .ok delivered, r, i⟩
  | limit + 1, delivered, r, i =>
    match r.poll i with
    | (.message m, r, i) =>
      let reading := readUpTo limit (delivered + 1) r i
      { reading with messages := m :: reading.messages }
    | (.failed e, r, i) => ⟨[], .error (.ofStream (.ofFrame e)), r, i⟩
    | (.finished, r, i) => ⟨[], .error .closed, r, i⟩
    | (.waiting, r, i) => ⟨[], .ok delivered, r, i⟩

/-- Reads every frame that has arrived, which is to say that the host's runtime sees when it polls;
gives their number too, if reading can go on. A frame takes a byte at least, so the bytes at hand
bound the number. -/
def read (s : Session) (i : Inbound) :
    List Message × Except SessionError Nat × Session × Inbound :=
  match s.connection with
  | none => ([], .error .notConnected, s, i)
  | some c =>
    let reading := readUpTo (c.reader.buffer.length + i.bytes.length + 1) 0 c.reader i
    (reading.messages, reading.result,
      { s with connection := some { c with reader := reading.reader } }, reading.rest)

def close (s : Session) : Session := { s with listening := false, connection := none }

end Session
end ViewerBridge
