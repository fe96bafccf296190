import ViewerBridge.Connection.FrameReader
/-!
# Clients

The viewer's end of a connection: what the client does, what it learns by it, and what is on its way
to the host.
-/
namespace ViewerBridge

inductive ClientAction where
  | send (bytes : List UInt8)
  | finish
  | leave
  /-- It takes what has arrived: the next frame, or all bytes if it does not read whole frames. -/
  | receive
  deriving DecidableEq, Repr

namespace ClientAction

def message (m : Message) : ClientAction := send m.frame

def requestPlot (name : String) : ClientAction := message (.plotRequest name)

def answerSymbols (symbols : List String) : ClientAction := message (.symbolsAnswer symbols)

end ClientAction

inductive ClientView where
  | nothing
  | taken (i : Inbound)
  | polled (p : Poll)
  deriving DecidableEq, Repr

structure Client where
  name : String := ""
  /-- It reads whole frames. -/
  framed : Bool := false
  /-- What the host has sent. -/
  inbound : Inbound := {}
  /-- What the client has sent and the host has not taken yet. -/
  outbound : Inbound := {}
  reader : FrameReader := {}
  gone : Bool := false
  deriving DecidableEq, Repr

namespace Client

def act (c : Client) : ClientAction → ClientView × Client
  | .send bytes => (.nothing, { c with outbound := c.outbound.append bytes })
  | .finish => (.nothing, { c with outbound := c.outbound.close })
  | .leave => (.nothing, { c with outbound := c.outbound.close, gone := true })
  | .receive =>
    if c.framed then
      let (poll, reader, inbound) := c.reader.poll c.inbound
      (.polled poll, { c with reader, inbound })
    else (.taken c.inbound, { c with inbound := { c.inbound with bytes := [] } })

/-- What is on its way to the host is delivered. -/
def deliver (c : Client) : Inbound × Client :=
  (c.outbound, { c with outbound := { c.outbound with bytes := [] } })

def hears (c : Client) (more : Inbound) : Client := { c with inbound := c.inbound.join more }

end Client
end ViewerBridge
