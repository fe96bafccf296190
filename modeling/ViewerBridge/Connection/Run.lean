import ViewerBridge.Connection.Loopback
/-!
# Runs on the loopback network

What can happen to a session among its clients, one thing after another: clients connect and act,
and the host calls the operations of the session, each with what the network does meanwhile.
-/
namespace ViewerBridge

inductive NetworkEvent where
  | connects (name : String) (framed : Bool)
  | acts (number : Nat) (action : ClientAction)
  | accept (wait : Duration) (turnout : Turnout)
  | read
  | send (m : Message) (wait : Duration) (carrier : Carrier)
  | close

inductive HostAnswer where
  | accepted (result : Except SessionError Nat)
  | read (messages : List Message) (result : Except SessionError Nat)
  | sent (result : Except SessionError Unit)
  | closed

namespace Loopback

def fresh (reachable : Bool) (port : UInt16) : Loopback := { reachable, session := { port } }

def after (l : Loopback) : NetworkEvent → Loopback
  | .connects name framed => (l.connect { name, framed }).2
  | .acts number action => (l.clientActs number action).2
  | .accept wait turnout => (l.accept wait turnout).2
  | .read => l.read.2.2
  | .send m wait carrier => (l.send m wait carrier).2
  | .close => l.close

def answer? (l : Loopback) : NetworkEvent → Option HostAnswer
  | .connects .. | .acts .. => none
  | .accept wait turnout => some (.accepted (l.accept wait turnout).1)
  | .read => some (.read l.read.1 l.read.2.1)
  | .send m wait carrier => some (.sent (l.send m wait carrier).1)
  | .close => some .closed

def run (l : Loopback) (es : List NetworkEvent) : Loopback := es.foldl after l

def answers (l : Loopback) : List NetworkEvent → List HostAnswer
  | [] => []
  | e :: es => (l.answer? e).toList ++ (l.after e).answers es

@[simp] theorem run_nil (l : Loopback) : l.run [] = l := rfl

@[simp] theorem run_cons (l : Loopback) (e : NetworkEvent) (es : List NetworkEvent) :
    l.run (e :: es) = (l.after e).run es := rfl

end Loopback
end ViewerBridge
