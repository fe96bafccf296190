import ViewerBridge.Connection.Client
import ViewerBridge.Connection.Session
/-!
# The loopback network

A session among the clients that connect to it: who waits to be accepted, and what is on its way in
either direction. What one side has sent before has arrived when the other acts.
-/
namespace ViewerBridge

inductive Turnout where
  /-- The client that has waited longest is taken, if one waits. -/
  | first
  /-- The time is up before anyone is taken. -/
  | nobody
  | failure (cause : IoError)
  deriving DecidableEq, Repr

/-- A session and its clients, which are numbered in the order in which they connected. -/
structure Loopback where
  /-- Whether the network lets anyone through to the port. -/
  reachable : Bool
  session : Session
  clients : List Client := []
  /-- Clients that have connected and were not accepted, the first one first. -/
  backlog : List Nat := []
  deriving DecidableEq, Repr

namespace Loopback

/-- Bytes that the sockets take in while nobody reads. -/
def capacity : Nat := 16 * 1024 * 1024

def modifyClient (l : Loopback) (number : Nat) (f : Client → Client) : Loopback :=
  { l with clients := l.clients.modify number f }

def hangUp (l : Loopback) (numbers : List Nat) : Loopback :=
  numbers.foldl (fun l n => l.modifyClient n (·.hears { ended := true })) l

def connect (l : Loopback) (c : Client) : Option Nat × Loopback :=
  if l.reachable ∧ l.session.listening then
    let number := l.clients.length
    (some number, { l with clients := l.clients ++ [c], backlog := l.backlog ++ [number] })
  else (none, l)

def clientActs (l : Loopback) (number : Nat) (action : ClientAction) : ClientView × Loopback :=
  match l.clients[number]? with
  | none => (.nothing, l)
  | some c =>
    let (view, c) := c.act action
    (view, { l with clients := l.clients.set number c })

def arrived (l : Loopback) (number : Nat) : Inbound :=
  (l.clients[number]?.map Client.outbound).getD {}

def caller (l : Loopback) : Turnout → Except IoError (Option Nat)
  | .first => .ok l.backlog.head?
  | .nobody => .ok none
  | .failure cause => .error cause

/-- The host waits for a client. The others that have connected are cut off once one is accepted. -/
def accept (l : Loopback) (wait : Duration) (turnout : Turnout := .first) :
    Except SessionError Nat × Loopback :=
  let (result, session) := l.session.accept wait (l.caller turnout)
  if l.session.listening ∧ ¬ session.listening then
    (result, { l with session, backlog := [] }.hangUp l.backlog.tail)
  else (result, { l with session })

def read (l : Loopback) : List Message × Except SessionError Nat × Loopback :=
  match l.session.connection with
  | none =>
    let (messages, result, session, _) := l.session.read {}
    (messages, result, { l with session })
  | some c =>
    let (messages, result, session, rest) := l.session.read (l.arrived c.client)
    (messages, result,
      { l with session }.modifyClient c.client fun client => { client with outbound := rest })

def carrier : Carrier := fun length => if length ≤ capacity then .complete else .stalled capacity

def send (l : Loopback) (m : Message) (wait : Duration) (carrier : Carrier := carrier) :
    Except SessionError Unit × Loopback :=
  let (result, written, session) := l.session.send m wait carrier
  let next := { l with session }
  match l.session.connection with
  | none => (result, next)
  | some c =>
    (result, next.modifyClient c.client (·.hears { bytes := written }))

/-- The host closes the session; every client that was not gone sees the end. -/
def close (l : Loopback) : Loopback :=
  let cut := l.backlog ++ (l.session.connection.map Connection.client).toList
  { l with session := l.session.close, backlog := [] }.hangUp cut

def find? (l : Loopback) (name : String) : Option Nat :=
  l.clients.findIdx? fun c => c.name == name && !c.gone

def nameOf? (l : Loopback) (number : Nat) : Option String :=
  (l.clients[number]?.filter fun c => !c.framed && !c.gone).map Client.name

def actAs (l : Loopback) (name : String) (action : ClientAction) : Option ClientView × Loopback :=
  match l.find? name with
  | none => (none, l)
  | some number => (l.clientActs number action).map some id

/-- A client connects under a name, which an earlier client gives up by leaving. -/
def connectAs (l : Loopback) (name : String) (framed : Bool) : Bool × Loopback :=
  match l.connect { name, framed }, l.find? name with
  | (none, l), _ => (false, l)
  | (some _, l), none => (true, l)
  | (some _, l), some earlier => (true, (l.clientActs earlier .leave).2)

end Loopback
end ViewerBridge
