import ViewerBridge.Bridge.Config
import ViewerBridge.Bridge.Opening
import ViewerBridge.Pending
/-!
# Bridges

The bridge starts a viewer, takes the connection that the viewer opens back, and passes messages
over it within the host's own calls. What the world does during a call is given to the call. The
bridge stands in a situation: the processes that exist, what has arrived from the viewer, and what
has passed over the connection so far.
-/
namespace ViewerBridge

structure Bridge where
  config : Config
  state : BridgeState := .uninitialized
  session : Option Session := none
  viewer : ViewerProcess := {}
  pending : Pending := .empty

namespace Bridge

/-- The port on which the bridge listens or has listened, once it is started. -/
def port? (b : Bridge) : Option UInt16 := b.session.map Session.port

end Bridge

inductive Exchange where
  | sent (m : Message) (outcome : Except SessionError Unit)
  | read (messages : List Message) (outcome : Except SessionError Unit)

namespace Exchange

def failed : Exchange → Bool
  | sent _ (.error _) | read _ (.error _) => true
  | _ => false

def sent? : Exchange → Option (Message × Except SessionError Unit)
  | sent m outcome => some (m, outcome)
  | read .. => none

def received : Exchange → List Message
  | sent .. => []
  | read messages _ => messages

end Exchange

/-- A bridge, the processes that exist, and everything that has passed over its connection. -/
structure Situation where
  bridge : Bridge
  processes : Processes := {}
  /-- Whether the system answers when a ready bridge asks about its viewer's process. -/
  pollable : Bool := true
  /-- What the viewer has sent and the bridge has not taken yet. -/
  inbound : Inbound := {}
  /-- All bytes that were written to the viewer. -/
  written : List UInt8 := []
  exchanges : List Exchange := []

namespace Situation

def idle (config : Config) : Situation := { bridge := { config } }

/-- Every message that was to be sent over the connection, in order, and how that ended. -/
def sends (s : Situation) : List (Message × Except SessionError Unit) :=
  s.exchanges.filterMap Exchange.sent?

def received (s : Situation) : List Message := s.exchanges.flatMap Exchange.received

/-- Kills the viewer, closes the connection and drops all that is pending. -/
def teardown (s : Situation) : Situation :=
  let (viewer, processes) := s.bridge.viewer.shutdown s.processes
  { s with
    bridge := { s.bridge with state := .terminated, session := none, viewer, pending := .empty }
    processes }

def connect (s : Situation) (o : Opening) : Except BridgeError Unit × Situation :=
  match o.port with
  | .error cause => (.error (.session (.bind cause)), s)
  | .ok port =>
    let config := s.bridge.config
    let session : Session := { port }
    let s := { s with bridge := { s.bridge with session := some session } }
    match s.bridge.viewer.start o.spawner (config.launch port) s.processes with
    | (.error e, viewer, processes) =>
      (.error (.spawn e), { s with bridge := { s.bridge with viewer }, processes })
    | (.ok (), viewer, processes) =>
      let processes := o.exits.foldl Processes.exit processes
      match viewer.waitForStart processes o.answered with
      | (false, viewer) =>
        (.error .viewerExited, { s with bridge := { s.bridge with viewer }, processes })
      | (true, viewer) =>
        let timeout := config.acceptTimeout
        let outcome := Accepting.run o.attempts timeout 0 timeout viewer processes session
        (outcome.result, { s with
          bridge := { s.bridge with session := some outcome.session, viewer := outcome.viewer }
          processes := outcome.processes })

/-- Starts an idle bridge. A bridge that cannot start is terminated. -/
def start (s : Situation) (o : Opening) : Except BridgeError Unit × Situation :=
  if s.bridge.state ≠ .uninitialized then (.error .alreadyStarted, s)
  else
    match connect { s with bridge := { s.bridge with state := .starting } } o with
    | (.ok (), s) => (.ok (), { s with bridge := { s.bridge with state := .ready } })
    | (.error e, s) => (.error e, s.teardown)

def stop (s : Situation) : Situation :=
  if s.bridge.state = .terminated then s else s.teardown

/-- Gives the bridge up: it is stopped, and a viewer that it would still hold is killed. Only the
processes are left. -/
def discard (s : Situation) : Processes :=
  let s := s.stop
  (s.bridge.viewer.shutdown s.processes).2

/-- Whether the bridge is connected and its viewer runs; a bridge whose viewer does not seem to run is
terminated by the question. -/
def isReady (s : Situation) : Bool × Situation :=
  if s.bridge.state ≠ .ready then (false, s)
  else if (s.bridge.session.map Session.isConnected).getD false then
    match s.bridge.viewer.isRunning s.processes s.pollable with
    | (true, viewer) => (true, { s with bridge := { s.bridge with viewer } })
    | (false, viewer) => (false, { s with bridge := { s.bridge with viewer } }.teardown)
  else (false, s.teardown)

def afterError (s : Situation) (e : SessionError) : Situation :=
  if e.isFatal then s.teardown else s

def send (s : Situation) (m : Message) (carrier : Carrier) : Except BridgeError Unit × Situation :=
  match s.bridge.session with
  | none => (.error (.session .notConnected), s)
  | some session =>
    let (result, bytes, session) := session.send m s.bridge.config.requestTimeout carrier
    let s := { s with
      bridge := { s.bridge with session := some session }
      written := s.written ++ bytes
      exchanges := s.exchanges ++ [.sent m result] }
    match result with
    | .ok () => (.ok (), s)
    | .error e => (.error (.session e), s.afterError e)

def push (s : Situation) (m : Message) (carrier : Carrier) : Except BridgeError Unit × Situation :=
  match s.isReady with
  | (false, s) => (.error (.notReady s.bridge.state), s)
  | (true, s) => s.send m carrier

def setAvailableSymbols (s : Situation) (symbols : List String) (carrier : Carrier) :
    Except BridgeError Unit × Situation :=
  s.push (.availableSymbols symbols) carrier

/-- Sends a buffer to the viewer. A buffer that does not fit its shape is refused before anything
else is looked at. -/
def plot (s : Situation) (buffer : Buffer) (carrier : Carrier) :
    Except BridgeError Unit × Situation :=
  match buffer.validate with
  | .error e => (.error (.buffer e), s)
  | .ok () => s.push (.bufferContents buffer) carrier

/-- Files a message from the viewer; messages that only the host may send are dropped. -/
def file (p : Pending) (m : Message) : Pending :=
  if m.kind.fromViewer then p.insert m else p

/-- Files a message and takes out the plot request that then waits, adding it to those in
`requests`. -/
def fileTaking (state : Pending × List Message) (m : Message) : Pending × List Message :=
  let (pending, requests) := state
  if m.kind.fromViewer then
    let (request, pending) := (pending.insert m).take .plotRequest
    (pending, requests ++ request.toList)
  else (pending, requests)

/-- More arrives from the viewer; nothing does without a connection. -/
def arrives (s : Situation) (more : Inbound) : Situation :=
  if (s.bridge.session.map Session.isConnected).getD false then
    { s with inbound := s.inbound.join more }
  else s

/-- Reads what has arrived by the end of a wait in which `more` arrives; gives the messages, the
error that ended the reading, and the situation before the two have their effect. -/
def receive (s : Situation) (more : Inbound) :
    List Message × Option SessionError × Situation :=
  match s.bridge.session with
  | none => ([], none, s)
  | some session =>
    let (messages, result, session, rest) := session.read (s.inbound.join more)
    let s := { s with
      bridge := { s.bridge with session := some session }
      inbound := rest
      exchanges := s.exchanges ++ [.read messages (result.map fun _ => ())] }
    match result with
    | .ok _ => (messages, none, s)
    | .error e => (messages, some e, s)

def settle (s : Situation) : Option SessionError → Situation
  | none => s
  | some e => s.afterError e

def drain (s : Situation) (more : Inbound) : Situation :=
  let (messages, error, s) := s.receive more
  let pending := messages.foldl file s.bridge.pending
  { s with bridge := { s.bridge with pending } }.settle error

def takePending (s : Situation) (kind : Kind) : Option Message × Situation :=
  let (m, pending) := s.bridge.pending.take kind
  (m, { s with bridge := { s.bridge with pending } })

/-- Waits for a message of the given kind. Each of the last argument is what arrives in one wait,
and the time is up after them. -/
def await (s : Situation) (kind : Kind) : List Inbound → Option Message × Situation
  | [] => s.takePending kind
  | more :: waits =>
    match s.takePending kind with
    | (some m, s) => (some m, s)
    | (none, s) =>
      if s.bridge.state ≠ .ready then (none, s) else (s.drain more).await kind waits

/-- Sends a query and waits for the answer; other messages that arrive stay pending. -/
def fetch (s : Situation) (query : Message) (kind : Kind) (carrier : Carrier)
    (waits : List Inbound) : Option Message × Situation :=
  match s.isReady with
  | (false, s) => (none, s)
  | (true, s) =>
    match s.send query carrier with
    | (.error _, s) => (none, s)
    | (.ok (), s) =>
      s.await kind (if s.bridge.config.requestTimeout = .zero then [] else waits)

/-- Asks the viewer which symbols it watches; there are none if it does not answer in time. -/
def observedSymbols (s : Situation) (carrier : Carrier) (waits : List Inbound) :
    List String × Situation :=
  match s.fetch .symbolsQuery .symbolsAnswer carrier waits with
  | (some (.symbolsAnswer symbols), s) => (symbols, s)
  | (_, s) => ([], s)

def requestName? : Message → Option String
  | .plotRequest name => some name
  | _ => none

def takePlotRequests (s : Situation) (more : Inbound) : List String × Situation :=
  match s.isReady with
  | (false, s) => ([], s)
  | (true, s) =>
    let (earlier, pending) := s.bridge.pending.take .plotRequest
    let (messages, error, s) := { s with bridge := { s.bridge with pending } }.receive more
    let (pending, requests) := messages.foldl fileTaking (s.bridge.pending, earlier.toList)
    (requests.filterMap requestName?,
      { s with bridge := { s.bridge with pending } }.settle error)

/-- Reads what has arrived by the end of a wait and passes the name of every plot request to the
callback; gives how often the callback was run, and the names that it was given. -/
def runEventLoop (s : Situation) (more : Inbound) : (Nat × List String) × Situation :=
  let (requests, s) := s.takePlotRequests more
  ((requests.length, requests), s)

def writtenSince (s earlier : Situation) : List UInt8 := s.written.drop earlier.written.length

def viewerExits (s : Situation) : Situation :=
  match s.bridge.viewer.child with
  | some child => { s with processes := s.processes.exit child.number }
  | none => s

/-- From now on the system answers, or does not, when it is asked about the viewer's process; without
one there is nothing to ask about. -/
def polls (s : Situation) (answered : Bool) : Situation :=
  match s.bridge.viewer.child with
  | some _ => { s with pollable := answered }
  | none => s

end Situation
end ViewerBridge
