import ViewerBridge.Proofs.Connection.Network
import ViewerBridge.Proofs.Connection.Reading
import ViewerBridge.Proofs.Wire.Carrying
/-!
# Nothing is lost on the way to the host

The readings of a session give the frames of all that the client of the connection has sent, in
order and once each, wherever the bytes are cut and whenever the host reads.
-/
namespace ViewerBridge

def ClientAction.sending (sent : Inbound) : ClientAction → Inbound
  | .send bytes => sent.append bytes
  | .finish | .leave => sent.close
  | .receive => sent

namespace HostAnswer

def messages : HostAnswer → List Message
  | .read messages _ => messages
  | _ => []

def count : HostAnswer → Nat
  | .read _ (.ok n) => n
  | _ => 0

def total : List HostAnswer → Nat
  | [] => 0
  | answer :: answers => answer.count + total answers

theorem total_append (answers more : List HostAnswer) :
    total (answers ++ more) = total answers + total more := by
  induction answers with
  | nil => simp [total]
  | cons answer answers ih => simp [total, ih, Nat.add_assoc]

end HostAnswer

theorem Client.outbound_act (c : Client) (action : ClientAction) :
    (c.act action).2.outbound = action.sending c.outbound := by
  cases action with
  | receive =>
    rw [act]
    split <;> rfl
  | _ => rfl

theorem ClientAction.sending_congr (action : ClientAction) {sent left : Inbound}
    (h : left.ended = sent.ended) :
    (action.sending left).ended = (action.sending sent).ended ∧
      ∃ more, (action.sending sent).bytes = sent.bytes ++ more ∧
        (action.sending left).bytes = left.bytes ++ more := by
  cases action with
  | send bytes =>
    simp only [sending, Inbound.append, Inbound.join, h]
    cases sent.ended with
    | true => exact ⟨by simp [h], [], by simp⟩
    | false => exact ⟨rfl, bytes, rfl, rfl⟩
  | finish => exact ⟨rfl, [], by simp [sending, Inbound.close]⟩
  | leave => exact ⟨rfl, [], by simp [sending, Inbound.close]⟩
  | receive => exact ⟨h, [], by simp [sending]⟩

namespace FrameReader
open Frames

/-- The reader and the socket hold what is left of a stream after some messages. -/
structure Keeps (r : FrameReader) (left stream : Inbound) (handed : List Message) : Prop where
  sound : r.Sound
  ended : left.ended = stream.ended
  frames : drain stream.bytes = prepend handed (drain (r.unread left))

theorem keeps_new (stream : Inbound) : ({} : FrameReader).Keeps stream stream [] :=
  ⟨sound_new, rfl, rfl⟩

theorem Keeps.sent {r : FrameReader} {left stream : Inbound} {handed : List Message}
    (h : r.Keeps left stream handed) (action : ClientAction) :
    r.Keeps (action.sending left) (action.sending stream) handed := by
  obtain ⟨hended, more, hstream, hleft⟩ := action.sending_congr h.ended
  refine ⟨h.sound, hended, ?_⟩
  have hd := drain_append_congr h.frames more
  rw [hstream, hd, unread, unread, hleft, List.append_assoc]

theorem Keeps.read {r : FrameReader} {left stream : Inbound} {handed : List Message}
    {reading : Session.Reading} (h : r.Keeps left stream handed)
    (hr : Session.Reads r left 0 reading) (hok : reading.result.isOk = true) :
    reading.reader.Keeps reading.rest stream (handed ++ reading.messages) := by
  obtain ⟨hsound, hrest, hleft⟩ := hr.kept hok
  have hd : drain (r.unread left) = (reading.messages, .ok reading.reader.buffer) :=
    Prod.ext hr.messages.symm hleft
  have hopen : left.ended = false := by
    have hending := congrArg Except.isOk hr.result
    rw [Session.isOk_ending] at hending
    cases he : left.ended with
    | false => rfl
    | true => cases hres : reading.result <;> simp_all [Except.isOk, Except.toBool, Except.map]
  refine ⟨hsound, ?_, ?_⟩
  · rw [hrest, ← h.ended, hopen]
  · rw [h.frames, hd, hrest, unread, List.append_nil, drain_nothing (next_of_drain hd)]
    simp [prepend]

end FrameReader

namespace Loopback
open Frames

def sentAfter (l : Loopback) (number : Nat) (sent : Inbound) : NetworkEvent → Inbound
  | .acts n action => if n = number ∧ n < l.clients.length then action.sending sent else sent
  | _ => sent

/-- What a client has sent once a run is over, be it read or not. -/
def sentBy (l : Loopback) (number : Nat) (sent : Inbound) : List NetworkEvent → Inbound
  | [] => sent
  | e :: es => (l.after e).sentBy number (l.sentAfter number sent e) es

variable {l : Loopback} {stream : Inbound} {handed : List Message}

theorem arrived_modifyClient (l : Loopback) (number n : Nat) {f : Client → Client}
    (hf : ∀ c, (f c).outbound = c.outbound) :
    (l.modifyClient n f).arrived number = l.arrived number := by
  simp only [arrived, modifyClient, List.getElem?_modify]
  split
  · cases l.clients[number]? <;> simp [hf]
  · simp

@[simp] theorem arrived_hangUp (l : Loopback) (number : Nat) (ns : List Nat) :
    (l.hangUp ns).arrived number = l.arrived number := by
  induction ns generalizing l with
  | nil => rfl
  | cons n ns ih =>
    rw [hangUp_cons, ih]
    exact arrived_modifyClient _ _ _ fun _ => rfl

theorem arrived_connect (l : Loopback) (number : Nat) (name : String) (framed : Bool) :
    (l.connect { name, framed }).2.arrived number = l.arrived number := by
  rcases l.connect_cases { name, framed } with ⟨-, ho⟩ | ho <;> rw [ho]
  simp only [arrived, List.getElem?_append]
  split
  · rfl
  · rename_i hn
    rw [List.getElem?_eq_none (Nat.le_of_not_lt hn)]
    rcases number - l.clients.length with _ | k <;> rfl

theorem arrived_clientActs (l : Loopback) (number n : Nat) (action : ClientAction) :
    (l.clientActs n action).2.arrived number =
      l.sentAfter number (l.arrived number) (.acts n action) := by
  rw [clientActs_snd, sentAfter]
  simp only [arrived, modifyClient, List.getElem?_modify]
  by_cases hn : n = number
  · subst hn
    by_cases hlen : n < l.clients.length
    · simp [hlen, Client.outbound_act]
    · simp [hlen]
  · simp [hn]

theorem arrived_accept (l : Loopback) (number : Nat) (wait : Duration) (turnout : Turnout) :
    (l.accept wait turnout).2.arrived number = l.arrived number := by
  rcases l.accept_cases wait turnout with ⟨peer, -, ho⟩ | ⟨n, rest, -, -, -, ho⟩ | ⟨e, ho, -⟩ <;>
    rw [ho]
  exact arrived_hangUp ..

theorem arrived_send (l : Loopback) (number : Nat) (m : Message) (wait : Duration)
    (carrier : Carrier) : (l.send m wait carrier).2.arrived number = l.arrived number := by
  rcases hc : l.session.connection with _ | c
  · rw [send_of_not_connected hc]
  · obtain ⟨_, _, _, _, hs⟩ := Session.send_used hc m wait carrier
    rw [send_of_connected hc m wait carrier hs]
    exact arrived_modifyClient _ _ _ fun _ => rfl

/-- What the host has been given of a stream, and how the rest is kept. -/
structure Follows (l : Loopback) (stream : Inbound) (handed : List Message) : Prop where
  waiting : l.session.listening = true → l.arrived 0 = stream ∧ handed = []
  connected : ∀ c, l.session.connection = some c → c.reader.Keeps (l.arrived 0) stream handed

theorem follows_fresh (reachable : Bool) (port : UInt16) :
    (fresh reachable port).Follows {} [] where
  waiting _ := ⟨rfl, rfl⟩
  connected _ h := nomatch h

theorem Follows.of_arrived {t : Loopback} (h : l.Follows stream handed)
    (hs : t.session = l.session) (ha : t.arrived 0 = l.arrived 0) : t.Follows stream handed where
  waiting := by rw [hs, ha]; exact h.waiting
  connected := by rw [hs, ha]; exact h.connected

theorem Follows.clientActs (h : l.Follows stream handed) (n : Nat) (action : ClientAction) :
    (l.clientActs n action).2.Follows (l.sentAfter 0 stream (.acts n action)) handed := by
  have harr := arrived_clientActs l 0 n action
  have hs : (l.clientActs n action).2.session = l.session := by
    rw [clientActs_snd, session_modifyClient]
  by_cases hn : n = 0 ∧ n < l.clients.length
  · simp only [sentAfter, if_pos hn] at harr ⊢
    refine ⟨fun hl => ?_, fun c hc => ?_⟩
    · obtain ⟨hstream, hhanded⟩ := h.waiting (hs ▸ hl)
      exact ⟨by rw [harr, hstream], hhanded⟩
    · rw [harr]
      exact (h.connected c (hs ▸ hc)).sent action
  · simp only [sentAfter, if_neg hn] at harr ⊢
    exact h.of_arrived hs harr

theorem Follows.accept (h : l.Follows stream handed) (wait : Duration) (turnout : Turnout) :
    (l.accept wait turnout).2.Follows stream handed := by
  have harr := arrived_accept l 0 wait turnout
  rcases l.accept_cases wait turnout with ⟨peer, -, ho⟩ | ⟨n, rest, -, hl, hb, ho⟩ | ⟨e, ho, -⟩ <;>
    rw [ho] at harr ⊢
  · exact h
  · obtain ⟨hstream, hhanded⟩ := h.waiting hl
    refine ⟨fun hl => ?_, fun c hc => ?_⟩
    · rw [session_hangUp] at hl
      cases hl
    · rw [session_hangUp] at hc
      obtain ⟨rfl⟩ := hc
      rw [harr, hstream, hhanded]
      exact FrameReader.keeps_new stream
  · exact h

theorem Follows.send (h : l.Follows stream handed) (m : Message) (wait : Duration)
    (carrier : Carrier) : (l.send m wait carrier).2.Follows stream handed := by
  have harr := arrived_send l 0 m wait carrier
  rcases hc : l.session.connection with _ | c
  · rwa [send_of_not_connected hc]
  · obtain ⟨_, _, composer, unsent, hs⟩ := Session.send_used hc m wait carrier
    rw [send_of_connected hc m wait carrier hs] at harr ⊢
    refine ⟨fun hl => ?_, fun d hd => ?_⟩
    · rw [harr]
      exact h.waiting hl
    · obtain ⟨rfl⟩ := hd
      rw [harr]
      exact h.connected c hc

theorem follows_close (l : Loopback) (stream : Inbound) (handed : List Message) :
    l.close.Follows stream handed := by
  have hs : l.close.session = l.session.close := session_hangUp ..
  refine ⟨fun hl => ?_, fun c hc => ?_⟩
  · rw [hs] at hl
    cases hl
  · rw [hs] at hc
    cases hc

theorem Follows.reads (h : l.Follows stream handed) (hs : l.Sound) {c : Connection}
    (hc : l.session.connection = some c) :
    ∃ reading, Session.Reads c.reader (l.arrived 0) 0 reading ∧ l.read.1 = reading.messages ∧
      l.read.2.1 = reading.result ∧ l.read.2.2.arrived 0 = reading.rest ∧
      l.read.2.2.session =
        { l.session with connection := some { c with reader := reading.reader } } := by
  obtain ⟨hzero, hclients⟩ := hs.connected c hc
  obtain ⟨reading, hreads, hr⟩ :=
    Session.read_reads hc (h.connected c hc).sound (l.arrived c.client)
  have ho := read_of_connected hc hr
  rw [hzero] at hreads
  refine ⟨reading, hreads, by rw [ho], by rw [ho], ?_, by rw [ho]; rfl⟩
  rw [ho, hzero]
  obtain ⟨first, others, hfirst⟩ := List.exists_cons_of_ne_nil hclients
  simp [arrived, modifyClient, hfirst]

theorem Follows.read (h : l.Follows stream handed) (hs : l.Sound)
    (hr : ∀ e, l.read.2.1 = .error e → e = .notConnected) :
    l.read.2.2.Follows stream (handed ++ l.read.1) ∧
      (HostAnswer.read l.read.1 l.read.2.1).count = l.read.1.length := by
  rcases hc : l.session.connection with _ | c
  · rw [read_of_not_connected hc, List.append_nil]
    exact ⟨h, rfl⟩
  · obtain ⟨reading, hreads, hmessages, hresult, hrest, hsession⟩ := h.reads hs hc
    have hending := hreads.result
    rw [hresult] at hr
    rcases hres : reading.result with e | n
    · obtain rfl := hr e hres
      rw [hres] at hending
      exact absurd hending.symm (Session.ending_ne_notConnected _ _)
    · rw [hresult, hmessages, hres]
      have hok : reading.result.isOk = true := by rw [hres]; rfl
      refine ⟨⟨fun hl => ?_, fun d hd => ?_⟩, ?_⟩
      · rw [hsession] at hl
        have hnone := (hs.listening hl).2.1
        rw [hc] at hnone
        cases hnone
      · rw [hsession] at hd
        obtain ⟨rfl⟩ := hd
        rw [hrest]
        exact (h.connected c hc).read hreads hok
      · have hcount := hreads.count n hres
        rwa [Nat.zero_add] at hcount

/-- No reading has failed but for those that found no connection. -/
def Unfailing (answers : List HostAnswer) : Prop :=
  ∀ messages e, HostAnswer.read messages (.error e) ∈ answers → e = .notConnected

theorem Follows.after (h : l.Follows stream handed) (hs : l.Sound) (e : NetworkEvent)
    (he : Unfailing (l.answer? e).toList) :
    (l.after e).Follows (l.sentAfter 0 stream e)
        (handed ++ (l.answer? e).toList.flatMap HostAnswer.messages) ∧
      HostAnswer.total (l.answer? e).toList =
        ((l.answer? e).toList.flatMap HostAnswer.messages).length := by
  cases e with
  | connects name framed =>
    have hkept := h.of_arrived (session_connect l _) (arrived_connect l 0 name framed)
    exact ⟨by simpa [answer?, Loopback.after, sentAfter] using hkept, rfl⟩
  | acts n action =>
    have hkept := h.clientActs n action
    exact ⟨by simpa [answer?, Loopback.after] using hkept, rfl⟩
  | accept wait turnout =>
    have hkept := h.accept wait turnout
    exact ⟨by simpa [answer?, Loopback.after, sentAfter, HostAnswer.messages] using hkept, rfl⟩
  | read =>
    obtain ⟨hfollows, hcount⟩ := h.read hs fun x hx => he l.read.1 x (by simp [answer?, hx])
    exact ⟨by simpa [answer?, Loopback.after, sentAfter, HostAnswer.messages] using hfollows,
      by simpa [answer?, HostAnswer.messages, HostAnswer.total] using hcount⟩
  | send m wait carrier =>
    have hkept := h.send m wait carrier
    exact ⟨by simpa [answer?, Loopback.after, sentAfter, HostAnswer.messages] using hkept, rfl⟩
  | close => exact ⟨follows_close .., rfl⟩

theorem Follows.run (h : l.Follows stream handed) (hs : l.Sound) {es : List NetworkEvent}
    (he : Unfailing (l.answers es)) :
    (l.run es).Follows (l.sentBy 0 stream es)
        (handed ++ (l.answers es).flatMap HostAnswer.messages) ∧
      HostAnswer.total (l.answers es) =
        ((l.answers es).flatMap HostAnswer.messages).length := by
  induction es generalizing l stream handed with
  | nil => exact ⟨by simpa [answers, sentBy] using h, rfl⟩
  | cons e es ih =>
    rw [answers] at he
    obtain ⟨hfirst, hcount⟩ := h.after hs e fun ms x hx => he ms x (List.mem_append_left _ hx)
    obtain ⟨hrest, hcounts⟩ :=
      ih hfirst (hs.after e) fun ms x hx => he ms x (List.mem_append_right _ hx)
    refine ⟨?_, ?_⟩
    · rw [answers, List.flatMap_append, ← List.append_assoc]
      exact hrest
    · rw [answers, HostAnswer.total_append, List.flatMap_append, List.length_append,
        hcount, hcounts]

/-- As long as no reading has failed, the next one gives what the client of the connection has sent
and the host was not given: all its frames, in order and once each, up to an incomplete frame that
stays in the buffer. It fails once a malformed frame or the end of the stream comes after them. -/
theorem run_reads (reachable : Bool) (port : UInt16) (es : List NetworkEvent)
    (h : Unfailing ((fresh reachable port).answers es)) :
    let start := fresh reachable port
    let l := start.run es
    let handed := (start.answers es).flatMap HostAnswer.messages
    HostAnswer.total (start.answers es) = handed.length ∧
    (l.session.connection = none → l.read = ([], .error .notConnected, l)) ∧
    ∀ c, l.session.connection = some c →
      let stream := start.sentBy c.client {} es
      ∃ rest, Carries stream.bytes (handed ++ l.read.1) rest ∧
        ((stream.ended = false ∧ Incomplete rest ∧ l.read.2.1 = .ok l.read.1.length ∧
            l.read.2.2.arrived c.client = {} ∧
            ∃ d, l.read.2.2.session.connection = some d ∧ d.reader.buffer = rest) ∨
          (stream.ended = true ∧ rest = [] ∧ l.read.2.1 = .error .closed) ∨
          (stream.ended = true ∧ rest ≠ [] ∧ Incomplete rest ∧
            l.read.2.1 = .error (.io ⟨.other, "bytes remaining on stream"⟩)) ∨
          ∃ cause, Malformed cause rest ∧
            l.read.2.1 = .error (.desynchronized ⟨.invalidData, cause.message⟩)) := by
  intro start l handed
  have hfresh := sound_fresh reachable port
  have hs : l.Sound := hfresh.run es
  obtain ⟨hfollows, hcounts⟩ := (follows_fresh reachable port).run hfresh h
  rw [List.nil_append] at hfollows
  refine ⟨hcounts, read_of_not_connected, fun c hc => ?_⟩
  have hzero : c.client = 0 := (hs.connected c hc).1
  obtain ⟨reading, hreads, hmessages, hresult, hrest, hsession⟩ := hfollows.reads hs hc
  obtain ⟨-, hended, hframes⟩ := hfollows.connected c hc
  rw [hzero, hmessages, hresult, hrest, hsession]
  intro stream
  have hend := hreads.result_eq
  have hleft := hreads.messages
  have hkept := hreads.kept
  rw [hended, Nat.zero_add] at hend
  rcases hd : drain (c.reader.unread (l.arrived 0)) with ⟨ms, e | rest⟩ <;>
    rw [hd] at hframes hend hleft hkept
  · obtain ⟨cause, rest, rfl, hcarries, hmal⟩ := drain_eq_error_iff.mp hframes
    exact ⟨rest, by rwa [hleft], .inr (.inr (.inr ⟨cause, hmal, hend⟩))⟩
  · obtain ⟨hcarries, hinc⟩ := drain_eq_ok_iff.mp hframes
    refine ⟨rest, by rwa [hleft], ?_⟩
    have hover : stream.ended = ((fresh reachable port).sentBy 0 {} es).ended := rfl
    cases he : stream.ended with
    | false =>
      rw [← hover, he] at hend
      have hok : reading.result.isOk = true := by rw [hend]; rfl
      obtain ⟨-, hempty, hbuffer⟩ := hkept hok
      exact .inl ⟨rfl, hinc, hend, hempty, _, rfl, (Except.ok.inj hbuffer).symm⟩
    | true =>
      rw [← hover, he] at hend
      by_cases hr : rest = []
      · exact .inr (.inl ⟨rfl, hr, by rw [hend, hr]; rfl⟩)
      · refine .inr (.inr (.inl ⟨rfl, hr, hinc, ?_⟩))
        simp [hend, Session.ending, hr, Session.ofStream_cutShort, Except.map]

/-- A run in which a frame comes after an unknown header and in two pieces, with a reading between
them that gives nothing. The piece of the next frame stays in the buffer. -/
theorem run_reads_cut :
    let start := fresh true 9
    let frame := (Message.plotRequest "a").frame
    let es : List NetworkEvent :=
      [.connects "viewer" false, .accept ⟨1⟩ .first, .acts 0 (.send ([9, 0, 0, 0] ++ frame.take 5)),
        .read, .acts 0 (.send (frame.drop 5 ++ [1]))]
    let l := start.run es
    Unfailing (start.answers es) ∧ l.read.1 = [.plotRequest "a"] ∧ l.read.2.1 = .ok 1 ∧
      ∃ rest, Carries ([9, 0, 0, 0] ++ frame ++ [1]) l.read.1 rest ∧ Incomplete rest ∧
        ∃ d, l.read.2.2.session.connection = some d ∧ d.reader.buffer = rest := by
  intro start frame es l
  have hanswers : start.answers es = [.accepted (.ok 0), .read [] (.ok 0)] := rfl
  have hunfailing : Unfailing (start.answers es) := by
    rw [hanswers]
    simp [Unfailing]
  have hconnection : l.session.connection =
      some { client := 0, reader := { buffer := frame.take 5 } } := rfl
  have hstream : start.sentBy 0 {} es = ⟨[9, 0, 0, 0] ++ frame ++ [1], false⟩ := rfl
  have hhanded : (start.answers es).flatMap HostAnswer.messages = [] := by
    rw [hanswers]
    rfl
  have hmessages : l.read.1 = [.plotRequest "a"] := by decide +kernel
  have hok : l.read.2.1.isOk = true := by decide +kernel
  obtain ⟨-, -, hread⟩ := run_reads true 9 es hunfailing
  obtain ⟨rest, hcarries, hend⟩ := hread _ hconnection
  rw [hhanded, hstream, List.nil_append] at hcarries
  rw [hstream] at hend
  rcases hend with ⟨-, hinc, hresult, -, hbuffer⟩ | ⟨hover, -⟩ | ⟨hover, -⟩ | ⟨cause, -, hfailed⟩
  · refine ⟨hunfailing, hmessages, ?_, rest, hcarries, hinc, hbuffer⟩
    rw [hresult, hmessages]
    rfl
  · cases hover
  · cases hover
  · rw [hfailed] at hok
    cases hok

end Loopback
end ViewerBridge
