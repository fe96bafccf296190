import ViewerBridge.Connection.Run
import ViewerBridge.Proofs.Connection.Accepting
/-!
# What happens on the network

An event does one of five things to a session among its clients. What holds of every session in use
follows from that: it has taken nobody while it listens, and takes the client that came first.
-/
namespace ViewerBridge

namespace Session

variable {s : Session} {c : Connection}

theorem read_used (h : s.connection = some c) (i : Inbound) :
    ∃ messages result reader rest, s.read i =
      (messages, result, { s with connection := some { c with reader } }, rest) := by
  rw [read, h]
  exact ⟨_, _, _, _, rfl⟩

theorem send_used (h : s.connection = some c) (m : Message) (wait : Duration) (carrier : Carrier) :
    ∃ result written composer unsent, s.send m wait carrier =
      (result, written, { s with connection := some { c with composer, unsent } }) := by
  simp only [send, h]
  cases carrier (c.composer.encode m c.unsent).2.length with
  | complete => exact ⟨_, _, _, _, rfl⟩
  | stalled n => exact ⟨_, _, _, _, rfl⟩
  | broken n cause => exact ⟨_, _, _, _, rfl⟩

end Session

namespace Loopback

variable {l l' : Loopback}

@[simp] theorem session_modifyClient (l : Loopback) (n : Nat) (f : Client → Client) :
    (l.modifyClient n f).session = l.session := rfl

@[simp] theorem length_modifyClient (l : Loopback) (n : Nat) (f : Client → Client) :
    (l.modifyClient n f).clients.length = l.clients.length := List.length_modify ..

@[simp] theorem hangUp_cons (l : Loopback) (n : Nat) (ns : List Nat) :
    l.hangUp (n :: ns) = (l.modifyClient n (·.hears { ended := true })).hangUp ns := rfl

@[simp] theorem session_hangUp (l : Loopback) (ns : List Nat) :
    (l.hangUp ns).session = l.session := by
  induction ns generalizing l with
  | nil => rfl
  | cons n ns ih => simp [ih]

@[simp] theorem length_hangUp (l : Loopback) (ns : List Nat) :
    (l.hangUp ns).clients.length = l.clients.length := by
  induction ns generalizing l with
  | nil => rfl
  | cons n ns ih => simp [ih]

theorem connect_cases (l : Loopback) (c : Client) :
    (l.session.listening = true ∧ l.connect c = (some l.clients.length,
        { l with clients := l.clients ++ [c], backlog := l.backlog ++ [l.clients.length] })) ∨
      l.connect c = (none, l) := by
  unfold connect
  by_cases h : l.reachable ∧ l.session.listening
  · exact .inl ⟨h.2, if_pos h⟩
  · exact .inr (if_neg h)

theorem connect_of_not_listening (h : l.session.listening = false) (c : Client) :
    l.connect c = (none, l) := by
  simp [connect, h]

@[simp] theorem session_connect (l : Loopback) (c : Client) :
    (l.connect c).2.session = l.session := by
  rcases l.connect_cases c with ⟨-, ho⟩ | ho <;> rw [ho]

theorem clientActs_snd (l : Loopback) (n : Nat) (action : ClientAction) :
    (l.clientActs n action).2 = l.modifyClient n fun c => (c.act action).2 := by
  unfold clientActs modifyClient
  rcases hc : l.clients[n]? with _ | c
  · have hn : l.clients.length ≤ n := List.getElem?_eq_none_iff.mp hc
    rw [List.modify_eq_self hn]
  · refine congrArg (fun clients => { l with clients }) (List.ext_getElem? fun m => ?_)
    by_cases hm : n = m
    · subst hm
      obtain ⟨hn, rfl⟩ := List.getElem?_eq_some_iff.mp hc
      simp [hn]
    · simp [hm]

theorem accept_cases (l : Loopback) (wait : Duration) (turnout : Turnout) :
    (∃ peer, l.session.peer = some peer ∧ l.accept wait turnout = (.ok peer, l)) ∨
      (∃ n rest, l.session.peer = none ∧ l.session.listening = true ∧ l.backlog = n :: rest ∧
        l.accept wait turnout =
          (.ok n, { l with session := l.session.taking n, backlog := [] }.hangUp rest)) ∨
      ∃ e, l.accept wait turnout = (.error e, l) ∧
        ∀ w, e = .acceptTimeout w → w = wait ∧ l.session.listening = true := by
  unfold accept
  rcases l.session.accept_cases wait (l.caller turnout) with ⟨peer, hp, ho⟩ |
    ⟨n, hp, hl, hcaller, ho⟩ | ⟨e, ho, he⟩
  · refine .inl ⟨peer, hp, ?_⟩
    simp [ho]
  · refine .inr (.inl ?_)
    cases turnout with
    | first =>
      obtain ⟨rest, hb⟩ := List.head?_eq_some_iff.mp (Except.ok.inj hcaller)
      exact ⟨n, rest, hp, hl, hb, by simp [ho, hl, hb, Session.taking]⟩
    | nobody => cases hcaller
    | failure cause => cases hcaller
  · refine .inr (.inr ⟨e, ?_, he⟩)
    simp [ho]

theorem read_of_not_connected (h : l.session.connection = none) :
    l.read = ([], .error .notConnected, l) := by
  simp [read, Session.read, h]

theorem read_of_connected {c : Connection} (h : l.session.connection = some c)
    {messages : List Message} {result : Except SessionError Nat} {session : Session} {rest : Inbound}
    (hr : l.session.read (l.arrived c.client) = (messages, result, session, rest)) :
    l.read = (messages, result, { l with session }.modifyClient c.client
      fun client => { client with outbound := rest }) := by
  simp [read, h, hr]

theorem send_of_not_connected (h : l.session.connection = none) (m : Message) (wait : Duration)
    (carrier : Carrier) : l.send m wait carrier = (.error .notConnected, l) := by
  simp [send, Session.send, h]

theorem send_of_connected {c : Connection} (h : l.session.connection = some c) (m : Message)
    (wait : Duration) (carrier : Carrier) {result : Except SessionError Unit}
    {written : List UInt8} {session : Session}
    (hs : l.session.send m wait carrier = (result, written, session)) :
    l.send m wait carrier = (result, { l with session }.modifyClient c.client
      (·.hears { bytes := written })) := by
  simp [send, h, hs]

/-- What an event can do, but for what the clients hold. -/
inductive Becomes (l l' : Loopback) : Prop where
  | same (session : l'.session = l.session) (backlog : l'.backlog = l.backlog)
    (count : l'.clients.length = l.clients.length)
  | joined (listening : l.session.listening = true) (session : l'.session = l.session)
    (backlog : l'.backlog = l.backlog ++ [l.clients.length])
    (count : l'.clients.length = l.clients.length + 1)
  | taken {n rest} (listening : l.session.listening = true) (waits : l.backlog = n :: rest)
    (session : l'.session = l.session.taking n) (count : l'.clients.length = l.clients.length)
  | used (c c' : Connection) (connected : l.session.connection = some c) (client : c'.client = c.client)
    (session : l'.session = { l.session with connection := some c' })
    (backlog : l'.backlog = l.backlog) (count : l'.clients.length = l.clients.length)
  | closed (session : l'.session = l.session.close)
    (count : l'.clients.length = l.clients.length)

theorem after_becomes (l : Loopback) (e : NetworkEvent) : l.Becomes (l.after e) := by
  cases e with
  | connects name framed =>
    rw [after]
    rcases l.connect_cases { name, framed } with ⟨hl, ho⟩ | ho <;> rw [ho]
    · exact .joined hl rfl rfl (List.length_append ..)
    · exact .same rfl rfl rfl
  | acts n action =>
    rw [after, clientActs_snd]
    exact .same rfl rfl (length_modifyClient ..)
  | accept wait turnout =>
    rw [after]
    rcases l.accept_cases wait turnout with ⟨peer, -, ho⟩ | ⟨n, rest, -, hl, hb, ho⟩ | ⟨e, ho, -⟩ <;>
      rw [ho]
    · exact .same rfl rfl rfl
    · exact .taken hl hb (session_hangUp ..) (length_hangUp ..)
    · exact .same rfl rfl rfl
  | read =>
    rw [after]
    rcases hc : l.session.connection with _ | c
    · rw [read_of_not_connected hc]
      exact .same rfl rfl rfl
    · obtain ⟨_, _, reader, _, hr⟩ := Session.read_used hc (l.arrived c.client)
      rw [read_of_connected hc hr]
      exact .used c { c with reader } hc rfl rfl rfl (length_modifyClient ..)
  | send m wait carrier =>
    rw [after]
    rcases hc : l.session.connection with _ | c
    · rw [send_of_not_connected hc]
      exact .same rfl rfl rfl
    · obtain ⟨_, _, composer, unsent, hs⟩ := Session.send_used hc m wait carrier
      rw [send_of_connected hc m wait carrier hs]
      exact .used c { c with composer, unsent } hc rfl rfl rfl (length_modifyClient ..)
  | close => exact .closed (session_hangUp ..) (length_hangUp ..)

structure Sound (l : Loopback) : Prop where
  /-- While it listens it has taken nobody, and all that have connected wait. -/
  listening : l.session.listening = true →
    l.session.peer = none ∧ l.session.connection = none ∧ l.backlog = List.range l.clients.length
  /-- It has taken the first client, if any. -/
  peer : ∀ n, l.session.peer = some n → n = 0 ∧ l.clients ≠ []
  connected : ∀ c, l.session.connection = some c → c.client = 0 ∧ l.clients ≠ []

theorem sound_fresh (reachable : Bool) (port : UInt16) : (fresh reachable port).Sound where
  listening _ := ⟨rfl, rfl, rfl⟩
  peer _ h := nomatch h
  connected _ h := nomatch h

theorem Sound.waiting (h : l.Sound) (hl : l.session.listening = true) {n : Nat} {rest : List Nat}
    (hb : l.backlog = n :: rest) : n = 0 ∧ l.clients ≠ [] := by
  have hr := (h.listening hl).2.2
  rw [hb] at hr
  rcases hc : l.clients with _ | ⟨c, cs⟩
  · simp [hc] at hr
  · rw [hc, List.length_cons, List.range_succ_eq_map] at hr
    exact ⟨(List.cons.inj hr).1, by simp⟩

theorem Sound.step (h : l.Sound) (hb : l.Becomes l') : l'.Sound := by
  have kept : ∀ {n : Nat}, l'.clients.length = l.clients.length → n = 0 ∧ l.clients ≠ [] →
      n = 0 ∧ l'.clients ≠ [] := by
    intro n hcount hn
    have hpos := List.length_pos_iff.mpr hn.2
    exact ⟨hn.1, List.length_pos_iff.mp (by omega)⟩
  cases hb with
  | same session backlog count =>
    refine ⟨?_, fun n hn => kept count (h.peer n ?_), fun c hc => kept count (h.connected c ?_)⟩
    · rw [session, backlog, count]
      exact h.listening
    · rw [← session, hn]
    · rw [← session, hc]
  | joined listening session backlog count =>
    obtain ⟨hp, hc, hr⟩ := h.listening listening
    refine ⟨fun _ => ?_, ?_, ?_⟩
    · rw [session, backlog, count, hr, List.range_succ]
      exact ⟨hp, hc, rfl⟩
    · simp [session, hp]
    · simp [session, hc]
  | taken listening waits session count =>
    have hn := kept count (h.waiting listening waits)
    refine ⟨?_, ?_, ?_⟩ <;> rw [session]
    · simp [Session.taking]
    · rintro m hm
      rwa [← Option.some.inj hm]
    · rintro c hc
      rwa [← Option.some.inj hc]
  | used c c' connected client session backlog count =>
    refine ⟨?_, ?_, ?_⟩ <;> rw [session]
    · intro hl
      simp [(h.listening hl).2.1] at connected
    · exact fun n hn => kept count (h.peer n hn)
    · intro d hd
      rw [← Option.some.inj hd, client]
      exact kept count (h.connected c connected)
  | closed session count =>
    refine ⟨?_, ?_, ?_⟩ <;> rw [session]
    · simp [Session.close]
    · exact fun n hn => kept count (h.peer n hn)
    · simp [Session.close]

theorem Sound.after (h : l.Sound) (e : NetworkEvent) : (l.after e).Sound :=
  h.step (l.after_becomes e)

theorem Sound.run (h : l.Sound) (es : List NetworkEvent) : (l.run es).Sound := by
  induction es generalizing l with
  | nil => exact h
  | cons e es ih => exact ih (h.after e)

theorem sound_run (reachable : Bool) (port : UInt16) (es : List NetworkEvent) :
    ((fresh reachable port).run es).Sound :=
  (sound_fresh reachable port).run es

end Loopback
end ViewerBridge
