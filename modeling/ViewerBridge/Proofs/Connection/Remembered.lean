import ViewerBridge.Proofs.Connection.SingleClient
/-!
# The client that is remembered

A session remembers the client that it has taken and gives it to every later accept. The connection to
that client lasts until the session is closed, and the memory outlasts it.
-/
namespace ViewerBridge.Loopback

variable {l l' : Loopback} {n : Nat}

theorem accept_of_peer (h : l.session.peer = some n) (wait : Duration) (turnout : Turnout) :
    l.accept wait turnout = (.ok n, l) := by
  simp [accept, Session.accept, h]

theorem accept_remembers {wait : Duration} {turnout : Turnout}
    (h : (l.accept wait turnout).1 = .ok n) : (l.accept wait turnout).2.session.peer = some n := by
  rcases l.accept_cases wait turnout with ⟨peer, hp, ho⟩ | ⟨m, rest, -, -, -, ho⟩ | ⟨e, ho, -⟩ <;>
    rw [ho] at h ⊢
  · obtain ⟨rfl⟩ := h
    exact hp
  · obtain ⟨rfl⟩ := h
    rw [session_hangUp]
    rfl
  · cases h

theorem Sound.peer_after (hs : l.Sound) (h : l.session.peer = some n) (e : NetworkEvent) :
    (l.after e).session.peer = some n := by
  have hdeaf : ¬ l.session.listening = true := fun hl => by
    rw [(hs.listening hl).1] at h
    cases h
  cases l.after_becomes e with
  | same session => rw [session, h]
  | joined listening => exact absurd listening hdeaf
  | taken listening => exact absurd listening hdeaf
  | used c c' connected client session => rw [session, ← h]
  | closed session => rw [session, Session.close, h]

theorem Sound.peer_run (hs : l.Sound) (h : l.session.peer = some n) (es : List NetworkEvent) :
    (l.run es).session.peer = some n := by
  induction es generalizing l with
  | nil => exact h
  | cons e es ih => exact ih (hs.after e) (hs.peer_after h e)

/-- The session still listens or is connected to the client that it remembers. -/
def Attended (l : Loopback) : Prop :=
  l.session.listening = true ∨
    ∃ c, l.session.connection = some c ∧ l.session.peer = some c.client

theorem Attended.congr (h : l.Attended) (hl : l'.session = l.session) : l'.Attended := by
  rwa [Attended, hl]

theorem Attended.after (h : l.Attended) (hs : l.Sound) {e : NetworkEvent} (he : e ≠ .close) :
    (l.after e).Attended := by
  have hused : ∀ {c : Connection}, l.session.connection = some c →
      l.session.peer = some c.client := by
    intro c hc
    rcases h with hl | ⟨d, hd, hp⟩
    · rw [(hs.listening hl).2.1] at hc
      cases hc
    · rwa [← Option.some.inj (hd.symm.trans hc)]
  cases e with
  | connects name framed => exact h.congr (session_connect ..)
  | acts number action =>
    rw [Loopback.after, clientActs_snd]
    exact h
  | accept wait turnout =>
    rw [Loopback.after]
    rcases l.accept_cases wait turnout with ⟨peer, -, ho⟩ | ⟨m, rest, -, -, -, ho⟩ | ⟨e, ho, -⟩ <;>
      rw [ho]
    · exact h
    · exact .inr ⟨{ client := m }, by rw [session_hangUp]; rfl, by rw [session_hangUp]; rfl⟩
    · exact h
  | read =>
    rw [Loopback.after]
    rcases hc : l.session.connection with _ | c
    · rw [read_of_not_connected hc]
      exact h
    · obtain ⟨_, _, reader, _, hr⟩ := Session.read_used hc (l.arrived c.client)
      rw [read_of_connected hc hr]
      have hpeer : l.session.peer = some c.client := hused hc
      exact .inr ⟨{ c with reader }, rfl, hpeer⟩
  | send m wait carrier =>
    rw [Loopback.after]
    rcases hc : l.session.connection with _ | c
    · rw [send_of_not_connected hc]
      exact h
    · obtain ⟨_, _, composer, unsent, hsent⟩ := Session.send_used hc m wait carrier
      rw [send_of_connected hc m wait carrier hsent]
      have hpeer : l.session.peer = some c.client := hused hc
      exact .inr ⟨{ c with composer, unsent }, rfl, hpeer⟩
  | close => exact absurd rfl he

theorem Attended.run (h : l.Attended) (hs : l.Sound) {es : List NetworkEvent}
    (hes : NetworkEvent.close ∉ es) : (l.run es).Attended := by
  induction es generalizing l with
  | nil => exact h
  | cons e es ih =>
    rw [List.mem_cons, not_or] at hes
    exact ih (h.after hs (Ne.symm hes.1)) (hs.after e) hes.2

theorem not_connected_of_closed {es : List NetworkEvent} (hes : NetworkEvent.close ∈ es) :
    (l.run es).session.connection = none := by
  obtain ⟨front, back, rfl⟩ := List.append_of_mem hes
  have hclosed : (l.run front).close.session = (l.run front).session.close := session_hangUp ..
  have hrun : l.run (front ++ .close :: back) = (l.run front).close.run back := List.foldl_append ..
  rw [hrun]
  exact run_not_connected (by rw [hclosed, Session.close]) (by rw [hclosed, Session.close]) back

/-- Whatever clients and host have done, a client that an accept gives is the one that is remembered,
now and after anything that follows. The session is then connected exactly if it was never closed, and
only to that client. -/
theorem run_accepted (reachable : Bool) (port : UInt16) (es : List NetworkEvent) (wait : Duration)
    (turnout : Turnout) (n : Nat) :
    let accepted := ((fresh reachable port).run es).accept wait turnout
    accepted.1 = .ok n →
      (accepted.2.session.isConnected = true ↔ NetworkEvent.close ∉ es) ∧
      (∀ c, accepted.2.session.connection = some c → c.client = n) ∧
      ∀ later wait' turnout', ((accepted.2.run later).accept wait' turnout').1 = .ok n := by
  intro accepted hok
  let events := es ++ [.accept wait turnout]
  have haccepted : accepted.2 = (fresh reachable port).run events := by
    rw [run, List.foldl_append]
    rfl
  have hs : accepted.2.Sound := haccepted ▸ sound_run reachable port events
  have hpeer : accepted.2.session.peer = some n := accept_remembers hok
  refine ⟨⟨fun hconnected hclose => ?_, fun hopen => ?_⟩, fun c hc => ?_,
    fun later wait' turnout' => ?_⟩
  · have hgone : accepted.2.session.connection = none :=
      haccepted ▸ not_connected_of_closed (List.mem_append_left _ hclose)
    rw [Session.isConnected, hgone] at hconnected
    cases hconnected
  · have hevents : NetworkEvent.close ∉ events := by simp [events, hopen]
    have hattended : accepted.2.Attended :=
      haccepted ▸ Attended.run (.inl rfl) (sound_fresh reachable port) hevents
    rcases hattended with hl | ⟨c, hc, -⟩
    · rw [(hs.listening hl).1] at hpeer
      cases hpeer
    · rw [Session.isConnected, hc]
      rfl
  · rw [(hs.connected c hc).1, (hs.peer n hpeer).1]
  · rw [accept_of_peer (hs.peer_run hpeer later)]

/-- A session is still connected to a client that has left, and once closed still gives it. -/
theorem run_accepted_left :
    let before : List NetworkEvent := [.connects "a" false, .accept ⟨1⟩ .first, .acts 0 .leave]
    let accepted := ((fresh true 9).run before).accept ⟨1⟩ .nobody
    accepted.1 = .ok 0 ∧ accepted.2.session.isConnected = true ∧
      (accepted.2.close.accept ⟨1⟩ .nobody).1 = .ok 0 := by
  intro before accepted
  have hok : accepted.1 = .ok 0 := rfl
  obtain ⟨hconnected, -, hlater⟩ := run_accepted true 9 before ⟨1⟩ .nobody 0 hok
  exact ⟨hok, hconnected.mpr (by simp [before]), hlater [.close] ⟨1⟩ .nobody⟩

/-- An accept on a session that has been closed gives the client, and there is no connection. -/
theorem accept_of_closed :
    let l := (fresh true 9).run [.connects "a" false, .accept ⟨1⟩ .first, .close]
    (l.accept ⟨1⟩ .first).1 = .ok 0 ∧ (l.accept ⟨1⟩ .first).2.session.isConnected = false :=
  ⟨rfl, rfl⟩

end ViewerBridge.Loopback
