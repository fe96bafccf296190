import ViewerBridge.Proofs.Connection.Network
/-!
# One client at most

A session listens until it takes a client or is closed, and never again. The client that it takes is
the first that connected, and what the others do makes no difference to the host.
-/
namespace ViewerBridge

def NetworkEvent.byOther : NetworkEvent → Bool
  | .acts number _ => number ≠ 0
  | _ => false

namespace Loopback

variable {l l' : Loopback}

theorem Sound.not_both (h : l.Sound) :
    ¬ (l.session.listening = true ∧ l.session.isConnected = true) := by
  rintro ⟨hl, hc⟩
  have hnone := (h.listening hl).2.1
  simp [Session.isConnected, hnone] at hc

theorem Sound.accept_ok (h : l.Sound) {wait : Duration} {turnout : Turnout} {n : Nat}
    (ho : (l.accept wait turnout).1 = .ok n) :
    n = 0 ∧ l.clients ≠ [] ∧ (l.accept wait turnout).2.session.listening = false := by
  rcases l.accept_cases wait turnout with ⟨peer, hp, hacc⟩ | ⟨m, rest, -, hl, hb, hacc⟩ |
    ⟨e, hacc, -⟩ <;> rw [hacc] at ho ⊢
  · obtain ⟨rfl⟩ := ho
    have hl : l.session.listening = false := by
      cases hl : l.session.listening with
      | false => rfl
      | true =>
        rw [(h.listening hl).1] at hp
        cases hp
    exact ⟨(h.peer _ hp).1, (h.peer _ hp).2, hl⟩
  · obtain ⟨rfl⟩ := ho
    have hn := h.waiting hl hb
    exact ⟨hn.1, hn.2, by simp [Session.taking]⟩
  · cases ho

theorem Sound.accept_first (h : l.Sound) (hl : l.session.listening = true) (hc : l.clients ≠ [])
    (wait : Duration) : (l.accept wait .first).1 = .ok 0 := by
  obtain ⟨hp, -, hb⟩ := h.listening hl
  have hhead : l.backlog.head? = some 0 := by
    simp [hb, List.head?_range, hc]
  have htaken : l.session.accept wait (l.caller .first) = (.ok 0, l.session.taking 0) := by
    simp [Session.accept, caller, hp, hl, hhead, Session.taking]
  simp only [accept, htaken]
  split <;> rfl

theorem accept_timeout {wait w : Duration} {turnout : Turnout}
    (ho : (l.accept wait turnout).1 = .error (.acceptTimeout w)) :
    w = wait ∧ (l.accept wait turnout).2 = l ∧ l.session.listening = true := by
  rcases l.accept_cases wait turnout with ⟨peer, hp, hacc⟩ | ⟨m, rest, -, hl, hb, hacc⟩ |
    ⟨e, hacc, he⟩ <;> rw [hacc] at ho ⊢
  · cases ho
  · cases ho
  · obtain ⟨hw, hl⟩ := he w (Except.error.inj ho)
    exact ⟨hw, rfl, hl⟩

theorem Becomes.not_listening (hb : l.Becomes l') (h : l.session.listening = false) :
    l'.session.listening = false := by
  cases hb with
  | same session => rw [session, h]
  | joined listening => simp [h] at listening
  | taken listening => simp [h] at listening
  | used c c' connected client session => rw [session, ← h]
  | closed session => rw [session, Session.close]

theorem run_not_listening (h : l.session.listening = false) (es : List NetworkEvent) :
    (l.run es).session.listening = false := by
  induction es generalizing l with
  | nil => exact h
  | cons e es ih => exact ih ((l.after_becomes e).not_listening h)

theorem Becomes.not_connected (hb : l.Becomes l') (hl : l.session.listening = false)
    (h : l.session.connection = none) : l'.session.connection = none := by
  cases hb with
  | same session => rw [session, h]
  | joined listening => simp [hl] at listening
  | taken listening => simp [hl] at listening
  | used c c' connected => simp [h] at connected
  | closed session => rw [session, Session.close]

theorem run_not_connected (hl : l.session.listening = false) (h : l.session.connection = none)
    (es : List NetworkEvent) : (l.run es).session.connection = none := by
  induction es generalizing l with
  | nil => exact h
  | cons e es ih =>
    have hb := l.after_becomes e
    exact ih (hb.not_listening hl) (hb.not_connected hl h)

/-- The host cannot tell the two apart: they differ in clients that are not the first. -/
structure Alike (l l' : Loopback) : Prop where
  reachable : l.reachable = l'.reachable
  session : l.session = l'.session
  backlog : l.backlog = l'.backlog
  count : l.clients.length = l'.clients.length
  first : l.clients[0]? = l'.clients[0]?

namespace Alike

theorem refl (l : Loopback) : l.Alike l := ⟨rfl, rfl, rfl, rfl, rfl⟩

theorem trans {l'' : Loopback} (h : l.Alike l') (h' : l'.Alike l'') : l.Alike l'' :=
  ⟨h.reachable.trans h'.reachable, h.session.trans h'.session, h.backlog.trans h'.backlog,
    h.count.trans h'.count, h.first.trans h'.first⟩

theorem symm (h : l.Alike l') : l'.Alike l :=
  ⟨h.reachable.symm, h.session.symm, h.backlog.symm, h.count.symm, h.first.symm⟩

theorem modify_other (l : Loopback) {n : Nat} (hn : n ≠ 0) (f : Client → Client) :
    l.Alike (l.modifyClient n f) where
  reachable := rfl
  session := rfl
  backlog := rfl
  count := (length_modifyClient ..).symm
  first := by simp [modifyClient, hn]

theorem modifyClient (h : l.Alike l') (n : Nat) (f : Client → Client) :
    (l.modifyClient n f).Alike (l'.modifyClient n f) where
  reachable := h.reachable
  session := h.session
  backlog := h.backlog
  count := by simp [h.count]
  first := by simp [Loopback.modifyClient, List.getElem?_modify, h.first]

theorem hangUp (h : l.Alike l') (ns : List Nat) : (l.hangUp ns).Alike (l'.hangUp ns) := by
  induction ns generalizing l l' with
  | nil => exact h
  | cons n ns ih => exact ih (h.modifyClient n _)

theorem with_session (h : l.Alike l') (session : Session) (backlog : List Nat) :
    { l with session, backlog }.Alike { l' with session, backlog } :=
  ⟨h.reachable, rfl, rfl, h.count, h.first⟩

theorem arrived (h : l.Alike l') : l.arrived 0 = l'.arrived 0 := by
  rw [Loopback.arrived, Loopback.arrived, h.first]

theorem connect (h : l.Alike l') (c : Client) : (l.connect c).2.Alike (l'.connect c).2 := by
  unfold Loopback.connect
  rw [h.reachable, h.session, h.backlog, h.count]
  split
  · refine ⟨rfl, rfl, rfl, by simp [h.count], ?_⟩
    simp only [List.getElem?_append, h.first, h.count]
  · exact h

theorem accept (h : l.Alike l') (wait : Duration) (turnout : Turnout) :
    (l.accept wait turnout).1 = (l'.accept wait turnout).1 ∧
      (l.accept wait turnout).2.Alike (l'.accept wait turnout).2 := by
  have hcaller : l.caller turnout = l'.caller turnout := by
    cases turnout <;> simp [caller, h.backlog]
  unfold Loopback.accept
  rw [hcaller, h.session, h.backlog]
  dsimp only
  split
  · exact ⟨rfl, (h.with_session _ _).hangUp _⟩
  · exact ⟨rfl, h.with_session _ _⟩

theorem read (h : l.Alike l') (hs : l.Sound) :
    l.read.1 = l'.read.1 ∧ l.read.2.1 = l'.read.2.1 ∧ l.read.2.2.Alike l'.read.2.2 := by
  unfold Loopback.read
  rw [← h.session, h.backlog]
  rcases hc : l.session.connection with _ | c
  · exact ⟨rfl, rfl, h.with_session _ _⟩
  · have harr : l.arrived c.client = l'.arrived c.client := by
      rw [(hs.connected c hc).1, h.arrived]
    dsimp only
    rw [← harr]
    exact ⟨rfl, rfl, (h.with_session _ _).modifyClient _ _⟩

theorem send (h : l.Alike l') (m : Message) (wait : Duration) (carrier : Carrier) :
    (l.send m wait carrier).1 = (l'.send m wait carrier).1 ∧
      (l.send m wait carrier).2.Alike (l'.send m wait carrier).2 := by
  unfold Loopback.send
  rw [← h.session, h.backlog]
  rcases l.session.connection with _ | c
  · exact ⟨rfl, h.with_session _ _⟩
  · exact ⟨rfl, (h.with_session _ _).modifyClient _ _⟩

theorem close (h : l.Alike l') : l.close.Alike l'.close := by
  unfold Loopback.close
  rw [h.session, h.backlog]
  exact (h.with_session _ _).hangUp _

theorem after (h : l.Alike l') (hs : l.Sound) (e : NetworkEvent) :
    l.answer? e = l'.answer? e ∧ (l.after e).Alike (l'.after e) := by
  cases e with
  | connects name framed => exact ⟨rfl, h.connect _⟩
  | acts n action =>
    refine ⟨rfl, ?_⟩
    rw [Loopback.after, Loopback.after, clientActs_snd, clientActs_snd]
    exact h.modifyClient n _
  | accept wait turnout =>
    obtain ⟨hresult, halike⟩ := h.accept wait turnout
    exact ⟨by rw [answer?, answer?, hresult], halike⟩
  | read =>
    obtain ⟨hmessages, hresult, halike⟩ := h.read hs
    exact ⟨by rw [answer?, answer?, hmessages, hresult], halike⟩
  | send m wait carrier =>
    obtain ⟨hresult, halike⟩ := h.send m wait carrier
    exact ⟨by rw [answer?, answer?, hresult], halike⟩
  | close => exact ⟨rfl, h.close⟩

end Alike

theorem after_byOther (l : Loopback) {e : NetworkEvent} (he : e.byOther = true) :
    l.answer? e = none ∧ l.Alike (l.after e) := by
  cases e with
  | acts n action =>
    refine ⟨rfl, ?_⟩
    rw [after, clientActs_snd]
    exact Alike.modify_other l (by simpa [NetworkEvent.byOther] using he) _
  | _ => simp [NetworkEvent.byOther] at he

theorem answers_filter (h : l.Alike l') (hs : l.Sound) (es : List NetworkEvent) :
    l.answers es = l'.answers (es.filter (!·.byOther)) := by
  induction es generalizing l l' with
  | nil => rfl
  | cons e es ih =>
    by_cases he : e.byOther = true
    · obtain ⟨hnone, halike⟩ := l.after_byOther he
      have hrest := ih (halike.symm.trans h) (hs.after e)
      simp [answers, hnone, he, hrest]
    · obtain ⟨hanswer, halike⟩ := h.after hs e
      have hrest := ih halike (hs.after e)
      simp [answers, hanswer, he, hrest]

/-- Whatever clients and host have done, the session and the connection are not open to both, the
client of the connection is the first, and what the others do changes no answer. -/
theorem run_singleClient (reachable : Bool) (port : UInt16) (es : List NetworkEvent) :
    let start := fresh reachable port
    let l := start.run es
    ¬ (l.session.listening = true ∧ l.session.isConnected = true) ∧
    (∀ wait turnout w, (l.accept wait turnout).1 = .error (.acceptTimeout w) →
      w = wait ∧ (l.accept wait turnout).2 = l ∧ l.session.listening = true) ∧
    (∀ c, l.session.connection = some c → c.client = 0 ∧ l.clients ≠ []) ∧
    (∀ wait, l.session.listening = true → l.clients ≠ [] → (l.accept wait .first).1 = .ok 0) ∧
    (∀ wait turnout n, (l.accept wait turnout).1 = .ok n →
      n = 0 ∧ l.clients ≠ [] ∧ (l.accept wait turnout).2.session.listening = false) ∧
    l.close.session.listening = false ∧
    (l.session.listening = false → ∀ later client, (l.run later).session.listening = false ∧
      (l.run later).connect client = (none, l.run later)) ∧
    (∀ later, (l.close.run later).session.connection = none) ∧
    ∀ es', es'.filter (!·.byOther) = es.filter (!·.byOther) →
      start.answers es' = start.answers es := by
  intro start l
  have hs : l.Sound := sound_run reachable port es
  have hclosed : l.close.session = l.session.close := session_hangUp ..
  have hdeaf : l.close.session.listening = false := by
    rw [hclosed, Session.close]
  have hgone : l.close.session.connection = none := by
    rw [hclosed, Session.close]
  refine ⟨hs.not_both, fun _ _ _ ho => accept_timeout ho, hs.connected,
    fun wait hl hc => hs.accept_first hl hc wait, fun _ _ _ ho => hs.accept_ok ho, hdeaf,
    fun hl later client => ?_, run_not_connected hdeaf hgone, fun es' hes => ?_⟩
  · have hlater := run_not_listening hl later
    exact ⟨hlater, connect_of_not_listening hlater client⟩
  · have hfresh := sound_fresh reachable port
    rw [answers_filter (.refl start) hfresh es', answers_filter (.refl start) hfresh es, hes]

/-- A run in which nobody comes in time, then the first of two clients is taken and the second, which
has left by then, is not heard. -/
theorem run_singleClient_two :
    let start := fresh true 9
    let before : List NetworkEvent := [.connects "first" false, .connects "second" false]
    let l := start.run before
    let after : List NetworkEvent :=
      [.accept ⟨1⟩ .first, .acts 0 (.send [7]), .read, .accept ⟨1⟩ .nobody]
    let t := l.run after
    (l.accept ⟨5⟩ .nobody).2 = l ∧ (l.accept ⟨1⟩ .first).1 = .ok 0 ∧
      (t.accept ⟨1⟩ .nobody).1 = .ok 0 ∧ (t.accept ⟨1⟩ .nobody).2.session.listening = false ∧
      t.connect {} = (none, t) ∧
      start.answers (before ++ [.acts 1 (.send [0]), .acts 1 .leave] ++ after) =
        start.answers (before ++ after) := by
  intro start before l after t
  obtain ⟨-, htimeout, -, hfirst, -⟩ := run_singleClient true 9 before
  obtain ⟨-, -, -, -, haccept, -, hdeaf, -, hothers⟩ := run_singleClient true 9 (before ++ after)
  have hpeer : (t.accept ⟨1⟩ .nobody).1 = .ok 0 := rfl
  have hlistening : l.session.listening = true := rfl
  have hclients : l.clients ≠ [] := by decide +kernel
  exact ⟨(htimeout ⟨5⟩ .nobody ⟨5⟩ rfl).2.1, hfirst ⟨1⟩ hlistening hclients, hpeer,
    (haccept ⟨1⟩ .nobody 0 hpeer).2.2, (hdeaf rfl [] {}).2, hothers _ rfl⟩

end Loopback
end ViewerBridge
