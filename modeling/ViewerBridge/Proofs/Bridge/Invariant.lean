import ViewerBridge.Proofs.Bridge.Steps
/-!
# What holds of every bridge

Between operations the state of a bridge says which of its parts there are: a session, a process
that is held, pending messages. Each step keeps that, for each either leaves the parts alone or ends
in a teardown.
-/
namespace ViewerBridge

/-- How the state of a bridge may change between one operation and another. -/
inductive BridgeState.Leads : BridgeState → BridgeState → Prop where
  | stays (state : BridgeState) : Leads state state
  | starts : Leads .uninitialized .ready
  | fails : Leads .uninitialized .terminated
  | ends : Leads .ready .terminated

theorem BridgeState.Leads.trans {a b c : BridgeState} (h : Leads a b) (h' : Leads b c) :
    Leads a c := by
  cases h with
  | stays => exact h'
  | starts =>
    cases h' with
    | stays => exact .starts
    | ends => exact .fails
  | fails =>
    cases h'
    exact .fails
  | ends =>
    cases h'
    exact .ends

theorem BridgeState.Leads.of_terminated {a : BridgeState} (h : Leads .terminated a) :
    a = .terminated := by
  cases h
  rfl

theorem BridgeState.Leads.to_uninitialized {a : BridgeState} (h : Leads a .uninitialized) :
    a = .uninitialized := by
  cases h
  rfl

theorem BridgeState.leads_terminated {a : BridgeState} (h : a ≠ .starting) :
    Leads a .terminated := by
  cases a with
  | uninitialized => exact .fails
  | starting => exact absurd rfl h
  | ready => exact .ends
  | terminated => exact .stays _

theorem Pending.eq_empty {p : Pending} (h : p.messages = []) : p = .empty := by
  cases p
  cases h
  rfl

namespace Situation

/-- What holds of a bridge between operations. -/
structure Sound (s : Situation) : Prop where
  uninitialized : s.bridge.state = .uninitialized →
    s.bridge.session = none ∧ s.bridge.viewer.state = .notStarted ∧
      s.bridge.viewer.child = none ∧ s.bridge.pending = .empty
  ready : s.bridge.state = .ready →
    (∃ session, s.bridge.session = some session ∧
      session.isConnected = true ∧ session.listening = false) ∧
      s.bridge.viewer.child.isSome = true ∧ s.bridge.viewer.state = .running
  terminated : s.bridge.state = .terminated →
    s.bridge.session = none ∧ s.bridge.viewer.child = none ∧ s.bridge.pending = .empty ∧
      (s.bridge.viewer.state = .notStarted ∨ s.bridge.viewer.state = .exited)
  settled : s.bridge.state ≠ .starting
  /-- Only messages from the viewer are pending. -/
  filed : ∀ m ∈ s.bridge.pending.messages, m.kind.fromViewer = true
  /-- A bridge whose connection has failed is terminated. -/
  failures : ∀ x ∈ s.exchanges, x.failed = true → s.bridge.state = .terminated

theorem sound_idle (config : Config) : (idle config).Sound where
  uninitialized _ := ⟨rfl, rfl, rfl, rfl⟩
  ready h := nomatch h
  terminated h := nomatch h
  settled h := nomatch h
  filed _ h := nomatch h
  failures _ h := nomatch h

theorem sound_teardown (s : Situation) : s.teardown.Sound where
  uninitialized h := nomatch h
  ready h := nomatch h
  terminated _ := by
    refine ⟨rfl, ?_, rfl, ?_⟩
    · unfold teardown ViewerProcess.shutdown
      rcases s.bridge.viewer.child with _ | child <;> rfl
    · unfold teardown ViewerProcess.shutdown
      by_cases hs : s.bridge.viewer.state = .notStarted <;>
        rcases s.bridge.viewer.child with _ | child <;> simp [hs]
  settled h := nomatch h
  filed _ h := nomatch h
  failures _ _ _ := rfl

theorem sound_of_ready {s : Situation} (hs : s.bridge.state = .ready)
    (hc : ∃ session, s.bridge.session = some session ∧
      session.isConnected = true ∧ session.listening = false)
    (hv : s.bridge.viewer.child.isSome = true ∧ s.bridge.viewer.state = .running)
    (hp : ∀ m ∈ s.bridge.pending.messages, m.kind.fromViewer = true)
    (he : ∀ x ∈ s.exchanges, x.failed = false) : s.Sound where
  uninitialized h := by rw [hs] at h; cases h
  ready _ := ⟨hc, hv⟩
  terminated h := by rw [hs] at h; cases h
  settled h := by rw [hs] at h; cases h
  filed := hp
  failures x hx h := by rw [he x hx] at h; cases h

namespace Sound

variable {s : Situation}

theorem ready_of_session (h : s.Sound) {session : Session} (hs : s.bridge.session = some session) :
    s.bridge.state = .ready := by
  cases hb : s.bridge.state with
  | uninitialized => rw [(h.uninitialized hb).1] at hs; cases hs
  | starting => exact absurd hb h.settled
  | ready => rfl
  | terminated => rw [(h.terminated hb).1] at hs; cases hs

theorem connection_of_session (h : s.Sound) {session : Session}
    (hs : s.bridge.session = some session) :
    session.isConnected = true ∧ session.listening = false := by
  obtain ⟨⟨session', hs', hc⟩, -⟩ := h.ready (h.ready_of_session hs)
  rw [hs] at hs'
  cases hs'
  exact hc

theorem no_failures (h : s.Sound) (hs : s.bridge.state ≠ .terminated) :
    ∀ x ∈ s.exchanges, x.failed = false := by
  intro x hx
  cases hf : x.failed with
  | false => rfl
  | true => exact absurd (h.failures x hx hf) hs

theorem no_failures_append (h : s.Sound) (hs : s.bridge.state = .ready) {x : Exchange}
    (hx : x.failed = false) : ∀ y ∈ s.exchanges ++ [x], y.failed = false := by
  intro y hy
  rcases List.mem_append.mp hy with hy | hy
  · exact h.no_failures (by rw [hs]; decide) y hy
  · rw [List.mem_singleton.mp hy, hx]

theorem pending_of_no_session (h : s.Sound) (hs : s.bridge.session = none) :
    s.bridge.pending = .empty := by
  cases hb : s.bridge.state with
  | uninitialized => exact (h.uninitialized hb).2.2.2
  | starting => exact absurd hb h.settled
  | ready =>
    obtain ⟨⟨session, hs', -⟩, -⟩ := h.ready hb
    rw [hs] at hs'
    cases hs'
  | terminated => exact (h.terminated hb).2.2.1

theorem withPending (h : s.Sound) {pending : Pending} {ms : List Message}
    (hw : pending.Within s.bridge.pending ms) (hn : s.bridge.session = none → ms = []) :
    (s.withPending pending).Sound := by
  have hp : ∀ m ∈ pending.messages, m.kind.fromViewer = true := by
    intro m hm
    rcases hw m hm with hm | ⟨-, hv⟩
    · exact h.filed m hm
    · exact hv
  have hempty : s.bridge.session = none → pending = .empty := by
    intro hs
    refine Pending.eq_empty (List.eq_nil_iff_forall_not_mem.mpr fun m hm => ?_)
    rcases hw m hm with hm | ⟨hm, -⟩
    · rw [h.pending_of_no_session hs] at hm
      cases hm
    · rw [hn hs] at hm
      cases hm
  exact {
    uninitialized := fun hb =>
      have ⟨hs, hv, hc, _⟩ := h.uninitialized hb
      ⟨hs, hv, hc, hempty hs⟩
    ready := h.ready
    terminated := fun hb =>
      have ⟨hs, hc, _, hv⟩ := h.terminated hb
      ⟨hs, hc, hempty hs, hv⟩
    settled := h.settled
    filed := hp
    failures := h.failures }

end Sound

theorem sound_start {s : Situation} (h : s.Sound) (o : Opening) : (s.start o).2.Sound := by
  rcases start_cases s o with ⟨-, ho⟩ | ⟨hs, ⟨e, session, viewer, processes, ho⟩ |
    ⟨port, client, processes, ho⟩⟩ <;> rw [ho]
  · exact h
  · exact sound_teardown _
  · refine sound_of_ready rfl ⟨_, rfl, rfl, rfl⟩ ⟨rfl, rfl⟩ h.filed ?_
    exact h.no_failures (by rw [hs]; decide)

theorem sound_send {s : Situation} (h : s.Sound) (m : Message) (carrier : Carrier) :
    (s.send m carrier).2.Sound := by
  rcases send_cases s m carrier with ⟨-, ho⟩ | ⟨session, hs, ⟨hc, ho⟩ | ⟨e, bytes, -, ho⟩⟩ <;>
    rw [ho]
  · exact h
  · have hr := h.ready_of_session hs
    refine sound_of_ready hr ⟨_, rfl, ?_, (h.connection_of_session hs).2⟩ (h.ready hr).2 h.filed
      (h.no_failures_append hr rfl)
    rw [Session.isConnected_flushed, hc]
  · exact sound_teardown _

theorem sound_read {s : Situation} (h : s.Sound) (more : Inbound) {pending : Pending}
    (hw : pending.Within s.bridge.pending (s.receive more).1) :
    (((s.receive more).2.2.withPending pending).settle (s.receive more).2.1).Sound := by
  rcases receive_cases s more with ⟨hn, ho⟩ | ⟨session, hs, ⟨c, ms, reader, rest, -, ho⟩ |
    ⟨e, ms, session', rest, he, ho⟩⟩ <;> rw [ho] at hw ⊢
  · exact h.withPending hw fun _ => rfl
  · have hr := h.ready_of_session hs
    refine Sound.withPending ?_ hw fun hn => nomatch hn
    exact sound_of_ready hr ⟨_, rfl, rfl, (h.connection_of_session hs).2⟩ (h.ready hr).2 h.filed
      (h.no_failures_append hr rfl)
  · rw [settle, afterError, if_pos he]
    exact sound_teardown _

variable {kinds : List Kind}

theorem sound_step {s t : Situation} (h : s.Sound) (hst : Step kinds s t) : t.Sound := by
  cases hst with
  | start o => exact sound_start h o
  | teardown viewer => exact sound_teardown _
  | send m carrier => exact sound_send h m carrier
  | drain more =>
    rw [drain_eq]
    exact sound_read h more (within_foldl_file s.bridge.pending (s.receive more).1)
  | @take kind =>
    have hw : (s.bridge.pending.erase kind).Within s.bridge.pending [] :=
      fun m hm => .inl (Pending.mem_of_mem_erase hm)
    exact h.withPending hw fun _ => rfl
  | arrives more =>
    unfold arrives
    split
    · exact { h with }
    · exact h
  | viewerExits =>
    unfold viewerExits
    split
    · exact { h with }
    · exact h
  | polls answered =>
    unfold polls
    split
    · exact { h with }
    · exact h

theorem leads_step {s t : Situation} (h : s.Sound) (hst : Step kinds s t) :
    BridgeState.Leads s.bridge.state t.bridge.state := by
  cases hst with
  | start o =>
    rcases start_cases s o with ⟨-, ho⟩ | ⟨hs, ⟨e, session, viewer, processes, ho⟩ |
      ⟨port, client, processes, ho⟩⟩ <;> rw [ho]
    · exact .stays _
    · exact BridgeState.leads_terminated h.settled
    · rw [hs]
      exact .starts
  | teardown viewer => exact BridgeState.leads_terminated h.settled
  | send m carrier =>
    rcases send_cases s m carrier with ⟨-, ho⟩ | ⟨session, -, ⟨-, ho⟩ | ⟨e, bytes, -, ho⟩⟩ <;> rw [ho]
    · exact .stays _
    · exact .stays _
    · exact BridgeState.leads_terminated h.settled
  | drain more =>
    rw [drain_eq]
    rcases receive_cases s more with ⟨-, ho⟩ | ⟨session, -, ⟨c, ms, reader, rest, -, ho⟩ |
      ⟨e, ms, session', rest, he, ho⟩⟩ <;> rw [ho]
    · exact .stays _
    · exact .stays _
    · rw [settle, afterError, if_pos he]
      exact BridgeState.leads_terminated h.settled
  | take => exact .stays _
  | arrives more =>
    unfold arrives
    split <;> exact .stays _
  | viewerExits =>
    unfold viewerExits
    split <;> exact .stays _
  | polls answered =>
    unfold polls
    split <;> exact .stays _

theorem sound_steps {s t : Situation} (h : s.Sound) (hst : Steps kinds s t) :
    t.Sound ∧ BridgeState.Leads s.bridge.state t.bridge.state := by
  induction hst with
  | refl => exact ⟨h, .stays _⟩
  | tail _ hst ih =>
    obtain ⟨hs, hl⟩ := ih
    exact ⟨sound_step hs hst, hl.trans (leads_step hs hst)⟩

theorem Sound.terminated_of_not_ready {s : Situation} (hs : s.Sound) (hr : s.isReady.1 = false)
    (hu : s.bridge.state ≠ .uninitialized) : s.isReady.2.bridge.state = .terminated := by
  have hsteps : Steps [] s s.isReady.2 := steps_isReady s
  obtain ⟨hsound, hl⟩ := sound_steps hs hsteps
  rcases ready_or_not s with h | ⟨-, hn⟩
  · rw [h] at hr
    cases hr
  · cases ht : s.isReady.2.bridge.state with
    | uninitialized =>
      rw [ht] at hl
      exact absurd hl.to_uninitialized hu
    | starting => exact absurd ht hsound.settled
    | ready => exact absurd ht hn
    | terminated => rfl

theorem sound_run (config : Config) (es : List BridgeEvent) : ((idle config).run es).Sound :=
  (sound_steps (sound_idle config) (steps_run _ es)).1

/-- How a bridge answers when it is not ready: every operation gives nothing or an error, and leaves
it as it was. -/
structure Refuses (s : Situation) : Prop where
  isReady : s.isReady = (false, s)
  observedSymbols (carrier : Carrier) (waits : List Inbound) :
    s.observedSymbols carrier waits = ([], s)
  setAvailableSymbols (symbols : List String) (carrier : Carrier) :
    s.setAvailableSymbols symbols carrier = (.error (.notReady s.bridge.state), s)
  plot (buffer : Buffer) (carrier : Carrier) : s.plot buffer carrier =
    match buffer.validate with
    | .error e => (.error (.buffer e), s)
    | .ok () => (.error (.notReady s.bridge.state), s)
  takePlotRequests (more : Inbound) : s.takePlotRequests more = ([], s)
  runEventLoop (more : Inbound) : s.runEventLoop more = ((0, []), s)
  start (o : Opening) : s.bridge.state = .terminated → s.start o = (.error .alreadyStarted, s)
  stop : s.bridge.state = .terminated → s.stop = s

theorem refuses_of_not_ready {s : Situation} (h : s.bridge.state ≠ .ready) : s.Refuses := by
  have hr : s.isReady = (false, s) := by rw [isReady, if_pos h]
  have hp : ∀ m carrier, s.push m carrier = (.error (.notReady s.bridge.state), s) := by
    intro m carrier
    rw [push, hr]
  have ht : ∀ more, s.takePlotRequests more = ([], s) := by
    intro more
    rw [takePlotRequests, hr]
  refine ⟨hr, ?_, fun symbols carrier => hp _ carrier, ?_, ht, ?_, ?_, ?_⟩
  · intro carrier waits
    rw [observedSymbols, fetch, hr]
  · intro buffer carrier
    rcases hb : buffer.validate with e | _ <;> rw [plot, hb]
    exact hp _ carrier
  · intro more
    rw [runEventLoop, ht more]
    rfl
  · intro o hs
    rw [start, if_pos (by rw [hs]; decide)]
  · intro hs
    rw [stop, if_pos hs]

theorem terminated_of_push {s : Situation} (h : s.Sound) {m : Message} {carrier : Carrier}
    {e : SessionError} (he : (s.push m carrier).1 = .error (.session e)) :
    (s.push m carrier).2.bridge.state = .terminated := by
  rcases push_cases s m carrier with ⟨-, hr⟩ | ⟨hs, hr⟩ <;> rw [hr] at he ⊢
  · cases he
  · rcases send_cases s m carrier with ⟨hn, -⟩ | ⟨session, -, ⟨-, ho⟩ | ⟨e, bytes, -, ho⟩⟩
    · obtain ⟨⟨session, hs', -⟩, -⟩ := h.ready hs
      rw [hn] at hs'
      cases hs'
    · rw [ho] at he
      cases he
    · rw [ho]
      rfl

/-- In every run the parts of a bridge agree with its state between operations, whatever the viewer
and the network do. -/
theorem run_invariant (config : Config) (es : List BridgeEvent) :
    let s := (idle config).run es
    s.Sound ∧
      (∀ kind m, s.bridge.pending.find? kind = some m →
        m.kind = kind ∧ (kind = .symbolsAnswer ∨ kind = .plotRequest)) ∧
      (s.bridge.state = .terminated → s.bridge.port? = none) ∧
      (∀ e, BridgeState.Leads s.bridge.state (s.after e).bridge.state) ∧
      (∀ e, (∃ x ∈ (s.after e).exchanges, x.failed = true) →
        (s.after e).bridge.state = .terminated) ∧
      (∀ symbols carrier e, (s.setAvailableSymbols symbols carrier).1 = .error (.session e) →
        (s.setAvailableSymbols symbols carrier).2.bridge.state = .terminated) ∧
      (∀ buffer carrier e, (s.plot buffer carrier).1 = .error (.session e) →
        (s.plot buffer carrier).2.bridge.state = .terminated) ∧
      (s.bridge.state ≠ .ready → s.Refuses) := by
  intro s
  have h : s.Sound := sound_run config es
  refine ⟨h, ?_, ?_, ?_, ?_, ?_, ?_, refuses_of_not_ready⟩
  · intro kind m hm
    have hv := h.filed m (List.mem_of_find?_eq_some hm)
    rw [Pending.kind_of_find? hm] at hv
    refine ⟨Pending.kind_of_find? hm, ?_⟩
    cases kind <;> simp_all [Kind.fromViewer]
  · intro hs
    rw [Bridge.port?, (h.terminated hs).1]
    rfl
  · exact fun e => (sound_steps h (steps_after s e)).2
  · rintro e ⟨x, hx, hf⟩
    exact (sound_steps h (steps_after s e)).1.failures x hx hf
  · intro symbols carrier e he
    exact terminated_of_push h he
  · intro buffer carrier e he
    rcases hb : buffer.validate with _ | _ <;> rw [plot, hb] at he ⊢
    · cases he
    · exact terminated_of_push h he

end Situation
end ViewerBridge
