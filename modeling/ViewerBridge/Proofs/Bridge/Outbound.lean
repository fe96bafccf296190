import ViewerBridge.Proofs.Bridge.Invariant
import ViewerBridge.Proofs.Connection.Reception
import ViewerBridge.Proofs.Wire.Stream
/-!
# What a bridge writes

Every send writes one whole frame until one fails; that one may leave a part of its frame, and it is
the last. A viewer that polls for frames is therefore given the messages that were sent, in order.
-/
namespace ViewerBridge

namespace Session

def Clean (s : Session) : Prop :=
  ∀ c, s.connection = some c → c.composer = {} ∧ c.unsent = []

theorem clean_taking (s : Session) (client : Nat) : (s.taking client).Clean := by
  intro c hc
  cases hc
  exact ⟨rfl, rfl⟩

theorem clean_flushed (s : Session) : s.flushed.Clean := by
  intro c hc
  obtain ⟨c', -, rfl⟩ := Option.map_eq_some_iff.mp hc
  exact ⟨rfl, rfl⟩

theorem outgoing_of_clean {s : Session} (h : s.Clean) (hc : s.isConnected = true) (m : Message) :
    s.outgoing m = m.frame := by
  unfold outgoing
  cases hs : s.connection with
  | none =>
    rw [isConnected, hs] at hc
    cases hc
  | some c =>
    obtain ⟨hcomposer, hunsent⟩ := h c hs
    dsimp only
    rw [hcomposer, hunsent, Composer.encode_empty]
    rfl

end Session

namespace Situation

/-- What has passed over the connection so far is whole frames; the last send may have failed and
left a part of one, and then there is no connection any more. -/
inductive Flow (s : Situation) : Prop where
  | whole (done : List Message) (sends : s.sends = done.map (·, .ok ()))
    (written : s.written = done.flatMap Message.frame)
    (clean : ∀ session, s.bridge.session = some session → session.Clean)
  | cut (done : List Message) (m : Message) (e : SessionError) (part : List UInt8)
    (sends : s.sends = done.map (·, .ok ()) ++ [(m, .error e)])
    (written : s.written = done.flatMap Message.frame ++ part) (prefixed : part <+: m.frame)
    (terminated : s.bridge.state = .terminated) (closed : s.bridge.session = none)

theorem flow_idle (config : Config) : (idle config).Flow :=
  .whole [] rfl rfl fun _ h => nomatch h

theorem Flow.of_same {s t : Situation} (h : s.Flow) (hx : t.sends = s.sends)
    (hw : t.written = s.written)
    (hu : ∀ session, t.bridge.session = some session →
      ∃ earlier, s.bridge.session = some earlier ∧ (earlier.Clean → session.Clean))
    (ht : s.bridge.state = .terminated → t.bridge.state = .terminated) : t.Flow := by
  cases h with
  | whole done sends written clean =>
    refine .whole done (hx.trans sends) (hw.trans written) fun session hs => ?_
    obtain ⟨earlier, he, hkeep⟩ := hu session hs
    exact hkeep (clean earlier he)
  | cut done m e part sends written prefixed terminated closed =>
    refine .cut done m e part (hx.trans sends) (hw.trans written) prefixed (ht terminated) ?_
    refine Option.eq_none_iff_forall_ne_some.mpr fun session hs => ?_
    obtain ⟨earlier, he, -⟩ := hu session hs
    rw [closed] at he
    cases he

theorem Flow.teardown {s t : Situation} (h : s.Flow) (hx : t.sends = s.sends)
    (hw : t.written = s.written) : t.teardown.Flow :=
  h.of_same hx hw (fun _ hs => nomatch hs) fun _ => rfl

theorem flow_start {s : Situation} (h : s.Flow) (o : Opening) : (s.start o).2.Flow := by
  rcases start_cases s o with ⟨-, ho⟩ | ⟨hs, ⟨e, session, viewer, processes, ho⟩ |
    ⟨port, client, processes, ho⟩⟩ <;> rw [ho]
  · exact h
  · exact h.teardown rfl rfl
  · cases h with
    | whole done sends written clean =>
      refine .whole done sends written fun session hs => ?_
      cases hs
      exact Session.clean_taking _ client
    | cut done m e part sends written prefixed terminated closed =>
      rw [hs] at terminated
      cases terminated

theorem flow_send {s : Situation} (hs : s.Sound) (h : s.Flow) (m : Message) (carrier : Carrier) :
    (s.send m carrier).2.Flow := by
  rcases send_cases s m carrier with ⟨-, ho⟩ | ⟨session, hsession, ho⟩
  · rw [ho]
    exact h
  · cases h with
    | cut done m e part sends written prefixed terminated closed =>
      rw [closed] at hsession
      cases hsession
    | whole done sends written clean =>
      have hsends : ∀ outcome, (s.exchanges ++ [Exchange.sent m outcome]).filterMap Exchange.sent?
          = done.map (·, .ok ()) ++ [(m, outcome)] := by
        intro outcome
        rw [List.filterMap_append, ← sends]
        rfl
      have hc := (hs.connection_of_session hsession).1
      rw [Session.outgoing_of_clean (clean session hsession) hc] at ho
      rcases ho with ⟨-, ho⟩ | ⟨e, bytes, hb, ho⟩ <;> rw [ho]
      · refine .whole (done ++ [m]) ?_ ?_ ?_
        · rw [List.map_append]
          exact hsends (.ok ())
        · rw [List.flatMap_append, List.flatMap_singleton, ← written]
        · intro session' hs'
          cases hs'
          exact Session.clean_flushed session
      · exact .cut done m e bytes (hsends (.error e)) (by rw [← written]; rfl) hb rfl rfl

theorem flow_read {s : Situation} (h : s.Flow) (more : Inbound) (pending : Pending) :
    (((s.receive more).2.2.withPending pending).settle (s.receive more).2.1).Flow := by
  have hsends : ∀ ms outcome, (s.exchanges ++ [Exchange.read ms outcome]).filterMap Exchange.sent?
      = s.sends := by
    intro ms outcome
    rw [List.filterMap_append]
    exact List.append_nil _
  rcases receive_cases s more with ⟨-, ho⟩ | ⟨session, hs, ⟨c, ms, reader, rest, hc, ho⟩ |
    ⟨e, ms, session', rest, he, ho⟩⟩ <;> rw [ho]
  · exact h.of_same rfl rfl (fun session hs => ⟨session, hs, id⟩) id
  · refine h.of_same (hsends ms _) rfl (fun session' hs' => ?_) id
    cases hs'
    refine ⟨session, hs, fun hclean c' hc' => ?_⟩
    cases hc'
    exact hclean c hc
  · rw [settle, afterError, if_pos he]
    exact h.teardown (hsends ms _) rfl

theorem flow_step {kinds : List Kind} {s t : Situation} (hs : s.Sound) (h : s.Flow)
    (hst : Step kinds s t) : t.Flow := by
  have hsame : ∀ session, s.bridge.session = some session →
      ∃ earlier, s.bridge.session = some earlier ∧ (earlier.Clean → session.Clean) :=
    fun session hs => ⟨session, hs, id⟩
  cases hst with
  | start o => exact flow_start h o
  | teardown viewer => exact h.teardown rfl rfl
  | send m carrier => exact flow_send hs h m carrier
  | drain more =>
    rw [drain_eq]
    exact flow_read h more _
  | take => exact h.of_same rfl rfl hsame id
  | arrives more =>
    unfold arrives
    split
    · exact h.of_same rfl rfl hsame id
    · exact h
  | viewerExits =>
    unfold viewerExits
    split
    · exact h.of_same rfl rfl hsame id
    · exact h
  | polls answered =>
    unfold polls
    split
    · exact h.of_same rfl rfl hsame id
    · exact h

theorem flow_steps {kinds : List Kind} {s t : Situation} (hs : s.Sound) (h : s.Flow)
    (hst : Steps kinds s t) : t.Flow := by
  induction hst with
  | refl => exact h
  | tail before hst ih => exact flow_step (sound_steps hs before).1 ih hst

theorem flow_run (config : Config) (es : List BridgeEvent) : ((idle config).run es).Flow :=
  flow_steps (sound_idle config) (flow_idle config) (steps_run _ es)

theorem after_of_terminated {s : Situation} (h : s.Sound) (ht : s.bridge.state = .terminated)
    (e : BridgeEvent) : s.after e = s := by
  have hr : s.Refuses := refuses_of_not_ready (by rw [ht]; decide)
  obtain ⟨hsession, hchild, -⟩ := h.terminated ht
  cases e with
  | start o => rw [after, hr.start o ht]
  | stop => exact hr.stop ht
  | isReady => rw [after, hr.isReady]
  | observedSymbols carrier waits => rw [after, hr.observedSymbols carrier waits]
  | setAvailableSymbols symbols carrier => rw [after, hr.setAvailableSymbols symbols carrier]
  | plot buffer carrier =>
    rw [after, hr.plot buffer carrier]
    split <;> rfl
  | takePlotRequests more => rw [after, hr.takePlotRequests more]
  | runEventLoop more => rw [after, hr.runEventLoop more]
  | arrives more =>
    rw [after, arrives, hsession]
    rfl
  | knocks => rfl
  | viewerExits => rw [after, viewerExits, hchild]
  | polls answered => rw [after, polls, hchild]

theorem run_of_terminated {s : Situation} (h : s.Sound) (ht : s.bridge.state = .terminated)
    (es : List BridgeEvent) : s.run es = s := by
  induction es with
  | nil => rfl
  | cons e es ih => rw [run_cons, after_of_terminated h ht, ih]

def delivered (s : Situation) : List Message :=
  s.sends.filterMap fun
    | (m, .ok ()) => some m
    | (_, .error _) => none

theorem delivered_whole {s : Situation} {done : List Message}
    (h : s.sends = done.map (·, .ok ())) : s.delivered = done := by
  rw [delivered, h, List.filterMap_map]
  exact List.filterMap_some

theorem delivered_cut {s : Situation} {done : List Message} {m : Message} {e : SessionError}
    (h : s.sends = done.map (·, .ok ()) ++ [(m, .error e)]) : s.delivered = done := by
  rw [delivered, h, List.filterMap_append, List.filterMap_map]
  exact (List.append_nil _).trans List.filterMap_some

theorem written_isReady (s : Situation) : s.isReady.2.written = s.written := by
  unfold isReady
  split
  · rfl
  · split
    · split <;> rfl
    · rfl

theorem written_of_refused {s : Situation} (h : s.isReady.1 = false) (e : BridgeEvent) :
    (s.after e).written = s.written := by
  have hw := written_isReady s
  rcases hr : s.isReady with ⟨_ | _, t⟩ <;> rw [hr] at h hw
  · cases e with
    | start o =>
      rw [after]
      rcases start_cases s o with ⟨-, ho⟩ | ⟨-, ⟨_, _, _, _, ho⟩ | ⟨_, _, _, ho⟩⟩ <;> rw [ho]
      rfl
    | stop =>
      rw [after, stop]
      split <;> rfl
    | isReady => rw [after, hr, hw]
    | observedSymbols carrier waits => rw [after, observedSymbols, fetch, hr, hw]
    | setAvailableSymbols symbols carrier => rw [after, setAvailableSymbols, push, hr, hw]
    | plot buffer carrier =>
      rw [after, plot]
      split
      · rfl
      · rw [push, hr, hw]
    | takePlotRequests more => rw [after, takePlotRequests, hr, hw]
    | runEventLoop more => rw [after, runEventLoop, takePlotRequests, hr, hw]
    | arrives more =>
      rw [after, arrives]
      split <;> rfl
    | knocks => rfl
    | viewerExits =>
      rw [after, viewerExits]
      split <;> rfl
    | polls answered =>
      rw [after, polls]
      split <;> rfl
  · cases h

theorem written_of_push {s : Situation} {m : Message} {carrier : Carrier} {e : BridgeError}
    (h : (s.push m carrier).1 = .error e) (he : ∀ cause, e ≠ .session cause) :
    e = .notReady s.isReady.2.bridge.state ∧ (s.push m carrier).2.written = s.written := by
  rcases push_cases s m carrier with ⟨-, hr⟩ | ⟨-, hr⟩ <;> rw [hr] at h ⊢
  · cases h
    exact ⟨rfl, written_isReady s⟩
  · rcases send_cases s m carrier with ⟨-, ho⟩ | ⟨_, -, ⟨-, ho⟩ | ⟨_, _, -, ho⟩⟩ <;>
      rw [ho] at h <;> cases h <;> exact absurd rfl (he _)

theorem Flow.written_eq {s : Situation} (h : s.Flow) :
    ∃ part, s.written = s.delivered.flatMap Message.frame ++ part ∧
      (part ≠ [] → ∃ m e, s.sends.getLast? = some (m, .error e) ∧ part <+: m.frame) := by
  cases h with
  | whole done sends written clean =>
    refine ⟨[], ?_, fun h => absurd rfl h⟩
    rw [delivered_whole sends, written, List.append_nil]
  | cut done m e part sends written prefixed terminated closed =>
    refine ⟨part, ?_, fun _ => ⟨m, e, ?_, prefixed⟩⟩
    · rw [delivered_cut sends, written]
    · rw [sends, List.getLast?_concat]

theorem Sound.terminated_of_sends {s : Situation} (h : s.Sound) {m : Message} {e : SessionError}
    (hm : (m, .error e) ∈ s.sends) : s.bridge.state = .terminated := by
  obtain ⟨x, hx, hs⟩ := List.mem_filterMap.mp hm
  refine h.failures x hx ?_
  cases x with
  | sent m' outcome =>
    cases hs
    rfl
  | read ms outcome => cases hs

/-- A client that hears everything a bridge has written, in any pieces between its polls, is given
the messages that were sent before anything else. -/
theorem Flow.receptions {s : Situation} (h : s.Flow) (hfits : ∀ m ∈ s.delivered, m.Fits)
    {steps : List Reception} (hsteps : Reception.arriving false steps = s.written) {n : Nat}
    (hn : s.delivered.length ≤ n) :
    s.delivered.map .message <+: Client.answers
      (({ framed := true } : Client).receptions (steps ++ List.replicate n .receives)).1 := by
  obtain ⟨part, hpart, -⟩ := h.written_eq
  have hc : ({ framed := true } : Client).coming steps = (Frames.drain s.written).1 := by
    rw [← hsteps]
    rfl
  refine Client.receptions_stream rfl FrameReader.sound_new ?_ hn
  rw [hc, hpart, Frames.drain_frames_append hfits]
  exact List.prefix_append ..

/-- In every run a bridge writes the frames of the messages that it sends, one after another, and
after them at most a part of one whose send failed, which is the end of all writing. A refused call
writes nothing. A viewer that polls often enough is given all those messages first, in whatever
pieces the bytes come. -/
theorem run_outbound (config : Config) (es : List BridgeEvent) :
    let s := (idle config).run es
    (∃ part, s.written = s.delivered.flatMap Message.frame ++ part ∧
        (part ≠ [] → ∃ m e, s.sends.getLast? = some (m, .error e) ∧ part <+: m.frame)) ∧
      (∀ m e, (m, .error e) ∈ s.sends →
        s.bridge.state = .terminated ∧ ∀ later, s.run later = s) ∧
      (∀ buffer carrier e, (s.plot buffer carrier).1 = .error (.buffer e) →
        (s.plot buffer carrier).2 = s) ∧
      (∀ buffer carrier state, (s.plot buffer carrier).1 = .error (.notReady state) →
        (s.plot buffer carrier).2.written = s.written) ∧
      (∀ symbols carrier state, (s.setAvailableSymbols symbols carrier).1 = .error (.notReady state) →
        (s.setAvailableSymbols symbols carrier).2.written = s.written) ∧
      (s.isReady.1 = false → ∀ e, (s.after e).written = s.written) ∧
      ((∀ m ∈ s.delivered, m.Fits) → ∀ (steps : List Reception) (n : Nat),
        Reception.arriving false steps = s.written → s.delivered.length ≤ n →
        s.delivered.map .message <+: Client.answers
          (({ framed := true } : Client).receptions (steps ++ List.replicate n .receives)).1) := by
  intro s
  have hsound : s.Sound := sound_run config es
  have hflow : s.Flow := flow_run config es
  refine ⟨hflow.written_eq, ?_, ?_, ?_, ?_, written_of_refused, ?_⟩
  · intro m e hm
    have ht := hsound.terminated_of_sends hm
    exact ⟨ht, run_of_terminated hsound ht⟩
  · intro buffer carrier e he
    rcases hb : buffer.validate with e' | _ <;> rw [plot, hb] at he ⊢
    cases (written_of_push he fun _ h => by cases h).1
  · intro buffer carrier state he
    rcases hb : buffer.validate with e' | _ <;> rw [plot, hb] at he ⊢
    exact (written_of_push he fun _ h => by cases h).2
  · exact fun symbols carrier state he => (written_of_push he fun _ h => by cases h).2
  · exact fun hfits steps n hsteps hn => hflow.receptions hfits hsteps hn

/-- A run in which a buffer gets stuck after five bytes. The viewer, which hears one byte at a time,
is given the symbols that were sent before. -/
theorem run_outbound_stalled :
    let o : Opening :=
      { spawner := fun _ => .ok (), port := .ok 9, attempts := fun _ => { outcome := .connected 0 } }
    let b : Buffer := ⟨"b", "b", "rgba", false, ⟨1, 1, 1, 1, .unsignedByte⟩, [7]⟩
    let s := (idle {}).run [.start o, .setAvailableSymbols ["a"] fun _ => .complete,
      .plot b fun _ => .stalled 5]
    let steps := s.written.map fun b => Reception.hears { bytes := [b] }
    s.delivered = [.availableSymbols ["a"]] ∧ s.bridge.state = .terminated ∧
      (∀ m ∈ s.delivered, m.Fits) ∧ Reception.arriving false steps = s.written ∧
      s.delivered.map .message <+: Client.answers
        (({ framed := true } : Client).receptions (steps ++ List.replicate 1 .receives)).1 := by
  intro o b s steps
  have hd : s.delivered = [.availableSymbols ["a"]] := by decide +kernel
  have hf : ∀ m ∈ s.delivered, m.Fits := by decide +kernel
  have hs : Reception.arriving false steps = s.written := by decide +kernel
  have hl : s.delivered.length ≤ 1 := by rw [hd]; decide
  exact ⟨hd, by decide +kernel, hf, hs, (run_outbound {} _).2.2.2.2.2.2 hf steps 1 hs hl⟩

end Situation
end ViewerBridge
