import ViewerBridge.Proofs.Boundary.Descriptions
import ViewerBridge.Proofs.Boundary.LastFailure
import ViewerBridge.Proofs.Bridge.Outbound
import ViewerBridge.Proofs.Bridge.Readiness
import ViewerBridge.Proofs.Buffer.Sending
/-!
# Plotting a buffer

A buffer with anything wrong in it is refused before the bridge is looked at, and leaves no trace but
the diagnostic. Any other is sent as one frame, which stands for every field that the host has given.
-/
namespace ViewerBridge

namespace Situation

def Up (s : Situation) : Prop :=
  s.bridge.state = .ready ∧ 0 < s.processes.living ∧ s.pollable = true

/-- What comes of sending a message of which so much is delivered: the result, and the situation after
it. -/
inductive Sending (s : Situation) (m : Message) (d : Delivery) :
    Except BridgeError Unit → Situation → Prop where
  /-- The viewer is gone or was never there, or nothing can be learnt of it. -/
  | refused {t : Situation} (down : ¬ s.Up) (written : t.written = s.written) :
    Sending s m d (.error (.notReady t.bridge.state)) t
  | sent {t : Situation} (up : s.Up) (delivered : d = .complete)
    (written : t.written = s.written ++ m.frame) : Sending s m d (.ok ()) t
  /-- The connection is lost within the frame. -/
  | cut {t : Situation} {e : SessionError} {part : List UInt8} (up : s.Up)
    (delivered : d ≠ .complete) (prefixed : part <+: m.frame)
    (written : t.written = s.written ++ part) (terminated : t.bridge.state = .terminated) :
    Sending s m d (.error (.session e)) t

variable {s : Situation}

theorem Sound.isReady_of_up (hs : s.Sound) (hc : s.Custody) (hup : s.Up) : s.isReady = (true, s) := by
  rcases ready_or_not s with h | ⟨h, -⟩
  · exact h
  · rw [(hs.isReady_iff hc).mpr hup] at h
    cases h

theorem send_eq_ok_iff {session : Session} (hsession : s.bridge.session = some session)
    (hconnected : session.isConnected = true) (m : Message) (carrier : Carrier) :
    (s.send m carrier).1 = .ok () ↔ carrier (session.outgoing m).length = .complete := by
  rcases hc : session.connection with _ | c
  · rw [Session.isConnected, hc] at hconnected
    cases hconnected
  · simp only [send, hsession, Session.send, Session.outgoing, hc]
    cases carrier (c.composer.encode m c.unsent).2.length <;> simp

theorem sending_send (hs : s.Sound) (hf : s.Flow) (hup : s.Up) (m : Message) (carrier : Carrier) :
    s.Sending m (carrier m.frame.length) (s.send m carrier).1 (s.send m carrier).2 := by
  obtain ⟨⟨session, hsession, hconnected, -⟩, -⟩ := hs.ready hup.1
  have hout : session.outgoing m = m.frame := by
    cases hf with
    | whole done sends written clean =>
      exact Session.outgoing_of_clean (clean session hsession) hconnected m
    | cut done m e part sends written prefixed terminated closed =>
      rw [closed] at hsession
      cases hsession
  have hok := send_eq_ok_iff hsession hconnected m carrier
  rw [hout] at hok
  rcases send_cases s m carrier with ⟨hnone, -⟩ | ⟨session', hsession', ⟨-, ho⟩ | ⟨e, part, hp, ho⟩⟩
  · rw [hsession] at hnone
    cases hnone
  · obtain rfl : session' = session := Option.some.inj (hsession'.symm.trans hsession)
    rw [ho] at hok ⊢
    exact .sent hup (hok.mp rfl) (by rw [hout])
  · obtain rfl : session' = session := Option.some.inj (hsession'.symm.trans hsession)
    rw [ho] at hok ⊢
    exact .cut hup (fun hd => nomatch hok.mpr hd) (hout ▸ hp) rfl rfl

theorem sending_push (hs : s.Sound) (hc : s.Custody) (hf : s.Flow) (m : Message)
    (carrier : Carrier) :
    s.Sending m (carrier m.frame.length) (s.push m carrier).1 (s.push m carrier).2 := by
  have hiff : s.isReady.1 = true ↔ s.Up := hs.isReady_iff hc
  rcases ready_or_not s with hr | ⟨hr, -⟩
  · have hpush : s.push m carrier = s.send m carrier := by rw [push, hr]
    rw [hpush]
    exact sending_send hs hf (hiff.mp (by rw [hr])) m carrier
  · have hdown : ¬ s.Up := fun hup => by
      rw [hiff.mpr hup] at hr
      cases hr
    have hwritten := written_isReady s
    rw [push]
    rcases hready : s.isReady with ⟨_ | _, t⟩ <;> rw [hready] at hr hwritten
    · exact .refused hdown hwritten
    · cases hr

theorem plot_eq (s : Situation) (buffer : Buffer) (carrier : Carrier) :
    s.plot buffer carrier =
      match buffer.toContents with
      | .error e => (.error (.buffer e), s)
      | .ok contents => s.push (.bufferContents contents) carrier := by
  unfold plot Buffer.toContents
  cases buffer.validate <;> rfl

theorem Sending.drain_eq {t : Situation} {m : Message} {d : Delivery}
    (h : s.Sending m d (.ok ()) t) (hm : m.Fits) :
    Frames.drain (t.writtenSince s) = ([m], .ok []) := by
  cases h with
  | sent up delivered written =>
    have hsince : t.writtenSince s = m.frame := by
      rw [writtenSince, written, List.drop_left]
    have hdrain := Frames.drain_frame_append hm []
    rw [List.append_nil] at hdrain
    rw [hsince, hdrain]
    rfl

end Situation

namespace Boundary

variable {b : Boundary} {h : Handle} {held : Holding}

theorem store_self (hheld : b.holding? h = some held) : b.store h (some held) = b := by
  rcases h with _ | n
  · cases hheld
  · have hn : b.holdings[n]? = some (some held) := Option.join_eq_some_iff.mp hheld
    obtain ⟨hlt, hget⟩ := List.getElem?_eq_some_iff.mp hn
    rw [store, ← hget, List.set_getElem_self]

theorem holding?_eq_getD (hsome : (b.holding? h).isSome = true) (otherwise : Holding) :
    b.holding? h = some ((b.holding? h).getD otherwise) := by
  obtain ⟨x, hx⟩ := Option.isSome_iff_exists.mp hsome
  rw [hx, Option.getD_some]

variable {f : Situation → Except CallError Unit × Situation} {t : Situation}

theorem attempt_of_ok (hheld : b.holding? h = some held) (entry : Entry)
    (hf : f held.situation = (.ok (), t)) :
    b.attempt entry h f = (true, b.store h (some { held with situation := t })) := by
  simp [attempt, withBridge, hheld, hf]

theorem attempt_of_error (hheld : b.holding? h = some held) (entry : Entry) {e : CallError}
    (hf : f held.situation = (.error e, t)) :
    b.attempt entry h f = (false,
      { b.store h (some { held with situation := t }) with
        diagnostic := some (CallError.spellZeros (e.chain entry)) }) := by
  simp [attempt, withBridge, hheld, hf, fail, CallError.diagnostic_eq]

theorem Runs.sound {log : List Occurrence} (hb : Runs {} log b) (hheld : b.holding? h = some held) :
    held.situation.Sound ∧ held.situation.Custody ∧ held.situation.Following := by
  obtain ⟨config, es, hrun⟩ := hb.situation hheld
  rw [hrun]
  exact ⟨Situation.sound_run config es, Situation.custody_run config es,
    Situation.following_run config es⟩

theorem Runs.sending {log : List Occurrence} (hb : Runs {} log b)
    (hheld : b.holding? h = some held) (m : Message) (carrier : Carrier) :
    held.situation.Sending m (carrier m.frame.length) (held.situation.push m carrier).1
      (held.situation.push m carrier).2 := by
  obtain ⟨config, es, hrun⟩ := hb.situation hheld
  rw [hrun]
  exact Situation.sending_push (Situation.sound_run config es) (Situation.custody_run config es)
    (Situation.flow_run config es) m carrier

theorem plot_of_fault {buffer : Option ForeignBuffer} {e : CallError} (h : PlotFault buffer e)
    (carrier : Carrier) (s : Situation) : plot buffer carrier s = (.error e, s) := by
  cases h with
  | missing => rfl
  | part fault => rw [plot, fault.toBuffer_eq]
  | @size foreign c cause hc fault =>
    have hcontents : c.toContents = .error ⟨c.variableName, cause⟩ := by
      rw [Buffer.toContents, Buffer.validate, Shape.accept_eq_verdict, fault]
      rfl
    rw [plot, hc.toBuffer_eq]
    simp only [Situation.plot_eq, hcontents]
    rfl

theorem plot_of_describes {foreign : ForeignBuffer} {contents : Buffer}
    (h : foreign.Describes contents) (hfit : contents.shape.Admits contents.payload.length)
    (carrier : Carrier) (s : Situation) :
    plot (some foreign) carrier s = lift .bridge (s.push (.bufferContents contents) carrier) := by
  have hcontents : contents.toContents = .ok contents :=
    Buffer.toContents_eq_ok_iff.mpr ⟨hfit, rfl⟩
  rw [plot, h.toBuffer_eq]
  simp only [Situation.plot_eq, hcontents]

/-- In every state that the host can reach, a call to plot a buffer on a live handle either reports
the first thing that is wrong with the buffer, and then nothing but the diagnostic has changed,
however the bridge and its viewer are; or the host describes a buffer, and that buffer is to be sent.
Nothing is written to a viewer that is not there. A send that succeeds has written exactly one frame,
which is taken off as that buffer if no text of it is longer than the wire carries. -/
theorem run_plotBuffer {log : List Occurrence} (hb : Runs {} log b)
    (hheld : b.holding? h = some held) (buffer : Option ForeignBuffer) (carrier : Carrier) :
    let s := held.situation
    let plotted := b.answer (.plotBuffer h buffer carrier)
    ((∃ foreign contents, buffer = some foreign ∧ foreign.Describes contents ∧
        contents.shape.Admits contents.payload.length) ∨ ∃ e, PlotFault buffer e) ∧
    (∀ e, PlotFault buffer e → plotted = (.flag false,
      { b with diagnostic := some (CallError.spellZeros (e.chain .plotBuffer)) })) ∧
    ∀ foreign contents, buffer = some foreign → foreign.Describes contents →
      contents.shape.Admits contents.payload.length →
      let m := Message.bufferContents contents
      ∃ outcome t, s.Sending m (carrier m.frame.length) outcome t ∧
        plotted = (match outcome with
          | .ok () => (.flag true, b.store h (some { held with situation := t }))
          | .error e => (.flag false,
            { b.store h (some { held with situation := t }) with
              diagnostic := some (CallError.spellZeros ((CallError.bridge e).chain .plotBuffer)) })) ∧
        (outcome = .ok () → (∀ name ∈ contents.names, name.utf8ByteSize ≤ 2 ^ 30) →
          Frames.drain (t.writtenSince s) = ([m], .ok [])) := by
  intro s plotted
  refine ⟨plottable_or_fault buffer, ?_, ?_⟩
  · intro e he
    have hattempt := attempt_of_error hheld .plotBuffer (plot_of_fault he carrier s)
    rw [store_self hheld] at hattempt
    simp only [plotted, answer, hattempt]
    rfl
  · rintro foreign contents rfl hdescribes hfit
    have hsending := hb.sending hheld (.bufferContents contents) carrier
    have hplot := plot_of_describes hdescribes hfit carrier s
    rcases hpush : s.push (.bufferContents contents) carrier with ⟨outcome, t⟩
    rw [hpush] at hsending hplot
    refine ⟨outcome, t, hsending, ?_, ?_⟩
    · cases outcome with
      | ok _ =>
        have hattempt := attempt_of_ok hheld .plotBuffer hplot
        simp only [plotted, answer, hattempt]
        rfl
      | error e =>
        have hattempt := attempt_of_error hheld .plotBuffer hplot
        simp only [plotted, answer, hattempt]
        rfl
    · rintro rfl hnames
      exact hsending.drain_eq (contents.fits_iff.mpr ⟨hnames, hfit.2.2⟩)

/-- A buffer without a display name is given to a bridge whose viewer has exited unnoticed: only the
name is reported. The same buffer with a name, while the viewer lives, is sent and taken off. -/
theorem run_plotBuffer_named :
    let opening : Opening :=
      { spawner := fun _ => .ok (), port := .ok 9, attempts := fun _ => { outcome := .connected 0 } }
    let host (next : Script) : Script :=
      .call (.create (some 7) none (.ok ()) fun _ => "") fun _ =>
        .call (.start (some 0) opening) fun _ => next
    let unnamed : ForeignBuffer :=
      ⟨some [105, 109, 103, 0], none, some [114, 0, 7], true, 1, 2, 1, 1, 2, .bytes [1, 2, 3, 4, 5]⟩
    let b := ((host (.meanwhile (some 0) .exits (.finish 0))).run {}).boundary
    let c := ((host (.finish 0)).run {}).boundary
    let held := (c.holding? (some 0)).getD { situation := .idle {}, callback := 0 }
    let contents : Buffer :=
      ⟨"img", "Image", "r", true, ⟨1, 2, 1, 1, .unsignedShort⟩, [1, 2, 3, 4, 5]⟩
    b.answer (.plotBuffer (some 0) (some unnamed) fun _ => .complete) =
        (.flag false, { b with diagnostic := some "oid_plot_buffer: display_name is null" }) ∧
      ∃ t, c.answer (.plotBuffer (some 0)
          (some { unnamed with displayName := some [73, 109, 97, 103, 101] }) fun _ => .complete) =
          (.flag true, c.store (some 0) (some { held with situation := t })) ∧
        Frames.drain (t.writtenSince held.situation) = ([.bufferContents contents], .ok []) := by
  intro opening host unnamed b c held contents
  have hb : Runs {} _ b := (host (.meanwhile (some 0) .exits (.finish 0))).runs {}
  have hc : Runs {} _ c := (host (.finish 0)).runs {}
  have hsome : (b.holding? (some 0)).isSome = true := by decide +kernel
  have hheld : c.holding? (some 0) = some held := by
    have hsome' : (c.holding? (some 0)).isSome = true := by decide +kernel
    obtain ⟨x, hx⟩ := Option.isSome_iff_exists.mp hsome'
    simp only [held, hx, Option.getD_some]
  obtain ⟨gone, hgone⟩ := Option.isSome_iff_exists.mp hsome
  have hname : unnamed.variableName.Spells "img" := ⟨_, rfl, by decide +kernel⟩
  have hfault : PlotFault (some unnamed) (.nullText "display_name") :=
    .part (.displayName hname .null)
  have hrefused := (run_plotBuffer hb hgone (some unnamed) fun _ => .complete).2.1 _ hfault
  have htext : CallError.spellZeros ((CallError.nullText "display_name").chain .plotBuffer) =
      "oid_plot_buffer: display_name is null" := by decide +kernel
  rw [htext] at hrefused
  refine ⟨hrefused, ?_⟩
  have hdescribes : ForeignBuffer.Describes
      { unnamed with displayName := some [73, 109, 97, 103, 101] } contents :=
    ⟨hname, ⟨_, rfl, by decide +kernel⟩, ⟨_, rfl, by decide +kernel⟩, rfl, rfl, rfl, rfl, rfl, rfl,
      .inl rfl⟩
  have hfit : contents.shape.Admits contents.payload.length :=
    (Shape.verdict_eq_ok_iff _ _).mp (by decide +kernel)
  obtain ⟨outcome, t, -, hanswer, hdrain⟩ :=
    (run_plotBuffer hc hheld _ fun _ => .complete).2.2 _ _ rfl hdescribes hfit
  have hflag : (c.answer (.plotBuffer (some 0)
      (some { unnamed with displayName := some [73, 109, 97, 103, 101] }) fun _ => .complete)).1 =
      .flag true := by decide +kernel
  cases outcome with
  | error e =>
    rw [hanswer] at hflag
    cases hflag
  | ok _ => exact ⟨t, hanswer, hdrain rfl (by decide +kernel)⟩

end Boundary
end ViewerBridge
