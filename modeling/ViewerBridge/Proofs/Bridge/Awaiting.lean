import ViewerBridge.Proofs.Bridge.Readiness
import ViewerBridge.Proofs.Bridge.SymbolAnswers
/-!
# Waiting for an answer

A fetch reads again and again until an answer has come. It gives the last one of that reading if the
stream goes on after it. If a malformed frame or the end of the stream follows, the reading
terminates the bridge and the answer is gone with it.
-/
namespace ViewerBridge.Situation

variable {kind : Kind} {ms : List Message} {s t : Situation}

def hears (s : Situation) (waits : List Inbound) : Situation := waits.foldl arrives s

/-- Both have heard the same, and `t` has read the messages `ms` of it already. -/
structure Ahead (ms : List Message) (s t : Situation) : Prop where
  connected : (∃ r, s.reader? = some r) ∧ ∃ r, t.reader? = some r
  ended : t.inbound.ended = s.inbound.ended
  unread : ∃ seen left later, Frames.drain seen = (ms, .ok left) ∧ s.unread = seen ++ later ∧
    t.unread = left ++ later

namespace Ahead

theorem arrives (h : Ahead ms s t) (more : Inbound) : Ahead ms (s.arrives more) (t.arrives more) := by
  obtain ⟨⟨⟨r, hs⟩, r', ht⟩, he, seen, left, later, hd, hus, hut⟩ := h
  refine ⟨⟨⟨r, ?_⟩, r', ?_⟩, ?_, seen, left,
    later ++ if s.inbound.ended then [] else more.bytes, hd, ?_, ?_⟩
  · rw [reader?_arrives, hs]
  · rw [reader?_arrives, ht]
  · rw [ended_arrives hs, ended_arrives ht, he]
  · rw [unread_arrives hs, hus, List.append_assoc]
  · rw [unread_arrives ht, hut, he, List.append_assoc]

theorem hears (h : Ahead ms s t) (waits : List Inbound) :
    Ahead ms (s.hears waits) (t.hears waits) := by
  induction waits generalizing s t with
  | nil => exact h
  | cons more waits ih => exact ih (h.arrives more)

theorem outstanding (h : Ahead ms s t) :
    s.outstanding = Frames.prepend ms t.outstanding := by
  obtain ⟨-, -, seen, left, later, hd, hus, hut⟩ := h
  rw [Situation.outstanding, Situation.outstanding, hus, hut, Frames.drain_append, hd]

theorem readsOn (h : Ahead ms s t) : s.readsOn = t.readsOn := by
  rw [Situation.readsOn, Situation.readsOn, h.outstanding, h.ended]
  rfl

end Ahead

/-- What has arrived holds no message of the kind, and the stream goes on after it. -/
structure Quiet (kind : Kind) (s : Situation) : Prop where
  readsOn : s.readsOn = true
  other : ∀ m ∈ s.outstanding.1, m.kind ≠ kind

namespace Quiet

theorem filter_eq_nil (h : s.Quiet kind) : s.outstanding.1.filter (·.kind = kind) = [] :=
  List.filter_eq_nil_iff.mpr fun m hm => by simpa using h.other m hm

theorem of_ahead (ha : Ahead ms s t) (h : s.Quiet kind) : t.Quiet kind where
  readsOn := ha.readsOn.symm.trans h.readsOn
  other m hm := h.other m (by rw [ha.outstanding]; exact List.mem_append_right _ hm)

theorem of_arrives {r : FrameReader} (hc : s.reader? = some r) {more : Inbound}
    (h : (s.arrives more).Quiet kind) : s.Quiet kind := by
  obtain ⟨hon, hother⟩ := h
  rw [Situation.readsOn, Bool.and_eq_true, ended_arrives hc] at hon
  rw [Situation.outstanding, unread_arrives hc, Frames.drain_append] at hon hother
  obtain ⟨hok, hended⟩ := hon
  have hn : s.inbound.ended = false := by
    cases he : s.inbound.ended with
    | false => rfl
    | true => simp [he] at hended
  rcases hd : Frames.drain s.unread with ⟨ms, e | left⟩ <;> rw [hd] at hok hother
  · cases hok
  · refine ⟨?_, fun m hm => hother m (List.mem_append_left _ ?_)⟩
    · rw [Situation.readsOn, Situation.outstanding, hd, hn]
      rfl
    · rwa [Situation.outstanding, hd] at hm

theorem of_hears {r : FrameReader} (hc : s.reader? = some r) {waits : List Inbound}
    (h : (s.hears waits).Quiet kind) : s.Quiet kind := by
  induction waits generalizing s with
  | nil => exact h
  | cons more waits ih =>
    exact of_arrives hc (ih ((reader?_arrives s more).trans hc) h)

end Quiet

theorem takePending_of_waiting_none (h : s.waiting kind = none) :
    s.takePending kind = (none, s) := by
  rw [takePending, Pending.take, Pending.erase_eq_self h, ← waiting, h]

theorem await_of_waiting {m : Message} (h : s.waiting kind = some m) (waits : List Inbound) :
    s.await kind waits = s.takePending kind := by
  have ht : s.takePending kind = (some m, (s.takePending kind).2) := Prod.ext h rfl
  cases waits with
  | nil => rfl
  | cons more waits => rw [await, ht]

theorem await_reads (hr : s.bridge.state = .ready) (hw : s.waiting kind = none) (more : Inbound)
    (waits : List Inbound) : s.await kind (more :: waits) = (s.drain more).await kind waits := by
  rw [await, takePending_of_waiting_none hw]
  exact if_neg (by simp [hr])

theorem await_of_not_ready (hr : s.bridge.state ≠ .ready) (hw : s.waiting kind = none)
    (waits : List Inbound) : s.await kind waits = (none, s) := by
  cases waits with
  | nil => exact takePending_of_waiting_none hw
  | cons more waits =>
    rw [await, takePending_of_waiting_none hw]
    exact if_pos hr

theorem Sound.waiting_drained (hs : s.Sound) (hf : s.Following) (hv : kind.fromViewer = true)
    (hr : s.bridge.state = .ready) (hw : s.waiting kind = none) {more : Inbound}
    (hd : (s.drain more).bridge.state = .ready) :
    (s.drain more).waiting kind =
      ((s.arrives more).outstanding.1.filter (·.kind = kind)).getLast? := by
  obtain ⟨r, hreader⟩ := hs.reader? hr
  rcases waiting_drain hv s more with h | ⟨-, h⟩
  · rw [h, (hf.reads hreader more).1, hw, Option.or_none]
  · rw [hd] at h
    cases h

theorem Sound.ahead_drain (hs : s.Sound) (hf : s.Following) (hr : s.bridge.state = .ready)
    {more : Inbound} (hon : (s.arrives more).readsOn = true) :
    (s.drain more).bridge.state = .ready ∧
      Ahead (s.arrives more).outstanding.1 (s.arrives more) (s.drain more) := by
  obtain ⟨r, hreader⟩ := hs.reader? hr
  rcases hs.drained hf hr more with ⟨-, hready, hinbound, hleft⟩ | ⟨hon', -⟩
  · have hd : (s.drain more).Sound := sound_step hs (.drain more : Step [] s _)
    obtain ⟨r', hreader'⟩ := hd.reader? hready
    have hended : (s.arrives more).inbound.ended = false := by
      rw [readsOn, Bool.and_eq_true] at hon
      simpa using hon.2
    refine ⟨hready, ⟨⟨r, ?_⟩, r', hreader'⟩, ?_, (s.arrives more).unread, (s.drain more).unread, [],
      ?_, ?_, ?_⟩
    · rw [reader?_arrives, hreader]
    · rw [hinbound, hended]
    · rw [← hleft]
      rfl
    · exact (List.append_nil _).symm
    · exact (List.append_nil _).symm
  · rw [hon] at hon'
    cases hon'

/-- A wait for a message of the kind, in which one comes by the reading after the quiet ones, ends
with that reading. It gives the last such message unless the reading terminates the bridge. -/
theorem Sound.await_heard (hs : s.Sound) (hf : s.Following) (hv : kind.fromViewer = true)
    (hr : s.bridge.state = .ready) (hw : s.waiting kind = none) {quiet : List Inbound}
    (hq : quiet ≠ [] → (s.hears quiet).Quiet kind) {more : Inbound} (later : List Inbound)
    {m : Message}
    (hm : (((s.hears quiet).arrives more).outstanding.1.filter (·.kind = kind)).getLast? = some m) :
    (((s.hears quiet).arrives more).readsOn = true ∧
        (s.await kind (quiet ++ more :: later)).1 = some m ∧
        (s.await kind (quiet ++ more :: later)).2.bridge.state = .ready) ∨
      (((s.hears quiet).arrives more).readsOn = false ∧
        (s.await kind (quiet ++ more :: later)).1 = none ∧
        (s.await kind (quiet ++ more :: later)).2.bridge.state = .terminated) := by
  induction quiet generalizing s with
  | nil =>
    have hd : (s.drain more).Sound := sound_step hs (.drain more : Step [] s _)
    rw [List.nil_append, await_reads hr hw]
    rcases hs.drained hf hr more with ⟨hon, hready, -⟩ | ⟨hon, hterminated⟩
    · have hwait := (hs.waiting_drained hf hv hr hw hready).trans hm
      rw [await_of_waiting hwait]
      exact .inl ⟨hon, hwait, hready⟩
    · have hnot : (s.drain more).bridge.state ≠ .ready := by rw [hterminated]; decide
      rw [await_of_not_ready hnot (hd.waiting_of_not_ready hnot kind)]
      exact .inr ⟨hon, rfl, hterminated⟩
  | cons first quiet ih =>
    obtain ⟨r, hreader⟩ := hs.reader? hr
    have hheard : ((s.arrives first).hears quiet).Quiet kind := hq (List.cons_ne_nil _ _)
    have hfirst : (s.arrives first).Quiet kind :=
      .of_hears ((reader?_arrives s first).trans hreader) hheard
    obtain ⟨hready, hahead⟩ := hs.ahead_drain hf hr hfirst.readsOn
    have hwait : (s.drain first).waiting kind = none := by
      rw [hs.waiting_drained hf hv hr hw hready, hfirst.filter_eq_nil]
      rfl
    have hmore := (hahead.hears quiet).arrives more
    have hlast : (((s.drain first).hears quiet).arrives more).outstanding.1.filter
          (·.kind = kind) =
        (((s.arrives first).hears quiet).arrives more).outstanding.1.filter (·.kind = kind) := by
      rw [hmore.outstanding, Frames.prepend, List.filter_append, hfirst.filter_eq_nil,
        List.nil_append]
    have hd : (s.drain first).Sound := sound_step hs (.drain first : Step [] s _)
    have hrest := ih hd (following_drain hs hf first) hready hwait
      (fun _ => hheard.of_ahead (hahead.hears quiet)) (by rw [hlast]; exact hm)
    rw [← hmore.readsOn] at hrest
    rw [List.cons_append, await_reads hr hw]
    exact hrest

theorem fetch_of_sent {query : Message} {carrier : Carrier} (h : s.isReady = (true, s))
    (hsent : s.send query carrier = (.ok (), t)) (waits : List Inbound) :
    s.fetch query kind carrier waits =
      t.await kind (if t.bridge.config.requestTimeout = .zero then [] else waits) := by
  rw [fetch, h]
  simp only [hsent]

theorem Sound.sent (hs : s.Sound) (hf : s.Following) {m : Message} {carrier : Carrier}
    (h : s.send m carrier = (.ok (), t)) :
    (t.Sound ∧ t.Following ∧ t.bridge.state = .ready) ∧ Ahead [] s t ∧
      (∀ kind, t.waiting kind = s.waiting kind) ∧ t.bridge.config = s.bridge.config := by
  have ht : t.Sound := by
    have hsound := sound_send hs m carrier
    rwa [h] at hsound
  have htf : t.Following := by
    have hfollowing := following_send hf m carrier
    rwa [h] at hfollowing
  rcases send_cases s m carrier with ⟨-, ho⟩ | ⟨session, hsession, ⟨-, ho⟩ | ⟨e, bytes, -, ho⟩⟩ <;>
    rw [ho] at h <;> cases h
  have hready := hs.ready_of_session hsession
  obtain ⟨r, hreader⟩ := hs.reader? hready
  obtain ⟨r', hreader'⟩ := ht.reader? hready
  have hsame : r' = r := by
    rw [reader?_of_session rfl, reader?_flushed, ← reader?_of_session hsession, hreader] at hreader'
    exact (Option.some.inj hreader').symm
  refine ⟨⟨ht, htf, hready⟩, ?_, fun _ => rfl, rfl⟩
  refine ⟨⟨⟨r, hreader⟩, r', hreader'⟩, rfl, [], [], s.unread, rfl, rfl, ?_⟩
  rw [List.nil_append, unread_of_reader? hreader', unread_of_reader? hreader, hsame]

/-- In every run a ready bridge with a live viewer, for which no answer waits, asks for the symbols,
and the system answers that the viewer lives.
Nothing answers in the first waits, and by the end of the next one at least one answer has arrived.
Then the call gives the symbols of the last such answer if the stream goes on after all that has
arrived. If it does not, because it has ended or a malformed frame follows, the call gives none and
the bridge is terminated. -/
theorem run_observedSymbols (config : Config) (es : List BridgeEvent) (carrier : Carrier)
    (quiet : List Inbound) (more : Inbound) (later : List Inbound) (symbols : List String) :
    let s := (idle config).run es
    let t := (s.hears quiet).arrives more
    let call := s.observedSymbols carrier (quiet ++ more :: later)
    s.bridge.state = .ready → 0 < s.processes.living → s.pollable = true →
      s.bridge.config.requestTimeout ≠ .zero → s.bridge.pending.contains .symbolsAnswer = false →
      (s.send .symbolsQuery carrier).1.isOk = true →
      (quiet ≠ [] → (s.hears quiet).Quiet .symbolsAnswer) →
      (t.outstanding.1.filter (·.kind = .symbolsAnswer)).getLast? = some (.symbolsAnswer symbols) →
      (t.readsOn = true ∧ call.1 = symbols ∧ call.2.bridge.state = .ready) ∨
        (t.readsOn = false ∧ call.1 = [] ∧ call.2.bridge.state = .terminated) := by
  intro s t call hr hl ha hz hp hok hq hm
  have hs : s.Sound := sound_run config es
  have hready : s.isReady = (true, s) := by
    rcases ready_or_not s with h | ⟨h, -⟩
    · exact h
    · rw [(hs.isReady_iff (custody_run config es)).mpr ⟨hr, hl, ha⟩] at h
      cases h
  have hw : s.waiting .symbolsAnswer = none := by simpa [Pending.contains, waiting] using hp
  obtain ⟨u, hsent⟩ : ∃ u, s.send .symbolsQuery carrier = (.ok (), u) := by
    rcases hsend : s.send .symbolsQuery carrier with ⟨_ | _, u⟩ <;> rw [hsend] at hok
    · cases hok
    · exact ⟨u, rfl⟩
  obtain ⟨⟨hu, huf, hur⟩, hahead, hwaiting, hconfig⟩ := hs.sent (following_run config es) hsent
  have hfetch : s.fetch .symbolsQuery .symbolsAnswer carrier (quiet ++ more :: later) = _ :=
    fetch_of_sent hready hsent _
  rw [hconfig, if_neg hz] at hfetch
  have hheard := (hahead.hears quiet).arrives more
  have hcall := hu.await_heard huf rfl hur ((hwaiting _).trans hw)
    (fun h => (hq h).of_ahead (hahead.hears quiet)) later
    (by rw [← hm, show t.outstanding = _ from hheard.outstanding]; rfl)
  rw [← hheard.readsOn, ← hfetch] at hcall
  have hgiven : call.1 = _ := observedSymbols_fst s carrier _
  have hafter : call.2 = _ := observedSymbols_snd s carrier _
  rw [hgiven, hafter]
  rcases hcall with ⟨hon, h, hstate⟩ | ⟨hon, h, hstate⟩ <;> rw [h]
  · exact .inl ⟨hon, rfl, hstate⟩
  · exact .inr ⟨hon, rfl, hstate⟩

/-- A run in which the viewer answers twice in the second wait, between other messages, and begins
another frame. -/
theorem run_observedSymbols_twice :
    let o : Opening :=
      { spawner := fun _ => .ok (), port := .ok 9, attempts := fun _ => { outcome := .connected 0 } }
    let first : Inbound := { bytes := (Message.plotRequest "p").frame }
    let second : Inbound :=
      { bytes := (Message.symbolsAnswer ["a"]).frame ++ (Message.plotRequest "q").frame ++
          (Message.symbolsAnswer ["b"]).frame ++ [4, 0] }
    let s := (idle {}).run [.start o]
    let t := (s.hears [first]).arrives second
    (s.hears [first]).Quiet .symbolsAnswer ∧ t.readsOn = true ∧
      (t.outstanding.1.filter (·.kind = .symbolsAnswer)).getLast? = some (.symbolsAnswer ["b"]) ∧
      (s.observedSymbols (fun _ => .complete) [first, second, {}]).1 = ["b"] := by
  intro o first second s t
  have hq : (s.hears [first]).Quiet .symbolsAnswer := ⟨by decide +kernel, by decide +kernel⟩
  have hon : t.readsOn = true := by decide +kernel
  have hm : (t.outstanding.1.filter (·.kind = .symbolsAnswer)).getLast? =
      some (.symbolsAnswer ["b"]) := by decide +kernel
  have hcall := run_observedSymbols {} [.start o] (fun _ => .complete) [first] second [{}] ["b"]
    (by decide +kernel) (by decide +kernel) (by decide +kernel) (by decide +kernel)
    (by decide +kernel) (by decide +kernel) (fun _ => hq) hm
  rcases hcall with ⟨-, h, -⟩ | ⟨h, -⟩
  · exact ⟨hq, hon, hm, h⟩
  · exact absurd hon (by rw [h]; decide)

/-- A run in which the viewer has answered and closed its side when the bridge asks. The answer is
lost. -/
theorem observedSymbols_of_closed_viewer :
    let o : Opening :=
      { spawner := fun _ => .ok (), port := .ok 9, attempts := fun _ => { outcome := .connected 0 } }
    let s := (idle {}).run
      [.start o, .arrives { bytes := (Message.symbolsAnswer ["a", "b"]).frame, ended := true }]
    let call := s.observedSymbols (fun _ => .complete) [{}]
    s.isReady.1 = true ∧ 0 < s.processes.living ∧
      s.bridge.config.requestTimeout ≠ .zero ∧
      s.bridge.pending.contains .symbolsAnswer = false ∧
      (s.send .symbolsQuery (fun _ => .complete)).1.isOk = true ∧
      s.outstanding.1 = [.symbolsAnswer ["a", "b"]] ∧ s.outstanding.2.isOk = true ∧
      call.1 = [] ∧ call.2.bridge.state = .terminated := by
  decide +kernel

end ViewerBridge.Situation
