import ViewerBridge.Proofs.Bridge.Custody
import ViewerBridge.Proofs.Bridge.Unread
/-!
# When a bridge is ready

A bridge that asks whether it is ready looks at its state and at the viewer's process, and not at the
connection. That the viewer has closed its side is noticed by the next reading.
-/
namespace ViewerBridge

theorem ViewerProcess.Keeps.isRunning_iff {v : ViewerProcess} {ps : Processes} (h : v.Keeps ps)
    (answered : Bool) : (v.isRunning ps answered).1 = true ↔ 0 < ps.living ∧ answered = true := by
  rw [Processes.living_pos]
  rcases isRunning_cases v ps answered with
    ⟨hnone | hunanswered, hr⟩ | ⟨child, hc, hanswered, ⟨-, hlives, hr⟩ | ⟨hgone, hr⟩⟩ <;> rw [hr]
  · refine ⟨nofun, fun ⟨⟨n, hn⟩, _⟩ => ?_⟩
    have hheld := h.held n hn
    rw [hnone] at hheld
    cases hheld
  · simp [hunanswered]
  · exact ⟨fun _ => ⟨⟨child.number, hlives⟩, hanswered⟩, fun _ => rfl⟩
  · refine ⟨nofun, fun ⟨⟨n, hn⟩, _⟩ => ?_⟩
    have hheld := h.held n hn
    rw [hc] at hheld
    obtain rfl : child.number = n := Option.some.inj hheld
    exact absurd ⟨Noticed.unseen h.seen hc hn, hn⟩ hgone

namespace Situation

variable {s : Situation}

theorem Sound.isReady_iff (hs : s.Sound) (hc : s.Custody) :
    s.isReady.1 = true ↔
      s.bridge.state = .ready ∧ 0 < s.processes.living ∧ s.pollable = true := by
  have hrun := ViewerProcess.Keeps.isRunning_iff hc s.pollable
  unfold isReady
  by_cases hr : s.bridge.state = .ready
  · obtain ⟨⟨session, hsession, hconnected, -⟩, -⟩ := hs.ready hr
    rw [if_neg (by simp [hr]), hsession, Option.map_some, Option.getD_some, if_pos hconnected]
    rcases hv : s.bridge.viewer.isRunning s.processes s.pollable with ⟨_ | _, viewer⟩ <;>
      rw [hv] at hrun <;> simp [hr, ← hrun]
  · simp [hr]

theorem Sound.exited (hs : s.Sound) (hc : s.Custody) (he : false ∈ s.processes.alive) :
    s.processes.living = 0 ∧ s.bridge.state ≠ .uninitialized := by
  constructor
  · have hl := hc.single
    unfold Processes.living
    rcases halive : s.processes.alive with _ | ⟨b, _ | ⟨b', rest⟩⟩ <;> rw [halive] at he hl
    · cases he
    · rw [← List.mem_singleton.mp he]
      rfl
    · simp at hl
  · intro hu
    rw [hc.unstarted (hs.uninitialized hu).2.1] at he
    cases he

theorem Sound.terminated_of_not_readsOn (hs : s.Sound) (hf : s.Following)
    (h : s.isReady = (true, s)) (hr : s.bridge.state = .ready) {more : Inbound}
    (hon : (s.arrives more).readsOn = false) :
    (s.takePlotRequests more).2.bridge.state = .terminated := by
  let t := (s.takePending .plotRequest).2
  obtain ⟨r, hreader⟩ := hs.reader? hr
  have ht : t.Sound :=
    sound_step hs (.take (List.mem_singleton_self Kind.plotRequest) : Step [.plotRequest] s t)
  have htr : t.reader? = some r := hreader
  have hton : (t.arrives more).readsOn = false := by
    rw [← hon, arrives_eq htr, arrives_eq hreader]
    rfl
  rw [takePlotRequests_snd h]
  rcases ht.drained hf hr more with ⟨hton', -⟩ | ⟨-, hterminated⟩
  · rw [hton] at hton'
    cases hton'
  · exact hterminated

theorem Sound.terminated_of_ended (hs : s.Sound) (hf : s.Following) (hr : s.bridge.state = .ready)
    (he : s.inbound.ended = true) (more : Inbound) :
    (s.takePlotRequests more).2.bridge.state = .terminated := by
  rcases ready_or_not s with h | ⟨h, -⟩
  · obtain ⟨r, hreader⟩ := hs.reader? hr
    refine hs.terminated_of_not_readsOn hf h hr ?_
    rw [readsOn, ended_arrives hreader, he, Bool.true_or, Bool.not_true, Bool.and_false]
  · rw [takePlotRequests_of_not_ready h]
    exact hs.terminated_of_not_ready h (by rw [hr]; decide)

/-- In every run a bridge is ready exactly if it says so in its state and the system answers that the
viewer's process lives, and a viewer that has exited terminates the bridge by the question. One that
has only closed its side does not; the next event loop notices that. -/
theorem run_isReady (config : Config) (es : List BridgeEvent) :
    let s := (idle config).run es
    (s.isReady.1 = true ↔
        s.bridge.state = .ready ∧ 0 < s.processes.living ∧ s.pollable = true) ∧
      (s.isReady.1 = true → s.isReady.2 = s) ∧
      (false ∈ s.processes.alive →
        s.isReady.1 = false ∧ s.isReady.2.bridge.state = .terminated) ∧
      (s.bridge.state = .ready → s.inbound.ended = true → ∀ more,
        (s.takePlotRequests more).2.bridge.state = .terminated) := by
  intro s
  have hs : s.Sound := sound_run config es
  have hc : s.Custody := custody_run config es
  have hiff := hs.isReady_iff hc
  refine ⟨hiff, fun h => ?_, fun he => ?_, hs.terminated_of_ended (following_run config es)⟩
  · rcases ready_or_not s with hr | ⟨hr, -⟩
    · rw [hr]
    · rw [hr] at h
      cases h
  · obtain ⟨hl, hu⟩ := hs.exited hc he
    have hr : s.isReady.1 = false := by
      rw [Bool.eq_false_iff]
      intro h
      have hpos := (hiff.mp h).2.1
      omega
    exact ⟨hr, hs.terminated_of_not_ready hr hu⟩

/-- A run in which the viewer exits, and one in which it closes its side. -/
theorem run_isReady_gone :
    let o : Opening :=
      { spawner := fun _ => .ok (), port := .ok 9, attempts := fun _ => { outcome := .connected 0 } }
    let s := (idle {}).run [.start o, .viewerExits]
    let t := (idle {}).run [.start o, .arrives { ended := true }]
    s.bridge.state = .ready ∧ false ∈ s.processes.alive ∧
      s.isReady.1 = false ∧ s.isReady.2.bridge.state = .terminated ∧
      t.bridge.state = .ready ∧ t.inbound.ended = true ∧
      (t.takePlotRequests {}).2.bridge.state = .terminated := by
  intro o s t
  have hs : s.bridge.state = .ready := by decide +kernel
  have hexited : false ∈ s.processes.alive := by decide +kernel
  have ht : t.bridge.state = .ready := by decide +kernel
  have hclosed : t.inbound.ended = true := by decide +kernel
  obtain ⟨-, -, hgone, -⟩ := run_isReady {} [.start o, .viewerExits]
  obtain ⟨-, -, -, hloop⟩ := run_isReady {} [.start o, .arrives { ended := true }]
  obtain ⟨hnot, hterminated⟩ := hgone hexited
  exact ⟨hs, hexited, hnot, hterminated, ht, hclosed, hloop ht hclosed {}⟩

/-- A run in which the viewer closes its side and nothing is left to be read. The bridge is ready. -/
theorem isReady_of_closed_viewer :
    let o : Opening :=
      { spawner := fun _ => .ok (), port := .ok 9, attempts := fun _ => { outcome := .connected 0 } }
    let s := (idle {}).run [.start o, .arrives { ended := true }]
    s.inbound = { bytes := [], ended := true } ∧ s.unread = [] ∧
      s.isReady.1 = true ∧ s.isReady.2.bridge.state = .ready := by
  decide +kernel

end Situation
end ViewerBridge
