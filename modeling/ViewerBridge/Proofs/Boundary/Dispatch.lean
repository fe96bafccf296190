import ViewerBridge.Proofs.Boundary.ForeignTexts
import ViewerBridge.Proofs.Boundary.GivenUp
import ViewerBridge.Proofs.Bridge.PlotRequests
/-!
# Passing requests to the host

An event loop passes on what it has taken, whatever its callback does meanwhile: nothing of it is
given to another loop, and nothing of the loop depends on the handle once the callback runs.
-/
namespace ViewerBridge

namespace Situation

theorem Sound.taken_sublist {s : Situation} (hs : s.Sound) (hw : s.waitingRequest = none)
    (es : List BridgeEvent) (more : Inbound) :
    let taken := (s.run es).takePlotRequests more
    ∃ read, taken.2.requested = s.requested ++ read ∧ taken.1.Sublist read := by
  intro taken
  have hsteps := steps_run s es
  obtain ⟨read, hread, hwaits⟩ := hs.requested_steps hsteps
  obtain ⟨own, hown, htaken⟩ := (sound_steps hs hsteps).1.given_sublist (.takePlotRequests more)
  rw [hw, Option.toList_none, List.nil_append] at hwaits
  refine ⟨read ++ own, by rw [← List.append_assoc, ← hread]; exact hown, ?_⟩
  have hleft : taken.1.Sublist (taken.1 ++ taken.2.waitingRequest.toList) :=
    List.sublist_append_left ..
  exact (hleft.trans htaken).trans (hwaits.append_right own)

end Situation

namespace Boundary

variable {b : Boundary} {h : Handle} {held : Holding}

theorem dispatch_append (run : Nat → String → Boundary → Ran) (callback : Callback)
    (front rest : List (String × Nat)) (b : Boundary) :
    dispatch run callback (front ++ rest) b =
      ((dispatch run callback front b).1 ++
          (dispatch run callback rest (dispatch run callback front b).2).1,
        (dispatch run callback rest (dispatch run callback front b).2).2) := by
  induction front generalizing b with
  | nil => rfl
  | cons request front ih => simp [dispatch, ih]

theorem dispatch_names (run : Nat → String → Boundary → Ran) (callback : Callback)
    (requests : List (String × Nat)) (b : Boundary) :
    (dispatch run callback requests b).1.map (fun i => (i.callback, i.name)) =
      requests.map fun request => (callback, request.1) := by
  induction requests generalizing b with
  | nil => rfl
  | cons request requests ih => simp [dispatch, ih]

theorem isPassable_eq (name : String) : isPassable name = !(Utf8.encode name).contains 0 := by
  unfold isPassable Utf8.terminated?
  split <;> simp_all

theorem map_passed (requests : List String) :
    (passed requests).map Prod.fst = requests.filter fun name => !(Utf8.encode name).contains 0 := by
  have hzip : requests.zipIdx.map Prod.fst = requests := List.zipIdx_map_fst ..
  conv => rhs; rw [← hzip]
  rw [List.filter_map, passed]
  congr 2
  funext request
  exact isPassable_eq request.1

theorem loop_of_holding (hheld : b.holding? h = some held)
    (more : Inbound) (run : Nat → String → Boundary → Ran) :
    let taken := held.situation.takePlotRequests more
    let left := dispatch run held.callback (passed taken.1)
      (b.store h (some { held with situation := taken.2 }))
    b.loop h more run = ⟨countOf taken.1, left.1, left.2⟩ := by
  simp [loop, takeRequests, hheld]

theorem holding?_store_self (hheld : b.holding? h = some held) (x : Option Holding) :
    (b.store h x).holding? h = x := by
  rcases h with _ | n
  · cases hheld
  · rw [holding?_store, if_pos ⟨rfl, lt_of_holding? hheld⟩]

theorem Evolves.situation {c : Boundary} (hb : b.Evolves c) (hheld : b.holding? h = some held)
    {inner : Holding} (hinner : c.holding? h = some inner) :
    ∃ es, inner.situation = held.situation.run es := by
  rcases h with _ | n
  · cases hheld
  rcases hb.holding n inner hinner with ⟨x, es, hx, -, hrun⟩ | ⟨hlen, -⟩
  · rw [hheld] at hx
    obtain ⟨rfl⟩ := hx
    exact ⟨es, hrun⟩
  · exact absurd (lt_of_holding? hheld) (Nat.not_lt.mpr hlen)

theorem Evolves.taken_sublist {c : Boundary} (hb : b.Evolves c) (hs : held.situation.Sound)
    {more : Inbound} (hheld : b.holding? h =
      some { held with situation := (held.situation.takePlotRequests more).2 })
    {inner : Holding} (hinner : c.holding? h = some inner) (more' : Inbound) :
    let again := inner.situation.takePlotRequests more'
    ∃ read, again.2.requested = (held.situation.takePlotRequests more).2.requested ++ read ∧
      again.1.Sublist read := by
  intro again
  obtain ⟨later, hlater⟩ := hb.situation hheld hinner
  obtain ⟨own, htaken⟩ := hs.looped_takePlotRequests more
  have hwaits : (held.situation.takePlotRequests more).2.waitingRequest = none := by
    rw [Situation.waitingRequest, htaken.nothing_waits]
    rfl
  have hsteps := Situation.steps_after held.situation (.takePlotRequests more)
  have hagain := (Situation.sound_steps hs hsteps).1.taken_sublist hwaits later more'
  simp only [again, hlater]
  exact hagain

theorem Runs.givenUp {c : Boundary} {log : List Occurrence} (hr : Runs b log c) {n : Nat}
    (hn : n < b.holdings.length) {o : Occurrence} (ho : o ∈ log)
    (hc : o.event = .call (.cleanup (some n))) : c.GivenUp n := by
  obtain ⟨hbefore, hafter⟩ := hr.evolves_at ho
  have hlen : n < o.before.holdings.length := Nat.lt_of_lt_of_le hn hbefore.length
  rw [hc] at hafter
  exact hafter.givenUp (givenUp_cleanup hlen)

/-- In every state that the host can reach, whatever the callback does, an event loop passes on each
request that it has taken and whose name has no zero, each once, in the order of their arrival and
with the exact name. An event loop within it, however deep, takes only requests that are read later.
Once the callback has given the handle up, the rest is passed on all the same: whatever stands behind
the handle then, the callback is run for the same names with the same results, and it is still there
at the end. -/
theorem run_dispatch {log : List Occurrence} (hb : Runs {} log b) (h : Handle) (more : Inbound)
    (onRequest : Nat → String → Script) :
    let run := fun place name => (onRequest place name).run
    let looped := b.runEventLoop h more onRequest
    (b.holding? h = none → looped.invocations = []) ∧
    ∀ held, b.holding? h = some held →
      let taken := held.situation.takePlotRequests more
      taken.1.Sublist taken.2.requested ∧
      looped.invocations.map (fun i => (i.callback, i.name)) =
        (taken.1.filter fun name => !(Utf8.encode name).contains 0).map (held.callback, ·) ∧
      (∀ i ∈ looped.invocations, ∀ field,
        ForeignText.required (some (Utf8.encode i.name ++ [0])) field = .ok i.name) ∧
      (∀ i ∈ looped.invocations, ∀ o ∈ i.log, ∀ more', o.event = .runEventLoop h more' →
        ∀ inner, o.before.holding? h = some inner →
          let again := inner.situation.takePlotRequests more'
          ∃ read, again.2.requested = taken.2.requested ++ read ∧ again.1.Sublist read) ∧
      ∀ front rest, passed taken.1 = front ++ rest →
        let middle := dispatch run held.callback front
          (b.store h (some { held with situation := taken.2 }))
        let left := dispatch run held.callback rest middle.2
        looped.invocations = middle.1 ++ left.1 ∧ looped.boundary = left.2 ∧
        ∀ n, h = some n → (∃ i ∈ middle.1, ∃ o ∈ i.log, o.event = .call (.cleanup h)) →
          (∀ i ∈ left.1, ∀ o ∈ i.log, o.Permitted) →
          middle.2.holding? h = none ∧ left.2.holding? h = none ∧
          ∀ x, dispatch run held.callback rest (middle.2.store h x) =
            (left.1.map (·.stored n x), left.2.store h x) := by
  intro run looped
  have hruns : ∀ place name b, Runs b (run place name b).log (run place name b).boundary :=
    fun place name => (onRequest place name).runs
  refine ⟨fun hnull => by simp [looped, runEventLoop, loop, takeRequests, hnull], fun held hheld => ?_⟩
  intro taken
  let start := b.store h (some { held with situation := taken.2 })
  have hlooped : looped = ⟨countOf taken.1, (dispatch run held.callback (passed taken.1) start).1,
      (dispatch run held.callback (passed taken.1) start).2⟩ := loop_of_holding hheld more run
  have hstart : start.holding? h = some { held with situation := taken.2 } :=
    holding?_store_self hheld _
  have hnames : looped.invocations.map (fun i => (i.callback, i.name)) =
      (taken.1.filter fun name => !(Utf8.encode name).contains 0).map (held.callback, ·) := by
    rw [hlooped, dispatch_names, ← map_passed, List.map_map]
    rfl
  obtain ⟨config, es, hrun⟩ := hb.situation hheld
  refine ⟨?_, hnames, ?_, ?_, ?_⟩
  · have hidle := (Situation.sound_idle config).taken_sublist rfl es more
    rw [← hrun] at hidle
    obtain ⟨read, hread, htaken⟩ := hidle
    exact htaken.trans (hread ▸ List.sublist_append_right ..)
  · intro i hi field
    have hmem := List.mem_map_of_mem (f := fun i => (i.callback, i.name)) hi
    rw [hnames] at hmem
    obtain ⟨name, hname, heq⟩ := List.mem_map.mp hmem
    have hzero : 0 ∉ Utf8.encode i.name := by
      have hpassed := (List.mem_filter.mp hname).2
      rw [← (Prod.mk.inj heq).2]
      simpa using hpassed
    exact ForeignText.required_terminated hzero field
  · intro i hi o ho more' hevent inner hinner
    have hsound : held.situation.Sound := hrun ▸ Situation.sound_run config es
    have hall := dispatch_runs hruns held.callback (passed taken.1) start
    rw [hlooped] at hi
    have hat := (hall.evolves_at (List.mem_flatMap.mpr ⟨i, hi, ho⟩)).1
    exact hat.taken_sublist hsound hstart hinner more'
  · intro front rest hsplit middle left
    have hmiddle := dispatch_append run held.callback front rest start
    rw [← hsplit] at hmiddle
    refine ⟨by rw [hlooped, hmiddle], by rw [hlooped, hmiddle], ?_⟩
    rintro n rfl ⟨i, hi, o, ho, hcleanup⟩ hpermitted
    have hgone : middle.2.GivenUp n :=
      (dispatch_runs hruns held.callback front start).givenUp (lt_of_holding? hstart)
        (List.mem_flatMap.mpr ⟨i, hi, ho⟩) hcleanup
    have hleft := (dispatch_runs hruns held.callback rest middle.2).evolves.givenUp hgone
    have hspares : ∀ place name, Spares (run place name) n :=
      fun place name => (onRequest place name).spares n
    exact ⟨hgone.2, hleft.2, dispatch_store hruns hspares hgone held.callback rest hpermitted⟩

/-- An event loop whose callback at first runs another one and then gives the handle up. -/
theorem run_dispatch_abandoned :
    let opening : Opening :=
      { spawner := fun _ => .ok (), port := .ok 9, attempts := fun _ => { outcome := .connected 0 } }
    let host : Script :=
      .call (.create (some 7) none (.ok ()) fun _ => "") fun _ =>
        .call (.start (some 0) opening) fun _ => .finish 0
    let asks (names : List String) : Inbound :=
      { bytes := names.flatMap fun name => (Message.plotRequest name).frame }
    let onRequest : Nat → String → Script
      | 0, _ => .eventLoop (some 0) (asks ["d"]) (fun _ _ => .finish 0) fun _ =>
          .call (.cleanup (some 0)) fun _ => .finish 0
      | _, _ => .finish 0
    let run := fun place name => (onRequest place name).run
    let b := (host.run {}).boundary
    let held := (b.holding? (some 0)).getD { situation := .idle {}, callback := 0 }
    let taken := held.situation.takePlotRequests (asks ["a", "b\x00", "c"])
    let looped := b.runEventLoop (some 0) (asks ["a", "b\x00", "c"]) onRequest
    let middle := dispatch run 7 [("a", 0)] (b.store (some 0) (some ⟨taken.2, 7⟩))
    Runs {} (host.run {}).log b ∧ b.holding? (some 0) = some held ∧
      taken.1 = ["a", "b\x00", "c"] ∧
      looped.invocations.map (fun i => (i.callback, i.name)) = [(7, "a"), (7, "c")] ∧
      middle.1.flatMap (fun i => i.log.map Occurrence.answer) = [.count 1, .done] ∧
      middle.2.holding? (some 0) = none ∧
      ∀ x, dispatch run 7 [("c", 2)] (middle.2.store (some 0) x) =
        ([⟨7, "c", 0, []⟩], middle.2.store (some 0) x) := by
  intro opening host asks onRequest run b held taken looped middle
  have hb : Runs {} (host.run {}).log b := host.runs {}
  have hsome : (b.holding? (some 0)).isSome = true := by decide +kernel
  have hheld : b.holding? (some 0) = some held := by
    obtain ⟨x, hx⟩ := Option.isSome_iff_exists.mp hsome
    simp only [held, hx, Option.getD_some]
  have hcallback : held.callback = 7 := by decide +kernel
  have htaken : taken.1 = ["a", "b\x00", "c"] := by decide +kernel
  have hpassed : passed taken.1 = [("a", 0)] ++ [("c", 2)] := by rw [htaken]; decide +kernel
  obtain ⟨-, hnames, -, -, hsplit⟩ := (run_dispatch hb (some 0) (asks ["a", "b\x00", "c"])
    onRequest).2 held hheld
  obtain ⟨hgone, -, hleft⟩ := (hsplit _ _ hpassed).2.2 0 rfl
    ⟨_, List.mem_cons_self, _, List.mem_cons_of_mem _ (List.mem_append_right _ List.mem_cons_self), rfl⟩
    (by decide +kernel)
  rw [hcallback] at hgone hleft
  exact ⟨hb, hheld, htaken, by rw [hnames]; decide +kernel, by decide +kernel, hgone, hleft⟩

end Boundary
end ViewerBridge
