import ViewerBridge.Proofs.Boundary.Dispatch
import ViewerBridge.Proofs.Boundary.Plotting
/-!
# The number that an event loop returns

An event loop counts the requests that it has taken. A request whose name holds a zero is counted but
not passed to the callback, so the number is that of the calls only if there is none of these, or if
there are so many calls that both are the largest number.
-/
namespace ViewerBridge

namespace Situation

variable {s : Situation}

theorem Sound.takePlotRequests_up (hs : s.Sound) (hc : s.Custody) (hf : s.Following) (hup : s.Up)
    (more : Inbound) : (s.takePlotRequests more).1 =
      s.waitingRequest.toList ++ (s.arrives more).outstanding.1.filterMap requestName? := by
  let t := (s.takePending .plotRequest).2
  obtain ⟨r, hreader⟩ := hs.reader? hup.1
  have hready : s.isReady = (true, s) := hs.isReady_of_up hc hup
  have htreader : t.reader? = some r := hreader
  have htf : t.Following := hf
  have hreads : (t.receive more).1 = (s.arrives more).outstanding.1 := by
    rw [(htf.reads htreader more).1, outstanding_arrives htreader, outstanding_arrives hreader]
    rfl
  rw [takePlotRequests_fst hready, filterMap_filter_requests, hreads]

theorem Sound.takePlotRequests_down (hs : s.Sound) (hc : s.Custody) (hdown : ¬ s.Up)
    (more : Inbound) : (s.takePlotRequests more).1 = [] := by
  have hnot : s.isReady.1 = false :=
    Bool.eq_false_iff.mpr fun h => hdown ((hs.isReady_iff hc).mp h)
  rw [takePlotRequests_of_not_ready hnot]

end Situation

namespace Boundary

theorem toInt_countOf (requests : List String) :
    (countOf requests).toInt = min requests.length 2147483647 :=
  Int32.toInt_ofNat_of_lt (by omega)

theorem map_name_dispatch (run : Nat → String → Boundary → Ran) (callback : Callback)
    (requests : List String) (b : Boundary) :
    (dispatch run callback (passed requests) b).1.map Invocation.name =
      requests.filter fun name => '\x00' ∉ name.toList := by
  have hnames := congrArg (List.map Prod.snd) (dispatch_names run callback (passed requests) b)
  rw [List.map_map, List.map_map] at hnames
  refine hnames.trans ((map_passed requests).trans (List.filter_congr fun name _ => ?_))
  rw [List.contains_eq_mem, decide_eq_decide.mpr (Utf8.zero_mem_encode name), decide_not]

/-- In every state that the host can reach, an event loop counts all requests that it takes: the one
that waits and those that have arrived by then, or none if the bridge is not up. It passes on those
whose name holds no zero. So it returns the number of its calls, as far as that is one of its numbers,
exactly if no name of the requests holds a zero or the calls alone reach the largest number. -/
theorem run_eventLoopCount {b : Boundary} {log : List Occurrence} (hb : Runs {} log b) (h : Handle)
    (more : Inbound) (onRequest : Nat → String → Script) :
    let looped := b.runEventLoop h more onRequest
    (b.holding? h = none → looped.count = 0 ∧ looped.invocations = []) ∧
    ∀ held, b.holding? h = some held →
      let s := held.situation
      ∃ requests : List String,
        (s.Up → requests = s.waitingRequest.toList ++
          (s.arrives more).outstanding.1.filterMap Situation.requestName?) ∧
        (¬ s.Up → requests = []) ∧
        looped.count.toInt = min requests.length 2147483647 ∧
        looped.invocations.map Invocation.name =
          requests.filter (fun name => '\x00' ∉ name.toList) ∧
        (looped.count.toInt = min looped.invocations.length 2147483647 ↔
          (∀ name ∈ requests, '\x00' ∉ name.toList) ∨
            2147483647 ≤ looped.invocations.length) := by
  intro looped
  refine ⟨fun hnull => ?_, fun held hheld => ?_⟩
  · simp [looped, runEventLoop, loop, takeRequests, hnull]
  intro s
  obtain ⟨hs, hc, hf⟩ := hb.sound hheld
  have hlooped : looped = _ := loop_of_holding hheld more fun place name => (onRequest place name).run
  have hcount : looped.count.toInt = min (s.takePlotRequests more).1.length 2147483647 := by
    rw [hlooped]
    exact toInt_countOf _
  have hnames : looped.invocations.map Invocation.name =
      (s.takePlotRequests more).1.filter fun name => '\x00' ∉ name.toList := by
    rw [hlooped]
    exact map_name_dispatch ..
  refine ⟨_, fun hup => hs.takePlotRequests_up hc hf hup more,
    fun hdown => hs.takePlotRequests_down hc hdown more, hcount, hnames, ?_⟩
  have hlength := congrArg List.length hnames
  have hfewer := List.length_filter_le (fun name : String => decide ('\x00' ∉ name.toList))
    (s.takePlotRequests more).1
  have hall := List.length_filter_eq_length_iff (l := (s.takePlotRequests more).1)
    (p := fun name : String => decide ('\x00' ∉ name.toList))
  rw [List.length_map] at hlength
  simp only [decide_eq_true_eq] at hall
  rw [hcount, ← hall]
  omega

/-- An event loop with a request between others whose name holds a zero. -/
theorem run_eventLoopCount_between :
    let opening : Opening :=
      { spawner := fun _ => .ok (), port := .ok 9, attempts := fun _ => { outcome := .connected 0 } }
    let host : Script :=
      .call (.create (some 7) none (.ok ()) fun _ => "") fun _ =>
        .call (.start (some 0) opening) fun _ => .finish 0
    let asks (names : List String) : Inbound :=
      { bytes := names.flatMap fun name => (Message.plotRequest name).frame }
    let b := (host.run {}).boundary
    let looped := b.runEventLoop (some 0) (asks ["a", "b\x00", "c"]) fun _ _ => .finish 0
    Runs {} (host.run {}).log b ∧ looped.count.toInt = 3 ∧
      looped.invocations.map Invocation.name = ["a", "c"] ∧
      looped.count.toInt ≠ min looped.invocations.length 2147483647 := by
  intro opening host asks b looped
  let held := (b.holding? (some 0)).getD { situation := .idle {}, callback := 0 }
  have hb : Runs {} (host.run {}).log b := host.runs {}
  have hheld : b.holding? (some 0) = some held := holding?_eq_getD (by decide +kernel) _
  obtain ⟨requests, hup, -, hcount, hnames, hcalls⟩ := (run_eventLoopCount hb (some 0)
    (asks ["a", "b\x00", "c"]) fun _ _ => .finish 0).2 held hheld
  have hrequests : requests = ["a", "b\x00", "c"] :=
    (hup ⟨by decide +kernel, by decide +kernel, by decide +kernel⟩).trans (by decide +kernel)
  subst hrequests
  have hpassed : looped.invocations.map Invocation.name = ["a", "c"] :=
    hnames.trans (by decide +kernel)
  refine ⟨hb, hcount, hpassed, fun hequal => ?_⟩
  have htwo : looped.invocations.length = 2 := by
    have hlength := congrArg List.length hpassed
    rwa [List.length_map] at hlength
  rcases hcalls.mp hequal with hnone | hlarge
  · exact absurd hnone (by decide +kernel)
  · have hlarge : 2147483647 ≤ looped.invocations.length := hlarge
    omega

/-- An event loop that returns one and calls nothing. -/
theorem eventLoopCount_of_zero_in_name :
    let opening : Opening :=
      { spawner := fun _ => .ok (), port := .ok 9, attempts := fun _ => { outcome := .connected 0 } }
    let host : Script :=
      .call (.create (some 7) none (.ok ()) fun _ => "") fun _ =>
        .call (.start (some 0) opening) fun _ => .finish 0
    let asks : Inbound := { bytes := (Message.plotRequest "a\x00b").frame }
    let b := (host.run {}).boundary
    let looped := b.runEventLoop (some 0) asks fun _ _ => .finish 0
    (Message.plotRequest "a\x00b").Fits ∧ looped.count.toInt = 1 ∧ looped.invocations.length = 0 ∧
      looped.count.toInt ≠ min looped.invocations.length 2147483647 := by
  decide +kernel

end Boundary
end ViewerBridge
