import Mathlib.Data.List.Infix
import ViewerBridge.Proofs.Bridge.SymbolAnswers
/-!
# Which query an answer answers

Nothing in an answer says to which query it belongs, and a viewer may answer after the call that has
asked is over. A call gives the answer that was read last, whichever query that answers. It is the
answer to the call's own query if every query before it was answered in time.
-/
namespace ViewerBridge

def Exchange.asks : Exchange → Bool
  | sent .symbolsQuery (.ok ()) => true
  | _ => false

/-- The viewer's answers that were read by the end of `past` are those to the first queries, in their
order and none before its query was sent. The answer to query number `n`, counted from 0, is
`reply n`. -/
def Replied (reply : Nat → List String) (past : List Exchange) : Prop :=
  let answers := (past.flatMap Exchange.received).filter (·.kind = .symbolsAnswer)
  answers.length ≤ past.countP Exchange.asks ∧
    answers = (List.range answers.length).map fun n => .symbolsAnswer (reply n)

instance (reply : Nat → List String) (past : List Exchange) : Decidable (Replied reply past) :=
  inferInstanceAs (Decidable (_ ∧ _))

namespace Situation

def asked (s : Situation) : Nat := s.exchanges.countP Exchange.asks

/-- At all times the viewer has answered the first queries in their order, each once. -/
def RepliedBy (reply : Nat → List String) (s : Situation) : Prop :=
  ∀ past ∈ s.exchanges.inits, Replied reply past

instance (reply : Nat → List String) (s : Situation) : Decidable (s.RepliedBy reply) :=
  inferInstanceAs (Decidable (∀ past ∈ s.exchanges.inits, Replied reply past))

variable {kinds : List Kind} {kind : Kind} {reply : Nat → List String} {s t : Situation}

theorem RepliedBy.of_prefix (h : t.RepliedBy reply) (hp : s.exchanges <+: t.exchanges) :
    s.RepliedBy reply := by
  intro past hpast
  exact h past ((List.mem_inits _ _).mpr (((List.mem_inits _ _).mp hpast).trans hp))

theorem RepliedBy.replied (h : s.RepliedBy reply) :
    (s.arrivals .symbolsAnswer).length ≤ s.asked ∧
      s.arrivals .symbolsAnswer =
        (List.range (s.arrivals .symbolsAnswer).length).map fun n => .symbolsAnswer (reply n) :=
  h s.exchanges ((List.mem_inits _ _).mpr (List.prefix_refl _))

theorem RepliedBy.getLast?_arrivals (h : s.RepliedBy reply) {m : Message}
    (hm : (s.arrivals .symbolsAnswer).getLast? = some m) :
    ∃ n, (s.arrivals .symbolsAnswer).length = n + 1 ∧ m = .symbolsAnswer (reply n) := by
  obtain ⟨-, ha⟩ := h.replied
  cases hn : (s.arrivals .symbolsAnswer).length with
  | zero =>
    rw [List.length_eq_zero_iff.mp hn] at hm
    cases hm
  | succ n =>
    rw [ha, hn, List.range_succ, List.map_append, List.map_singleton, List.getLast?_concat] at hm
    exact ⟨n, rfl, (Option.some.inj hm).symm⟩

theorem asked_append {x : Exchange} (h : t.exchanges = s.exchanges ++ [x]) :
    t.asked = s.asked + if x.asks then 1 else 0 := by
  rw [asked, h, List.countP_append, List.countP_singleton, asked]

theorem asked_drain (s : Situation) (more : Inbound) : (s.drain more).asked = s.asked := by
  rcases exchanges_drain s more with ⟨-, h⟩ | ⟨outcome, h⟩
  · rw [asked, h, asked]
  · exact asked_append h

theorem asked_await (s : Situation) (kind : Kind) (waits : List Inbound) :
    (s.await kind waits).2.asked = s.asked := by
  induction waits generalizing s with
  | nil => rfl
  | cons more waits ih =>
    have ht : (s.takePending kind).2.asked = s.asked := rfl
    unfold await
    rcases hp : s.takePending kind with ⟨_ | m, t⟩ <;> rw [hp] at ht
    · dsimp only
      split
      · exact ht
      · rw [ih, asked_drain, ht]
    · exact ht

theorem asked_fetch {m : Message} {carrier : Carrier} {waits : List Inbound}
    (h : s.fetch .symbolsQuery kind carrier waits = (some m, t)) : t.asked = s.asked + 1 := by
  rw [fetch] at h
  rcases ready_or_not s with hr | ⟨hr, -⟩
  · rw [hr] at h
    rcases send_cases s .symbolsQuery carrier with ⟨-, ho⟩ | ⟨_, -, ⟨-, ho⟩ | ⟨_, _, -, ho⟩⟩ <;>
      simp only [ho] at h
    · cases h
    · have ht : t.asked = _ := (congrArg (fun o => o.2.asked) h).symm
      rw [ht, asked_await]
      exact asked_append (x := .sent .symbolsQuery (.ok ())) rfl
    · cases h
  · rw [← Prod.eta s.isReady, hr] at h
    cases h

theorem asked_after (s : Situation) {e : BridgeEvent}
    (he : ∀ carrier waits, e ≠ .observedSymbols carrier waits) : (s.after e).asked = s.asked := by
  rcases exchanges_after s he with h | ⟨m, outcome, hm, h⟩ | ⟨-, ms, outcome, h⟩
  · rw [asked, h, asked]
  · have hasks : (Exchange.sent m outcome).asks = false := by
      cases m with
      | symbolsQuery => exact absurd rfl hm
      | _ => rfl
    rw [asked_append h, hasks]
    rfl
  · exact asked_append h

/-- Whether an event is a call for symbols that sends its query and gets no answer. -/
def goesUnanswered (s : Situation) : BridgeEvent → Bool
  | .observedSymbols carrier waits =>
    (s.fetch .symbolsQuery .symbolsAnswer carrier waits).1.isNone &&
      (s.after (.observedSymbols carrier waits)).asked != s.asked
  | _ => false

def AllAnswered (s : Situation) : List BridgeEvent → Prop
  | [] => True
  | e :: es => s.goesUnanswered e = false ∧ (s.after e).AllAnswered es

structure Settled (s : Situation) : Prop where
  waiting : s.waiting .symbolsAnswer = none
  answered : (s.arrivals .symbolsAnswer).length = s.asked

theorem Settled.of_asked (hsettled : s.Settled) (hs : s.Sound) (ht : t.RepliedBy reply)
    (hst : Steps kinds s t) (ha : t.asked = s.asked) : t.Settled := by
  obtain ⟨ms, hf⟩ : ∃ ms, Filed kinds .symbolsAnswer s t ms := filed_steps hs rfl hst
  have hle := ht.replied.1
  have hlength := congrArg List.length hf.arrivals
  rw [List.length_append] at hlength
  have hms : ms = [] := by
    rw [hsettled.answered] at hlength
    exact List.length_eq_zero_iff.mp (by omega)
  refine ⟨?_, ?_⟩
  · rcases hf.waiting with hw | ⟨hw, -⟩
    · rw [hw, hms, hsettled.waiting]
      rfl
    · exact hw
  · rw [hlength, hms, hsettled.answered, ha]
    rfl

theorem Settled.fetched (hsettled : s.Settled) (hs : s.Sound) (ht : t.RepliedBy reply) {m : Message}
    {carrier : Carrier} {waits : List Inbound}
    (hm : s.fetch .symbolsQuery .symbolsAnswer carrier waits = (some m, t)) : t.Settled := by
  have hnow : Steps [] s s := Relation.ReflTransGen.refl
  obtain ⟨-, hw, since, ha, hlast⟩ := hs.fetched rfl hsettled.waiting hnow hm
  have hle := ht.replied.1
  have hlength := congrArg List.length ha
  have hpos : 0 < since.length := List.length_pos_of_mem (List.mem_of_getLast? hlast)
  rw [List.length_append, hsettled.answered] at hlength
  rw [asked_fetch hm] at hle
  refine ⟨hw, ?_⟩
  rw [asked_fetch hm]
  omega

theorem Settled.after (hsettled : s.Settled) (hs : s.Sound) {e : BridgeEvent}
    (ht : (s.after e).RepliedBy reply) (he : s.goesUnanswered e = false) : (s.after e).Settled := by
  have hst := steps_after s e
  by_cases hfetch : ∃ carrier waits, e = .observedSymbols carrier waits
  · obtain ⟨carrier, waits, rfl⟩ := hfetch
    have hsnd : (s.fetch .symbolsQuery .symbolsAnswer carrier waits).2 =
        s.after (.observedSymbols carrier waits) := (observedSymbols_snd s carrier waits).symm
    rw [goesUnanswered] at he
    rcases hm : (s.fetch .symbolsQuery .symbolsAnswer carrier waits).1 with _ | m
    · rw [hm] at he
      exact hsettled.of_asked hs ht hst (by simpa using he)
    · exact hsettled.fetched hs ht (Prod.ext hm hsnd)
  · refine hsettled.of_asked hs ht hst (asked_after s fun carrier waits h => ?_)
    exact hfetch ⟨carrier, waits, h⟩

theorem Settled.run (hsettled : s.Settled) (hs : s.Sound) {es : List BridgeEvent}
    (ht : (s.run es).RepliedBy reply) (hes : s.AllAnswered es) : (s.run es).Settled := by
  induction es generalizing s with
  | nil => exact hsettled
  | cons e es ih =>
    have hnext : (s.after e).RepliedBy reply := ht.of_prefix (exchanges_steps (steps_run _ es))
    have hsound : (s.after e).Sound := (sound_steps hs (steps_after s e)).1
    exact ih (hsettled.after hs hnext hes.1) hsound ht hes.2

theorem settled_idle (config : Config) : (idle config).Settled := ⟨rfl, rfl⟩

/-- In every run with a viewer that answers the queries in their order, each once and after any
delay, a call that gives any symbols has sent a query. The symbols are the answer that was read last,
which answers this query or an earlier one. It answers this one if no call before it has sent a query
and got no answer. -/
theorem run_symbolsReplies (config : Config) (es : List BridgeEvent) (carrier : Carrier)
    (waits : List Inbound) (reply : Nat → List String) :
    let s := (idle config).run es
    let symbols := (s.observedSymbols carrier waits).1
    let t := s.after (.observedSymbols carrier waits)
    t.RepliedBy reply → symbols ≠ [] →
      t.asked = s.asked + 1 ∧
        ∃ n ≤ s.asked, symbols = reply n ∧ (t.arrivals .symbolsAnswer).length = n + 1 ∧
          ((idle config).AllAnswered es → n = s.asked) := by
  intro s symbols t ht hsymbols
  have hs : s.Sound := sound_run config es
  have hgiven : symbols = _ := observedSymbols_fst s carrier waits
  have hsnd : (s.fetch .symbolsQuery .symbolsAnswer carrier waits).2 = t :=
    (observedSymbols_snd s carrier waits).symm
  rcases hm : (s.fetch .symbolsQuery .symbolsAnswer carrier waits).1 with _ | m <;> rw [hm] at hgiven
  · exact absurd hgiven hsymbols
  have hfetch : s.fetch .symbolsQuery .symbolsAnswer carrier waits = (some m, t) := Prod.ext hm hsnd
  obtain ⟨-, -, since, ha, hlast⟩ := (sound_idle config).fetched rfl rfl (steps_run _ es) hfetch
  have hread : (t.arrivals .symbolsAnswer).getLast? = some m := by
    rw [ha]
    exact hlast
  obtain ⟨n, hn, rfl⟩ := ht.getLast?_arrivals hread
  have hasked : t.asked = s.asked + 1 := asked_fetch hfetch
  have hle := ht.replied.1
  refine ⟨hasked, n, by omega, hgiven, hn, fun hall => ?_⟩
  have hearlier : s.RepliedBy reply :=
    ht.of_prefix (exchanges_steps (steps_after s (.observedSymbols carrier waits)))
  have hsettled : s.Settled := (settled_idle config).run (sound_idle config) hearlier hall
  have hanswered := (hsettled.fetched hs ht hfetch).answered
  omega

/-- A run in which the viewer is asked twice and answers in time. -/
theorem run_symbolsReplies_prompt :
    let o : Opening :=
      { spawner := fun _ => .ok (), port := .ok 9, attempts := fun _ => { outcome := .connected 0 } }
    let reply : Nat → List String := fun n => if n = 0 then ["a"] else ["b", "c"]
    let answer (n : Nat) : Inbound := { bytes := (Message.symbolsAnswer (reply n)).frame }
    let first : BridgeEvent := .observedSymbols (fun _ => .complete) [{}, answer 0]
    let second : BridgeEvent := .observedSymbols (fun _ => .complete) [answer 1]
    let s := (idle {}).run [.start o, first]
    (s.after second).RepliedBy reply ∧ (idle {}).AllAnswered [.start o, first] ∧ s.asked = 1 ∧
      (s.observedSymbols (fun _ => .complete) [answer 1]).1 = reply 1 := by
  intro o reply answer first second s
  have ht : (s.after second).RepliedBy reply := by decide +kernel
  have hall : (idle {}).AllAnswered [.start o, first] := by
    refine ⟨?_, ?_, trivial⟩ <;> decide +kernel
  have hasked : s.asked = 1 := by decide +kernel
  have hsymbols : (s.observedSymbols (fun _ => .complete) [answer 1]).1 ≠ [] := by decide +kernel
  obtain ⟨-, n, -, hn, -, hown⟩ :=
    run_symbolsReplies {} [.start o, first] (fun _ => .complete) [answer 1] reply ht hsymbols
  have hnumber : n = 1 := (hown hall).trans hasked
  rw [hnumber] at hn
  exact ⟨ht, hall, hasked, hn⟩

/-- A run in which the first call is over before the viewer answers. The second call gives the answer
to the first query, and the answer to its own query comes after it. -/
theorem observedSymbols_of_late_reply :
    let o : Opening :=
      { spawner := fun _ => .ok (), port := .ok 9, attempts := fun _ => { outcome := .connected 0 } }
    let reply : Nat → List String := fun n => if n = 0 then ["late"] else ["own"]
    let answer (n : Nat) : Inbound := { bytes := (Message.symbolsAnswer (reply n)).frame }
    let call : BridgeEvent := .observedSymbols (fun _ => .complete) [{}]
    let s := (idle {}).run [.start o, call, .arrives (answer 0)]
    let t := (s.after call).run [.arrives (answer 1), .takePlotRequests {}]
    t.RepliedBy reply ∧ t.asked = 2 ∧ (t.arrivals .symbolsAnswer).length = 2 ∧
      s.asked = 1 ∧ (s.observedSymbols (fun _ => .complete) [{}]).1 = reply 0 ∧
      reply 0 ≠ reply 1 ∧ reply 0 ≠ [] := by
  decide +kernel

end Situation
end ViewerBridge
