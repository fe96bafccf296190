import ViewerBridge.Proofs.Boundary.Plotting
import ViewerBridge.Proofs.Bridge.Awaiting
import ViewerBridge.Proofs.Json.TextLists
/-!
# Lists of symbols at the boundary

The symbols that a viewer watches come to the host as one text, and what the host gives back goes to a
viewer as a list again. The text holds no zero at which the host would see its end, and stands for the
list it was written of, so neither way loses a symbol or a character.
-/
namespace ViewerBridge

namespace Situation

/-- A bridge whose query reaches the viewer and that waits for the answer, with no answer waiting and
nothing else left to be read. -/
structure Asking (s : Situation) (carrier : Carrier) : Prop where
  up : s.Up
  waits : s.bridge.config.requestTimeout ≠ .zero
  none : s.bridge.pending.contains .symbolsAnswer = false
  read : s.unread = []
  following : s.inbound.ended = false
  sent : (s.send .symbolsQuery carrier).1.isOk = true

theorem Asking.observedSymbols {s : Situation} {carrier : Carrier} (ha : s.Asking carrier)
    (hs : s.Sound) (hc : s.Custody) (hf : s.Following) {symbols : List String}
    (hfit : (Message.symbolsAnswer symbols).Fits) (later : List Inbound) :
    (s.observedSymbols carrier
      ({ bytes := (Message.symbolsAnswer symbols).frame } :: later)).1 = symbols := by
  let answer : Inbound := { bytes := (Message.symbolsAnswer symbols).frame }
  obtain ⟨r, hreader⟩ := hs.reader? ha.up.1
  have hready : s.isReady = (true, s) := hs.isReady_of_up hc ha.up
  have houtstanding : (s.arrives answer).outstanding = ([.symbolsAnswer symbols], .ok []) := by
    have hdrain := Frames.drain_frame_append hfit []
    rw [List.append_nil] at hdrain
    rw [outstanding, unread_arrives hreader, ha.read, ha.following, List.nil_append]
    exact hdrain.trans rfl
  have hon : (s.arrives answer).readsOn = true := by
    rw [readsOn, houtstanding, ended_arrives hreader, ha.following]
    rfl
  have hwaiting : s.waiting .symbolsAnswer = .none := by
    simpa [Pending.contains, waiting] using ha.none
  obtain ⟨u, hsent⟩ : ∃ u, s.send .symbolsQuery carrier = (.ok (), u) := by
    have hok := ha.sent
    rcases hsend : s.send .symbolsQuery carrier with ⟨_ | _, u⟩ <;> rw [hsend] at hok
    · cases hok
    · exact ⟨u, rfl⟩
  obtain ⟨⟨hu, huf, hur⟩, hahead, hkept, hconfig⟩ := hs.sent hf hsent
  have hheard : Ahead [] (s.arrives answer) (u.arrives answer) := hahead.arrives answer
  have houtstanding' : (u.arrives answer).outstanding = ([.symbolsAnswer symbols], .ok []) := by
    rw [← houtstanding, hheard.outstanding]
    rfl
  have hlast : (((u.hears []).arrives answer).outstanding.1.filter
      (·.kind = .symbolsAnswer)).getLast? = some (.symbolsAnswer symbols) := by
    rw [hears, List.foldl_nil, houtstanding']
    rfl
  have hcall := hu.await_heard huf rfl hur ((hkept _).trans hwaiting) (fun h => absurd rfl h) later
    hlast
  have hfetch : s.fetch .symbolsQuery .symbolsAnswer carrier (answer :: later) = _ :=
    fetch_of_sent hready hsent _
  rw [hconfig, if_neg ha.waits] at hfetch
  rw [observedSymbols_fst, hfetch]
  rcases hcall with ⟨-, hgiven, -⟩ | ⟨hoff, -⟩
  · exact hgiven ▸ rfl
  · rw [hears, List.foldl_nil, ← hheard.readsOn, hon] at hoff
    cases hoff

end Situation

namespace Boundary

theorem terminated?_writeTexts (symbols : List String) :
    Utf8.terminated? (Json.writeTexts symbols) = some (Json.writeTexts symbols) :=
  Utf8.terminated?_eq_some _ (Json.zero_not_mem_writeTexts symbols)

theorem setSymbols_writeTexts (symbols : List String) (carrier : Carrier) (wording : Json.Wording)
    (s : Situation) :
    setSymbols (some (Utf8.encode (Json.writeTexts symbols) ++ [0])) carrier wording s =
      lift .bridge (s.push (.availableSymbols symbols) carrier) := by
  have hzero : 0 ∉ Utf8.encode (Json.writeTexts symbols) := fun h =>
    Json.zero_not_mem_writeTexts symbols ((Utf8.zero_mem_encode _).mp h)
  rw [setSymbols, ForeignText.required_terminated hzero]
  simp only [Json.Scan.document_writeTexts]
  rfl

variable {b : Boundary} {h : Handle} {held : Holding}

theorem answer_getObservedSymbols (hheld : b.holding? h = some held) (carrier : Carrier)
    (waits : List Inbound) :
    (b.answer (.getObservedSymbols h carrier waits)).1 =
      .text (some (Json.writeTexts (held.situation.observedSymbols carrier waits).1)) := by
  rw [← terminated?_writeTexts]
  simp [answer, withBridge, hheld]

/-- In every state that the host can reach, the symbols that a viewer answers with come to the host as
a text without a zero, never as a null pointer. Given back in any such state, on any live handle, that
text has exactly the list sent that it was written of. What is written to the viewer is one frame,
which is taken off as that list if the wire carries it. -/
theorem run_symbolLists {log : List Occurrence} (hb : Runs {} log b)
    (hheld : b.holding? h = some held) (carrier : Carrier) (waits : List Inbound) :
    let symbols := (held.situation.observedSymbols carrier waits).1
    (∀ list later, held.situation.Asking carrier → (Message.symbolsAnswer list).Fits →
        waits = { bytes := (Message.symbolsAnswer list).frame } :: later → symbols = list) ∧
    ∃ text, (b.answer (.getObservedSymbols h carrier waits)).1 = .text (some text) ∧
      '\x00' ∉ text.toList ∧
      ∀ log' c h' held' carrier' wording, Runs {} log' c → c.holding? h' = some held' →
        let m := Message.availableSymbols symbols
        ∃ outcome t, held'.situation.Sending m (carrier' m.frame.length) outcome t ∧
          c.answer (.setAvailableSymbols h' (some (Utf8.encode text ++ [0])) carrier' wording) =
            (match outcome with
            | .ok () => (.flag true, c.store h' (some { held' with situation := t }))
            | .error e => (.flag false,
              { c.store h' (some { held' with situation := t }) with
                diagnostic := some (CallError.spellZeros
                  ((CallError.bridge e).chain .setAvailableSymbols)) })) ∧
          (outcome = .ok () → m.Fits →
            Frames.drain (t.writtenSince held'.situation) = ([m], .ok [])) := by
  intro symbols
  constructor
  · rintro list later hasking hfit rfl
    obtain ⟨hs, hc, hf⟩ := hb.sound hheld
    exact hasking.observedSymbols hs hc hf hfit later
  refine ⟨_, answer_getObservedSymbols hheld carrier waits, Json.zero_not_mem_writeTexts symbols, ?_⟩
  intro log' c h' held' carrier' wording hc hheld' m
  have hsending := hc.sending hheld' m carrier'
  have hset := setSymbols_writeTexts symbols carrier' wording held'.situation
  rcases hpush : held'.situation.push m carrier' with ⟨outcome, t⟩
  rw [hpush] at hsending hset
  refine ⟨outcome, t, hsending, ?_, ?_⟩
  · cases outcome with
    | ok _ =>
      have hattempt := attempt_of_ok hheld' .setAvailableSymbols hset
      exact congrArg (Prod.map Answer.flag id) hattempt
    | error e =>
      have hattempt := attempt_of_error hheld' .setAvailableSymbols hset
      exact congrArg (Prod.map Answer.flag id) hattempt
  · rintro rfl hfit
    exact hsending.drain_eq hfit

/-- A viewer answers with symbols that hold a zero, a quote, a backslash, control characters and such as
take several bytes. The text that the host gets is given back. -/
theorem run_symbolLists_escaped :
    let opening : Opening :=
      { spawner := fun _ => .ok (), port := .ok 9, attempts := fun _ => { outcome := .connected 0 } }
    let wording : Json.Wording := fun _ => ""
    let b := ((Script.call (.create (some 7) none (.ok ()) wording) fun _ =>
      .call (.start (some 0) opening) fun _ => .finish 0).run {}).boundary
    let held := (b.holding? (some 0)).getD { situation := .idle {}, callback := 0 }
    let list := ["a\x00b", "\"\\\x01\n\x7f", "", "é𝄞"]
    let text := "[\"a\\u0000b\",\"\\\"\\\\\\u0001\\n\x7f\",\"\",\"é𝄞\"]"
    let answer : Inbound := { bytes := (Message.symbolsAnswer list).frame }
    (b.answer (.getObservedSymbols (some 0) (fun _ => .complete) [answer])).1 = .text (some text) ∧
      ∃ t, b.answer (.setAvailableSymbols (some 0) (some (Utf8.encode text ++ [0]))
          (fun _ => .complete) wording) = (.flag true, b.store (some 0) (some { held with situation := t })) ∧
        Frames.drain (t.writtenSince held.situation) = ([.availableSymbols list], .ok []) := by
  intro opening wording b held list text answer
  have hb : Runs {} _ b := (Script.call (.create (some 7) none (.ok ()) wording) fun _ =>
    .call (.start (some 0) opening) fun _ => .finish 0).runs {}
  have hheld : b.holding? (some 0) = some held := holding?_eq_getD (by decide +kernel) _
  have hasking : held.situation.Asking fun _ => .complete :=
    ⟨⟨by decide +kernel, by decide +kernel, by decide +kernel⟩, by decide +kernel, by decide +kernel,
      by decide +kernel, by decide +kernel, by decide +kernel⟩
  obtain ⟨hsymbols, given, hgiven, -, hback⟩ :=
    run_symbolLists hb hheld (fun _ => .complete) [answer]
  have hlist := hsymbols list [] hasking (by decide +kernel) rfl
  have htext : (b.answer (.getObservedSymbols (some 0) (fun _ => .complete) [answer])).1 =
      .text (some text) := by decide +kernel
  obtain rfl : given = text := by
    rw [hgiven] at htext
    exact Option.some.inj (Answer.text.inj htext)
  obtain ⟨outcome, t, hsending, hanswer, hdrain⟩ :=
    hback _ b (some 0) held (fun _ => .complete) wording hb hheld
  rw [hlist] at hsending hdrain
  cases hsending with
  | refused down => exact absurd hasking.up down
  | sent => exact ⟨htext, t, hanswer, hdrain rfl (by decide +kernel)⟩
  | cut _ delivered => exact absurd rfl delivered

end Boundary
end ViewerBridge
