import ViewerBridge.Json.Skip
import ViewerBridge.Proofs.Json.Grammar
/-!
# Passing over values

Every value of the grammar is passed over, to any depth: inside brackets the check comes to the place
behind the value, and outside of all brackets it gives what follows.
-/
namespace ViewerBridge.Json

namespace Skip

variable {bs outer : List Bracket} {place : Place} {c : Char}

def Place.isPlain : Place → Bool
  | .number _ | .escape _ => false
  | _ => true

theorem run_cons (hp : ∀ isKey, place ≠ .escape isKey) (he : endsBefore bs place c = false)
    (cs : List Char) : run bs place (c :: cs) =
      match step bs place c with
      | .go bs place => run bs place cs
      | .done => .ok cs
      | .fail => .error .malformed := by
  rw [run]
  · rw [he]
    rfl
  · exact fun isKey h _ => hp isKey h
  · exact fun isKey _ _ _ _ _ h _ _ => hp isKey h

theorem run_plain (hp : place.isPlain = true) (cs : List Char) : run bs place (c :: cs) =
      match step bs place c with
      | .go bs place => run bs place cs
      | .done => .ok cs
      | .fail => .error .malformed := by
  refine run_cons ?_ ?_ cs
  · rintro isKey rfl
    cases hp
  · unfold endsBefore
    split
    · cases hp
    · rfl

theorem run_go (hp : place.isPlain = true) {bs' : List Bracket} {place' : Place}
    (h : step bs place c = .go bs' place') (cs : List Char) :
    run bs place (c :: cs) = run bs' place' cs := by
  rw [run_plain hp, h]

/-- What is left to do behind a value: nothing, or to go on inside the brackets. -/
def finish (bs : List Bracket) (rest : List Char) : Except Fault (List Char) :=
  match bs with
  | [] => .ok rest
  | bs => run bs .afterValue rest

theorem finish_cons (b : Bracket) (bs : List Bracket) (rest : List Char) :
    finish (b :: bs) rest = run (b :: bs) .afterValue rest := rfl

theorem run_ended (hp : place.isPlain = true) (h : step bs place c = ended outer)
    (cs : List Char) : run bs place (c :: cs) = finish outer cs := by
  rw [run_plain hp, h]
  cases outer <;> rfl

def Place.Waits (place : Place) : Prop :=
  place.isPlain = true ∧ ∀ bs c, isBlank c = true → step bs place c = .go bs place

theorem run_blanks (hp : place.Waits) {ws : List Char} (hw : Blanks ws) (cs : List Char) :
    run bs place (ws ++ cs) = run bs place cs := by
  induction ws with
  | nil => rfl
  | cons w ws ih =>
    have hblank := hp.2 bs w (hw w List.mem_cons_self)
    rw [List.cons_append, run_go hp.1 hblank, ih fun c hc => hw c (List.mem_cons_of_mem _ hc)]

theorem waits_value : Place.value.Waits := ⟨rfl, fun _ _ h => if_pos h⟩

theorem waits_firstValue : Place.firstValue.Waits := ⟨rfl, fun _ _ h => if_pos h⟩

theorem waits_firstKey : Place.firstKey.Waits := ⟨rfl, fun _ _ h => if_pos h⟩

theorem waits_key : Place.key.Waits := ⟨rfl, fun _ _ h => if_pos h⟩

theorem waits_colon : Place.colon.Waits := ⟨rfl, fun _ _ h => if_pos h⟩

theorem waits_afterValue : Place.afterValue.Waits := ⟨rfl, fun _ _ h => if_pos h⟩

theorem run_piece {piece : List Char} (h : Piece piece) (isKey : Bool) (cs : List Char) :
    run bs (.string isKey) (piece ++ cs) = run bs (.string isKey) cs := by
  cases h with
  | plain high noQuote noEscape =>
    refine run_go rfl ?_ cs
    simp [step, noQuote, noEscape, Char.not_lt.mpr high]
  | @short e known =>
    have hu : e ≠ 'u' := by
      rintro rfl
      cases known
    have he : endsBefore bs (.escape isKey) e = false := by
      unfold endsBefore
      split <;> simp_all
    simp only [List.cons_append, List.nil_append]
    rw [run_go rfl rfl, run]
    · rw [he]
      simp [step, known]
    · exact fun _ _ h => hu h
    · exact fun _ _ _ _ _ _ _ h _ => hu h
  | unit digits =>
    simp only [List.cons_append, List.nil_append]
    rw [run_go rfl rfl, run, if_pos digits]

theorem run_inside {raw : List Char} (h : Inside raw) (isKey : Bool) (cs : List Char) :
    run bs (.string isKey) (raw ++ cs) = run bs (.string isKey) cs := by
  induction h with
  | nil => rfl
  | cons first more ih => rw [List.append_assoc, run_piece first, ih]

theorem run_number {part part' : NumberPart} {cs : List Char}
    (h : cs.foldlM NumberPart.next? part = some part') (rest : List Char) :
    run bs (.number part) (cs ++ rest) = run bs (.number part') rest := by
  induction cs generalizing part with
  | nil =>
    obtain rfl := Option.some.inj h
    rfl
  | cons c cs ih =>
    obtain ⟨next, hnext, hrest⟩ := Option.bind_eq_some_iff.mp h
    have he : endsBefore bs (.number part) c = false := by
      unfold endsBefore
      split <;> simp_all
    rw [List.cons_append, run_cons (by simp) he]
    simp only [step, hnext]
    exact ih hrest

theorem run_endNumber {part : NumberPart} (hp : part.mayEnd = true) {rest : List Char}
    (hr : Ends rest) : run bs (.number part) rest = finish bs rest := by
  cases rest with
  | nil => cases bs <;> simp [run, endsNumber, faultAtEnd, hp, finish]
  | cons c rest =>
    obtain ⟨hd, hpoint, he, hE⟩ := hr.not_numeric rfl
    have hnone : part.next? c = none := by
      cases part <;> simp_all [NumberPart.next?, NumberPart.mayEnd]
    cases bs with
    | nil =>
      rw [run]
      · simp [endsBefore, hp, hnone, hd, finish]
      all_goals simp
    | cons b bs =>
      rw [finish_cons, run_cons (by simp) rfl, run_cons (by simp) rfl]
      by_cases hb : isBlank c = true <;> simp [step, hnone, hp, hd, hb, ended]

def NumberPart.digit? : NumberPart → Option NumberPart
  | minus | zero => none
  | whole => some whole
  | point | fraction => some fraction
  | letter | sign | exponent => some exponent

theorem next?_of_digit {part next : NumberPart} (hpart : part.digit? = some next) {c : Char}
    (hc : c.isDigit = true) : part.next? c = some next := by
  cases part <;> cases hpart <;> simp [NumberPart.next?, hc]

theorem foldlM_stays {part : NumberPart} (hpart : part.digit? = some part) {ds : List Char}
    (hd : ∀ c ∈ ds, c.isDigit = true) : ds.foldlM NumberPart.next? part = some part := by
  induction ds with
  | nil => rfl
  | cons c ds ih =>
    rw [List.foldlM_cons, next?_of_digit hpart (hd c List.mem_cons_self)]
    exact ih fun d hm => hd d (List.mem_cons_of_mem _ hm)

theorem foldlM_digits {part next : NumberPart} (hpart : part.digit? = some next)
    (hnext : next.digit? = some next) {ds : List Char} (h : Digits ds) :
    ds.foldlM NumberPart.next? part = some next := by
  obtain ⟨hne, hd⟩ := h
  obtain ⟨c, ds, rfl⟩ := List.exists_cons_of_ne_nil hne
  rw [List.foldlM_cons, next?_of_digit hpart (hd c List.mem_cons_self)]
  exact foldlM_stays hnext fun d hm => hd d (List.mem_cons_of_mem _ hm)

structure NumberPart.MayGrow (part : NumberPart) : Prop where
  mayEnd : part.mayEnd = true
  letter : ∀ e, e = 'e' ∨ e = 'E' → part.next? e = some .letter

theorem foldlM_whole {ds : List Char} (h : IsWhole ds) :
    ∃ c cs first, ds = c :: cs ∧ c.isDigit = true ∧ NumberPart.minus.next? c = some first ∧
      (∀ bs, startValue bs c = .go bs (.number first)) ∧
      cs.foldlM NumberPart.next? first = some first ∧ first.next? '.' = some .point ∧
      first.MayGrow := by
  obtain ⟨⟨hne, hd⟩, hzero⟩ := h
  obtain ⟨c, cs, rfl⟩ := List.exists_cons_of_ne_nil hne
  have hc := hd c List.mem_cons_self
  by_cases h0 : c = '0'
  · subst h0
    obtain rfl : cs = [] := (List.cons.inj (hzero rfl)).2
    refine ⟨'0', [], .zero, rfl, hc, rfl, fun _ => rfl, rfl, rfl, rfl, ?_⟩
    rintro e (rfl | rfl) <;> rfl
  · refine ⟨c, cs, .whole, rfl, hc, ?_, fun bs => ?_, ?_, rfl, rfl, ?_⟩
    · simp [NumberPart.next?, h0, hc]
    · unfold startValue
      split
      all_goals first | exact if_pos hc | exact absurd hc (by decide) | exact absurd rfl h0
    · exact foldlM_stays rfl fun d hm => hd d (List.mem_cons_of_mem _ hm)
    · rintro e (rfl | rfl) <;> rfl

theorem foldlM_fraction {cs : List Char} (h : IsFraction cs) {part : NumberPart}
    (hpoint : part.next? '.' = some .point) (hp : part.MayGrow) :
    ∃ part', cs.foldlM NumberPart.next? part = some part' ∧ part'.MayGrow := by
  cases h with
  | none => exact ⟨part, rfl, hp⟩
  | point digits =>
    refine ⟨.fraction, ?_, rfl, ?_⟩
    · rw [List.foldlM_cons, hpoint]
      exact foldlM_digits rfl rfl digits
    · rintro e (rfl | rfl) <;> rfl

theorem foldlM_exponent {cs : List Char} (h : IsExponent cs) {part : NumberPart}
    (hp : part.MayGrow) :
    ∃ part', cs.foldlM NumberPart.next? part = some part' ∧ part'.mayEnd = true := by
  cases h with
  | none => exact ⟨part, rfl, hp.mayEnd⟩
  | @letter e sign ds small signed digits =>
    refine ⟨.exponent, ?_, rfl⟩
    rw [List.foldlM_cons, hp.letter e small]
    simp only [List.mem_cons, List.not_mem_nil, or_false] at signed
    have hsigned : ds.foldlM NumberPart.next? .sign = some .exponent := foldlM_digits rfl rfl digits
    rcases signed with rfl | rfl | rfl
    · exact foldlM_digits rfl rfl digits
    · exact hsigned
    · exact hsigned

theorem number_start {cs : List Char} (h : IsNumber cs) :
    ∃ c rest first last, cs = c :: rest ∧ (c = '-' ∨ c.isDigit = true) ∧
      (∀ bs, startValue bs c = .go bs (.number first)) ∧
      rest.foldlM NumberPart.next? first = some last ∧ last.mayEnd = true := by
  cases h with
  | @parts sign whole fraction exponent signed isWhole isFraction isExponent =>
    obtain ⟨c, ds, first, rfl, hc, hminus, hstart, hfold, hpoint, hgrow⟩ := foldlM_whole isWhole
    obtain ⟨middle, hmiddle, hgrow'⟩ := foldlM_fraction isFraction hpoint hgrow
    obtain ⟨last, hlast, hend⟩ := foldlM_exponent isExponent hgrow'
    have htail : (ds ++ (fraction ++ exponent)).foldlM NumberPart.next? first = some last := by
      simp [List.foldlM_append, hfold, hmiddle, hlast]
    simp only [List.mem_cons, List.not_mem_nil, or_false] at signed
    rcases signed with rfl | rfl
    · exact ⟨c, _, first, last, rfl, .inr hc, hstart, htail, hend⟩
    · refine ⟨'-', c :: (ds ++ (fraction ++ exponent)), .minus, last, rfl, .inl rfl,
        fun _ => rfl, ?_, hend⟩
      rw [List.foldlM_cons, hminus]
      exact htail

theorem run_value_number {cs : List Char} (h : IsNumber cs) {rest : List Char} (hr : Ends rest) :
    run bs .value (cs ++ rest) = finish bs rest := by
  obtain ⟨c, tail, first, last, rfl, hc, hstart, hfold, hend⟩ := number_start h
  have hblank : isBlank c = false := by
    rcases hc with rfl | hc
    · rfl
    · exact not_isBlank_of_isDigit hc
  have hgo : step bs .value c = .go bs (.number first) := by
    rw [step, hblank]
    exact hstart bs
  rw [List.cons_append, run_go rfl hgo, run_number hfold, run_endNumber hend hr]

theorem run_value_word {w : List Char} (h : w ∈ [['n', 'u', 'l', 'l'], ['t', 'r', 'u', 'e'],
    ['f', 'a', 'l', 's', 'e']]) (rest : List Char) : run bs .value (w ++ rest) = finish bs rest := by
  simp only [List.mem_cons, List.not_mem_nil, or_false] at h
  rcases h with rfl | rfl | rfl
  · exact (run_go rfl rfl _).trans ((run_go rfl rfl _).trans
      ((run_go rfl rfl _).trans (run_ended rfl rfl rest)))
  · exact (run_go rfl rfl _).trans ((run_go rfl rfl _).trans
      ((run_go rfl rfl _).trans (run_ended rfl rfl rest)))
  · exact (run_go rfl rfl _).trans ((run_go rfl rfl _).trans ((run_go rfl rfl _).trans
      ((run_go rfl rfl _).trans (run_ended rfl rfl rest))))

theorem run_string {raw : List Char} (h : Inside raw) (rest : List Char) :
    run bs .value ('"' :: (raw ++ '"' :: rest)) = finish bs rest := by
  rw [run_go rfl rfl, run_inside h]
  exact run_ended rfl rfl rest

theorem run_key {raw between : List Char} (h : Inside raw) (hb : Blanks between)
    (cs : List Char) :
    run bs .key ('"' :: (raw ++ '"' :: (between ++ ':' :: cs))) = run bs .value cs := by
  rw [run_go rfl rfl, run_inside h, run_go rfl rfl, run_blanks waits_colon hb]
  exact run_go rfl rfl cs

def Opens (cs : List Char) : Prop :=
  ∃ ws c tail, cs = ws ++ c :: tail ∧ Blanks ws ∧ isBlank c = false ∧ c ≠ ']' ∧ c ≠ '\x7d'

theorem opens_cons {c : Char} (h : isBlank c = false ∧ c ≠ ']' ∧ c ≠ '\x7d') (tail : List Char) :
    Opens (c :: tail) := ⟨[], c, tail, rfl, fun _ h => (nomatch h), h⟩

theorem Opens.append {cs : List Char} (h : Opens cs) (more : List Char) : Opens (cs ++ more) := by
  obtain ⟨ws, c, tail, rfl, hw, hc⟩ := h
  exact ⟨ws, c, tail ++ more, by rw [List.append_assoc, List.cons_append], hw, hc⟩

theorem Opens.behind {ws cs : List Char} (hw : Blanks ws) (h : Opens cs) : Opens (ws ++ cs) := by
  obtain ⟨ws', c, tail, rfl, hw', hc⟩ := h
  refine ⟨ws ++ ws', c, tail, by rw [List.append_assoc], fun d hd => ?_, hc⟩
  exact (List.mem_append.mp hd).elim (hw d) (hw' d)

theorem opens_of_derives {p : Phrase} {cs : List Char} (h : Derives p cs) : Opens cs := by
  induction h with
  | word known =>
    simp only [List.mem_cons, List.not_mem_nil, or_false] at known
    rcases known with rfl | rfl | rfl <;> exact opens_cons (by decide) _
  | number isNumber =>
    obtain ⟨c, tail, -, -, rfl, hc, -⟩ := number_start isNumber
    rcases hc with rfl | hc
    · exact opens_cons (by decide) tail
    · refine opens_cons ⟨not_isBlank_of_isDigit hc, ?_, ?_⟩ tail <;>
        · rintro rfl
          cases hc
  | string | noElements | array | noMembers | object => exact opens_cons (by decide) _
  | element blanks value blanks' ih => exact .behind blanks (ih.append _)
  | lastElement element ih => exact ih
  | elements element rest ih ih' => exact ih.append _
  | member blanks => exact .behind blanks (opens_cons (by decide) _)
  | lastMember member ih => exact ih
  | members member rest ih ih' => exact ih.append _

theorem run_firstValue {cs : List Char} (h : Opens cs) :
    run bs .firstValue cs = run bs .value cs := by
  obtain ⟨ws, c, tail, rfl, hw, hblank, hc, -⟩ := h
  have hstep : step bs .firstValue c = step bs .value c := by simp [step, hblank, hc]
  rw [run_blanks waits_firstValue hw, run_blanks waits_value hw, run_plain rfl, run_plain rfl,
    hstep]

theorem run_firstKey {cs : List Char} (h : Opens cs) :
    run bs .firstKey cs = run bs .key cs := by
  obtain ⟨ws, c, tail, rfl, hw, hblank, -, hc⟩ := h
  have hstep : step bs .firstKey c = step bs .key c := by simp [step, hblank, hc]
  rw [run_blanks waits_firstKey hw, run_blanks waits_key hw, run_plain rfl, run_plain rfl, hstep]

/-- What comes of a phrase: the check ends behind it. -/
def Passed : Phrase → List Char → Prop
  | .value, cs => ∀ bs rest, Ends rest → run bs .value (cs ++ rest) = finish bs rest
  | .element, cs => ∀ b bs rest, Ends rest →
    run (b :: bs) .value (cs ++ rest) = run (b :: bs) .afterValue rest
  | .elements, cs => ∀ bs rest, run (.array :: bs) .value (cs ++ ']' :: rest) = finish bs rest
  | .member, cs => ∀ bs rest, Ends rest →
    run (.object :: bs) .key (cs ++ rest) = run (.object :: bs) .afterValue rest
  | .members, cs => ∀ bs rest, run (.object :: bs) .key (cs ++ '\x7d' :: rest) = finish bs rest

theorem passed {p : Phrase} {cs : List Char} (h : Derives p cs) : Passed p cs := by
  induction h with
  | word known => exact fun _ rest _ => run_value_word known rest
  | number isNumber => exact fun _ _ hr => run_value_number isNumber hr
  | string inside =>
    intro bs rest _
    rw [List.cons_append, List.append_assoc]
    exact run_string inside rest
  | noElements blanks =>
    intro bs rest _
    rw [List.cons_append, List.append_assoc, run_go rfl rfl, run_blanks waits_firstValue blanks]
    exact run_ended rfl rfl rest
  | array elements ih =>
    intro bs rest _
    have hopens : Opens _ := (opens_of_derives elements).append (']' :: rest)
    rw [List.cons_append, List.append_assoc, run_go rfl rfl]
    exact (run_firstValue hopens).trans (ih bs rest)
  | noMembers blanks =>
    intro bs rest _
    rw [List.cons_append, List.append_assoc, run_go rfl rfl, run_blanks waits_firstKey blanks]
    exact run_ended rfl rfl rest
  | object members ih =>
    intro bs rest _
    have hopens : Opens _ := (opens_of_derives members).append ('\x7d' :: rest)
    rw [List.cons_append, List.append_assoc, run_go rfl rfl]
    exact (run_firstKey hopens).trans (ih bs rest)
  | element blanks value blanks' ih =>
    intro b bs rest hr
    rw [List.append_assoc, List.append_assoc, run_blanks waits_value blanks,
      ih _ _ (hr.append blanks'), finish_cons, run_blanks waits_afterValue blanks']
  | lastElement element ih =>
    intro bs rest
    rw [ih _ _ _ (ends_cons (.inr (.inl rfl)) rest)]
    exact run_ended rfl rfl rest
  | elements element rest ih ih' =>
    intro bs more
    rw [List.append_assoc, List.cons_append, ih _ _ _ (ends_cons (.inl rfl) _), run_go rfl rfl]
    exact ih' bs more
  | member blanks inside blanks' element ih =>
    intro bs rest hr
    simp only [List.append_assoc, List.cons_append]
    rw [run_blanks waits_key blanks, run_key inside blanks', ih _ _ _ hr]
  | lastMember member ih =>
    intro bs rest
    rw [ih _ _ (ends_cons (.inr (.inr rfl)) rest)]
    exact run_ended rfl rfl rest
  | members member rest ih ih' =>
    intro bs more
    rw [List.append_assoc, List.cons_append, ih _ _ (ends_cons (.inl rfl) _), run_go rfl rfl]
    exact ih' bs more

end Skip

theorem skipValue_derives {ws v rest : List Char} (hw : Blanks ws) (h : Derives .value v)
    (hr : Ends rest) : skipValue (ws ++ (v ++ rest)) = .ok ((), rest) := by
  have hrun : Skip.run [] .value (v ++ rest) = .ok rest := Skip.passed h [] rest hr
  rw [skipValue, Skip.run_blanks Skip.waits_value hw, hrun]
  rfl

end ViewerBridge.Json
