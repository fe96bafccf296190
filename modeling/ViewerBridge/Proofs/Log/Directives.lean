import Mathlib.Data.String.Basic
import ViewerBridge.Log.Directive
/-!
# How directives are written

A directive is a target, a span and a field in brackets, and a level after an equals sign. Reading
accepts exactly the texts that are written so, and what it gives is what was written, whatever
characters of however many bytes the target, the span and the field consist of.
-/
namespace ViewerBridge

namespace Utf8
open String (utf8Len utf8Len_cons)

theorem exists_utf8Len_cons (c : Char) (cs : List Char) : ∃ n, utf8Len (c :: cs) = n + 1 :=
  Nat.exists_eq_add_one.2 (Nat.add_pos_right _ c.utf8Size_pos)

theorem drop?_append (front rest : List Char) :
    drop? (utf8Len front) (front ++ rest) = some rest := by
  induction front with
  | nil => simp [drop?]
  | cons c front ih =>
    obtain ⟨n, hn⟩ := exists_utf8Len_cons c front
    rw [utf8Len_cons] at hn ⊢
    rw [hn, List.cons_append, drop?, if_pos (by omega), ← hn, Nat.add_sub_cancel, ih]

theorem take?_append (front rest : List Char) :
    take? (utf8Len front) (front ++ rest) = some front := by
  induction front with
  | nil => simp [take?]
  | cons c front ih =>
    obtain ⟨n, hn⟩ := exists_utf8Len_cons c front
    rw [utf8Len_cons] at hn ⊢
    rw [hn, List.cons_append, take?, if_pos (by omega), ← hn, Nat.add_sub_cancel, ih,
      Option.map_some]

end Utf8

namespace Log.Directive
open String (utf8Len utf8Len_nil utf8Len_cons utf8Len_append)

/-! ## The grammar -/

/-- The end of a directive: an equals sign and a level, either of which may be missing. -/
inductive Ending : Ceiling → List Char → Prop
  | missing : Ending (some .trace) []
  | bare : Ending (some .trace) ['=']
  | level {ceiling : Ceiling} {cs : List Char}
      (h : Ceiling.parse? (String.ofList cs) = some ceiling) : Ending ceiling ('=' :: cs)

inductive Brackets : Option String → Option Field → List Char → Prop
  | span {name : List Char} (hname : ∀ c ∈ name, c ≠ ']' ∧ c ≠ '\x7b') :
      Brackets (some (String.ofList name)) none ('[' :: (name ++ [']']))
  | field {name cs : List Char} {field : Field} (hname : ∀ c ∈ name, c ≠ ']' ∧ c ≠ '\x7b')
      (hcs : '\x7d' ∉ cs) (hfield : Field.parse? cs = some field) :
      Brackets (if name.isEmpty then none else some (String.ofList name)) (some field)
        ('[' :: (name ++ '\x7b' :: (cs ++ ['\x7d', ']'])))

structure IsTarget (cs : List Char) : Prop where
  begins : ∃ c ∈ cs.head?, canBegin c
  plain : ∀ c ∈ cs, c ≠ '[' ∧ c ≠ '='

/-- How a directive is written. A level that stands alone is one for all targets. -/
inductive Written : Directive → List Char → Prop
  | level {ceiling : Ceiling} {cs : List Char} (hcs : IsTarget cs)
      (h : Ceiling.parse? (String.ofList cs) = some ceiling) : Written ⟨"", none, none, ceiling⟩ cs
  | target {cs : List Char} (hcs : IsTarget cs) (h : Ceiling.parse? (String.ofList cs) = none) :
      Written ⟨String.ofList cs, none, none, some .trace⟩ cs
  | ended {target ending : List Char} {ceiling : Ceiling} (htarget : IsTarget target)
      (hending : Ending ceiling ending) (h : ending ≠ []) :
      Written ⟨String.ofList target, none, none, ceiling⟩ (target ++ ending)
  | bracketed {target brackets ending : List Char} {span : Option String} {field : Option Field}
      {ceiling : Ceiling} (htarget : target = [] ∨ IsTarget target)
      (hbrackets : Brackets span field brackets) (hending : Ending ceiling ending) :
      Written ⟨String.ofList target, span, field, ceiling⟩ (target ++ (brackets ++ ending))

/-! ## From a place on -/

theorem part_append (front middle rest : List Char) :
    part (front ++ (middle ++ rest)) (utf8Len front) (utf8Len (front ++ middle)) = .ok middle := by
  rw [part, utf8Len_append, Utf8.drop?_append, Option.bind_some, Nat.add_sub_cancel_left,
    Utf8.take?_append]

def readAfter (front cs : List Char) (state : Stage × Directive) : Except Fault Directive :=
  readFrom (front ++ cs) (utf8Len front) cs state >>= finish (front ++ cs)

variable {front middle name cs rest : List Char} {c : Char} {state state' : Stage × Directive}
  {target : String} {span : Option String} {field : Option Field} {d : Directive}

theorem readAfter_nil : readAfter front [] state = finish front state := by
  rw [readAfter, List.append_nil]
  rfl

theorem readAfter_cons (h : next (front ++ c :: cs) (utf8Len front) c state = .ok state') :
    readAfter front (c :: cs) state = readAfter (front ++ [c]) cs state' := by
  simp only [readAfter, readFrom, h, List.append_assoc, List.singleton_append, utf8Len_append,
    utf8Len_cons, utf8Len_nil, Nat.zero_add]
  rfl

theorem readAfter_cons_error {fault : Fault}
    (h : next (front ++ c :: cs) (utf8Len front) c state = .error fault) :
    readAfter front (c :: cs) state = .error fault := by
  rw [readAfter, readFrom, h]
  rfl

theorem readAfter_append (h : ∀ c ∈ middle, ∀ text place, next text place c state = .ok state) :
    readAfter front (middle ++ rest) state = readAfter (front ++ middle) rest state := by
  induction middle generalizing front with
  | nil => rw [List.nil_append, List.append_nil]
  | cons c cs ih =>
    rw [List.cons_append, readAfter_cons (h c List.mem_cons_self _ _),
      ih fun d hd => h d (List.mem_cons_of_mem c hd), List.append_assoc, List.singleton_append]

theorem readAfter_eq_finish (h : ∀ c ∈ cs, ∀ text place, next text place c state = .ok state) :
    readAfter front cs state = finish (front ++ cs) state := by
  have happend : readAfter front (cs ++ []) state = readAfter (front ++ cs) [] state :=
    readAfter_append h
  rw [List.append_nil] at happend
  rw [happend, readAfter_nil]

theorem split_first (p : Char → Bool) (cs : List Char) :
    (∀ c ∈ cs, ¬ p c) ∨ ∃ front c rest, cs = front ++ c :: rest ∧ p c ∧ ∀ d ∈ front, ¬ p d := by
  cases h : cs.find? p with
  | none => exact .inl (List.find?_eq_none.1 h)
  | some c =>
    obtain ⟨hc, front, rest, rfl, hfront⟩ := List.find?_eq_some_iff_append.1 h
    exact .inr ⟨front, c, rest, rfl, hc, by simpa using hfront⟩

/-! ## The stages -/

theorem ending_iff {ceiling : Ceiling} :
    Ending ceiling ('=' :: cs) ↔
      if cs = [] then ceiling = some .trace
      else Ceiling.parse? (String.ofList cs) = some ceiling := by
  have hempty : Ceiling.parse? (String.ofList []) = none := by
    have hlower : (String.ofList []).map Char.toLower = "" := by
      rw [← String.toList_inj, String.toList_map]
      rfl
    simp only [Ceiling.parse?, hlower]
    decide
  constructor
  · rintro (_ | _ | h)
    · rfl
    · rw [if_neg]
      · exact h
      · rintro rfl
        rw [hempty] at h
        cases h
  · split
    next hcs =>
      rintro rfl
      exact hcs ▸ .bare
    next => exact .level

theorem readAfter_level :
    readAfter front cs (.level (utf8Len front), ⟨target, span, field, some .trace⟩) = .ok d ↔
      ∃ ceiling, Ending ceiling ('=' :: cs) ∧ d = ⟨target, span, field, ceiling⟩ := by
  rw [readAfter_eq_finish fun _ _ _ _ => rfl, finish, Utf8.drop?_append]
  simp only [ending_iff]
  cases cs with
  | nil => simp [eq_comm]
  | cons c cs =>
    cases h : Ceiling.parse? (String.ofList (c :: cs)) <;> simp [-String.ofList_cons, h, eq_comm]

theorem readAfter_equals {state : Stage × Directive}
    (h : next (front ++ '=' :: cs) (utf8Len front) '=' state =
      .ok (.level (utf8Len front + 1), ⟨target, span, field, some .trace⟩)) :
    readAfter front ('=' :: cs) state = .ok d ↔
      ∃ ceiling, Ending ceiling ('=' :: cs) ∧ d = ⟨target, span, field, ceiling⟩ := by
  have hplace : utf8Len front + 1 = utf8Len (front ++ ['=']) := by
    rw [utf8Len_append]
    rfl
  rw [readAfter_cons h, hplace, readAfter_level]

theorem readAfter_bracketEnd :
    readAfter front cs (.bracketEnd, ⟨target, span, field, some .trace⟩) = .ok d ↔
      ∃ ceiling, Ending ceiling cs ∧ d = ⟨target, span, field, ceiling⟩ := by
  cases cs with
  | nil =>
    have hmissing (ceiling : Ceiling) : Ending ceiling [] ↔ ceiling = some .trace :=
      ⟨fun h => by cases h; rfl, fun h => h ▸ .missing⟩
    simp [readAfter_nil, hmissing, finish, eq_comm]
  | cons c cs =>
    by_cases hc : c = '='
    · subst hc
      exact readAfter_equals rfl
    · have hnext : next (front ++ c :: cs) (utf8Len front) c
          (.bracketEnd, ⟨target, span, field, some .trace⟩) = .error .malformed := by
        rw [next, if_neg hc]
      rw [readAfter_cons_error hnext]
      constructor
      · intro h
        cases h
      · rintro ⟨ceiling, hending, -⟩
        cases hending <;> exact absurd rfl hc

theorem readAfter_fieldEnd :
    readAfter front cs (.fieldEnd, ⟨target, span, field, some .trace⟩) = .ok d ↔
      ∃ rest ceiling, cs = ']' :: rest ∧ Ending ceiling rest ∧
        d = ⟨target, span, field, ceiling⟩ := by
  cases cs with
  | nil => simp [readAfter_nil, finish]
  | cons c cs =>
    by_cases hc : c = ']'
    · subst hc
      rw [readAfter_cons rfl, readAfter_bracketEnd]
      simp
    · have hnext : next (front ++ c :: cs) (utf8Len front) c
          (.fieldEnd, ⟨target, span, field, some .trace⟩) = .error .malformed := by
        rw [next, if_neg hc]
      rw [readAfter_cons_error hnext]
      simp [hc]

theorem readAfter_field_closed (h : '\x7d' ∉ middle) :
    readAfter front (middle ++ '\x7d' :: rest)
        (.field (utf8Len front), ⟨target, span, none, some .trace⟩) =
      match Field.parse? middle with
      | some field =>
        readAfter (front ++ middle ++ ['\x7d']) rest
          (.fieldEnd, ⟨target, span, some field, some .trace⟩)
      | none => .error .malformed := by
  have hpart := part_append front middle ('\x7d' :: rest)
  rw [readAfter_append fun c hc _ _ => by rw [next, if_neg (ne_of_mem_of_not_mem hc h)]]
  have hnext : next (front ++ middle ++ '\x7d' :: rest) (utf8Len (front ++ middle)) '\x7d'
      (.field (utf8Len front), ⟨target, span, none, some .trace⟩) =
        match Field.parse? middle with
        | some field => .ok (.fieldEnd, ⟨target, span, some field, some .trace⟩)
        | none => .error .malformed := by
    rw [next, if_pos rfl, List.append_assoc, hpart]
    rfl
  cases hfield : Field.parse? middle with
  | some field =>
    rw [hfield] at hnext
    exact readAfter_cons hnext
  | none =>
    rw [hfield] at hnext
    exact readAfter_cons_error hnext

theorem readAfter_field :
    readAfter front cs (.field (utf8Len front), ⟨target, span, none, some .trace⟩) = .ok d ↔
      ∃ text rest field ceiling, cs = text ++ '\x7d' :: ']' :: rest ∧ '\x7d' ∉ text ∧
        Field.parse? text = some field ∧ Ending ceiling rest ∧
        d = ⟨target, span, some field, ceiling⟩ := by
  constructor
  · intro h
    obtain hopen | ⟨middle, c, rest, rfl, hc, hmiddle⟩ := split_first (· = '\x7d') cs
    · have hstays : ∀ c ∈ cs, ¬ c = '\x7d' := by simpa using hopen
      rw [readAfter_eq_finish fun c hc _ _ => by rw [next, if_neg (hstays c hc)]] at h
      cases h
    · obtain rfl : c = '\x7d' := by simpa using hc
      have hmiddle : '\x7d' ∉ middle := fun hmem => hmiddle _ hmem (by simp)
      rw [readAfter_field_closed hmiddle] at h
      split at h
      next field hfield =>
        obtain ⟨rest, ceiling, rfl, hending, rfl⟩ := readAfter_fieldEnd.1 h
        exact ⟨middle, rest, field, ceiling, rfl, hmiddle, hfield, hending, rfl⟩
      next => cases h
  · rintro ⟨middle, rest, field, ceiling, rfl, hmiddle, hfield, hending, rfl⟩
    rw [readAfter_field_closed hmiddle, hfield]
    exact readAfter_fieldEnd.2 ⟨rest, ceiling, rfl, hending, rfl⟩

theorem readAfter_span_passes (h : ∀ c ∈ name, c ≠ ']' ∧ c ≠ '\x7b') :
    readAfter front (name ++ rest) (.span (utf8Len front), d) =
      readAfter (front ++ name) rest (.span (utf8Len front), d) :=
  readAfter_append fun c hc _ _ => by rw [next, if_neg (h c hc).1, if_neg (h c hc).2]

theorem readAfter_span_closed (h : ∀ c ∈ name, c ≠ ']' ∧ c ≠ '\x7b') :
    readAfter front (name ++ ']' :: rest)
        (.span (utf8Len front), ⟨target, none, none, some .trace⟩) = .ok d ↔
      ∃ ceiling, Ending ceiling rest ∧ d = ⟨target, some (String.ofList name), none, ceiling⟩ := by
  have hpart := part_append front name (']' :: rest)
  have hnext : next (front ++ name ++ ']' :: rest) (utf8Len (front ++ name)) ']'
      (.span (utf8Len front), ⟨target, none, none, some .trace⟩) =
        .ok (.bracketEnd, ⟨target, some (String.ofList name), none, some .trace⟩) := by
    rw [next, if_pos rfl, List.append_assoc, hpart]
    rfl
  rw [readAfter_span_passes h, readAfter_cons hnext, readAfter_bracketEnd]

theorem readAfter_span_field (h : ∀ c ∈ name, c ≠ ']' ∧ c ≠ '\x7b') :
    readAfter front (name ++ '\x7b' :: rest)
        (.span (utf8Len front), ⟨target, none, none, some .trace⟩) = .ok d ↔
      ∃ text ending field ceiling, rest = text ++ '\x7d' :: ']' :: ending ∧ '\x7d' ∉ text ∧
        Field.parse? text = some field ∧ Ending ceiling ending ∧
        d = ⟨target, if name.isEmpty then none else some (String.ofList name), some field,
          ceiling⟩ := by
  have hpart := part_append front name ('\x7b' :: rest)
  have hnext : next (front ++ name ++ '\x7b' :: rest) (utf8Len (front ++ name)) '\x7b'
      (.span (utf8Len front), ⟨target, none, none, some .trace⟩) =
        .ok (.field (utf8Len (front ++ name ++ ['\x7b'])),
          ⟨target, if name.isEmpty then none else some (String.ofList name), none,
            some .trace⟩) := by
    rw [next, if_neg (by decide), if_pos rfl, List.append_assoc, hpart,
      utf8Len_append (front ++ name)]
    rfl
  rw [readAfter_span_passes h, readAfter_cons hnext, readAfter_field]

theorem readAfter_span :
    readAfter front cs (.span (utf8Len front), ⟨target, none, none, some .trace⟩) = .ok d ↔
      ∃ span field brackets ending ceiling, '[' :: cs = brackets ++ ending ∧
        Brackets span field brackets ∧ Ending ceiling ending ∧
        d = ⟨target, span, field, ceiling⟩ := by
  constructor
  · intro h
    obtain hopen | ⟨name, c, rest, rfl, hc, hname⟩ :=
      split_first (fun c => c = ']' ∨ c = '\x7b') cs
    · have hname : ∀ c ∈ cs, c ≠ ']' ∧ c ≠ '\x7b' := by simpa using hopen
      rw [readAfter_eq_finish fun c hc _ _ => by
        rw [next, if_neg (hname c hc).1, if_neg (hname c hc).2]] at h
      cases h
    · have hname : ∀ c ∈ name, c ≠ ']' ∧ c ≠ '\x7b' := by simpa using hname
      obtain rfl | rfl : c = ']' ∨ c = '\x7b' := by simpa using hc
      · obtain ⟨ceiling, hending, rfl⟩ := (readAfter_span_closed hname).1 h
        exact ⟨_, _, _, rest, ceiling, by simp, .span hname, hending, rfl⟩
      · obtain ⟨text, ending, field, ceiling, rfl, htext, hfield, hending, rfl⟩ :=
          (readAfter_span_field hname).1 h
        exact ⟨_, _, _, ending, ceiling, by simp, .field hname htext hfield, hending, rfl⟩
  · rintro ⟨span, field, brackets, ending, ceiling, hcs, hbrackets, hending, rfl⟩
    cases hbrackets with
    | @span name hname =>
      obtain rfl : cs = name ++ ']' :: ending := by simpa using hcs
      exact (readAfter_span_closed hname).2 ⟨ceiling, hending, rfl⟩
    | @field name text field hname htext hfield =>
      obtain rfl : cs = name ++ '\x7b' :: (text ++ '\x7d' :: ']' :: ending) := by simpa using hcs
      exact (readAfter_span_field hname).2
        ⟨text, ending, field, ceiling, rfl, htext, hfield, hending, rfl⟩

/-! ## The whole text -/

theorem readAfter_target (h : IsTarget cs) :
    readAfter [] (cs ++ rest) (.start, {}) = readAfter cs rest (.target, {}) := by
  obtain ⟨⟨c, hc, hbegins⟩, hplain⟩ := h
  obtain ⟨cs, rfl⟩ := List.head?_eq_some_iff.1 hc
  have hnext : next (c :: (cs ++ rest)) 0 c (.start, {}) = .ok (.target, {}) := by
    rw [next, if_neg (hplain c List.mem_cons_self).1, if_pos hbegins]
  rw [List.cons_append, readAfter_cons hnext]
  refine readAfter_append fun d hd _ _ => ?_
  have hd := hplain d (List.mem_cons_of_mem c hd)
  rw [next, if_neg (by simp [hd.1, hd.2])]

theorem readAfter_target_alone (h : IsTarget cs) :
    readAfter [] cs (.start, {}) = finish cs (.target, {}) := by
  have htarget : readAfter [] (cs ++ []) (.start, {}) = readAfter cs [] (.target, {}) :=
    readAfter_target h
  rw [List.append_nil] at htarget
  rw [htarget, readAfter_nil]

theorem readAfter_target_equals (h : IsTarget cs) :
    readAfter [] (cs ++ '=' :: rest) (.start, {}) = .ok d ↔
      ∃ ceiling, Ending ceiling ('=' :: rest) ∧ d = ⟨String.ofList cs, none, none, ceiling⟩ := by
  have hpart := part_append [] cs ('=' :: rest)
  rw [readAfter_target h]
  refine readAfter_equals ?_
  rw [next, if_pos (.inr rfl)]
  exact congrArg (· >>= _) hpart

theorem readAfter_target_bracket (h : IsTarget cs) :
    readAfter [] (cs ++ '[' :: rest) (.start, {}) = .ok d ↔
      ∃ span field brackets ending ceiling, '[' :: rest = brackets ++ ending ∧
        Brackets span field brackets ∧ Ending ceiling ending ∧
        d = ⟨String.ofList cs, span, field, ceiling⟩ := by
  have hpart := part_append [] cs ('[' :: rest)
  have hnext : next (cs ++ '[' :: rest) (utf8Len cs) '[' (.target, {}) =
      .ok (.span (utf8Len (cs ++ ['['])), ⟨String.ofList cs, none, none, some .trace⟩) := by
    rw [next, if_pos (.inl rfl), utf8Len_append]
    exact congrArg (· >>= _) hpart
  rw [readAfter_target h, readAfter_cons hnext, readAfter_span]

theorem readAfter_bracket :
    readAfter [] ('[' :: rest) (.start, {}) = .ok d ↔
      ∃ span field brackets ending ceiling, '[' :: rest = brackets ++ ending ∧
        Brackets span field brackets ∧ Ending ceiling ending ∧
        d = ⟨"", span, field, ceiling⟩ := by
  have hspan : readAfter [] ('[' :: rest) (.start, {}) =
      readAfter ['['] rest (.span (utf8Len ['[']), ⟨"", none, none, some .trace⟩) :=
    readAfter_cons rfl
  rw [hspan, readAfter_span]

theorem written_of_target {first : Char} (hfirst : canBegin first)
    (h : readAfter [] (first :: cs) (.start, {}) = .ok d) : Written d (first :: cs) := by
  have hplain : first ≠ '[' ∧ first ≠ '=' := by
    constructor <;> rintro rfl <;> exact absurd hfirst (by decide +kernel)
  obtain hopen | ⟨front, c, rest, hcs, hc, hfront⟩ := split_first (fun c => c = '[' ∨ c = '=') cs
  · have htarget : IsTarget (first :: cs) := ⟨⟨first, rfl, hfirst⟩, by simpa [hplain] using hopen⟩
    rw [readAfter_target_alone htarget, finish] at h
    split at h
    next ceiling hceiling =>
      cases h
      exact .level htarget hceiling
    next hceiling =>
      cases h
      exact .target htarget hceiling
  · have htarget : IsTarget (first :: front) :=
      ⟨⟨first, rfl, hfirst⟩, by simpa [hplain] using hfront⟩
    rw [hcs, ← List.cons_append] at h ⊢
    obtain rfl | rfl : c = '[' ∨ c = '=' := by simpa using hc
    · obtain ⟨span, field, brackets, ending, ceiling, hrest, hbrackets, hending, rfl⟩ :=
        (readAfter_target_bracket htarget).1 h
      exact hrest ▸ .bracketed (.inr htarget) hbrackets hending
    · obtain ⟨ceiling, hending, rfl⟩ := (readAfter_target_equals htarget).1 h
      exact .ended htarget hending (List.cons_ne_nil _ _)

theorem written_of_readAfter (h : readAfter [] cs (.start, {}) = .ok d) : Written d cs := by
  cases cs with
  | nil => cases h
  | cons first cs =>
    by_cases hbracket : first = '['
    · subst hbracket
      obtain ⟨span, field, brackets, ending, ceiling, hcs, hbrackets, hending, rfl⟩ :=
        readAfter_bracket.1 h
      exact hcs ▸ .bracketed (.inl rfl) hbrackets hending
    by_cases hfirst : canBegin first
    · exact written_of_target hfirst h
    · have hnext : next (first :: cs) 0 first (.start, {}) = .error .malformed := by
        rw [next, if_neg hbracket, if_neg hfirst]
      rw [readAfter_cons_error hnext] at h
      cases h

theorem readAfter_of_written (h : Written d cs) : readAfter [] cs (.start, {}) = .ok d := by
  cases h with
  | level hcs h => rw [readAfter_target_alone hcs, finish, h]
  | target hcs h => rw [readAfter_target_alone hcs, finish, h]
  | @ended target ending ceiling htarget hending h =>
    obtain ⟨rest, rfl⟩ : ∃ rest, ending = '=' :: rest := by
      cases hending with
      | missing => exact absurd rfl h
      | bare => exact ⟨[], rfl⟩
      | level => exact ⟨_, rfl⟩
    exact (readAfter_target_equals htarget).2 ⟨ceiling, hending, rfl⟩
  | @bracketed target brackets ending span field ceiling htarget hbrackets hending =>
    obtain ⟨rest, hrest⟩ : ∃ rest, brackets ++ ending = '[' :: rest := by
      cases hbrackets <;> exact ⟨_, rfl⟩
    rw [hrest]
    obtain rfl | htarget := htarget
    · exact readAfter_bracket.2 ⟨_, _, _, _, _, hrest.symm, hbrackets, hending, rfl⟩
    · exact (readAfter_target_bracket htarget).2
        ⟨_, _, _, _, _, hrest.symm, hbrackets, hending, rfl⟩

/-! ## Where a text is cut -/

def IsCut (text : List Char) (place : Nat) : Prop :=
  ∃ before after, text = before ++ after ∧ place = utf8Len before

theorem isCut_end (text : List Char) : IsCut text (utf8Len text) :=
  ⟨text, [], (List.append_nil _).symm, rfl⟩

theorem isCut_append {place : Nat} (h : IsCut front place) : IsCut (front ++ rest) place := by
  obtain ⟨before, after, rfl, rfl⟩ := h
  exact ⟨before, after ++ rest, List.append_assoc _ _ _, rfl⟩

theorem part_of_isCut {place : Nat} (h : IsCut front place) (rest : List Char) :
    ∃ cs, part (front ++ rest) place (utf8Len front) = .ok cs := by
  obtain ⟨before, after, rfl, rfl⟩ := h
  exact ⟨after, by rw [List.append_assoc, part_append]⟩

def Stage.IsSound (text : List Char) : Stage → Prop
  | .span first | .field first | .level first => IsCut text first
  | _ => True

theorem next_isSound (h : state.1.IsSound front) (c : Char) (cs : List Char) :
    match next (front ++ c :: cs) (utf8Len front) c state with
    | .ok state' => state'.1.IsSound (front ++ [c])
    | .error fault => fault = .malformed := by
  obtain ⟨stage, d⟩ := state
  have hend (hc : c.utf8Size = 1) : IsCut (front ++ [c]) (utf8Len front + 1) := by
    have hend := isCut_end (front ++ [c])
    rwa [utf8Len_append, utf8Len_cons, utf8Len_nil, Nat.zero_add, hc] at hend
  cases stage with
  | start =>
    rw [next]
    split_ifs with hc hbegins
    · exact hend (hc ▸ rfl)
    · trivial
    · rfl
  | target =>
    have hstart : IsCut front 0 := ⟨[], front, rfl, rfl⟩
    obtain ⟨text, htext⟩ := part_of_isCut hstart (c :: cs)
    rw [next, htext]
    split_ifs with hc hbracket
    · exact hend (hbracket ▸ rfl)
    · exact hend (hc.resolve_left hbracket ▸ rfl)
    · trivial
  | span first =>
    obtain ⟨text, htext⟩ := part_of_isCut h (c :: cs)
    rw [next, htext]
    split_ifs with hc hc'
    · trivial
    · exact hend (hc' ▸ rfl)
    · exact isCut_append h
  | field first =>
    obtain ⟨text, htext⟩ := part_of_isCut h (c :: cs)
    rw [next, htext]
    split_ifs with hc
    · simp only [bind, Except.bind]
      cases Field.parse? text <;> trivial
    · exact isCut_append h
  | fieldEnd =>
    rw [next]
    split_ifs <;> trivial
  | bracketEnd =>
    rw [next]
    split_ifs with hc
    · exact hend (hc ▸ rfl)
    · rfl
  | level first => exact isCut_append h

theorem finish_ne_torn (h : state.1.IsSound cs) : finish cs state ≠ .error .torn := by
  obtain ⟨stage, d⟩ := state
  cases stage with
  | target =>
    rw [finish]
    split <;> exact nofun
  | bracketEnd => exact nofun
  | level first =>
    obtain ⟨before, after, rfl, rfl⟩ := h
    rw [finish, Utf8.drop?_append]
    cases after with
    | nil => exact nofun
    | cons c after =>
      dsimp only
      split <;> exact nofun
  | _ => exact nofun

theorem readAfter_ne_torn (h : state.1.IsSound front) :
    readAfter front cs state ≠ .error .torn := by
  induction cs generalizing front state with
  | nil =>
    rw [readAfter_nil]
    exact finish_ne_torn h
  | cons c cs ih =>
    have hsound := next_isSound h c cs
    cases hnext : next (front ++ c :: cs) (utf8Len front) c state with
    | ok state' =>
      rw [hnext] at hsound
      rw [readAfter_cons hnext]
      exact ih hsound
    | error fault =>
      rw [hnext] at hsound
      rw [readAfter_cons_error hnext, hsound]
      exact nofun

/-! ## The reader -/

theorem parse_eq_readAfter (h : Blank.trim cs = cs) :
    parse (String.ofList cs) = readAfter [] cs (.start, {}) := by
  rw [parse, String.toList_ofList, h]
  rfl

/-- A text without blanks at its ends is read as a directive if and only if it is written so. -/
theorem parse_eq_ok (h : Blank.trim cs = cs) : parse (String.ofList cs) = .ok d ↔ Written d cs := by
  rw [parse_eq_readAfter h]
  exact ⟨written_of_readAfter, readAfter_of_written⟩

/-- A text without blanks at its ends can always be taken apart. -/
theorem parse_ne_torn (h : Blank.trim cs = cs) : parse (String.ofList cs) ≠ .error .torn := by
  rw [parse_eq_readAfter h]
  exact readAfter_ne_torn trivial

end Log.Directive
end ViewerBridge
