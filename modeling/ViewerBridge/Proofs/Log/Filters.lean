import Mathlib.Data.List.Induction
import ViewerBridge.Log.Filter
import ViewerBridge.Proofs.Log.Directives
/-!
# Which events a filter shows

What stands between the commas of a filter text is in force, and of the directives that concern an
event the last of the closest ones decides. A filter that shows an event shows the graver ones too.
-/
namespace ViewerBridge.Log

namespace Directive

theorem Written.ne_nil {d : Directive} {cs : List Char} (h : Written d cs) : cs ≠ [] := by
  have htarget {cs : List Char} (h : IsTarget cs) : cs ≠ [] := by
    obtain ⟨⟨c, hc, -⟩, -⟩ := h
    exact List.ne_nil_of_mem (List.mem_of_mem_head? hc)
  cases h with
  | level hcs => exact htarget hcs
  | target hcs => exact htarget hcs
  | ended hcs => exact List.append_ne_nil_of_left_ne_nil (htarget hcs) _
  | bracketed _ hbrackets => cases hbrackets <;> simp

/-! ## How closely a directive says which events are meant -/

/-- The length of the target counts first, then whether there is a field. -/
def closeness (d : Directive) : Nat := 2 * d.target.utf8ByteSize + d.field.isSome.toNat

theorem isCloserThan_iff {d other : Directive} :
    d.isCloserThan other ↔ other.closeness < d.closeness := by
  cases hd : d.field <;> cases hother : other.field <;>
    simp [isCloserThan, closeness, hd, hother] <;> omega

end Directive

namespace Filter

/-! ## The directives of a text -/

theorem refused_eq_nil {fault : Fault} {pieces : List String} :
    refused fault pieces = [] ↔ ∀ piece ∈ pieces, Directive.parse piece ≠ .error fault := by
  rw [refused, List.filter_eq_nil_iff]
  refine forall₂_congr fun piece _ => ?_
  cases Directive.parse piece <;> simp

/-- Written directives with commas between them are all in force, in their order. -/
theorem parse_intercalate {written : List (Directive × List Char)} (hne : written ≠ [])
    (h : ∀ p ∈ written, p.1.Written p.2 ∧ Blank.trim p.2 = p.2 ∧ ',' ∉ p.2) :
    parse (String.ofList ([','].intercalate (written.map Prod.snd))) =
      some ⟨written.map Prod.fst, []⟩ := by
  have hparse : ∀ p ∈ written, Directive.parse (String.ofList p.2) = .ok p.1 := fun p hp =>
    (Directive.parse_eq_ok (h p hp).2.1).2 (h p hp).1
  have hpieces : pieces (String.ofList ([','].intercalate (written.map Prod.snd))) =
      written.map fun p => String.ofList p.2 := by
    rw [pieces, String.toList_ofList, List.splitOn_intercalate ','
      (List.forall_mem_map.2 fun p hp => (h p hp).2.2) (by simpa), List.filter_eq_self.2
      (List.forall_mem_map.2 fun p hp => by simpa using (h p hp).1.ne_nil), List.map_map]
    rfl
  have hrefused (fault : Fault) : refused fault (written.map fun p => String.ofList p.2) = [] :=
    refused_eq_nil.2 <| List.forall_mem_map.2 fun p hp => by simp [hparse p hp]
  have hunderstood :
      understood (written.map fun p => String.ofList p.2) = written.map Prod.fst := by
    rw [understood, List.filterMap_map, ← List.filterMap_eq_map]
    exact List.filterMap_congr fun p hp => by simp [hparse p hp, Except.toOption]
  simp [parse, hpieces, hrefused, hunderstood, hne]

/-- A text whose pieces have no blanks at their ends is a filter, whatever else is in them. -/
theorem exists_parse {text : String}
    (h : ∀ piece ∈ text.toList.splitOn ',', Blank.trim piece = piece) :
    ∃ f, parse text = some f := by
  have htorn : refused .torn (pieces text) = [] := by
    refine refused_eq_nil.2 <| List.forall_mem_map.2 fun piece hpiece => ?_
    exact Directive.parse_ne_torn (h piece (List.mem_of_mem_filter hpiece))
  rw [parse, if_neg (by simp [htorn])]
  split_ifs
  · exact ⟨_, rfl⟩
  · exact ⟨_, rfl⟩

/-! ## The directive that decides -/

theorem stronger_some {best d : Directive} :
    stronger (some best) d = some (if d.closeness < best.closeness then best else d) := by
  rw [stronger]
  simp only [Directive.isCloserThan_iff]
  split <;> rfl

theorem eq_nil_of_foldl_stronger {ds : List Directive} (h : ds.foldl stronger none = none) :
    ds = [] := by
  rcases List.eq_nil_or_concat ds with rfl | ⟨front, last, rfl⟩
  · rfl
  · rw [List.concat_eq_append, List.foldl_append, List.foldl_cons, List.foldl_nil] at h
    cases hbest : front.foldl stronger none with
    | none => simp [hbest, stronger] at h
    | some best => simp [hbest, stronger_some] at h

theorem foldl_stronger_of_less {ds : List Directive} {d : Directive}
    (h : ∀ a ∈ ds, a.closeness < d.closeness) : ds.foldl stronger (some d) = some d := by
  induction ds with
  | nil => rfl
  | cons a ds ih =>
    rw [List.foldl_cons, stronger_some, if_pos (h a List.mem_cons_self)]
    exact ih fun a ha => h a (List.mem_cons_of_mem _ ha)

theorem exists_of_foldl_stronger {ds : List Directive} {d : Directive}
    (h : ds.foldl stronger none = some d) :
    ∃ before after, ds = before ++ d :: after ∧
      (∀ b ∈ before, b.closeness ≤ d.closeness) ∧ ∀ a ∈ after, a.closeness < d.closeness := by
  induction ds using List.reverseRecOn generalizing d with
  | nil => cases h
  | append_singleton ds last ih =>
    rw [List.foldl_append, List.foldl_cons, List.foldl_nil] at h
    cases hbest : ds.foldl stronger none with
    | none =>
      rw [hbest] at h
      cases h
      exact ⟨[], [], by rw [eq_nil_of_foldl_stronger hbest], by simp, by simp⟩
    | some best =>
      obtain ⟨before, after, rfl, hbefore, hafter⟩ := ih hbest
      rw [hbest, stronger_some] at h
      split at h
      next hlast =>
        cases h
        refine ⟨before, after ++ [last], by simp, hbefore, ?_⟩
        simpa [or_imp, forall_and, hlast] using hafter
      next hlast =>
        cases h
        have hle : ∀ b ∈ before ++ best :: after, b.closeness ≤ best.closeness := by
          simpa [or_imp, forall_and] using ⟨hbefore, fun a ha => (hafter a ha).le⟩
        exact ⟨before ++ best :: after, [], rfl,
          fun b hb => (hle b hb).trans (Nat.le_of_not_lt hlast), by simp⟩

theorem foldl_stronger_eq_some {ds : List Directive} {d : Directive} :
    ds.foldl stronger none = some d ↔
      ∃ before after, ds = before ++ d :: after ∧
        (∀ b ∈ before, b.closeness ≤ d.closeness) ∧ ∀ a ∈ after, a.closeness < d.closeness := by
  refine ⟨exists_of_foldl_stronger, ?_⟩
  rintro ⟨before, after, rfl, hbefore, hafter⟩
  have hd : stronger (before.foldl stronger none) d = some d := by
    cases hbest : before.foldl stronger none with
    | none => rfl
    | some best =>
      obtain ⟨front, back, rfl, -, -⟩ := exists_of_foldl_stronger hbest
      have hle := hbefore best (by simp)
      rw [stronger_some, if_neg (Nat.not_lt.2 hle)]
  rw [List.foldl_append, List.foldl_cons, hd, foldl_stronger_of_less hafter]

/-- Of the directives that concern an event, the last of the closest ones decides. -/
theorem deciding_eq_some {f : Filter} {target : String} {d : Directive} :
    f.deciding target = some d ↔
      ∃ before after, f.directives.filter (·.concerns target) = before ++ d :: after ∧
        (∀ b ∈ before, b.closeness ≤ d.closeness) ∧ ∀ a ∈ after, a.closeness < d.closeness :=
  foldl_stronger_eq_some

theorem shows_of_rank_le {f : Filter} {target : String} {level graver : Level}
    (hlevel : graver.rank ≤ level.rank) (h : f.shows target level) : f.shows target graver := by
  unfold shows at h ⊢
  split at h
  next d hd =>
    unfold Ceiling.allows at h ⊢
    split at h
    · cases h
    · simp only [decide_eq_true_eq] at h ⊢
      exact hlevel.trans h
  next => cases h

end Filter

/-! ## Setups -/

theorem exists_filter_eq_take {α : Type} {p : α → Bool} {l : List α}
    (h : l.Pairwise fun a b => p b → p a) : ∃ n, l.filter p = l.take n := by
  induction l with
  | nil => exact ⟨0, rfl⟩
  | cons a l ih =>
    obtain ⟨ha, hl⟩ := List.pairwise_cons.1 h
    by_cases hp : p a
    · obtain ⟨n, hn⟩ := ih hl
      exact ⟨n + 1, by rw [List.filter_cons_of_pos hp, hn, List.take_succ_cons]⟩
    · have hnone : l.filter p = [] := List.filter_eq_nil_iff.2 fun b hb hpb => hp (ha b hb hpb)
      exact ⟨0, by rw [List.filter_cons_of_neg hp, hnone, List.take_zero]⟩

theorem Ceiling.parse?_name (l : Level) : parse? l.name = some (some l) := by
  have hdecimal : Decimal.parse? l.name.toList = none := by cases l <;> decide
  have hlower : l.name.map Char.toLower = l.name := by
    rw [← String.toList_inj, String.toList_map]
    cases l <;> decide
  rw [parse?, hdecimal]
  simp only [hlower]
  cases l <;> decide

namespace Setup

/-- The levels that are shown are the gravest ones. -/
theorem exists_shownLevels_eq_take (s : Setup (Option Filter)) (target : String) :
    ∃ n, s.shownLevels target = Level.all.take n := by
  have hranks : Level.all.Pairwise fun a b => a.rank ≤ b.rank := by decide
  refine exists_filter_eq_take (hranks.imp fun {a b} hab hb => ?_)
  unfold shows at hb ⊢
  cases hfilter : s.filter with
  | none => simp [hfilter] at hb
  | some f =>
    rw [hfilter] at hb
    exact Filter.shows_of_rank_le hab hb

theorem filter_of_level {level format : Option String} :
    (ofSettings Filter.parse none level format).filter =
      some ⟨[⟨target, none, none, some (lowest level)⟩], []⟩ := by
  let text := target.toList ++ '=' :: (lowest level).name.toList
  have hplain : target.toList.all fun c => c ≠ '[' ∧ c ≠ '=' := by decide
  have htarget : Directive.IsTarget target.toList :=
    ⟨⟨'o', rfl, by decide⟩, by simpa using hplain⟩
  have hwritten : Directive.Written ⟨target, none, none, some (lowest level)⟩ text := by
    have hlevel : Directive.Ending (some (lowest level)) ('=' :: (lowest level).name.toList) :=
      .level (by rw [String.ofList_toList, Ceiling.parse?_name])
    have hended := Directive.Written.ended htarget hlevel (List.cons_ne_nil _ _)
    rwa [String.ofList_toList] at hended
  have htext : Blank.trim text = text ∧ ',' ∉ text := by
    unfold text
    cases lowest level <;> decide
  have hparse := Filter.parse_intercalate
    (List.cons_ne_nil (⟨target, none, none, some (lowest level)⟩, text) [])
    (by simpa using ⟨hwritten, htext⟩)
  have hfilterText : filterText none level = String.ofList text := by
    rw [filterText, ← String.toList_inj, String.toList_ofList]
    simp [text, String.toList_append]
  rw [ofSettings, hfilterText]
  simpa using hparse

/-- Without a filter text, the bridge shows its events down to the level that was named. -/
theorem shows_of_level {level format : Option String} {name : String} {l : Level} :
    (ofSettings Filter.parse none level format).shows name l ↔
      target.toList <+: name.toList ∧ l.rank ≤ (lowest level).rank := by
  rw [shows, filter_of_level]
  by_cases h : target.toList <+: name.toList <;>
    simp [Filter.shows, Filter.deciding, Directive.concerns, Filter.stronger, Ceiling.allows, h]

end Setup
end ViewerBridge.Log
