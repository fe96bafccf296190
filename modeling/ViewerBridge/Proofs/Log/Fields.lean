import Mathlib.Data.List.TakeWhile
import ViewerBridge.Log.Directive
/-!
# Fields and their values

A field is written as its name, and after an equals sign the value that it must have. A value that
is no number is a pattern; one of characters that only stand for themselves always is.
-/
namespace ViewerBridge.Log

namespace Pattern

/-- The characters with a meaning of their own between the parts of a pattern. -/
def marks : List Char :=
  ['(', ')', '|', '[', '\x7b', '.', '\\', '?', '*', '+', '^', '$']

namespace Reading

def ofLiterals (count : Nat) (last : Option Nat) : Reading :=
  ⟨⟨{}, ⟨count, 0⟩, none, last⟩, [], []⟩

theorem next_literal {c : Char} (hc : c ∉ marks) (count : Nat) (last : Option Nat)
    (rest : List Char) :
    (ofLiterals count last).next (c :: rest) = some (ofLiterals (count + 1) (some 0), rest) := by
  simp only [marks, List.mem_cons, List.not_mem_nil, or_false, not_or] at hc
  unfold next
  split <;> simp_all [atom, ofLiterals, withGroup, Group.add, Row.add, Atom.isAllowed]

theorem ofLiterals_levels (count : Nat) (last : Option Nat) :
    (ofLiterals count last).group.inner ≤ 1 := by
  by_cases h : count ≤ 1 <;> simp [ofLiterals, Group.inner, Row.levels, h]

theorem run_literals {cs : List Char} (hcs : ∀ c ∈ cs, c ∉ marks) (count : Nat)
    (last : Option Nat) : run (cs.length + 1) (ofLiterals count last) cs := by
  induction cs generalizing count last with
  | nil =>
    have hlevels := ofLiterals_levels count last
    have hend : run 1 (ofLiterals count last) [] =
        decide ((ofLiterals count last).group.inner ≤ maxLevels) := rfl
    simpa [hend] using hlevels.trans (by decide)
  | cons c cs ih =>
    have hc := hcs c List.mem_cons_self
    have htail := ih (fun d hd => hcs d (List.mem_cons_of_mem c hd)) (count + 1) (some 0)
    rw [List.length_cons, run]
    have hskip : (ofLiterals count last).group.mode.skip (c :: cs) = c :: cs := rfl
    rw [hskip]
    simpa only [next_literal hc] using htail

end Reading

/-- Characters that stand for themselves are a pattern, however many they are. -/
theorem accepts_of_literals {cs : List Char} (hcs : ∀ c ∈ cs, c ∉ marks) : accepts cs :=
  Reading.run_literals hcs 0 none

end Pattern

namespace Field

variable {name value : List Char}

theorem parse?_name (hname : '=' ∉ name) (h : name ≠ []) :
    parse? name = some ⟨String.ofList name, false⟩ := by
  have hplain : ∀ c ∈ name, (c != '=') = true := fun c hc => by
    simpa using ne_of_mem_of_not_mem hc hname
  rw [parse?, List.dropWhile_eq_nil_iff.2 hplain, List.takeWhile_eq_self_iff.2 hplain]
  simp [h]

theorem parse?_value (hname : '=' ∉ name) (hvalue : '=' ∉ value) :
    parse? (name ++ '=' :: value) =
      if Decimal.isNumber value || Pattern.accepts value then some ⟨String.ofList name, true⟩
      else none := by
  have hplain {cs : List Char} (hcs : '=' ∉ cs) : ∀ c ∈ cs, (c != '=') = true := fun c hc => by
    simpa using ne_of_mem_of_not_mem hc hcs
  have hdrop : ('=' :: value).dropWhile (· != '=') = '=' :: value := rfl
  have htake : ('=' :: value).takeWhile (· != '=') = [] := rfl
  rw [parse?, List.dropWhile_append_of_pos (hplain hname),
    List.takeWhile_append_of_pos (hplain hname), hdrop, htake, List.append_nil]
  simp only [List.takeWhile_eq_self_iff.2 (hplain hvalue)]

theorem parse?_literals (hname : '=' ∉ name) (hvalue : '=' ∉ value)
    (h : ∀ c ∈ value, c ∉ Pattern.marks) :
    parse? (name ++ '=' :: value) = some ⟨String.ofList name, true⟩ := by
  rw [parse?_value hname hvalue, Pattern.accepts_of_literals h, Bool.or_true, if_pos rfl]

end Field
end ViewerBridge.Log
