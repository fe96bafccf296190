import ViewerBridge.Proofs.Json.Grammar
/-!
# Strings and what they spell

A string is read as what it spells, with whichever escapes. What is written of a text spells it, and
holds no control character.
-/
namespace ViewerBridge.Json

theorem quotedOnto_writes {piece : List Char} {c : Char} (h : Writes piece c)
    (read rest : List Char) : quotedOnto read (piece ++ rest) = quotedOnto (c :: read) rest := by
  cases h with
  | plain high noQuote noEscape =>
    have hlow : ¬ c < ' ' := Char.not_lt.mpr high
    rw [List.singleton_append, quotedOnto]
    · rw [if_neg hlow]
    all_goals simp [noQuote, noEscape]
  | @short e _ known =>
    have hu : e ≠ 'u' := by
      rintro rfl
      simp [unescape?] at known
    simp only [List.cons_append, List.nil_append]
    rw [quotedOnto]
    · rw [known]
    all_goals simp [hu]
  | unit digits single noTrail =>
    simp only [List.cons_append, List.nil_append]
    rw [quotedOnto]
    simp [digits, single, noTrail]
  | @pair _ _ _ _ _ _ _ _ n _ first leading second trailing =>
    have hn : isTrailing n = false := by
      simp only [isLeading, isTrailing, Bool.and_eq_true, Bool.and_eq_false_iff,
        decide_eq_true_eq, decide_eq_false_iff_not] at leading ⊢
      omega
    simp only [List.cons_append, List.nil_append]
    rw [quotedOnto]
    simp [first, leading, second, trailing, hn]

theorem quotedOnto_spells {raw cs : List Char} (h : Spells raw cs) (read rest : List Char) :
    quotedOnto read (raw ++ '"' :: rest) = .ok (String.ofList (read.reverse ++ cs), rest) := by
  induction h generalizing read with
  | nil => simp [quotedOnto]
  | cons first more ih =>
    rw [List.append_assoc, quotedOnto_writes first, ih]
    simp

theorem quoted_spells {raw : List Char} {s : String} (h : Spells raw s.toList)
    (rest : List Char) : quoted (raw ++ '"' :: rest) = .ok (s, rest) := by
  rw [quoted, quotedOnto_spells h, List.reverse_nil, List.nil_append, String.ofList_toList]

theorem unit?_control {c : Char} (h : c < ' ') :
    unit? '0' '0' (hexChar (c.toNat / 16)) (hexChar c.toNat) = some c.toNat := by
  have hall : ∀ n < 32, unit? '0' '0' (hexChar (n / 16)) (hexChar n) = some n := by decide
  exact hall c.toNat h

theorem writes_escape (c : Char) : Writes (escape c) c := by
  unfold escape
  split
  case h_8 noQuote noEscape _ _ _ _ _ =>
    split
    · rename_i hlow
      have hn : c.toNat < 32 := hlow
      have hunit : Writes _ (Char.ofNat c.toNat) := .unit (unit?_control hlow)
        (by simp [isLeading]; omega) (by simp [isTrailing]; omega)
      rwa [Char.ofNat_toNat] at hunit
    · rename_i hhigh
      exact .plain (Char.not_lt.mp hhigh) noQuote noEscape
  all_goals exact .short rfl

theorem spells_escape (cs : List Char) : Spells (cs.flatMap escape) cs := by
  induction cs with
  | nil => exact .nil
  | cons c cs ih => exact .cons (writes_escape c) ih

theorem le_hexChar (n : Nat) : ' ' ≤ hexChar n := by
  have hall : ∀ n < 16, ' ' ≤ Nat.digitChar n := by decide
  exact hall (n % 16) (Nat.mod_lt n (by decide))

theorem le_of_mem_escape {c d : Char} (h : d ∈ escape c) : ' ' ≤ d := by
  unfold escape at h
  split at h
  case h_8 =>
    split at h
    · simp only [List.mem_cons, List.not_mem_nil, or_false] at h
      rcases h with rfl | rfl | rfl | rfl | rfl | rfl
      · decide
      · decide
      · decide
      · decide
      · exact le_hexChar _
      · exact le_hexChar _
    · rename_i hhigh
      rw [List.mem_singleton.mp h]
      exact Char.not_lt.mp hhigh
  all_goals
    simp only [List.mem_cons, List.not_mem_nil, or_false] at h
    rcases h with rfl | rfl <;> decide

theorem le_of_mem_writeQuoted {s : String} {d : Char} (h : d ∈ writeQuoted s) : ' ' ≤ d := by
  simp only [writeQuoted, List.cons_append, List.mem_cons, List.mem_append, List.mem_flatMap,
    List.not_mem_nil, or_false] at h
  rcases h with rfl | ⟨c, -, hd⟩ | rfl
  · decide
  · exact le_of_mem_escape hd
  · decide

end ViewerBridge.Json
