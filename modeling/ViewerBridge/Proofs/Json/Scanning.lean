import ViewerBridge.Json.Scan
import ViewerBridge.Proofs.Json.Passing
import ViewerBridge.Proofs.Json.Strings
/-!
# Reading values of a type

A reader that knows which type to expect takes a value of that type off the front, whichever way it
is spelled and whatever blanks stand before it, and leaves what follows.
-/
namespace ViewerBridge.Json

theorem blanks_nil : Blanks [] := fun _ h => nomatch h

theorem skipBlanks_append {ws : List Char} (hw : Blanks ws) (cs : List Char) :
    skipBlanks (ws ++ cs) = skipBlanks cs :=
  List.dropWhile_append_of_pos hw

theorem skipBlanks_cons {c : Char} (hc : isBlank c = false) (cs : List Char) :
    skipBlanks (c :: cs) = c :: cs := by
  rw [skipBlanks, List.dropWhile_cons_of_neg (by simp [hc])]

namespace Number

theorem digits_append {ds rest : List Char} (hd : ∀ c ∈ ds, c.isDigit = true) (hr : Ends rest) :
    digits (ds ++ rest) = (ds, rest) := by
  have hstop : rest.takeWhile Char.isDigit = [] ∧ rest.dropWhile Char.isDigit = rest := by
    cases rest with
    | nil => exact ⟨rfl, rfl⟩
    | cons c rest => simp [(hr.not_numeric rfl).1]
  rw [digits, List.takeWhile_append_of_pos hd, List.dropWhile_append_of_pos hd, hstop.1, hstop.2,
    List.append_nil]

theorem le_ofDigitChars (ds : List Char) (n : Nat) : n ≤ Nat.ofDigitChars 10 ds n := by
  induction ds generalizing n with
  | nil => exact Nat.le_refl n
  | cons c ds ih =>
    have hrest := ih (10 * n + (c.toNat - '0'.toNat))
    rw [Nat.ofDigitChars_cons]
    omega

theorem appendDigits_eq (ds : List Char) (n : Nat) (h : Nat.ofDigitChars 10 ds n < UInt64.size) :
    appendDigits n ds = (Nat.ofDigitChars 10 ds n, ds.length) := by
  induction ds generalizing n with
  | nil => rfl
  | cons c ds ih =>
    rw [Nat.ofDigitChars_cons] at h ⊢
    have hnext : 10 * n + digit c < 1 <<< 64 := Nat.lt_of_le_of_lt (le_ofDigitChars ds _) h
    have hrest : appendDigits (10 * n + digit c) ds = _ := ih _ h
    rw [appendDigits, if_pos hnext, hrest]
    rfl

theorem afterWhole_ends {rest : List Char} (hr : Ends rest) (n : Nat) :
    afterWhole true n 0 rest = .ok (.natural n, rest) := by
  unfold afterWhole
  split
  · exact absurd rfl (hr.not_numeric rfl).2.1
  · exact absurd rfl (hr.not_numeric rfl).2.2.1
  · exact absurd rfl (hr.not_numeric rfl).2.2.2
  · rfl

theorem read_whole {ds rest : List Char} (hw : IsWhole ds) (hr : Ends rest)
    (hn : Nat.ofDigitChars 10 ds 0 < UInt64.size) :
    read true (ds ++ rest) = .ok (.natural (Nat.ofDigitChars 10 ds 0), rest) := by
  have happend := appendDigits_eq ds 0 hn
  have hafter := afterWhole_ends hr (Nat.ofDigitChars 10 ds 0)
  unfold read
  rw [digits_append hw.1.2 hr]
  split
  · rename_i hds _
    exact absurd (Prod.mk.inj hds).1 hw.1.1
  · rename_i hds _
    exact absurd (Prod.mk.inj hds).1 hw.1.1
  · rename_i hds
    obtain ⟨rfl, -⟩ := Prod.mk.inj hds
    cases hw.2 rfl
  · rename_i hds _
    obtain ⟨rfl, rfl⟩ := Prod.mk.inj hds
    rw [happend]
    simpa using hafter

end Number

namespace Scan

variable {ws raw rest : List Char} {s : String}

theorem bind_of_ok {α β : Type} {x : Scan α} {f : α → Scan β} {cs : List Char} {a : α}
    (h : x cs = .ok (a, rest)) : (x >>= f) cs = f a rest := by
  simp only [bind, StateT.bind, h, Except.bind]

theorem peek_eq (cs : List Char) : peek cs = .ok ((skipBlanks cs).head?, skipBlanks cs) := rfl

theorem peek_blanks {c : Char} (hw : Blanks ws) (hc : isBlank c = false) (cs : List Char) :
    peek (ws ++ c :: cs) = .ok (some c, c :: cs) := by
  rw [peek_eq, skipBlanks_append hw, skipBlanks_cons hc]
  rfl

theorem drop_cons (c : Char) (cs : List Char) : drop (c :: cs) = .ok ((), cs) := rfl

theorem text_spells (hw : Blanks ws) (h : Spells raw s.toList) (rest : List Char) :
    text (ws ++ '"' :: (raw ++ '"' :: rest)) = .ok (s, rest) := by
  rw [text, bind_of_ok (peek_blanks hw rfl _)]
  exact quoted_spells h rest

theorem optionalText_spells (hw : Blanks ws) (h : Spells raw s.toList) (rest : List Char) :
    optionalText (ws ++ '"' :: (raw ++ '"' :: rest)) = .ok (some s, rest) := by
  have htext : text ('"' :: (raw ++ '"' :: rest)) = .ok (s, rest) := text_spells blanks_nil h rest
  rw [optionalText, bind_of_ok (peek_blanks hw rfl _)]
  exact bind_of_ok htext

theorem optionalText_null (hw : Blanks ws) (rest : List Char) :
    optionalText (ws ++ 'n' :: 'u' :: 'l' :: 'l' :: rest) = .ok (none, rest) :=
  bind_of_ok (peek_blanks hw rfl _)

theorem natural_whole {ds : List Char} (hw : Blanks ws) (hd : IsWhole ds) (hr : Ends rest)
    (hn : Nat.ofDigitChars 10 ds 0 < UInt64.size) :
    natural (ws ++ (ds ++ rest)) = .ok (Nat.ofDigitChars 10 ds 0, rest) := by
  have hread := Number.read_whole hd hr hn
  obtain ⟨⟨hne, hall⟩, -⟩ := hd
  obtain ⟨c, ds, rfl⟩ := List.exists_cons_of_ne_nil hne
  have hc : c.isDigit = true := hall c List.mem_cons_self
  have hminus : c ≠ '-' := by
    rintro rfl
    cases hc
  refine (bind_of_ok (a := .natural (Nat.ofDigitChars 10 (c :: ds) 0)) ?_).trans rfl
  refine (bind_of_ok (peek_blanks hw (not_isBlank_of_isDigit hc) _)).trans ?_
  simp only []
  rw [if_pos hc]
  exact hread

theorem colon_blanks (hw : Blanks ws) (rest : List Char) :
    colon (ws ++ ':' :: rest) = .ok ((), rest) :=
  bind_of_ok (peek_blanks hw rfl _)

theorem quotedKey (h : Spells raw s.toList) (rest : List Char) :
    (do drop; return some (← quoted) : Scan (Option String)) ('"' :: (raw ++ '"' :: rest)) =
      .ok (some s, rest) := by
  have hkey : quoted (raw ++ '"' :: rest) = .ok (s, rest) := quoted_spells h rest
  rw [bind_of_ok (drop_cons ..), bind_of_ok hkey]
  rfl

theorem nextKey_first (hw : Blanks ws) (h : Spells raw s.toList) (rest : List Char) :
    nextKey true (ws ++ '"' :: (raw ++ '"' :: rest)) = .ok (some s, rest) := by
  rw [nextKey, bind_of_ok (peek_blanks hw rfl _)]
  exact quotedKey h rest

theorem nextKey_next {ws' : List Char} (hw : Blanks ws) (hw' : Blanks ws')
    (h : Spells raw s.toList) (rest : List Char) :
    nextKey false (ws ++ ',' :: (ws' ++ '"' :: (raw ++ '"' :: rest))) = .ok (some s, rest) := by
  have hpeek := peek_blanks hw' (c := '"') rfl (raw ++ '"' :: rest)
  rw [nextKey, bind_of_ok (peek_blanks hw rfl _)]
  refine (bind_of_ok (drop_cons ..)).trans ((bind_of_ok hpeek).trans ?_)
  exact quotedKey h rest

theorem nextKey_end (first : Bool) (hw : Blanks ws) (rest : List Char) :
    nextKey first (ws ++ '\x7d' :: rest) = .ok (none, '\x7d' :: rest) :=
  bind_of_ok (peek_blanks hw rfl _)

theorem closeObject_blanks (hw : Blanks ws) (rest : List Char) :
    closeObject (ws ++ '\x7d' :: rest) = .ok ((), rest) :=
  bind_of_ok (peek_blanks hw rfl _)

theorem finish_blanks (hw : Blanks ws) : finish ws = .ok ((), []) := by
  have hnone : peek ws = .ok (none, []) := by
    have hskip := skipBlanks_append hw []
    rw [List.append_nil] at hskip
    rw [peek_eq, hskip]
    rfl
  rw [finish, bind_of_ok hnone]
  rfl

theorem document_of_ok {α : Type} {scan : Scan α} {a : α} (h : scan s.toList = .ok (a, ws))
    (hw : Blanks ws) (wording : Wording) : document wording scan s = .ok a := by
  have hrun : (do let a ← scan; finish; return a : Scan α) s.toList = .ok (a, []) := by
    rw [bind_of_ok h, bind_of_ok (finish_blanks hw)]
    rfl
  rw [document, StateT.run', hrun]
  rfl

end Scan
end ViewerBridge.Json
