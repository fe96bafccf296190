import ViewerBridge.Proofs.Json.Scanning
/-!
# Lists of texts

A list of texts that is written as an array is read back as that list, whatever characters are in it.
What is written holds no control character.
-/
namespace ViewerBridge.Json

def writeFurther (ss : List String) : List Char := ss.flatMap fun s => ',' :: writeQuoted s

theorem intercalate_writeQuoted (s : String) (ss : List String) :
    [','].intercalate ((s :: ss).map writeQuoted) = writeQuoted s ++ writeFurther ss := by
  induction ss generalizing s with
  | nil => simp [writeFurther, List.intercalate]
  | cons t ss ih =>
    rw [List.map_cons, List.map_cons, List.intercalate_cons_cons, ← List.map_cons, ih t]
    simp [writeFurther]

theorem toList_writeTexts_nil : (writeTexts []).toList = ['[', ']'] := rfl

theorem toList_writeTexts_cons (s : String) (ss : List String) :
    (writeTexts (s :: ss)).toList = '[' :: (writeQuoted s ++ (writeFurther ss ++ [']'])) := by
  rw [writeTexts, intercalate_writeQuoted, String.toList_ofList, List.cons_append,
    List.append_assoc]

theorem le_of_mem_writeTexts {ss : List String} {c : Char} (h : c ∈ (writeTexts ss).toList) :
    ' ' ≤ c := by
  have hcomma : ' ' ≤ ',' := by decide
  rcases ss with _ | ⟨s, ss⟩
  · rw [toList_writeTexts_nil, List.mem_cons, List.mem_singleton] at h
    rcases h with rfl | rfl <;> decide
  · rw [toList_writeTexts_cons, List.mem_cons, List.mem_append, List.mem_append,
      List.mem_singleton, writeFurther, List.mem_flatMap] at h
    rcases h with rfl | h | ⟨t, -, h⟩ | rfl
    · decide
    · exact le_of_mem_writeQuoted h
    · rcases List.mem_cons.mp h with rfl | h
      · exact hcomma
      · exact le_of_mem_writeQuoted h
    · decide

theorem zero_not_mem_writeTexts (ss : List String) : '\x00' ∉ (writeTexts ss).toList := fun h =>
  absurd (le_of_mem_writeTexts h) (by decide)

namespace Scan

theorem text_writeQuoted (s : String) (rest : List Char) :
    text (writeQuoted s ++ rest) = .ok (s, rest) := by
  have hread := text_spells blanks_nil (spells_escape s.toList) rest
  simpa [writeQuoted] using hread

theorem moreElements_first (s : String) (rest : List Char) :
    moreElements true (writeQuoted s ++ rest) = .ok (true, writeQuoted s ++ rest) :=
  rfl

theorem moreElements_next (s : String) (rest : List Char) :
    moreElements false (',' :: (writeQuoted s ++ rest)) = .ok (true, writeQuoted s ++ rest) :=
  rfl

theorem moreElements_end (first : Bool) (rest : List Char) :
    moreElements first (']' :: rest) = .ok (false, ']' :: rest) :=
  rfl

theorem textsOnto_further (ss : List String) {read : List String} (hread : read ≠ [])
    {limit : Nat} (hlimit : (writeFurther ss).length < limit) (rest : List Char) :
    textsOnto limit read (writeFurther ss ++ ']' :: rest) =
      .ok (read.reverse ++ ss, ']' :: rest) := by
  induction ss generalizing read limit with
  | nil =>
    obtain ⟨limit, rfl⟩ : ∃ k, limit = k + 1 := ⟨limit - 1, by omega⟩
    have hfirst : read.isEmpty = false := List.isEmpty_eq_false_iff.mpr hread
    have hend : moreElements false (writeFurther [] ++ ']' :: rest) = .ok (false, ']' :: rest) :=
      moreElements_end false rest
    rw [textsOnto, hfirst, bind_of_ok hend, List.append_nil]
    rfl
  | cons s ss ih =>
    have hwritten : writeFurther (s :: ss) = ',' :: (writeQuoted s ++ writeFurther ss) := rfl
    rw [hwritten, List.length_cons, List.length_append] at hlimit
    obtain ⟨limit, rfl⟩ : ∃ k, limit = k + 1 := ⟨limit - 1, by omega⟩
    have hfirst : read.isEmpty = false := List.isEmpty_eq_false_iff.mpr hread
    have hmore := moreElements_next s (writeFurther ss ++ ']' :: rest)
    have hrest := ih (List.cons_ne_nil s read) (show (writeFurther ss).length < limit by omega)
    rw [hwritten, List.cons_append, List.append_assoc, textsOnto, hfirst, bind_of_ok hmore]
    simp only [if_true]
    rw [bind_of_ok (text_writeQuoted s _), hrest, List.reverse_cons, List.append_assoc,
      List.singleton_append]

theorem closeArray_cons (rest : List Char) : closeArray (']' :: rest) = .ok ((), rest) := rfl

theorem texts_writeTexts (ss : List String) : texts (writeTexts ss).toList = .ok (ss, []) := by
  have hread : ∀ inside : List Char,
      textsOnto ((inside ++ [']']).length + 1) [] (inside ++ [']']) = .ok (ss, [']']) →
      texts ('[' :: (inside ++ [']'])) = .ok (ss, []) := by
    intro inside h
    have hpeek : peek ('[' :: (inside ++ [']'])) = .ok (some '[', '[' :: (inside ++ [']'])) :=
      peek_blanks blanks_nil rfl _
    rw [texts, bind_of_ok hpeek]
    simp only []
    rw [bind_of_ok (drop_cons ..)]
    refine (bind_of_ok (a := inside ++ [']']) rfl).trans ?_
    rw [bind_of_ok h, bind_of_ok (closeArray_cons [])]
    rfl
  cases ss with
  | nil => exact hread [] rfl
  | cons s ss =>
    rw [toList_writeTexts_cons, ← List.append_assoc]
    refine hread _ ?_
    have hlimit : (writeFurther ss).length <
        ((writeQuoted s ++ writeFurther ss) ++ [']']).length := by
      rw [List.length_append, List.length_append, List.length_singleton]
      omega
    have hfurther := textsOnto_further ss (List.cons_ne_nil s []) hlimit []
    rw [List.append_assoc, textsOnto, List.isEmpty_nil, bind_of_ok (moreElements_first s _)]
    simp only [if_true]
    rw [bind_of_ok (text_writeQuoted s _), ← List.append_assoc, hfurther]
    rfl

theorem document_writeTexts (ss : List String) (wording : Wording) :
    document wording texts (writeTexts ss) = .ok ss :=
  document_of_ok (texts_writeTexts ss) blanks_nil wording

end Scan
end ViewerBridge.Json
