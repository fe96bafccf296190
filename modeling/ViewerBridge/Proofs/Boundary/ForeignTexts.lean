import ViewerBridge.Boundary.Descriptor
/-!
# Texts that end at a zero

A text without a zero character passes the boundary as it is: the other side finds its end where it
is. Once its zeros are spelled out every text is of that sort.
-/
namespace ViewerBridge

namespace Utf8

theorem encode_eq (s : String) : encode s = s.toList.flatMap String.utf8EncodeChar := by
  unfold encode
  rw [← String.utf8Encode_toList, List.utf8Encode]
  simp

theorem ofNat_ne_zero {n : Nat} (h : n % 256 ≠ 0) : (0 : UInt8) ≠ UInt8.ofNat n := by
  intro h0
  have ht := congrArg UInt8.toNat h0
  simp at ht
  omega

theorem zero_mem_utf8EncodeChar (c : Char) : 0 ∈ String.utf8EncodeChar c ↔ c = '\x00' := by
  refine ⟨fun h => Classical.byContradiction fun hc => ?_, fun h => by subst h; decide⟩
  have hv : c.val.toNat ≠ 0 := fun h0 => hc (Char.ext (UInt32.toNat_inj.mp h0))
  unfold String.utf8EncodeChar at h
  dsimp only at h
  split at h
  · rw [List.mem_singleton] at h
    exact ofNat_ne_zero (by omega) h
  · split at h
    · simp only [List.mem_cons, List.not_mem_nil, or_false] at h
      rcases h with h | h <;> exact ofNat_ne_zero (by omega) h
    · split at h <;> simp only [List.mem_cons, List.not_mem_nil, or_false] at h
      · rcases h with h | h | h <;> exact ofNat_ne_zero (by omega) h
      · rcases h with h | h | h | h <;> exact ofNat_ne_zero (by omega) h

theorem zero_mem_encode (s : String) : 0 ∈ encode s ↔ '\x00' ∈ s.toList := by
  simp [encode_eq, List.mem_flatMap, zero_mem_utf8EncodeChar]

theorem terminated?_eq_some (s : String) (h : '\x00' ∉ s.toList) : terminated? s = some s := by
  have hz : 0 ∉ encode s := fun h0 => h ((zero_mem_encode s).mp h0)
  simp [terminated?, hz]

end Utf8

namespace ForeignText

theorem content_terminated {bytes : List UInt8} (h : 0 ∉ bytes) : content (bytes ++ [0]) = bytes := by
  have hall : ∀ b ∈ bytes, (b != 0) = true := by
    intro b hb
    simp only [bne_iff_ne]
    rintro rfl
    exact h hb
  simp [content, List.takeWhile_append_of_pos hall]

theorem required_terminated {s : String} (h : 0 ∉ Utf8.encode s) (field : String) :
    required (some (Utf8.encode s ++ [0])) field = .ok s := by
  have hread : Utf8.read (Utf8.encode s) = .ok s := by
    rw [Utf8.read, Utf8.decode?_encode]
  rw [required, content_terminated h, hread]
  rfl

end ForeignText

namespace CallError

theorem zero_not_mem_spellZeros (text : String) : '\x00' ∉ (spellZeros text).toList := by
  simp only [spellZeros, String.toList_ofList, List.mem_flatMap, not_exists, not_and]
  intro c hc
  split
  · decide
  · rename_i hz
    simpa using Ne.symm hz

theorem diagnostic_eq (e : CallError) (entry : Entry) :
    e.diagnostic entry = spellZeros (e.chain entry) := by
  rw [diagnostic, Utf8.terminated?_eq_some _ (zero_not_mem_spellZeros _), Option.getD_some]

theorem spellZeros_append (s t : String) : spellZeros (s ++ t) = spellZeros s ++ spellZeros t := by
  simp [spellZeros, String.ofList_append]

theorem layers_ne_nil (e : CallError) : e.layers ≠ [] := by
  unfold layers
  split <;> simp

theorem chain_eq (e : CallError) (entry : Entry) :
    e.chain entry = entry.name ++ ": " ++ ": ".intercalate e.layers := by
  rw [chain, String.intercalate_cons_of_ne_nil e.layers_ne_nil]

theorem diagnostic_begins (e : CallError) (entry : Entry) :
    e.diagnostic entry = entry.name ++ ": " ++ spellZeros (": ".intercalate e.layers) := by
  have hname : spellZeros (entry.name ++ ": ") = entry.name ++ ": " := by
    cases entry <;> decide
  rw [diagnostic_eq, chain_eq, spellZeros_append, hname]

end CallError
end ViewerBridge
