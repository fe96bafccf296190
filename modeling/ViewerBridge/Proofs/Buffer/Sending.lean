import ViewerBridge.Proofs.Buffer.Sizes
import ViewerBridge.Proofs.Wire.Limits
/-!
# Buffers that are accepted and cannot be read

A buffer is accepted by its shape and its payload alone; how long its names are is not looked at. The
payload of an accepted buffer is within the limits of the wire, so its frame is read back exactly if
its names are.
-/
namespace ViewerBridge

namespace Buffer
open Reader ViewerBridge.Field

def names (b : Buffer) : List String := [b.variableName, b.displayName, b.pixelLayout]

/-- The first text of a buffer that is longer than the wire carries. -/
def overlong? (b : Buffer) : Option String := b.names.find? (2 ^ 30 < ·.utf8ByteSize)

theorem fits_iff (b : Buffer) : (Message.bufferContents b).Fits ↔
    (∀ name ∈ b.names, name.utf8ByteSize ≤ maxLength) ∧ b.payload.length ≤ maxLength := by
  simp only [Message.Fits, Message.fields, Message.bufferFields, names, List.forall_mem_cons,
    Field.Fits, Field.ofText, Field.ofBytes, FieldType.Fits]
  simp only [List.not_mem_nil, false_imp_iff, implies_true, true_and, and_true, and_assoc]

theorem overlong?_eq_some {b : Buffer} {name : String} (h : b.overlong? = some name) :
    maxLength < name.utf8ByteSize ∧ (b.variableName = name ∨
      b.variableName.utf8ByteSize ≤ maxLength ∧ (b.displayName = name ∨
        b.displayName.utf8ByteSize ≤ maxLength ∧ b.pixelLayout = name)) := by
  have hmax : maxLength = 2 ^ 30 := rfl
  have hlong : maxLength < name.utf8ByteSize := by simpa [hmax] using List.find?_some h
  refine ⟨hlong, ?_⟩
  simp only [overlong?, names, ← hmax, List.find?_cons] at h
  by_cases hv : maxLength < b.variableName.utf8ByteSize
  · exact .inl (by simpa [hv] using h)
  · refine .inr ⟨Nat.not_lt.mp hv, ?_⟩
    by_cases hd : maxLength < b.displayName.utf8ByteSize
    · exact .inl (by simpa [hv, hd] using h)
    · refine .inr ⟨Nat.not_lt.mp hd, ?_⟩
      by_cases hx : maxLength < b.pixelLayout.utf8ByteSize
      · simpa [hv, hd, hx] using h
      · simp [hv, hd, hx] at h

theorem span_of_overlong {b : Buffer} {name : String} (h : b.overlong? = some name)
    (hn : name.utf8ByteSize < 2 ^ 64) (rest : List UInt8) :
    ∃ tail, Span.buffer (encodeAll (Message.bufferFields b) ++ rest) =
      (.error (.oversized name.utf8ByteSize), tail) := by
  simp only [encodeAll, Message.bufferFields, List.flatMap_cons, List.append_assoc, Field.bytes,
    Field.ofText]
  unfold Span.buffer
  obtain ⟨hlong, rfl | ⟨hv, rfl | ⟨hd, rfl⟩⟩⟩ := overlong?_eq_some h
  · exact ⟨_, bind_error (Span.sized_oversized hlong hn _)⟩
  · rw [bind_ok (Span.sized_append hv _)]
    exact ⟨_, bind_error (Span.sized_oversized hlong hn _)⟩
  · rw [bind_ok (Span.sized_append hv _), bind_ok (Span.sized_append hd _)]
    exact ⟨_, bind_error (Span.sized_oversized hlong hn _)⟩

theorem next_frame_of_overlong {b : Buffer} {name : String} (h : b.overlong? = some name)
    (hn : name.utf8ByteSize < 2 ^ 64) (rest : List UInt8) :
    Frames.next ((Message.bufferContents b).frame ++ rest) =
      (.failed (.malformed (.oversized name.utf8ByteSize)),
        (Message.bufferContents b).frame ++ rest) := by
  obtain ⟨tail, hspan⟩ := span_of_overlong h hn rest
  exact Frames.next_frame_oversized hspan

/-- An accepted buffer is read back from its frame, with nothing left of it, exactly if none of its
texts is longer than the wire carries. Otherwise it is sent all the same, and the frame is refused
over the first such text and stays in the way of all that comes behind it. -/
theorem next_frame_of_toContents {b contents : Buffer} (h : b.toContents = .ok contents)
    (rest : List UInt8) :
    let bytes := (Composer.encode {} (.bufferContents contents) []).2
    (Frames.next (bytes ++ rest) = (.message (.bufferContents b), rest) ↔
        ∀ name ∈ b.names, name.utf8ByteSize ≤ 2 ^ 30) ∧
      ∀ name, b.overlong? = some name → name.utf8ByteSize < 2 ^ 64 →
        Frames.next (bytes ++ rest) =
          (.failed (.malformed (.oversized name.utf8ByteSize)), bytes ++ rest) := by
  obtain ⟨⟨-, -, hpayload⟩, rfl⟩ := toContents_eq_ok_iff.mp h
  simp only [Composer.encode_empty, List.nil_append]
  refine ⟨?_, fun name hname hn => next_frame_of_overlong hname hn rest⟩
  rw [Frames.next_frame_iff, fits_iff]
  exact and_iff_left hpayload

/-- A small buffer, with a byte behind its frame. -/
theorem next_frame_of_toContents_small :
    let b : Buffer := ⟨"img", "Image", "rgba", false, ⟨4, 2, 1, 4, .unsignedByte⟩,
      [1, 2, 3, 4, 5, 6, 7, 8]⟩
    b.toContents = .ok b ∧
      Frames.next ((Composer.encode {} (.bufferContents b) []).2 ++ [9]) =
        (.message (.bufferContents b), [9]) := by
  intro b
  have h : b.toContents = .ok b := by decide
  exact ⟨h, (next_frame_of_toContents h [9]).1.mpr (by decide)⟩

theorem utf8ByteSize_replicate (n : Nat) :
    (String.ofList (List.replicate n 'a')).utf8ByteSize = n := by
  induction n with
  | zero => simp
  | succ n ih =>
    have ha : "a".utf8ByteSize = 1 := by decide
    simp [List.replicate_succ, String.ofList_cons, ih, ha, Nat.add_comm]

def twoRows (displayName : String) : Buffer :=
  ⟨"img", displayName, "rgba", false, ⟨4, 2, 1, 4, .unsignedByte⟩, [0, 0, 0, 0, 0, 0, 0, 0]⟩

theorem toContents_twoRows (displayName : String) :
    (twoRows displayName).toContents = .ok (twoRows displayName) := by
  have hadmits : Shape.Admits ⟨4, 2, 1, 4, .unsignedByte⟩ 8 :=
    (Shape.verdict_eq_ok_iff _ _).mp (by decide)
  exact toContents_eq_ok_iff.mpr ⟨hadmits, rfl⟩

theorem overlong?_twoRows {displayName : String} (h : 2 ^ 30 < displayName.utf8ByteSize) :
    (twoRows displayName).overlong? = some displayName := by
  have himg : ¬ 2 ^ 30 < "img".utf8ByteSize := by decide
  simp only [overlong?, names, twoRows, List.find?_cons, himg, h, decide_false, decide_true]

/-- The two rows under a name of more than 2 ^ 30 bytes are accepted, but their frame is refused. -/
theorem next_frame_of_long_displayName :
    let b := twoRows (String.ofList (List.replicate 1073774592 'a'))
    let bytes := (Composer.encode {} (.bufferContents b) []).2
    b.toContents = .ok b ∧
      Frames.next bytes = (.failed (.malformed (.oversized 1073774592)), bytes) := by
  have hsize := utf8ByteSize_replicate 1073774592
  generalize String.ofList (List.replicate 1073774592 'a') = displayName at hsize ⊢
  have hlong := @overlong?_twoRows displayName (by omega)
  have hnext := next_frame_of_overlong hlong (by omega) []
  have hbytes : (Composer.encode {} (.bufferContents (twoRows displayName)) []).2 =
      (Message.bufferContents (twoRows displayName)).frame := by
    rw [Composer.encode_empty, List.nil_append]
  rw [List.append_nil, hsize, ← hbytes] at hnext
  exact ⟨toContents_twoRows displayName, hnext⟩

end Buffer
end ViewerBridge
