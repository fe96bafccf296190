import ViewerBridge.Proofs.Wire.Passing
/-!
# What is missing of a frame

Bytes that are still arriving are read over and over from their front. An answer that does not ask
for more stays when more arrives, a frame that is cut off anywhere asks for more, and what is asked
for is never more than what is missing.
-/
namespace ViewerBridge
open WireError

namespace Reader

variable {α : Type} {r : Reader α}

theorem Streams.truncated_of_prefix (h : Streams r) {s rest front : List UInt8} {a : α}
    (hr : r s = (.ok a, rest)) (hfront : front <+: s)
    (hlength : front.length + rest.length < s.length) :
    ∃ needed available, (r front).1 = .error (.truncated needed available) := by
  obtain ⟨more, rfl⟩ := hfront
  rw [List.length_append] at hlength
  rcases hf : r front with ⟨e | b, left⟩
  · cases he : e.isTruncated with
    | true =>
      cases e with
      | truncated needed available => exact ⟨needed, available, rfl⟩
      | unknownKind | unknownElement | invalidText | oversized => cases he
    | false =>
      have happend := h.error_append hf he more
      rw [hr] at happend
      cases happend
  · have happend := h.ok_append hf more
    rw [hr] at happend
    have hrest : rest = left ++ more := (Prod.mk.inj happend).2
    have hl := congrArg List.length hrest
    rw [List.length_append] at hl
    omega

theorem Streams.truncated_append (h : Streams r) {s : List UInt8} {needed available : Nat}
    (hs : (r s).1 = .error (.truncated needed available)) :
    available < needed ∧ ∀ more : List UInt8, more.length < needed - available →
      ∃ n k, (r (s ++ more)).1 = .error (.truncated n k) := by
  obtain ⟨-, hlt, hmore⟩ := h.shortfall s needed available hs
  refine ⟨hlt, fun more hl => hmore more ?_⟩
  omega

end Reader

namespace Span

theorem truncated_of_prefix {s front : List UInt8} {n : Nat} (h : (frame s).1 = .ok n)
    (hfront : front <+: s.take n) (hne : front ≠ s.take n) :
    ∃ needed available, (frame front).1 = .error (.truncated needed available) := by
  have hs : frame s = (.ok n, (frame s).2) := Prod.ext h rfl
  have hcount : n + (frame s).2.length = 0 + s.length := counts_frame s n _ hs
  have hlt : front.length < (s.take n).length :=
    Nat.lt_of_le_of_ne hfront.length_le fun hl => hne (hfront.eq_of_length hl)
  rw [List.length_take] at hlt
  refine streams_frame.truncated_of_prefix hs (hfront.trans (List.take_prefix n s)) ?_
  omega

end Span

namespace Message

/-- When more bytes arrive behind some, both passing over a frame and reading it give the same answer
as before, unless that was to ask for more. A frame that is cut off anywhere asks for more. What is
then asked for is missing: with less than that the answer is to ask for more again. -/
theorem frame_read_extended (bytes : List UInt8) :
    (isFinal (Span.frame bytes).1 = true →
        ∀ more, (Span.frame (bytes ++ more)).1 = (Span.frame bytes).1) ∧
      (isFinal (Message.read bytes).1 = true → ∀ more,
        Message.read (bytes ++ more) = ((Message.read bytes).1, (Message.read bytes).2 ++ more)) ∧
      (∀ n, (Span.frame bytes).1 = .ok n →
        ∀ front, front <+: bytes.take n → front ≠ bytes.take n →
          ∃ needed available, (Span.frame front).1 = .error (.truncated needed available)) ∧
      (∀ m rest, Message.read bytes = (.ok m, rest) →
        ∀ front, front <+: bytes → front.length + rest.length < bytes.length →
          ∃ needed available, (Message.read front).1 = .error (.truncated needed available)) ∧
      (∀ needed available, (Span.frame bytes).1 = .error (.truncated needed available) →
        available < needed ∧ ∀ more : List UInt8, more.length < needed - available →
          ∃ n k, (Span.frame (bytes ++ more)).1 = .error (.truncated n k)) ∧
      ∀ needed available, (Message.read bytes).1 = .error (.truncated needed available) →
        available < needed ∧ ∀ more : List UInt8, more.length < needed - available →
          ∃ n k, (Message.read (bytes ++ more)).1 = .error (.truncated n k) := by
  refine ⟨?_, ?_, ?_, ?_, ?_, ?_⟩
  · intro h more
    rw [Span.streams_frame.final bytes more h]
  · intro h more
    exact streams_read.final bytes more h
  · intro n h front
    exact Span.truncated_of_prefix h
  · intro m rest h front
    exact streams_read.truncated_of_prefix h
  · intro needed available
    exact Span.streams_frame.truncated_append
  · intro needed available
    exact streams_read.truncated_append

/-- A plot request for a name of three bytes, of which one has arrived. -/
example : (Span.frame [4, 0, 0, 0, 3, 0, 0, 0, 0, 0, 0, 0, 97]).1 = .error (.truncated 3 1) := rfl

end Message
end ViewerBridge
