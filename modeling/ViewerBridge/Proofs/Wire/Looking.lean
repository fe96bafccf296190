import Mathlib.Logic.ExistsUnique
import Mathlib.Order.Bounds.Defs
import ViewerBridge.Proofs.Wire.Carrying
import ViewerBridge.Proofs.Wire.Stream
/-!
# One look at a buffer

A look at a buffer drops the headers at its front that name no kind. It then waits for more bytes,
takes one frame off, or finds that the frame cannot be passed over. In the last case the buffer stays
as it is, and every later look finds the same, whatever arrives.
-/
namespace ViewerBridge

namespace Kind

theorem exists_tag {tag : Int32} (h : 0 ≤ tag ∧ tag ≤ 4) : ∃ k : Kind, k.tag = tag := by
  have h0 : 0 ≤ tag.toInt := Int32.le_iff_toInt_le.mp h.1
  have h4 : tag.toInt ≤ 4 := Int32.le_iff_toInt_le.mp h.2
  have hcases : tag.toInt = 0 ∨ tag.toInt = 1 ∨ tag.toInt = 2 ∨ tag.toInt = 3 ∨ tag.toInt = 4 := by
    omega
  have htag : ∀ k : Kind, k.tag.toInt = tag.toInt → ∃ k : Kind, k.tag = tag :=
    fun k hk => ⟨k, Int32.toInt_inj.mp hk⟩
  rcases hcases with ht | ht | ht | ht | ht
  · exact htag .symbolsQuery ht.symm
  · exact htag .symbolsAnswer ht.symm
  · exact htag .availableSymbols ht.symm
  · exact htag .bufferContents ht.symm
  · exact htag .plotRequest ht.symm

theorem ofTag?_eq_none_iff {tag : Int32} : ofTag? tag = none ↔ ¬ (0 ≤ tag ∧ tag ≤ 4) := by
  refine ⟨fun h hr => ?_, ofTag?_eq_none⟩
  obtain ⟨k, rfl⟩ := exists_tag hr
  rw [ofTag?_tag] at h
  cases h

end Kind

namespace Frames
open Reader ViewerBridge.Field

def frontTag (bytes : List UInt8) : Int32 :=
  (UInt32.ofNat (LittleEndian.value (bytes.take 4))).toInt32

/-- The first `k` groups of four bytes are headers that name no kind. -/
def UnknownUpTo (bytes : List UInt8) (k : Nat) : Prop :=
  4 * k ≤ bytes.length ∧
    ∀ i < k, ¬ (0 ≤ frontTag (bytes.drop (4 * i)) ∧ frontTag (bytes.drop (4 * i)) ≤ 4)

/-- Looks at a buffer once after each chunk, which is put after what the look before has left. -/
def looks (buffer : List UInt8) : List (List UInt8) → List Outcome × List UInt8
  | [] => ([], buffer)
  | chunk :: chunks =>
    let (o, rest) := next (buffer ++ chunk)
    let (os, rest) := looks rest chunks
    (o :: os, rest)

inductive Finding where
  | incomplete
  | frame
  | blocked

/-- The look at `buffer`, of which `rest` stands behind the unknown headers, finds this. -/
def Finding.Holds (buffer rest : List UInt8) : Finding → Prop
  | incomplete =>
    (∃ needed available, (Span.frame rest).1 = .error (.truncated needed available)) ∧
      next buffer = (.nothing, rest)
  | frame => ∃ n, (Span.frame rest).1 = .ok n ∧ n ≤ rest.length ∧
      ((∃ m, Message.read (rest.take n) = (.ok m, []) ∧
          next buffer = (.message m, rest.drop n)) ∨
        ((Message.read (rest.take n)).1 = .error .invalidText ∧
          next buffer = (.failed (.malformed .invalidText), rest.drop n)))
  | blocked => ∃ cause,
      ((∃ length, cause = .oversized length) ∨ ∃ code, cause = .unknownElement code) ∧
      (Span.frame rest).1 = .error cause ∧ next buffer = (.failed (.malformed cause), rest) ∧
      ∀ chunks, looks rest chunks =
        (List.replicate chunks.length (.failed (.malformed cause)), rest ++ chunks.flatten)

variable {buffer rest : List UInt8}

theorem unknownUpTo_zero (bytes : List UInt8) : UnknownUpTo bytes 0 :=
  ⟨Nat.zero_le _, fun _ h => absurd h (Nat.not_lt_zero _)⟩

theorem unknownUpTo_succ {a b c d : UInt8} {bytes : List UInt8} {k : Nat} :
    UnknownUpTo (a :: b :: c :: d :: bytes) (k + 1) ↔
      headerKind? a b c d = none ∧ UnknownUpTo bytes k := by
  have htag : headerKind? a b c d = none ↔
      ¬ (0 ≤ frontTag (a :: b :: c :: d :: bytes) ∧ frontTag (a :: b :: c :: d :: bytes) ≤ 4) :=
    Kind.ofTag?_eq_none_iff
  have hdrop : ∀ i, (a :: b :: c :: d :: bytes).drop (4 * (i + 1)) = bytes.drop (4 * i) := by
    intro i
    rw [Nat.mul_succ]
    rfl
  have hlength : 4 * (k + 1) ≤ (a :: b :: c :: d :: bytes).length ↔ 4 * k ≤ bytes.length := by
    simp only [List.length_cons]
    omega
  unfold UnknownUpTo
  rw [hlength, htag]
  constructor
  · rintro ⟨hk, h⟩
    refine ⟨h 0 (Nat.succ_pos k), hk, fun i hi => ?_⟩
    rw [← hdrop]
    exact h (i + 1) (Nat.succ_lt_succ hi)
  · rintro ⟨h0, hk, h⟩
    refine ⟨hk, fun i hi => ?_⟩
    cases i with
    | zero => exact h0
    | succ i =>
      rw [hdrop]
      exact h i (Nat.lt_of_succ_lt_succ hi)

theorem exists_afterUnknown (buffer : List UInt8) :
    ∃ k, IsGreatest {k | UnknownUpTo buffer k} k ∧ afterUnknown buffer = buffer.drop (4 * k) := by
  induction buffer using afterUnknown.induct with
  | case1 a b c d bytes hn ih =>
    obtain ⟨k, ⟨hk, hmax⟩, hdrop⟩ := ih
    have hnone : headerKind? a b c d = none := by simpa using hn
    refine ⟨k + 1, ⟨unknownUpTo_succ.mpr ⟨hnone, hk⟩, fun j hj => ?_⟩, ?_⟩
    · cases j with
      | zero => exact Nat.zero_le _
      | succ j => exact Nat.succ_le_succ (hmax (unknownUpTo_succ.mp hj).2)
    · rw [afterUnknown, if_pos hn, hdrop, Nat.mul_succ]
      rfl
  | case2 a b c d bytes hk =>
    refine ⟨0, ⟨unknownUpTo_zero _, fun j hj => ?_⟩, by rw [afterUnknown, if_neg hk]; rfl⟩
    cases j with
    | zero => exact Nat.le_refl 0
    | succ j => exact absurd (by simp [(unknownUpTo_succ.mp hj).1]) hk
  | case3 short hs =>
    refine ⟨0, ⟨unknownUpTo_zero _, fun j hj => ?_⟩, afterUnknown_short hs⟩
    have hl := length_short hs
    have hj : 4 * j ≤ short.length := hj.1
    omega

theorem afterUnknown_idem (buffer : List UInt8) :
    afterUnknown (afterUnknown buffer) = afterUnknown buffer := by
  have h := afterUnknown_append buffer []
  rwa [List.append_nil, List.append_nil, eq_comm] at h

theorem looks_of_failed {e : FrameError} (h : next buffer = (.failed e, buffer))
    (chunks : List (List UInt8)) :
    looks buffer chunks = (List.replicate chunks.length (.failed e), buffer ++ chunks.flatten) := by
  induction chunks generalizing buffer with
  | nil => rw [looks, List.flatten_nil, List.append_nil]; rfl
  | cons chunk chunks ih =>
    have hchunk := next_append h (by simp) chunk
    simp only [looks, hchunk, ih hchunk, List.flatten_cons, List.append_assoc]
    rfl

theorem blocked_of_span {cause : WireError} {tail : List UInt8}
    (h : Span.frame (afterUnknown buffer) = (.error cause, tail)) (hc : cause.isTruncated = false) :
    (∃ length, cause = .oversized length) ∨ ∃ code, cause = .unknownElement code := by
  have hfin : WireError.isFinal (Span.frame (afterUnknown buffer)).1 = true := by
    rw [h]
    simp [WireError.isFinal, hc]
  obtain ⟨k, rest, hk⟩ := readKind_of_isFinal hfin
  have hformal := Span.formal_of_frame hk h
  cases cause with
  | truncated => cases hc
  | oversized length => exact .inl ⟨length, rfl⟩
  | unknownElement code => exact .inr ⟨code, rfl⟩
  | unknownKind | invalidText => exact hformal.elim

theorem exists_finding (buffer : List UInt8) :
    ∃ f : Finding, f.Holds buffer (afterUnknown buffer) := by
  rcases hs : Span.frame (afterUnknown buffer) with ⟨cause | n, tail⟩
  · cases hc : cause.isTruncated with
    | true =>
      cases cause with
      | truncated needed available =>
        refine ⟨.incomplete, ⟨needed, available, by rw [hs]⟩, ?_⟩
        simp [next, hs, WireError.isTruncated]
      | unknownKind | unknownElement | invalidText | oversized => cases hc
    | false =>
      have hnext : next buffer = (.failed (.malformed cause), afterUnknown buffer) := by
        simp [next, hs, hc]
      have hagain : next (afterUnknown buffer) = (.failed (.malformed cause), afterUnknown buffer) := by
        rw [next_congr (afterUnknown_idem buffer), hnext]
      exact ⟨.blocked, cause, blocked_of_span hs hc, by rw [hs], hnext, looks_of_failed hagain⟩
  · obtain ⟨front, hn, hfront⟩ := Span.split_of_frame hs
    refine ⟨.frame, n, by rw [hs], by rw [hfront, ← hn]; simp, ?_⟩
    rcases Message.read_take_of_span hs with ⟨m, hr⟩ | ⟨rest, hr⟩
    · exact .inl ⟨m, hr, by simp [next, hs, hr]⟩
    · exact .inr ⟨by rw [hr], by simp [next, hs, hr]⟩

def Finding.ofSpan : Except WireError Nat → Finding
  | .ok _ => frame
  | .error cause => if cause.isTruncated then incomplete else blocked

theorem Finding.Holds.eq_ofSpan {f : Finding} (h : f.Holds buffer rest) :
    f = .ofSpan (Span.frame rest).1 := by
  cases f with
  | incomplete =>
    obtain ⟨⟨needed, available, hs⟩, -⟩ := h
    rw [hs]
    rfl
  | frame =>
    obtain ⟨n, hs, -⟩ := h
    rw [hs]
    rfl
  | blocked =>
    obtain ⟨cause, ⟨length, rfl⟩ | ⟨code, rfl⟩, hs, -⟩ := h <;> rw [hs] <;> rfl

/-- Every look at a buffer ends, and finds one of three things behind the headers that name no kind,
all of which it drops. Bytes that make no frame yet stay. A frame is taken off, and its message is
given unless a text in it is none. A frame that has a length over the limit or an unknown element
type stays, and so does the error: whatever arrives, no later look finds anything else. -/
theorem next_finding (buffer : List UInt8) :
    ∃ k, IsGreatest {k | UnknownUpTo buffer k} k ∧
      ∃! f : Finding, f.Holds buffer (buffer.drop (4 * k)) := by
  obtain ⟨k, hk, hdrop⟩ := exists_afterUnknown buffer
  obtain ⟨f, hf⟩ := exists_finding buffer
  rw [hdrop] at hf
  exact ⟨k, hk, f, hf, fun g hg => hg.eq_ofSpan.trans hf.eq_ofSpan.symm⟩

/-- An unknown header is dropped, a symbols query taken off, and the byte behind it stays. -/
example : next [99, 0, 0, 0, 0, 0, 0, 0, 5] = (.message .symbolsQuery, [5]) := by decide +kernel

end Frames
end ViewerBridge
