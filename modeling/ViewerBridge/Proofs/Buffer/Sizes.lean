import Mathlib.Algebra.Order.Ring.Int
import ViewerBridge.Buffer.Basic
/-!
# The size of a buffer

The size that a shape asks for is multiplied in 64 bits, factor by factor. That loses nothing: some
product on the way is too large only if the size itself is. So a buffer is judged as it would be by
the exact size.
-/
namespace ViewerBridge

namespace Shape

def exactSize (s : Shape) : Int :=
  s.rowStride.toInt * s.height.toInt * s.channels.toInt * s.element.size

def verdict (s : Shape) (length : Nat) : Except SizeFault Unit :=
  if s.width.toInt < 0 then .error (.negative .width s.width)
  else if s.height.toInt < 0 then .error (.negative .height s.height)
  else if s.channels.toInt < 0 then .error (.negative .channels s.channels)
  else if s.rowStride.toInt < 0 then .error (.negative .rowStride s.rowStride)
  else if 2 ^ 64 ≤ s.exactSize ∨ 2 ^ 30 < length then .error .tooLarge
  else if length < s.exactSize then .error (.mismatch s.exactSize.toNat length)
  else .ok ()

theorem lt_zero_iff (i : Int32) : i < 0 ↔ i.toInt < 0 := Int32.lt_iff_toInt_lt

theorem count?_of_nonneg {i : Int32} (h : 0 ≤ i.toInt) : count? i = some i.toInt.toNat := by
  have hi : 0 ≤ i := Int32.le_iff_toInt_le.mpr (by rwa [Int32.toInt_zero])
  rw [count?, if_pos hi]

theorem product?_bind {m n k : Nat} (hk : 0 < k) :
    (product? m n).bind (product? · k) = product? (m * n) k := by
  unfold product?
  by_cases h : m * n < 1 <<< 64
  · rw [if_pos h, Option.bind_some]
  · have hle : m * n ≤ m * n * k := Nat.le_mul_of_pos_right _ hk
    rw [if_neg h, if_neg (by omega), Option.bind_none]

theorem byteSize?_of_nonneg {s : Shape} (hr : 0 ≤ s.rowStride.toInt) (hh : 0 ≤ s.height.toInt)
    (hc : 0 ≤ s.channels.toInt) :
    s.byteSize? = if s.exactSize < 2 ^ 64 then some s.exactSize.toNat else none := by
  have hexact : s.exactSize = ((s.rowStride.toInt.toNat * s.height.toInt.toNat
      * s.channels.toInt.toNat * s.element.size : Nat) : Int) := by
    simp only [exactSize, Nat.cast_mul, Int.toNat_of_nonneg hr, Int.toNat_of_nonneg hh,
      Int.toNat_of_nonneg hc]
  have hplane : s.rowStride.toInt.toNat * s.height.toInt.toNat < 1 <<< 64 := by
    have hr' : s.rowStride.toInt.toNat < 2 ^ 31 := by
      have := s.rowStride.toInt_lt
      omega
    have hh' : s.height.toInt.toNat < 2 ^ 31 := by
      have := s.height.toInt_lt
      omega
    calc s.rowStride.toInt.toNat * s.height.toInt.toNat
        < 2 ^ 31 * 2 ^ 31 := Nat.mul_lt_mul'' hr' hh'
      _ < 1 <<< 64 := by decide
  have hsteps : s.byteSize? = product? (s.rowStride.toInt.toNat * s.height.toInt.toNat
      * s.channels.toInt.toNat) s.element.size := by
    simp only [byteSize?, count?_of_nonneg hr, count?_of_nonneg hh, count?_of_nonneg hc,
      Option.bind_eq_bind, Option.bind_some]
    rw [product?, if_pos hplane, Option.bind_some]
    exact product?_bind s.element.size_pos
  rw [hsteps, hexact, product?, Int.toNat_natCast]
  exact if_congr (by norm_cast) rfl rfl

theorem negative?_eq (s : Shape) : s.negative? =
    if s.width.toInt < 0 then some .width
    else if s.height.toInt < 0 then some .height
    else if s.channels.toInt < 0 then some .channels
    else if s.rowStride.toInt < 0 then some .rowStride
    else none := by
  simp only [negative?, Dimension.all, List.find?_cons, List.find?_nil, dimension, lt_zero_iff]
  split_ifs with hw hh hc hr <;> simp [*]

theorem accept_of_negative {s : Shape} {d : Dimension} (h : s.negative? = some d) (length : Nat) :
    s.accept length = .error (.negative d (s.dimension d)) := by
  rw [accept, requiredSize, h]

theorem accept_of_nonneg {s : Shape} (h : s.negative? = none) (hr : 0 ≤ s.rowStride.toInt)
    (hh : 0 ≤ s.height.toInt) (hc : 0 ≤ s.channels.toInt) (length : Nat) :
    s.accept length =
      if 2 ^ 64 ≤ s.exactSize ∨ 2 ^ 30 < length then .error .tooLarge
      else if length < s.exactSize then .error (.mismatch s.exactSize.toNat length)
      else .ok () := by
  have hmax : Reader.maxLength = 2 ^ 30 := rfl
  rw [accept, requiredSize, h, byteSize?_of_nonneg hr hh hc, hmax]
  by_cases hsize : s.exactSize < 2 ^ 64
  · have hexact : (length : Int) < s.exactSize ↔ length < s.exactSize.toNat := Int.lt_toNat.symm
    simp only [if_pos hsize, hexact, not_le.mpr hsize, false_or, gt_iff_lt]
  · simp only [if_neg hsize, not_lt.mp hsize, true_or, if_true]

theorem accept_eq_verdict (s : Shape) (length : Nat) : s.accept length = s.verdict length := by
  have hn := s.negative?_eq
  unfold verdict
  split_ifs at hn with hw hh hc hr
  · rw [if_pos hw]
    exact accept_of_negative hn length
  · rw [if_neg hw, if_pos hh]
    exact accept_of_negative hn length
  · rw [if_neg hw, if_neg hh, if_pos hc]
    exact accept_of_negative hn length
  · rw [if_neg hw, if_neg hh, if_neg hc, if_pos hr]
    exact accept_of_negative hn length
  · rw [if_neg hw, if_neg hh, if_neg hc, if_neg hr]
    exact accept_of_nonneg hn (not_lt.mp hr) (not_lt.mp hh) (not_lt.mp hc) length

/-- Whether no dimension is negative and the payload has as many bytes as the shape asks for, but no
more than the wire carries. -/
def Admits (s : Shape) (length : Nat) : Prop :=
  (∀ d, 0 ≤ (s.dimension d).toInt) ∧ s.exactSize ≤ length ∧ length ≤ 2 ^ 30

theorem verdict_eq_ok_iff (s : Shape) (length : Nat) : s.verdict length = .ok () ↔ s.Admits length := by
  have hall : (∀ d, 0 ≤ (s.dimension d).toInt) ↔
      ¬ s.width.toInt < 0 ∧ ¬ s.height.toInt < 0 ∧ ¬ s.channels.toInt < 0 ∧
        ¬ s.rowStride.toInt < 0 := by
    simp only [not_lt]
    refine ⟨fun h => ⟨h .width, h .height, h .channels, h .rowStride⟩, ?_⟩
    rintro ⟨hw, hh, hc, hr⟩ d
    cases d <;> assumption
  rw [Admits, hall]
  unfold verdict
  split_ifs with hw hh hc hr hlarge hshort
  · simp [hw]
  · simp [hh]
  · simp [hc]
  · simp [hr]
  · simp only [false_iff]
    omega
  · simp only [false_iff]
    omega
  · simp only [hw, hh, hc, hr, not_false_eq_true, true_and, true_iff]
    omega

theorem Admits.byteSize?_eq {s : Shape} {length : Nat} (h : s.Admits length) :
    ∃ size : Nat, s.byteSize? = some size ∧ (size : Int) = s.exactSize := by
  obtain ⟨hall, hsize, hlength⟩ := h
  have hr : 0 ≤ s.rowStride.toInt := hall .rowStride
  have hh : 0 ≤ s.height.toInt := hall .height
  have hc : 0 ≤ s.channels.toInt := hall .channels
  have hexact : 0 ≤ s.exactSize :=
    mul_nonneg (mul_nonneg (mul_nonneg hr hh) hc) (Int.natCast_nonneg _)
  have hlt : s.exactSize < 2 ^ 64 := by omega
  refine ⟨s.exactSize.toNat, ?_, Int.toNat_of_nonneg hexact⟩
  rw [byteSize?_of_nonneg hr hh hc, if_pos hlt]

end Shape

namespace Buffer

theorem validate_eq_ok_iff (b : Buffer) :
    b.validate = .ok () ↔ b.shape.Admits b.payload.length := by
  rw [← Shape.verdict_eq_ok_iff, ← Shape.accept_eq_verdict, validate]
  cases b.shape.accept b.payload.length <;> simp [Except.mapError]

theorem toContents_eq_ok_iff {b contents : Buffer} :
    b.toContents = .ok contents ↔ b.shape.Admits b.payload.length ∧ contents = b := by
  rw [← validate_eq_ok_iff]
  unfold toContents
  rcases b.validate with e | _
  · simp [bind, Except.bind]
  · simp [bind, Except.bind, pure, Except.pure, eq_comm]

/-- A buffer is judged as by the exact size that its shape asks for: the first negative dimension is
reported, or that the size or the payload is too large, or that the payload is too short, and nothing
else is refused. What is sent of a buffer is the buffer, and the size of its shape is the exact one. -/
theorem validate_exact (b : Buffer) :
    b.validate = (b.shape.verdict b.payload.length).mapError (⟨b.variableName, ·⟩) ∧
      (b.validate = .ok () ↔ (∀ d, 0 ≤ (b.shape.dimension d).toInt) ∧
        b.shape.exactSize ≤ b.payload.length ∧ b.payload.length ≤ 2 ^ 30) ∧
      (b.validate = .ok () → b.toContents = .ok b) ∧
      ∀ contents, b.toContents = .ok contents → contents = b ∧
        ∃ size : Nat, contents.shape.byteSize? = some size ∧
          (size : Int) = b.shape.exactSize := by
  refine ⟨?_, b.validate_eq_ok_iff, ?_, ?_⟩
  · rw [validate, Shape.accept_eq_verdict]
  · intro h
    exact toContents_eq_ok_iff.mpr ⟨b.validate_eq_ok_iff.mp h, rfl⟩
  · intro contents h
    obtain ⟨hadmits, rfl⟩ := toContents_eq_ok_iff.mp h
    exact ⟨rfl, hadmits.byteSize?_eq⟩

/-- A size of 2 ^ 64 bytes, the first that 64 bits do not hold. -/
example : Shape.accept ⟨1, 1073741824, 16, 1073741824, .unsignedByte⟩ 0 = .error .tooLarge := by
  decide

end Buffer
end ViewerBridge
