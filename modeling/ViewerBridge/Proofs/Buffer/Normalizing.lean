import ViewerBridge.Buffer.Basic
/-!
# Narrowing the doubles of a buffer

A buffer of doubles is stored as one of floats: each group of eight bytes becomes the four bytes of
the nearest float, and what is left over is dropped. A payload that is large enough for the shape of
its buffer is large enough after that too.
-/
namespace ViewerBridge

namespace Narrowing

def group (w i : Nat) (bs : List UInt8) : List UInt8 := (bs.drop (w * i)).take w

theorem group_zero_append {w : Nat} {head : List UInt8} (h : head.length = w)
    (rest : List UInt8) : group w 0 (head ++ rest) = head := by
  subst h
  simp [group]

theorem group_succ_append {w : Nat} {head : List UInt8} (h : head.length = w) (i : Nat)
    (rest : List UInt8) : group w (i + 1) (head ++ rest) = group w i rest := by
  subst h
  rw [group, Nat.mul_succ, Nat.add_comm, List.drop_length_add_append, group]

theorem octets_induction {motive : List UInt8 → Prop}
    (short : ∀ bs, bs.length < 8 → motive bs)
    (octet : ∀ head rest, head.length = 8 → motive rest → motive (head ++ rest))
    (bs : List UInt8) : motive bs := by
  induction hn : bs.length using Nat.strongRecOn generalizing bs with
  | ind n ih =>
    by_cases h : bs.length < 8
    · exact short bs h
    · have hrest : (bs.drop 8).length < n := by
        rw [List.length_drop]
        omega
      have hhead : (bs.take 8).length = 8 := by
        rw [List.length_take]
        omega
      rw [← List.take_append_drop 8 bs]
      exact octet _ _ hhead (ih _ hrest _ rfl)

theorem narrowOnto_append {head : List UInt8} (h : head.length = 8) (rest done : List UInt8) :
    narrowOnto (head ++ rest) done = narrowOnto rest ((narrowBytes head).reverseAux done) := by
  match head, h with
  | [_, _, _, _, _, _, _, _], _ => rfl

theorem narrowOnto_of_short {bs : List UInt8} (h : bs.length < 8) (done : List UInt8) :
    narrowOnto bs done = done.reverse := by
  unfold narrowOnto
  split
  · simp only [List.length_cons] at h
    omega
  · rfl

theorem narrowOnto_eq (bs done : List UInt8) :
    narrowOnto bs done = done.reverse ++ narrowAll bs := by
  induction bs using octets_induction generalizing done with
  | short bs h => simp [narrowAll, narrowOnto_of_short h]
  | octet head rest h ih =>
    rw [narrowAll, narrowOnto_append h, narrowOnto_append h, ih, ih]
    simp [List.reverseAux_eq]

theorem narrowAll_append {head : List UInt8} (h : head.length = 8) (rest : List UInt8) :
    narrowAll (head ++ rest) = narrowBytes head ++ narrowAll rest := by
  rw [narrowAll, narrowOnto_append h, narrowOnto_eq]
  simp [List.reverseAux_eq]

theorem narrowAll_of_short {bs : List UInt8} (h : bs.length < 8) : narrowAll bs = [] :=
  narrowOnto_of_short h []

theorem length_narrowBytes (bs : List UInt8) : (narrowBytes bs).length = 4 :=
  LittleEndian.length_bytes 4 _

theorem length_narrowAll (bs : List UInt8) : (narrowAll bs).length = 4 * (bs.length / 8) := by
  induction bs using octets_induction with
  | short bs h => simp [narrowAll_of_short h, Nat.div_eq_of_lt h]
  | octet head rest h ih =>
    simp only [narrowAll_append h, List.length_append, length_narrowBytes, ih, h]
    omega

theorem group_narrowAll {bs : List UInt8} {i : Nat} (hi : i < bs.length / 8) :
    group 4 i (narrowAll bs) = narrowBytes (group 8 i bs) := by
  induction bs using octets_induction generalizing i with
  | short bs h =>
    rw [Nat.div_eq_of_lt h] at hi
    exact absurd hi (Nat.not_lt_zero i)
  | octet head rest h ih =>
    rw [narrowAll_append h]
    cases i with
    | zero => rw [group_zero_append h, group_zero_append (length_narrowBytes head)]
    | succ i =>
      have hrest : i < rest.length / 8 := by
        rw [List.length_append, h] at hi
        omega
      rw [group_succ_append h, group_succ_append (length_narrowBytes head), ih hrest]

end Narrowing

namespace Shape

/-- How many elements the shape has, if none of its dimensions is negative; the row stride counts
them. -/
def elementCount? (s : Shape) : Option Nat := do
  let rowStride ← count? s.rowStride
  let height ← count? s.height
  let channels ← count? s.channels
  product? (← product? rowStride height) channels

theorem byteSize?_eq (s : Shape) :
    s.byteSize? = s.elementCount?.bind (product? · s.element.size) := by
  simp [byteSize?, elementCount?, Option.bind_assoc]

theorem product?_eq_some_iff {m n size : Nat} :
    product? m n = some size ↔ m * n = size ∧ size < 1 <<< 64 := by
  unfold product?
  by_cases h : m * n < 1 <<< 64
  · simp only [if_pos h, Option.some.injEq]
    constructor
    · rintro rfl
      exact ⟨rfl, h⟩
    · exact And.left
  · simp only [if_neg h, reduceCtorEq, false_iff]
    rintro ⟨rfl, hlt⟩
    exact h hlt

theorem byteSize?_eq_some_iff {s : Shape} {size : Nat} :
    s.byteSize? = some size ↔
      ∃ count, s.elementCount? = some count ∧ count * s.element.size = size ∧ size < 1 <<< 64 := by
  rw [byteSize?_eq, Option.bind_eq_some_iff]
  simp only [product?_eq_some_iff]

theorem byteSize?_with_element {s : Shape} {size : Nat} (h : s.byteSize? = some size)
    {element : ElementType} (hle : element.size ≤ s.element.size) :
    ∃ count, count * s.element.size = size ∧
      { s with element }.byteSize? = some (count * element.size) := by
  obtain ⟨count, hcount, hsize, hlt⟩ := byteSize?_eq_some_iff.mp h
  have hmul : count * element.size ≤ size := hsize ▸ Nat.mul_le_mul_left count hle
  exact ⟨count, hsize, byteSize?_eq_some_iff.mpr ⟨count, hcount, rfl, Nat.lt_of_le_of_lt hmul hlt⟩⟩

end Shape

namespace Buffer
open Narrowing

theorem normalized_of_ne {b : Buffer} (h : b.shape.element ≠ .float64) : b.normalized = b := by
  unfold normalized
  split
  · next hf => exact absurd hf h
  · rfl

theorem normalized_of_eq {b : Buffer} (h : b.shape.element = .float64) :
    b.normalized = { b with
      shape := { b.shape with element := .float32 }
      payload := narrowAll b.payload } := by
  rw [normalized, h]

theorem byteSize?_normalized {b : Buffer} {size : Nat} (h : b.shape.byteSize? = some size)
    (hle : size ≤ b.payload.length) :
    ∃ size', b.normalized.shape.byteSize? = some size' ∧ size' ≤ b.normalized.payload.length := by
  by_cases hf : b.shape.element = .float64
  · have hle' : ElementType.float32.size ≤ b.shape.element.size := by rw [hf]; decide
    obtain ⟨count, hsize, hhalf⟩ := Shape.byteSize?_with_element h hle'
    rw [normalized_of_eq hf]
    refine ⟨_, hhalf, ?_⟩
    rw [hf] at hsize
    simp only [length_narrowAll, ElementType.size] at hsize ⊢
    omega
  · rw [normalized_of_ne hf]
    exact ⟨size, h, hle⟩

/-- Of a buffer of doubles each whole double is narrowed in its place, and the bytes left over are
dropped; any other buffer stays as it is. What is large enough for its shape stays so. -/
theorem normalized_narrowed (b : Buffer) :
    (b.shape.element ≠ .float64 → b.normalized = b) ∧
      (b.shape.element = .float64 → ∃ payload,
        b.normalized = { b with shape := { b.shape with element := .float32 }, payload } ∧
          payload.length = 4 * (b.payload.length / 8) ∧
          ∀ i < b.payload.length / 8, group 4 i payload =
            LittleEndian.bytes 4
              (narrow (UInt64.ofNat (LittleEndian.value (group 8 i b.payload)))).toNat) ∧
      ∀ size, b.shape.byteSize? = some size → size ≤ b.payload.length →
        ∃ size', b.normalized.shape.byteSize? = some size' ∧
          size' ≤ b.normalized.payload.length := by
  refine ⟨normalized_of_ne, fun h => ?_, fun _ => byteSize?_normalized⟩
  exact ⟨narrowAll b.payload, normalized_of_eq h, length_narrowAll b.payload,
    fun _ hi => group_narrowAll hi⟩

/-- Two doubles of one row, 1.5 and -2, and three bytes behind them. -/
theorem normalized_narrowed_row :
    let b : Buffer := ⟨"img", "Image", "rgba", false, ⟨2, 1, 1, 2, .float64⟩,
      [0, 0, 0, 0, 0, 0, 0xF8, 0x3F, 0, 0, 0, 0, 0, 0, 0, 0xC0, 7, 7, 7]⟩
    b.shape.element = .float64 ∧ b.shape.byteSize? = some 16 ∧ 16 ≤ b.payload.length ∧
      (∃ payload, b.normalized.payload = payload ∧ payload.length = 8 ∧
        group 4 0 payload = [0, 0, 0xC0, 0x3F] ∧ group 4 1 payload = [0, 0, 0, 0xC0]) ∧
      ∃ size, b.normalized.shape.byteSize? = some size ∧ size ≤ b.normalized.payload.length := by
  intro b
  obtain ⟨-, hfloats, hsize⟩ := normalized_narrowed b
  obtain ⟨payload, hnormalized, hlength, hgroups⟩ := hfloats rfl
  have hpayload : b.normalized.payload = payload := by rw [hnormalized]
  have hfirst : group 4 0 payload = [0, 0, 0xC0, 0x3F] := (hgroups 0 (by decide)).trans (by decide)
  have hsecond : group 4 1 payload = [0, 0, 0, 0xC0] := (hgroups 1 (by decide)).trans (by decide)
  exact ⟨rfl, by decide, by decide, ⟨payload, hpayload, hlength.trans (by decide), hfirst, hsecond⟩,
    hsize 16 (by decide) (by decide)⟩

end Buffer
end ViewerBridge
