import ViewerBridge.Wire.Error
/-!
# Readers

A reader takes a value off the front of the bytes that are left and moves the cursor past it. A read
that fails says why and leaves the cursor where it stopped, so pieces read before the failure stay
consumed.
-/
namespace ViewerBridge

/-- Reads a value from the bytes at the cursor; gives the outcome and the bytes left after it. -/
def Reader (α : Type) := List UInt8 → Except WireError α × List UInt8

namespace Reader

/-- The longest text, run of bytes or list that the wire carries. -/
def maxLength : Nat := 1 <<< 30

instance : Monad Reader where
  pure a := fun s => (.ok a, s)
  bind r f := fun s =>
    match r s with
    | (.ok a, rest) => f a rest
    | (.error e, rest) => (.error e, rest)

def fail {α : Type} (e : WireError) : Reader α := fun s => (.error e, s)

@[simp] theorem pure_apply {α : Type} (a : α) (s : List UInt8) :
    (pure a : Reader α) s = (.ok a, s) := rfl

theorem bind_apply {α β : Type} (r : Reader α) (f : α → Reader β) (s : List UInt8) :
    (r >>= f) s = match r s with
      | (.ok a, rest) => f a rest
      | (.error e, rest) => (.error e, rest) := rfl

theorem bind_ok {α β : Type} {r : Reader α} {f : α → Reader β} {s rest : List UInt8} {a : α}
    (h : r s = (.ok a, rest)) : (r >>= f) s = f a rest := by
  rw [bind_apply, h]

theorem bind_error {α β : Type} {r : Reader α} {f : α → Reader β} {s rest : List UInt8}
    {e : WireError} (h : r s = (.error e, rest)) : (r >>= f) s = (.error e, rest) := by
  rw [bind_apply, h]

theorem pure_eq_ok {α : Type} {a b : α} {s rest : List UInt8}
    (h : (pure a : Reader α) s = (.ok b, rest)) : a = b ∧ s = rest := by
  cases h
  exact ⟨rfl, rfl⟩

theorem bind_eq_ok {α β : Type} {r : Reader α} {f : α → Reader β} {s rest : List UInt8} {b : β}
    (h : (r >>= f) s = (.ok b, rest)) : ∃ a mid, r s = (.ok a, mid) ∧ f a mid = (.ok b, rest) := by
  rcases hr : r s with ⟨e | a, mid⟩
  · rw [bind_error hr] at h
    cases h
  · rw [bind_ok hr] at h
    exact ⟨a, mid, rfl, h⟩

/-- Whether the list has at least `n` members; it looks at no more than `n` of them. -/
def reaches : Nat → List UInt8 → Bool
  | 0, _ => true
  | _ + 1, [] => false
  | n + 1, _ :: s => reaches n s

theorem reaches_iff {n : Nat} {s : List UInt8} : reaches n s = true ↔ n ≤ s.length := by
  induction n generalizing s with
  | zero => simp [reaches]
  | succ n ih => cases s <;> simp [reaches, ih]

/-- Takes `n` bytes, or fails without moving if fewer are left. -/
def take (n : Nat) : Reader (List UInt8) := fun s =>
  if reaches n s then (.ok (s.take n), s.drop n) else (.error (.truncated n s.length), s)

def skip (n : Nat) : Reader Nat := fun s =>
  if reaches n s then (.ok n, s.drop n) else (.error (.truncated n s.length), s)

theorem take_append {front : List UInt8} {n : Nat} (h : front.length = n) (rest : List UInt8) :
    take n (front ++ rest) = (.ok front, rest) := by
  subst h
  have hr : reaches front.length (front ++ rest) = true := reaches_iff.mpr (by simp)
  simp [take, hr]

theorem take_of_lt {n : Nat} {s : List UInt8} (h : s.length < n) :
    take n s = (.error (.truncated n s.length), s) := by
  have hr : ¬ reaches n s = true := by rw [reaches_iff]; omega
  simp [take, hr]

theorem skip_eq (n : Nat) (s : List UInt8) :
    skip n s = if n ≤ s.length then (.ok n, s.drop n) else (.error (.truncated n s.length), s) := by
  simp [skip, reaches_iff]

theorem take_eq (n : Nat) (s : List UInt8) :
    take n s =
      if n ≤ s.length then (.ok (s.take n), s.drop n) else (.error (.truncated n s.length), s) := by
  simp [take, reaches_iff]

theorem take_eq_ok {n : Nat} {s bs rest : List UInt8} (h : take n s = (.ok bs, rest)) :
    s = bs ++ rest ∧ bs.length = n := by
  rw [take_eq] at h
  split at h
  · next hn =>
    cases h
    exact ⟨(List.take_append_drop n s).symm, List.length_take_of_le hn⟩
  · cases h

/-- Reads `n` items in a row and puts them, in order, after those in `read`, which is reversed. -/
def repeatOnto {α : Type} (item : Reader α) : Nat → List α → Reader (List α)
  | 0, read, s => (.ok read.reverse, s)
  | n + 1, read, s =>
    match item s with
    | (.ok a, rest) => repeatOnto item n (a :: read) rest
    | (.error e, rest) => (.error e, rest)

def repeated {α : Type} (item : Reader α) (n : Nat) : Reader (List α) := repeatOnto item n []

def skipOnto (item : Reader Nat) : Nat → Nat → Reader Nat
  | 0, passed, s => (.ok passed, s)
  | n + 1, passed, s =>
    match item s with
    | (.ok k, rest) => skipOnto item n (passed + k) rest
    | (.error e, rest) => (.error e, rest)

theorem repeatOnto_eq {α : Type} (item : Reader α) (n : Nat) (read : List α) (s : List UInt8) :
    repeatOnto item n read s =
      match repeated item n s with
      | (.ok as, rest) => (.ok (read.reverse ++ as), rest)
      | (.error e, rest) => (.error e, rest) := by
  unfold repeated
  induction n generalizing read s with
  | zero => simp [repeatOnto]
  | succ n ih =>
    simp only [repeatOnto]
    split
    · rw [ih, ih [_]]
      split <;> simp
    · rfl

@[simp] theorem repeated_zero {α : Type} (item : Reader α) : repeated item 0 = pure [] := rfl

theorem repeated_succ {α : Type} (item : Reader α) (n : Nat) :
    repeated item (n + 1) = (do
      let a ← item
      let as ← repeated item n
      return a :: as) := by
  funext s
  rw [repeated, repeatOnto, bind_apply]
  split
  · rw [repeatOnto_eq, bind_apply]
    split <;> simp_all
  · rfl

end Reader
end ViewerBridge
