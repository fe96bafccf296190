import ViewerBridge.Wire.Message
/-!
# Pending messages

Messages that were read and not yet used, at most one of each kind: a message takes the place of an
earlier one of its kind. Main statements: `find?_insert`, `find?_erase` and `kind_of_find?` say what
a look-up finds after each operation.
-/
namespace ViewerBridge

/-- Messages that wait to be used, no two of them of one kind. -/
structure Pending where
  messages : List Message := []
  distinct : (messages.map Message.kind).Nodup := by simp

namespace Pending

def empty : Pending := {}

def find? (p : Pending) (kind : Kind) : Option Message := p.messages.find? (·.kind == kind)

def contains (p : Pending) (kind : Kind) : Bool := (p.find? kind).isSome

def size (p : Pending) : Nat := p.messages.length

def isEmpty (p : Pending) : Bool := p.messages.isEmpty

def kinds (p : Pending) : List Kind := Kind.all.filter p.contains

def erase (p : Pending) (kind : Kind) : Pending where
  messages := p.messages.filter (·.kind != kind)
  distinct := p.distinct.sublist (List.filter_sublist.map _)

def insert (p : Pending) (m : Message) : Pending where
  messages := m :: (p.erase m.kind).messages
  distinct := by
    rw [List.map_cons, List.nodup_cons]
    refine ⟨?_, (p.erase m.kind).distinct⟩
    intro h
    obtain ⟨n, hn, hk⟩ := List.mem_map.mp h
    have := (List.mem_filter.mp hn).2
    simp [hk] at this

/-- Adds a message and gives the one whose place it takes. -/
def replace (p : Pending) (m : Message) : Option Message × Pending := (p.find? m.kind, p.insert m)

def take (p : Pending) (kind : Kind) : Option Message × Pending := (p.find? kind, p.erase kind)

@[simp] theorem find?_empty (kind : Kind) : empty.find? kind = none := rfl

theorem kind_of_find? {p : Pending} {kind : Kind} {m : Message} (h : p.find? kind = some m) :
    m.kind = kind := by
  have := List.find?_some h
  simpa using this

theorem find?_erase (p : Pending) (kind other : Kind) :
    (p.erase kind).find? other = if other = kind then none else p.find? other := by
  unfold find? erase
  rw [List.find?_filter]
  split
  · next h =>
    subst h
    rw [List.find?_eq_none]
    intro m _
    simp
  · next h =>
    congr 1
    funext m
    by_cases hm : m.kind = other <;> simp_all

theorem find?_insert (p : Pending) (m : Message) (kind : Kind) :
    (p.insert m).find? kind = if kind = m.kind then some m else p.find? kind := by
  have hc : (p.insert m).find? kind
      = if m.kind = kind then some m else (p.erase m.kind).find? kind := by
    unfold find? insert
    rw [List.find?_cons]
    by_cases h : m.kind = kind
    · simp [h]
    · have hk : (m.kind == kind) = false := by simpa using h
      simp [hk, h]
  rw [hc, find?_erase]
  by_cases h : kind = m.kind
  · simp [h]
  · have h' : ¬ m.kind = kind := fun e => h e.symm
    simp [h, h']

end Pending
end ViewerBridge
