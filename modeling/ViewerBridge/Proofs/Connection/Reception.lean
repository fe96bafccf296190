import ViewerBridge.Connection.Client
import ViewerBridge.Proofs.Connection.Polling
/-!
# What a client receives

However the bytes of a stream arrive between a client's polls, the polls give the messages that are
taken off the whole stream at once, one by one, before they give anything else.
-/
namespace ViewerBridge

namespace FrameReader
open Frames

def coming (r : FrameReader) (i : Inbound) (later : List UInt8) : List Message :=
  (drain (r.buffer ++ i.bytes ++ later)).1

/-- What a poll may give: the next message, or nothing if all that has arrived was looked at, or
anything once no message is to come. -/
inductive Gives (r : FrameReader) (i : Inbound) (later : List UInt8) :
    Poll × FrameReader × Inbound → Prop where
  | message {m r' i'} (sound : r'.Sound) (ended : i'.ended = i.ended)
    (coming : r.coming i later = m :: r'.coming i' later) : Gives r i later (.message m, r', i')
  | waiting {r'} (sound : r'.Sound) (idle : r'.readable = false) (ended : i.ended = false)
    (coming : r.coming i later = r'.coming {} later) : Gives r i later (.waiting, r', {})
  | done {outcome} (coming : r.coming i later = []) : Gives r i later outcome

theorem coming_message {r : FrameReader} {i : Inbound} {m : Message} {rest : List UInt8}
    (h : next (r.buffer ++ i.bytes) = (.message m, rest)) (later : List UInt8) :
    r.coming i later = m :: (drain (rest ++ later)).1 := by
  rw [coming, drain_message (next_append h (by simp) later)]
  rfl

theorem coming_failed {r : FrameReader} {i : Inbound} {e : FrameError} {rest : List UInt8}
    (h : next (r.buffer ++ i.bytes) = (.failed e, rest)) (later : List UInt8) :
    r.coming i later = [] := by
  rw [coming, drain_failed (next_append h (by simp) later)]

theorem coming_nothing {r : FrameReader} {i : Inbound} {rest : List UInt8}
    (h : next (r.buffer ++ i.bytes) = (.nothing, rest)) (later : List UInt8) :
    r.coming i later = (drain (rest ++ later)).1 := by
  rw [coming, drain_congr (next_append_of_nothing h later)]

theorem poll_gives {r : FrameReader} {i : Inbound} {later : List UInt8} (h : r.Sound)
    (hl : i.ended = true → later = []) : Gives r i later (r.poll i) := by
  have hend : ∀ {rest}, i.ended = true → next (r.unread i) = (.nothing, rest) →
      r.coming i later = [] := by
    intro rest he hn
    rw [hl he, coming_nothing hn, List.append_nil, drain_nothing (next_again hn)]
  have hp := poll_polled h i
  generalize r.poll i = outcome at hp ⊢
  cases hp with
  | message sound ended found => exact .message sound ended (coming_message found later)
  | failed found => exact .done (coming_failed found later)
  | @waiting r' sound idle ended found =>
    refine .waiting sound idle ended ?_
    rw [coming_nothing found, coming, List.append_nil]
  | cutShort ended found left => exact .done (hend ended found)
  | finished ended found => exact .done (hend ended found)

theorem coming_of_idle {r : FrameReader} (h : r.Sound) (hr : r.readable = false) :
    r.coming {} [] = [] := by
  rw [coming, List.append_nil, List.append_nil, drain_nothing (h.idle hr)]

end FrameReader

inductive Reception where
  | hears (more : Inbound)
  | receives

namespace Reception

def arriving (ended : Bool) : List Reception → List UInt8
  | [] => []
  | .receives :: rest => arriving ended rest
  | .hears more :: rest => if ended then [] else more.bytes ++ arriving more.ended rest

theorem arriving_ended (steps : List Reception) : arriving true steps = [] := by
  induction steps with
  | nil => rfl
  | cons step rest ih =>
    cases step with
    | hears more => rfl
    | receives => exact ih

end Reception

namespace Client
open Reception

def receptions (c : Client) : List Reception → List Poll × Client
  | [] => ([], c)
  | .hears more :: rest => (c.hears more).receptions rest
  | .receives :: rest =>
    match c.act .receive with
    | (.polled p, c) =>
      let (ps, c) := c.receptions rest
      (p :: ps, c)
    | (_, c) => c.receptions rest

theorem receptions_append (c : Client) (steps rest : List Reception) :
    c.receptions (steps ++ rest) =
      ((c.receptions steps).1 ++ ((c.receptions steps).2.receptions rest).1,
        ((c.receptions steps).2.receptions rest).2) := by
  induction steps generalizing c with
  | nil => rfl
  | cons step steps ih =>
    cases step with
    | hears more => exact ih _
    | receives =>
      simp only [List.cons_append, receptions]
      rcases c.act .receive with ⟨_ | _ | p, c⟩ <;> simp [ih]

theorem receptions_receives {c : Client} (hc : c.framed = true) (rest : List Reception) :
    c.receptions (.receives :: rest) =
      let (poll, reader, inbound) := c.reader.poll c.inbound
      let (ps, c) := { c with reader, inbound }.receptions rest
      (poll :: ps, c) := by
  rw [receptions, act, if_pos hc]

def coming (c : Client) (steps : List Reception) : List Message :=
  c.reader.coming c.inbound (arriving c.inbound.ended steps)

theorem coming_hears (c : Client) (more : Inbound) (rest : List Reception) :
    (c.hears more).coming rest = c.coming (.hears more :: rest) := by
  unfold coming hears Inbound.join FrameReader.coming
  cases he : c.inbound.ended with
  | true => simp [he, arriving, arriving_ended]
  | false => simp [arriving, List.append_assoc]

/-- The outcomes of polls but for those that only wait. -/
def answers (ps : List Poll) : List Poll := ps.filter (· ≠ .waiting)

/-- Polls give the messages to come first, or such of them as have arrived. -/
theorem receptions_cases {c : Client} (hc : c.framed = true) (hs : c.reader.Sound)
    {steps : List Reception} {ms : List Message} (h : ms <+: c.coming steps) :
    ms.map .message <+: answers (c.receptions steps).1 ∨
      ∃ got left, ms = got ++ left ∧ answers (c.receptions steps).1 = got.map .message ∧
        (c.receptions steps).2.framed = true ∧ (c.receptions steps).2.reader.Sound ∧
        left <+: (c.receptions steps).2.coming [] := by
  induction steps generalizing c ms with
  | nil => exact .inr ⟨[], ms, rfl, rfl, hc, hs, h⟩
  | cons step rest ih =>
    cases step with
    | hears more =>
      rw [← coming_hears] at h
      exact ih (c := c.hears more) hc hs h
    | receives =>
      cases ms with
      | nil => exact .inl List.nil_prefix
      | cons m ms =>
        have hl : c.inbound.ended = true → arriving c.inbound.ended rest = [] := by
          intro he
          rw [he, arriving_ended]
        have hg := FrameReader.poll_gives hs hl
        rw [receptions_receives hc]
        generalize c.reader.poll c.inbound = outcome at hg
        cases hg with
        | @message m' r' i' hs' he hm =>
          rw [coming, arriving, hm, ← he] at h
          obtain ⟨rfl, hms⟩ := List.cons_prefix_cons.mp h
          rcases ih (c := { c with reader := r', inbound := i' }) hc hs' hms with
            hall | ⟨got, left, rfl, hans, hend⟩
          · exact .inl (List.cons_prefix_cons.mpr ⟨rfl, hall⟩)
          · refine .inr ⟨m :: got, left, rfl, ?_, hend⟩
            rw [List.map_cons, ← hans]
            rfl
        | @waiting r' hs' hi he hw =>
          rw [coming, arriving, hw, he] at h
          exact ih (c := { c with reader := r', inbound := {} }) hc hs' h
        | done ho =>
          rw [coming, arriving, ho] at h
          exact absurd (List.prefix_nil.mp h) (List.cons_ne_nil m ms)

theorem receptions_all {c : Client} (hc : c.framed = true) (hs : c.reader.Sound)
    {ms : List Message} (h : ms <+: c.coming []) {n : Nat} (hn : ms.length ≤ n) :
    ms.map .message <+: answers (c.receptions (List.replicate n .receives)).1 := by
  induction ms generalizing c n with
  | nil => exact List.nil_prefix
  | cons m ms ih =>
    cases n with
    | zero => cases hn
    | succ n =>
      have hl : c.inbound.ended = true → ([] : List UInt8) = [] := fun _ => rfl
      have hg := FrameReader.poll_gives hs hl
      rw [List.replicate_succ, receptions_receives hc]
      generalize c.reader.poll c.inbound = outcome at hg
      cases hg with
      | @message m' r' i' hs' he hm =>
        rw [coming, arriving, hm] at h
        obtain ⟨rfl, hms⟩ := List.cons_prefix_cons.mp h
        have hall := ih (c := { c with reader := r', inbound := i' }) hc hs' hms
          (Nat.le_of_succ_le_succ hn)
        exact List.cons_prefix_cons.mpr ⟨rfl, hall⟩
      | @waiting r' hs' hi he hw =>
        rw [coming, arriving, hw, FrameReader.coming_of_idle hs' hi] at h
        exact absurd (List.prefix_nil.mp h) (List.cons_ne_nil m ms)
      | done ho =>
        rw [coming, arriving, ho] at h
        exact absurd (List.prefix_nil.mp h) (List.cons_ne_nil m ms)

/-- A client to which the bytes of a stream come in any pieces between its polls, and which polls
often enough after that, is given the messages of the stream before anything else. -/
theorem receptions_stream {c : Client} (hc : c.framed = true) (hs : c.reader.Sound)
    {steps : List Reception} {ms : List Message} (h : ms <+: c.coming steps) {n : Nat}
    (hn : ms.length ≤ n) :
    ms.map .message <+: answers (c.receptions (steps ++ List.replicate n .receives)).1 := by
  rw [receptions_append, answers, List.filter_append]
  rcases receptions_cases hc hs h with hall | ⟨got, left, rfl, hans, hc', hs', hleft⟩
  · exact hall.trans (List.prefix_append ..)
  · rw [List.length_append] at hn
    have hl : left.length ≤ n := by omega
    have hrest := receptions_all hc' hs' hleft hl
    rw [List.map_append, ← hans]
    exact (List.prefix_append_right_inj _).mpr hrest

end Client
end ViewerBridge
