import ViewerBridge.Connection.FrameReader
import ViewerBridge.Proofs.Wire.Chunking
/-!
# What one poll gives

A reader keeps some of the bytes that have arrived in its buffer and finds the others in the socket.
What a poll gives depends only on the two together: it is what a look at all of them finds.
-/
namespace ViewerBridge.FrameReader
open Frames

/-- A reader that has met neither an error nor the end, and looks for a frame whenever there may be
one. -/
structure Sound (r : FrameReader) : Prop where
  failed : r.failed = false
  ended : r.ended = false
  idle : r.readable = false → next r.buffer = (.nothing, r.buffer)

theorem sound_new : ({} : FrameReader).Sound := ⟨rfl, rfl, fun _ => rfl⟩

def unread (r : FrameReader) (i : Inbound) : List UInt8 := r.buffer ++ i.bytes

/-- What a poll gives, and the reader and the socket after it. -/
inductive Polled (r : FrameReader) (i : Inbound) : Poll × FrameReader × Inbound → Prop where
  | message {m r' i'} (sound : r'.Sound) (ended : i'.ended = i.ended)
    (found : next (r.unread i) = (.message m, r'.unread i')) : Polled r i (.message m, r', i')
  | failed {e rest r' i'} (found : next (r.unread i) = (.failed e, rest)) :
    Polled r i (.failed e, r', i')
  | waiting {r'} (sound : r'.Sound) (idle : r'.readable = false) (ended : i.ended = false)
    (found : next (r.unread i) = (.nothing, r'.buffer)) : Polled r i (.waiting, r', {})
  | cutShort {rest r' i'} (ended : i.ended = true) (found : next (r.unread i) = (.nothing, rest))
    (left : rest ≠ []) : Polled r i (.failed .cutShort, r', i')
  | finished {r' i'} (ended : i.ended = true) (found : next (r.unread i) = (.nothing, [])) :
    Polled r i (.finished, r', i')

theorem Polled.congr {r r' : FrameReader} {i i' : Inbound} {outcome : Poll × FrameReader × Inbound}
    (h : Polled r' i' outcome) (hn : next (r.unread i) = next (r'.unread i'))
    (hi : i'.ended = i.ended) : Polled r i outcome := by
  cases h with
  | message sound ended found => exact .message sound (ended.trans hi) (hn.trans found)
  | failed found => exact .failed (hn.trans found)
  | waiting sound idle ended found => exact .waiting sound idle (hi.symm.trans ended) (hn.trans found)
  | cutShort ended found left => exact .cutShort (hi.symm.trans ended) (hn.trans found) left
  | finished ended found => exact .finished (hi.symm.trans ended) (hn.trans found)

variable {r : FrameReader} {i : Inbound}

theorem nextAtEnd_of_nothing {buffer rest : List UInt8} (h : next buffer = (.nothing, rest)) :
    nextAtEnd buffer = if rest = [] then (.nothing, []) else (.failed .cutShort, rest) := by
  rw [nextAtEnd, h]
  cases rest <;> rfl

theorem pollIdle_polled (h : r.Sound) (hn : next r.buffer = (.nothing, r.buffer))
    (hr : r.readable = false) (hi : i.bytes = []) : Polled r i (r.pollIdle i) := by
  have hu : r.unread i = r.buffer := by rw [unread, hi, List.append_nil]
  cases he : i.ended with
  | true =>
    rw [pollIdle, if_pos he, if_neg (by simp [h.ended]), pollEnd, takeFrame, nextAtEnd_of_nothing hn]
    by_cases hb : r.buffer = []
    · rw [if_pos hb]
      exact .finished he (by rw [hu, hn, hb])
    · rw [if_neg hb]
      exact .cutShort he (by rw [hu, hn]) hb
  | false =>
    have hi' : i = {} := by rw [← hi, ← he]
    rw [pollIdle, if_neg (by simp [he]), hi']
    exact .waiting h hr rfl (by rw [← hi', hu, hn])

theorem pollSocket_polled (h : r.Sound) (hn : next r.buffer = (.nothing, r.buffer))
    (hr : r.readable = false) : Polled r i (r.pollSocket i) := by
  cases hb : i.bytes with
  | nil =>
    rw [pollSocket, if_pos (by rw [hb]; rfl)]
    exact pollIdle_polled h hn hr hb
  | cons b bytes =>
    rw [pollSocket, if_neg (by simp [hb]), takeFrame]
    dsimp only
    rcases hf : next (r.buffer ++ i.bytes) with ⟨m | e | _, rest⟩
    · refine .message ⟨h.failed, rfl, fun hr' => nomatch hr'⟩ rfl ?_
      rw [unread, hf, unread, List.append_nil]
    · exact .failed hf
    · let r' : FrameReader := { r with buffer := rest, readable := false, ended := false }
      let i' : Inbound := { i with bytes := [] }
      have hn' : next rest = (.nothing, rest) := next_again hf
      have hc : next (r.unread i) = next (r'.unread i') := by
        rw [unread, hf, unread, List.append_nil, hn']
      exact Polled.congr (pollIdle_polled ⟨h.failed, rfl, fun _ => hn'⟩ hn' rfl rfl) hc rfl

theorem poll_polled (h : r.Sound) (i : Inbound) : Polled r i (r.poll i) := by
  rw [poll, if_neg (by simp [h.failed])]
  cases hr : r.readable with
  | false => exact pollSocket_polled h (h.idle hr) hr
  | true =>
    rw [if_pos rfl, if_neg (by simp [h.ended]), takeFrame]
    rcases hb : next r.buffer with ⟨m | e | _, rest⟩
    · refine .message ⟨h.failed, h.ended, fun hr' => ?_⟩ rfl (next_append hb (by simp) _)
      rw [hr] at hr'
      cases hr'
    · exact .failed (next_append hb (by simp) _)
    · let r' : FrameReader := { r with buffer := rest, readable := false }
      have hn : next rest = (.nothing, rest) := next_again hb
      have hc : next (r.unread i) = next (r'.unread i) := next_append_of_nothing hb _
      exact (pollSocket_polled (r := r') ⟨h.failed, h.ended, fun _ => hn⟩ hn rfl).congr hc rfl

end ViewerBridge.FrameReader
