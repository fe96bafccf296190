import ViewerBridge.Connection.Session
/-!
# Taking a client

An accept takes the client that the wait comes to, or leaves the session as it is.
-/
namespace ViewerBridge.Session

def taking (s : Session) (client : Nat) : Session :=
  { s with listening := false, peer := some client, connection := some { client } }

theorem accept_cases (s : Session) (wait : Duration) (caller : Except IoError (Option Nat)) :
    (∃ peer, s.peer = some peer ∧ s.accept wait caller = (.ok peer, s)) ∨
      (∃ client, s.peer = none ∧ s.listening = true ∧ caller = .ok (some client) ∧
        s.accept wait caller = (.ok client, s.taking client)) ∨
      ∃ e, s.accept wait caller = (.error e, s) ∧
        ∀ w, e = .acceptTimeout w → w = wait ∧ s.listening = true := by
  unfold accept
  rcases hp : s.peer with _ | peer
  · dsimp only
    by_cases hl : s.listening = true
    · rw [if_neg (by simp [hl])]
      rcases caller with cause | _ | client
      · exact .inr (.inr ⟨_, rfl, fun w hw => nomatch hw⟩)
      · exact .inr (.inr ⟨_, rfl, fun w hw => ⟨(SessionError.acceptTimeout.inj hw).symm, hl⟩⟩)
      · exact .inr (.inl ⟨client, rfl, hl, rfl, rfl⟩)
    · rw [if_pos hl]
      exact .inr (.inr ⟨_, rfl, fun w hw => nomatch hw⟩)
  · exact .inl ⟨peer, rfl, rfl⟩

theorem accept_eq_ok {s t : Session} {wait : Duration} {caller : Except IoError (Option Nat)}
    {client : Nat} (hp : s.peer = none) (h : s.accept wait caller = (.ok client, t)) :
    caller = .ok (some client) ∧ t = s.taking client := by
  rcases accept_cases s wait caller with ⟨peer, hpeer, -⟩ | ⟨client', -, -, hcaller, ho⟩ | ⟨e, ho, -⟩
  · rw [hp] at hpeer
    cases hpeer
  · rw [ho] at h
    cases h
    exact ⟨hcaller, rfl⟩
  · rw [ho] at h
    cases h

theorem accept_eq_error {s t : Session} {wait : Duration} {caller : Except IoError (Option Nat)}
    {e : SessionError} (h : s.accept wait caller = (.error e, t)) : t = s := by
  rcases accept_cases s wait caller with ⟨peer, -, ho⟩ | ⟨client, -, -, -, ho⟩ | ⟨e', ho, -⟩
  · rw [ho] at h
    cases h
  · rw [ho] at h
    cases h
  · rw [ho] at h
    cases h
    rfl

end ViewerBridge.Session
