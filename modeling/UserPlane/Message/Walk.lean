/-
  UserPlane.Message.Walk
  ──────────────────────
  **THE MESSAGES OF A DATAGRAM.**

  A datagram holds a message, and another after each message whose header says
  that one follows.  The walk ends after a message that none follows, at the
  end of the octets, or where no message can be cut off.
-/
import UserPlane.Message.Header

namespace UserPlane

namespace Header

theorem run_take_four {field : String} {bs front rest : Octets}
    (h : (Reader.take 4 field).run bs = .ok (front, rest)) :
    4 ≤ bs.length ∧ rest = bs.drop 4 := by
  have h' : (if (bs.take 4).length < 4 then Except.error (.truncated field 4 bs.length)
      else .ok (bs.take 4, bs.drop 4) : Decoded (Octets × Octets)) = .ok (front, rest) := h
  split at h'
  · cases h'
  · next hlen =>
    cases h'
    simp only [List.length_take] at hlen
    exact ⟨by omega, rfl⟩

/-- Cutting off a message takes octets away. -/
theorem rest_length_lt {bs : Octets} {c : Cut} (h : decode bs = .ok c) :
    c.rest.length < bs.length := by
  unfold decode at h
  cases hf : (Reader.take 4 "PFCP header").run bs with
  | error e => rw [hf] at h; cases h
  | ok p =>
    obtain ⟨front, tail⟩ := p
    obtain ⟨hlen, htail⟩ := run_take_four hf
    rw [hf] at h
    simp only [bind, Except.bind] at h
    split at h
    · cases h
    · split at h
      · cases h
      · split at h
        · cases h
        · cases h
          subst htail
          simp only [List.length_drop]
          omega

/-- The messages of a datagram, in order. -/
def walk (bs : Octets) : List Cut :=
  if bs.isEmpty then []
  else
    match _h : decode bs with
    | .error _ => []
    | .ok c => c :: if c.header.hasFollowOn then walk c.rest else []
termination_by bs.length
decreasing_by exact rest_length_lt _h

end Header

end UserPlane
