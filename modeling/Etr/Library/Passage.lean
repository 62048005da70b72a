/-!
Contract: what comes out of a passage whose stages may give up.

Owns the view of a passage with a sender at its near end and a receiver at its
far end, and the invariant under which what came out is the beginning of what
went in, and all of it once nothing is left inside.

Does not own any particular sender, receiver, or buffer between them.
-/

namespace Etr.Library

universe u

/-- A passage seen from outside; its lists have the oldest item first. -/
structure Passage (α : Type u) where
  given : List α
  delivered : List α
  /-- Put on its way by the sender, and not delivered. -/
  underway : List α
  /-- Given, and not put on its way. -/
  waiting : List α
  /-- Items may still be given, and none was discarded in front of the sender. -/
  accepting : Bool
  /-- The sender is at work, and nothing it put on its way was discarded. -/
  sending : Bool
  /-- The receiver is at work. -/
  receiving : Bool

namespace Passage

variable {α : Type u} {before after : Passage α}

/-- Everything inside, and what was delivered in front of it. -/
def content (passage : Passage α) : List α :=
  passage.delivered ++ (passage.underway ++ passage.waiting)

/-- What was delivered begins what was given; so does what the stages at work
still hold behind it. -/
structure Sound (passage : Passage α) : Prop where
  delivered : passage.delivered <+: passage.given
  underway : passage.receiving = true →
    passage.delivered ++ passage.underway <+: passage.given
  waiting : passage.receiving = true → passage.sending = true →
    passage.content <+: passage.given
  complete : passage.receiving = true → passage.sending = true → passage.accepting = true →
    passage.content = passage.given

/-- More is given. -/
theorem Sound.offer (sound : before.Sound) (accepting : before.accepting = true)
    (data : List α) :
    Sound { before with given := before.given ++ data, waiting := before.waiting ++ data } := by
  have whole : before.receiving = true → before.sending = true →
      before.delivered ++ (before.underway ++ (before.waiting ++ data)) =
        before.given ++ data := by
    intro receiving sending
    rw [← sound.complete receiving sending accepting, content]
    simp only [List.append_assoc]
  refine ⟨?_, ?_, ?_, ?_⟩
  · exact sound.delivered.trans (List.prefix_append _ _)
  · intro receiving
    exact (sound.underway receiving).trans (List.prefix_append _ _)
  · intro receiving sending
    exact whole receiving sending ▸ List.prefix_rfl
  · intro receiving sending _
    exact whole receiving sending

/-- The sender moves items on, or at least does not put any on their way. -/
theorem Sound.send {underway waiting : List α} (sound : before.Sound)
    (moved : underway ++ waiting = before.underway ++ before.waiting)
    (sends : underway = before.underway ∨ before.sending = true) :
    Sound { before with underway, waiting } := by
  have content : content { before with underway, waiting } = before.content := by
    simp only [content, moved]
  refine ⟨sound.delivered, ?_, ?_, ?_⟩
  · intro receiving
    rcases sends with rfl | sending
    · exact sound.underway receiving
    · have front : before.delivered ++ underway <+:
          before.delivered ++ (underway ++ waiting) := by
        rw [← List.append_assoc]
        exact List.prefix_append _ _
      rw [moved] at front
      exact front.trans (sound.waiting receiving sending)
  · intro receiving sending
    rw [content]
    exact sound.waiting receiving sending
  · intro receiving sending accepting
    rw [content]
    exact sound.complete receiving sending accepting

/-- The receiver moves items on. -/
theorem Sound.receive {delivered underway : List α} (sound : before.Sound)
    (receives : before.receiving = true)
    (moved : delivered ++ underway = before.delivered ++ before.underway) :
    Sound { before with delivered, underway } := by
  have content : content { before with delivered, underway } = before.content := by
    simp only [content, ← List.append_assoc, moved]
  have front : delivered ++ underway <+: before.given := by
    rw [moved]
    exact sound.underway receives
  refine ⟨(List.prefix_append _ _).trans front, fun _ => front, ?_, ?_⟩
  · intro receiving sending
    rw [content]
    exact sound.waiting receiving sending
  · intro receiving sending accepting
    rw [content]
    exact sound.complete receiving sending accepting

/-- Stages give up, each with what it has. -/
theorem Sound.giveUp (sound : before.Sound) (given : after.given = before.given)
    (delivered : after.delivered = before.delivered)
    (receiving : after.receiving = true →
      before.receiving = true ∧ after.underway <+: before.underway)
    (sending : after.receiving = true → after.sending = true →
      before.sending = true ∧ after.underway = before.underway ∧
        after.waiting <+: before.waiting)
    (accepting : after.receiving = true → after.sending = true → after.accepting = true →
      before.accepting = true ∧ after.waiting = before.waiting) : after.Sound := by
  refine ⟨?_, ?_, ?_, ?_⟩
  · rw [given, delivered]
    exact sound.delivered
  · intro receives
    obtain ⟨received, shorter⟩ := receiving receives
    rw [given, delivered]
    exact ((List.prefix_append_right_inj _).mpr shorter).trans (sound.underway received)
  · intro receives sends
    obtain ⟨sent, same, shorter⟩ := sending receives sends
    rw [given, content, delivered, same]
    have front : before.delivered ++ (before.underway ++ after.waiting) <+: before.content :=
      (List.prefix_append_right_inj _).mpr ((List.prefix_append_right_inj _).mpr shorter)
    exact front.trans (sound.waiting (receiving receives).1 sent)
  · intro receives sends accepts
    obtain ⟨sent, underway, -⟩ := sending receives sends
    obtain ⟨accepted, waiting⟩ := accepting receives sends accepts
    rw [given, content, delivered, underway, waiting]
    exact sound.complete (receiving receives).1 sent accepted

/-- Stages stop, and nothing moves. -/
theorem Sound.lower {accepting sending receiving : Bool} (sound : before.Sound)
    (accepts : accepting = true → before.accepting = true)
    (sends : sending = true → before.sending = true)
    (receives : receiving = true → before.receiving = true) :
    Sound { before with accepting, sending, receiving } :=
  sound.giveUp rfl rfl (fun received => ⟨receives received, List.prefix_rfl⟩)
    (fun _ sent => ⟨sends sent, rfl, List.prefix_rfl⟩)
    (fun _ _ accepted => ⟨accepts accepted, rfl⟩)

/-- Nothing is left inside while every stage is at work: all was delivered. -/
theorem Sound.delivered_eq (sound : before.Sound) (receiving : before.receiving = true)
    (sending : before.sending = true) (accepting : before.accepting = true)
    (underway : before.underway = []) (waiting : before.waiting = []) :
    before.delivered = before.given := by
  have whole := sound.complete receiving sending accepting
  rwa [content, underway, waiting, List.append_nil, List.append_nil] at whole

end Passage

end Etr.Library
