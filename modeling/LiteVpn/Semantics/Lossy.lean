import Mathlib.Data.List.Perm.Subperm

/-!
# A network that loses and reorders

What was handed over has been received, is in flight or is lost, each item in one
of these places. The three lemmas are the moves between them.
-/

namespace LiteVpn.Semantics

variable {Item : Type} {handed received inFlight lost : List Item}

/-- Hand more over. -/
theorem conserved_handed (conserved : handed.Perm (received ++ inFlight ++ lost))
    (more : List Item) : (handed ++ more).Perm (received ++ (inFlight ++ more) ++ lost) := by
  -- The new items go from behind the lost ones to behind those in flight.
  refine (conserved.append_right more).trans ?_
  simp only [List.append_assoc]
  exact (List.perm_append_comm.append_left _).append_left _

/-- Receive items out of those in flight. -/
theorem conserved_received (conserved : handed.Perm (received ++ inFlight ++ lost))
    {taken left : List Item} (moved : inFlight.Perm (taken ++ left)) :
    handed.Perm (received ++ taken ++ left ++ lost) := by
  refine conserved.trans ?_
  simp only [List.append_assoc]
  apply List.Perm.append_left
  simpa only [List.append_assoc] using moved.append_right lost

/-- What is taken out of a list and what it leaves. -/
theorem perm_of_getElem? {item : Item} {index : Nat} (found : inFlight[index]? = some item) :
    inFlight.Perm ([item] ++ inFlight.eraseIdx index) := by
  obtain ⟨inside, rfl⟩ := List.getElem?_eq_some_iff.mp found
  exact (List.getElem_cons_eraseIdx_perm inside).symm

/-- Lose an item. -/
theorem conserved_lost (conserved : handed.Perm (received ++ inFlight ++ lost)) {item : Item}
    {index : Nat} (found : inFlight[index]? = some item) :
    handed.Perm (received ++ inFlight.eraseIdx index ++ (lost ++ [item])) := by
  refine conserved.trans ?_
  simp only [List.append_assoc]
  apply List.Perm.append_left
  have split := (perm_of_getElem? found).append_right lost
  have behind : (item :: lost).Perm (lost ++ [item]) := (List.perm_append_singleton _ _).symm
  exact split.trans (List.perm_middle.symm.trans (behind.append_left _))

/-- Nothing is received more often than it was handed over. -/
theorem received_subperm (conserved : handed.Perm (received ++ inFlight ++ lost)) :
    received.Subperm handed := by
  refine List.Subperm.trans ?_ conserved.symm.subperm
  rw [List.append_assoc]
  exact (List.sublist_append_left _ _).subperm

end LiteVpn.Semantics
