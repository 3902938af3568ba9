import WindowRelay.Proofs.Stacking.Bands

/-!
Contract: where a directive puts a window of the top-level order.

Owns:
- a window that is put in at the boundary stands between the two bands;
- a window that is to be in front of another one stands directly in front of it, or at the end of
  its own band if the other one is in the other band;
- the same directive once more changes nothing.

Does not own: the flags that go with the order (`Proofs.Tree.Restacking`).
-/

namespace WindowRelay

namespace Stacking

variable {isTopmost flags : WindowId → Bool} {order normal front : List WindowId}
  {window reference : WindowId}

/-- Every window behind this one is normal and every window in front of it is topmost. By its own
flag it is the front-most normal window or the back-most topmost one. -/
def BetweenBands (isTopmost : WindowId → Bool) (order : List WindowId) (window : WindowId) : Prop :=
  ∃ normal front, order = normal ++ window :: front ∧ Bands isTopmost normal front

theorem betweenBands_insertIdx (banded : Banded isTopmost order)
    (others : ∀ other, other ≠ window → flags other = isTopmost other) :
    BetweenBands flags
      ((without order window).insertIdx (boundary isTopmost (without order window)) window)
      window := by
  obtain ⟨normal, front, split, bands, boundaryIs⟩ := banded.exists_bands_without others
  refine ⟨normal, front, ?_, bands⟩
  rw [boundaryIs, split, insertIdx_length_append]

/-! ## In front of another window -/

theorem inFrontOf_le_of_mem (member : reference ∈ normal) (front : List WindowId) :
    inFrontOf (normal ++ front) reference ≤ normal.length := by
  obtain ⟨back, more, rfl, first⟩ := List.eq_append_cons_of_mem member
  rw [List.append_assoc, List.cons_append, inFrontOf_append first]
  simp

theorem length_le_inFrontOf (notBehind : reference ∉ normal) (member : reference ∈ front) :
    normal.length ≤ inFrontOf (normal ++ front) reference := by
  obtain ⟨back, more, rfl, first⟩ := List.eq_append_cons_of_mem member
  have firstOfAll : reference ∉ normal ++ back := by
    rw [List.mem_append, not_or]
    exact ⟨notBehind, first⟩
  rw [← List.append_assoc, inFrontOf_append firstOfAll]
  simp only [List.length_append]
  omega

theorem Bands.mem_normal_of_false (bands : Bands isTopmost normal front)
    (member : reference ∈ normal ++ front) (isNormal : isTopmost reference = false) :
    reference ∈ normal := by
  refine (List.mem_append.mp member).resolve_right fun inFront => ?_
  rw [bands.front reference inFront] at isNormal
  cases isNormal

theorem Bands.mem_front_of_true (bands : Bands isTopmost normal front)
    (member : reference ∈ normal ++ front) (flag : isTopmost reference = true) :
    reference ∉ normal ∧ reference ∈ front := by
  have notBehind : reference ∉ normal := fun inNormal => by
    rw [bands.normal reference inNormal] at flag
    cases flag
  exact ⟨notBehind, (List.mem_append.mp member).resolve_left notBehind⟩

section After

variable (banded : Banded isTopmost order) (member : reference ∈ order)
  (different : reference ≠ window)

include banded member different

/-- The index is the wanted one or the boundary, whichever is on the side of the window. -/
private theorem exists_restacked_after :
    ∃ normal front, reference ∈ normal ++ front ∧ Bands isTopmost normal front ∧
      restacked isTopmost order window (.after reference) =
        (normal ++ front).insertIdx
          (if isTopmost window then max (inFrontOf (normal ++ front) reference) normal.length
            else min (inFrontOf (normal ++ front) reference) normal.length) window := by
  obtain ⟨normal, front, split, bands, boundaryIs⟩ :=
    banded.exists_bands_without (show ∀ other, other ≠ window → isTopmost other = isTopmost other
      from fun _ _ => rfl)
  refine ⟨normal, front, split ▸ mem_without.mpr ⟨member, different⟩, bands, ?_⟩
  rw [← boundaryIs, ← split]
  rfl

/-- A window goes directly in front of another one of its own band. -/
theorem restacked_after_of_sameBand (sameBand : isTopmost reference = isTopmost window) :
    ∃ back front, restacked isTopmost order window (.after reference) =
      back ++ reference :: window :: front := by
  obtain ⟨normal, front, inRest, bands, restackedIs⟩ :=
    exists_restacked_after banded member different
  obtain ⟨back, more, -, inserted⟩ := exists_insertIdx_inFrontOf inRest window
  refine ⟨back, more, restackedIs.trans (Eq.trans ?_ inserted)⟩
  cases flag : isTopmost window with
  | false =>
      have inNormal := bands.mem_normal_of_false inRest (sameBand.trans flag)
      simp [inFrontOf_le_of_mem inNormal front]
  | true =>
      obtain ⟨notBehind, inFront⟩ := bands.mem_front_of_true inRest (sameBand.trans flag)
      simp [length_le_inFrontOf notBehind inFront]

/-- A window of the other band draws a window to the near end of its own band. -/
theorem restacked_after_of_otherBand (otherBand : isTopmost reference ≠ isTopmost window) :
    BetweenBands isTopmost (restacked isTopmost order window (.after reference)) window := by
  obtain ⟨normal, front, inRest, bands, restackedIs⟩ :=
    exists_restacked_after banded member different
  refine ⟨normal, front, restackedIs.trans (Eq.trans ?_ (insertIdx_length_append _ _ _)), bands⟩
  cases flag : isTopmost window with
  | false =>
      obtain ⟨notBehind, inFront⟩ :=
        bands.mem_front_of_true inRest (by simpa [flag] using otherBand)
      simp [length_le_inFrontOf notBehind inFront]
  | true =>
      have inNormal := bands.mem_normal_of_false inRest (by simpa [flag] using otherBand)
      simp [inFrontOf_le_of_mem inNormal front]

end After

/-! ## The same directive once more -/

theorem boundary_congr (agree : ∀ other ∈ order, flags other = isTopmost other) :
    boundary flags order = boundary isTopmost order := by
  unfold boundary
  induction order with
  | nil => rfl
  | cons head tail inductionHypothesis =>
      rw [List.findIdx_cons, List.findIdx_cons, agree head List.mem_cons_self,
        inductionHypothesis fun other member => agree other (List.mem_cons_of_mem head member)]

/-- With the flags that a directive leaves, the directive finds everything in its place. -/
theorem restacked_restacked {directive : Directive}
    (own : flags window = directive.flagAfter (isTopmost window))
    (others : ∀ other, other ≠ window → flags other = isTopmost other) :
    restacked flags (restacked isTopmost order window directive) window directive =
      restacked isTopmost order window directive := by
  have rest := without_restacked isTopmost order window directive
  have sameBoundary : boundary flags (without order window) =
      boundary isTopmost (without order window) :=
    boundary_congr fun other member => others other (mem_without.mp member).2
  cases directive with
  | bottom => exact congrArg (window :: ·) rest
  | topmost => exact congrArg (· ++ [window]) rest
  | top =>
      have sameFlag : flags window = isTopmost window := own
      rw [restacked, rest, sameFlag, sameBoundary]
      cases flag : isTopmost window <;> simp [restacked, flag]
  | noTopmost =>
      have isNormal : flags window = false := own
      simp [restacked, isNormal]
  | after reference =>
      have sameFlag : flags window = isTopmost window := own
      rw [restacked, rest, sameFlag, sameBoundary]
      rfl

end Stacking

end WindowRelay
