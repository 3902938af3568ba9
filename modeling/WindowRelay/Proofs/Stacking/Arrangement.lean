import Mathlib.Data.List.Nodup
import WindowRelay.Tree.Stacking

/-!
Contract: lists of windows from which one window is taken out and put in again.

Owns:
- membership and distinctness of a list without a window;
- insertion at an index as a cut of the list;
- stacking directives rearrange a list and neither add nor lose a window;
- stacking directives leave the order of the other windows alone.
-/

namespace WindowRelay

namespace Stacking

variable {order : List WindowId} {window other : WindowId}

theorem mem_without : other ∈ without order window ↔ other ∈ order ∧ other ≠ window := by
  simp [without]

theorem without_of_notMem (absent : window ∉ order) : without order window = order := by
  apply List.filter_eq_self.mpr
  intro other member
  have different : other ≠ window := fun same => absent (same ▸ member)
  simpa using different

theorem nodup_without (window : WindowId) (distinct : order.Nodup) :
    (without order window).Nodup :=
  distinct.filter _

theorem not_mem_without (order : List WindowId) (window : WindowId) :
    window ∉ without order window := fun member => (mem_without.mp member).2 rfl

theorem without_append (back front : List WindowId) (window : WindowId) :
    without (back ++ front) window = without back window ++ without front window :=
  List.filter_append ..

theorem without_cons_self (order : List WindowId) (window : WindowId) :
    without (window :: order) window = without order window := by
  simp [without]

/-- In a list of distinct windows there is at most one entry to take out. -/
theorem without_eq_erase (distinct : order.Nodup) (window : WindowId) :
    without order window = order.erase window :=
  (distinct.erase_eq_filter window).symm

theorem perm_cons_without (distinct : order.Nodup) (member : window ∈ order) :
    (window :: without order window).Perm order := by
  rw [without_eq_erase distinct]
  exact (List.perm_cons_erase member).symm

/-! ## Insertion -/

section Insertion

variable {α : Type}

theorem insertIdx_length_append (back front : List α) (entry : α) :
    (back ++ front).insertIdx back.length entry = back ++ entry :: front := by
  induction back with
  | nil => simp
  | cons head tail inductionHypothesis => simp [inductionHypothesis]

theorem insertIdx_eq_cut {entries : List α} {entry : α} {index : Nat}
    (inside : index ≤ entries.length) :
    entries.insertIdx index entry = entries.take index ++ entry :: entries.drop index := by
  have cut := insertIdx_length_append (entries.take index) (entries.drop index) entry
  rwa [List.take_append_drop, List.length_take, Nat.min_eq_left inside] at cut

end Insertion

theorem inFrontOf_le_length (order : List WindowId) (reference : WindowId) :
    inFrontOf order reference ≤ order.length := by
  unfold inFrontOf
  cases isThere : order.idxOf? reference with
  | none => exact Nat.zero_le _
  | some index =>
      obtain ⟨below, -⟩ := List.idxOf?_eq_some_iff.mp isThere
      exact below

theorem boundary_le_length (isTopmost : WindowId → Bool) (order : List WindowId) :
    boundary isTopmost order ≤ order.length :=
  List.findIdx_le_length

/-! ## Directives -/

private theorem perm_reinserted (distinct : order.Nodup) (member : window ∈ order) {index : Nat}
    (inside : index ≤ (without order window).length) :
    ((without order window).insertIdx index window).Perm order :=
  (List.perm_insertIdx window (without order window) inside).trans
    (perm_cons_without distinct member)

theorem restacked_perm (isTopmost : WindowId → Bool) (distinct : order.Nodup)
    (member : window ∈ order) (directive : Directive) :
    (restacked isTopmost order window directive).Perm order := by
  have boundaryInside := boundary_le_length isTopmost (without order window)
  cases directive with
  | bottom => exact perm_cons_without distinct member
  | topmost => exact (List.perm_append_singleton _ _).trans (perm_cons_without distinct member)
  | top =>
      unfold restacked
      by_cases flag : isTopmost window = true
      · simp [flag]
      · simpa [flag] using perm_reinserted distinct member boundaryInside
  | noTopmost =>
      unfold restacked
      by_cases flag : isTopmost window = true
      · simpa [flag] using perm_reinserted distinct member boundaryInside
      · simp [flag]
  | after reference =>
      have wantedInside := inFrontOf_le_length (without order window) reference
      apply perm_reinserted distinct member
      split <;> omega

theorem restackedChildren_perm (distinct : order.Nodup) (member : window ∈ order)
    (directive : Directive) : (restackedChildren order window directive).Perm order := by
  have toFront := (List.perm_append_singleton window (without order window)).trans
    (perm_cons_without distinct member)
  cases directive with
  | bottom => exact perm_cons_without distinct member
  | top | topmost | noTopmost => exact toFront
  | after reference =>
      exact perm_reinserted distinct member (inFrontOf_le_length (without order window) reference)

theorem inFrontOf_append {back : List WindowId} {reference : WindowId} (first : reference ∉ back)
    (front : List WindowId) :
    inFrontOf (back ++ reference :: front) reference = (back ++ [reference]).length := by
  have index : (back ++ reference :: front).idxOf? reference = some back.length := by
    induction back with
    | nil => simp [List.idxOf?_cons]
    | cons other rest inductionHypothesis =>
        rw [List.mem_cons, not_or] at first
        simp [List.idxOf?_cons, Ne.symm first.1, inductionHypothesis first.2]
  simp [inFrontOf, index]

/-- Put in directly in front of a window of the list, whatever comes behind or in front of it. -/
theorem exists_insertIdx_inFrontOf {reference : WindowId} (member : reference ∈ order)
    (entry : WindowId) :
    ∃ back front, order = back ++ reference :: front ∧
      order.insertIdx (inFrontOf order reference) entry = back ++ reference :: entry :: front := by
  obtain ⟨back, front, rfl, first⟩ := List.eq_append_cons_of_mem member
  refine ⟨back, front, rfl, ?_⟩
  rw [inFrontOf_append first, List.append_cons, insertIdx_length_append]
  simp

/-- The list into which a directive puts a window among the others. -/
def Reinserted (rest : List WindowId) (window : WindowId) (after : List WindowId) :
    Directive → Prop
  | .bottom => after = window :: rest
  | .top | .topmost | .noTopmost => after = rest ++ [window]
  | .after reference =>
    (reference ∉ rest ∧ after = window :: rest) ∨
      ∃ back front, rest = back ++ reference :: front ∧
        after = back ++ reference :: window :: front

theorem reinserted_restackedChildren (order : List WindowId) (window : WindowId)
    (directive : Directive) :
    Reinserted (without order window) window (restackedChildren order window directive)
      directive := by
  cases directive with
  | bottom | top | topmost | noTopmost => rfl
  | after reference =>
      by_cases member : reference ∈ without order window
      · exact .inr (exists_insertIdx_inFrontOf member window)
      · have notThere : inFrontOf (without order window) reference = 0 := by
          simp [inFrontOf, List.idxOf?_eq_none_iff.mpr member]
        refine .inl ⟨member, ?_⟩
        rw [restackedChildren, notThere, List.insertIdx_zero]

private theorem without_reinserted {index : Nat}
    (inside : index ≤ (without order window).length) :
    without ((without order window).insertIdx index window) window = without order window := by
  rw [insertIdx_eq_cut inside, without_append, without_cons_self, ← without_append,
    List.take_append_drop, without_of_notMem (not_mem_without order window)]

private theorem without_behind (order : List WindowId) (window : WindowId) :
    without (window :: without order window) window = without order window :=
  without_reinserted (Nat.zero_le _)

private theorem without_inFront (order : List WindowId) (window : WindowId) :
    without (without order window ++ [window]) window = without order window := by
  rw [← List.insertIdx_length_self]
  exact without_reinserted (Nat.le_refl _)

/-- A directive for one child leaves the order of its siblings alone. -/
theorem without_restackedChildren (order : List WindowId) (window : WindowId)
    (directive : Directive) :
    without (restackedChildren order window directive) window = without order window := by
  cases directive with
  | bottom => exact without_behind order window
  | top | topmost | noTopmost => exact without_inFront order window
  | after reference => exact without_reinserted (inFrontOf_le_length _ reference)

/-- A directive for one top-level window leaves the order of the others alone. -/
theorem without_restacked (isTopmost : WindowId → Bool) (order : List WindowId)
    (window : WindowId) (directive : Directive) :
    without (restacked isTopmost order window directive) window = without order window := by
  have boundaryInside := boundary_le_length isTopmost (without order window)
  cases directive with
  | bottom => exact without_behind order window
  | topmost => exact without_inFront order window
  | top =>
      unfold restacked
      dsimp only
      split
      · rfl
      · exact without_reinserted boundaryInside
  | noTopmost =>
      unfold restacked
      dsimp only
      split
      · exact without_reinserted boundaryInside
      · rfl
  | after reference =>
      have wantedInside := inFrontOf_le_length (without order window) reference
      refine without_reinserted ?_
      split <;> omega

end Stacking

end WindowRelay
