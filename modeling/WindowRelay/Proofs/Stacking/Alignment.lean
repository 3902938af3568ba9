import WindowRelay.Proofs.Stacking.Arrangement
import WindowRelay.Scene.Command

/-!
Contract: orders that are patched instead of rebuilt.

Owns:
- a window put in at its rank among the attached ones leaves the attached windows in the wanted
  order;
- windows brought to the front one after the other end up in front, in that order;
- bringing to the front what a container does not show in the wanted order brings it in line,
  whatever it held, and leaves the other windows as they stood; a second time changes nothing.

Does not own: the containers that hold these orders (`Proofs.Scene.Containers`).
-/

namespace WindowRelay

namespace Stacking

variable {order wanted present : List WindowId} {window : WindowId}

/-! ## Ranks -/

theorem takeWhile_ne_of_notMem {back front : List WindowId} (absent : window ∉ back) :
    (back ++ window :: front).takeWhile (· != window) = back := by
  have passes : ∀ other ∈ back, (other != window) = true := by
    intro other member
    have different : other ≠ window := fun same => absent (same ▸ member)
    simpa using different
  rw [List.takeWhile_append_of_pos passes]
  simp

/-- The rank counts the attached windows behind. -/
theorem insertIdx_rank (distinct : order.Nodup) (member : window ∈ order)
    (attached : WindowId → Bool) :
    let rest := without (order.filter attached) window
    let rank := ((order.takeWhile (· != window)).filter
      fun other => (order.filter attached).contains other).length
    rest.insertIdx (min rank rest.length) window =
      order.filter fun other => other == window || attached other := by
  dsimp only
  -- Cut the list at the window: on each side nothing changes for the windows that are attached.
  obtain ⟨back, front, rfl, notBehind⟩ := List.eq_append_cons_of_mem member
  have notInFront : window ∉ front :=
    (List.nodup_cons.mp (List.nodup_append.mp distinct).2.1).1
  have behind : back.filter
      (fun other => ((back ++ window :: front).filter attached).contains other) =
        back.filter attached := by
    apply List.filter_congr
    intro other inBack
    by_cases isAttached : attached other = true
    · simp [isAttached, inBack]
    · simp [isAttached]
  have rest : without ((back ++ window :: front).filter attached) window =
      back.filter attached ++ front.filter attached := by
    have keepsBack : window ∉ back.filter attached := fun inBack =>
      notBehind (List.mem_of_mem_filter inBack)
    have keepsFront : window ∉ front.filter attached := fun inFront =>
      notInFront (List.mem_of_mem_filter inFront)
    rw [List.filter_append, without_append, without_of_notMem keepsBack, List.filter_cons]
    split
    · rw [without_cons_self, without_of_notMem keepsFront]
    · rw [without_of_notMem keepsFront]
  have others : ∀ part : List WindowId, window ∉ part →
      part.filter (fun other => other == window || attached other) = part.filter attached := by
    intro part absent
    apply List.filter_congr
    intro other inPart
    have different : other ≠ window := fun same => absent (same ▸ inPart)
    simp [different]
  rw [takeWhile_ne_of_notMem notBehind, behind, rest, Nat.min_eq_left (by simp),
    insertIdx_length_append, List.filter_append, List.filter_cons, others back notBehind,
    others front notInFront]
  simp

/-! ## Raising -/

/-- The order after a window came to the front. -/
def raised (order : List WindowId) (window : WindowId) : List WindowId :=
  without order window ++ [window]

theorem foldl_raised (windows : List WindowId) (distinct : windows.Nodup)
    (order : List WindowId) :
    windows.foldl raised order =
      order.filter (fun other => !windows.contains other) ++ windows := by
  induction windows generalizing order with
  | nil => simp
  | cons window rest inductionHypothesis =>
      obtain ⟨notLater, restDistinct⟩ := List.nodup_cons.mp distinct
      have split : (raised order window).filter (fun other => !rest.contains other) =
          order.filter (fun other => !(window :: rest).contains other) ++ [window] := by
        rw [raised, List.filter_append, without, List.filter_filter]
        congr 1
        · apply List.filter_congr
          intro other _
          by_cases same : other = window <;> simp [same]
        · simp [notLater]
      rw [List.foldl_cons, inductionHypothesis restDistinct, split, List.append_assoc]
      rfl

/-- Raising some windows of an order rearranges it. -/
theorem perm_raised {windows : List WindowId} (orderDistinct : order.Nodup)
    (distinct : windows.Nodup) (known : windows ⊆ order) :
    (order.filter (fun other => !windows.contains other) ++ windows).Perm order := by
  have front : (order.filter windows.contains).Perm windows := by
    apply (List.perm_ext_iff_of_nodup (orderDistinct.filter _) distinct).mpr
    intro other
    rw [List.mem_filter, List.contains_iff_mem]
    exact ⟨And.right, fun member => ⟨known member, member⟩⟩
  exact (List.perm_append_comm.trans (front.symm.append_right _)).trans
    (List.filter_append_perm _ order)

theorem filter_mem_of_sublist {part whole : List WindowId} (sublist : part.Sublist whole)
    (distinct : whole.Nodup) : whole.filter part.contains = part := by
  induction sublist with
  | slnil => rfl
  | @cons part whole window inside inductionHypothesis =>
      obtain ⟨notLater, restDistinct⟩ := List.nodup_cons.mp distinct
      have notWanted : window ∉ part := fun member => notLater (inside.subset member)
      rw [List.filter_cons_of_neg (by simpa using notWanted), inductionHypothesis restDistinct]
  | @cons_cons part whole window inside inductionHypothesis =>
      obtain ⟨notLater, restDistinct⟩ := List.nodup_cons.mp distinct
      have others : whole.filter (window :: part).contains = whole.filter part.contains := by
        apply List.filter_congr
        intro other member
        have different : other ≠ window := fun same => notLater (same ▸ member)
        simp [different]
      rw [List.filter_cons_of_pos (by simp), others, inductionHypothesis restDistinct]

/-! ## Lists brought in line -/

/-- A list that was brought in line with the wanted windows: these stand in their order, and the
others as they stood before. -/
structure Realigned (wanted before after : List WindowId) : Prop where
  distinct : after.Nodup
  inOrder : after.filter wanted.contains = wanted
  others : (after.filter fun id => !wanted.contains id) =
    before.filter fun id => !wanted.contains id

/-- It is enough to raise an end of the wanted windows, if the rest shows in order. -/
theorem realigned_raise {matched left : List WindowId} (distinct : present.Nodup)
    (wantedDistinct : (matched ++ left).Nodup) (inside : matched.Sublist present) :
    Realigned (matched ++ left) present (left.foldl raised present) := by
  obtain ⟨-, leftDistinct, apart⟩ := List.nodup_append.mp wantedDistinct
  rw [foldl_raised left leftDistinct]
  constructor
  · refine List.nodup_append.mpr ⟨distinct.filter _, leftDistinct, ?_⟩
    intro other kept raised inLeft same
    have notLeft := (List.mem_filter.mp kept).2
    simp [same, inLeft] at notLeft
  · -- The matched windows show in order already, behind all that are raised.
    have back : (present.filter fun id => !left.contains id).filter (matched ++ left).contains =
        matched := by
      rw [List.filter_filter]
      refine Eq.trans (List.filter_congr fun id _ => ?_) (filter_mem_of_sublist inside distinct)
      by_cases inMatched : id ∈ matched
      · have notLeft : id ∉ left := fun inLeft => apart id inMatched id inLeft rfl
        simp [inMatched, notLeft]
      · simp [inMatched]
    have front : left.filter (matched ++ left).contains = left := by
      apply List.filter_eq_self.mpr
      intro id inLeft
      simp [inLeft]
    rw [List.filter_append, back, front]
  · have nothing : (left.filter fun id => !(matched ++ left).contains id) = [] := by
      apply List.filter_eq_nil_iff.mpr
      intro id inLeft
      simp [inLeft]
    rw [List.filter_append, nothing, List.append_nil, List.filter_filter]
    apply List.filter_congr
    intro id _
    by_cases inLeft : id ∈ left <;> simp [inLeft]

/-- Where there are no others, only the wanted windows are left. -/
theorem Realigned.eq_wanted {before after : List WindowId}
    (realigned : Realigned wanted before after) (known : before ⊆ wanted) : after = wanted := by
  have noOthers : (after.filter fun id => !wanted.contains id) = [] := by
    rw [realigned.others]
    apply List.filter_eq_nil_iff.mpr
    intro id member
    simpa using known member
  have onlyWanted : after.filter wanted.contains = after := by
    apply List.filter_eq_self.mpr
    intro id member
    simpa using List.filter_eq_nil_iff.mp noOthers id member
  exact onlyWanted.symm.trans realigned.inOrder

/-- Raising the windows at the end of a list changes nothing. -/
theorem foldl_raised_of_suffix {left : List WindowId} (distinct : order.Nodup)
    (atEnd : left <:+ order) : left.foldl raised order = order := by
  obtain ⟨rest, rfl⟩ := atEnd
  obtain ⟨-, leftDistinct, apart⟩ := List.nodup_append.mp distinct
  have behind : (rest.filter fun id => !left.contains id) = rest := by
    apply List.filter_eq_self.mpr
    intro id inRest
    have notLeft : id ∉ left := fun inLeft => apart id inRest id inLeft rfl
    simpa using notLeft
  have inFront : (left.filter fun id => !left.contains id) = [] := by
    apply List.filter_eq_nil_iff.mpr
    intro id inLeft
    simpa using inLeft
  rw [foldl_raised left leftDistinct, List.filter_append, behind, inFront, List.append_nil]

/-! ## The desktop container -/

/-- What is left over is the end of the wanted windows; the rest shows in order. -/
theorem exists_matched (wanted present : List WindowId) :
    ∃ matched, matched.Sublist present ∧ wanted = matched ++ Scene.unmatched wanted present := by
  induction present generalizing wanted with
  | nil => exact ⟨[], List.Sublist.refl [], by cases wanted <;> rfl⟩
  | cons view views inductionHypothesis =>
      cases wanted with
      | nil => exact ⟨[], List.nil_sublist _, rfl⟩
      | cons window rest =>
          unfold Scene.unmatched
          split
          · next same =>
              obtain ⟨matched, inside, split⟩ := inductionHypothesis rest
              refine ⟨view :: matched, inside.cons_cons view, ?_⟩
              rw [same, List.cons_append, ← split]
          · obtain ⟨matched, inside, split⟩ := inductionHypothesis (window :: rest)
            exact ⟨matched, inside.cons view, split⟩

theorem unmatched_subset (wanted present : List WindowId) :
    Scene.unmatched wanted present ⊆ wanted := by
  obtain ⟨matched, -, split⟩ := exists_matched wanted present
  exact fun other member => split ▸ List.mem_append_right matched member

theorem nodup_unmatched (wantedDistinct : wanted.Nodup) (present : List WindowId) :
    (Scene.unmatched wanted present).Nodup := by
  obtain ⟨matched, -, split⟩ := exists_matched wanted present
  rw [split] at wantedDistinct
  exact (List.nodup_append.mp wantedDistinct).2.1

/-- The desktop container in line with the wanted windows, whatever it held. -/
theorem realigned_unmatched (distinct : present.Nodup) (wantedDistinct : wanted.Nodup) :
    Realigned wanted present ((Scene.unmatched wanted present).foldl raised present) := by
  obtain ⟨matched, inside, split⟩ := exists_matched wanted present
  generalize Scene.unmatched wanted present = left at split
  subst split
  exact realigned_raise distinct wantedDistinct inside

/-- Nothing is left over of windows that show in order. -/
theorem unmatched_of_sublist (inside : wanted.Sublist present) :
    Scene.unmatched wanted present = [] := by
  induction present generalizing wanted with
  | nil => rw [List.sublist_nil.mp inside, Scene.unmatched]
  | cons view views inductionHypothesis =>
      cases wanted with
      | nil => rfl
      | cons window rest =>
          unfold Scene.unmatched
          split
          · next same =>
              rw [same] at inside
              exact inductionHypothesis (List.cons_sublist_cons.mp inside)
          · next different =>
              cases inside with
              | cons _ later => exact inductionHypothesis later
              | cons_cons => exact absurd rfl different

/-! ## Client containers -/

/-- What is left over and what is there differ from a common beginning on. -/
theorem exists_common_start (wanted present : List WindowId) :
    ∃ start more, wanted = start ++ Scene.afterCommonStart wanted present ∧
      present = start ++ more := by
  induction wanted generalizing present with
  | nil => exact ⟨[], present, rfl, rfl⟩
  | cons window rest inductionHypothesis =>
      cases present with
      | nil => exact ⟨[], [], rfl, rfl⟩
      | cons view views =>
          unfold Scene.afterCommonStart
          split
          · next same =>
              obtain ⟨start, more, left, there⟩ := inductionHypothesis views
              refine ⟨window :: start, more, ?_, ?_⟩
              · rw [List.cons_append, ← left]
              · rw [List.cons_append, ← there, same]
          · exact ⟨[], view :: views, rfl, rfl⟩

theorem afterCommonStart_append (start left there : List WindowId) :
    Scene.afterCommonStart (start ++ left) (start ++ there) =
      Scene.afterCommonStart left there := by
  induction start with
  | nil => rfl
  | cons window rest inductionHypothesis =>
      rw [List.cons_append, List.cons_append, Scene.afterCommonStart, if_pos rfl,
        inductionHypothesis]

/-- A client container in line with the wanted windows, whatever it held. -/
theorem realigned_afterCommonStart (distinct : present.Nodup) (wantedDistinct : wanted.Nodup) :
    Realigned wanted present ((Scene.afterCommonStart wanted present).foldl raised present) := by
  obtain ⟨start, more, split, there⟩ := exists_common_start wanted present
  generalize Scene.afterCommonStart wanted present = left at split
  subst split there
  exact realigned_raise distinct wantedDistinct (List.sublist_append_left start more)

/-- A second time, at most windows that are in front already are raised. -/
theorem afterCommonStart_realigned (distinct : present.Nodup) (wantedDistinct : wanted.Nodup) :
    let after := (Scene.afterCommonStart wanted present).foldl raised present
    Scene.afterCommonStart wanted after <:+ after := by
  obtain ⟨start, more, split, there⟩ := exists_common_start wanted present
  generalize Scene.afterCommonStart wanted present = left at split
  subst split there
  obtain ⟨-, leftDistinct, apart⟩ := List.nodup_append.mp wantedDistinct
  have behind : (start.filter fun id => !left.contains id) = start := by
    apply List.filter_eq_self.mpr
    intro id inStart
    have notLeft : id ∉ left := fun inLeft => apart id inStart id inLeft rfl
    simpa using notLeft
  dsimp only
  rw [foldl_raised left leftDistinct, List.filter_append, behind, List.append_assoc,
    afterCommonStart_append]
  -- What differs is an end of `left`, and `left` is the front of the list.
  obtain ⟨again, _, splitAgain, -⟩ := exists_common_start left
    ((more.filter fun id => !left.contains id) ++ left)
  have endOfLeft : Scene.afterCommonStart left
      ((more.filter fun id => !left.contains id) ++ left) <:+ left := ⟨again, splitAgain.symm⟩
  exact endOfLeft.trans ((List.suffix_append _ left).trans (List.suffix_append start _))

/-- Raising the wanted windows from the first difference on gives the wanted order, if the same
windows are there. -/
theorem foldl_raise_afterCommonStart (wantedDistinct : wanted.Nodup) (same : present.Perm wanted) :
    (Scene.afterCommonStart wanted present).foldl raised present = wanted :=
  (realigned_afterCommonStart (same.nodup_iff.mpr wantedDistinct) wantedDistinct).eq_wanted
    same.subset

end Stacking

end WindowRelay
