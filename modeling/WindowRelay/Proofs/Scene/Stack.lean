import WindowRelay.Proofs.Stacking.Alignment

/-!
Contract: the stacking list of a client container, read as the list of its windows.

Owns:
- reserved entries stand in front of every window;
- insertion, removal and raising act on the windows as on a plain list, and keep reserved entries in
  front.

The translation of an index among the windows into a place of the mixed list is right only while
reserved entries stand in front: past the last window it gives the place of the first of them.
-/

namespace WindowRelay

namespace View

/-- A stacking list with some windows and a number of reserved entries in front of them. -/
def layered (windows : List WindowId) (reserved : Nat) : List StackEntry :=
  windows.map StackEntry.window ++ List.replicate reserved .content

/-- Reserved entries stand in front of every window. -/
def Layered (view : View) : Prop :=
  ∃ reserved, view.stack = layered view.windows reserved

theorem windowsOf_layered (windows : List WindowId) (reserved : Nat) :
    windowsOf (layered windows reserved) = windows := by
  have fromWindows : (windows.map StackEntry.window).filterMap StackEntry.window? = windows := by
    rw [List.filterMap_map]
    exact List.filterMap_some
  have fromReserved :
      (List.replicate reserved StackEntry.content).filterMap StackEntry.window? = [] :=
    List.filterMap_replicate_of_none rfl
  rw [windowsOf, layered, List.filterMap_append, fromWindows, fromReserved, List.append_nil]

/-- A view with such a stacking list has these windows. -/
theorem windows_of_stack {view : View} {windows : List WindowId} {reserved : Nat}
    (stack : view.stack = layered windows reserved) : view.windows = windows := by
  rw [View.windows, stack, windowsOf_layered]

theorem layered_of_stack {view : View} {windows : List WindowId} {reserved : Nat}
    (stack : view.stack = layered windows reserved) : view.Layered :=
  ⟨reserved, by rw [windows_of_stack stack, stack]⟩

theorem layered_fresh (reserveFront : Bool) : (fresh reserveFront).Layered := by
  cases reserveFront with
  | false => exact ⟨0, rfl⟩
  | true => exact ⟨1, rfl⟩

theorem windows_fresh (reserveFront : Bool) : (fresh reserveFront).windows = [] := by
  cases reserveFront <;> rfl

/-! ## Removal -/

theorem window_bne_window (other id : WindowId) :
    (StackEntry.window other != .window id) = (other != id) := by
  rw [Bool.eq_iff_iff, bne_iff_ne, bne_iff_ne, Ne, StackEntry.window.injEq]

theorem windowsOf_filter (stack : List StackEntry) (id : WindowId) :
    windowsOf (stack.filter (· != .window id)) = Stacking.without (windowsOf stack) id := by
  induction stack with
  | nil => rfl
  | cons entry rest inductionHypothesis =>
      simp only [windowsOf, Stacking.without] at inductionHypothesis ⊢
      cases entry with
      | content =>
          exact inductionHypothesis
      | window other =>
          by_cases same : other = id
          · simp [same, StackEntry.window?, inductionHypothesis]
          · have kept : (StackEntry.window other != .window id) = true := by
              rw [window_bne_window]
              simpa using same
            simp [kept, same, StackEntry.window?, inductionHypothesis]

theorem windows_remove (view : View) (id : WindowId) :
    (view.remove id).windows = Stacking.without view.windows id :=
  windowsOf_filter view.stack id

private theorem filter_layered (windows : List WindowId) (reserved : Nat) (id : WindowId) :
    (layered windows reserved).filter (· != .window id) =
      layered (Stacking.without windows id) reserved := by
  have fromWindows : (windows.map StackEntry.window).filter (· != .window id) =
      (Stacking.without windows id).map StackEntry.window := by
    rw [List.filter_map, Stacking.without]
    congr 1
    exact List.filter_congr fun other _ => window_bne_window other id
  have fromReserved : (List.replicate reserved StackEntry.content).filter (· != .window id) =
      List.replicate reserved .content :=
    List.filter_replicate_of_pos rfl
  rw [layered, List.filter_append, fromWindows, fromReserved, layered]

theorem stack_remove {view : View} {windows : List WindowId} {reserved : Nat}
    (stack : view.stack = layered windows reserved) (id : WindowId) :
    (view.remove id).stack = layered (Stacking.without windows id) reserved := by
  rw [← filter_layered, ← stack]
  rfl

theorem Layered.remove {view : View} (isLayered : view.Layered) (id : WindowId) :
    (view.remove id).Layered := by
  obtain ⟨reserved, stack⟩ := isLayered
  exact layered_of_stack (stack_remove stack id)

/-! ## Insertion -/

private theorem placeOfWindow?_layered (windows : List WindowId) (reserved index : Nat) :
    placeOfWindow? (layered windows reserved) index =
      if index < windows.length then some index else none := by
  induction windows generalizing index with
  | nil =>
      have onlyReserved : ∀ count,
          placeOfWindow? (List.replicate count StackEntry.content) index = none := by
        intro count
        induction count with
        | zero => rfl
        | succ count inductionHypothesis =>
            rw [List.replicate_succ, placeOfWindow?, inductionHypothesis, Option.map_none]
      simpa [layered] using onlyReserved reserved
  | cons window rest inductionHypothesis =>
      cases index with
      | zero => simp [layered, placeOfWindow?]
      | succ index =>
          have later := inductionHypothesis index
          simp only [layered] at later
          simp only [layered, List.map_cons, List.cons_append, placeOfWindow?, later,
            List.length_cons]
          by_cases inside : index < rest.length <;> simp [inside]

private theorem findIdx_layered (windows : List WindowId) (reserved : Nat) :
    (layered windows reserved).findIdx (· == .content) = windows.length := by
  induction windows with
  | nil =>
      cases reserved with
      | zero => rfl
      | succ reserved => exact List.findIdx_cons
  | cons window rest inductionHypothesis =>
      have later : (layered (window :: rest) reserved).findIdx (· == .content) =
          (layered rest reserved).findIdx (· == .content) + 1 :=
        List.findIdx_cons
      rw [later, inductionHypothesis, List.length_cons]

private theorem insertionPoint_layered (windows : List WindowId) (reserved index : Nat) :
    insertionPoint (layered windows reserved) index = min index windows.length := by
  unfold insertionPoint
  rw [placeOfWindow?_layered]
  by_cases inside : index < windows.length
  · rw [if_pos inside]
    exact (Nat.min_eq_left (Nat.le_of_lt inside)).symm
  · rw [if_neg inside]
    exact (findIdx_layered windows reserved).trans (Nat.min_eq_right (by omega)).symm

private theorem insertIdx_layered {windows : List WindowId} {index : Nat}
    (inside : index ≤ windows.length) (reserved : Nat) (id : WindowId) :
    (layered windows reserved).insertIdx index (.window id) =
      layered (windows.insertIdx index id) reserved := by
  have back : (windows.take index).length = index := List.length_take_of_le inside
  have cut : layered windows reserved =
      (windows.take index).map .window ++ layered (windows.drop index) reserved := by
    rw [layered, layered, ← List.append_assoc, ← List.map_append, List.take_append_drop]
  have inserted := Stacking.insertIdx_length_append ((windows.take index).map StackEntry.window)
    (layered (windows.drop index) reserved) (.window id)
  rw [List.length_map, back, ← cut] at inserted
  rw [inserted, Stacking.insertIdx_eq_cut inside]
  simp [layered]

theorem stack_insert {view : View} {windows : List WindowId} {reserved : Nat}
    (stack : view.stack = layered windows reserved) (id : WindowId) (index : Nat) :
    (view.insert id index).stack =
      layered ((Stacking.without windows id).insertIdx
        (min index (Stacking.without windows id).length) id) reserved := by
  have rest := stack_remove stack id
  unfold insert
  dsimp only
  rw [rest, insertionPoint_layered, insertIdx_layered (Nat.min_le_right _ _)]

theorem windows_insert {view : View} (isLayered : view.Layered) (id : WindowId) (index : Nat) :
    (view.insert id index).windows =
      (Stacking.without view.windows id).insertIdx
        (min index (Stacking.without view.windows id).length) id := by
  obtain ⟨reserved, stack⟩ := isLayered
  exact windows_of_stack (stack_insert stack id index)

theorem Layered.insert {view : View} (isLayered : view.Layered) (id : WindowId) (index : Nat) :
    (view.insert id index).Layered := by
  obtain ⟨reserved, stack⟩ := isLayered
  exact layered_of_stack (stack_insert stack id index)

theorem stack_raise {view : View} {windows : List WindowId} {reserved : Nat}
    (stack : view.stack = layered windows reserved) (id : WindowId) :
    (view.raise id).stack = layered (Stacking.raised windows id) reserved := by
  have fewer : (Stacking.without windows id).length ≤ windows.length := List.length_filter_le _ _
  rw [raise, stack_insert stack, windows_of_stack stack, Nat.min_eq_right fewer,
    List.insertIdx_length_self]
  rfl

theorem windows_raise {view : View} (isLayered : view.Layered) (id : WindowId) :
    (view.raise id).windows = Stacking.raised view.windows id := by
  obtain ⟨reserved, stack⟩ := isLayered
  exact windows_of_stack (stack_raise stack id)

/-- Only the stacking list of a view changes when windows are raised one after the other. -/
theorem foldl_raise {view : View} {windows : List WindowId} {reserved : Nat}
    (stack : view.stack = layered windows reserved) (ids : List WindowId) :
    ids.foldl raise view =
      { view with stack := layered (ids.foldl Stacking.raised windows) reserved } := by
  induction ids generalizing view windows with
  | nil => rw [List.foldl_nil, List.foldl_nil, ← stack]
  | cons id rest inductionHypothesis =>
      rw [List.foldl_cons, List.foldl_cons, inductionHypothesis (stack_raise stack id)]
      rfl

theorem Layered.raise {view : View} (isLayered : view.Layered) (id : WindowId) :
    (view.raise id).Layered :=
  isLayered.insert id _

end View

end WindowRelay
