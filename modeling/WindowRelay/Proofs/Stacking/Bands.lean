import WindowRelay.Proofs.Stacking.Arrangement

/-!
Contract: the two bands of the top-level order.

Owns:
- the order is split into normal windows and, in front of them, topmost windows;
- the boundary that is computed from the flags is the length of the normal band;
- a window put in on its own side of the boundary keeps the split;
- so do directives, which set the flag of the window at the same time.
-/

namespace WindowRelay

namespace Stacking

variable {isTopmost : WindowId → Bool} {order normal front : List WindowId} {window : WindowId}

/-- The normal band is followed by the topmost band. -/
structure Bands (isTopmost : WindowId → Bool) (normal front : List WindowId) : Prop where
  normal : ∀ window ∈ normal, isTopmost window = false
  front : ∀ window ∈ front, isTopmost window = true

/-- The order is split into the two bands. -/
def Banded (isTopmost : WindowId → Bool) (order : List WindowId) : Prop :=
  ∃ normal front, order = normal ++ front ∧ Bands isTopmost normal front

theorem banded_nil (isTopmost : WindowId → Bool) : Banded isTopmost [] :=
  ⟨[], [], rfl, by simp, by simp⟩

theorem Banded.congr {flags : WindowId → Bool} (banded : Banded isTopmost order)
    (agree : ∀ window ∈ order, flags window = isTopmost window) : Banded flags order := by
  obtain ⟨normal, front, rfl, bands⟩ := banded
  refine ⟨normal, front, rfl, fun window member => ?_, fun window member => ?_⟩
  · rw [agree window (List.mem_append_left front member)]
    exact bands.normal window member
  · rw [agree window (List.mem_append_right normal member)]
    exact bands.front window member

theorem Banded.without (banded : Banded isTopmost order) (window : WindowId) :
    Banded isTopmost (without order window) := by
  obtain ⟨normal, front, rfl, bands⟩ := banded
  refine ⟨Stacking.without normal window, Stacking.without front window,
    without_append normal front window, fun other member => ?_, fun other member => ?_⟩
  · exact bands.normal other (mem_without.mp member).1
  · exact bands.front other (mem_without.mp member).1

/-- A normal window may come behind all others. -/
theorem Banded.cons (banded : Banded isTopmost order) (isNormal : isTopmost window = false) :
    Banded isTopmost (window :: order) := by
  obtain ⟨normal, front, rfl, bands⟩ := banded
  refine ⟨window :: normal, front, rfl, fun other member => ?_, bands.front⟩
  rcases List.mem_cons.mp member with isWindow | inNormal
  · exact isWindow ▸ isNormal
  · exact bands.normal other inNormal

theorem boundary_eq (bands : Bands isTopmost normal front) :
    boundary isTopmost (normal ++ front) = normal.length := by
  have notInNormal : normal.findIdx isTopmost = normal.length :=
    List.findIdx_eq_length.mpr bands.normal
  have atStart : front.findIdx isTopmost = 0 := by
    cases front with
    | nil => rfl
    | cons head tail =>
        have flag := bands.front head (by simp)
        simp [List.findIdx_cons, flag]
  unfold boundary
  rw [List.findIdx_append, notInNormal, if_neg (Nat.lt_irrefl _), atStart, Nat.zero_add]

/-- A window is put in on its own side of the boundary. -/
theorem banded_insertIdx (bands : Bands isTopmost normal front) {index : Nat}
    (inside : index ≤ (normal ++ front).length)
    (behind : isTopmost window = false → index ≤ normal.length)
    (before : isTopmost window = true → normal.length ≤ index) :
    Banded isTopmost ((normal ++ front).insertIdx index window) := by
  rw [insertIdx_eq_cut inside]
  cases flag : isTopmost window with
  | false =>
      have below := behind flag
      refine ⟨normal.take index ++ window :: normal.drop index, front, ?_, fun other member => ?_,
        bands.front⟩
      · rw [List.take_append_of_le_length below, List.drop_append_of_le_length below]
        simp
      · rcases List.mem_append.mp member with inTake | inRest
        · exact bands.normal other (List.mem_of_mem_take inTake)
        · rcases List.mem_cons.mp inRest with isWindow | inDrop
          · exact isWindow ▸ flag
          · exact bands.normal other (List.mem_of_mem_drop inDrop)
  | true =>
      obtain ⟨steps, rfl⟩ := Nat.exists_eq_add_of_le (before flag)
      refine ⟨normal, front.take steps ++ window :: front.drop steps, ?_, bands.normal,
        fun other member => ?_⟩
      · rw [List.take_length_add_append, List.drop_length_add_append, List.append_assoc]
      · rcases List.mem_append.mp member with inTake | inRest
        · exact bands.front other (List.mem_of_mem_take inTake)
        · rcases List.mem_cons.mp inRest with isWindow | inDrop
          · exact isWindow ▸ flag
          · exact bands.front other (List.mem_of_mem_drop inDrop)

/-- Once the window is taken out, its own flag does not matter. -/
theorem Banded.exists_bands_without (banded : Banded isTopmost order) {flags : WindowId → Bool}
    (others : ∀ other, other ≠ window → flags other = isTopmost other) :
    ∃ normal front, Stacking.without order window = normal ++ front ∧ Bands flags normal front ∧
      boundary isTopmost (Stacking.without order window) = normal.length := by
  obtain ⟨normal, front, split, bands⟩ := banded.without window
  have different : ∀ other ∈ normal ++ front, other ≠ window := fun other member =>
    (mem_without.mp (split ▸ member)).2
  refine ⟨normal, front, split, ⟨fun other member => ?_, fun other member => ?_⟩, ?_⟩
  · rw [others other (different other (List.mem_append_left front member))]
    exact bands.normal other member
  · rw [others other (different other (List.mem_append_right normal member))]
    exact bands.front other member
  · rw [split, boundary_eq bands]

/-- A directive for a window of the order, with the flags that it leaves. -/
theorem Banded.restacked (banded : Banded isTopmost order) {flags : WindowId → Bool}
    {directive : Directive} (own : flags window = directive.flagAfter (isTopmost window))
    (others : ∀ other, other ≠ window → flags other = isTopmost other) :
    Banded flags (restacked isTopmost order window directive) := by
  have keepsOrder : flags window = isTopmost window → Banded flags order := fun same => by
    apply banded.congr
    intro other _
    by_cases isWindow : other = window
    · exact isWindow ▸ same
    · exact others other isWindow
  obtain ⟨normal, front, split, flagBands, boundaryIs⟩ := banded.exists_bands_without others
  -- A directive puts the window in at an index on its side, or leaves order and flag alone.
  have inserted : ∀ index, index ≤ (normal ++ front).length →
      (flags window = false → index ≤ normal.length) →
      (flags window = true → normal.length ≤ index) →
      Banded flags ((Stacking.without order window).insertIdx index window) :=
    fun index inside behind before => split ▸ banded_insertIdx flagBands inside behind before
  have normalInside : normal.length ≤ (normal ++ front).length := by simp
  unfold Stacking.restacked
  cases directive with
  | bottom =>
      exact inserted 0 (Nat.zero_le _) (fun _ => Nat.zero_le _) (by simp [own, Directive.flagAfter])
  | topmost =>
      have atEnd := inserted (Stacking.without order window).length (by simp [split])
        (by simp [own, Directive.flagAfter]) (by simp [split])
      rwa [List.insertIdx_length_self] at atEnd
  | top =>
      dsimp only
      split
      · exact keepsOrder own
      · next notTopmost =>
          rw [boundaryIs]
          exact inserted _ normalInside (fun _ => Nat.le_refl _) (fun _ => Nat.le_refl _)
  | noTopmost =>
      dsimp only
      split
      · rw [boundaryIs]
        exact inserted _ normalInside (fun _ => Nat.le_refl _) (fun _ => Nat.le_refl _)
      · next notTopmost =>
          have wasNormal : isTopmost window = false := by simpa using notTopmost
          exact keepsOrder (by rw [own, wasNormal]; rfl)
  | after reference =>
      have wantedInside : inFrontOf (Stacking.without order window) reference ≤
          (normal ++ front).length :=
        split ▸ inFrontOf_le_length (Stacking.without order window) reference
      have sameFlag : flags window = isTopmost window := own
      dsimp only
      rw [boundaryIs, ← sameFlag]
      cases flag : flags window with
      | false =>
          refine inserted _ ?_ (fun _ => ?_) (by simp [flag]) <;>
            simp only [Bool.false_eq_true, if_false] <;> omega
      | true =>
          refine inserted _ ?_ (by simp [flag]) (fun _ => ?_) <;> simp only [if_true] <;> omega

end Stacking

end WindowRelay
