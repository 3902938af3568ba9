import WindowRelay.Geometry.Layout
import WindowRelay.Proofs.Outcome

/-!
Contract: which rectangles can be laid out.

Owns:
- checked arithmetic succeeds exactly on results that are coordinates;
- each layout succeeds exactly if some sums and differences of its corners are coordinates;
- the rectangles with which all layouts of a window succeed.

All conditions are stated on one axis. A footprint of two units is what decides about a padded
extent: where two units fit, one fits, and where they do not, the extent is too short to stay as it
is. A window keeps its rectangles when it moves, so they have to fit every place that it may get
later: the top level and a parent, and the parking place while it is hidden.
-/

namespace WindowRelay

namespace Coordinate

variable {left right value result : Coordinate}

theorem exactly_eq_ok_iff {cause : Overflow} {exact : Int} :
    exactly cause exact = .ok result ↔ Fits exact ∧ result = Int32.ofInt exact := by
  unfold exactly
  split
  · next fits => simp [fits, eq_comm]
  · next outside => simp [outside]

theorem succeeds_exactly_iff {cause : Overflow} {exact : Int} :
    Succeeds (exactly cause exact) ↔ Fits exact := by
  simp [Succeeds, exactly_eq_ok_iff]

/-- A checked operation gives a coordinate with the exact value. -/
theorem exists_of_fits (cause : Overflow) {exact : Int} (fits : Fits exact) :
    ∃ result, exactly cause exact = .ok result ∧ result.toInt = exact :=
  ⟨Int32.ofInt exact, exactly_eq_ok_iff.mpr ⟨fits, rfl⟩, toInt_ofInt_of_fits fits⟩

/-- What comes behind a checked operation sees the exact value. -/
theorem succeeds_exactly_bind {β : Type} {cause : Overflow} {exact : Int}
    {next : Coordinate → Except Overflow β} {goal : Prop}
    (behind : ∀ result : Coordinate, result.toInt = exact → (Succeeds (next result) ↔ goal)) :
    Succeeds (exactly cause exact >>= next) ↔ Fits exact ∧ goal := by
  rw [succeeds_bind]
  constructor
  · rintro ⟨result, succeeded, later⟩
    exact ⟨(exactly_eq_ok_iff.mp succeeded).1,
      (behind result (toInt_of_exactly succeeded)).mp later⟩
  · rintro ⟨fits, holds⟩
    obtain ⟨result, succeeded, isExact⟩ := exists_of_fits cause fits
    exact ⟨result, succeeded, (behind result isExact).mpr holds⟩

theorem succeeds_exactly_map {β : Type} {cause : Overflow} {exact : Int}
    {read : Coordinate → β} :
    Succeeds (exactly cause exact >>= fun result => pure (read result)) ↔ Fits exact :=
  (succeeds_exactly_bind fun _ _ => iff_of_true (succeeds_ok _) trivial).trans
    (iff_of_eq (and_true _))

end Coordinate

namespace Layout

open Coordinate

variable {rect client visible : Rect} {start stop : Coordinate}

/-! ## Padding -/

theorem succeeds_paddedEnd_iff : Succeeds (paddedEnd start stop) ↔ Fits (start.toInt + 2) := by
  have two : Succeeds (Coordinate.add start 2) ↔ Fits (start.toInt + 2) := succeeds_exactly_iff
  have steps : Succeeds (paddedEnd start stop) ↔
      Fits (start.toInt + 1) ∧ (stop.toInt ≤ start.toInt + 1 → Fits (start.toInt + 2)) := by
    refine succeeds_exactly_bind fun least isExact => ?_
    have isNext : least.toInt = start.toInt + 1 := isExact
    rw [← isNext, ← Int32.le_iff_toInt_le, ← two]
    by_cases short : stop ≤ least
    · simp [short]
    · simp [short, Succeeds, pure_eq_ok]
  have startRange := fits_toInt start
  have stopRange := fits_toInt stop
  rw [steps]
  unfold Fits at startRange stopRange ⊢
  constructor
  · rintro ⟨one, wide⟩
    by_cases short : stop.toInt ≤ start.toInt + 1
    · exact wide short
    · omega
  · exact fun wide => ⟨by omega, fun _ => wide⟩

/-- Padding succeeds if two units fit behind the near corner on both axes. -/
theorem succeeds_padded_iff :
    Succeeds (padded rect) ↔ Fits (rect.left.toInt + 2) ∧ Fits (rect.top.toInt + 2) := by
  have horizontal : Succeeds (paddedEnd rect.left rect.right) ↔ _ := succeeds_paddedEnd_iff
  have vertical : Succeeds (paddedEnd rect.top rect.bottom) ↔ _ := succeeds_paddedEnd_iff
  rw [← horizontal, ← vertical]
  constructor
  · rintro ⟨result, succeeded⟩
    obtain ⟨right, isRight, rest⟩ := bind_eq_ok.mp succeeded
    obtain ⟨bottom, isBottom, -⟩ := bind_eq_ok.mp rest
    exact ⟨⟨right, isRight⟩, bottom, isBottom⟩
  · rintro ⟨⟨right, isRight⟩, bottom, isBottom⟩
    exact ⟨{ rect with right, bottom },
      bind_eq_ok.mpr ⟨right, isRight, bind_eq_ok.mpr ⟨bottom, isBottom, rfl⟩⟩⟩

/-- A padded extent has at least two units. -/
theorem paddedEnd_eq_ok {far : Coordinate} (computed : paddedEnd start stop = .ok far) :
    start.toInt + 2 ≤ far.toInt := by
  unfold paddedEnd at computed
  obtain ⟨least, isLeast, rest⟩ := bind_eq_ok.mp computed
  have isNext : least.toInt = start.toInt + 1 := toInt_of_exactly isLeast
  split at rest
  · have isFar : far.toInt = start.toInt + 2 := toInt_of_exactly rest
    omega
  · next wide =>
      cases pure_eq_ok.mp rest
      rw [Int32.le_iff_toInt_le] at wide
      omega

/-- The footprint of one unit that starts a rendering is no padded footprint. -/
theorem padded_ne_kickoff : padded rect ≠ .ok kickoff := by
  intro computed
  obtain ⟨right, isRight, rest⟩ := bind_eq_ok.mp computed
  obtain ⟨bottom, -, rest⟩ := bind_eq_ok.mp rest
  have isKickoff := pure_eq_ok.mp rest
  have left : rect.left = 0 := congrArg Rect.left isKickoff
  have unit : right = 1 := congrArg Rect.right isKickoff
  have wide := paddedEnd_eq_ok isRight
  rw [left, unit] at wide
  exact absurd wide (by decide)

/-! ## The client area -/

theorem succeeds_offset_iff {dx dy : Coordinate} :
    Succeeds (rect.offset dx dy) ↔
      Fits (rect.left.toInt + dx.toInt) ∧ Fits (rect.top.toInt + dy.toInt) ∧
        Fits (rect.right.toInt + dx.toInt) ∧ Fits (rect.bottom.toInt + dy.toInt) :=
  succeeds_exactly_bind fun _ _ => succeeds_exactly_bind fun _ _ =>
    succeeds_exactly_bind fun _ _ => succeeds_exactly_map

theorem succeeds_clientArea_iff :
    Succeeds (clientArea client visible) ↔
      Fits (-visible.left.toInt) ∧ Fits (-visible.top.toInt) ∧
        Fits (client.left.toInt - visible.left.toInt) ∧
        Fits (client.top.toInt - visible.top.toInt) ∧
        Fits (client.right.toInt - visible.left.toInt) ∧
        Fits (client.bottom.toInt - visible.top.toInt) := by
  refine succeeds_exactly_bind fun dx isDx => succeeds_exactly_bind fun dy isDy => ?_
  rw [succeeds_offset_iff, isDx, isDy]
  rfl

theorem offset_eq_ok {dx dy : Coordinate} {moved : Rect}
    (computed : rect.offset dx dy = .ok moved) :
    moved.left.toInt = rect.left.toInt + dx.toInt ∧
      moved.top.toInt = rect.top.toInt + dy.toInt := by
  obtain ⟨left, isLeft, rest⟩ := bind_eq_ok.mp computed
  obtain ⟨top, isTop, rest⟩ := bind_eq_ok.mp rest
  obtain ⟨right, -, rest⟩ := bind_eq_ok.mp rest
  obtain ⟨bottom, -, rest⟩ := bind_eq_ok.mp rest
  cases rest
  exact ⟨toInt_of_exactly isLeft, toInt_of_exactly isTop⟩

/-- The near corner of the client area, seen from the visible origin. -/
theorem clientArea_eq_ok {area : Rect} (computed : clientArea client visible = .ok area) :
    area.left.toInt = client.left.toInt - visible.left.toInt ∧
      area.top.toInt = client.top.toInt - visible.top.toInt := by
  obtain ⟨dx, isDx, rest⟩ := bind_eq_ok.mp computed
  obtain ⟨dy, isDy, rest⟩ := bind_eq_ok.mp rest
  obtain ⟨left, top⟩ := offset_eq_ok rest
  rw [left, top, toInt_of_exactly isDx, toInt_of_exactly isDy]
  exact ⟨rfl, rfl⟩

/-- On one axis, a client extent can be seen from the visible origin and be given a footprint. -/
structure ClientFits (start stop origin : Coordinate) : Prop where
  seen : Fits (-origin.toInt)
  near : Fits (start.toInt - origin.toInt)
  footprint : Fits (start.toInt - origin.toInt + 2)
  far : Fits (stop.toInt - origin.toInt)

instance (start stop origin : Coordinate) : Decidable (ClientFits start stop origin) :=
  decidable_of_iff
    (Fits (-origin.toInt) ∧ Fits (start.toInt - origin.toInt) ∧
      Fits (start.toInt - origin.toInt + 2) ∧ Fits (stop.toInt - origin.toInt))
    ⟨fun ⟨seen, near, footprint, far⟩ => ⟨seen, near, footprint, far⟩,
      fun ⟨seen, near, footprint, far⟩ => ⟨seen, near, footprint, far⟩⟩

/-- The footprint of a client container succeeds axis by axis. -/
theorem succeeds_clientFootprint_iff :
    Succeeds (clientArea client visible >>= padded) ↔
      ClientFits client.left client.right visible.left ∧
        ClientFits client.top client.bottom visible.top := by
  rw [succeeds_bind]
  constructor
  · rintro ⟨area, computed, footprint⟩
    obtain ⟨left, top⟩ := clientArea_eq_ok computed
    obtain ⟨dx, dy, nearX, nearY, farX, farY⟩ := succeeds_clientArea_iff.mp ⟨area, computed⟩
    rw [succeeds_padded_iff, left, top] at footprint
    exact ⟨⟨dx, nearX, footprint.1, farX⟩, dy, nearY, footprint.2, farY⟩
  · rintro ⟨horizontal, vertical⟩
    obtain ⟨area, computed⟩ := succeeds_clientArea_iff.mpr ⟨horizontal.seen, vertical.seen,
      horizontal.near, vertical.near, horizontal.far, vertical.far⟩
    obtain ⟨left, top⟩ := clientArea_eq_ok computed
    refine ⟨area, computed, succeeds_padded_iff.mpr ?_⟩
    rw [left, top]
    exact ⟨horizontal.footprint, vertical.footprint⟩

/-! ## Parking -/

/-- On one axis, an extent can be parked in front of the desktop, with a pixel left on it. -/
structure ParkingFits (start stop : Coordinate) : Prop where
  parked : Fits (start.toInt - stop.toInt)
  footprint : Fits (start.toInt - stop.toInt + 3)

instance (start stop : Coordinate) : Decidable (ParkingFits start stop) :=
  decidable_of_iff
    (Fits (start.toInt - stop.toInt) ∧ Fits (start.toInt - stop.toInt + 3))
    ⟨fun ⟨parked, footprint⟩ => ⟨parked, footprint⟩, fun ⟨parked, footprint⟩ => ⟨parked, footprint⟩⟩

theorem succeeds_offscreen_iff :
    Succeeds (offscreen visible true) ↔
      ParkingFits visible.left visible.right ∧ ParkingFits visible.top visible.bottom := by
  have steps : Succeeds (offscreen visible true) ↔
      Fits (visible.left.toInt - visible.right.toInt) ∧
        Fits (visible.top.toInt - visible.bottom.toInt) ∧
        Fits (visible.left.toInt - visible.right.toInt + 1) ∧
        Fits (visible.top.toInt - visible.bottom.toInt + 1) ∧
        Fits (visible.left.toInt - visible.right.toInt + 1 + 2) ∧
        Fits (visible.top.toInt - visible.bottom.toInt + 1 + 2) := by
    refine succeeds_exactly_bind fun left isLeft => succeeds_exactly_bind fun top isTop => ?_
    rw [← isLeft, ← isTop]
    refine succeeds_exactly_bind fun left isLeft => succeeds_exactly_bind fun top isTop => ?_
    rw [succeeds_padded_iff, isLeft, isTop]
    rfl
  rw [steps]
  unfold Fits
  constructor
  · rintro ⟨left, top, -, -, wide, high⟩
    exact ⟨⟨left, by unfold Fits; omega⟩, top, by unfold Fits; omega⟩
  · rintro ⟨⟨left, wide⟩, top, high⟩
    unfold Fits at left wide top high
    omega

/-- A window that can be parked with a pixel on the desktop can be parked without one. -/
theorem succeeds_offscreen_of_keepPixel (parked : Succeeds (offscreen visible true))
    (keepPixel : Bool) : Succeeds (offscreen visible keepPixel) := by
  cases keepPixel with
  | true => exact parked
  | false =>
      obtain ⟨left, isLeft, rest⟩ := succeeds_bind.mp parked
      obtain ⟨top, isTop, -⟩ := succeeds_bind.mp rest
      exact ⟨⟨left, top, 0, 0⟩, bind_eq_ok.mpr ⟨left, isLeft, bind_eq_ok.mpr ⟨top, isTop, rfl⟩⟩⟩

/-! ## All layouts of a window -/

/-- Rectangles of a window that can be laid out wherever it stands. Only a hidden window is
parked. -/
structure Placeable (client visible : Rect) (shown : Bool) : Prop where
  horizontal : ClientFits client.left client.right visible.left
  vertical : ClientFits client.top client.bottom visible.top
  wide : Fits (visible.left.toInt + 2)
  high : Fits (visible.top.toInt + 2)
  parked : shown = false →
    ParkingFits visible.left visible.right ∧ ParkingFits visible.top visible.bottom

instance (client visible : Rect) (shown : Bool) : Decidable (Placeable client visible shown) :=
  decidable_of_iff
    (ClientFits client.left client.right visible.left ∧
      ClientFits client.top client.bottom visible.top ∧ Fits (visible.left.toInt + 2) ∧
      Fits (visible.top.toInt + 2) ∧
      (shown = false →
        ParkingFits visible.left visible.right ∧ ParkingFits visible.top visible.bottom))
    ⟨fun ⟨horizontal, vertical, wide, high, parked⟩ => ⟨horizontal, vertical, wide, high, parked⟩,
      fun ⟨horizontal, vertical, wide, high, parked⟩ => ⟨horizontal, vertical, wide, high, parked⟩⟩

/-- Rectangles are placeable exactly if each layout of their window succeeds. -/
theorem placeable_iff {shown : Bool} :
    Placeable client visible shown ↔ Succeeds (clientArea client visible >>= padded) ∧
      Succeeds (padded visible) ∧ (shown = false → Succeeds (offscreen visible true)) := by
  rw [succeeds_clientFootprint_iff, succeeds_padded_iff, succeeds_offscreen_iff]
  constructor
  · rintro ⟨horizontal, vertical, wide, high, parked⟩
    exact ⟨⟨horizontal, vertical⟩, ⟨wide, high⟩, parked⟩
  · rintro ⟨⟨horizontal, vertical⟩, ⟨wide, high⟩, parked⟩
    exact ⟨horizontal, vertical, wide, high, parked⟩

theorem placeable_zero (shown : Bool) : Placeable Rect.zero Rect.zero shown := by
  cases shown <;> decide

end Layout

end WindowRelay
