import WindowRelay.Proofs.Wire.Record
import WindowRelay.Wire.Sample
import WindowRelay.Wire.Value

/-!
Contract: the values inside messages are read back as they are written.

Owns:
- rectangles, environment overrides, cursor requests, clips and key samples: each is settled, and
  decoded from what it is encoded as.
-/

namespace WindowRelay

namespace Environment

/-- A name behind all others is set at the end. -/
theorem insertSorted_last {name value : String} {entries : List (String × String)}
    (behind : ∀ entry ∈ entries, entry.1 < name) :
    insertSorted name value entries = entries ++ [(name, value)] := by
  induction entries with
  | nil => rfl
  | cons first rest inductionHypothesis =>
      have before : first.1 < name := behind first List.mem_cons_self
      rw [insertSorted, if_neg (String.lt_asymm before),
        if_neg fun same : name = first.1 => String.lt_irrefl name (same ▸ before),
        inductionHypothesis fun entry member => behind entry (List.mem_cons_of_mem _ member)]
      rfl

theorem eq_of_entries {first second : Environment} (same : first.entries = second.entries) :
    first = second := by
  cases first
  cases second
  cases same
  rfl

/-- Overrides are given by the list of their entries. -/
theorem ofList_entries (environment : Environment) : ofList environment.entries = environment := by
  have all : ∀ (later : List (String × String)) (before : Environment),
      (before.entries ++ later).Pairwise (fun left right => left.1 < right.1) →
      (later.foldl (fun environment pair => environment.insert pair.1 pair.2) before).entries =
        before.entries ++ later := by
    intro later
    induction later with
    | nil => exact fun before _ => (List.append_nil _).symm
    | cons entry rest inductionHypothesis =>
        intro before sorted
        have last : (before.insert entry.1 entry.2).entries = before.entries ++ [entry] :=
          insertSorted_last fun other member =>
            (List.pairwise_append.mp sorted).2.2 other member entry List.mem_cons_self
        have assoc : before.entries ++ [entry] ++ rest = before.entries ++ entry :: rest := by simp
        rw [List.foldl_cons, inductionHypothesis _ (by rw [last, assoc]; exact sorted), last, assoc]
  exact eq_of_entries (all environment.entries {} environment.sorted)

end Environment

namespace Wire

open Json

variable {depth : Nat}

/-! ## Rectangles -/

theorem settled_ofRect (depth : Nat) (rect : Rect) : Settled (depth + 1) (ofRect rect) :=
  settled_object (by simp)

@[simp]
theorem toRect?_ofRect (rect : Rect) : toRect? (ofRect rect) = some rect := by
  have fields : slots? rectNames (ofRect rect) = _ := slots?_object rfl (by decide)
  simp [toRect?, fields, Slot.required?]

/-! ## Environment overrides -/

theorem settled_ofEnvironment (depth : Nat) (environment : Environment) :
    Settled (depth + 1) (ofEnvironment environment) := by
  refine settled_object fun member isMember => ?_
  obtain ⟨entry, -, rfl⟩ := List.mem_map.mp isMember
  exact settled_string depth entry.2

theorem toEnvironment?_ofEnvironment (environment : Environment) :
    toEnvironment? (ofEnvironment environment) = some environment := by
  have entries : (environment.entries.map fun entry => (entry.1, Json.string entry.2)).mapM
      toEntry? = some environment.entries := mapM_map_eq_some fun _ _ => rfl
  rw [ofEnvironment, toEnvironment?, entries, Option.map_some, Environment.ofList_entries]

/-! ## Cursors -/

theorem settled_ofCursorRequest (depth : Nat) (cursor : CursorRequest) :
    Settled (depth + 2) (ofCursorRequest cursor) := by
  cases cursor with
  | stock id => exact settled_tagged (by simp)
  | bitmap width height hotspotX hotspotY pixels =>
      exact settled_tagged (by simp [settled_ofList])

@[simp]
theorem toCursorRequest?_ofCursorRequest (cursor : CursorRequest) :
    toCursorRequest? (ofCursorRequest cursor) = some cursor := by
  cases cursor with
  | stock id =>
      refine bind_untag?_tagged (by simp) (bind_variant?_string (by decide) ?_)
      exact bind_slots?_object rfl (by decide) (by simp [Slot.required?])
  | bitmap width height hotspotX hotspotY pixels =>
      refine bind_untag?_tagged (by simp) (bind_variant?_string (by decide) ?_)
      exact bind_slots?_object rfl (by decide) (by simp [Slot.required?, toList?_ofList])

/-! ## Clips -/

theorem settled_ofClipItem (depth : Nat) (item : ClipItem) :
    Settled (depth + 1) (ofClipItem item) :=
  settled_object (by simp [settled_ofOption])

theorem toClipItem?_ofClipItem (item : ClipItem) : toClipItem? (ofClipItem item) = some item :=
  bind_slots?_object rfl (by decide) (by simp [Slot.defaulted?])

theorem settled_ofClip (depth : Nat) (clip : Clip) : Settled (depth + 3) (ofClip clip) :=
  settled_object (by simp [settled_ofList, settled_ofClipItem])

@[simp]
theorem toClip?_ofClip (clip : Clip) : toClip? (ofClip clip) = some clip :=
  bind_slots?_object rfl (by decide)
    (by simp [Slot.required?, Slot.defaulted?, toList?_ofList, toClipItem?_ofClipItem])

/-! ## Key samples -/

theorem settled_ofKey (depth : Nat) (sample : KeySample) : Settled (depth + 1) (ofKey sample) :=
  settled_object (by simp [keyFields])

@[simp]
theorem toKey?_keyFields (sample : KeySample) :
    toKey? (.object (keyFields sample)) = some sample :=
  bind_slots?_object rfl (by decide) (by simp [keyFields, Slot.required?, Slot.defaulted?])

end Wire

end WindowRelay
