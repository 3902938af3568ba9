import WindowRelay.Proofs.Stacking.Arrangement

/-!
Contract: parent links and child lists that describe one forest.

Owns:
- the chain of parents above a window, and that it never comes back to where it started;
- agreement of parent links with child lists;
- what keeps that agreement: a window that moves under another parent, or away from its parent,
  and a child list that is put in another order.

Nothing here mentions nodes: links are a function to an optional parent and a function to a list
of children.
-/

namespace WindowRelay

/-- The chain of parents above a window, nearest first; the last one has no parent. -/
inductive Ascent (parent? : WindowId → Option WindowId) : WindowId → List WindowId → Prop where
  | root {id : WindowId} (parentless : parent? id = none) : Ascent parent? id []
  | step {id parent : WindowId} {rest : List WindowId} (link : parent? id = some parent)
      (above : Ascent parent? parent rest) : Ascent parent? id (parent :: rest)

namespace Ascent

variable {parent? next? : WindowId → Option WindowId} {id : WindowId} {chain : List WindowId}

theorem unique {other : List WindowId} (ascent : Ascent parent? id chain)
    (otherAscent : Ascent parent? id other) : chain = other := by
  induction ascent generalizing other with
  | root parentless =>
      cases otherAscent with
      | root => rfl
      | step link _ => rw [parentless] at link; cases link
  | @step id parent rest link above inductionHypothesis =>
      cases otherAscent with
      | root parentless => rw [parentless] at link; cases link
      | @step _ otherParent otherRest otherLink otherAbove =>
          have same : parent = otherParent := Option.some.inj (link.symm.trans otherLink)
          subst same
          rw [inductionHypothesis otherAbove]

/-- Above a window of the chain stands a shorter chain. -/
theorem exists_shorter_of_mem {member : WindowId} (ascent : Ascent parent? id chain)
    (isMember : member ∈ chain) :
    ∃ rest, Ascent parent? member rest ∧ rest.length < chain.length := by
  induction ascent with
  | root => simp at isMember
  | @step id parent rest link above inductionHypothesis =>
      rcases List.mem_cons.mp isMember with isParent | inRest
      · subst isParent
        exact ⟨rest, above, by simp⟩
      · obtain ⟨shorter, fromMember, shorterLength⟩ := inductionHypothesis inRest
        exact ⟨shorter, fromMember, by simp only [List.length_cons]; omega⟩

/-- A chain that ends passes each window once. -/
theorem nodup (ascent : Ascent parent? id chain) : (id :: chain).Nodup := by
  induction ascent with
  | root => simp
  | @step id parent rest link above inductionHypothesis =>
      refine List.nodup_cons.mpr ⟨fun isAbove => ?_, inductionHypothesis⟩
      have whole : Ascent parent? id (parent :: rest) := .step link above
      obtain ⟨shorter, again, shorterLength⟩ := whole.exists_shorter_of_mem isAbove
      rw [whole.unique again] at shorterLength
      exact Nat.lt_irrefl _ shorterLength

/-- Every window of the chain is the parent of some window. -/
theorem exists_child_of_mem {member : WindowId} (ascent : Ascent parent? id chain)
    (isMember : member ∈ chain) : ∃ child, parent? child = some member := by
  induction ascent with
  | root => simp at isMember
  | @step id parent rest link above inductionHypothesis =>
      rcases List.mem_cons.mp isMember with isParent | inRest
      · exact ⟨id, isParent ▸ link⟩
      · exact inductionHypothesis inRest

/-- Above a window of the chain stands its parent. -/
theorem parent_mem {window parent : WindowId} (ascent : Ascent parent? id chain)
    (link : parent? window = some parent) (isMember : window ∈ chain) : parent ∈ chain := by
  induction ascent with
  | root => cases isMember
  | @step id above rest otherLink ascent inductionHypothesis =>
      rcases List.mem_cons.mp isMember with isWindow | inRest
      · subst isWindow
        cases ascent with
        | root parentless => rw [parentless] at link; cases link
        | @step _ next _ nextLink _ =>
            have same : next = parent := Option.some.inj (nextLink.symm.trans link)
            simp [same]
      · exact List.mem_cons_of_mem _ (inductionHypothesis inRest)

theorem parent_mem_of_mem_cons {window parent : WindowId} (ascent : Ascent parent? id chain)
    (link : parent? window = some parent) (isMember : window ∈ id :: chain) : parent ∈ chain := by
  rcases List.mem_cons.mp isMember with isWindow | inChain
  · subst isWindow
    cases ascent with
    | root parentless => rw [parentless] at link; cases link
    | @step _ next _ nextLink _ =>
        have same : next = parent := Option.some.inj (nextLink.symm.trans link)
        simp [same]
  · exact ascent.parent_mem link inChain

/-- Of a window and the windows above it, no two have the same parent. -/
theorem eq_of_same_parent {first second parent : WindowId} (ascent : Ascent parent? id chain)
    (firstMember : first ∈ id :: chain) (secondMember : second ∈ id :: chain)
    (firstLink : parent? first = some parent) (secondLink : parent? second = some parent) :
    first = second := by
  induction ascent with
  | root =>
      rw [List.mem_singleton] at firstMember secondMember
      exact firstMember.trans secondMember.symm
  | @step id above rest link ascent inductionHypothesis =>
      -- A window further up that had the parent of `id` as its own would stand above itself.
      have noneAbove : ∀ other ∈ above :: rest, parent? other ≠ some above :=
        fun other member otherLink =>
          (List.nodup_cons.mp ascent.nodup).1 (ascent.parent_mem_of_mem_cons otherLink member)
      rcases List.mem_cons.mp firstMember with firstIs | firstAbove <;>
        rcases List.mem_cons.mp secondMember with secondIs | secondAbove
      · exact firstIs.trans secondIs.symm
      · exact absurd (secondLink.trans (firstLink.symm.trans (firstIs ▸ link)))
          (noneAbove second secondAbove)
      · exact absurd (firstLink.trans (secondLink.symm.trans (secondIs ▸ link)))
          (noneAbove first firstAbove)
      · exact inductionHypothesis firstAbove secondAbove

/-- A chain that does not pass a window does not depend on the link of that window. -/
theorem avoiding {moved : WindowId} (ascent : Ascent parent? id chain)
    (agree : ∀ other, other ≠ moved → next? other = parent? other)
    (avoids : moved ∉ id :: chain) : Ascent next? id chain := by
  induction ascent with
  | @root id parentless =>
      have different : id ≠ moved := fun same => avoids (by simp [same])
      exact .root ((agree id different).trans parentless)
  | @step id parent rest link above inductionHypothesis =>
      have different : id ≠ moved := fun same => avoids (by simp [same])
      have avoidsAbove : moved ∉ parent :: rest := fun member =>
        avoids (List.mem_cons_of_mem id member)
      exact .step ((agree id different).trans link) (inductionHypothesis avoidsAbove)

/-- Once the link of one window has changed, every chain still ends if the chain of that window
does. -/
theorem rejoining {moved : WindowId} (ascent : Ascent parent? id chain)
    (agree : ∀ other, other ≠ moved → next? other = parent? other)
    (movedEnds : ∃ rest, Ascent next? moved rest) : ∃ rest, Ascent next? id rest := by
  induction ascent with
  | @root id parentless =>
      by_cases isMoved : id = moved
      · exact isMoved ▸ movedEnds
      · exact ⟨[], .root ((agree id isMoved).trans parentless)⟩
  | @step id parent rest link above inductionHypothesis =>
      by_cases isMoved : id = moved
      · exact isMoved ▸ movedEnds
      · obtain ⟨newRest, newAbove⟩ := inductionHypothesis
        exact ⟨parent :: newRest, .step ((agree id isMoved).trans link) newAbove⟩

end Ascent

/-- Parent links and child lists say the same, every child is listed once, and no chain of parents
goes on for ever. -/
structure Links (parent? : WindowId → Option WindowId) (children : WindowId → List WindowId) :
    Prop where
  linked : ∀ id parent, parent? id = some parent ↔ id ∈ children parent
  distinct : ∀ parent, (children parent).Nodup
  rooted : ∀ id, ∃ chain, Ascent parent? id chain

namespace Links

variable {parent? next? : WindowId → Option WindowId}
  {children nextChildren : WindowId → List WindowId}

theorem not_mem_children_of_root (links : Links parent? children) {id : WindowId}
    (parentless : parent? id = none) (parent : WindowId) : id ∉ children parent := by
  intro member
  have link := (links.linked id parent).mpr member
  rw [parentless] at link
  cases link

theorem not_mem_children_of_ne (links : Links parent? children) {id parent other : WindowId}
    (link : parent? id = some parent) (different : other ≠ parent) : id ∉ children other := by
  intro member
  have otherLink := (links.linked id other).mpr member
  rw [link] at otherLink
  exact different (Option.some.inj otherLink).symm

/-- One window leaves its parent, if it has one, and becomes the last child of `target`, if there
is one. The new parent must not stand on a chain that passes the window. -/
theorem relink (links : Links parent? children) {id : WindowId} {target : Option WindowId}
    (parents : ∀ other, next? other = if other = id then target else parent? other)
    (lists : ∀ parent, nextChildren parent =
      Stacking.without (children parent) id ++ if target = some parent then [id] else [])
    (above : ∀ parent, target = some parent →
      ∃ chain, Ascent parent? parent chain ∧ id ∉ parent :: chain) :
    Links next? nextChildren := by
  have agree : ∀ other, other ≠ id → next? other = parent? other := fun other different => by
    rw [parents, if_neg different]
  have ownLink : next? id = target := by rw [parents, if_pos rfl]
  -- The new parent stands on a chain that does not pass `id`, so that chain is still there.
  have ownEnds : ∃ rest, Ascent next? id rest := by
    cases isTarget : target with
    | none => exact ⟨[], .root (ownLink.trans isTarget)⟩
    | some parent =>
        obtain ⟨chain, ascent, avoids⟩ := above parent isTarget
        exact ⟨parent :: chain, .step (ownLink.trans isTarget) (ascent.avoiding agree avoids)⟩
  refine ⟨fun other parent => ?_, fun parent => ?_, fun other => ?_⟩
  · rw [parents, lists, List.mem_append, Stacking.mem_without, ← links.linked]
    by_cases isMoved : other = id
    · subst isMoved
      by_cases isParent : target = some parent <;> simp [isParent]
    · by_cases isParent : target = some parent <;> simp [isMoved, isParent]
  · rw [lists]
    by_cases isParent : target = some parent
    · rw [if_pos isParent]
      refine List.nodup_append.mpr
        ⟨Stacking.nodup_without id (links.distinct parent), List.nodup_singleton id, ?_⟩
      intro left leftMember right rightMember
      rw [List.mem_singleton] at rightMember
      exact rightMember ▸ (Stacking.mem_without.mp leftMember).2
    · rw [if_neg isParent, List.append_nil]
      exact Stacking.nodup_without id (links.distinct parent)
  · obtain ⟨chain, ascent⟩ := links.rooted other
    exact ascent.rejoining agree ownEnds

/-- Child lists may be put in another order. -/
theorem reorder (links : Links parent? children)
    (sameMembers : ∀ parent, (nextChildren parent).Perm (children parent)) :
    Links parent? nextChildren where
  linked id parent := (links.linked id parent).trans (sameMembers parent).mem_iff.symm
  distinct parent := (sameMembers parent).nodup_iff.mpr (links.distinct parent)
  rooted := links.rooted

end Links

end WindowRelay
