/-!
Contract: environment overrides that go along with a command.

Owns:
- a map from names to values, listed by name, in which the last value given for a name counts.

Names are ordered by their code points.
-/

namespace WindowRelay

/-- Environment overrides, sorted by name, each name once. -/
structure Environment where
  entries : List (String × String) := []
  sorted : entries.Pairwise (fun left right => left.1 < right.1) := by exact List.Pairwise.nil

namespace Environment

instance : DecidableEq Environment := fun left right =>
  if same : left.entries = right.entries then
    isTrue (by cases left; cases right; cases same; rfl)
  else isFalse fun equal => same (congrArg entries equal)

instance : Repr Environment :=
  ⟨fun environment precedence => reprPrec environment.entries precedence⟩

/-- Set a name in a sorted list. -/
def insertSorted (name value : String) : List (String × String) → List (String × String)
  | [] => [(name, value)]
  | (other, otherValue) :: rest =>
    if name < other then (name, value) :: (other, otherValue) :: rest
    else if name = other then (name, value) :: rest
    else (other, otherValue) :: insertSorted name value rest

private theorem mem_insertSorted {name value : String} {entries : List (String × String)}
    {entry : String × String} (member : entry ∈ insertSorted name value entries) :
    entry = (name, value) ∨ entry ∈ entries := by
  induction entries with
  | nil => simpa [insertSorted] using member
  | cons head tail inductionHypothesis =>
      unfold insertSorted at member
      split at member
      · simpa using member
      · split at member
        · rcases List.mem_cons.mp member with here | later
          · exact .inl here
          · exact .inr (List.mem_cons_of_mem _ later)
        · rcases List.mem_cons.mp member with here | later
          · exact .inr (here ▸ List.mem_cons_self)
          · rcases inductionHypothesis later with same | inTail
            · exact .inl same
            · exact .inr (List.mem_cons_of_mem _ inTail)

private theorem lt_of_not_lt_of_ne {left right : String} (notLess : ¬ left < right)
    (distinct : left ≠ right) : right < left := by
  have notGreater : right ≤ left := String.not_lt.mp notLess
  rcases Decidable.em (right < left) with less | notLess'
  · exact less
  · exact absurd (String.le_antisymm (String.not_lt.mp notLess') notGreater) distinct

private theorem pairwise_insertSorted {name value : String} {entries : List (String × String)}
    (sorted : entries.Pairwise (fun left right => left.1 < right.1)) :
    (insertSorted name value entries).Pairwise (fun left right => left.1 < right.1) := by
  induction entries with
  | nil => exact List.pairwise_singleton _ _
  | cons head tail inductionHypothesis =>
      obtain ⟨before, tailSorted⟩ := List.pairwise_cons.mp sorted
      unfold insertSorted
      split
      · next less =>
          refine List.pairwise_cons.mpr ⟨fun entry member => ?_, sorted⟩
          rcases List.mem_cons.mp member with here | later
          · exact here ▸ less
          · exact String.lt_trans less (before entry later)
      · next notLess =>
          split
          · next same =>
              refine List.pairwise_cons.mpr ⟨fun entry member => ?_, tailSorted⟩
              exact same ▸ before entry member
          · next distinct =>
              refine List.pairwise_cons.mpr
                ⟨fun entry member => ?_, inductionHypothesis tailSorted⟩
              rcases mem_insertSorted member with here | later
              · exact here ▸ lt_of_not_lt_of_ne notLess distinct
              · exact before entry later

/-- Set a name; a former value is replaced. -/
def insert (environment : Environment) (name value : String) : Environment where
  entries := insertSorted name value environment.entries
  sorted := pairwise_insertSorted environment.sorted

/-- The overrides given by a list of pairs. -/
def ofList (pairs : List (String × String)) : Environment :=
  pairs.foldl (fun environment pair => environment.insert pair.1 pair.2) {}

end Environment

end WindowRelay
