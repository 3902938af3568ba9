import Mathlib.Data.List.Induction

/-!
Contract: what was opened in a run and not closed since.

Owns:
- the past of a run, told by the states between its events;
- one event more: something is open afterwards if this event opens it, or if it was open and this
  event does not close it;
- a property of states that every event opens or closes in this way holds exactly as long as it is
  open.

Nothing here mentions windows: a run is a list of events together with the state that it leads to.
-/

namespace WindowRelay

universe u v

variable {σ : Type u} {ε : Type v}

/-- Some event opened, and none has closed since. `after` relates the events so far to the state
that they lead to. -/
def Since (after : List ε → σ → Prop) (opens closes : σ → ε → Prop) (events : List ε) : Prop :=
  ∃ earlier opening later state, events = earlier ++ opening :: later ∧ after earlier state ∧
    opens state opening ∧
    ∀ before closing rest between, later = before ++ closing :: rest →
      after (earlier ++ opening :: before) between → ¬ closes between closing

namespace Since

variable {after : List ε → σ → Prop} {opens closes : σ → ε → Prop} {events : List ε} {event : ε}
  {state : σ}

theorem not_nil : ¬ Since after opens closes [] := by
  rintro ⟨earlier, opening, later, state, split, -⟩
  simp at split

/-- A list with one more element, split at some element: it is the new one or one of the others. -/
private theorem split_concat {earlier later : List ε} {opening : ε}
    (split : events ++ [event] = earlier ++ opening :: later) :
    (earlier = events ∧ opening = event ∧ later = []) ∨
      ∃ before, later = before ++ [event] ∧ events = earlier ++ opening :: before := by
  rcases List.eq_nil_or_concat later with rfl | ⟨before, last, rfl⟩
  · obtain ⟨same, lastIs⟩ := List.append_inj' split rfl
    exact .inl ⟨same.symm, (List.cons.inj lastIs).1.symm, rfl⟩
  · rw [List.concat_eq_append, ← List.cons_append, ← List.append_assoc] at split
    obtain ⟨same, lastIs⟩ := List.append_inj' split rfl
    exact .inr ⟨before, by rw [(List.cons.inj lastIs).1, List.concat_eq_append], same⟩

theorem concat_iff (reached : after events state)
    (unique : ∀ other, after events other → other = state) :
    Since after opens closes (events ++ [event]) ↔
      opens state event ∨ (Since after opens closes events ∧ ¬ closes state event) := by
  constructor
  · rintro ⟨earlier, opening, later, begin, split, reachedBegin, opened, stays⟩
    rcases split_concat split with ⟨rfl, rfl, rfl⟩ | ⟨before, rfl, rfl⟩
    · exact .inl (unique begin reachedBegin ▸ opened)
    · refine .inr ⟨⟨earlier, opening, before, begin, rfl, reachedBegin, opened, ?_⟩,
        stays before event [] state rfl reached⟩
      rintro first closing rest between rfl
      exact stays first closing (rest ++ [event]) between (by simp)
  · rintro (opened | ⟨⟨earlier, opening, later, begin, rfl, reachedBegin, opened, stays⟩, stillOpen⟩)
    · refine ⟨events, event, [], state, rfl, reached, opened, ?_⟩
      intro before closing rest between nothing
      simp at nothing
    · refine ⟨earlier, opening, later ++ [event], begin, by simp, reachedBegin, opened, ?_⟩
      intro before closing rest between split reachedBetween
      rcases split_concat split with ⟨rfl, rfl, rfl⟩ | ⟨middle, rfl, rfl⟩
      · exact unique between reachedBetween ▸ stillOpen
      · exact stays before closing middle between rfl reachedBetween

/-- What no start has, and every event opens or closes, holds exactly as long as it is open. -/
theorem iff_holds (after : List ε → σ → Prop) (holds : σ → Prop)
    (start : ∀ state, after [] state → ¬ holds state)
    (step : ∀ events event next, after (events ++ [event]) next → ∃ state,
      after events state ∧ (∀ other, after events other → other = state) ∧
        (holds next ↔ opens state event ∨ (holds state ∧ ¬ closes state event)))
    (reached : after events state) : holds state ↔ Since after opens closes events := by
  induction events using List.reverseRecOn generalizing state with
  | nil => exact iff_of_false (start state reached) not_nil
  | append_singleton events event inductionHypothesis =>
      obtain ⟨former, reachedFormer, unique, law⟩ := step events event state reached
      rw [law, concat_iff reachedFormer unique, inductionHypothesis reachedFormer]

end Since

end WindowRelay
