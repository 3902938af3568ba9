import WindowRelay.Tree.Change

/-!
Contract: what a successful outcome says about the work that led to it.

Owns:
- sequences, guards and lifted outcomes succeed exactly when each part does;
- success as a property of its own;
- work on an event that is not interrupted, whether it is done or refused;
- work on an event that is not refused, whether it is done or interrupted.
-/

namespace WindowRelay

universe u

variable {ε α β : Type u}

theorem bind_eq_ok {first : Except ε α} {next : α → Except ε β} {result : β} :
    (first >>= next) = .ok result ↔ ∃ value, first = .ok value ∧ next value = .ok result := by
  cases first with
  | error cause => simp [bind, Except.bind]
  | ok value => simp [bind, Except.bind]

theorem pure_eq_ok {value result : α} :
    (pure value : Except ε α) = .ok result ↔ value = result := by
  simp [pure, Except.pure]

theorem map_eq_ok {outcome : Except ε α} {read : α → β} {result : β} :
    outcome.map read = .ok result ↔ ∃ value, outcome = .ok value ∧ read value = result := by
  cases outcome with
  | error cause => simp [Except.map]
  | ok value => simp [Except.map]

theorem throw_ne_ok {cause : ε} {result : α} : (throw cause : Except ε α) ≠ .ok result := by
  simp [throw, throwThe, MonadExceptOf.throw]

/-! ## Work that succeeds -/

/-- The work gives a result. -/
def Succeeds (outcome : Except ε α) : Prop :=
  ∃ value, outcome = .ok value

theorem succeeds_ok (value : α) : Succeeds (.ok value : Except ε α) :=
  ⟨value, rfl⟩

theorem succeeds_bind {first : Except ε α} {next : α → Except ε β} :
    Succeeds (first >>= next) ↔ ∃ value, first = .ok value ∧ Succeeds (next value) := by
  unfold Succeeds
  simp only [bind_eq_ok]
  constructor
  · rintro ⟨result, value, succeeded, later⟩
    exact ⟨value, succeeded, result, later⟩
  · rintro ⟨value, succeeded, result, later⟩
    exact ⟨result, value, succeeded, later⟩

/-- Calls in front of arithmetic do not make it fail. -/
theorem succeeds_after {γ : Type} {calls : List Call} {outcome : Except Overflow γ}
    (succeeds : Succeeds outcome) : Succeeds (Interruption.after calls outcome) := by
  obtain ⟨value, succeeded⟩ := succeeds
  exact ⟨value, Interruption.after_eq_ok_iff.mpr succeeded⟩

section Lifted

variable {γ : Type} {value : γ}

/-- Another name for the cause of an error changes no success. -/
theorem mapError_eq_ok {ε ε' : Type} {outcome : Except ε γ} {rename : ε → ε'} :
    outcome.mapError rename = .ok value ↔ outcome = .ok value := by
  cases outcome with
  | error cause =>
      constructor
      · intro impossible
        cases impossible
      · intro impossible
        cases impossible
  | ok other =>
      constructor
      · intro same
        cases same
        rfl
      · intro same
        cases same
        rfl

/-- Arithmetic inside the work on an event. -/
theorem liftOverflow_eq_ok {outcome : Except Overflow γ} :
    (liftM outcome : Except Failure γ) = .ok value ↔ outcome = .ok value := by
  show (Interruption.after [] outcome).mapError Failure.interrupted = _ ↔ _
  rw [mapError_eq_ok, Interruption.after_eq_ok_iff]

/-- Arithmetic behind some calls inside the work on an event. -/
theorem liftInterruption_eq_ok {outcome : Except Interruption γ} :
    (liftM outcome : Except Failure γ) = .ok value ↔ outcome = .ok value :=
  mapError_eq_ok

/-- A question that may be refused inside the work on an event. -/
theorem liftRefusal_eq_ok {outcome : Except WindowError γ} :
    (liftM outcome : Except Failure γ) = .ok value ↔ outcome = .ok value :=
  mapError_eq_ok

end Lifted

/-! ## Work that is not interrupted -/

section Calm

variable {γ δ : Type}

/-- The work is done or refused; no layout leaves the coordinates. -/
def Calm (outcome : Except Failure γ) : Prop :=
  ∀ interruption, outcome ≠ .error (.interrupted interruption)

theorem calm_ok (value : γ) : Calm (.ok value) := fun _ => nofun

theorem calm_refused (error : WindowError) : Calm (.error (.refused error) : Except Failure γ) :=
  fun _ => nofun

theorem calm_bind_iff {first : Except Failure γ} {next : γ → Except Failure δ} :
    Calm (first >>= next) ↔ Calm first ∧ ∀ value, first = .ok value → Calm (next value) := by
  cases first with
  | ok value => simp [calm_ok, bind, Except.bind]
  | error cause =>
      have same : Calm (Except.error cause >>= next) ↔ Calm (.error cause : Except Failure γ) := by
        simp [Calm, bind, Except.bind]
      simp [same]

theorem calm_bind {first : Except Failure γ} {next : γ → Except Failure δ} (start : Calm first)
    (later : ∀ value, first = .ok value → Calm (next value)) : Calm (first >>= next) :=
  calm_bind_iff.mpr ⟨start, later⟩

theorem calm_of_succeeds {outcome : Except Failure γ} (succeeds : Succeeds outcome) :
    Calm outcome := by
  obtain ⟨value, rfl⟩ := succeeds
  exact calm_ok value

theorem calm_liftOverflow_iff {outcome : Except Overflow γ} :
    Calm (liftM outcome : Except Failure γ) ↔ Succeeds outcome := by
  cases outcome with
  | ok value => exact iff_of_true (calm_ok value) (succeeds_ok value)
  | error cause =>
      refine iff_of_false (fun calm => calm ⟨cause, []⟩ rfl) ?_
      rintro ⟨value, succeeded⟩
      cases succeeded

theorem calm_liftOverflow {outcome : Except Overflow γ} (succeeds : Succeeds outcome) :
    Calm (liftM outcome : Except Failure γ) :=
  calm_liftOverflow_iff.mpr succeeds

theorem calm_liftInterruption {outcome : Except Interruption γ} (succeeds : Succeeds outcome) :
    Calm (liftM outcome : Except Failure γ) := by
  obtain ⟨value, succeeded⟩ := succeeds
  exact calm_of_succeeds ⟨value, liftInterruption_eq_ok.mpr succeeded⟩

/-- A refusal is no interruption. -/
theorem calm_liftRefusal (outcome : Except WindowError γ) :
    Calm (liftM outcome : Except Failure γ) := by
  cases outcome with
  | ok value => exact calm_ok value
  | error error => exact calm_refused error

/-! ## Work that is not refused -/

/-- The work is done or interrupted. -/
def Granted (outcome : Except Failure γ) : Prop :=
  ∀ error, outcome ≠ .error (.refused error)

theorem granted_ok (value : γ) : Granted (.ok value) := fun _ => nofun

theorem granted_bind {first : Except Failure γ} {next : γ → Except Failure δ}
    (start : Granted first) (later : ∀ value, Granted (next value)) : Granted (first >>= next) := by
  intro error refused
  cases first with
  | ok value => exact later value error refused
  | error cause =>
      cases refused
      exact start error rfl

theorem granted_liftOverflow (outcome : Except Overflow γ) :
    Granted (liftM outcome : Except Failure γ) := by
  cases outcome <;> exact fun _ => nofun

theorem granted_liftInterruption (outcome : Except Interruption γ) :
    Granted (liftM outcome : Except Failure γ) := by
  cases outcome <;> exact fun _ => nofun

theorem granted_liftRefusal {outcome : Except WindowError γ} (succeeds : Succeeds outcome) :
    Granted (liftM outcome : Except Failure γ) := by
  obtain ⟨value, rfl⟩ := succeeds
  exact granted_ok value

end Calm

end WindowRelay
