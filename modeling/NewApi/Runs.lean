/-!
Runs of a total step function. A transaction that fails leaves its state
unchanged, so the step of a failed call is the identity and a run is a left
fold over the calls. `AllSteps` states a condition on every call of a run in
the state that call starts from.
-/

namespace NewApi.Runs

universe u v w

variable {State : Type u} {Call : Type v}

def run (step : State → Call → State) : State → List Call → State
  | state, [] => state
  | state, call :: rest => run step (step state call) rest

def AllSteps (step : State → Call → State) (allowed : State → Call → Prop) :
    State → List Call → Prop
  | _, [] => True
  | state, call :: rest => allowed state call ∧ AllSteps step allowed (step state call) rest

variable {step : State → Call → State} {allowed weaker : State → Call → Prop} {state left : State}
  {calls first second : List Call}

instance AllSteps.decidable [∀ state call, Decidable (allowed state call)] :
    (state : State) → (calls : List Call) → Decidable (AllSteps step allowed state calls)
  | _, [] => .isTrue trivial
  | state, call :: rest =>
    have : Decidable (AllSteps step allowed (step state call) rest) := AllSteps.decidable _ rest
    inferInstanceAs (Decidable (allowed state call ∧ AllSteps step allowed _ rest))

variable {Error : Type u}

/-- An invariant kept by every allowed step holds after every run of allowed steps. -/
theorem run_invariant {invariant : State → Prop}
    (kept : ∀ state call, allowed state call → invariant state → invariant (step state call))
    (state : State) (calls : List Call) (steps : AllSteps step allowed state calls)
    (initial : invariant state) : invariant (run step state calls) := by
  induction calls generalizing state with
  | nil => exact initial
  | cons call rest ih =>
    exact ih _ steps.2 (kept state call steps.1 initial)

theorem run_keeps {invariant : State → Prop}
    (kept : ∀ state call, invariant state → invariant (step state call))
    (state : State) (calls : List Call) (initial : invariant state) :
    invariant (run step state calls) := by
  induction calls generalizing state with
  | nil => exact initial
  | cons call rest ih =>
    exact ih _ (kept state call initial)

theorem run_climbs (relation : State → State → Prop) (same : ∀ state, relation state state)
    (trans : ∀ first second third, relation first second → relation second third →
      relation first third)
    (climbs : ∀ state call, relation state (step state call))
    (state : State) (calls : List Call) : relation state (run step state calls) := by
  induction calls generalizing state with
  | nil => exact same state
  | cons call rest ih => exact trans _ _ _ (climbs state call) (ih _)

theorem run_append (state : State) (first second : List Call) :
    run step state (first ++ second) = run step (run step state first) second := by
  induction first generalizing state with
  | nil => rfl
  | cons call rest ih => exact ih _

theorem AllSteps.of_append (steps : AllSteps step allowed state (first ++ second)) :
    AllSteps step allowed state first := by
  induction first generalizing state with
  | nil => trivial
  | cons call rest ih => exact ⟨steps.1, ih steps.2⟩

theorem AllSteps.of_append_right (steps : AllSteps step allowed state (first ++ second)) :
    AllSteps step allowed (run step state first) second := by
  induction first generalizing state with
  | nil => exact steps
  | cons call rest ih => exact ih steps.2

theorem AllSteps.imp (steps : AllSteps step allowed state calls)
    (implies : ∀ state call, allowed state call → weaker state call) :
    AllSteps step weaker state calls := by
  induction calls generalizing state with
  | nil => trivial
  | cons call rest ih => exact ⟨implies state call steps.1, ih steps.2⟩

/-- A condition on the calls alone holds at every step when it holds of every call. -/
theorem AllSteps.of_forall {allowed : Call → Prop} (each : ∀ call ∈ calls, allowed call) :
    AllSteps step (fun _ call => allowed call) state calls := by
  induction calls generalizing state with
  | nil => trivial
  | cons call rest ih =>
    rw [List.forall_mem_cons] at each
    exact ⟨each.1, ih each.2⟩

theorem run_related {Other : Type w} {other : Other → Call → Other} {related : State → Other → Prop}
    (kept : ∀ call ∈ calls, ∀ left right, related left right →
      related (step left call) (other right call)) {right : Other} (initial : related left right) :
    related (run step left calls) (run other right calls) := by
  induction calls generalizing left right with
  | nil => exact initial
  | cons call rest ih =>
    rw [List.forall_mem_cons] at kept
    exact ih kept.2 (kept.1 left right initial)

/-- Peels the first action off a transaction that committed. -/
theorem bind_ok {Value Result : Type u} {action : Except Error Value}
    {next : Value → Except Error Result} {result : Result} (done : (action >>= next) = .ok result) :
    ∃ value, action = .ok value ∧ next value = .ok result := by
  cases action with
  | error cause => cases done
  | ok value => exact ⟨value, rfl, done⟩

theorem map_ok {Value Result : Type u} {action : Except Error Value} {change : Value → Result}
    {result : Result} (done : action.map change = .ok result) :
    ∃ value, action = .ok value ∧ change value = result := by
  cases action with
  | error cause => cases done
  | ok value => exact ⟨value, rfl, Except.ok.inj done⟩

/-- Two transactions that fail alike or return related results. -/
inductive Agree {Error : Type u} {Left Right : Type v} (related : Left → Right → Prop) :
    Except Error Left → Except Error Right → Prop
  | error (cause : Error) : Agree related (.error cause) (.error cause)
  | ok {left : Left} {right : Right} (holds : related left right) :
      Agree related (.ok left) (.ok right)

theorem Agree.refl {Value : Type v} {related : Value → Value → Prop}
    (reflexive : ∀ value, related value value) (result : Except Error Value) :
    Agree related result result := by
  cases result with
  | error cause => exact .error cause
  | ok value => exact .ok (reflexive value)

theorem Agree.bind {Left Right Value Result : Type v} {related : Left → Right → Prop}
    {final : Value → Result → Prop} {first : Except Error Left} {second : Except Error Right}
    {left : Left → Except Error Value} {right : Right → Except Error Result}
    (agree : Agree related first second)
    (rest : ∀ one two, related one two → Agree final (left one) (right two)) :
    Agree final (first >>= left) (second >>= right) := by
  cases agree with
  | error cause => exact .error cause
  | ok holds => exact rest _ _ holds

end NewApi.Runs
