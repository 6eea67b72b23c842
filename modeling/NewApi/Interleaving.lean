import NewApi.Runs

/-!
Threads over a shared state. A thread is a program counter with its local data; one
event resumes one thread for one atomic step, or is a move of the environment, which
may also start threads. An invariant of all interleavings is a condition on the shared
state together with a condition on each thread, kept by the thread that runs and by
the others.
-/

namespace NewApi.Interleaving

open Runs

structure State (Shared Thread : Type) where
  shared : Shared
  running : List Thread
  deriving DecidableEq

inductive Event (Thread Move : Type) where
  | resume (thread : Thread)
  | environment (move : Move)
  deriving DecidableEq

structure Program (Shared Thread Move : Type) where
  -- `none` when the thread has returned.
  resume : Shared → Thread → Shared × Option Thread
  environment : Shared → Move → Shared × List Thread

variable {Shared Thread Move : Type} [DecidableEq Thread]

/-- Resuming a thread that is not running does nothing. -/
def step (program : Program Shared Thread Move) (state : State Shared Thread) :
    Event Thread Move → State Shared Thread
  | .resume thread =>
    if thread ∈ state.running then
      { shared := (program.resume state.shared thread).1
        running :=
          (program.resume state.shared thread).2.toList ++ state.running.erase thread }
    else state
  | .environment move =>
    { shared := (program.environment state.shared move).1
      running := (program.environment state.shared move).2 ++ state.running }

/-- The events of a schedule that names a thread by its place. A thread that was resumed or started
is the first one. -/
def schedule (program : Program Shared Thread Move) :
    State Shared Thread → List (Nat ⊕ Move) → List (Event Thread Move)
  | _, [] => []
  | state, .inl place :: rest =>
    match state.running[place]? with
    | some thread => .resume thread :: schedule program (step program state (.resume thread)) rest
    | none => schedule program state rest
  | state, .inr move :: rest =>
    .environment move :: schedule program (step program state (.environment move)) rest

/-- The obligations of an invariant: `good` is about the shared state, `fits` about a thread. -/
structure Preserved (program : Program Shared Thread Move)
    (allowed : Shared → Event Thread Move → Prop) (good : Shared → Prop)
    (fits : Shared → Thread → Prop) : Prop where
  resume_good : ∀ {shared thread}, allowed shared (.resume thread) → good shared →
    fits shared thread → good (program.resume shared thread).1
  resume_self : ∀ {shared thread next}, allowed shared (.resume thread) → good shared →
    fits shared thread → (program.resume shared thread).2 = some next →
    fits (program.resume shared thread).1 next
  resume_other : ∀ {shared thread other}, allowed shared (.resume thread) → good shared →
    fits shared thread → fits shared other → fits (program.resume shared thread).1 other
  environment_good : ∀ {shared move}, allowed shared (.environment move) → good shared →
    good (program.environment shared move).1
  environment_new : ∀ {shared move thread}, allowed shared (.environment move) → good shared →
    thread ∈ (program.environment shared move).2 →
    fits (program.environment shared move).1 thread
  environment_other : ∀ {shared move other}, allowed shared (.environment move) → good shared →
    fits shared other → fits (program.environment shared move).1 other

def Holds (good : Shared → Prop) (fits : Shared → Thread → Prop)
    (state : State Shared Thread) : Prop :=
  good state.shared ∧ ∀ thread ∈ state.running, fits state.shared thread

variable {fits : Shared → Thread → Prop} {program : Program Shared Thread Move}
  {good : Shared → Prop} {allowed : Shared → Event Thread Move → Prop}

theorem Preserved.holds_step (preserved : Preserved program allowed good fits)
    (state : State Shared Thread) (event : Event Thread Move)
    (permitted : allowed state.shared event) (holds : Holds good fits state) :
    Holds good fits (step program state event) := by
  rcases holds with ⟨shared, threads⟩
  cases event with
  | resume thread =>
    by_cases member : thread ∈ state.running
    · have own := threads thread member
      simp only [step, member, if_true]
      refine ⟨preserved.resume_good permitted shared own, ?_⟩
      intro other present
      simp only [List.mem_append, Option.mem_toList] at present
      rcases present with next | kept
      · exact preserved.resume_self permitted shared own next
      · exact preserved.resume_other permitted shared own
          (threads other (List.mem_of_mem_erase kept))
    · simp only [step, member, if_false]
      exact ⟨shared, threads⟩
  | environment move =>
    refine ⟨preserved.environment_good permitted shared, ?_⟩
    intro other present
    simp only [step, List.mem_append] at present
    rcases present with new | kept
    · exact preserved.environment_new permitted shared new
    · exact preserved.environment_other permitted shared (threads other kept)

/-- An invariant with these obligations holds in every state of a run of allowed steps. -/
theorem Preserved.holds_run (preserved : Preserved program allowed good fits)
    (state : State Shared Thread) (events : List (Event Thread Move))
    (steps : AllSteps (step program) (fun state => allowed state.shared) state events)
    (initial : Holds good fits state) : Holds good fits (run (step program) state events) :=
  run_invariant preserved.holds_step state events steps initial

end NewApi.Interleaving
