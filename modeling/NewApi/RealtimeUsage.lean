import NewApi.Runs
import Mathlib.Algebra.BigOperators.Group.List.Basic
import Mathlib.Algebra.Group.Pi.Basic
import Mathlib.Algebra.Order.Ring.Int

/-!
The usage of a realtime session (relay/channel/openai/relay_realtime.go). The tokens that
`CountTokenRealtime` finds in a message, and whether a reservation and a write succeed, come with
the message.
-/

namespace NewApi.RealtimeUsage

open Runs

inductive Counter where
  | totalTokens | inputTokens | outputTokens
  | inputText | inputAudio | inputImage | inputCached | inputCachedCreation | inputCacheWrite
  | outputText | outputAudio | outputImage | outputReasoning

abbrev Usage := Counter → Int

/-- The counters that the handler adds up. -/
def carried (usage : Usage) : Usage
  | .inputImage | .inputCachedCreation | .inputCacheWrite | .outputImage | .outputReasoning => 0
  | counter => usage counter

def inputEstimate (textToken audioToken : Nat) : Usage
  | .totalTokens | .inputTokens => textToken + audioToken
  | .inputText => textToken
  | .inputAudio => audioToken
  | _ => 0

def outputEstimate (textToken audioToken : Nat) : Usage
  | .totalTokens | .outputTokens => textToken + audioToken
  | .outputText => textToken
  | .outputAudio => audioToken
  | _ => 0

/-- `none` for the tokens is an error of the count. -/
inductive Message where
  | client (tokens : Option (Nat × Nat)) (written : Bool)
  | doneReported (usage : Usage) (reserved written : Bool)
  | doneUnreported (tokens : Option (Nat × Nat)) (reserved written : Bool)
  | session (written : Bool)
  | target (tokens : Option (Nat × Nat)) (written : Bool)
  -- No event, a `response.done` without a response, or the end of a reader or of the request.
  | stop

structure State where
  running : Bool := true
  usage : Usage := 0
  localUsage : Usage := 0
  sumUsage : Usage := 0

variable (state : State)

def consumeUsage : State :=
  { state with sumUsage := state.sumUsage + carried state.usage, usage := 0 }

def consumeLocal : State :=
  { state with sumUsage := state.sumUsage + carried state.localUsage, localUsage := 0 }

def addLocal (estimate : Usage) : State :=
  { state with localUsage := state.localUsage + estimate }

def handle : Message → State
  | .client (some (text, audio)) written =>
    { addLocal state (inputEstimate text audio) with running := written }
  | .doneReported usage reserved written =>
    { consumeUsage { state with usage := state.usage + carried usage, localUsage := 0 } with
      running := reserved && written }
  | .doneUnreported (some (text, audio)) reserved written =>
    { consumeLocal (addLocal state (inputEstimate text audio)) with
      running := reserved && written }
  | .session written => { state with running := written }
  | .target (some (text, audio)) written =>
    { addLocal state (outputEstimate text audio) with running := written }
  | .client none _ | .doneUnreported none _ _ | .target none _ | .stop =>
    { state with running := false }

def step (message : Message) : State :=
  if state.running then handle state message else state

/-- Both usages that are left are consumed after the loop. -/
def finish : Usage :=
  let state := if state.usage .totalTokens ≠ 0 then consumeUsage state else state
  let state := if state.localUsage .totalTokens ≠ 0 then consumeLocal state else state
  state.sumUsage

def openaiRealtimeHandler (messages : List Message) : Usage :=
  finish (run step {} messages)

inductive Counted where
  | estimate (usage : Usage)
  | doneReported (usage : Usage)
  | doneEstimate (usage : Usage)

def counted : Message → Option Counted
  | .client (some (text, audio)) _ => some (.estimate (inputEstimate text audio))
  | .doneReported usage _ _ => some (.doneReported usage)
  | .doneUnreported (some (text, audio)) _ _ => some (.doneEstimate (inputEstimate text audio))
  | .target (some (text, audio)) _ => some (.estimate (outputEstimate text audio))
  | _ => none

/-- The counted messages up to the one that ends the session. -/
def countedMessages : List Message → List Counted
  | [] => []
  | message :: rest =>
    (counted message).toList ++ if (handle {} message).running then countedMessages rest else []

/-- The local estimates of each segment and the usage that its end reports. -/
def segments : List Counted → List (List Usage × Option Usage)
  | [] => []
  | .estimate usage :: rest =>
    match segments rest with
    | [] => [([usage], none)]
    | (estimates, reported) :: more => (usage :: estimates, reported) :: more
  | .doneReported usage :: rest => ([], some usage) :: segments rest
  | .doneEstimate usage :: rest => ([usage], none) :: segments rest

def billed (items : List Counted) : Usage :=
  ((segments items).map fun segment => segment.2.getD segment.1.sum).sum

variable {items : List Counted} {second first usage localUsage : Usage}

theorem billed_estimate_zero :
    billed (.estimate 0 :: items) = billed items := by
  rw [billed, billed, segments]
  cases segments items with
  | nil => rfl
  | cons segment more => simp

theorem billed_estimates (first second : Usage) :
    billed (.estimate first :: .estimate second :: items) =
      billed (.estimate (first + second) :: items) := by
  simp only [billed, segments]
  cases segments items with
  | nil => simp
  | cons segment more => simp [add_assoc]

theorem billed_done (usage other : Usage) :
    billed (.estimate usage :: .doneReported other :: items) = other + billed items ∧
      billed (.estimate usage :: .doneEstimate other :: items) = usage + other + billed items := by
  simp [billed, segments]

theorem carried_zero : carried 0 = 0 := by
  funext counter
  cases counter <;> rfl

theorem carried_add (first second : Usage) :
    carried (first + second) = carried first + carried second := by
  funext counter
  cases counter <;> rfl

theorem carried_carried (usage : Usage) : carried (carried usage) = carried usage := by
  funext counter
  cases counter <;> rfl

/-- Every counter of an estimate is within its total. -/
def Estimate (usage : Usage) : Prop :=
  ∀ counter, 0 ≤ usage counter ∧ usage counter ≤ usage .totalTokens

theorem Estimate.add (one : Estimate first) (two : Estimate second) : Estimate (first + second) :=
  fun counter => ⟨add_nonneg (one counter).1 (two counter).1,
    add_le_add (one counter).2 (two counter).2⟩

theorem estimates (text audio : Nat) :
    Estimate (inputEstimate text audio) ∧ Estimate (outputEstimate text audio) := by
  constructor <;> intro counter <;> cases counter <;> simp [inputEstimate, outputEstimate] <;> omega

theorem Estimate.eq_zero (estimate : Estimate usage) (zero : usage .totalTokens = 0) : usage = 0 :=
  funext fun counter => le_antisymm ((estimate counter).2.trans_eq zero) (estimate counter).1

theorem finish_eq (running : Bool) (localUsage sumUsage : Usage) (estimate : Estimate localUsage) :
    finish { running, localUsage, sumUsage } = sumUsage + carried localUsage := by
  simp only [finish, Pi.zero_apply, ne_eq, not_true_eq_false, if_false]
  split
  · rfl
  · next zero =>
    rw [estimate.eq_zero (not_not.mp zero), carried_zero, add_zero]

/-- What a message adds to the sum and the local usage is what it adds to the bill. -/
theorem handle_spec (message : Message) (sumUsage : Usage) (estimate : Estimate localUsage) :
    ∃ nextLocal nextSum,
      handle { localUsage, sumUsage } message =
        { running := (handle {} message).running, localUsage := nextLocal, sumUsage := nextSum } ∧
      Estimate nextLocal ∧ ∀ items, nextSum + carried (billed (.estimate nextLocal :: items)) =
        sumUsage +
          carried (billed (.estimate localUsage :: ((counted message).toList ++ items))) := by
  match message with
  | .client (some (text, audio)) written =>
    exact ⟨_, _, rfl, estimate.add (estimates text audio).1,
      fun items => congrArg (sumUsage + carried ·) (billed_estimates _ _).symm⟩
  | .target (some (text, audio)) written =>
    exact ⟨_, _, rfl, estimate.add (estimates text audio).2,
      fun items => congrArg (sumUsage + carried ·) (billed_estimates _ _).symm⟩
  | .doneReported usage reserved written =>
    exact ⟨0, _, rfl, fun _ => ⟨le_rfl, le_rfl⟩, fun items => by
      simp [consumeUsage, billed_estimate_zero, counted, billed_done, carried_add,
        carried_carried, add_assoc]⟩
  | .doneUnreported (some (text, audio)) reserved written =>
    exact ⟨0, _, rfl, fun _ => ⟨le_rfl, le_rfl⟩, fun items => by
      simp [consumeLocal, addLocal, billed_estimate_zero, counted, billed_done, carried_add,
        add_assoc]⟩
  | .session written | .stop | .client none _ | .target none _ | .doneUnreported none _ _ =>
    exact ⟨_, _, rfl, estimate, fun _ => rfl⟩

theorem run_stopped {state : State} (stopped : state.running = false) (messages : List Message) :
    run step state messages = state := by
  have kept : ∀ other message, other = state → step other message = state := by
    rintro _ _ rfl
    exact if_neg (by simp [stopped])
  exact run_keeps kept state messages rfl

theorem run_finish (messages : List Message) (localUsage sumUsage : Usage)
    (estimate : Estimate localUsage) :
    finish (run step { localUsage, sumUsage } messages) =
      sumUsage + carried (billed (.estimate localUsage :: countedMessages messages)) := by
  induction messages generalizing localUsage sumUsage with
  | nil => exact (finish_eq _ _ _ estimate).trans (by simp [countedMessages, billed, segments])
  | cons message rest ih =>
    obtain ⟨nextLocal, nextSum, handled, estimate, same⟩ := handle_spec message sumUsage estimate
    rw [countedMessages, ← same, run, step, if_pos rfl, handled]
    cases (handle {} message).running with
    | true => exact ih _ _ estimate
    | false =>
      rw [run_stopped rfl, finish_eq _ _ _ estimate]
      simp [billed, segments]

/-- The returned usage is that of the segments in the counters that the handler adds up. -/
theorem realtime_bills_each_segment_once (messages : List Message) :
    openaiRealtimeHandler messages = carried (billed (countedMessages messages)) := by
  rw [← billed_estimate_zero]
  exact (run_finish messages 0 0 fun _ => ⟨le_rfl, le_rfl⟩).trans (zero_add _)

theorem reported_reasoning_left_out :
    openaiRealtimeHandler [.doneReported (fun | .outputReasoning => 5 | _ => 0) true true]
      .outputReasoning = 0 ∧
    billed [.doneReported (fun | .outputReasoning => 5 | _ => 0)] .outputReasoning = 5 := by
  decide +kernel

end NewApi.RealtimeUsage
