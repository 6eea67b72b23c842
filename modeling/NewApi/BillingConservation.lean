import NewApi.BillingLedger

/-!
Conservation of wallet and token quota over every run of the durable billing
entry points. A history keeps the store together with the operations that were
adopted from tasks older than the ledger: their charge was taken before the run,
so it enters the ledger without a debit.
-/

namespace NewApi.BillingConservation

open Runs SubscriptionReset BillingOperations TaskBilling BillingLedger TokenEffects Table
open List hiding after

inductive Call where
  | reserve (request : ReserveRequest)
  | adjust (id targetQuota : Int)
  | settle (id requestedQuota : Int)
  | refund (id : Int)
  | createTask (task : Task) (operationId targetQuota : Int)
  | applyTask (task : Task) (fromStatus : TaskStatus) (requestedQuota : Int) (outcome : Outcome)

structure Committed where
  db : Database
  reset : List Int := []
  adopted : Option BillingOperation := none

def execute (context : Context) (db : Database) : Call → Except StoreError Committed
  | .reserve request => do
    let reservation ← reserveBillingOperation context db request
    .ok { db := reservation.db, reset := reservation.reset }
  | .adjust id targetQuota => do
    let (_, _, db) ← adjustBillingOperationReservation context db id targetQuota
    .ok { db }
  | .settle id requestedQuota => do
    let moved ← settleBillingOperation context db id requestedQuota
    .ok { db := moved.db }
  | .refund id => do
    let moved ← refundBillingOperation context db id
    .ok { db := moved.db }
  | .createTask task operationId targetQuota => do
    let (_, _, db) ← createTaskWithBillingOperation context db task operationId targetQuota
    .ok { db }
  | .applyTask task fromStatus requestedQuota outcome => do
    let done ← applyTaskBillingTransition context db task fromStatus requestedQuota outcome
    .ok { db := done.db, adopted := done.adopted }

inductive StepEffect (db : Database) (done : Committed) : Prop where
  | idle (users : done.db.users = db.users) (tokens : done.db.tokens = db.tokens)
      (subscriptions : done.db.subscriptions = db.subscriptions)
      (operations : done.db.operations = db.operations)
      (noReset : done.reset = []) (noAdoption : done.adopted = none)
  | created (operation : BillingOperation)
      (unused : findByRequestId db operation.requestId = none)
      (inserted : db.operations.insert? operation = some done.db.operations)
      (positive : 0 < operation.id) (reserved : operation.status = .reserved)
      (range : 0 ≤ operation.reservedQuota ∧ operation.reservedQuota ≤ maxQuota)
      (moves : Moves db done.db operation operation.reservedQuota done.reset)
      (noAdoption : done.adopted = none)
  | advanced (before operation : BillingOperation)
      (found : db.operations.find? before.id = some before)
      (change : Advanced db done.db before operation)
      (noReset : done.reset = []) (noAdoption : done.adopted = none)
  | adopted (operation : BillingOperation)
      (unused : findByRequestId db operation.requestId = none)
      (inserted : db.operations.insert? operation = some done.db.operations)
      (closed : operation.status ≠ .reserved)
      (moves : Moves db done.db operation (charge operation - operation.reservedQuota) [])
      (noReset : done.reset = []) (adoption : done.adopted = some operation)

variable {input request : ReserveRequest} {source : FundingSource}
  {db after middle start : Database} {reservation : Reservation}
  {operation before row : BillingOperation} {target requested delta operationId : Int}
  {changed limited created : Bool} {outcome : Outcome} {moved : Transition}
  {stored task updated current : Task} {tasks : Table Task.id} {fromStatus : TaskStatus}
  {done : Committed}

theorem acceptedSource_range (accepted : acceptedSource input = some source) :
    0 ≤ input.quota ∧ input.quota ≤ maxQuota ∧ (source = .subscription → 0 < input.quota) := by
  unfold acceptedSource at accepted
  split at accepted
  · simp at accepted
  split at accepted
  · simp at accepted
  rename_i valid
  cases accepted
  simp only [not_or, not_and, not_le, not_lt] at valid
  exact ⟨valid.2.2.2.1, valid.2.2.2.2.1, valid.2.2.2.2.2.1⟩

variable {context : Context}

theorem reserveNew_effect (accepted : acceptedSource input = some source)
    (done : reserveNew context db input source = .ok reservation) :
    StepEffect db { db := reservation.db, reset := reservation.reset } ∧
      Bills context.time db reservation.db := by
  obtain ⟨low, high, positive⟩ := acceptedSource_range accepted
  obtain ⟨⟨created, opened⟩, creating, done⟩ := bind_ok done
  obtain ⟨shape, unused, operations, inserted, stored⟩ := createOperation_ok creating
  obtain ⟨⟨subscriptionId, funded, reset⟩, funding, done⟩ := bind_ok done
  obtain ⟨⟨charged, last⟩, token, done⟩ := bind_ok done
  cases done
  subst stored
  obtain ⟨⟨second, bills⟩, unlimited, remain, final⟩ :=
    reserveTokenCharge_effect low (by rw [shape]) (by rw [shape]) token
  simp only [shape] at final
  have first : FundingEffect { db with operations } funded charged input.quota reset := by
    subst final
    exact reserveFunding_effect rfl rfl rfl low positive funding
  have moves : Moves db last charged input.quota reset := { first.moves second with }
  have sameId : charged.id = created.id := by simp [final, shape]
  have quota : charged.reservedQuota = input.quota := by simp [final]
  refine ⟨.created charged (by simpa [final] using unused) ?_
    (by rw [final]; exact nextId_pos _ _) (by simp [final])
    (by rw [quota]; exact ⟨low, high⟩) (by rw [quota]; exact { moves with }) rfl,
    bills.congr first.tokens.symm rfl⟩
  rw [insert?_save inserted sameId]
  simp [saveOperation, second.operations, first.operations]

theorem reserve_effect (done : reserveBillingOperation context db request = .ok reservation) :
    StepEffect db { db := reservation.db, reset := reservation.reset } ∧
      Bills context.time db reservation.db := by
  unfold reserveBillingOperation at done
  simp only at done
  split at done
  · simp at done
  rename_i accepted
  split at done
  · split at done
    · cases done
      exact ⟨.idle rfl rfl rfl rfl rfl rfl, .of_tokens rfl⟩
    · simp at done
  · exact reserveNew_effect accepted done

theorem findOperation_ok {id : Int} (done : findOperation db id = .ok operation) :
    db.operations.find? operation.id = some operation := by
  unfold findOperation at done
  split at done
  · simp at done
  rename_i found
  cases done
  rw [find?_key found]
  exact found

theorem adjustReservation_effect {id : Int}
    (done : adjustBillingOperationReservation context db id target =
      .ok (changed, operation, after)) :
    StepEffect db { db := after } ∧ Bills context.time db after := by
  unfold adjustBillingOperationReservation at done
  split at done
  · simp at done
  obtain ⟨before, finding, adjusting⟩ := bind_ok done
  obtain ⟨-, ⟨-, same⟩ | advanced, bills⟩ := adjust_effect adjusting
  · subst same
    exact ⟨.idle rfl rfl rfl rfl rfl rfl, bills⟩
  · exact ⟨.advanced before operation (findOperation_ok finding) advanced rfl rfl, bills⟩

theorem transitionOperation_effect {id : Int}
    (done : transitionBillingOperation context db id requested outcome = .ok moved) :
    StepEffect db { db := moved.db } ∧ Bills context.time db moved.db := by
  unfold transitionBillingOperation at done
  split at done
  · simp at done
  obtain ⟨before, finding, moving⟩ := bind_ok done
  refine (transition_effect moving).imp_left ?_
  rintro (⟨-, rfl⟩ | closed)
  · exact .idle rfl rfl rfl rfl rfl rfl
  · exact .advanced before moved.operation (findOperation_ok finding) closed.advanced rfl rfl

theorem Moves.of_identity {reset : List Int} (identity : SameIdentity before operation)
    (moves : Moves db after before delta reset) : Moves db after operation delta reset := by
  cases operation
  cases identity.userId
  cases identity.tokenId
  cases identity.tokenCharged
  cases identity.tokenRemainCharged
  cases identity.fundingSource
  cases identity.subscriptionId
  exact { moves with }

theorem createTask_ok (done : createTask context db task = .ok (stored, after)) :
    ∃ tasks, after = { db with tasks } := by
  unfold createTask at done
  simp only at done
  split at done
  · simp at done
  rename_i tasks _
  cases done
  exact ⟨tasks, rfl⟩

theorem Advanced.link (advanced : Advanced db middle before operation) (taskId : Int) :
    Advanced db (saveOperation { middle with tasks } { operation with taskId }) before
      { operation with taskId } := by
  obtain ⟨reserved, identity, range, moves, operations⟩ := advanced
  refine ⟨reserved, { identity with }, range, { moves with }, ?_⟩
  simp only [saveOperation, operations]
  exact save_save _ rfl

theorem createTask_effect
    (done : createTaskWithBillingOperation context db task operationId target =
      .ok (limited, stored, after)) :
    StepEffect db { db := after } ∧ Bills context.time db after := by
  unfold createTaskWithBillingOperation at done
  split at done
  · simp at done
  obtain ⟨before, finding, done⟩ := bind_ok done
  simp only at done
  split at done
  · simp at done
  obtain ⟨⟨changed, operation, middle⟩, adjusting, done⟩ := bind_ok done
  obtain ⟨⟨row, last⟩, creating, done⟩ := bind_ok done
  obtain ⟨tasks, same⟩ := createTask_ok creating
  cases done
  subst same
  have found := findOperation_ok finding
  obtain ⟨reserved, ⟨sameOperation, sameStore⟩ | advanced, bills⟩ := adjust_effect adjusting
  · subst sameOperation sameStore
    refine ⟨.advanced operation { operation with taskId := row.id } found
      ⟨reserved, ⟨rfl, rfl, rfl, rfl, rfl, rfl, rfl, rfl⟩, fun range => range, ?_, rfl⟩ rfl rfl,
      bills⟩
    have still := (FundingEffect.none middle operation).moves (.none middle operation)
    rw [show charge { operation with taskId := row.id } - charge operation = 0 from
      sub_self (charge operation)]
    exact { still with }
  · exact ⟨.advanced before _ found (Advanced.link advanced row.id) rfl rfl, bills⟩

theorem updateTask_ok (done : updateTask db current updated = .ok after) :
    ∃ tasks, after = { db with tasks } := by
  unfold updateTask at done
  split at done
  · simp at done
  rename_i tasks _
  cases done
  exact ⟨tasks, rfl⟩

theorem closeLegacyTask_effect {done : TaskTransition}
    (closing : closeLegacyTask db current task requested = .ok done) :
    StepEffect db { db := done.db, adopted := done.adopted } ∧ Bills context.time db done.db := by
  unfold closeLegacyTask at closing
  split at closing
  · cases closing
    exact ⟨.idle rfl rfl rfl rfl rfl rfl, .of_tokens rfl⟩
  · obtain ⟨after, updating, closing⟩ := bind_ok closing
    obtain ⟨tasks, same⟩ := updateTask_ok updating
    cases closing
    subst same
    exact ⟨.idle rfl rfl rfl rfl rfl rfl, .of_tokens rfl⟩

theorem writeTask_ok {adopted : Option BillingOperation} {done : TaskTransition}
    (writing : writeTask current task requested adopted moved = .ok done) :
    done.adopted = adopted ∧ ∃ tasks, done.db = { moved.db with tasks } := by
  obtain ⟨after, updating, writing⟩ := bind_ok writing
  cases writing
  refine ⟨rfl, ?_⟩
  unfold storeTask at updating
  split at updating
  · exact updateTask_ok updating
  cases updating
  exact ⟨_, rfl⟩

theorem loadOrAdopt_ok
    (done : loadOrAdoptTaskBillingOperation db task = .ok (operation, created, after)) :
    (created = false ∧ after = db ∧ db.operations.find? operation.id = some operation) ∨
      (created = true ∧ operation.status = .reserved ∧
        findByRequestId db operation.requestId = none ∧
        ∃ operations, db.operations.insert? operation = some operations ∧
          after = { db with operations }) := by
  unfold loadOrAdoptTaskBillingOperation at done
  split at done
  · obtain ⟨existing, finding, done⟩ := bind_ok done
    split at done
    · simp at done
    cases done
    exact .inl ⟨rfl, rfl, findOperation_ok finding⟩
  · split at done
    · rename_i existing found
      split at done
      · simp at done
      cases done
      exact .inl ⟨rfl, rfl, mem_find? (mem_of_find?_eq_some found)⟩
    · obtain ⟨⟨adopted, opened⟩, creating, done⟩ := bind_ok done
      cases done
      obtain ⟨shape, unused, operations, inserted, stored⟩ := createOperation_ok creating
      subst shape
      exact .inr ⟨rfl, rfl, unused, operations, inserted, stored⟩

/-- A committed task transition closed a task older than the ledger, or closed the task's own
operation and then wrote the task. -/
theorem applyTask_ok {done : TaskTransition}
    (applied : applyTaskBillingTransition context db task fromStatus requested outcome = .ok done) :
    ¬ (task.id ≤ 0 ∨ requested < 0 ∨ maxQuota < requested ∨
        (outcome = .settle ∧ task.status ≠ .success) ∨
        (outcome = .refund ∧ task.status ≠ .failure)) ∧
      ∃ current, db.tasks.find? task.id = some current ∧
        (isTerminalTaskStatus current.status = true → current.status = task.status) ∧
        ((isLegacyWithoutRefund current outcome = true ∧
            closeLegacyTask db current task requested = .ok done) ∨
          (isLegacyWithoutRefund current outcome = false ∧ ∃ operation created opened moved,
            loadOrAdoptTaskBillingOperation db current = .ok (operation, created, opened) ∧
            (operation.taskId = 0 ∨ operation.taskId = current.id) ∧
            transitionBillingOperationTx context opened operation requested outcome true =
              .ok moved ∧
            writeTask current task requested (if created then some moved.operation else none)
              moved = .ok done)) := by
  unfold applyTaskBillingTransition at applied
  split at applied
  · cases applied
  rename_i valid
  split at applied
  · cases applied
  rename_i current found
  split at applied
  · cases applied
  rename_i kept
  simp only [not_and, not_not] at kept
  refine ⟨valid, current, found, kept, ?_⟩
  split at applied
  · cases applied
  split at applied
  · rename_i legacy
    exact .inl ⟨legacy, applied⟩
  · rename_i billed
    obtain ⟨⟨operation, created, opened⟩, loading, applied⟩ := bind_ok applied
    simp only at applied
    split at applied
    · cases applied
    obtain ⟨moved, moving, writing⟩ := bind_ok applied
    exact .inr ⟨by simpa using billed, operation, created, opened, moved, loading, by omega,
      moving, writing⟩

/-- The legacy charge was taken before the ledger, so only its difference to the final charge
moves the balances. -/
theorem adopted_effect {operations : Table BillingOperation.id}
    (reserved : operation.status = .reserved)
    (unused : findByRequestId db operation.requestId = none)
    (inserted : db.operations.insert? operation = some operations)
    (moving : transitionBillingOperationTx context { db with operations } operation requested
      outcome true = .ok moved) :
    StepEffect db { db := { moved.db with tasks }, adopted := some moved.operation } ∧
      Bills context.time db moved.db := by
  refine (transition_effect moving).imp_left ?_
  rintro (⟨finished, -⟩ | closed)
  · exact absurd reserved finished
  · have advanced := closed.advanced
    have held : charge operation = moved.operation.reservedQuota := by
      rw [closed.reservedQuota]
      simp [charge, reserved]
    have moves : Moves db moved.db moved.operation
        (charge moved.operation - moved.operation.reservedQuota) [] := by
      rw [← held]
      exact { Moves.of_identity advanced.identity advanced.moves with }
    refine .adopted moved.operation (by rw [advanced.identity.requestId]; exact unused) ?_
      closed.closed { moves with } rfl rfl
    rw [insert?_save inserted advanced.identity.id]
    simp [advanced.operations]

theorem applyTask_effect {done : TaskTransition}
    (applied : applyTaskBillingTransition context db task fromStatus requested outcome = .ok done) :
    StepEffect db { db := done.db, adopted := done.adopted } ∧ Bills context.time db done.db := by
  obtain ⟨-, current, -, -, ⟨-, legacy⟩ |
    ⟨-, operation, created, opened, moved, loading, -, moving, writing⟩⟩ := applyTask_ok applied
  · exact closeLegacyTask_effect legacy
  · obtain ⟨adoption, tasks, stored⟩ := writeTask_ok writing
    rw [adoption, stored]
    rcases loadOrAdopt_ok loading with ⟨old, same, found⟩ |
      ⟨fresh, reserved, unused, operations, inserted, same⟩
    · subst old same
      refine (transition_effect moving).imp_left ?_
      rintro (⟨-, rfl⟩ | closed)
      · exact .idle rfl rfl rfl rfl rfl rfl
      · have advanced := closed.advanced
        exact .advanced operation moved.operation found
          { advanced with moves := { advanced.moves with } } rfl rfl
    · subst fresh same
      exact adopted_effect reserved unused inserted moving

theorem execute_effect {call : Call} (executed : execute context db call = .ok done) :
    StepEffect db done ∧ Bills context.time db done.db := by
  cases call with
  | reserve request =>
    obtain ⟨reservation, reserving, executed⟩ := bind_ok executed
    cases executed
    exact reserve_effect reserving
  | adjust id targetQuota =>
    obtain ⟨⟨changed, operation, after⟩, adjusting, executed⟩ := bind_ok executed
    cases executed
    exact adjustReservation_effect adjusting
  | settle id requestedQuota | refund id =>
    obtain ⟨moved, moving, executed⟩ := bind_ok executed
    cases executed
    exact transitionOperation_effect moving
  | createTask task operationId targetQuota =>
    obtain ⟨⟨limited, stored, after⟩, creating, executed⟩ := bind_ok executed
    cases executed
    exact createTask_effect creating
  | applyTask task fromStatus requestedQuota outcome =>
    obtain ⟨applied, applying, executed⟩ := bind_ok executed
    cases executed
    exact applyTask_effect applying

/-! Histories. -/

structure History where
  db : Database
  adopted : List Int := []

variable (history : History)

def record (done : Committed) : History where
  db := done.db
  adopted := match done.adopted with
    | none => history.adopted
    | some operation => operation.id :: history.adopted

def step (entry : Context × Call) : History :=
  match execute entry.1 history.db entry.2 with
  | .error _ => history
  | .ok done => record history done

/-- What an operation took during the history: its charge, less the charge it was adopted with. -/
def taken (adopted : List Int) (operation : BillingOperation) : Int :=
  charge operation - if operation.id ∈ adopted then operation.reservedQuota else 0

def held (owned : BillingOperation → Bool) (history : History) : Int :=
  history.db.operations.sum fun operation =>
    if owned operation then taken history.adopted operation else 0

def Stable (owned : BillingOperation → Bool) : Prop :=
  ∀ before operation, SameIdentity before operation → owned operation = owned before

/-- Adopted operations are stored and closed. -/
def Sound : Prop :=
  ∀ id ∈ history.adopted, ∃ operation,
    history.db.operations.find? id = some operation ∧ operation.status ≠ .reserved

/-- Closed operations never change again, and no operation disappears. -/
theorem effect_keeps_closed (effect : StepEffect db done) {id : Int}
    (found : db.operations.find? id = some operation) (closed : operation.status ≠ .reserved) :
    done.db.operations.find? id = some operation := by
  have insertion {row : BillingOperation}
      (inserted : db.operations.insert? row = some done.db.operations) :
      done.db.operations.find? id = some operation := by
    have absent := (insert?_eq_some inserted).1
    rw [find?_insert? inserted]
    by_cases same : row.id = id
    · rw [same, found] at absent
      cases absent
    · simp [same, found]
  cases effect with
  | idle _ _ _ operations _ _ => rw [operations, found]
  | created row _ inserted _ _ _ _ _ | adopted row _ inserted _ _ _ _ => exact insertion inserted
  | advanced before row stored change _ _ =>
    have apart : row.id ≠ id := by
      intro same
      rw [change.identity.id] at same
      rw [same, found] at stored
      cases stored
      exact closed change.reserved
    rw [change.operations, find?_save_other apart, found]

variable {history}

theorem sound_record (sound : Sound history) (effect : StepEffect history.db done) :
    Sound (record history done) := by
  intro id member
  have old : id ∈ history.adopted → ∃ operation,
      done.db.operations.find? id = some operation ∧ operation.status ≠ .reserved := by
    intro earlier
    obtain ⟨operation, found, closed⟩ := sound id earlier
    exact ⟨operation, effect_keeps_closed effect found closed, closed⟩
  cases effect with
  | idle _ _ _ _ _ none | created _ _ _ _ _ _ _ none | advanced _ _ _ _ _ none =>
    exact old (by simpa [record, none] using member)
  | adopted row _ inserted closed _ _ adoption =>
    simp only [record, adoption, mem_cons] at member
    rcases member with new | earlier
    · subst new
      exact ⟨row, by simp [record, find?_insert? inserted], closed⟩
    · exact old earlier

theorem Moves.still (users : after.users = db.users) (tokens : after.tokens = db.tokens)
    (subscriptions : after.subscriptions = db.subscriptions) :
    Moves db after operation 0 [] := by
  have none := (FundingEffect.none db operation).moves (.none db operation)
  cases after
  cases users
  cases tokens
  cases subscriptions
  exact { none with }

theorem held_adopted (inserted : history.db.operations.insert? row = some done.db.operations)
    (adoption : done.adopted = some row) (owned : BillingOperation → Bool) :
    held owned (record history done) =
      held owned history + if owned row then charge row - row.reservedQuota else 0 := by
  have absent := (insert?_eq_some inserted).1
  have others : ∀ operation ∈ history.db.operations.rows,
      (if owned operation then taken (row.id :: history.adopted) operation else 0) =
        if owned operation then taken history.adopted operation else 0 := by
    intro operation member
    have apart : operation.id ≠ row.id := by
      intro same
      rw [← same, mem_find? member] at absent
      cases absent
    simp [taken, apart]
  simp only [held, record, adoption, sum_insert? inserted, sum_congr others]
  simp [taken]

theorem effect_moves (sound : Sound history) (effect : StepEffect history.db done) :
    ∃ operation delta, Moves history.db done.db operation delta done.reset ∧
      ∀ owned, Stable owned →
        held owned (record history done) =
          held owned history + if owned operation then delta else 0 := by
  cases effect with
  | idle users tokens subscriptions operations noReset noAdoption =>
    refine ⟨{ id := 0, requestId := "", userId := 0 }, 0, ?_, fun owned _ => ?_⟩
    · rw [noReset]
      exact Moves.still users tokens subscriptions
    · simp [held, record, operations, noAdoption]
  | created row unused inserted _ reserved range moves noAdoption =>
    refine ⟨row, row.reservedQuota, moves, fun owned _ => ?_⟩
    have absent : row.id ∉ history.adopted := by
      intro earlier
      obtain ⟨operation, found, -⟩ := sound row.id earlier
      rw [(insert?_eq_some inserted).1] at found
      cases found
    have charged : charge row = row.reservedQuota := by simp [charge, reserved]
    simp only [held, record, noAdoption, sum_insert? inserted, taken, absent, if_false,
      charged, sub_zero]
  | advanced before row stored change noReset noAdoption =>
    refine ⟨before, charge row - charge before, ?_, fun owned stable => ?_⟩
    · rw [noReset]
      exact change.moves
    · have absent : before.id ∉ history.adopted := by
        intro earlier
        obtain ⟨operation, found, closed⟩ := sound before.id earlier
        rw [stored] at found
        cases found
        exact closed change.reserved
      have here : history.db.operations.find? row.id = some before := by
        rw [change.identity.id, stored]
      have same := stable before row change.identity
      simp only [held, record, noAdoption, change.operations, sum_save _ here, taken,
        change.identity.id, absent, if_false, same, sub_zero]
      split <;> ring
  | adopted row unused inserted closed moves noReset adoption =>
    refine ⟨row, charge row - row.reservedQuota, ?_, fun owned _ => ?_⟩
    · rw [noReset]
      exact moves
    · exact held_adopted inserted adoption owned

def walletFunded (user : Int) (operation : BillingOperation) : Bool :=
  operation.fundingSource = .wallet ∧ operation.userId = user

variable (token : Int)

def chargesToken (operation : BillingOperation) : Bool :=
  operation.tokenCharged ∧ operation.tokenId = token

def chargesRemain (operation : BillingOperation) : Bool :=
  operation.tokenCharged ∧ operation.tokenRemainCharged ∧ operation.tokenId = token

theorem walletFunded_stable (user : Int) : Stable (walletFunded user) := by
  intro before operation identity
  simp [walletFunded, identity.fundingSource, identity.userId]

theorem chargesToken_stable : Stable (chargesToken token) := by
  intro before operation identity
  simp [chargesToken, identity.tokenCharged, identity.tokenId]

theorem chargesRemain_stable : Stable (chargesRemain token) := by
  intro before operation identity
  simp [chargesRemain, identity.tokenCharged, identity.tokenRemainCharged, identity.tokenId]

/-- Each balance is its start value less (or plus) what the operations took since. -/
structure Balanced (start : Database) (history : History) : Prop where
  sound : Sound history
  wallet : ∀ user, history.db.wallet user =
    (start.wallet user).map (· - held (walletFunded user) history)
  used : ∀ token, history.db.usedQuota token =
    (start.usedQuota token).map (· + held (chargesToken token) history)
  remain : ∀ token, history.db.remainQuota token =
    (start.remainQuota token).map (· - held (chargesRemain token) history)
  requestIds : (history.db.operations.rows.map BillingOperation.requestId).Nodup

theorem balanced_start (start : Database) (empty : start.operations.rows = []) :
    Balanced start { db := start } := by
  have nothing (owned : BillingOperation → Bool) : held owned { db := start } = 0 := by
    simp [held, Table.sum, empty]
  constructor
  · intro id member
    simp at member
  · intro user
    exact map_id_of_eq _ _ (by simp [nothing])
  · intro token
    exact map_id_of_eq _ _ (by simp [nothing])
  · intro token
    exact map_id_of_eq _ _ (by simp [nothing])
  · simp [empty]

theorem requestIds_record (effect : StepEffect db done)
    (distinct : (db.operations.rows.map BillingOperation.requestId).Nodup) :
    (done.db.operations.rows.map BillingOperation.requestId).Nodup := by
  have insertion {row : BillingOperation} (unused : findByRequestId db row.requestId = none)
      (inserted : db.operations.insert? row = some done.db.operations) :
      (done.db.operations.rows.map BillingOperation.requestId).Nodup := by
    have absent : row.requestId ∉ db.operations.rows.map BillingOperation.requestId := by
      intro taken
      obtain ⟨other, member, same⟩ := mem_map.mp taken
      have clash := find?_eq_none.mp unused other member
      simp [same] at clash
    rw [(insert?_eq_some inserted).2, map_append, nodup_append]
    refine ⟨distinct, by simp, fun left earlier right last same => absent ?_⟩
    simp only [map_cons, map_nil, mem_singleton] at last
    rw [← last, ← same]
    exact earlier
  cases effect with
  | idle _ _ _ operations _ _ =>
    rw [operations]
    exact distinct
  | created row unused inserted _ _ _ _ _ | adopted row unused inserted _ _ _ _ =>
    exact insertion unused inserted
  | advanced before row stored change _ _ =>
    have here : db.operations.find? row.id = some before := by
      rw [change.identity.id, stored]
    rw [change.operations, map_rows_save _ here change.identity.requestId]
    exact distinct

theorem balanced_record (balanced : Balanced start history) (effect : StepEffect history.db done) :
    Balanced start (record history done) := by
  obtain ⟨operation, delta, moves, sums⟩ := effect_moves balanced.sound effect
  refine ⟨sound_record balanced.sound effect, fun user => ?_, fun token => ?_, fun token => ?_,
    requestIds_record effect balanced.requestIds⟩
  · change done.db.wallet user = _
    rw [moves.wallet, balanced.wallet, Option.map_map, sums _ (walletFunded_stable user)]
    congr 1
    funext quota
    simp only [Function.comp, walletShare, walletFunded, decide_eq_true_eq]
    ring
  · change done.db.usedQuota token = _
    rw [moves.used, balanced.used, Option.map_map, sums _ (chargesToken_stable token)]
    congr 1
    funext quota
    simp only [Function.comp, tokenShare, chargesToken, decide_eq_true_eq]
    ring
  · change done.db.remainQuota token = _
    rw [moves.remain, balanced.remain, Option.map_map, sums _ (chargesRemain_stable token)]
    congr 1
    funext quota
    simp only [Function.comp, remainShare, chargesRemain, decide_eq_true_eq]
    ring

theorem balanced_step (entry : Context × Call) (balanced : Balanced start history) :
    Balanced start (step history entry) := by
  unfold step
  split
  · exact balanced
  rename_i executed
  exact balanced_record balanced (execute_effect executed).1

theorem closed_step (closed : operation.status ≠ .reserved) (history : History)
    (entry : Context × Call) (found : history.db.operations.find? operation.id = some operation) :
    (step history entry).db.operations.find? operation.id = some operation := by
  unfold step
  split
  · exact found
  rename_i executed
  exact effect_keeps_closed (execute_effect executed).1 found closed

theorem held_token_eq {token : Int} (limited : ∀ operation ∈ history.db.operations.rows,
      chargesToken token operation → operation.tokenRemainCharged) :
    held (chargesToken token) history = held (chargesRemain token) history := by
  refine sum_congr fun operation member => ?_
  have flag := limited operation member
  by_cases charging : chargesToken token operation = true
  · have remaining := flag charging
    simp [chargesToken, chargesRemain, remaining]
  · have neither : chargesRemain token operation = false := by
      simp only [chargesToken, chargesRemain, decide_eq_true_eq, not_and,
        decide_eq_false_iff_not] at charging ⊢
      exact fun charged _ => charging charged
    simp [charging, neither]

/-- Over every run from a store without operations: wallets, used_quota and remain_quota move
exactly with what the operations took, request ids stay unique, and a closed operation is never
charged or refunded again. An adopted operation counts from the charge it was adopted with. -/
theorem billing_runs_conserve_quota (start : Database) (empty : start.operations.rows = [])
    (calls : List (Context × Call)) :
    let final := run step { db := start } calls
    (∀ user quota, start.wallet user = some quota →
      ∃ now, final.db.wallet user = some now ∧
        now + held (walletFunded user) final = quota) ∧
    (∀ token used, start.usedQuota token = some used →
      ∃ now, final.db.usedQuota token = some now ∧
        now = used + held (chargesToken token) final) ∧
    (∀ token used remain, start.usedQuota token = some used →
      start.remainQuota token = some remain →
      (∀ operation ∈ final.db.operations.rows,
        chargesToken token operation → operation.tokenRemainCharged) →
      ∃ usedNow remainNow, final.db.usedQuota token = some usedNow ∧
        final.db.remainQuota token = some remainNow ∧ remainNow + usedNow = remain + used) ∧
    (final.db.operations.rows.map BillingOperation.requestId).Nodup ∧
    (∀ operation ∈ final.db.operations.rows, operation.status ≠ .reserved →
      ∀ more, operation ∈ (run step final more).db.operations.rows) := by
  intro final
  have balanced : Balanced start final :=
    run_keeps (fun history entry => balanced_step entry) _ calls
      (balanced_start start empty)
  refine ⟨fun user quota before => ?_, fun token used before => ?_,
    fun token used remain before reserve limited => ?_, balanced.requestIds,
    fun operation member closed more => ?_⟩
  · exact ⟨_, by rw [balanced.wallet, before]; rfl, by ring⟩
  · exact ⟨_, by rw [balanced.used, before]; rfl, rfl⟩
  · refine ⟨_, _, by rw [balanced.used, before]; rfl, by rw [balanced.remain, reserve]; rfl, ?_⟩
    rw [held_token_eq limited]
    ring
  · have found := mem_find? member
    exact (find?_mem (run_keeps (closed_step closed) final more found)).1

def sampleContext : Context where
  calendar := ⟨id, id, id, id, fun _ _ day => day, fun base _ _ days => base + days⟩
  hashTokenKey := id
  dbTime := 1771718500
  time := 1771718500

def sampleToken : Token :=
  { id := 2, userId := 1, keyHash := "key", remainQuota := 80, usedQuota := 5 }

def sampleStore : Database where
  users := ⟨[{ id := 1, quota := 100 }], by decide⟩
  tokens := ⟨[sampleToken], by decide⟩

def sampleRequest : ReserveRequest :=
  { requestId := "r", userId := 1, tokenId := 2, tokenKey := "key", tokenCharged := true,
    quota := 30 }

def sampleCalls : List (Context × Call) :=
  [(sampleContext, .reserve sampleRequest), (sampleContext, .settle 1 45),
    (sampleContext, .settle 1 45), (sampleContext, .refund 1)]

theorem billing_runs_conserve_quota_sample :
    (run step { db := sampleStore } sampleCalls).db.wallet 1 = some 55 ∧
      ∃ now, (run step { db := sampleStore } sampleCalls).db.wallet 1 = some now ∧
        now + held (walletFunded 1) (run step { db := sampleStore } sampleCalls) = 100 :=
  ⟨by decide, (billing_runs_conserve_quota sampleStore rfl sampleCalls).1 1 100 (by decide)⟩

def legacyTask : Task :=
  { id := 7, userId := 1, quota := 30, status := .inProgress,
    submitTime := taskRefundLegacyCutoff, privateData := { tokenId := 2 } }

def legacyStore : Database where
  users := ⟨[{ id := 1, quota := 70 }], by decide⟩
  tokens := ⟨[{ sampleToken with remainQuota := 50, usedQuota := 30, unlimitedQuota := true }],
    by decide⟩
  tasks := ⟨[legacyTask], by decide⟩

/-- Refunding a task older than the ledger credits 30 although no operation of the run was
ever charged: wallet plus charges rises from 70 to 100. -/
theorem adoption_breaks_charge_sum :
    ¬ ∀ (start : Database) (calls : List (Context × Call)) (user quota : Int),
      start.operations.rows = [] → start.wallet user = some quota →
      ∃ now, (run step { db := start } calls).db.wallet user = some now ∧
        now + (run step { db := start } calls).db.operations.sum
          (fun operation => if walletFunded user operation then charge operation else 0) =
          quota := by
  intro conserved
  obtain ⟨now, stored, total⟩ := conserved legacyStore
    [(sampleContext, .applyTask { legacyTask with status := .failure } .inProgress 0 .refund)]
    1 70 rfl (by decide)
  rw [show (run step { db := legacyStore } _).db.wallet 1 = some 100 by decide] at stored
  rw [show (run step { db := legacyStore } _).db.operations.sum _ = 0 by decide] at total
  cases stored
  omega

end NewApi.BillingConservation
