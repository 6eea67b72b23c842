import NewApi.PollingWrites
import NewApi.Settlement

/-!
Repeated task transitions. Any number of workers hold copies of task rows, which they read at
some time, and bring tasks to their final status with `ApplyTaskBillingTransition`. A worker
changes the columns that report progress on its copy; the rest of the copy is as it was read.
A task that was brought to its final status agrees with the charge of its operation from
then on. To repeat the call changes nothing, unless the call has abandoned a settlement.
-/

namespace NewApi.TaskReplay

open Runs BillingOperations TaskBilling BillingLedger BillingConservation PollingWrites Settlement

/-- The columns a worker writes to its copy. -/
structure Progress where
  status : TaskStatus
  progress : String := "100%"
  startTime : Int := 0
  finishTime : Int := 0
  failReason : String := ""
  resultUrl : String := ""
  providerResultUri : Option String := none
  data : String := ""
  deriving DecidableEq

def Progress.on (report : Progress) (copy : Task) : Task :=
  { copy with
    status := report.status
    progress := report.progress
    startTime := report.startTime
    finishTime := report.finishTime
    failReason := report.failReason
    privateData := { copy.privateData with resultUrl := report.resultUrl }
    providerResultUri := report.providerResultUri
    data := report.data }

structure Call where
  context : Context
  copy : Task
  report : Progress
  fromStatus : TaskStatus
  requestedQuota : Int
  outcome : Outcome

def Call.task (call : Call) : Task := call.report.on call.copy

def Call.apply (call : Call) (db : Database) : Except StoreError TaskTransition :=
  applyTaskBillingTransition call.context db call.task call.fromStatus call.requestedQuota
    call.outcome

structure Workers where
  db : Database
  copies : List Task := []

inductive Step where
  | read (id : Int)
  | apply (call : Call)

/-- A worker that succeeds goes on with the row it has stored. -/
def step (state : Workers) : Step → Workers
  | .read id =>
    match state.db.tasks.find? id with
    | none => state
    | some row => { state with copies := row :: state.copies }
  | .apply call =>
    if call.copy ∈ state.copies then
      match call.apply state.db with
      | .error _ => state
      | .ok done => { db := done.db, copies := done.task :: state.copies }
    else state

def finalStatus : Outcome → TaskStatus
  | .settle => .success
  | .refund => .failure

variable (db : Database)

/-- The operation that a transition of this task will move. -/
def taskOperation (row : Task) : Option BillingOperation :=
  if 0 < row.billingOperationId then db.operations.find? row.billingOperationId
  else some ((findByRequestId db (legacyRequestId row.id)).getD (legacyOperation db row))

/-- The owners of an operation are there, and they hold what a settlement at `quota` returns
to them. An increase is cut to what they can give, so it needs the counter's range only. -/
structure Covered (db : Database) (operation : BillingOperation) (quota : Int) : Prop where
  user : ∃ user, db.users.find? operation.userId = some user ∧
    (operation.fundingSource = .wallet → quota < operation.reservedQuota →
      user.quota + (operation.reservedQuota - quota) ≤ maxQuota)
  subscription : operation.fundingSource = .subscription →
    ∃ sub, db.subscriptions.find? operation.subscriptionId = some sub ∧
      0 ≤ sub.amountUsed ∧ sub.amountUsed ≤ maxInt64 ∧ sub.amountTotal ≤ maxInt64 ∧
      (quota < operation.reservedQuota → operation.reservedQuota - quota ≤ sub.amountUsed ∧
        (0 < sub.amountTotal →
          sub.amountUsed - (operation.reservedQuota - quota) ≤ sub.amountTotal)) ∧
      (sub.amountTotal ≤ 0 → sub.amountUsed + (quota - operation.reservedQuota) ≤ maxInt64)
  token : operation.tokenCharged = true →
    ∃ token, db.tokens.find? operation.tokenId = some token ∧
      token.userId = operation.userId ∧
      (quota < operation.reservedQuota → operation.reservedQuota - quota ≤ token.usedQuota ∧
        (operation.tokenRemainCharged = true →
          token.remainQuota + (operation.reservedQuota - quota) ≤ maxQuota))

/-- A settlement of a reserved operation finds it covered. -/
def SettlesCovered (call : Call) : Prop :=
  call.outcome = .settle → ∀ row operation, db.tasks.find? call.task.id = some row →
    taskOperation db row = some operation → operation.status = .reserved →
      Covered db operation call.requestedQuota

/-- The operations as the transactions leave them. -/
def Sound : Prop :=
  ∀ id operation, db.operations.find? id = some operation →
    0 < id ∧ (operation.status = .refunded → operation.actualQuota = 0)

/-- The task's quota is the charge of its operation; a task that was closed without a refund
has no operation and holds nothing. -/
def Agrees (row : Task) : Prop :=
  (row.billingOperationId = 0 ∧ row.quota = 0) ∨
    ∃ operation, db.operations.find? row.billingOperationId = some operation ∧
      operation.status ≠ .reserved ∧ row.quota = charge operation

variable {rows : OperationRows} {operation : BillingOperation}
  {quota delta requested operationId : Int} {db} {opened after : Database} {context : Context}
  {moved : Transition} {outcome asked : Outcome} {row : Task} {fromStatus : TaskStatus}
  {ends : BillingOperation → Prop} {done : TaskTransition}

section

variable (covered : Covered db operation quota)

include covered

theorem validate_returned (loaded : Loaded db operation rows)
    (down : quota < operation.reservedQuota) :
    validateBillingOperationDelta operation rows (quota - operation.reservedQuota) = .ok () := by
  have moving : ¬ quota - operation.reservedQuota = 0 := by omega
  have funding : validateFunding operation rows (quota - operation.reservedQuota) = .ok () := by
    unfold validateFunding
    cases source : operation.fundingSource with
    | wallet =>
      rcases covered.user with ⟨user, found, room⟩
      rw [loaded.user] at found
      cases found
      have fits := room source down
      rw [if_neg (by omega), if_neg (by omega)]
    | subscription =>
      rcases covered.subscription source with ⟨sub, found, low, high, -, held, -⟩
      rcases loaded.subscription source with ⟨row, present, stored⟩
      rw [stored] at found
      cases found
      have exactly : int64 (sub.amountUsed + (quota - operation.reservedQuota)) =
          sub.amountUsed + (quota - operation.reservedQuota) := by
        exact int64_of_mem (by omega) (by omega)
      simp only [present, exactly]
      rw [if_neg (by have := (held down).1; omega), if_neg]
      rintro ⟨limited, exceeds⟩
      omega
  have token : validateToken operation rows (quota - operation.reservedQuota) = .ok () := by
    unfold validateToken
    split
    · rename_i charged
      rcases covered.token charged with ⟨token, found, -, held⟩
      rcases loaded.token charged with ⟨row, present, stored, -⟩
      rw [stored] at found
      cases found
      simp only [present]
      rw [if_neg (by omega), if_neg (by have := (held down).1; omega), if_neg]
      rintro ⟨remaining, exceeds⟩
      have := (held down).2 remaining
      omega
    · rfl
  rw [validateBillingOperationDelta, if_neg moving, funding]
  exact token

theorem loadRows_subscription {sub : UserSubscription}
    (loading : loadBillingOperationRows db operation = .ok rows)
    (present : rows.subscription = some sub) :
    0 ≤ sub.amountUsed ∧ sub.amountUsed ≤ maxInt64 ∧ sub.amountTotal ≤ maxInt64 ∧
      (sub.amountTotal ≤ 0 → sub.amountUsed + (quota - operation.reservedQuota) ≤ maxInt64) ∧
      operation.fundingSource = .subscription := by
  cases source : operation.fundingSource with
  | wallet =>
    rcases bind_ok loading with ⟨subscription, first, rest⟩
    simp only [loadSubscription, source] at first
    cases first
    split at rest
    · cases rest
    rcases bind_ok rest with ⟨token, -, last⟩
    cases last
    cases present
  | subscription =>
    rcases covered.subscription source with ⟨row, found, low, high, total, -, counter⟩
    rcases (loadRows_ok loading).subscription source with ⟨loaded, same, stored⟩
    rw [stored] at found
    rw [same] at present
    cases found
    cases present
    exact ⟨low, high, total, counter, rfl⟩

theorem validate_covered (loading : loadBillingOperationRows db operation = .ok rows) :
    validateBillingOperationDelta operation rows (affordableDelta operation rows quota) =
      .ok () := by
  by_cases down : quota < operation.reservedQuota
  · have exactly : affordableDelta operation rows quota = quota - operation.reservedQuota := by
      simp only [affordableDelta]
      rw [if_neg (by omega)]
    rw [exactly]
    exact validate_returned covered (loadRows_ok loading) down
  · have columns : ColumnRange rows := by
      intro sub present
      rcases loadRows_subscription covered loading present with ⟨low, high, total, -⟩
      exact ⟨low, high, total⟩
    have above : operation.reservedQuota ≤ quota := by omega
    rcases affordable_absorbed columns above with ⟨nonneg, within, absorbed⟩
    apply validate_absorbed columns nonneg absorbed
    intro sub present
    rcases loadRows_subscription covered loading present with ⟨-, high, total, counter, source⟩
    by_cases limited : 0 < sub.amountTotal
    · rcases absorbed with nothing | ⟨funding, -⟩
      · omega
      · simp only [FundingAbsorbs, source] at funding
        rcases funding with ⟨row, same, limit⟩
        rw [present] at same
        cases same
        omega
    · omega

variable {cause : StoreError}

theorem loadSubscription_covered (failed : loadSubscription db operation = .error cause) :
    isOwnerMissing cause = false := by
  cases source : operation.fundingSource with
  | wallet =>
    simp only [loadSubscription, source] at failed
    cases failed
  | subscription =>
    rcases covered.subscription source with ⟨sub, found, -⟩
    simp only [loadSubscription, source, found] at failed
    split at failed
    · cases failed
      rfl
    · cases failed

theorem loadToken_covered (failed : loadToken db operation = .error cause) :
    isOwnerMissing cause = false := by
  cases charged : operation.tokenCharged with
  | false =>
    simp only [loadToken, charged] at failed
    cases failed
  | true =>
    rcases covered.token charged with ⟨token, found, owner, -⟩
    simp only [loadToken, charged, found, owner, if_true] at failed
    split at failed
    · cases failed
      rfl
    · cases failed

theorem loadRows_covered (failed : loadBillingOperationRows db operation = .error cause) :
    isOwnerMissing cause = false := by
  rcases covered.user with ⟨user, found, -⟩
  unfold loadBillingOperationRows at failed
  cases subscription : loadSubscription db operation with
  | error first =>
    rw [subscription] at failed
    cases failed
    exact loadSubscription_covered covered subscription
  | ok sub =>
    cases token : loadToken db operation with
    | error second =>
      simp only [subscription, found, token, bind, Except.bind] at failed
      cases failed
      exact loadToken_covered covered token
    | ok row =>
      simp only [subscription, found, token, bind, Except.bind] at failed
      cases failed

theorem settleReserved_covered {lenient : Bool}
    (settled : settleReserved context db operation quota lenient = .ok moved) :
    moved.operation.status = .settled ∧ moved.operation.requestedQuota = quota := by
  unfold settleReserved at settled
  cases loading : loadBillingOperationRows db operation with
  | error cause =>
    simp only [loading, loadRows_covered covered loading] at settled
    cases settled
  | ok rows =>
    simp only [loading, finish, validate_covered covered loading] at settled
    rcases bind_ok settled with ⟨after, -, settled⟩
    cases settled
    exact ⟨rfl, rfl⟩

end

section Operations

variable {final : BillingOperation} {created : Bool}

theorem finish_status
    (finished : finish context db operation rows delta quota final true = .ok moved) :
    moved.operation.status = .abandoned ∨ moved.operation = final := by
  unfold finish at finished
  split at finished
  · cases finished
    exact .inl rfl
  · rcases bind_ok finished with ⟨after, -, finished⟩
    cases finished
    exact .inr rfl

inductive Ended (requested : Int) (operation : BillingOperation) : Outcome → BillingOperation → Prop
  | abandoned {outcome : Outcome} {final : BillingOperation}
      (status : final.status = .abandoned)
      (first : outcome = .settle → operation.status = .reserved) :
      Ended requested operation outcome final
  | settled {final : BillingOperation} (status : final.status = .settled)
      (asked : final.requestedQuota = requested) : Ended requested operation .settle final
  | refunded {final : BillingOperation} (status : final.status = .refunded)
      (empty : final.actualQuota = 0 ∨ final = operation) :
      Ended requested operation .refund final

theorem transition_ended
    (moving : transitionBillingOperationTx context db operation requested outcome true =
      .ok moved) : Ended requested operation outcome moved.operation := by
  unfold transitionBillingOperationTx at moving
  split at moving
  · cases moving
  split at moving
  · rename_i status
    split at moving
    · cases moving
    rename_i same
    cases moving
    exact .settled status (not_not.mp same)
  · cases moving
  · cases moving
  · rename_i status
    unfold settleReserved at moving
    split at moving
    · split at moving
      · cases moving
        exact .abandoned rfl fun _ => status
      · cases moving
    · rcases finish_status moving with gone | final
      · exact .abandoned gone fun _ => status
      · rw [final]
        exact .settled rfl rfl
  · rename_i status
    cases moving
    exact .refunded status (.inr rfl)
  · rename_i status
    cases moving
    exact .abandoned status nofun
  · cases moving
  · unfold refundReserved at moving
    split at moving
    · split at moving
      · cases moving
        exact .abandoned rfl nofun
      · cases moving
    · rcases finish_status moving with gone | final
      · exact .abandoned gone nofun
      · rw [final]
        exact .refunded rfl (.inl rfl)

theorem Ended.closed (ended : Ended requested operation outcome final) :
    final.status ≠ .reserved := by
  cases ended with
  | abandoned status => simp [status]
  | settled status => simp [status]
  | refunded status => simp [status]

theorem loadOrAdopt_operations
    (loading : loadOrAdoptTaskBillingOperation db row = .ok (operation, created, opened))
    (id : Int) : opened.operations.find? id =
      if operation.id = id then some operation else db.operations.find? id := by
  rcases loadOrAdopt_ok loading with ⟨-, same, found⟩ | ⟨-, -, -, operations, inserted, same⟩
  · subst same
    split
    · rename_i here
      rw [← here, found]
    · rfl
  · subst same
    exact Table.find?_insert? inserted id

theorem loadOrAdopt_owner (sound : Sound db)
    (loading : loadOrAdoptTaskBillingOperation db row = .ok (operation, created, opened)) :
    operation.userId = row.userId ∧ 0 < operation.id ∧
      ∃ id, taskOperation db row = some { operation with id } := by
  unfold loadOrAdoptTaskBillingOperation at loading
  unfold taskOperation
  split at loading
  · rename_i linked
    rcases bind_ok loading with ⟨existing, finding, loading⟩
    split at loading
    · cases loading
    rename_i own
    cases loading
    simp only [not_or, not_not] at own
    refine ⟨own.1, (sound _ _ (findOperation_ok finding)).1, operation.id, ?_⟩
    rw [if_pos linked]
    unfold findOperation at finding
    split at finding <;> cases finding
    assumption
  · rename_i unlinked
    rw [if_neg unlinked]
    split at loading
    · rename_i existing found
      split at loading
      · cases loading
      rename_i own
      cases loading
      simp only [not_or, not_not] at own
      rw [found]
      exact ⟨own.2, (sound _ _ (Table.mem_find? (List.mem_of_find?_eq_some found))).1,
        operation.id, rfl⟩
    · rename_i absent
      rcases bind_ok loading with ⟨⟨adopted, store⟩, creating, loading⟩
      cases loading
      rw [(createOperation_ok creating).1, absent]
      exact ⟨rfl, nextId_pos _ _, _, rfl⟩

theorem transition_operations (stored : opened.operations.find? operation.id = some operation)
    (moving : transitionBillingOperationTx context opened operation requested outcome true =
      .ok moved) :
    moved.operation.id = operation.id ∧ moved.operation.userId = operation.userId ∧
      moved.operation.taskId = operation.taskId ∧
      ∀ id, moved.db.operations.find? id =
        if operation.id = id then some moved.operation else opened.operations.find? id := by
  rcases (transition_effect moving).1 with ⟨-, rfl⟩ | closed
  · refine ⟨rfl, rfl, rfl, ?_⟩
    intro id
    split
    · rename_i here
      rw [← here, stored]
    · rfl
  · have identity := closed.advanced.identity
    refine ⟨identity.id, identity.userId, closed.taskId, ?_⟩
    intro id
    rw [closed.advanced.operations, Table.find?_save, identity.id]
    split
    · rename_i here
      rw [← here, stored]
      rfl
    · rfl

theorem sound_moved (sound : Sound db)
    (loading : loadOrAdoptTaskBillingOperation db row = .ok (operation, created, opened))
    (moving : transitionBillingOperationTx context opened operation requested outcome true =
      .ok moved) : Sound moved.db := by
  have opening := loadOrAdopt_operations loading
  have stored : opened.operations.find? operation.id = some operation := by
    rw [opening, if_pos rfl]
  rcases transition_operations stored moving with ⟨-, -, -, after⟩
  intro id other found
  rw [after, opening] at found
  by_cases here : operation.id = id
  · rw [if_pos here] at found
    cases found
    constructor
    · rw [← here]
      exact (loadOrAdopt_owner sound loading).2.1
    · intro status
      cases transition_ended moving with
      | abandoned gone => simp [gone] at status
      | settled done => simp [done] at status
      | refunded _ empty =>
        rcases empty with empty | same
        · exact empty
        · rw [same] at status ⊢
          rcases loadOrAdopt_ok loading with ⟨-, -, found⟩ | ⟨-, reserved, -⟩
          · exact (sound _ _ found).2 status
          · rw [reserved] at status
            cases status
  · rw [if_neg here, if_neg here] at found
    exact sound id other found

end Operations

structure Linked (db : Database) (row : Task) (operation : BillingOperation) : Prop where
  stored : db.operations.find? row.billingOperationId = some operation
  positive : 0 < row.billingOperationId
  owner : operation.userId = row.userId
  free : operation.taskId = 0 ∨ operation.taskId = row.id
  closed : operation.status ≠ .reserved
  quota : row.quota = finalQuota operation

inductive Final (db : Database) (id : Int) (outcome : Outcome)
    (ends : BillingOperation → Prop) : Prop
  | legacy (row : Task) (found : db.tasks.find? id = some row)
      (status : row.status = finalStatus outcome)
      (legacy : isLegacyWithoutRefund row outcome = true) (empty : row.quota = 0)
  | billed (row : Task) (operation : BillingOperation) (found : db.tasks.find? id = some row)
      (status : row.status = finalStatus outcome) (linked : Linked db row operation)
      (ended : ends operation)

section Replay

structure Accepted (task : Task) (requested : Int) (outcome : Outcome) : Prop where
  id : 0 < task.id
  low : 0 ≤ requested
  high : requested ≤ maxQuota
  status : task.status = finalStatus outcome

variable {task : Task}

theorem accepted_iff : Accepted task requested outcome ↔
    ¬ (task.id ≤ 0 ∨ requested < 0 ∨ maxQuota < requested ∨
      (outcome = .settle ∧ task.status ≠ .success) ∨
      (outcome = .refund ∧ task.status ≠ .failure)) := by
  constructor
  · rintro ⟨id, low, high, status⟩
    cases outcome with
    | settle | refund => simp [status, finalStatus, id, low, high]
  · intro valid
    simp only [not_or, not_le, not_lt, not_and, not_not] at valid
    refine ⟨valid.1, valid.2.1, valid.2.2.1, ?_⟩
    cases outcome with
    | settle => exact valid.2.2.2.1 rfl
    | refund => exact valid.2.2.2.2 rfl

theorem terminal_of_status (status : row.status = finalStatus outcome) :
    isTerminalTaskStatus row.status = true := by
  rw [status]
  cases outcome <;> rfl

section

variable (linked : Linked db row operation)

include linked

theorem linked_load :
    loadOrAdoptTaskBillingOperation db row = .ok (operation, false, db) := by
  have own : ¬ (operation.userId ≠ row.userId ∨
      (operation.taskId ≠ 0 ∧ operation.taskId ≠ row.id)) := by
    have owner := linked.owner
    have free := linked.free
    omega
  simp only [loadOrAdoptTaskBillingOperation, linked.positive, if_true, findOperation,
    linked.stored, bind, Except.bind]
  rw [if_neg own]

theorem linked_final (terminal : isTerminalTaskStatus row.status = true) (task : Task) :
    finalTask row task operation.id (finalQuota operation) = row := by
  have id : operation.id = row.billingOperationId := Table.find?_key linked.stored
  rw [finalTask, if_pos terminal, id, ← linked.quota]

theorem linked_write (terminal : isTerminalTaskStatus row.status = true) (task : Task) :
    ∃ done, writeTask row task requested none ⟨false, 0, operation, db⟩ = .ok done ∧
      done.result.changed = false ∧ done.db = db := by
  have same : sameSnapshot row row = true := by simp [sameSnapshot]
  have idle : taskNeedsWrite row row = false := by simp [taskNeedsWrite, terminal, same]
  simp only [writeTask, linked_final linked terminal, storeTask, idle, bind, Except.bind,
    transitionResult]
  exact ⟨_, rfl, rfl, rfl⟩

theorem linked_apply (found : db.tasks.find? task.id = some row)
    (status : row.status = finalStatus outcome) (accepted : Accepted task requested outcome) :
    applyTaskBillingTransition context db task fromStatus requested outcome =
      (transitionBillingOperationTx context db operation requested outcome true >>=
        writeTask row task requested none) := by
  have terminal := terminal_of_status status
  have legacy : isLegacyWithoutRefund row outcome = false := by
    have positive := linked.positive
    simp only [isLegacyWithoutRefund, decide_eq_false_iff_not]
    omega
  have free : ¬ (operation.taskId ≠ 0 ∧ operation.taskId ≠ row.id) := by
    have := linked.free
    omega
  unfold applyTaskBillingTransition
  rw [if_neg (accepted_iff.mp accepted)]
  simp only [found]
  rw [if_neg (by rw [status, accepted.status]; simp), if_neg (by simp [terminal]), legacy]
  simp only [linked_load linked, bind, Except.bind, Bool.false_eq_true, if_false]
  rw [if_neg free]

end

/-- The operation ended as the call asks, so that asking again is not an error. -/
def Repeats (requested : Int) : Outcome → BillingOperation → Prop
  | .settle, operation => operation.status = .settled ∧ operation.requestedQuota = requested
  | .refund, operation => operation.status = .refunded ∨ operation.status = .abandoned

theorem transition_repeats (repeats : Repeats requested outcome operation)
    (low : 0 ≤ requested) (high : requested ≤ maxQuota) :
    transitionBillingOperationTx context db operation requested outcome true =
      .ok ⟨false, 0, operation, db⟩ := by
  unfold transitionBillingOperationTx
  rw [if_neg (by omega)]
  cases outcome with
  | settle => simp [repeats.1, repeats.2]
  | refund =>
    rcases repeats with status | status
    · simp [status]
    · simp [status]

theorem closeLegacy_idle (db : Database) (terminal : isTerminalTaskStatus row.status = true)
    (empty : row.quota = 0) (task : Task) :
    ∃ done, closeLegacyTask db row task requested = .ok done ∧
      done.result.changed = false ∧ done.db = db := by
  simp only [closeLegacyTask, terminal, empty, and_self, if_true]
  exact ⟨_, rfl, rfl, rfl⟩

theorem final_repeats (final : Final db task.id outcome (Repeats requested outcome))
    (accepted : Accepted task requested outcome) :
    ∃ done, applyTaskBillingTransition context db task fromStatus requested outcome = .ok done ∧
      done.result.changed = false ∧ done.db = db := by
  cases final with
  | legacy row found status legacy empty =>
    have terminal := terminal_of_status status
    have closing : applyTaskBillingTransition context db task fromStatus requested outcome =
        closeLegacyTask db row task requested := by
      unfold applyTaskBillingTransition
      rw [if_neg (accepted_iff.mp accepted)]
      simp only [found]
      rw [if_neg (by rw [status, accepted.status]; simp), if_neg (by simp [terminal]),
        if_pos legacy]
    rw [closing]
    exact closeLegacy_idle db terminal empty task
  | billed row operation found status linked repeats =>
    have terminal := terminal_of_status status
    rw [linked_apply linked found status accepted,
      transition_repeats repeats accepted.low accepted.high]
    exact linked_write linked terminal task

theorem final_idle (final : Final db task.id asked ends)
    (applied : applyTaskBillingTransition context db task fromStatus requested outcome =
      .ok done) : done.db = db := by
  rcases applyTask_ok applied with ⟨valid, row, found, kept, billing⟩
  have accepted := accepted_iff.mpr valid
  have outcomes {stored : Task} (same : db.tasks.find? task.id = some stored)
      (status : stored.status = finalStatus asked) : stored = row ∧ asked = outcome := by
    rw [same] at found
    cases found
    have same := status.symm.trans ((kept (terminal_of_status status)).trans accepted.status)
    refine ⟨rfl, ?_⟩
    cases asked <;> cases outcome <;> first | rfl | cases same
  cases final with
  | legacy stored same status legacy empty =>
    rcases outcomes same status with ⟨rfl, rfl⟩
    have terminal := terminal_of_status status
    rcases billing with ⟨-, closing⟩ | ⟨billed, -⟩
    · rcases closeLegacy_idle db terminal empty task with
        ⟨result, closes, -, unchanged⟩
      rw [closing] at closes
      cases closes
      exact unchanged
    · rw [legacy] at billed
      cases billed
  | billed stored operation same status linked ended =>
    rcases outcomes same status with ⟨rfl, rfl⟩
    have terminal := terminal_of_status status
    rw [linked_apply linked same status accepted] at applied
    rcases bind_ok applied with ⟨moved, moving, writing⟩
    have idle := (transition_effect moving).1.resolve_right fun ends =>
      linked.closed ends.advanced.reserved
    rw [idle.2] at writing
    rcases linked_write linked terminal task with ⟨result, writes, -, unchanged⟩
    rw [writes] at writing
    cases writing
    exact unchanged

end Replay

/-! What a successful call writes. -/

/-- The columns of a copy that decide about its billing and that no worker changes. -/
def SameOrigin (left right : Task) : Prop :=
  left.userId = right.userId ∧ left.submitTime = right.submitTime

section Writing

variable {task : Task}

theorem finalTask_status (kept : isTerminalTaskStatus row.status = true → row.status = task.status)
    (operationId quota : Int) : (finalTask row task operationId quota).status = task.status := by
  unfold finalTask
  by_cases terminal : isTerminalTaskStatus row.status = true
  · simp only [terminal, if_true]
    exact kept terminal
  · simp only [terminal]
    rfl

theorem finalTask_origin (same : SameOrigin task row) (operationId quota : Int) :
    SameOrigin (finalTask row task operationId quota) row := by
  unfold finalTask
  split
  · exact ⟨rfl, rfl⟩
  · exact same

theorem storeTask_stores (found : db.tasks.find? row.id = some row)
    (storing : storeTask db row (finalTask row task operationId quota) = .ok after) :
    after.tasks.find? row.id = some (finalTask row task operationId quota) := by
  unfold storeTask at storing
  split at storing
  · exact (updateTask_written (finalTask_id _ _ _) storing).2.2
  rename_i idle
  cases storing
  simp only [taskNeedsWrite, Bool.or_eq_true, Bool.not_eq_true', not_or, Bool.not_eq_false,
    decide_eq_true_eq, not_not] at idle
  rcases idle with ⟨⟨⟨terminal, link⟩, held⟩, -⟩
  have same : finalTask row task operationId quota = row := by
    change row.billingOperationId = operationId at link
    change row.quota = quota at held
    rw [finalTask, if_pos terminal, ← link, ← held]
  rw [same]
  exact found

structure Written (db : Database) (row task : Task) (outcome : Outcome) (done : TaskTransition) :
    Prop where
  stored : done.db.tasks.find? task.id = some done.task
  id : done.task.id = task.id
  status : done.task.status = finalStatus outcome
  origin : SameOrigin done.task row
  others : ∀ other, other ≠ task.id → done.db.tasks.find? other = db.tasks.find? other

section

variable (found : db.tasks.find? task.id = some row)

include found

theorem closeLegacyTask_written
    (kept : isTerminalTaskStatus row.status = true → row.status = task.status)
    (accepted : Accepted task requested outcome) (same : SameOrigin task row)
    (legacy : isLegacyWithoutRefund row outcome = true)
    (closing : closeLegacyTask db row task requested = .ok done) :
    Written db row task outcome done ∧ isLegacyWithoutRefund done.task outcome = true ∧
      done.task.quota = 0 ∧ done.db.operations = db.operations := by
  have key : row.id = task.id := Table.find?_key found
  simp only [closeLegacyTask] at closing
  split at closing
  · rename_i idle
    cases closing
    exact ⟨⟨found, key, (kept idle.1).trans accepted.status, ⟨rfl, rfl⟩, fun _ _ => rfl⟩, legacy,
      idle.2, rfl⟩
  · rcases bind_ok closing with ⟨after, updating, closing⟩
    cases closing
    rcases updateTask_written (finalTask_id _ _ _) updating with ⟨operations, rows, stored⟩
    have origin := finalTask_origin same 0 0
    simp only [isLegacyWithoutRefund, decide_eq_true_eq, ← origin.2] at legacy
    refine ⟨⟨key ▸ stored, key, ?_, origin, ?_⟩, decide_eq_true ⟨rfl, legacy.2⟩, rfl, operations⟩
    · rw [finalTask_status kept, accepted.status]
    · intro other different
      exact rows.others other (by rw [key]; exact different)

theorem writeTask_written {adopted : Option BillingOperation}
    (kept : isTerminalTaskStatus row.status = true → row.status = task.status)
    (accepted : Accepted task requested outcome) (same : SameOrigin task row)
    (tasks : moved.db.tasks = db.tasks)
    (writing : writeTask row task requested adopted moved = .ok done) :
    Written db row task outcome done ∧
      done.task.billingOperationId = moved.operation.id ∧
      done.task.quota = finalQuota moved.operation ∧
      done.db.operations = moved.db.operations := by
  have key : row.id = task.id := Table.find?_key found
  rcases bind_ok writing with ⟨after, storing, writing⟩
  cases writing
  have present : moved.db.tasks.find? row.id = some row := by
    rw [tasks, key]
    exact found
  rcases storeTask_written (finalTask_id _ _ _) storing with ⟨operations, rows⟩
  refine ⟨⟨?_, key, ?_, finalTask_origin same _ _, ?_⟩, rfl, rfl, operations⟩
  · rw [← key]
    exact storeTask_stores present storing
  · rw [finalTask_status kept, accepted.status]
  · intro other different
    rw [rows.others other (by rw [key]; exact different), tasks]

theorem final_of_apply (ends : BillingOperation → Prop) (sound : Sound db)
    (same : SameOrigin task row)
    (applied : applyTaskBillingTransition context db task fromStatus requested outcome = .ok done)
    (each : ∀ operation created opened moved,
      loadOrAdoptTaskBillingOperation db row = .ok (operation, created, opened) →
      transitionBillingOperationTx context opened operation requested outcome true = .ok moved →
      ends moved.operation) :
    Written db row task outcome done ∧ Sound done.db ∧ Final done.db task.id outcome ends := by
  rcases applyTask_ok applied with ⟨valid, current, stored, kept, billing⟩
  have accepted := accepted_iff.mpr valid
  rw [found] at stored
  cases stored
  rcases billing with ⟨legacy, closing⟩ | ⟨-, operation, created, opened, moved, loading, free,
    moving, writing⟩
  · rcases closeLegacyTask_written found kept accepted same legacy closing with
      ⟨written, still, empty, operations⟩
    refine ⟨written, ?_, .legacy done.task written.stored written.status still empty⟩
    intro id operation present
    rw [operations] at present
    exact sound id operation present
  · have tasks : moved.db.tasks = db.tasks :=
      (transition_tasks moving).trans (loadOrAdopt_tasks loading)
    rcases writeTask_written found kept accepted same tasks writing with
      ⟨written, link, quota, operations⟩
    have opening : opened.operations.find? operation.id = some operation := by
      rw [loadOrAdopt_operations loading, if_pos rfl]
    rcases transition_operations opening moving with ⟨id, owner, taskId, after⟩
    rcases loadOrAdopt_owner sound loading with ⟨own, positive, -⟩
    refine ⟨written, ?_, ?_⟩
    · intro id operation present
      rw [operations] at present
      exact sound_moved sound loading moving id operation present
    · apply Final.billed done.task moved.operation written.stored written.status
      · constructor
        · rw [operations, link, id, after, if_pos rfl]
        · rw [link, id]
          exact positive
        · rw [owner, own]
          exact written.origin.1.symm
        · rw [taskId, written.id, ← Table.find?_key found]
          exact free
        · exact (transition_ended moving).closed
        · exact quota
      · exact each operation created opened moved loading moving

end

theorem repeats_of_covered (covered : outcome = .settle → operation.status = .reserved →
      Covered opened operation requested)
    (moving : transitionBillingOperationTx context opened operation requested outcome true =
      .ok moved) : Repeats requested outcome moved.operation := by
  cases transition_ended moving with
  | settled status asked => exact ⟨status, asked⟩
  | refunded status => exact .inl status
  | abandoned status first =>
    cases outcome with
    | refund => exact .inr status
    | settle =>
      have reserved := first rfl
      unfold transitionBillingOperationTx at moving
      split at moving
      · cases moving
      simp only [reserved] at moving
      exact settleReserved_covered (covered rfl reserved) moving

theorem final_kept {id : Int} (final : Final db id asked ends)
    (applied : applyTaskBillingTransition context db task fromStatus requested outcome = .ok done)
    (others : ∀ other, other ≠ task.id → done.db.tasks.find? other = db.tasks.find? other) :
    Final done.db id asked ends := by
  by_cases same : id = task.id
  · subst same
    rw [final_idle final applied]
    exact final
  · cases final with
    | legacy row found status legacy empty =>
      exact .legacy row ((others id same).trans found) status legacy empty
    | billed row operation found status linked ended =>
      have kept : done.db.operations.find? row.billingOperationId = some operation :=
        effect_keeps_closed (applyTask_effect applied).1 linked.stored linked.closed
      exact .billed row operation ((others id same).trans found) status
        { linked with stored := kept } ended

end Writing

structure Good (state : Workers) : Prop where
  sound : Sound state.db
  copies : ∀ copy ∈ state.copies, ∀ row, state.db.tasks.find? copy.id = some row →
    SameOrigin copy row

theorem Good.origin {state : Workers} (good : Good state) {call : Call}
    (held : call.copy ∈ state.copies) (found : state.db.tasks.find? call.task.id = some row) :
    SameOrigin call.task row :=
  good.copies call.copy held row found

/-- A step keeps the state good and every task that has been brought to its final status. -/
theorem good_step (state : Workers) (event : Step) (good : Good state) :
    Good (step state event) ∧ ∀ {id asked ends}, Final state.db id asked ends →
      Final (step state event).db id asked ends := by
  cases event with
  | read id =>
    simp only [step]
    split
    · exact ⟨good, fun final => final⟩
    rename_i row found
    refine ⟨⟨good.sound, List.forall_mem_cons.mpr ⟨?_, good.copies⟩⟩, fun final => final⟩
    intro other stored
    rw [Table.find?_key found, found] at stored
    cases stored
    exact ⟨rfl, rfl⟩
  | apply call =>
    simp only [step]
    split
    · rename_i held
      split
      · exact ⟨good, fun final => final⟩
      rename_i done applied
      rcases applyTask_ok applied with ⟨-, row, found, -⟩
      have same := good.origin held found
      rcases final_of_apply found (fun _ => True) good.sound same applied
        (fun _ _ _ _ _ _ => trivial) with ⟨written, sound, -⟩
      refine ⟨⟨sound, ?_⟩, fun final => final_kept final applied written.others⟩
      intro copy member other stored
      by_cases here : copy.id = call.task.id
      · rw [here, written.stored] at stored
        cases stored
        rcases List.mem_cons.mp member with rfl | old
        · exact ⟨rfl, rfl⟩
        · have origin := good.copies copy old row (here ▸ found)
          exact ⟨origin.1.trans written.origin.1.symm, origin.2.trans written.origin.2.symm⟩
      · rcases List.mem_cons.mp member with rfl | old
        · exact absurd written.id here
        · rw [written.others copy.id here] at stored
          exact good.copies copy old other stored
    · exact ⟨good, fun final => final⟩

theorem agrees_of_final {id : Int} (sound : Sound db) (final : Final db id outcome ends) :
    ∃ row, db.tasks.find? id = some row ∧ Agrees db row := by
  cases final with
  | legacy row found status legacy empty =>
    simp only [isLegacyWithoutRefund, decide_eq_true_eq] at legacy
    exact ⟨row, found, .inl ⟨legacy.1, empty⟩⟩
  | billed row operation found status linked ended =>
    refine ⟨row, found, .inr ⟨operation, linked.stored, linked.closed, ?_⟩⟩
    rw [linked.quota]
    unfold finalQuota charge
    cases closed : operation.status with
    | reserved => exact absurd closed linked.closed
    | settled => rfl
    | abandoned => rfl
    | refunded => exact (sound _ _ linked.stored).2 closed

/-- A call that has succeeded leaves the task in agreement with its operation from then on;
and when its settlement was covered, to repeat it later changes nothing and is no error. -/
theorem terminal_billing_idempotent (db : Database) (sound : Sound db) (before after : List Step)
    (call : Call) (done : TaskTransition) (held : call.copy ∈ (run step { db } before).copies)
    (applied : call.apply (run step { db } before).db = .ok done) :
    let later := run step { db } (before ++ .apply call :: after)
    (∃ row, later.db.tasks.find? call.task.id = some row ∧ Agrees later.db row) ∧
      (SettlesCovered (run step { db } before).db call →
        ∀ context task fromStatus, task.id = call.task.id → task.status = call.task.status →
          ∃ repeated, applyTaskBillingTransition context later.db task fromStatus
              call.requestedQuota call.outcome = .ok repeated ∧
            repeated.result.changed = false ∧ repeated.db = later.db) := by
  intro later
  have start : Good { db } := ⟨sound, fun _ member => absurd member List.not_mem_nil⟩
  have good : Good (run step { db } before) :=
    run_keeps (fun state event good => (good_step state event good).1) _ before start
  rcases applyTask_ok applied with ⟨valid, row, found, -⟩
  have accepted := accepted_iff.mpr valid
  have same := good.origin held found
  have next : step (run step { db } before) (.apply call) =
      { db := done.db, copies := done.task :: (run step { db } before).copies } := by
    simp only [step, if_pos held, applied]
  have reached : later = run step (step (run step { db } before) (.apply call)) after := by
    simp only [later, run_append]
    rfl
  have along (ends : BillingOperation → Prop)
      (final : Final done.db call.task.id call.outcome ends) :
      Good later ∧ Final later.db call.task.id call.outcome ends := by
    rw [reached]
    have kept (state : Workers) (event : Step)
        (holds : Good state ∧ Final state.db call.task.id call.outcome ends) :
        Good (step state event) ∧ Final (step state event).db call.task.id call.outcome ends :=
      (good_step state event holds.1).imp_right fun kept => kept holds.2
    apply run_keeps kept
    refine ⟨(good_step _ _ good).1, ?_⟩
    rw [next]
    exact final
  constructor
  · rcases final_of_apply found (fun _ => True) good.sound same applied
      (fun _ _ _ _ _ _ => trivial) with ⟨-, -, final⟩
    rcases along _ final with ⟨sure, final⟩
    exact agrees_of_final sure.sound final
  · intro covered context task fromStatus sameId sameStatus
    have each : ∀ operation created opened moved,
        loadOrAdoptTaskBillingOperation (run step { db } before).db row =
          .ok (operation, created, opened) →
        transitionBillingOperationTx call.context opened operation call.requestedQuota
          call.outcome true = .ok moved →
        Repeats call.requestedQuota call.outcome moved.operation := by
      intro operation created opened moved loading moving
      apply repeats_of_covered _ moving
      intro settles reserved
      rcases loadOrAdopt_owner good.sound loading with ⟨-, -, id, chosen⟩
      have enough := covered settles row _ found chosen reserved
      rcases loadOrAdopt_ok loading with ⟨-, rfl, -⟩ | ⟨-, -, -, operations, -, rfl⟩
      · exact { enough with }
      · exact { enough with }
    rcases final_of_apply found _ good.sound same applied each with ⟨-, -, final⟩
    rcases along _ final with ⟨-, final⟩
    rw [← sameId] at final
    apply final_repeats final
    exact ⟨sameId ▸ accepted.id, accepted.low, accepted.high, sameStatus.trans accepted.status⟩

def sampleTask : Task :=
  { id := 5, billingOperationId := 1, userId := 1, quota := 30, status := .inProgress }

def sampleOperation : BillingOperation :=
  { id := 1, requestId := "r", taskId := 5, userId := 1, reservedQuota := 30 }

def sampleStore (users : List User) : Database where
  users := .ofRows users
  operations := .ofRows [sampleOperation]
  tasks := .ofRows [sampleTask]

def settleCall : Call where
  context := sampleContext
  copy := sampleTask
  report := { status := .success }
  fromStatus := .inProgress
  requestedQuota := 20
  outcome := .settle

theorem sampleStore_sound (users : List User) : Sound (sampleStore users) := by
  intro id operation found
  have member := (Table.find?_mem found).1
  have key := Table.find?_key found
  have only : operation = sampleOperation := List.mem_singleton.mp member
  subst only
  rw [← key]
  exact ⟨by decide, nofun⟩

theorem settleCall_covered :
    SettlesCovered (sampleStore [{ id := 1, quota := 70 }]) settleCall := by
  intro _ row operation found chosen _
  have task : sampleTask = row := Option.some.inj found
  subst task
  have moved : sampleOperation = operation := Option.some.inj chosen
  subst moved
  exact ⟨⟨{ id := 1, quota := 70 }, rfl, fun _ _ => by decide⟩, nofun, nofun⟩

theorem terminal_billing_idempotent_settled :
    ∃ repeated, applyTaskBillingTransition sampleContext
        (run step { db := sampleStore [{ id := 1, quota := 70 }] }
          [.read 5, .apply settleCall]).db
        settleCall.task .submitted 20 .settle = .ok repeated ∧
      repeated.result.changed = false ∧ repeated.db.wallet 1 = some 80 := by
  have first : ∃ done, settleCall.apply (sampleStore [{ id := 1, quota := 70 }]) = .ok done :=
    ⟨_, rfl⟩
  rcases first with ⟨done, applied⟩
  rcases (terminal_billing_idempotent _ (sampleStore_sound _) [.read 5] [] settleCall done
    (by decide) applied).2 settleCall_covered sampleContext settleCall.task .submitted rfl rfl with
    ⟨repeated, again, unchanged, same⟩
  refine ⟨repeated, again, unchanged, ?_⟩
  rw [same]
  decide +kernel

/-- The row of the owner is gone: the settlement is abandoned and reported as a success, and
the same call is an error afterwards. -/
theorem abandoned_settlement_not_repeatable :
    ((settleCall.apply (sampleStore [])).toOption.map
        fun done => (done.result.changed, done.result.abandoned)) = some (true, true) ∧
      (settleCall.apply (run step { db := sampleStore [] }
        [.read 5, .apply settleCall]).db).toOption.isNone = true ∧
      ((run step { db := sampleStore [] } [.read 5, .apply settleCall]).db.tasks.find? 5).map
        Task.quota = some 30 := by
  decide +kernel

end NewApi.TaskReplay
