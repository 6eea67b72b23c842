import NewApi.BillingOperation
import NewApi.Runs

/-!
Billing of asynchronous tasks: `CreateTaskWithBillingOperation` ties a task to a
reserved operation, `ApplyTaskBillingTransition` settles or refunds the operation
together with the task's final status. A task without an operation predates the
ledger; its charge is adopted as a reserved operation, except for failed tasks
submitted before the refund cutoff, which are closed without a refund.
-/

namespace NewApi

structure TaskBillingTransitionResult where
  changed : Bool := false
  billingChanged : Bool := false
  taskChanged : Bool := false
  previousQuota : Int
  requestedQuota : Int
  finalQuota : Int := 0
  delta : Int := 0
  operationId : Int := 0
  settlementLimited : Bool := false
  abandoned : Bool := false
  failureReason : String := ""
  legacyNoRefund : Bool := false
  deriving DecidableEq

structure TaskTransition where
  result : TaskBillingTransitionResult
  task : Task
  db : Database
  -- The operation this call created for a task that had none.
  adopted : Option BillingOperation := none

namespace TaskBilling

open BillingOperations

/-- 2026-02-22 00:00:00 UTC. -/
def taskRefundLegacyCutoff : Int := 1771718400

variable (db : Database) (current task updated : Task) (requestedQuota : Int)

def normalizedTaskFundingSource : FundingSource :=
  if task.privateData.billingSource = "subscription" ∧ 0 < task.privateData.subscriptionId then
    .subscription
  else .wallet

def isTerminalTaskStatus (status : TaskStatus) : Bool :=
  status = .success ∨ status = .failure

/-- The columns `taskSnapshot.Equal` compares. -/
def sameSnapshot (left right : Task) : Bool :=
  left.status = right.status ∧ left.progress = right.progress ∧
    left.startTime = right.startTime ∧ left.finishTime = right.finishTime ∧
    left.failReason = right.failReason ∧
    left.privateData.resultUrl = right.privateData.resultUrl ∧
    left.providerResultUri.getD "" = right.providerResultUri.getD "" ∧
    left.data = right.data

variable (context : Context)

def createTask (db : Database) (task : Task) : Except StoreError (Task × Database) :=
  let task :=
    { task with
      id := nextId Task.id db.tasks.rows
      createdAt := if task.createdAt = 0 then context.time else task.createdAt }
  match db.tasks.insert? task with
  | none => .error .duplicateKey
  | some tasks => .ok (task, { db with tasks })

/-- Returns whether the reservation was limited, the stored task and the store. -/
def createTaskWithBillingOperation (db : Database) (task : Task) (operationId targetQuota : Int) :
    Except StoreError (Bool × Task × Database) :=
  if task.id ≠ 0 ∨ operationId ≤ 0 ∨ targetQuota < 0 ∨ maxQuota < targetQuota then
    .error .operationInvalid
  else do
    let operation ← findOperation db operationId
    if operation.status ≠ .reserved ∨ operation.taskId ≠ 0 ∨ operation.userId ≠ task.userId ∨
        operation.tokenId ≠ task.privateData.tokenId ∨
        operation.fundingSource ≠ normalizedTaskFundingSource task ∨
        (operation.fundingSource = .subscription ∧
          operation.subscriptionId ≠ task.privateData.subscriptionId) then
      .error .operationConflict
    else do
      let (_, operation, db) ← adjustBillingOperationReservationTx context db operation targetQuota
      let (task, db) ← createTask context db
        { task with billingOperationId := operation.id, quota := operation.reservedQuota }
      .ok (operation.settlementLimited, task,
        saveOperation db { operation with taskId := task.id })

def legacyRequestId (taskId : Int) : String := "legacy-task:" ++ toString taskId

/-- The operation a task without one is given. Nothing is charged for it: the task's quota
was charged before the ledger existed. -/
def legacyOperation : BillingOperation :=
  { id := 0
    requestId := legacyRequestId task.id
    taskId := task.id
    userId := task.userId
    tokenId := task.privateData.tokenId
    tokenCharged := 0 < task.privateData.tokenId
    tokenRemainCharged := 0 < task.privateData.tokenId
    tokenUnlimited := 0 < task.privateData.tokenId ∧
      (db.tokens.find? task.privateData.tokenId).any
        (fun token => decide (token.userId = task.userId) && token.unlimitedQuota)
    fundingSource := normalizedTaskFundingSource task
    subscriptionId := task.privateData.subscriptionId
    reservedQuota := task.quota }

/-- Returns the operation, whether it was created here, and the store. -/
def loadOrAdoptTaskBillingOperation : Except StoreError (BillingOperation × Bool × Database) :=
  if 0 < task.billingOperationId then do
    let operation ← findOperation db task.billingOperationId
    if operation.userId ≠ task.userId ∨
        (operation.taskId ≠ 0 ∧ operation.taskId ≠ task.id) then .error .operationConflict
    else .ok (operation, false, db)
  else match findByRequestId db (legacyRequestId task.id) with
    | some existing =>
      if existing.taskId ≠ task.id ∨ existing.userId ≠ task.userId then
        .error .operationConflict
      else .ok (existing, false, db)
    | none => do
      let (operation, db) ← createOperation db (legacyOperation db task)
      .ok (operation, true, db)

/-- `UPDATE tasks SET * WHERE id = current.id AND status = current.status`. -/
def updateTask : Except StoreError Database :=
  match db.tasks.updateWhere current.id (fun row => decide (row.status = current.status))
      (fun _ => updated) with
  | none => .error .operationConflict
  | some tasks => .ok { db with tasks }

/-- The row written over `current`: the caller's task while the stored one is unfinished. -/
def finalTask (billingOperationId quota : Int) : Task :=
  { (if isTerminalTaskStatus current.status then current else task) with
    id := current.id, createdAt := current.createdAt, billingOperationId, quota }

def isLegacyWithoutRefund (outcome : Outcome) : Bool :=
  current.billingOperationId = 0 ∧ outcome = .refund ∧ 0 < current.submitTime ∧
    current.submitTime < taskRefundLegacyCutoff

def closeLegacyTask : Except StoreError TaskTransition :=
  let result : TaskBillingTransitionResult :=
    { previousQuota := current.quota, requestedQuota, legacyNoRefund := true }
  if isTerminalTaskStatus current.status ∧ current.quota = 0 then
    .ok { result, task := current, db }
  else do
    let updated := finalTask current task 0 0
    let db ← updateTask db current updated
    .ok { result := { result with changed := true, taskChanged := true }, task := updated, db }

def finalQuota (operation : BillingOperation) : Int :=
  if operation.status = .abandoned then operation.reservedQuota else operation.actualQuota

def taskNeedsWrite : Bool :=
  !isTerminalTaskStatus current.status ||
    decide (current.billingOperationId ≠ updated.billingOperationId) ||
    decide (current.quota ≠ updated.quota) || !sameSnapshot current updated

def storeTask : Except StoreError Database :=
  if taskNeedsWrite current updated then updateTask db current updated else .ok db

def transitionResult (moved : Transition) : TaskBillingTransitionResult :=
  { changed := moved.changed || taskNeedsWrite current updated
    billingChanged := moved.changed
    taskChanged := taskNeedsWrite current updated
    previousQuota := current.quota
    requestedQuota
    finalQuota := finalQuota moved.operation
    delta := moved.delta
    operationId := moved.operation.id
    settlementLimited := moved.operation.settlementLimited
    abandoned := moved.operation.status = .abandoned
    failureReason := moved.operation.failureReason }

/-- The task's part of a transition, after its operation has moved. -/
def writeTask (adopted : Option BillingOperation) (moved : Transition) :
    Except StoreError TaskTransition :=
  let updated := finalTask current task moved.operation.id (finalQuota moved.operation)
  do
    let db ← storeTask moved.db current updated
    .ok { result := transitionResult current updated requestedQuota moved
          task := updated, db, adopted }

def applyTaskBillingTransition (db : Database) (task : Task) (fromStatus : TaskStatus)
    (requestedQuota : Int) (outcome : Outcome) : Except StoreError TaskTransition :=
  if task.id ≤ 0 ∨ requestedQuota < 0 ∨ maxQuota < requestedQuota ∨
      (outcome = .settle ∧ task.status ≠ .success) ∨
      (outcome = .refund ∧ task.status ≠ .failure) then .error .operationInvalid
  else match db.tasks.find? task.id with
    | none => .error .recordNotFound
    | some current =>
      if isTerminalTaskStatus current.status ∧ current.status ≠ task.status then
        .error .operationTransition
      else if isTerminalTaskStatus current.status = false ∧ current.status ≠ fromStatus then
        .error .operationConflict
      else if isLegacyWithoutRefund current outcome then
        closeLegacyTask db current task requestedQuota
      else do
        let (operation, created, db) ← loadOrAdoptTaskBillingOperation db current
        if operation.taskId ≠ 0 ∧ operation.taskId ≠ current.id then .error .operationConflict
        else do
          let moved ←
            transitionBillingOperationTx context db operation requestedQuota outcome true
          writeTask current task requestedQuota
            (if created then some moved.operation else none) moved

end TaskBilling
end NewApi
