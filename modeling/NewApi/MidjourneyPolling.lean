import NewApi.Attribution
import NewApi.MidjourneyReservation
import NewApi.Runs

/-!
The Midjourney poller (runMidjourneyTaskUpdateOnce) beside the transactions of the proxy.
A pass loads the unfinished tasks and works on these copies: it marks them, sends
UpdateWithQuotaReservation with the status the copy had before, and keeps the marked copy
also when the update loses or fails. A later item of the response for the same task then
sends that status. Any number of passes run at once, so the state holds the copies of all of
them, and every change of a copy with the transaction behind it is one call.

What the upstream answers and the clock are data of a call. The columns of a task that its
billing does not read are kept beside the store as `TaskDetails`; JSON texts are given as the
upstream's fields are written.
-/

namespace NewApi.MidjourneyPolling

open Runs Attribution BillingOperations Wallet MidjourneyReservation

/-- The columns of a task that its billing does not read. -/
structure TaskDetails where
  mjId : String := ""
  code : Int := 0
  promptEn : String := ""
  state : String := ""
  submitTime : Int := 0
  startTime : Int := 0
  finishTime : Int := 0
  imageUrl : String := ""
  videoUrl : String := ""
  videoUrls : String := ""
  progress : String := ""
  failReason : String := ""
  buttons : String := ""
  properties : String := ""
  deriving DecidableEq

structure PolledTask where
  row : Midjourney
  details : TaskDetails
  deriving DecidableEq

/-- `dto.MidjourneyDto`, with the JSON text of the fields that are stored as JSON; `videoUrls`
is `none` for an empty list. -/
structure ResponseItem where
  mjId : String
  status : String
  progress : String
  promptEn : String := ""
  state : String := ""
  submitTime : Int := 0
  startTime : Int := 0
  finishTime : Int := 0
  imageUrl : String := ""
  videoUrl : String := ""
  videoUrls : Option String := none
  failReason : String := ""
  buttons : Option String := none
  properties : Option String := none

/-- A task that is still not done after an hour counts as failed. -/
def expireItem (now : Int) (task : PolledTask) (item : ResponseItem) : ResponseItem :=
  if 3600000 < now - task.details.submitTime ∧ task.details.progress ≠ "100%" then
    { item with failReason := "上游任务超时（超过1小时）", status := "FAILURE" }
  else item

def checkMjTaskNeedUpdate (oldTask : PolledTask) (newTask : ResponseItem) : Bool :=
  oldTask.details.code ≠ 1 ∨ oldTask.details.progress ≠ newTask.progress ∨
    oldTask.details.promptEn ≠ newTask.promptEn ∨ oldTask.details.state ≠ newTask.state ∨
    oldTask.details.submitTime ≠ newTask.submitTime ∨
    oldTask.details.startTime ≠ newTask.startTime ∨
    oldTask.details.finishTime ≠ newTask.finishTime ∨
    oldTask.details.imageUrl ≠ newTask.imageUrl ∨ oldTask.row.status ≠ newTask.status ∨
    oldTask.details.failReason ≠ newTask.failReason ∨
    (oldTask.details.progress ≠ "100%" ∧ newTask.failReason ≠ "") ∨
    oldTask.details.videoUrl ≠ newTask.videoUrl ∨
    oldTask.details.videoUrls ≠ newTask.videoUrls.getD ""

variable (task : PolledTask)

def takeItem (item : ResponseItem) : PolledTask where
  row := { task.row with status := item.status }
  details := { task.details with
    code := 1
    progress := item.progress
    promptEn := item.promptEn
    state := item.state
    submitTime := item.submitTime
    startTime := item.startTime
    finishTime := item.finishTime
    imageUrl := item.imageUrl
    failReason := item.failReason
    properties := item.properties.getD task.details.properties
    buttons := item.buttons.getD task.details.buttons
    videoUrl := item.videoUrl
    videoUrls := item.videoUrls.getD "" }

def failed : Bool :=
  (task.details.progress ≠ "100%" ∧ task.details.failReason ≠ "") ∨
    (task.details.progress = "100%" ∧ task.row.status = "FAILURE")

def markFailed : PolledTask where
  row := { task.row with status := "FAILURE" }
  details := { task.details with progress := "100%" }

/-- The task as it is written for an item, and the outcome for its billing: a failed task
without quota counts as pending. -/
def settleItem : PolledTask × BillingOutcome :=
  if failed task then
    (markFailed task, if task.row.quota ≠ 0 then .failure else .pending)
  else (task, if task.details.progress = "100%" ∧ task.row.status = "SUCCESS" then .success
    else .pending)

def markFailedFor (reason : String) : PolledTask :=
  markFailed { task with details := { task.details with failReason := reason } }

inductive Cause where
  | request (requestId : String)
  | task (id : Int)
  deriving DecidableEq

/-- The history records for each transaction whether it reported a refund. -/
structure Board where
  db : Database
  details : Int → TaskDetails := fun _ => {}
  copies : List PolledTask := []
  history : List (Entry Database Cause Bool) := []

variable (board : Board)

inductive Action where
  | reserve (input : ReservationRequest)
  | refund (reservationId : Int)
  | settle (reservationId : Int)
  | create (task : Midjourney) (details : TaskDetails) (reservationId : Int)
      (outcome : BillingOutcome)
  -- `GetAllUnFinishTasks` at the start of a pass.
  | load
  -- The three places where a pass updates one of its copies.
  | failNullTask (copy : Nat)
  | failChannel (copy : Nat) (channelId : Int)
  | report (copy : Nat) (now : Int) (item : ResponseItem)

/-- Settings and clock may differ from call to call. -/
structure Call where
  settings : Settings
  action : Action

def getAllUnFinishTasks : List PolledTask :=
  (board.db.midjourneys.rows.filter fun row =>
    decide ((board.details row.id).progress ≠ "100%")).map fun row => ⟨row, board.details row.id⟩

/-- A call of `UpdateWithQuotaReservation` for one of the copies. -/
structure Update where
  copy : Nat
  task : PolledTask
  fromStatus : String
  outcome : BillingOutcome

/-- What a pass sends for a copy. Of the response items only those that name the task count. -/
def sends : Action → Option Update
  | .failNullTask copy => do
    let task ← board.copies[copy]?
    if task.details.mjId = "" then
      some ⟨copy, markFailedFor task "Midjourney task has empty mj_id", task.row.status, .failure⟩
    else none
  | .failChannel copy channelId => do
    let task ← board.copies[copy]?
    if task.details.mjId ≠ "" then
      let reason := "获取渠道信息失败，请联系管理员，渠道ID：" ++ toString channelId
      some ⟨copy, markFailedFor task reason, task.row.status, .failure⟩
    else none
  | .report copy now item => do
    let task ← board.copies[copy]?
    if task.details.mjId ≠ "" ∧ item.mjId = task.details.mjId ∧
        checkMjTaskNeedUpdate task (expireItem now task item) then
      let (written, outcome) := settleItem (takeItem task (expireItem now task item))
      some ⟨copy, written, task.row.status, outcome⟩
    else none
  | _ => none

def requestOf (db : Database) (reservationId : Int) : String :=
  ((db.reservations.find? reservationId).map MidjourneyQuotaReservation.requestId).getD ""

def taskCause (db : Database) (task : Midjourney) : Cause :=
  if 0 < task.quotaReservationId then .request (requestOf db task.quotaReservationId)
  else .task task.id

def writeDetails (details : Int → TaskDetails) (id : Int) (new : TaskDetails) :
    Int → TaskDetails :=
  fun other => if other = id then new else details other

def post (cause : Cause) (db : Database) (refunded : Bool) : Board :=
  { board with db, history := ⟨cause, board.db, db, refunded⟩ :: board.history }

/-- A transaction that fails is rolled back. -/
def transact (cause : Cause) : Except StoreError (Bool × Database) → Board
  | .error _ => post board cause board.db false
  | .ok (refunded, db) => post board cause db refunded

variable (settings : Settings)

def createTask (board : Board) (task : Midjourney) (details : TaskDetails) (reservationId : Int)
    (outcome : BillingOutcome) : Board :=
  let cause := .request (requestOf board.db reservationId)
  match createMidjourneyTaskWithReservation settings board.db task reservationId outcome with
  | .error _ => post board cause board.db false
  | .ok (refunded, db) =>
    let taskId := nextId Midjourney.id board.db.midjourneys.rows
    { post board cause db refunded with details := writeDetails board.details taskId details }

/-- The copy keeps what the pass has written into it, whether or not the update won. -/
def deliver (board : Board) (update : Update) : Board :=
  let task := update.task
  let cause := taskCause board.db task.row
  let marked := { board with copies := board.copies.set update.copy task }
  match updateWithQuotaReservation settings board.db task.row update.fromStatus update.outcome with
  | .error _ => post marked cause board.db false
  | .ok (false, refunded, db) => post marked cause db refunded
  | .ok (true, refunded, db) =>
    { post marked cause db refunded with
      details := writeDetails board.details task.row.id task.details }

def poll (board : Board) (action : Action) : Board :=
  match sends board action with
  | none => board
  | some update => deliver settings board update

def step (call : Call) : Board :=
  match call.action with
  | .reserve input =>
    transact board (.request (trimSpace input.requestId))
      ((reserveMidjourneyQuota call.settings.context board.db input).map
        fun (_, _, db) => (false, db))
  | .refund reservationId =>
    transact board (.request (requestOf board.db reservationId))
      (refundMidjourneyQuotaReservation call.settings board.db reservationId)
  | .settle reservationId =>
    transact board (.request (requestOf board.db reservationId))
      ((settleMidjourneyQuotaReservation call.settings board.db reservationId).map
        fun (_, db) => (false, db))
  | .create task details reservationId outcome =>
    createTask call.settings board task details reservationId outcome
  | .load => { board with copies := board.copies ++ getAllUnFinishTasks board }
  | action => poll call.settings board action

end NewApi.MidjourneyPolling
