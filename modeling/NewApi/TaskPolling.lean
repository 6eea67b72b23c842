import Mathlib.Data.List.AList
import Mathlib.Data.List.Sort
import NewApi.TaskBilling
import NewApi.TextCase

/-!
One polling pass over the unfinished asynchronous tasks (RunTaskPollingOnce) for the
tasks of one platform. The loop over the tasks fills `taskM`, keyed by polling id, and
`taskChannelM`; the workers of the channels then read both. `taskM` holds pointers, so
the task copies of the workers are part of the state beside the store, and a worker
that fails half way leaves its changes in them.

What comes from outside is data of a step: the channel the cache returns, the parsed
response, the reading of an error body. The calls into an adaptor, the JSON comparison
and the encryption of result links are the fields of `Services`.
-/

namespace NewApi

def TaskStatus.ofText : String → TaskStatus
  | "NOT_START" => .notStart
  | "SUBMITTED" => .submitted
  | "QUEUED" => .queued
  | "IN_PROGRESS" => .inProgress
  | "FAILURE" => .failure
  | "SUCCESS" => .success
  | "UNKNOWN" => .unknown
  | text => .other text

namespace TaskPolling

open TaskBilling

def taskPlatformSuno : String := "suno"

def taskPlatformMidjourney : String := "mj"

def channelTypeGemini : Int := 24

def progressSubmitted : String := "10%"

def progressQueued : String := "20%"

def progressInProgress : String := "30%"

def progressComplete : String := "100%"

def maxProviderResultUriBytes : Nat := 16384

structure PollingMaps where
  taskM : AList fun _ : String => Task := ∅
  taskChannelM : AList fun _ : Int => List String := ∅
  nullTasks : List Task := []

variable (db : Database) (maps : PollingMaps) (task : Task)

def getUpstreamTaskId : String :=
  if task.privateData.upstreamTaskId ≠ "" then task.privateData.upstreamTaskId else task.taskId

def isGeminiTask : Bool :=
  task.platform = toString channelTypeGemini ∨ lower task.platform = "gemini"

def pollingId : String :=
  if isGeminiTask task then task.taskId else getUpstreamTaskId task

/-- `SELECT * FROM tasks WHERE progress <> '100%' AND status <> 'FAILURE' AND
status <> 'SUCCESS' ORDER BY id LIMIT limit`. -/
def getAllUnFinishSyncTasks (limit : Nat) : List Task :=
  ((db.tasks.rows.filter fun task => decide (task.progress ≠ "100%" ∧
      task.status ≠ .failure ∧ task.status ≠ .success)).insertionSort
    fun left right => left.id ≤ right.id).take limit

def platformTasks (limit : Nat) (platform : String) : List Task :=
  (getAllUnFinishSyncTasks db limit).filter fun task => decide (task.platform = platform)

def taskIdsOf (channelId : Int) : List String :=
  (maps.taskChannelM.lookup channelId).getD []

def addTask : PollingMaps :=
  if getUpstreamTaskId task = "" then { maps with nullTasks := maps.nullTasks ++ [task] }
  else
    { maps with
      taskM := maps.taskM.insert (pollingId task) task
      taskChannelM := maps.taskChannelM.insert task.channelId
        (taskIdsOf maps task.channelId ++ [pollingId task]) }

def buildMaps (tasks : List Task) : PollingMaps := tasks.foldl addTask {}

structure SunoDataResponse where
  taskId : String
  status : String := ""
  failReason : String := ""
  submitTime : Int := 0
  startTime : Int := 0
  finishTime : Int := 0
  data : String := ""

structure TaskInfo where
  status : String := ""
  reason : String := ""
  url : String := ""
  progress : String := ""
  totalTokens : Int := 0

def failTaskInfo (reason : String) : TaskInfo := { status := "FAILURE", reason }

/-- The public fields of a task in a response of another gateway. -/
structure NewApiTask where
  status : String := ""
  failReason : String := ""
  progress : String := ""

/-- How the body reads as a `GeneralErrorResponse`. -/
inductive ErrorReading where
  | unreadable
  | unrecognized
  | openAi (code : String)

/-- What `geminitaskresult.Sanitize` returns. -/
structure GeminiResult where
  publicData : String := ""
  providerUri : String := ""
  status : String := ""
  progress : String := ""
  retryable : Bool := false
  failed : Bool := false

structure VideoResponse where
  -- The body in the format of this gateway itself, with a success code.
  newApi : Option NewApiTask := none
  -- `adaptor.ParseTaskResult`.
  parsed : Option TaskInfo := none
  error : ErrorReading := .unreadable
  gemini : Option GeminiResult := none
  -- `redactVideoResponseBody`.
  redacted : String := ""

structure PollingChannel where
  type : Int
  -- Whether a key is found: the one the task was submitted with, or the channel's own for a
  -- task that stores none.
  resolveTaskChannelKey : Task → Bool

structure Services where
  jsonSemanticEqual : String → String → Option Bool
  calculateTaskBillingOnComplete : Task → TaskInfo → Int
  openDataEncryptionValue : String → Option String
  sealDataEncryptionValue : String → Option String
  serverAddress : String

variable (services : Services) (context : Context) (platform : String) (item : SunoDataResponse)
  (response : VideoResponse)

/-- `UPDATE tasks SET * WHERE id = task.id AND status = fromStatus`; whether a row matched. -/
def updateWithStatus (fromStatus : TaskStatus) : Bool × Database :=
  match db.tasks.updateWhere task.id (fun row => decide (row.status = fromStatus))
      (fun _ => task) with
  | none => (false, db)
  | some tasks => (true, { db with tasks })

variable (db : Database) (task : Task)

/-- A final status is committed with its billing; on an error the worker keeps its copy. -/
def commit (fromStatus : TaskStatus) (requestedQuota : Int) (outcome : Outcome) : Database × Task :=
  match applyTaskBillingTransition context db task fromStatus requestedQuota outcome with
  | .ok done => (done.db, done.task)
  | .error _ => (db, task)

def failTask (reason : String) (db : Database) (task : Task) : Database × Task :=
  commit context db
    { task with
      status := .failure
      progress := "100%"
      failReason := reason
      finishTime := context.time }
    task.status 0 .refund

/-- The commit of a final status: a failed task is refunded, a successful one is settled. -/
def commitFinal (fromStatus : TaskStatus) (settled : Int) : Database × Task :=
  if task.status = .failure then commit context db task fromStatus 0 .refund
  else commit context db task fromStatus settled .settle

def orNull (data : String) : String := if data.toList.all isSpace then "null" else data

def taskNeedsUpdate (old : Task) (new : SunoDataResponse) : Bool :=
  if old.submitTime ≠ new.submitTime then true
  else if old.startTime ≠ new.startTime then true
  else if old.finishTime ≠ new.finishTime then true
  else if old.status ≠ .ofText new.status then true
  else if old.failReason ≠ new.failReason then true
  else if (old.status = .failure ∨ old.status = .success) ∧ old.progress ≠ "100%" then true
  else match services.jsonSemanticEqual (orNull old.data) (orNull new.data) with
    | none => true
    | some equal => !equal

def takeSunoItem : Task :=
  { task with
    status := if item.status ≠ "" then .ofText item.status else task.status
    failReason := if item.failReason ≠ "" then item.failReason else task.failReason
    submitTime := if item.submitTime ≠ 0 then item.submitTime else task.submitTime
    startTime := if item.startTime ≠ 0 then item.startTime else task.startTime
    finishTime := if item.finishTime ≠ 0 then item.finishTime else task.finishTime
    data := item.data }

def sunoItemFails : Bool :=
  item.failReason ≠ "" ∨ (takeSunoItem item task).status = .failure

def sunoAnswered : Task :=
  { takeSunoItem item task with
    status := if sunoItemFails item task then .failure else (takeSunoItem item task).status
    progress :=
      if sunoItemFails item task ∨ item.status = "SUCCESS" then "100%" else task.progress }

def applySunoItem : Database × Task :=
  if taskNeedsUpdate services task item = false then (db, task)
  else if isTerminalTaskStatus (sunoAnswered item task).status then
    commitFinal context db (sunoAnswered item task) task.status (sunoAnswered item task).quota
  else ((updateWithStatus db (sunoAnswered item task) task.status).2, sunoAnswered item task)

/-! Video. -/

def buildProxyUrl (taskId : String) : String :=
  services.serverAddress ++ "/v1/videos/" ++ taskId ++ "/content"

def readTaskInfo : Option TaskInfo :=
  match response.newApi with
  -- The private data of a task is not part of its JSON, so its result link is the reason.
  | some task =>
    some { status := task.status, url := task.failReason, progress := task.progress,
           reason := task.failReason }
  | none => response.parsed

/-- What an empty status is read as: `none` for a rate limit, which waits for the next pass. -/
def readEmptyStatus (info : TaskInfo) : Option TaskInfo :=
  if info.status ≠ "" then some info
  else match response.error with
    | .unreadable => some info
    | .unrecognized => some (failTaskInfo "upstream returned unrecognized message")
    | .openAi code =>
      if code = "429" then none else some (failTaskInfo "upstream returned error")

def resultUrl (info : TaskInfo) (task : Task) : String :=
  if "data:".toList.isPrefixOf info.url.toList then buildProxyUrl services task.taskId
  else if info.url ≠ "" then info.url
  else buildProxyUrl services task.taskId

def knownStatus (status : TaskStatus) : Bool :=
  status ∈ [.submitted, .queued, .inProgress, .success, .failure]

/-- The switch over the reported status; other statuses are kept in the worker's copy only. -/
def withStatus (now : Int) (info : TaskInfo) (task : Task) : Task :=
  match TaskStatus.ofText info.status with
  | .submitted => { task with status := .submitted, progress := progressSubmitted }
  | .queued => { task with status := .queued, progress := progressQueued }
  | .inProgress =>
    { task with
      status := .inProgress
      progress := progressInProgress
      startTime := if task.startTime = 0 then now else task.startTime }
  | .success =>
    { task with
      status := .success
      progress := progressComplete
      finishTime := if task.finishTime = 0 then now else task.finishTime
      privateData := { task.privateData with resultUrl := resultUrl services info task } }
  | .failure =>
    { task with
      status := .failure
      progress := progressComplete
      finishTime := if task.finishTime = 0 then now else task.finishTime
      failReason := info.reason }
  | status => { task with status }

def withProgress (progress : String) (task : Task) : Task :=
  if progress ≠ "" then { task with progress } else task

/-- The worker's copy after the status switch; a failure is always complete. -/
def videoAnswered (now : Int) (response : VideoResponse) (info : TaskInfo) (task : Task) : Task :=
  withProgress (if info.status = "FAILURE" then progressComplete else info.progress)
    (withStatus services now info { task with data := response.redacted })

def applyVideoResponse : Database × Task :=
  match readTaskInfo response with
  | none => (db, task)
  | some read => match readEmptyStatus response read with
    | none => (db, { task with data := response.redacted })
    | some info =>
      if knownStatus (.ofText info.status) = false then
        -- The switch returns before the progress is taken.
        (db, withStatus services context.time info { task with data := response.redacted })
      else if isTerminalTaskStatus (.ofText info.status) then
        commitFinal context db (videoAnswered services context.time response info task)
          task.status (services.calculateTaskBillingOnComplete
            (videoAnswered services context.time response info task) info)
      else if sameSnapshot task (videoAnswered services context.time response info task) then
        (db, videoAnswered services context.time response info task)
      else
        ((updateWithStatus db (videoAnswered services context.time response info task)
            task.status).2,
          videoAnswered services context.time response info task)

def sealProviderResultUri (uri : String) : Option Task :=
  (services.sealDataEncryptionValue uri).map fun stored =>
    { task with providerResultUri := some stored }

def setProviderResultUri (uri : String) : Option Task :=
  if uri = "" then some { task with providerResultUri := none }
  else if maxProviderResultUriBytes < uri.utf8ByteSize then none
  else match task.providerResultUri.filter (· ≠ "") with
    | none => sealProviderResultUri services task uri
    | some stored => match services.openDataEncryptionValue stored with
      | none => none
      | some existing =>
        if existing = uri then some task else sealProviderResultUri services task uri

def geminiTaskInfo (result : GeminiResult) : TaskInfo :=
  { status := if result.failed then "FAILURE" else result.status
    reason := "upstream task failed"
    progress := result.progress }

/-- The copy a sanitized result is applied to: old links and reasons are dropped. -/
def geminiAnswered (now : Int) (result : GeminiResult) (stored : Task) : Task :=
  withProgress result.progress (withStatus services now (geminiTaskInfo result)
    { stored with
      data := result.publicData
      failReason := ""
      privateData := { stored.privateData with resultUrl := "" } })

/-- The commit of a Gemini result; the worker's task keeps its old value unless it succeeds. -/
def storeGemini (updated : Task) (info : TaskInfo) : Database × Task :=
  if isTerminalTaskStatus updated.status then
    match applyTaskBillingTransition context db updated task.status
        (if updated.status = .success then services.calculateTaskBillingOnComplete updated info
          else 0)
        (if updated.status = .success then .settle else .refund) with
    | .ok done => (done.db, done.task)
    | .error _ => (db, task)
  else if sameSnapshot task updated then (db, task)
  else if (updateWithStatus db updated task.status).1 then
    ((updateWithStatus db updated task.status).2, updated)
  else (db, task)

def applyGeminiVideoPollingResult : Database × Task :=
  match response.gemini with
  | none => (db, task)
  | some result =>
    if result.retryable then (db, task)
    else match setProviderResultUri services task result.providerUri with
      | none => (db, task)
      | some stored =>
        if knownStatus (.ofText (geminiTaskInfo result).status) = false then (db, task)
        else storeGemini services context db task
          (geminiAnswered services context.time result stored) (geminiTaskInfo result)

/-- Whether the worker sends a query for the task at all. -/
def servesTask (channel : PollingChannel) (task : Task) : Bool :=
  decide (isGeminiTask task = decide (channel.type = channelTypeGemini)) &&
    channel.resolveTaskChannelKey task

/-- `updateVideoSingleTask` on the task found in `taskM`. -/
def updateVideoSingleTask (channel : PollingChannel) (response : VideoResponse) (db : Database)
    (task : Task) : Database × Task :=
  if servesTask channel task = false then (db, task)
  else if isGeminiTask task then
    applyGeminiVideoPollingResult services context response db task
  else applyVideoResponse services context response db task

structure Polling where
  taskM : AList fun _ : String => Task
  db : Database

variable (state : Polling)

def withTask (id : String) (change : Database → Task → Database × Task) : Polling :=
  match state.taskM.lookup id with
  | none => state
  | some task =>
    { taskM := state.taskM.insert id (change state.db task).2, db := (change state.db task).1 }

def lookupErrorReason (channelId : Int) : String :=
  if platform = taskPlatformSuno then
    "获取渠道信息失败，请联系管理员，渠道ID：" ++ toString channelId
  else "Failed to get channel info, channel ID: " ++ toString channelId

/-- The tasks of a channel the cache does not have are failed and refunded. -/
def failChannel (reason : String) (state : Polling) (taskIds : List String) : Polling :=
  taskIds.foldl (fun state id => withTask state id (failTask context reason)) state

def applySunoItems (items : List SunoDataResponse) : Polling :=
  items.foldl (fun state item => withTask state item.taskId (applySunoItem services context item))
    state

inductive Answer where
  | suno (items : List SunoDataResponse)
  | video (taskId : String) (response : VideoResponse)

/-- One upstream response, or the failed lookup of a channel (`channel = none`). -/
structure Received where
  context : Context
  channelId : Int
  channel : Option PollingChannel
  answer : Answer

variable (maps : PollingMaps)

/-- What the workers of the platform do with it. A channel without tasks has no worker. -/
def receive (state : Polling) (received : Received) : Polling :=
  if platform = taskPlatformMidjourney ∨ taskIdsOf maps received.channelId = [] then state
  else match received.channel, received.answer with
    | none, _ =>
      failChannel received.context (lookupErrorReason platform received.channelId) state
        (taskIdsOf maps received.channelId)
    | some _, .suno items =>
      if platform = taskPlatformSuno then
        applySunoItems services received.context state items
      else state
    | some channel, .video taskId response =>
      if platform ≠ taskPlatformSuno ∧ taskId ∈ taskIdsOf maps received.channelId then
        withTask state taskId (updateVideoSingleTask services received.context channel response)
      else state

def missingIdReason : String := "任务缺少上游任务 ID"

/-- Tasks without an upstream id are failed before any query is sent. -/
def failNullTasks (tasks : List Task) : Database :=
  tasks.foldl (fun db task => (failTask context missingIdReason db task).1) db

def startPolling (tasks : List Task) : Polling where
  taskM := (buildMaps tasks).taskM
  db := failNullTasks context db (buildMaps tasks).nullTasks

structure Query where
  channelId : Int
  ids : List String

def channelQueries (channelId : Int) (channel : PollingChannel) : List Query :=
  if platform = taskPlatformMidjourney then []
  else if platform = taskPlatformSuno then [{ channelId, ids := taskIdsOf maps channelId }]
  else (taskIdsOf maps channelId).filterMap fun id =>
    ((maps.taskM.lookup id).filter (servesTask channel)).map fun task =>
      { channelId, ids := [getUpstreamTaskId task] }

def queries (channels : Int → Option PollingChannel) : List Query :=
  maps.taskChannelM.keys.flatMap fun channelId =>
    match channels channelId with
    | none => []
    | some channel => channelQueries platform maps channelId channel

end TaskPolling
end NewApi
