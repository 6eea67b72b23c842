import NewApi.PollingWrites

/-!
Which tasks an upstream response can change. A worker changes the task it finds in
`taskM`, so a response is attributed wrongly exactly when `taskM` holds a task of
another channel under an id the worker looks up. The workers of the video platforms
look up the ids of their own channel, those of Suno any id that the response names.
-/

namespace NewApi.PollingAttribution

open Runs TaskBilling TaskPolling PollingWrites List

/-- The tasks that are polled: those with an upstream id. -/
def polled (tasks : List Task) : List Task :=
  tasks.filter fun task => decide (getUpstreamTaskId task ≠ "")

variable {tasks seen : List Task} {maps : PollingMaps} {db : Database} {state : Polling}
  {platform : String} {services : Services} {limit : Nat} {channelId : Int} {context : Context}

theorem mem_polled {task : Task} :
    task ∈ polled tasks ↔ task ∈ tasks ∧ getUpstreamTaskId task ≠ "" := by
  simp [polled]

/-- The maps hold exactly the tasks seen so far; of tasks with one polling id, one. -/
structure Built (seen : List Task) (maps : PollingMaps) : Prop where
  stored : ∀ id task, maps.taskM.lookup id = some task → task ∈ polled seen ∧ pollingId task = id
  present : ∀ task ∈ polled seen, ∃ holder, maps.taskM.lookup (pollingId task) = some holder
  ids : ∀ channelId id, id ∈ taskIdsOf maps channelId ↔
    ∃ task ∈ polled seen, task.channelId = channelId ∧ pollingId task = id
  missing : ∀ task ∈ maps.nullTasks, task ∈ seen ∧ getUpstreamTaskId task = ""

theorem taskIdsOf_insert (taskM : AList fun _ : String => Task) (channelId other : Int)
    (ids : List String) :
    taskIdsOf { maps with taskM, taskChannelM := maps.taskChannelM.insert channelId ids } other =
      if other = channelId then ids else taskIdsOf maps other := by
  by_cases same : other = channelId
  · subst same
    simp [taskIdsOf]
  · simp [taskIdsOf, same]

theorem mem_ids_append (built : Built seen maps) (task : Task) (channelId : Int) (id : String) :
    id ∈ (if channelId = task.channelId then taskIdsOf maps task.channelId ++ [pollingId task]
        else taskIdsOf maps channelId) ↔
      ∃ other ∈ polled seen ++ [task], other.channelId = channelId ∧ pollingId other = id := by
  simp only [mem_append, mem_singleton, or_and_right, exists_or, exists_eq_left,
    ← built.ids]
  by_cases same : channelId = task.channelId
  · simp [same, eq_comm]
  · simp [same, Ne.symm same]

theorem Built.add (built : Built seen maps) (task : Task) :
    Built (seen ++ [task]) (addTask maps task) := by
  have older : ∀ other ∈ maps.nullTasks, other ∈ seen ++ [task] ∧ getUpstreamTaskId other = "" :=
    fun other member => (built.missing other member).imp_left (mem_append_left _)
  unfold addTask
  split
  · rename_i missing
    have same : polled (seen ++ [task]) = polled seen := by simp [polled, missing]
    refine ⟨same ▸ built.stored, same ▸ built.present, same ▸ built.ids, ?_⟩
    exact forall_mem_append.mpr ⟨older, by simpa using missing⟩
  · rename_i known
    have grown : polled (seen ++ [task]) = polled seen ++ [task] := by simp [polled, known]
    constructor
    · intro id holder found
      rw [grown]
      by_cases same : id = pollingId task
      · subst same
        rw [AList.lookup_insert] at found
        cases found
        exact ⟨by simp, rfl⟩
      · rw [AList.lookup_insert_ne same] at found
        exact (built.stored id holder found).imp_left (mem_append_left _)
    · intro other member
      by_cases same : pollingId other = pollingId task
      · rw [same]
        exact ⟨task, AList.lookup_insert _⟩
      · rw [AList.lookup_insert_ne same]
        rw [grown, mem_append, mem_singleton] at member
        exact built.present other (member.resolve_right fun last => same (congrArg pollingId last))
    · intro channelId id
      rw [taskIdsOf_insert, grown]
      exact mem_ids_append built task channelId id
    · exact older

theorem Built.fold (built : Built seen maps) (rest : List Task) :
    Built (seen ++ rest) (rest.foldl addTask maps) := by
  induction rest generalizing seen maps with
  | nil => simpa using built
  | cons task rest ih =>
    have next := ih (built.add task)
    simpa using next

theorem buildMaps_built (tasks : List Task) : Built tasks (buildMaps tasks) := by
  have empty : Built [] {} := by
    constructor
    · intro id task found
      simp at found
    · simp [polled]
    · simp [polled, taskIdsOf]
    · simp
  exact empty.fold tasks

def DistinctIds (tasks : List Task) : Prop :=
  ∀ left ∈ tasks, ∀ right ∈ tasks, left.id = right.id → left = right

/-- Every row that is there is that of its task. -/
def Faithful (tasks : List Task) (db : Database) : Prop :=
  ∀ origin ∈ tasks, ∀ row, db.tasks.find? origin.id = some row → identity row = identity origin

/-- Every copy in `taskM` and every row is that of one task of the pass. -/
structure Tracked (tasks : List Task) (state : Polling) : Prop where
  copies : ∀ id task, state.taskM.lookup id = some task →
    ∃ origin ∈ polled tasks, pollingId origin = id ∧ identity task = identity origin
  rows : ∀ origin ∈ tasks, ∀ row, state.db.tasks.find? origin.id = some row →
    identity row = identity origin

variable {task origin updated other : Task}

section Steps

variable (distinct : DistinctIds tasks)

include distinct

theorem Faithful.handled {result : Database × Task} (faithful : Faithful tasks db)
    (member : origin ∈ tasks) (same : identity task = identity origin)
    (handled : Handles db task result) : Faithful tasks result.1 := by
  intro other present row found
  by_cases here : other.id = task.id
  · rw [distinct other present origin member (here.trans (identity_id same)), ← same]
    rw [here] at found
    exact handled.row row found
  · rw [(handled.others other.id here).1] at found
    exact faithful other present row found

theorem Tracked.change {change : Database → Task → Database × Task} (tracked : Tracked tasks state)
    (respects : Respects change) (id : String) :
    Tracked tasks (withTask state id change) ∧
      ∀ other, (∀ origin ∈ polled tasks, pollingId origin = id → origin.id ≠ other) →
        Untouched state.db (withTask state id change).db other := by
  unfold withTask
  split
  · exact ⟨tracked, fun other _ => .refl _ other⟩
  rename_i task held
  obtain ⟨origin, member, polls, same⟩ := tracked.copies id task held
  have known := (mem_polled.mp member).1
  have sameId := identity_id same
  have handled := respects state.db task fun row found => by
    rw [sameId] at found
    exact (tracked.rows origin known row found).trans same.symm
  constructor
  · refine ⟨fun key copy found => ?_, Faithful.handled distinct tracked.rows known same handled⟩
    by_cases here : key = id
    · subst here
      rw [AList.lookup_insert] at found
      cases found
      exact ⟨origin, member, polls, handled.copy.trans same⟩
    · rw [AList.lookup_insert_ne here] at found
      exact tracked.copies key copy found
  · intro other apart
    apply handled.others
    rw [sameId]
    exact Ne.symm (apart origin member polls)

theorem Tracked.changes {Item : Type} (idOf : Item → String)
    {change : Item → Database → Task → Database × Task} (respects : ∀ item, Respects (change item))
    (items : List Item) (tracked : Tracked tasks state) :
    Tracked tasks (items.foldl (fun state item => withTask state (idOf item) (change item)) state) ∧
      ∀ other, (∀ item ∈ items, ∀ origin ∈ polled tasks, pollingId origin = idOf item →
          origin.id ≠ other) →
        Untouched state.db
          (items.foldl (fun state item => withTask state (idOf item) (change item)) state).db
          other := by
  induction items generalizing state with
  | nil => exact ⟨tracked, fun other _ => .refl _ other⟩
  | cons item rest ih =>
    have first := tracked.change distinct (respects item) (idOf item)
    have later := ih first.1
    constructor
    · exact later.1
    · intro other apart
      rw [forall_mem_cons] at apart
      exact (first.2 other apart.1).trans (later.2 other apart.2)

end Steps

/-- The polling ids a step of the pass looks up in `taskM`. -/
def LooksUp (tasks : List Task) (platform : String) (received : Received) (id : String) : Prop :=
  platform ≠ taskPlatformMidjourney ∧ taskIdsOf (buildMaps tasks) received.channelId ≠ [] ∧
    match received.channel, received.answer with
    | none, _ => id ∈ taskIdsOf (buildMaps tasks) received.channelId
    | some _, .suno items => platform = taskPlatformSuno ∧ ∃ item ∈ items, item.taskId = id
    | some _, .video taskId _ =>
      platform ≠ taskPlatformSuno ∧ taskId ∈ taskIdsOf (buildMaps tasks) received.channelId ∧
        taskId = id

theorem Tracked.receive (distinct : DistinctIds tasks) (received : Received)
    (tracked : Tracked tasks state) :
    Tracked tasks (receive services platform (buildMaps tasks) state received) ∧
      ∀ other, (∀ origin ∈ polled tasks, LooksUp tasks platform received (pollingId origin) →
          origin.id ≠ other) →
        Untouched state.db (receive services platform (buildMaps tasks) state received).db
          other := by
  obtain ⟨context, channelId, channel, answer⟩ := received
  unfold TaskPolling.receive
  split
  · exact ⟨tracked, fun other _ => .refl _ other⟩
  rename_i active
  obtain ⟨dispatched, working⟩ := not_or.mp active
  cases channel with
  | none =>
    have failed := Tracked.changes distinct id
      (fun _ => failTask_respects context (lookupErrorReason platform channelId))
      (taskIdsOf (buildMaps tasks) channelId) tracked
    refine ⟨failed.1, fun other apart => failed.2 other ?_⟩
    intro key listed origin member polls
    exact apart origin member ⟨dispatched, working, polls ▸ listed⟩
  | some channel =>
    cases answer with
    | suno items =>
      simp only
      split
      · rename_i suno
        have applied := Tracked.changes distinct SunoDataResponse.taskId
          (applySunoItem_respects services context) items tracked
        refine ⟨applied.1, fun other apart => applied.2 other ?_⟩
        intro item listed origin member polls
        exact apart origin member
          ⟨dispatched, working, suno, item, listed, polls.symm⟩
      · exact ⟨tracked, fun other _ => .refl _ other⟩
    | video taskId response =>
      simp only
      split
      · rename_i own
        have applied := tracked.change distinct
          (updateVideoSingleTask_respects services context channel response) taskId
        refine ⟨applied.1, fun other apart => applied.2 other ?_⟩
        intro origin member polls
        exact apart origin member
          ⟨dispatched, working, own.1, own.2, polls.symm⟩
      · exact ⟨tracked, fun other _ => .refl _ other⟩

theorem failNullTasks_kept (context : Context) (distinct : DistinctIds tasks)
    (faithful : Faithful tasks db) (missing : List Task)
    (listed : ∀ task ∈ missing, task ∈ tasks) :
    Faithful tasks (failNullTasks context db missing) ∧
      ∀ other, (∀ task ∈ missing, task.id ≠ other) →
        Untouched db (failNullTasks context db missing) other := by
  induction missing generalizing db with
  | nil => exact ⟨faithful, fun other _ => .refl _ other⟩
  | cons task rest ih =>
    rw [forall_mem_cons] at listed
    have handled := failTask_respects context missingIdReason db task (faithful task listed.1)
    have later := ih (faithful.handled distinct listed.1 rfl handled) listed.2
    refine ⟨later.1, fun other apart => ?_⟩
    rw [forall_mem_cons] at apart
    exact (handled.others other (Ne.symm apart.1)).trans (later.2 other apart.2)

theorem mem_platformTasks (member : task ∈ platformTasks db limit platform) :
    db.tasks.find? task.id = some task ∧ task.platform = platform ∧ task.status ≠ .failure ∧
      task.status ≠ .success := by
  simp only [platformTasks, mem_filter, decide_eq_true_eq] at member
  have loaded := mem_of_mem_take member.1
  rw [mem_insertionSort, mem_filter] at loaded
  have unfinished := of_decide_eq_true loaded.2
  exact ⟨Table.mem_find? loaded.1, member.2, unfinished.2.1, unfinished.2.2⟩

theorem platformTasks_distinct : DistinctIds (platformTasks db limit platform) := by
  intro left leftMember right rightMember same
  have first := (mem_platformTasks leftMember).1
  rw [same, (mem_platformTasks rightMember).1] at first
  exact (Option.some.inj first).symm

theorem start_tracked (context : Context) (distinct : DistinctIds tasks)
    (loaded : ∀ task ∈ tasks, db.tasks.find? task.id = some task) :
    Tracked tasks (startPolling context db tasks) ∧
      ∀ task ∈ polled tasks,
        (startPolling context db tasks).db.tasks.find? task.id = some task := by
  have built := buildMaps_built tasks
  have faithful : Faithful tasks db := by
    intro origin member row found
    rw [loaded origin member] at found
    rw [Option.some.inj found]
  have failed := failNullTasks_kept context distinct faithful (buildMaps tasks).nullTasks
    fun task member => (built.missing task member).1
  constructor
  · refine ⟨fun id task found => ?_, failed.1⟩
    have stored := built.stored id task found
    exact ⟨task, stored.1, stored.2, rfl⟩
  · intro task member
    have known := mem_polled.mp member
    have untouched := failed.2 task.id fun other missing same => by
      have absent := built.missing other missing
      rw [distinct other absent.1 task known.1 same] at absent
      exact known.2 absent.2
    exact untouched.1.trans (loaded task known.1)

/-- The state of the pass after it has received `earlier`. -/
def stateAfter (services : Services) (context : Context) (db : Database) (platform : String)
    (tasks : List Task) (earlier : List Received) : Polling :=
  run (receive services platform (buildMaps tasks)) (startPolling context db tasks) earlier

/-- A response names a task: Suno's lists upstream ids, a video response answers the query
for one id. -/
def Names (task : Task) : Answer → Prop
  | .suno items => ∃ item ∈ items, item.taskId = getUpstreamTaskId task
  | .video taskId _ => taskId = pollingId task

instance (task : Task) : (answer : Answer) → Decidable (Names task answer)
  | .suno items => inferInstanceAs (Decidable (∃ item ∈ items, item.taskId = _))
  | .video taskId _ => inferInstanceAs (Decidable (taskId = _))

/-- The tasks a step may change: those of its channel that the response names, or all of its
channel when the channel is gone. -/
def Concerns (received : Received) (task : Task) : Prop :=
  task.channelId = received.channelId ∧
    (received.channel.isNone = true ∨ Names task received.answer)

instance (received : Received) (task : Task) : Decidable (Concerns received task) :=
  inferInstanceAs (Decidable (_ ∧ _))

def Attributed (tasks : List Task) (received : Received) (before after : Database) : Prop :=
  ∀ row ∈ before.tasks.rows, ¬ Untouched before after row.id →
    ∃ task ∈ tasks, task.id = row.id ∧ Concerns received task

instance (tasks : List Task) (received : Received) (before after : Database) :
    Decidable (Attributed tasks received before after) :=
  inferInstanceAs (Decidable (∀ row ∈ before.tasks.rows, _))

/-- Every polled task is in a query through its channel, as long as the channel is there and
has the task's key. -/
def AllQueried (platform : String) (tasks : List Task) : Prop :=
  ∀ channels : Int → Option PollingChannel,
    (∀ task ∈ polled tasks, ∃ channel, channels task.channelId = some channel ∧
      (platform = taskPlatformSuno ∨ servesTask channel task = true)) →
    ∀ task ∈ polled tasks, ∃ query ∈ queries platform (buildMaps tasks) channels,
      query.channelId = task.channelId ∧ getUpstreamTaskId task ∈ query.ids

/-- Every answer reaches only its own tasks, whatever was received before it. -/
def AnswersAttributed (services : Services) (context : Context) (db : Database)
    (platform : String) (tasks : List Task) : Prop :=
  ∀ (earlier : List Received) (received : Received),
    Attributed tasks received (stateAfter services context db platform tasks earlier).db
      (receive services platform (buildMaps tasks)
        (stateAfter services context db platform tasks earlier) received).db

def UniqueWithinChannel (tasks : List Task) : Prop :=
  ∀ left ∈ polled tasks, ∀ right ∈ polled tasks, left.channelId = right.channelId →
    getUpstreamTaskId left = getUpstreamTaskId right → left = right

instance (tasks : List Task) : Decidable (UniqueWithinChannel tasks) :=
  inferInstanceAs (Decidable (∀ left ∈ polled tasks, ∀ right ∈ polled tasks, _ → _ → _))

/-- Suno's answers are looked up across channels, so all its tasks have to be on one; the
workers of the other platforms look up ids of their own channel, so the ids have to differ.
Midjourney tasks are not polled here. -/
def Separated (platform : String) (tasks : List Task) : Prop :=
  if platform = taskPlatformMidjourney then polled tasks = []
  else if platform = taskPlatformSuno then
    ∀ left ∈ polled tasks, ∀ right ∈ polled tasks, left.channelId = right.channelId
  else ∀ left ∈ polled tasks, ∀ right ∈ polled tasks,
    pollingId left = pollingId right → left = right

instance (platform : String) (tasks : List Task) : Decidable (Separated platform tasks) :=
  inferInstanceAs (Decidable (ite (platform = taskPlatformMidjourney) _ _))

/-! Separated tasks are answered one by one. -/

theorem pollingId_suno (suno : task.platform = taskPlatformSuno) :
    pollingId task = getUpstreamTaskId task := by
  have other : isGeminiTask task = false := by
    unfold isGeminiTask
    rw [suno]
    decide
  simp [pollingId, other]

theorem mem_taskIdsOf (member : task ∈ polled tasks) :
    pollingId task ∈ taskIdsOf (buildMaps tasks) task.channelId :=
  ((buildMaps_built tasks).ids task.channelId _).mpr ⟨task, member, rfl, rfl⟩

section

variable (separated : Separated platform tasks)

include separated

theorem Separated.channelId_of_listed (dispatched : platform ≠ taskPlatformMidjourney)
    (member : task ∈ polled tasks)
    (listed : pollingId task ∈ taskIdsOf (buildMaps tasks) channelId) :
    task.channelId = channelId := by
  obtain ⟨owner, owned, here, polls⟩ := ((buildMaps_built tasks).ids channelId _).mp listed
  unfold Separated at separated
  rw [if_neg dispatched] at separated
  split at separated
  · rw [separated task member owner owned]
    exact here
  · rw [separated task member owner owned polls.symm]
    exact here

theorem Separated.concerns {received : Received}
    (ofPlatform : ∀ task ∈ tasks, task.platform = platform) (member : task ∈ polled tasks)
    (looksUp : LooksUp tasks platform received (pollingId task)) : Concerns received task := by
  obtain ⟨dispatched, working, found⟩ := looksUp
  obtain ⟨context, channelId, channel, answer⟩ := received
  cases channel with
  | none => exact ⟨separated.channelId_of_listed dispatched member found, .inl rfl⟩
  | some channel =>
    cases answer with
    | suno items =>
      obtain ⟨suno, item, listed, names⟩ := found
      constructor
      · obtain ⟨id, here⟩ := exists_mem_of_ne_nil _ working
        obtain ⟨owner, owned, sameChannel, -⟩ :=
          ((buildMaps_built tasks).ids channelId id).mp here
        unfold Separated at separated
        rw [if_neg dispatched, if_pos suno] at separated
        rw [separated task member owner owned]
        exact sameChannel
      · right
        refine ⟨item, listed, ?_⟩
        rw [names]
        apply pollingId_suno
        rw [ofPlatform task (mem_polled.mp member).1, suno]
    | video taskId response =>
      obtain ⟨-, listed, same⟩ := found
      rw [same] at listed
      exact ⟨separated.channelId_of_listed dispatched member listed, .inr same⟩

theorem Separated.answersAttributed (distinct : DistinctIds tasks)
    (loaded : ∀ task ∈ tasks, db.tasks.find? task.id = some task)
    (ofPlatform : ∀ task ∈ tasks, task.platform = platform) :
    AnswersAttributed services context db platform tasks := by
  intro earlier received row _ touched
  have tracked : Tracked tasks (stateAfter services context db platform tasks earlier) :=
    run_keeps (fun _ call kept => (kept.receive distinct call).1) _ earlier
      (start_tracked context distinct loaded).1
  by_contra unattributed
  apply touched
  apply (tracked.receive distinct received).2
  intro origin member looksUp same
  exact unattributed
    ⟨origin, (mem_polled.mp member).1, same, separated.concerns ofPlatform member looksUp⟩

end

theorem mem_channelIds (member : task ∈ polled tasks) :
    task.channelId ∈ (buildMaps tasks).taskChannelM.keys := by
  have listed := mem_taskIdsOf member
  by_contra absent
  rw [taskIdsOf, AList.lookup_eq_none.mpr absent] at listed
  simp at listed

theorem Separated.allQueried (ofPlatform : ∀ task ∈ tasks, task.platform = platform)
    (separated : Separated platform tasks) : AllQueried platform tasks := by
  intro channels available task member
  obtain ⟨channel, found, serves⟩ := available task member
  have sent : ∀ query ∈ channelQueries platform (buildMaps tasks) task.channelId channel,
      query ∈ queries platform (buildMaps tasks) channels := by
    intro query listed
    rw [queries, mem_flatMap]
    refine ⟨task.channelId, mem_channelIds member, ?_⟩
    simp only [found]
    exact listed
  unfold Separated at separated
  split at separated
  · rw [separated] at member
    simp at member
  · rename_i dispatched
    split at separated
    · rename_i suno
      refine ⟨_, sent ⟨task.channelId, taskIdsOf (buildMaps tasks) task.channelId⟩ ?_, rfl, ?_⟩
      · simp only [channelQueries, if_neg dispatched, if_pos suno, mem_singleton]
      · rw [← pollingId_suno ((ofPlatform task (mem_polled.mp member).1).trans suno)]
        exact mem_taskIdsOf member
    · rename_i video
      obtain ⟨holder, held⟩ := (buildMaps_built tasks).present task member
      have stored := (buildMaps_built tasks).stored _ holder held
      have same := separated holder stored.1 task member stored.2
      subst same
      refine ⟨_, sent ⟨holder.channelId, [getUpstreamTaskId holder]⟩ ?_, rfl, by simp⟩
      have served := serves.resolve_left video
      simp only [channelQueries, if_neg dispatched, if_neg video, mem_filterMap]
      exact ⟨pollingId holder, mem_taskIdsOf member, by simp [held, served]⟩

def otherData (task : Task) : String := if task.data = "1" then "2" else "1"

theorem otherData_ne (task : Task) : otherData task ≠ task.data := by
  unfold otherData
  split
  · rename_i one
    rw [one]
    decide
  · rename_i other
    exact Ne.symm other

theorem updateWithStatus_touches (found : db.tasks.find? task.id = some task)
    (sameId : updated.id = task.id) (data : updated.data = otherData task) :
    sameSnapshot task updated = false ∧
      updateWithStatus db updated task.status =
        (true, { db with tasks := db.tasks.save updated }) ∧
      ¬ Untouched db { db with tasks := db.tasks.save updated } task.id := by
  have stored := found
  rw [← sameId] at stored
  have differs : task.data ≠ updated.data := by
    rw [data]
    exact Ne.symm (otherData_ne task)
  refine ⟨by simp [sameSnapshot, differs], ?_, ?_⟩
  · rw [updateWithStatus, Table.updateWhere_of_find? _ stored (by simp)]
  · intro untouched
    have same := untouched.1
    rw [found, ← sameId, Table.find?_save_self stored, Option.some.injEq] at same
    exact differs (by rw [same])

/-- A report of new data for a task that goes on. -/
def sunoReport (task : Task) : SunoDataResponse :=
  { taskId := pollingId task
    submitTime := if task.submitTime = 1 then 2 else 1
    data := otherData task }

theorem sunoReport_touches (found : db.tasks.find? task.id = some task)
    (unfailed : task.status ≠ .failure) (unfinished : task.status ≠ .success) :
    ¬ Untouched db (applySunoItem services context (sunoReport task) db task).1 task.id := by
  have needed : taskNeedsUpdate services task (sunoReport task) = true := by
    have differs : task.submitTime ≠ (sunoReport task).submitTime := by
      simp only [sunoReport]
      split <;> omega
    simp [taskNeedsUpdate, differs]
  have goesOn : (sunoAnswered (sunoReport task) task).status = task.status := by
    simp [sunoAnswered, sunoItemFails, takeSunoItem, sunoReport, unfailed]
  have pending : isTerminalTaskStatus (sunoAnswered (sunoReport task) task).status = false := by
    rw [goesOn]
    simp [isTerminalTaskStatus, unfailed, unfinished]
  obtain ⟨-, stored, touched⟩ := updateWithStatus_touches found
    (show (sunoAnswered (sunoReport task) task).id = task.id from rfl) rfl
  simp only [applySunoItem, needed, pending, stored]
  exact touched

/-- The same as the answer to a video query, in either reading of the body. -/
def inProgress : TaskInfo := { status := "IN_PROGRESS" }

def geminiInProgress (task : Task) : GeminiResult :=
  { status := "IN_PROGRESS", publicData := otherData task }

def videoReport (task : Task) : VideoResponse :=
  { parsed := some inProgress
    gemini := some (geminiInProgress task)
    redacted := otherData task }

def videoChannel (task : Task) : PollingChannel :=
  { type := if isGeminiTask task then channelTypeGemini else 0
    resolveTaskChannelKey := fun _ => true }

theorem videoChannel_serves (same : other.platform = task.platform) :
    servesTask (videoChannel task) other = true := by
  have sameKind : isGeminiTask other = isGeminiTask task := by
    unfold isGeminiTask
    rw [same]
  cases gemini : isGeminiTask task
  all_goals simp [servesTask, videoChannel, sameKind, gemini, channelTypeGemini]

theorem videoReport_touches (found : db.tasks.find? task.id = some task) :
    ¬ Untouched db
      (updateVideoSingleTask services context (videoChannel task) (videoReport task) db task).1
      task.id := by
  have serves := videoChannel_serves (rfl : task.platform = task.platform)
  cases gemini : isGeminiTask task with
  | false =>
    have stored := updateWithStatus_touches found (show (videoAnswered services context.time
      (videoReport task) inProgress task).id = task.id from rfl) rfl
    have read : readTaskInfo (videoReport task) = some inProgress := rfl
    have kept : readEmptyStatus (videoReport task) inProgress = some inProgress := rfl
    have known : knownStatus (.ofText inProgress.status) = true := rfl
    have goesOn : isTerminalTaskStatus (.ofText inProgress.status) = false := rfl
    simp [updateVideoSingleTask, serves, gemini, applyVideoResponse, read, kept, known, goesOn,
      stored]
  | true =>
    have stored := updateWithStatus_touches found (show (geminiAnswered services context.time
      (geminiInProgress task) { task with providerResultUri := none }).id = task.id from rfl) rfl
    have read : (videoReport task).gemini = some (geminiInProgress task) := rfl
    have waits : (geminiInProgress task).retryable = false := rfl
    have cleared : setProviderResultUri services task (geminiInProgress task).providerUri =
        some { task with providerResultUri := none } := rfl
    have known : knownStatus (.ofText (geminiTaskInfo (geminiInProgress task)).status) = true := rfl
    have goesOn : isTerminalTaskStatus (geminiAnswered services context.time
        (geminiInProgress task) { task with providerResultUri := none }).status = false := rfl
    simp [updateVideoSingleTask, serves, gemini, applyGeminiVideoPollingResult, read, waits,
      cleared, known, storeGemini, goesOn, stored]

section Necessary

variable {holder : Task} (distinct : DistinctIds tasks)
  (loaded : ∀ task ∈ tasks, db.tasks.find? task.id = some task)
  (attributed : AnswersAttributed services context db platform tasks)
  (held : (buildMaps tasks).taskM.lookup (pollingId holder) = some holder)

include distinct loaded attributed held

theorem channelId_of_touched (answer : Answer) (change : Database → Task → Database × Task)
    (applied : receive services platform (buildMaps tasks) (startPolling context db tasks)
        { context, channelId, channel := some (videoChannel holder), answer } =
      withTask (startPolling context db tasks) (pollingId holder) change)
    (touches : ∀ db : Database, db.tasks.find? holder.id = some holder →
      ¬ Untouched db (change db holder).1 holder.id) : holder.channelId = channelId := by
  have member := ((buildMaps_built tasks).stored _ holder held).1
  have row := (start_tracked context distinct loaded).2 holder member
  obtain ⟨task, known, sameId, concerns⟩ := attributed []
    { context, channelId, channel := some (videoChannel holder), answer } holder
    (Table.find?_mem row).1 (by
      rw [stateAfter, run, applied]
      simp only [withTask, show (startPolling context db tasks).taskM.lookup _ = _ from held]
      exact touches _ row)
  rw [← distinct task known holder (mem_polled.mp member).1 sameId]
  exact concerns.1

theorem suno_holder_channelId (suno : platform = taskPlatformSuno)
    (working : taskIdsOf (buildMaps tasks) channelId ≠ [])
    (unfailed : holder.status ≠ .failure) (unfinished : holder.status ≠ .success) :
    holder.channelId = channelId := by
  have dispatched : ¬ (platform = taskPlatformMidjourney ∨
      taskIdsOf (buildMaps tasks) channelId = []) := by
    rw [suno]
    simp [working, taskPlatformSuno, taskPlatformMidjourney]
  apply channelId_of_touched distinct loaded attributed held (.suno [sunoReport holder])
    (applySunoItem services context (sunoReport holder))
  · unfold receive
    rw [if_neg dispatched]
    simp only [if_pos suno, applySunoItems, foldl_cons, foldl_nil]
    rfl
  · exact fun db row => sunoReport_touches row unfailed unfinished

theorem video_holder_channelId (dispatched : platform ≠ taskPlatformMidjourney)
    (video : platform ≠ taskPlatformSuno)
    (listed : pollingId holder ∈ taskIdsOf (buildMaps tasks) channelId) :
    holder.channelId = channelId := by
  have working := not_or.mpr ⟨dispatched, ne_nil_of_mem listed⟩
  apply channelId_of_touched distinct loaded attributed held
    (.video (pollingId holder) (videoReport holder))
    (updateVideoSingleTask services context (videoChannel holder) (videoReport holder))
  · unfold receive
    rw [if_neg working]
    simp only [if_pos (And.intro video listed)]
  · exact fun db row => videoReport_touches row

end Necessary

section Queries

variable (ofPlatform : ∀ task ∈ tasks, task.platform = platform)
  (queried : AllQueried platform tasks)

include ofPlatform queried

theorem queried_through (member : task ∈ polled tasks) :
    ∃ query ∈ channelQueries platform (buildMaps tasks) task.channelId (videoChannel task),
      getUpstreamTaskId task ∈ query.ids := by
  have available : ∀ other ∈ polled tasks, ∃ channel,
      (fun _ : Int => some (videoChannel task)) other.channelId = some channel ∧
        (platform = taskPlatformSuno ∨ servesTask channel other = true) := by
    intro other otherMember
    refine ⟨_, rfl, .inr (videoChannel_serves ?_)⟩
    rw [ofPlatform other (mem_polled.mp otherMember).1, ofPlatform task (mem_polled.mp member).1]
  obtain ⟨query, sent, through, named⟩ :=
    queried (fun _ => some (videoChannel task)) available task member
  rw [queries, mem_flatMap] at sent
  obtain ⟨channelId, -, sent⟩ := sent
  have same : query.channelId = channelId := by
    simp only [channelQueries] at sent
    split at sent
    · simp at sent
    split at sent
    · rw [mem_singleton] at sent
      rw [sent]
    · obtain ⟨id, -, made⟩ := mem_filterMap.mp sent
      obtain ⟨holder, -, here⟩ := Option.map_eq_some_iff.mp made
      rw [← here]
  rw [← same, through] at sent
  exact ⟨query, sent, named⟩

theorem polled_midjourney (midjourney : platform = taskPlatformMidjourney) :
    polled tasks = [] := by
  by_contra some
  obtain ⟨task, member⟩ := exists_mem_of_ne_nil _ some
  obtain ⟨query, sent, -⟩ := queried_through ofPlatform queried member
  simp [channelQueries, midjourney] at sent

theorem held_of_queried (distinct : DistinctIds tasks)
    (loaded : ∀ task ∈ tasks, db.tasks.find? task.id = some task)
    (unique : UniqueWithinChannel tasks)
    (attributed : AnswersAttributed services context db platform tasks)
    (dispatched : platform ≠ taskPlatformMidjourney) (video : platform ≠ taskPlatformSuno)
    (member : task ∈ polled tasks) :
    (buildMaps tasks).taskM.lookup (pollingId task) = some task := by
  obtain ⟨query, sent, named⟩ := queried_through ofPlatform queried member
  simp only [channelQueries, if_neg dispatched, if_neg video, mem_filterMap] at sent
  obtain ⟨id, listed, made⟩ := sent
  obtain ⟨holder, found, here⟩ := Option.map_eq_some_iff.mp made
  have held := (Option.filter_eq_some_iff.mp found).1
  have stored := (buildMaps_built tasks).stored id holder held
  rw [← stored.2] at held listed
  have sameChannel := video_holder_channelId distinct loaded attributed held dispatched video listed
  have sameUpstream : getUpstreamTaskId task = getUpstreamTaskId holder := by
    rw [← here] at named
    simpa using named
  rw [← unique task member holder stored.1 sameChannel.symm sameUpstream] at held
  exact held

end Queries

/-- One pass over the tasks of a platform: every polled task is in a query through its channel
and every answer changes only tasks of its channel that it names, whatever the answers say and
in whatever order they come, exactly when the tasks are `Separated`. -/
theorem answers_attributed_iff (services : Services) (context : Context) (db : Database)
    (limit : Nat) (platform : String)
    (unique : UniqueWithinChannel (platformTasks db limit platform)) :
    (AllQueried platform (platformTasks db limit platform) ∧
        AnswersAttributed services context db platform (platformTasks db limit platform)) ↔
      Separated platform (platformTasks db limit platform) := by
  have loaded : ∀ task ∈ platformTasks db limit platform, db.tasks.find? task.id = some task :=
    fun task member => (mem_platformTasks member).1
  have ofPlatform : ∀ task ∈ platformTasks db limit platform, task.platform = platform :=
    fun task member => (mem_platformTasks member).2.1
  have built := buildMaps_built (platformTasks db limit platform)
  constructor
  · rintro ⟨queried, attributed⟩
    unfold Separated
    split
    · rename_i midjourney
      exact polled_midjourney ofPlatform queried midjourney
    · rename_i dispatched
      split
      · rename_i suno
        intro left leftMember right rightMember
        -- Both channels can answer for the task that `taskM` holds under the left one's id.
        obtain ⟨holder, held⟩ := built.present left leftMember
        have stored := built.stored _ holder held
        have status := (mem_platformTasks (mem_polled.mp stored.1).1).2.2
        rw [← stored.2] at held
        have answers : ∀ task ∈ polled (platformTasks db limit platform),
            holder.channelId = task.channelId := fun task member =>
          suno_holder_channelId platformTasks_distinct loaded attributed held suno
            (ne_nil_of_mem (mem_taskIdsOf member)) status.1 status.2
        rw [← answers left leftMember, ← answers right rightMember]
      · rename_i video
        intro left leftMember right rightMember same
        have holds : ∀ task ∈ polled (platformTasks db limit platform),
            (buildMaps (platformTasks db limit platform)).taskM.lookup (pollingId task) =
              some task := fun task member =>
          held_of_queried ofPlatform queried platformTasks_distinct loaded unique attributed
            dispatched video member
        have held := holds left leftMember
        rw [same, holds right rightMember] at held
        exact (Option.some.inj held).symm
  · intro separated
    exact ⟨separated.allQueried ofPlatform,
      separated.answersAttributed platformTasks_distinct loaded ofPlatform⟩

def sampleServices : Services where
  jsonSemanticEqual := fun left right => some (decide (left = right))
  calculateTaskBillingOnComplete := fun task _ => task.quota
  openDataEncryptionValue := some
  sealDataEncryptionValue := some
  serverAddress := ""

def sampleTask (platform : String) (id : Int) (upstreamTaskId : String) : Task :=
  { id, billingOperationId := id, platform, userId := 1, channelId := id, quota := 40,
    status := .inProgress, progress := "30%", privateData := { upstreamTaskId } }

def sampleOperation (id : Int) (requestId : String) : BillingOperation :=
  { id, requestId, taskId := id, userId := 1, reservedQuota := 40 }

def pollingStore (platform first second : String) : Database where
  users := .ofRows [{ id := 1, quota := 100 }]
  operations := .ofRows [sampleOperation 1 "r1", sampleOperation 2 "r2"]
  tasks := .ofRows [sampleTask platform 1 first, sampleTask platform 2 second]

theorem answers_attributed_iff_sample :
    UniqueWithinChannel (platformTasks (pollingStore "50" "x" "y") 100 "50") ∧
      Separated "50" (platformTasks (pollingStore "50" "x" "y") 100 "50") ∧
      AnswersAttributed sampleServices BillingConservation.sampleContext
        (pollingStore "50" "x" "y") "50"
        (platformTasks (pollingStore "50" "x" "y") 100 "50") :=
  ⟨by decide +kernel, by decide +kernel,
    ((answers_attributed_iff sampleServices BillingConservation.sampleContext
      (pollingStore "50" "x" "y") 100 "50" (by decide +kernel)).mpr (by decide +kernel)).2⟩

def failureFrom (answer : Answer) : Received where
  context := BillingConservation.sampleContext
  channelId := 1
  channel := some { type := 0, resolveTaskChannelKey := fun _ => true }
  answer

def sunoFailure : Received :=
  failureFrom (.suno [{ taskId := "y", status := "FAILURE", failReason := "no" }])

def videoFailure : Received :=
  failureFrom (.video "x" { parsed := some { status := "FAILURE", reason := "no" } })

def answeredStore (platform first second : String) (received : Received) : Database :=
  (stateAfter sampleServices BillingConservation.sampleContext
    (pollingStore platform first second) platform
    (platformTasks (pollingStore platform first second) 100 platform) [received]).db

/-- The answer of channel 1 fails and refunds the task of channel 2: a Suno answer that names
its id, and a video answer for an id that both channels have given out. -/
theorem answers_reach_other_channel :
    (UniqueWithinChannel (platformTasks (pollingStore "suno" "x" "y") 100 "suno") ∧
      ((answeredStore "suno" "x" "y" sunoFailure).tasks.find? 2).map Task.status =
        some .failure ∧
      (answeredStore "suno" "x" "y" sunoFailure).wallet 1 = some 140 ∧
      ¬ AnswersAttributed sampleServices BillingConservation.sampleContext
        (pollingStore "suno" "x" "y") "suno"
        (platformTasks (pollingStore "suno" "x" "y") 100 "suno")) ∧
    UniqueWithinChannel (platformTasks (pollingStore "50" "x" "x") 100 "50") ∧
      ((answeredStore "50" "x" "x" videoFailure).tasks.find? 2).map Task.status =
        some .failure ∧
      ¬ AnswersAttributed sampleServices BillingConservation.sampleContext
        (pollingStore "50" "x" "x") "50"
        (platformTasks (pollingStore "50" "x" "x") 100 "50") := by
  constructor
  · refine ⟨by decide +kernel, by decide +kernel, by decide +kernel, ?_⟩
    intro attributed
    exact absurd (attributed [] sunoFailure) (by decide +kernel)
  · refine ⟨by decide +kernel, by decide +kernel, ?_⟩
    intro attributed
    exact absurd (attributed [] videoFailure) (by decide +kernel)

end NewApi.PollingAttribution
