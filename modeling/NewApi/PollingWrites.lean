import NewApi.BillingConservation
import NewApi.TaskPolling

/-!
What the polling workers write. A worker changes one task at a time, and touches only
that task's row and billing operations; it keeps what identifies the task. The frame
is proved for the two writes there are, the guarded update of a row and the billing
transition, and holds of every worker's change built from them.
-/

namespace NewApi.PollingWrites

open Runs BillingOperations TaskBilling BillingLedger BillingConservation TaskPolling Table

/-- What no worker changes of a task. -/
def identity (task : Task) : Int × String × String × String × Int :=
  (task.id, task.platform, task.taskId, task.privateData.upstreamTaskId, task.channelId)

/-- The operations tied to a task. An operation without a task has task id 0. -/
def taskBilling (db : Database) (id : Int) : List BillingOperation :=
  db.operations.rows.filter fun operation =>
    decide (operation.taskId = id ∧ operation.taskId ≠ 0)

def Untouched (before after : Database) (id : Int) : Prop :=
  after.tasks.find? id = before.tasks.find? id ∧ taskBilling after id = taskBilling before id

instance (before after : Database) (id : Int) : Decidable (Untouched before after id) :=
  inferInstanceAs (Decidable (_ ∧ _))

variable {id : Int}

theorem Untouched.refl (db : Database) (id : Int) : Untouched db db id := ⟨rfl, rfl⟩

theorem Untouched.trans {first second third : Database} (left : Untouched first second id)
    (right : Untouched second third id) : Untouched first third id :=
  ⟨right.1.trans left.1, right.2.trans left.2⟩

theorem identity_id {left right : Task} (same : identity left = identity right) :
    left.id = right.id := by
  simp only [identity, Prod.mk.injEq] at same
  exact same.1

/-- The row of one task may have become `updated`; no other row changed. -/
structure RowWritten (before after : Database) (id : Int) (updated : Task) : Prop where
  others : ∀ other, other ≠ id → after.tasks.find? other = before.tasks.find? other
  row : ∀ row, after.tasks.find? id = some row →
    row = updated ∨ before.tasks.find? id = some row

variable {db : Database}
variable {after before start opened : Database} {updated current task written stored : Task}
  {other requested settled : Int} {outcome : Outcome} {context : Context}
  {operation : BillingOperation} {moved : Transition} {created : Bool} {response : VideoResponse}

theorem RowWritten.of_same (same : after.tasks = before.tasks) (id : Int) (updated : Task) :
    RowWritten before after id updated := by
  constructor
  · intro other _
    rw [same]
  · intro row found
    rw [same] at found
    exact .inr found

theorem RowWritten.of_start (written : RowWritten before after id updated)
    (same : before.tasks = start.tasks) : RowWritten start after id updated := by
  constructor
  · intro other different
    rw [written.others other different, same]
  · intro row found
    rw [← same]
    exact written.row row found

theorem RowWritten.of_updateWhere {tasks : Table Task.id} {guard : Task → Bool}
    (sameId : updated.id = id)
    (written : db.tasks.updateWhere id guard (fun _ => updated) = some tasks) :
    RowWritten db { db with tasks } id updated := by
  obtain ⟨old, found, -, saved⟩ := updateWhere_eq_some written
  subst saved sameId
  constructor
  · intro other different
    exact find?_save_other (Ne.symm different)
  · intro row stored
    have now : (db.tasks.save updated).find? updated.id = some updated :=
      find?_save_self found
    exact .inl (Option.some.inj (stored.symm.trans now))

theorem finalTask_id (task : Task) (operationId quota : Int) :
    (finalTask current task operationId quota).id = current.id := rfl

theorem updateTask_written (sameId : updated.id = current.id)
    (done : updateTask db current updated = .ok after) :
    after.operations = db.operations ∧ RowWritten db after current.id updated ∧
      after.tasks.find? current.id = some updated := by
  unfold updateTask at done
  split at done
  · simp at done
  rename_i written
  cases done
  refine ⟨rfl, .of_updateWhere sameId written, ?_⟩
  obtain ⟨old, found, -, rfl⟩ := updateWhere_eq_some written
  rw [← sameId] at found ⊢
  exact find?_save_self found

theorem storeTask_written (sameId : updated.id = current.id)
    (done : storeTask db current updated = .ok after) :
    after.operations = db.operations ∧ RowWritten db after current.id updated := by
  unfold storeTask at done
  split at done
  · exact (updateTask_written sameId done).imp_right (·.1)
  cases done
  exact ⟨rfl, .of_same rfl _ _⟩

theorem taskBilling_closed
    (loading : loadOrAdoptTaskBillingOperation db current = .ok (operation, created, opened))
    (own : operation.taskId = 0 ∨ operation.taskId = current.id)
    (moving : transitionBillingOperationTx context opened operation requested outcome true =
      .ok moved) (different : other ≠ current.id) :
    taskBilling moved.db other = taskBilling db other := by
  have unselected : decide (operation.taskId = other ∧ operation.taskId ≠ 0) = false := by
    rcases own with zero | here
    · simp [zero]
    · simp [here, Ne.symm different]
  have opening : opened.operations.find? operation.id = some operation ∧
      taskBilling opened other = taskBilling db other := by
    rcases loadOrAdopt_ok loading with ⟨-, same, found⟩ | ⟨-, -, -, operations, inserted, same⟩
    · subst same
      exact ⟨found, rfl⟩
    · subst same
      have appended := (insert?_eq_some inserted).2
      constructor
      · rw [find?_insert? inserted, if_pos rfl]
      · simp only [taskBilling, appended, List.filter_append, List.filter_cons, unselected]
        simp
  rcases (transition_effect moving).1 with ⟨-, rfl⟩ | closed
  · exact opening.2
  · rw [← opening.2]
    have replaced : opened.operations.find? moved.operation.id = some operation := by
      rw [closed.advanced.identity.id]
      exact opening.1
    simp only [taskBilling, closed.advanced.operations]
    apply filter_rows_save replaced unselected
    rw [closed.taskId]
    exact unselected

theorem loadOrAdopt_tasks
    (loading : loadOrAdoptTaskBillingOperation db current = .ok (operation, created, opened)) :
    opened.tasks = db.tasks := by
  rcases loadOrAdopt_ok loading with ⟨-, same, -⟩ | ⟨-, -, -, operations, -, same⟩
  all_goals rw [same]

theorem transition_tasks
    (moving : transitionBillingOperationTx context db operation requested outcome true =
      .ok moved) : moved.db.tasks = db.tasks := by
  rcases (transition_effect moving).1 with ⟨-, rfl⟩ | closed
  · rfl
  · exact closed.tasks

theorem identity_finalTask (same : identity current = identity task) (operationId quota : Int) :
    identity (finalTask current task operationId quota) = identity task := by
  have sameId := identity_id same
  unfold finalTask
  split
  · exact same
  · simp only [identity, sameId]

structure Handles (db : Database) (task : Task) (done : Database × Task) : Prop where
  others : ∀ other, other ≠ task.id → Untouched db done.1 other
  copy : identity done.2 = identity task
  row : ∀ row, done.1.tasks.find? task.id = some row → identity row = identity task

/-- A change of a task that respects what identifies it, wherever the row is the task's own. -/
def Respects (change : Database → Task → Database × Task) : Prop :=
  ∀ db task, (∀ row, db.tasks.find? task.id = some row → identity row = identity task) →
    Handles db task (change db task)

section Handlers

variable (own : ∀ row, db.tasks.find? task.id = some row → identity row = identity task)

include own

theorem Handles.of_written {copy : Task} (rows : RowWritten db after task.id written)
    (sameWritten : identity written = identity task) (sameCopy : identity copy = identity task)
    (billing : ∀ other, other ≠ task.id → taskBilling after other = taskBilling db other) :
    Handles db task (after, copy) := by
  constructor
  · intro other different
    exact ⟨rows.others other different, billing other different⟩
  · exact sameCopy
  · intro row found
    rcases rows.row row found with here | before
    · rw [here]
      exact sameWritten
    · exact own row before

theorem Handles.idle {copy : Task}
    (same : identity copy = identity task) : Handles db task (db, copy) :=
  .of_written own (.of_same rfl _ copy) same same fun _ _ => rfl

variable {fromStatus : TaskStatus} {done : TaskTransition}

theorem updateWithStatus_handles (same : identity updated = identity task) :
    Handles db task ((updateWithStatus db updated fromStatus).2, updated) := by
  unfold updateWithStatus
  split
  · exact .idle own same
  rename_i written
  have rows := RowWritten.of_updateWhere rfl written
  rw [identity_id same] at rows
  exact .of_written own rows same same fun _ _ => rfl

theorem closeLegacyTask_handles (found : db.tasks.find? task.id = some current)
    (same : identity updated = identity task)
    (closing : closeLegacyTask db current updated requested = .ok done) :
    Handles db task (done.db, done.task) := by
  have sameCurrent := own current found
  have sameId : current.id = task.id := identity_id sameCurrent
  unfold closeLegacyTask at closing
  split at closing
  · cases closing
    exact .idle own sameCurrent
  · obtain ⟨after, updating, closing⟩ := bind_ok closing
    cases closing
    have sameFinal := (identity_finalTask (sameCurrent.trans same.symm) 0 0).trans same
    obtain ⟨operations, rows, -⟩ := updateTask_written (finalTask_id _ _ _) updating
    rw [sameId] at rows
    apply Handles.of_written own rows sameFinal sameFinal
    intro other _
    simp only [taskBilling, operations]

theorem applyTask_handles
    (same : identity updated = identity task)
    (applied : applyTaskBillingTransition context db updated fromStatus requested outcome =
      .ok done) : Handles db task (done.db, done.task) := by
  obtain ⟨-, current, found, -, ⟨-, legacy⟩ |
    ⟨-, operation, created, opened, moved, loading, tied, moving, writing⟩⟩ := applyTask_ok applied
  all_goals rw [identity_id same] at found
  · exact closeLegacyTask_handles own found same legacy
  · have sameCurrent := own current found
    have sameId : current.id = task.id := identity_id sameCurrent
    obtain ⟨after, storing, writing⟩ := bind_ok writing
    cases writing
    have sameFinal := (identity_finalTask (sameCurrent.trans same.symm) moved.operation.id
      (finalQuota moved.operation)).trans same
    obtain ⟨operations, rows⟩ := storeTask_written (finalTask_id _ _ _) storing
    have sameTasks : moved.db.tasks = db.tasks :=
      (transition_tasks moving).trans (loadOrAdopt_tasks loading)
    rw [sameId] at rows
    apply Handles.of_written own (rows.of_start sameTasks) sameFinal sameFinal
    intro other different
    rw [← sameId] at different
    rw [← taskBilling_closed loading tied moving different]
    simp only [taskBilling, operations]

theorem commit_handles (same : identity updated = identity task) :
    Handles db task (commit context db updated fromStatus requested outcome) := by
  unfold commit
  split
  · rename_i applied
    exact applyTask_handles own same applied
  · exact .idle own same

theorem commitFinal_handles (same : identity updated = identity task) :
    Handles db task (commitFinal context db updated fromStatus settled) := by
  unfold commitFinal
  split
  all_goals exact commit_handles own same

end Handlers

theorem failTask_respects (context : Context) (reason : String) :
    Respects (failTask context reason) := fun _ _ own => commit_handles own rfl

variable (services : Services)

theorem applySunoItem_respects (context : Context) (item : SunoDataResponse) :
    Respects (applySunoItem services context item) := by
  intro db task own
  unfold applySunoItem
  split
  · exact .idle own rfl
  split
  · exact commitFinal_handles own rfl
  · exact updateWithStatus_handles own rfl

theorem identity_withStatus (now : Int) (info : TaskInfo) (task : Task) :
    identity (withStatus services now info task) = identity task := by
  unfold withStatus
  split <;> rfl

theorem identity_withProgress (progress : String) (task : Task) :
    identity (withProgress progress task) = identity task := by
  unfold withProgress
  split <;> rfl

theorem applyVideoResponse_respects :
    Respects (applyVideoResponse services context response) := by
  intro db task own
  have same (info : TaskInfo) :
      identity (videoAnswered services context.time response info task) = identity task := by
    rw [videoAnswered, identity_withProgress, identity_withStatus]
    rfl
  unfold applyVideoResponse
  split
  · exact .idle own rfl
  split
  · exact .idle own rfl
  rename_i info _
  split
  · exact .idle own (identity_withStatus services context.time info _)
  split
  · exact commitFinal_handles own (same info)
  split
  · exact .idle own (same info)
  · exact updateWithStatus_handles own (same info)

theorem identity_setProviderResultUri {uri : String} {services : Services}
    (done : setProviderResultUri services task uri = some stored) :
    identity stored = identity task := by
  have sealed : sealProviderResultUri services task uri = some stored →
      identity stored = identity task := by
    intro done
    obtain ⟨text, -, here⟩ := Option.map_eq_some_iff.mp done
    rw [← here]
    rfl
  unfold setProviderResultUri at done
  split at done
  · cases done
    rfl
  · split at done
    · simp at done
    split at done
    · exact sealed done
    split at done
    · simp at done
    split at done
    · cases done
      rfl
    · exact sealed done

theorem storeGemini_handles {info : TaskInfo} {services : Services}
    (own : ∀ row, db.tasks.find? task.id = some row → identity row = identity task)
    (same : identity updated = identity task) :
    Handles db task (storeGemini services context db task updated info) := by
  unfold storeGemini
  split
  · split
    · rename_i applied
      exact applyTask_handles own same applied
    · exact .idle own rfl
  · split
    · exact .idle own rfl
    split
    · exact updateWithStatus_handles own same
    · exact .idle own rfl

theorem applyGemini_respects :
    Respects (applyGeminiVideoPollingResult services context response) := by
  intro db task own
  unfold applyGeminiVideoPollingResult
  iterate 3
    split
    · exact .idle own rfl
  rename_i stored done
  split
  · exact .idle own rfl
  apply storeGemini_handles own
  rw [geminiAnswered, identity_withProgress, identity_withStatus]
  have sameStored := identity_setProviderResultUri done
  exact sameStored

theorem updateVideoSingleTask_respects (context : Context) (channel : PollingChannel)
    (response : VideoResponse) :
    Respects (updateVideoSingleTask services context channel response) := by
  intro db task own
  unfold updateVideoSingleTask
  split
  · exact .idle own rfl
  split
  · exact applyGemini_respects services db task own
  · exact applyVideoResponse_respects services db task own

end NewApi.PollingWrites
