import NewApi.BillingConservation
import NewApi.MidjourneyMeters

/-!
Midjourney reservations charge and refund once, over every run of reservations, tasks,
settlements, refunds and poller updates. The changes that are booked on a request add up to
what its reservation still stakes, which is nothing once it is refunded.

A task that is older than reservations is refunded from its own row, and only the status that
the update expects keeps it from being refunded again. An update that expects FAILURE finds
the refunded row.
-/

namespace NewApi.MidjourneyLedger

open Runs Attribution BillingOperations Wallet MidjourneyReservation MidjourneyPolling Table Option
  MidjourneyMeters

theorem settleItem_row (task : PolledTask) :
    identity (settleItem task).1.row = identity task.row := by
  unfold settleItem
  split <;> rfl

theorem settleItem_failure {task : PolledTask} (failure : (settleItem task).2 = .failure) :
    (settleItem task).1.row.status = "FAILURE" ∧ (settleItem task).1.details.progress = "100%" := by
  unfold settleItem at failure ⊢
  split
  · exact ⟨rfl, rfl⟩
  rename_i running
  rw [if_neg running] at failure
  split at failure <;> cases failure

/-- An update is for the task of a copy, expects the status of the copy and, when it refunds,
writes a finished failure. -/
structure Sent (board : Board) (update : Update) : Prop where
  copy : ∃ task ∈ board.copies, identity update.task.row = identity task.row
  failure : update.outcome = .failure →
    update.task.row.status = "FAILURE" ∧ update.task.details.progress = "100%"

variable {board next : Board} {sent : Option Update} {refunded : Bool} {task stored : Midjourney}
  {cause : Cause} {db : Database} {entry : Entry Database Cause Bool}

theorem sends_spec {action : Action} {update : Update} (sent : sends board action = some update) :
    Sent board update := by
  cases action with
  | failNullTask copy | failChannel copy channelId =>
    rcases bind_eq_some_iff.mp sent with ⟨task, loaded, sent⟩
    split at sent <;> cases sent
    exact ⟨⟨task, List.mem_of_getElem? loaded, rfl⟩, fun _ => ⟨rfl, rfl⟩⟩
  | report copy now item =>
    rcases bind_eq_some_iff.mp sent with ⟨task, loaded, sent⟩
    split at sent <;> cases sent
    exact ⟨⟨task, List.mem_of_getElem? loaded, settleItem_row _⟩, settleItem_failure⟩
  | _ => cases sent

inductive Tasks (board next : Board) (cause : Cause) (refunded : Bool) : Option Update → Prop
  | kept {sent : Option Update} (rows : next.db.midjourneys = board.db.midjourneys)
      (details : next.details = board.details)
      (booked : ∀ id, cause = .task id → refunded = false) :
      Tasks board next cause refunded sent
  | created {sent : Option Update} (row : Midjourney) (details : TaskDetails)
      (rows : board.db.midjourneys.insert? row = some next.db.midjourneys)
      (columns : next.details = writeDetails board.details row.id details)
      (booked : ∀ id, cause ≠ .task id) : Tasks board next cause refunded sent
  | won (update : Update) (stored : Midjourney) (sent : Sent board update)
      (known : Known board.db update.task.row)
      (found : board.db.midjourneys.find? update.task.row.id = some stored)
      (matched : stored.status = update.fromStatus)
      (rows : next.db.midjourneys = board.db.midjourneys.save update.task.row)
      (columns : next.details =
        writeDetails board.details update.task.row.id update.task.details)
      (booked : cause = taskCause board.db update.task.row)
      (failure : refunded = true → update.outcome = .failure) :
      Tasks board next cause refunded (some update)

structure Booked (board next : Board) (sent : Option Update) (cause : Cause) (refunded : Bool) :
    Prop where
  history : next.history = ⟨cause, board.db, next.db, refunded⟩ :: board.history
  effect : Effect board.db next.db cause refunded
  tasks : Tasks board next cause refunded sent
  copies : ∀ copy ∈ next.copies, copy ∈ board.copies ∨ Known board.db copy.row

structure Quiet (board next : Board) : Prop where
  db : next.db = board.db
  history : next.history = board.history
  details : next.details = board.details
  copies : ∀ copy ∈ next.copies, copy ∈ board.copies ∨ Known board.db copy.row

variable {update : Update}

section Steps

theorem booked_error (board : Board) (cause : Cause) :
    Booked board (post board cause board.db false) sent cause false :=
  ⟨rfl, .idle cause rfl (fun _ => rfl), .kept rfl rfl (fun _ _ => rfl), fun _ => .inl⟩

theorem transact_spec (cause : String) (result : Except StoreError (Bool × Database))
    (each : ∀ refunded db, result = .ok (refunded, db) →
      db.midjourneys = board.db.midjourneys ∧ Effect board.db db (.request cause) refunded) :
    ∃ refunded, Booked board (transact board (.request cause) result) sent (.request cause)
      refunded := by
  cases result with
  | error reason => exact ⟨false, booked_error board _⟩
  | ok done =>
    rcases done with ⟨refunded, db⟩
    rcases each refunded db rfl with ⟨rows, effect⟩
    refine ⟨refunded, rfl, effect, .kept rows rfl ?_, fun _ => .inl⟩
    rintro _ ⟨⟩

variable {settings : Settings}

theorem createTask_spec (task : Midjourney) (details : TaskDetails) (reservationId : Int)
    (outcome : BillingOutcome) :
    ∃ cause refunded, Booked board (createTask settings board task details reservationId outcome)
      sent cause refunded := by
  unfold createTask
  split
  · exact ⟨_, _, booked_error board _⟩
  rename_i refunded db done
  rcases (create_effect done).1 with ⟨⟨row, id, inserted⟩, effect⟩
  refine ⟨_, refunded, rfl, effect, .created row details inserted ?_ ?_, fun _ => .inl⟩
  · rw [id]
  · rintro _ ⟨⟩

theorem deliver_spec (polled : Sent board update)
    (copies : ∀ copy ∈ board.copies, Known board.db copy.row) :
    ∃ cause refunded, Booked board (deliver settings board update) (some update) cause
      refunded := by
  rcases polled.copy with ⟨task, member, same⟩
  have known := (copies task member).congr same
  have marked : ∀ copy ∈ board.copies.set update.copy update.task,
      copy ∈ board.copies ∨ Known board.db copy.row := by
    intro copy here
    rcases List.mem_or_eq_of_mem_set here with old | rfl
    · exact .inl old
    · exact .inr known
  unfold deliver
  simp only
  split
  · exact ⟨_, _, rfl, .idle _ rfl (fun _ => rfl), .kept rfl rfl (fun _ _ => rfl), marked⟩
  · rename_i refunded db done
    rcases (update_effect done).1 with ⟨-, rfl, rfl⟩ | ⟨won, -⟩
    · exact ⟨_, _, rfl, .idle _ rfl (fun _ => rfl), .kept rfl rfl (fun _ _ => rfl), marked⟩
    · cases won
  · rename_i refunded db done
    rcases (update_effect done).1 with ⟨lost, -⟩ | ⟨-, effect, failure, rows, stored, found, hit⟩
    · cases lost
    · exact ⟨_, _, rfl, effect known,
        .won update stored polled known found hit rows rfl rfl failure, marked⟩

theorem poll_spec (action : Action) (copies : ∀ copy ∈ board.copies, Known board.db copy.row) :
    Quiet board (poll settings board action) ∨
      ∃ cause refunded, Booked board (poll settings board action) (sends board action) cause
        refunded := by
  unfold poll
  cases sent : sends board action with
  | none => exact .inl ⟨rfl, rfl, rfl, fun _ => .inl⟩
  | some update => exact .inr (deliver_spec (sends_spec sent) copies)

theorem step_spec (board : Board) (call : Call)
    (copies : ∀ copy ∈ board.copies, Known board.db copy.row) :
    Quiet board (step board call) ∨
      ∃ cause refunded, Booked board (step board call) (sends board call.action) cause
        refunded := by
  rcases call with ⟨settings, action⟩
  cases action with
  | reserve input =>
    right
    refine ⟨_, transact_spec (trimSpace input.requestId) _ ?_⟩
    intro refunded db done
    rcases map_ok done with ⟨⟨reservation, created, after⟩, reserved, stored⟩
    cases stored
    exact (reserve_effect reserved).1
  | refund reservationId =>
    right
    refine ⟨_, transact_spec (requestOf board.db reservationId) _ ?_⟩
    intro refunded db done
    exact (close_effect done).1
  | settle reservationId =>
    right
    refine ⟨_, transact_spec (requestOf board.db reservationId) _ ?_⟩
    intro refunded db done
    rcases map_ok done with ⟨⟨changed, after⟩, settled, stored⟩
    cases stored
    exact (close_effect settled).1
  | create task details reservationId outcome => exact .inr (createTask_spec ..)
  | load =>
    left
    refine ⟨rfl, rfl, rfl, ?_⟩
    intro copy member
    rcases List.mem_append.mp member with old | new
    · exact .inl old
    · right
      simp only [getAllUnFinishTasks, List.mem_map, List.mem_filter] at new
      rcases new with ⟨row, ⟨stored, -⟩, rfl⟩
      rw [Known, mem_find? stored]
      rfl
  | failNullTask copy | failChannel copy channelId | report copy now item =>
    exact poll_spec _ copies

end Steps

/-- A task transaction either reports no refund and moves no meter, or it credits the owner of
the task. -/
def Credited (db : Database) (entry : Entry Database Cause Bool) : Prop :=
  ∀ id, entry.cause = .task id →
    (entry.answer = false ∧ ∀ meter, shift meter entry = 0) ∨
    (entry.answer = true ∧ ∃ task, task.id = id ∧ Known db task ∧
      ∀ meter, shift meter entry = walletPart task.userId task.quota meter)

structure Sound (start : Database) (board : Board) : Prop where
  linked : Linked start board.history board.db
  distinct : Distinct board.db
  copies : ∀ copy ∈ board.copies, Known board.db copy.row
  posted : ∀ entry ∈ board.history, Posted entry
  credited : ∀ entry ∈ board.history, Credited board.db entry
  positive : ∀ request reservation, findReservation start request = none →
    findReservation board.db request = some reservation → 0 < reservation.quota

section Runs

theorem Tasks.known (tasks : Tasks board next cause refunded sent) (known : Known board.db task) :
    Known next.db task := by
  cases tasks with
  | kept rows _ _ =>
    rw [Known, rows]
    exact known
  | created row details rows _ _ =>
    have other : row.id ≠ task.id := by
      intro same
      rw [Known, ← same, (insert?_eq_some rows).1] at known
      cases known
    rw [Known, find?_insert? rows, if_neg other]
    exact known
  | won update stored _ same found _ rows _ _ _ =>
    rw [Known, rows, find?_save]
    by_cases here : update.task.row.id = task.id
    · rw [Known] at known same
      rw [← here, same] at known
      rw [if_pos here, ← here, found]
      exact known
    · rw [if_neg here]
      exact known

variable {after start : Database}

theorem Effect.credited (effect : Effect db after cause refunded) :
    Credited db ⟨cause, db, after, refunded⟩ := by
  intro id booked
  cases effect with
  | idle _ rows meters =>
    refine .inl ⟨rfl, ?_⟩
    intro meter
    rw [shift, meters, Int.sub_self]
  | opened => cases booked
  | moved => cases booked
  | legacy task known old rows meters =>
    cases booked
    refine .inr ⟨rfl, task, rfl, known, ?_⟩
    intro meter
    simp only [shift, meters]
    omega

theorem Credited.mono (credited : Credited db entry)
    (kept : ∀ task, Known db task → Known after task) : Credited after entry := by
  intro id booked
  rcases credited id booked with none | ⟨answer, task, same, known, meters⟩
  · exact .inl none
  · exact .inr ⟨answer, task, same, kept task known, meters⟩

theorem Quiet.sound (quiet : Quiet board next) (sound : Sound start board) :
    Sound start next := by
  rcases next with ⟨db, details, copies, history⟩
  rcases quiet with ⟨rfl, rfl, -, loaded⟩
  refine { sound with copies := ?_ }
  intro copy member
  rcases loaded copy member with old | known
  · exact sound.copies copy old
  · exact known

theorem Booked.sound (booked : Booked board next sent cause refunded)
    (sound : Sound start board) : Sound start next := by
  constructor
  case linked =>
    rw [booked.history]
    exact ⟨rfl, sound.linked⟩
  case distinct => exact booked.effect.distinct sound.distinct
  case copies =>
    intro copy member
    apply booked.tasks.known
    rcases booked.copies copy member with old | known
    · exact sound.copies copy old
    · exact known
  case posted =>
    rw [booked.history, List.forall_mem_cons]
    exact ⟨booked.effect.posted sound.distinct, sound.posted⟩
  case credited =>
    rw [booked.history, List.forall_mem_cons]
    refine ⟨(Effect.credited booked.effect).mono fun _ => booked.tasks.known, ?_⟩
    intro entry member
    exact (sound.credited entry member).mono fun _ => booked.tasks.known
  case positive =>
    intro request reservation absent found
    rcases booked.effect.quota sound.distinct found with positive | ⟨old, before, same⟩
    · exact positive
    · rw [← same]
      exact sound.positive request old absent before

theorem step_sound (start : Database) (board : Board) (call : Call) (sound : Sound start board) :
    Sound start (step board call) := by
  rcases step_spec board call sound.copies with quiet | ⟨cause, refunded, booked⟩
  · exact quiet.sound sound
  · exact booked.sound sound

theorem Sound.total_shift (sound : Sound start board) (request : String) (meter : Meter) :
    total (shift meter) (.request request) board.history =
      held board.db request meter - held start request meter := by
  apply total_eq_share (held · request meter) sound.linked
  · intro entry member own
    exact (sound.posted entry member).moved request own meter
  · intro entry member other
    simp only [held, (sound.posted entry member).apart request other]

theorem Sound.total_refunds (sound : Sound start board) (request : String) :
    total refundCount (.request request) board.history =
      returned board.db request - returned start request := by
  apply total_eq_share (returned · request) sound.linked
  · intro entry member own
    exact (sound.posted entry member).counted request own
  · intro entry member other
    simp only [returned, (sound.posted entry member).apart request other]

theorem returned_bounds (db : Database) (request : String) :
    0 ≤ returned db request ∧ returned db request ≤ 1 := by
  unfold returned
  split
  · decide
  · split <;> decide

theorem Sound.total_credits (sound : Sound start board)
    (found : board.db.midjourneys.find? task.id = some task) (meter : Meter) :
    total (shift meter) (.task task.id) board.history =
      total refundCount (.task task.id) board.history *
        walletPart task.userId task.quota meter := by
  apply total_eq_mul
  intro entry member own
  rcases sound.credited entry member task.id own with
    ⟨answer, meters⟩ | ⟨answer, other, same, known, meters⟩
  · simp [refundCount, answer, meters]
  · rw [Known, same, found] at known
    simp only [identity, map_some, Option.some.injEq, Prod.mk.injEq] at known
    rw [meters, refundCount, if_pos answer, Int.one_mul, known.2.1, known.2.2.1]

end Runs

def Guarded (board : Board) (call : Call) : Prop :=
  match sends board call.action with
  | none => True
  | some update =>
    0 < update.task.row.quotaReservationId ∨ update.fromStatus ≠ "FAILURE" ∨
      (board.details update.task.row.id).progress ≠ "100%"

instance (board : Board) (call : Call) : Decidable (Guarded board call) := by
  unfold Guarded
  split <;> infer_instance

def Finished (board : Board) (id : Int) : Prop :=
  ∃ task, board.db.midjourneys.find? id = some task ∧ task.status = "FAILURE" ∧
    task.quotaReservationId ≤ 0 ∧ (board.details id).progress = "100%"

def RefundedOnce (board : Board) : Prop :=
  ∀ id, total refundCount (.task id) board.history = 0 ∨
    (total refundCount (.task id) board.history = 1 ∧ Finished board id)

section Legacy

variable {id : Int}

theorem Finished.congr (finished : Finished board id)
    (rows : next.db.midjourneys.find? id = board.db.midjourneys.find? id)
    (details : next.details id = board.details id) : Finished next id := by
  rw [Finished, rows, details]
  exact finished

theorem once_of_same (once : total refundCount (.task id) board.history = 0 ∨
      (total refundCount (.task id) board.history = 1 ∧ Finished board id))
    (history : next.history = entry :: board.history)
    (none : entry.cause ≠ .task id ∨ entry.answer = false)
    (rows : next.db.midjourneys.find? id = board.db.midjourneys.find? id)
    (details : next.details id = board.details id) :
    total refundCount (.task id) next.history = 0 ∨
      (total refundCount (.task id) next.history = 1 ∧ Finished next id) := by
  have same : total refundCount (.task id) next.history =
      total refundCount (.task id) board.history := by
    rw [history]
    rcases none with other | answer
    · exact total_cons_other other
    · exact total_cons_zero (by simp [refundCount, answer])
  rw [same]
  rcases once with zero | ⟨one, finished⟩
  · exact .inl zero
  · exact .inr ⟨one, finished.congr rows details⟩

theorem taskCause_task (booked : taskCause db task = .task id) :
    task.id = id ∧ task.quotaReservationId ≤ 0 := by
  unfold taskCause at booked
  split at booked
  · cases booked
  cases booked
  exact ⟨rfl, by omega⟩

/-- An update that wins the row of its task. A task that was refunded before is finished with
FAILURE, and the update would have to expect that. -/
theorem once_of_won (polled : Sent board update) (known : Known board.db update.task.row)
    (found : board.db.midjourneys.find? update.task.row.id = some stored)
    (matched : stored.status = update.fromStatus)
    (guarded : 0 < update.task.row.quotaReservationId ∨ update.fromStatus ≠ "FAILURE" ∨
      (board.details update.task.row.id).progress ≠ "100%")
    (rows : next.db.midjourneys = board.db.midjourneys.save update.task.row)
    (columns : next.details = writeDetails board.details update.task.row.id update.task.details)
    (history : next.history =
      ⟨taskCause board.db update.task.row, board.db, next.db, refunded⟩ :: board.history)
    (failure : refunded = true → update.outcome = .failure) (once : RefundedOnce board) :
    total refundCount (.task update.task.row.id) next.history = 0 ∨
      (total refundCount (.task update.task.row.id) next.history = 1 ∧
        Finished next update.task.row.id) := by
  have zero : total refundCount (.task update.task.row.id) board.history = 0 := by
    rcases once update.task.row.id with zero | ⟨-, task, present, status, old, progress⟩
    · exact zero
    · rw [found] at present
      cases present
      rw [Known, found] at known
      simp only [identity, map_some, Option.some.injEq, Prod.mk.injEq] at known
      rcases guarded with reserved | expected | unfinished
      · omega
      · exact absurd (matched.symm.trans status) expected
      · exact absurd progress unfinished
  by_cases counts : taskCause board.db update.task.row = .task update.task.row.id ∧ refunded = true
  · right
    rcases counts with ⟨booked, rfl⟩
    rcases polled.failure (failure rfl) with ⟨status, progress⟩
    refine ⟨?_, update.task.row, ?_, status, (taskCause_task booked).2, ?_⟩
    · rw [history, total_cons_own booked, zero]
      rfl
    · rw [rows]
      exact find?_save_self found
    · rw [columns, writeDetails, if_pos rfl]
      exact progress
  · left
    rw [history, ← zero]
    by_cases booked : taskCause board.db update.task.row = .task update.task.row.id
    · have none : refunded = false := by
        cases refunded with
        | false => rfl
        | true => exact absurd ⟨booked, rfl⟩ counts
      exact total_cons_zero (by simp [refundCount, none])
    · exact total_cons_other booked

theorem Booked.once {call : Call}
    (booked : Booked board next (sends board call.action) cause refunded)
    (guarded : Guarded board call) (once : RefundedOnce board) : RefundedOnce next := by
  intro id
  generalize action : sends board call.action = sent at booked
  rcases booked with ⟨history, effect, tasks, -⟩
  cases tasks with
  | kept rows details none =>
    apply once_of_same (once id) history
    · by_cases here : cause = .task id
      · exact .inr (none id here)
      · exact .inl here
    · rw [rows]
    · rw [details]
  | created row details rows columns other =>
    rcases once id with zero | ⟨one, finished⟩
    · left
      rw [history, total_cons_other (other id), zero]
    · have apart : row.id ≠ id := by
        rintro rfl
        rcases finished with ⟨task, present, -⟩
        rw [(insert?_eq_some rows).1] at present
        cases present
      apply once_of_same (.inr ⟨one, finished⟩) history (.inl (other id))
      · rw [find?_insert? rows, if_neg apart]
      · rw [columns, writeDetails, if_neg (Ne.symm apart)]
  | won update stored polled known found matched rows columns cause failure =>
    subst cause
    rw [Guarded, action] at guarded
    by_cases here : update.task.row.id = id
    · subst here
      exact once_of_won polled known found matched guarded rows columns history failure once
    · apply once_of_same (once id) history
      · left
        intro booked
        exact here (taskCause_task booked).1
      · rw [rows, find?_save_other here]
      · rw [columns, writeDetails, if_neg (Ne.symm here)]

theorem step_once (board : Board) (call : Call) (guarded : Guarded board call)
    (copies : ∀ copy ∈ board.copies, Known board.db copy.row) (once : RefundedOnce board) :
    RefundedOnce (step board call) := by
  rcases step_spec board call copies with quiet | ⟨cause, refunded, booked⟩
  · intro id
    rw [quiet.history]
    rcases once id with zero | ⟨one, finished⟩
    · exact .inl zero
    · exact .inr ⟨one, finished.congr (by rw [quiet.db]) (by rw [quiet.details])⟩
  · exact booked.once guarded once

end Legacy

/-! The account of a request. -/

def booked (board : Board) (request : String) (meter : Meter) : Int :=
  total (shift meter) (.request request) board.history

structure Accounted (board : Board) (reservation : MidjourneyQuotaReservation) : Prop where
  amount : booked board reservation.requestId (.wallet reservation.userId) = 0 ∨
    booked board reservation.requestId (.wallet reservation.userId) = -reservation.quota
  refunded : booked board reservation.requestId (.wallet reservation.userId) = 0 ↔
    reservation.status = .refunded
  used : reservation.tokenCharged = true →
    booked board reservation.requestId (.used reservation.tokenId) =
      -booked board reservation.requestId (.wallet reservation.userId)
  remain : reservation.tokenCharged = true → reservation.tokenUnlimited = false →
    booked board reservation.requestId (.remain reservation.tokenId) =
      booked board reservation.requestId (.wallet reservation.userId)
  -- An unlimited token pays without its remain_quota.
  unlimited : reservation.tokenUnlimited = true → ∀ token,
    booked board reservation.requestId (.remain token) = 0
  otherUsers : ∀ user, user ≠ reservation.userId →
    booked board reservation.requestId (.wallet user) = 0
  otherTokens : ∀ token, reservation.tokenCharged = false ∨ token ≠ reservation.tokenId →
    booked board reservation.requestId (.used token) = 0 ∧
      booked board reservation.requestId (.remain token) = 0

theorem accounted_of_booked {reservation : MidjourneyQuotaReservation}
    (positive : 0 < reservation.quota) (meters : ∀ meter, booked board reservation.requestId meter =
      if reservation.status = .refunded then 0 else stake reservation meter) :
    Accounted board reservation := by
  by_cases closed : reservation.status = .refunded
  · constructor <;> simp [meters, closed]
  · simp only [closed, if_false] at meters
    have paid : booked board reservation.requestId (.wallet reservation.userId) =
        -reservation.quota := by
      rw [meters]
      simp [stake, walletPart, tokenPart]
    constructor
    case amount => exact .inr paid
    case refunded =>
      constructor
      · omega
      · exact fun refunded => absurd refunded closed
    case used =>
      intro charged
      rw [paid, meters]
      simp [stake, walletPart, tokenPart, charged]
    case remain =>
      intro charged limited
      rw [paid, meters]
      simp [stake, walletPart, tokenPart, charged, limited]
    case unlimited =>
      intro unlimited token
      rw [meters]
      simp [stake, walletPart, tokenPart, unlimited]
    case otherUsers =>
      intro user other
      rw [meters]
      simp [stake, walletPart, tokenPart, other]
    case otherTokens =>
      intro token other
      rw [meters, meters]
      rcases other with uncharged | apart
      · simp [stake, walletPart, uncharged]
      · simp [stake, walletPart, tokenPart, apart]

theorem initial_sound {start : Board} (unique : Distinct start.db) (idle : start.copies = [])
    (empty : start.history = []) : Sound start.db start := by
  constructor
  case linked =>
    rw [empty]
    rfl
  case distinct => exact unique
  case copies => simp [idle]
  case posted => simp [empty]
  case credited => simp [empty]
  case positive =>
    intro request reservation absent found
    rw [absent] at found
    cases found

theorem run_once {start : Board} {calls : List Call} (initial : Sound start.db start)
    (empty : start.history = []) (guarded : AllSteps step Guarded start calls) :
    RefundedOnce (run step start calls) := by
  have kept : ∀ board call, Guarded board call → (Sound start.db board ∧ RefundedOnce board) →
      Sound start.db (step board call) ∧ RefundedOnce (step board call) := by
    rintro board call guarded ⟨sound, once⟩
    exact ⟨step_sound start.db board call sound, step_once board call guarded sound.copies once⟩
  apply (run_invariant kept start calls guarded ⟨initial, ?_⟩).2
  intro id
  rw [empty]
  exact .inl rfl

theorem reservations_charge_and_refund_once (start : Board) (calls : List Call)
    (unique : Distinct start.db) (idle : start.copies = []) (empty : start.history = []) :
    let final := run step start calls
    (∀ request, findReservation start.db request = none →
      (findReservation final.db request = none → ∀ meter, booked final request meter = 0) ∧
      ∀ reservation, findReservation final.db request = some reservation →
        Accounted final reservation) ∧
    (∀ settings input, findReservation final.db (trimSpace input.requestId) ≠ none →
      (step final ⟨settings, .reserve input⟩).db = final.db) ∧
    (∀ request, total refundCount (.request request) final.history ≤ 1) ∧
    (AllSteps step Guarded start calls → ∀ task ∈ final.db.midjourneys.rows,
      total refundCount (.task task.id) final.history ≤ 1 ∧
      ∀ meter, total (shift meter) (.task task.id) final.history =
        total refundCount (.task task.id) final.history *
          walletPart task.userId task.quota meter) := by
  intro final
  have initial := initial_sound unique idle empty
  have sound : Sound start.db final := run_keeps (step_sound start.db) start calls initial
  refine ⟨?_, ?_, ?_, ?_⟩
  · intro request absent
    have meters : ∀ meter, booked final request meter = held final.db request meter := by
      intro meter
      rw [booked, sound.total_shift, held, held, absent, Int.sub_zero]
    constructor
    · intro none meter
      rw [meters, held, none]
    · intro reservation found
      have named : reservation.requestId = request := by
        simpa using List.find?_some found
      subst named
      apply accounted_of_booked (sound.positive _ _ absent found)
      intro meter
      rw [meters, held, found]
  · intro settings input present
    rcases ne_none_iff_exists'.mp present with ⟨existing, found⟩
    simp only [step, reserveMidjourneyQuota, reserveTrimmed, found]
    split
    · rfl
    · split <;> rfl
  · intro request
    have now := returned_bounds final.db request
    have before := returned_bounds start.db request
    rw [sound.total_refunds]
    omega
  · intro guarded task member
    have once : RefundedOnce final := run_once initial empty guarded
    refine ⟨?_, sound.total_credits (mem_find? member)⟩
    rcases once task.id with zero | ⟨one, -⟩ <;> omega

def sampleSettings : Settings where
  context := BillingConservation.sampleContext

def sampleBoard : Board where
  db := {
    users := .ofRows [{ id := 1, quota := 100 }]
    tokens := .ofRows [BillingConservation.sampleToken]
    midjourneys := .ofRows [{ id := 7, userId := 1, status := "IN_PROGRESS", quota := 40 }] }
  details := writeDetails (fun _ => {}) 7 { mjId := "old", progress := "50%" }

def failureItem (mjId : String) (finishTime : Int) : ResponseItem where
  mjId
  status := "FAILURE"
  progress := "100%"
  finishTime
  failReason := "banned prompt"

def repeatedItems : List Call :=
  [.load, .report 0 0 (failureItem "old" 10), .report 0 0 (failureItem "old" 11)].map
    (Call.mk sampleSettings)

theorem legacy_task_refunded_twice :
    total refundCount (.task 7) (run step sampleBoard repeatedItems).history = 2 ∧
      reading sampleBoard.db (.wallet 1) = 100 ∧
      reading (run step sampleBoard repeatedItems).db (.wallet 1) = 180 := by
  decide +kernel

/-- Two passes see a task with a reservation and the old task fail. -/
def twoPasses : List Call :=
  [.reserve { requestId := " r ", userId := 1, tokenId := 2, quota := 30, tokenCharged := true },
    .reserve { requestId := "r", userId := 1, tokenId := 2, quota := 30, tokenCharged := true },
    .create { userId := 1, quota := 30 } { mjId := "new", progress := "0%" } 1 .pending,
    .load, .load,
    .report 0 0 (failureItem "old" 10), .report 2 0 (failureItem "old" 11),
    .report 1 0 (failureItem "new" 10), .report 3 0 (failureItem "new" 11),
    .refund 1].map (Call.mk sampleSettings)

theorem reservations_charge_and_refund_once_failing :
    total refundCount (.request "r") (run step sampleBoard twoPasses).history = 1 ∧
      total refundCount (.task 7) (run step sampleBoard twoPasses).history = 1 ∧
      reading (run step sampleBoard twoPasses).db (.wallet 1) = 140 ∧
      total (shift (.wallet 1)) (.task 7) (run step sampleBoard twoPasses).history = 1 * 40 ∧
      ∃ reservation, findReservation (run step sampleBoard twoPasses).db "r" = some reservation ∧
        reservation.status = .refunded ∧
        Accounted (run step sampleBoard twoPasses) reservation := by
  have results := reservations_charge_and_refund_once sampleBoard twoPasses
    List.nodup_nil rfl rfl
  have guarded : AllSteps step Guarded sampleBoard twoPasses := by decide +kernel
  have once : total refundCount (.task 7) (run step sampleBoard twoPasses).history = 1 := by
    decide +kernel
  have old := results.2.2.2 guarded
    { id := 7, userId := 1, status := "FAILURE", quota := 40 } (by decide +kernel)
  have credit := old.2 (.wallet 1)
  refine ⟨by decide +kernel, once, by decide +kernel, credit, ?_⟩
  have found : findReservation (run step sampleBoard twoPasses).db "r" =
      some { id := 1, requestId := "r", userId := 1, tokenId := 2, quota := 30,
             tokenCharged := true, midjourneyTaskId := 8, status := .refunded } := by
    decide +kernel
  exact ⟨_, found, rfl, (results.1 "r" (by decide +kernel)).2 _ found⟩

end NewApi.MidjourneyLedger
