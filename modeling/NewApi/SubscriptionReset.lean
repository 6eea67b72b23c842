import NewApi.Schema
import Mathlib.Data.List.Sort

/-!
Quota resets of user subscriptions: the due reset inside a reservation or the
scheduler's batch (`maybeResetUserSubscriptionWithPlanTx`) and the administrator
reset (`resetUserSubscriptionTx`). Each runs inside a transaction on rows it has
locked. Civil time in the server's location is a parameter; nothing is assumed
about it except where a statement says so.
-/

namespace NewApi

/-- The operations of Go's `time` package on Unix seconds in the server's location. -/
structure Calendar where
  year : Int → Int
  month : Int → Int
  day : Int → Int
  -- Sunday is 0.
  weekday : Int → Int
  -- `time.Date(year, month, day, 0, 0, 0, 0, location).Unix()`
  midnight : Int → Int → Int → Int
  -- `time.Unix(seconds, 0).AddDate(years, months, days).Unix()`
  addDate : Int → Int → Int → Int → Int

inductive ResetPeriod where
  | never
  | daily
  | weekly
  | monthly
  | custom
  deriving DecidableEq

namespace SubscriptionReset

def normalizeResetPeriod (period : String) : ResetPeriod :=
  let trimmed := trimSpace period
  if trimmed = "daily" then .daily
  else if trimmed = "weekly" then .weekly
  else if trimmed = "monthly" then .monthly
  else if trimmed = "custom" then .custom
  else .never

variable (calendar : Calendar)

/-- The next boundary before the end of the subscription is taken into account;
`none` when the plan has no boundary. -/
def nextBoundary (base : Int) (plan : SubscriptionPlan) : Option Int :=
  let today := calendar.midnight (calendar.year base) (calendar.month base) (calendar.day base)
  match normalizeResetPeriod plan.quotaResetPeriod with
  | .never => none
  | .daily => some (calendar.addDate today 0 0 1)
  | .weekly =>
    let weekday := if calendar.weekday base = 0 then 7 else calendar.weekday base
    some (calendar.addDate today 0 0 (8 - weekday))
  | .monthly =>
    let first := calendar.midnight (calendar.year base) (calendar.month base) 1
    some (calendar.addDate first 0 1 0)
  | .custom =>
    if plan.quotaResetCustomSeconds ≤ 0 then none
    -- `time.Duration` counts nanoseconds in an int64, which a long period overflows.
    else some (base + int64 (plan.quotaResetCustomSeconds * 1000000000) / 1000000000)

def calcNextResetTime (base : Int) (plan : SubscriptionPlan) (endUnix : Int) : Int :=
  match nextBoundary calendar base plan with
  | none => 0
  | some next => if 0 < endUnix ∧ endUnix < next then 0 else next

/-- The loop `for next > 0 && next <= now`, with the base and boundary it ends at. -/
def advanceBase (calendar : Calendar) (plan : SubscriptionPlan) (endTime now : Int) :
    Nat → Int → Bool → Option (Bool × Int × Int)
  | 0, _, _ => none
  | fuel + 1, base, advanced =>
    let next := calcNextResetTime calendar base plan endTime
    if 0 < next ∧ next ≤ now then advanceBase calendar plan endTime now fuel next true
    else some (advanced, base, next)

/-- More rounds than there are boundaries up to `now`: a loop that makes them all never ends. -/
def manyRounds (now base : Int) : Nat := (now - base).toNat + now.toNat + 2

def resetBase (sub : UserSubscription) : Int :=
  if sub.lastResetTime ≤ 0 then sub.startTime else sub.lastResetTime

def sameSchedule (sub : UserSubscription) (now : Int) (row : UserSubscription) : Bool :=
  row.userId = sub.userId ∧ row.planId = sub.planId ∧ row.status = .active ∧
    row.startTime = sub.startTime ∧ row.endTime = sub.endTime ∧ now < row.endTime ∧
    row.lastResetTime = sub.lastResetTime ∧ row.nextResetTime = sub.nextResetTime

def changedConcurrently : StoreError :=
  .message "subscription reset state changed concurrently"

def repairedLastReset (sub : UserSubscription) (plan : SubscriptionPlan) (base next : Int) : Int :=
  if normalizeResetPeriod plan.quotaResetPeriod = .never then 0
  else if sub.lastResetTime ≤ 0 ∧ 0 < next then base
  else sub.lastResetTime

variable (db : Database) (sub : UserSubscription)

/-- No boundary has passed: only the stored schedule is brought up to date. -/
def repairSchedule (now lastReset next : Int) :
    Except StoreError (Bool × UserSubscription × Database) :=
  if sub.lastResetTime = lastReset ∧ sub.nextResetTime = next then .ok (false, sub, db)
  else match db.subscriptions.updateWhere sub.id (sameSchedule sub now) (fun row =>
      { row with lastResetTime := lastReset, nextResetTime := next }) with
    | none => .error changedConcurrently
    | some subscriptions =>
      .ok (false, { sub with lastResetTime := lastReset, nextResetTime := next },
        { db with subscriptions })

def applyDueReset (now base next : Int) : Except StoreError (Bool × UserSubscription × Database) :=
  match db.subscriptions.updateWhere sub.id
      (fun row => sameSchedule sub now row && decide (row.amountUsed = sub.amountUsed))
      (fun row => { row with amountUsed := 0, lastResetTime := base, nextResetTime := next }) with
  | none => .error changedConcurrently
  | some subscriptions =>
    .ok (true, { sub with amountUsed := 0, lastResetTime := base, nextResetTime := next },
      { db with subscriptions })

/-- Returns whether a reset was applied, the in-memory row, and the store. -/
def maybeResetUserSubscriptionWithPlan (plan : SubscriptionPlan) (now : Int) :
    Except StoreError (Bool × UserSubscription × Database) :=
  if sub.userId ≤ 0 ∨ sub.planId ≤ 0 ∨ plan.id ≠ sub.planId ∨ sub.status ≠ .active ∨
      sub.endTime ≤ now then
    .error (.message "subscription reset state is not eligible")
  else if 0 < sub.nextResetTime ∧ now < sub.nextResetTime then .ok (false, sub, db)
  else
    match advanceBase calendar plan sub.endTime now (manyRounds now (resetBase sub))
        (resetBase sub) false with
    -- The source loops forever here; `advanceBase_isSome` rules it out for a forward calendar.
    | none => .error (.message "reset schedule does not advance")
    | some (false, base, next) =>
      repairSchedule db sub now (repairedLastReset sub plan base next) next
    | some (true, base, next) => applyDueReset db sub now base next

structure ResetTimes where
  last : Int
  next : Int

/-- The schedule an administrator reset writes, when it is asked to advance it. -/
def advancedTimes (plan : SubscriptionPlan) (now : Int) : ResetTimes :=
  let next := calcNextResetTime calendar now plan sub.endTime
  ⟨if 0 < next then now else 0, next⟩

def sameResetState (now : Int) (advanceResetTime : Bool) (row : UserSubscription) : Bool :=
  row.userId = sub.userId ∧ row.planId = sub.planId ∧ row.status = .active ∧
    row.endTime = sub.endTime ∧ now < row.endTime ∧ row.amountUsed = sub.amountUsed ∧
    (advanceResetTime → row.lastResetTime = sub.lastResetTime ∧
      row.nextResetTime = sub.nextResetTime)

def resetRow (times : ResetTimes) (advanceResetTime : Bool) (row : UserSubscription) :
    UserSubscription :=
  if advanceResetTime then
    { row with amountUsed := 0, lastResetTime := times.last, nextResetTime := times.next }
  else { row with amountUsed := 0 }

def resetUserSubscription (plan : SubscriptionPlan) (now : Int) (advanceResetTime : Bool) :
    Except StoreError Database :=
  if plan.id ≠ sub.planId then .error (.message "subscription reset plan mismatch")
  else
    let times := advancedTimes calendar sub plan now
    if sub.amountUsed = 0 ∧ (advanceResetTime = false ∨
        (sub.lastResetTime = times.last ∧ sub.nextResetTime = times.next)) then .ok db
    else match db.subscriptions.updateWhere sub.id (sameResetState sub now advanceResetTime)
        (resetRow times advanceResetTime) with
      | none => .error changedConcurrently
      | some subscriptions => .ok { db with subscriptions }

def getSubscriptionPlanById (id : Int) : Except StoreError SubscriptionPlan :=
  if id ≤ 0 then .error (.message "invalid plan id")
  else match db.plans.find? id with
    | none => .error .recordNotFound
    | some plan => .ok plan

def endsBefore (left right : UserSubscription) : Prop :=
  left.endTime < right.endTime ∨ (left.endTime = right.endTime ∧ left.id ≤ right.id)

instance : DecidableRel endsBefore := fun _ _ => inferInstanceAs (Decidable (_ ∨ _))

/-- Active subscriptions that satisfy `keep`, ordered by end_time and id. -/
def activeSubscriptions (keep : UserSubscription → Bool) (now : Int) : List UserSubscription :=
  (db.subscriptions.rows.filter fun row =>
    keep row && decide (row.status = .active ∧ now < row.endTime)).insertionSort endsBefore

def resetEach (calendar : Calendar) (plan : SubscriptionPlan) (now : Int)
    (advanceResetTime : Bool) : List UserSubscription → Database → Except StoreError Database
  | [], db => .ok db
  | sub :: rest, db => do
    let db ← resetUserSubscription calendar db sub plan now advanceResetTime
    resetEach calendar plan now advanceResetTime rest db

/-- Returns the subscriptions of the result and the store. -/
def adminResetUserSubscriptionsByPlan (userId planId now : Int) (advanceResetTime : Bool) :
    Except StoreError (List UserSubscription × Database) :=
  if userId ≤ 0 ∨ planId ≤ 0 then .error (.message "invalid userId or planId")
  else do
    let plan ← getSubscriptionPlanById db planId
    let subs := activeSubscriptions db (fun row => row.userId = userId ∧ row.planId = plan.id) now
    if subs = [] then .error (.message "该用户没有有效的此套餐订阅")
    else do
      let db ← resetEach calendar plan now advanceResetTime subs db
      .ok (subs, db)

/-- The source orders by user_id first; each row is reset on its own. -/
def adminResetPlanSubscriptions (planId now : Int) (advanceResetTime : Bool) :
    Except StoreError (List UserSubscription × Database) :=
  if planId ≤ 0 then .error (.message "invalid planId")
  else do
    let plan ← getSubscriptionPlanById db planId
    let subs := activeSubscriptions db (fun row => row.planId = plan.id) now
    let db ← resetEach calendar plan now advanceResetTime subs db
    .ok (subs, db)

/-- One transaction of the scheduler's batch, on a subscription the batch listed. -/
def resetDueSubscription (subscriptionId now : Int) : Except StoreError (Bool × Database) :=
  match db.subscriptions.find? subscriptionId with
  | none => .ok (false, db)
  | some locked =>
    if locked.status = .active ∧ now < locked.endTime ∧ 0 < locked.nextResetTime ∧
        locked.nextResetTime ≤ now then
      match db.plans.find? locked.planId with
      | none =>
        -- The plan is gone: only the schedule is cleared.
        match db.subscriptions.updateWhere locked.id (sameSchedule locked now) (fun row =>
            { row with lastResetTime := 0, nextResetTime := 0 }) with
        | none => .error changedConcurrently
        | some subscriptions => .ok (false, { db with subscriptions })
      | some plan => do
        let (reset, _, db) ←
          maybeResetUserSubscriptionWithPlan calendar db locked plan now
        .ok (reset, db)
    else .ok (false, db)

/-! What a reset changes. -/

/-- Only subscriptions change, and amount_used is zero exactly for the ones that were reset. -/
structure ResetEffect (db after : Database) (reset : List Int) : Prop where
  users : after.users = db.users
  tokens : after.tokens = db.tokens
  plans : after.plans = db.plans
  operations : after.operations = db.operations
  tasks : after.tasks = db.tasks
  amountUsed : ∀ id, after.amountUsed id =
    (db.amountUsed id).map (fun used => if id ∈ reset then 0 else used)

theorem ResetEffect.none : ResetEffect db db [] :=
  ⟨rfl, rfl, rfl, rfl, rfl, by simp⟩

variable {db}
variable {second first : List Int} {after middle : Database}
  {next now lastReset base userId planId endTime : Int} {reset advanceResetTime : Bool} {sub}
  {sub' : UserSubscription} {calendar} {plan : SubscriptionPlan} {subs : List UserSubscription}

theorem ResetEffect.trans (left : ResetEffect db middle first)
    (right : ResetEffect middle after second) : ResetEffect db after (first ++ second) := by
  refine ⟨right.users.trans left.users, right.tokens.trans left.tokens,
    right.plans.trans left.plans, right.operations.trans left.operations,
    right.tasks.trans left.tasks, fun id => ?_⟩
  rw [right.amountUsed, left.amountUsed, Option.map_map]
  congr 1
  funext used
  by_cases late : id ∈ second <;> by_cases early : id ∈ first <;> simp [late, early]

theorem ResetEffect.of_update {change : UserSubscription → UserSubscription}
    {subscriptions : Table UserSubscription.id} {id : Int} {guard : UserSubscription → Bool}
    (reset : Bool) (updated : db.subscriptions.updateWhere id guard change = some subscriptions)
    (sameId : ∀ row, (change row).id = row.id)
    (used : ∀ row, (change row).amountUsed = if reset then 0 else row.amountUsed) :
    ResetEffect db { db with subscriptions } (if reset then [id] else []) := by
  refine ⟨rfl, rfl, rfl, rfl, rfl, fun target => ?_⟩
  simp only [Database.amountUsed, Option.map_map]
  rw [Table.map_find?_updateWhere updated sameId]
  congr 1
  funext row
  by_cases here : target = id <;> cases reset <;> simp [here, used]

theorem repairSchedule_effect
    (done : repairSchedule db sub now lastReset next = .ok (reset, sub', after)) :
    reset = false ∧ ResetEffect db after [] ∧ sub'.id = sub.id := by
  unfold repairSchedule at done
  split at done
  · cases done
    exact ⟨rfl, .none db, rfl⟩
  · split at done
    · simp at done
    rename_i updated
    cases done
    exact ⟨rfl, .of_update false updated (fun _ => rfl) (fun _ => rfl), rfl⟩

theorem applyDueReset_effect
    (done : applyDueReset db sub now base next = .ok (reset, sub', after)) :
    reset = true ∧ ResetEffect db after [sub.id] ∧ sub'.id = sub.id := by
  unfold applyDueReset at done
  split at done
  · simp at done
  rename_i updated
  cases done
  exact ⟨rfl, .of_update true updated (fun _ => rfl) (fun _ => rfl), rfl⟩

theorem maybeReset_effect (done : maybeResetUserSubscriptionWithPlan calendar db sub plan now =
      .ok (reset, sub', after)) :
    ResetEffect db after (if reset then [sub.id] else []) ∧ sub'.id = sub.id := by
  unfold maybeResetUserSubscriptionWithPlan at done
  split at done
  · simp at done
  split at done
  · cases done
    exact ⟨.none db, rfl⟩
  · split at done
    · simp at done
    · obtain ⟨rfl, effect, same⟩ := repairSchedule_effect done
      exact ⟨effect, same⟩
    · obtain ⟨rfl, effect, same⟩ := applyDueReset_effect done
      exact ⟨effect, same⟩

theorem resetUserSubscription_effect (locked : db.amountUsed sub.id = some sub.amountUsed)
    (done : resetUserSubscription calendar db sub plan now advanceResetTime = .ok after) :
    ResetEffect db after [sub.id] := by
  unfold resetUserSubscription at done
  split at done
  · simp at done
  simp only at done
  split at done
  · rename_i idle
    cases done
    refine ⟨rfl, rfl, rfl, rfl, rfl, fun id => ?_⟩
    by_cases here : id = sub.id
    · subst here
      simp [locked, idle.1]
    · simp [here]
  · split at done
    · simp at done
    rename_i updated
    cases done
    refine .of_update true updated (fun row => ?_) (fun row => ?_)
    all_goals cases advanceResetTime <;> rfl

theorem resetEach_effect (subs : List UserSubscription)
    (locked : ∀ sub ∈ subs, db.amountUsed sub.id = some sub.amountUsed)
    (distinct : (subs.map UserSubscription.id).Nodup)
    (done : resetEach calendar plan now advanceResetTime subs db = .ok after) :
    ResetEffect db after (subs.map UserSubscription.id) := by
  induction subs generalizing db with
  | nil =>
    cases done
    exact .none _
  | cons sub rest ih =>
    simp only [List.map_cons, List.nodup_cons] at distinct
    simp only [resetEach, bind, Except.bind] at done
    split at done
    · simp at done
    rename_i middle first
    have head := resetUserSubscription_effect (locked sub (by simp)) first
    have tail : ∀ other ∈ rest, middle.amountUsed other.id = some other.amountUsed := by
      intro other member
      have apart : other.id ≠ sub.id := by
        intro same
        exact distinct.1 (same ▸ List.mem_map_of_mem (f := UserSubscription.id) member)
      rw [head.amountUsed, locked other (by simp [member])]
      simp [apart]
    exact head.trans (ih tail distinct.2 done)

theorem activeSubscriptions_locked (db : Database) (keep : UserSubscription → Bool) (now : Int) :
    ∀ sub ∈ activeSubscriptions db keep now, db.amountUsed sub.id = some sub.amountUsed := by
  intro sub member
  have stored : sub ∈ db.subscriptions.rows := by
    simp only [activeSubscriptions, List.mem_insertionSort, List.mem_filter] at member
    exact member.1
  simp [Database.amountUsed, Table.mem_find? stored]

theorem activeSubscriptions_distinct (db : Database) (keep : UserSubscription → Bool) (now : Int) :
    ((activeSubscriptions db keep now).map UserSubscription.id).Nodup := by
  have order := (List.perm_insertionSort endsBefore (db.subscriptions.rows.filter fun row =>
    keep row && decide (row.status = .active ∧ now < row.endTime))).map UserSubscription.id
  rw [activeSubscriptions, order.nodup_iff]
  exact (List.Sublist.map _ List.filter_sublist).nodup db.subscriptions.unique

theorem adminResetUser_effect
    (done : adminResetUserSubscriptionsByPlan calendar db userId planId now advanceResetTime =
      .ok (subs, after)) : ResetEffect db after (subs.map UserSubscription.id) := by
  unfold adminResetUserSubscriptionsByPlan at done
  split at done
  · simp at done
  simp only [bind, Except.bind] at done
  iterate 3
    split at done
    · simp at done
  rename_i each
  cases done
  exact resetEach_effect _ (activeSubscriptions_locked db _ now)
    (activeSubscriptions_distinct db _ now) each

theorem adminResetPlan_effect
    (done : adminResetPlanSubscriptions calendar db planId now advanceResetTime =
      .ok (subs, after)) : ResetEffect db after (subs.map UserSubscription.id) := by
  unfold adminResetPlanSubscriptions at done
  split at done
  · simp at done
  simp only [bind, Except.bind] at done
  split at done
  · simp at done
  split at done
  · simp at done
  rename_i each
  cases done
  exact resetEach_effect _ (activeSubscriptions_locked db _ now)
    (activeSubscriptions_distinct db _ now) each

theorem resetDue_effect {id : Int}
    (done : resetDueSubscription calendar db id now = .ok (reset, after)) :
    ResetEffect db after (if reset then [id] else []) := by
  unfold resetDueSubscription at done
  split at done
  · cases done
    exact .none db
  · rename_i locked found
    split at done
    · split at done
      · split at done
        · simp at done
        rename_i updated
        cases done
        exact (ResetEffect.of_update false updated (fun _ => rfl) (fun _ => rfl) :)
      · simp only [bind, Except.bind] at done
        split at done
        · simp at done
        rename_i applied
        cases done
        have same : locked.id = id := Table.find?_key found
        rw [← same]
        exact (maybeReset_effect applied).1
    · cases done
      exact .none db

/-- Every boundary lies after its base. A `custom` period too long for `time.Duration` does not. -/
def Forward (calendar : Calendar) (plan : SubscriptionPlan) : Prop :=
  ∀ base next, nextBoundary calendar base plan = some next → base < next

theorem lt_calcNextResetTime (forward : Forward calendar plan)
    (positive : 0 < calcNextResetTime calendar base plan endTime) :
    base < calcNextResetTime calendar base plan endTime := by
  unfold calcNextResetTime at positive ⊢
  cases boundary : nextBoundary calendar base plan with
  | none => simp [boundary] at positive
  | some next =>
    simp only [boundary] at positive ⊢
    split at positive
    · omega
    rename_i within
    rw [if_neg within]
    exact forward base next boundary

/-- The loop ends: each round moves the base at least one second towards `now`. -/
theorem advanceBase_isSome (forward : Forward calendar plan) (endTime now : Int) (fuel : Nat)
    (base : Int) (advanced : Bool) (enough : (now - base).toNat + 1 < fuel) :
    (advanceBase calendar plan endTime now fuel base advanced).isSome := by
  induction fuel generalizing base advanced with
  | zero => omega
  | succ fuel ih =>
    simp only [advanceBase]
    split
    · rename_i due
      have later := lt_calcNextResetTime forward due.1
      exact ih _ true (by omega)
    · rfl

end SubscriptionReset
end NewApi
