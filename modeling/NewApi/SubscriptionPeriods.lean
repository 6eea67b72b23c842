import NewApi.BillingConservation

/-!
Accounting of subscription quota across resets. A reset zeroes amount_used while
operations may still be open; the counter then starts a new period, and later
moves of an operation from an earlier period are posted to the new counter. The
ledger records, for each operation that existed at the last reset of its
subscription, the charge it carried over, so that what the counter says can be
stated exactly. When every reset finds the operations of its subscription closed,
the counter is the sum of the charges since then, and every open operation can be
refunded.
-/

namespace NewApi.SubscriptionPeriods

open Runs SubscriptionReset BillingOperations BillingLedger BillingConservation Option
open Table hiding rows

inductive Event where
  | reserve (context : Context) (request : ReserveRequest)
  | adjust (context : Context) (id targetQuota : Int)
  | settle (context : Context) (id requestedQuota : Int)
  | refund (context : Context) (id : Int)
  | dueReset (context : Context) (subscriptionId : Int)
  | adminResetUser (context : Context) (userId planId : Int) (advanceResetTime : Bool)
  | adminResetPlan (context : Context) (planId : Int) (advanceResetTime : Bool)

variable (db : Database)

def perform : Event → Except StoreError Committed
  | .reserve context request => execute context db (.reserve request)
  | .adjust context id targetQuota => execute context db (.adjust id targetQuota)
  | .settle context id requestedQuota => execute context db (.settle id requestedQuota)
  | .refund context id => execute context db (.refund id)
  | .dueReset context subscriptionId => do
    let (reset, db) ← resetDueSubscription context.calendar db subscriptionId context.dbTime
    .ok { db, reset := if reset then [subscriptionId] else [] }
  | .adminResetUser context userId planId advanceResetTime => do
    let (subs, db) ← adminResetUserSubscriptionsByPlan context.calendar db userId planId
      context.dbTime advanceResetTime
    .ok { db, reset := subs.map UserSubscription.id }
  | .adminResetPlan context planId advanceResetTime => do
    let (subs, db) ← adminResetPlanSubscriptions context.calendar db planId
      context.dbTime advanceResetTime
    .ok { db, reset := subs.map UserSubscription.id }

structure Ledger where
  db : Database
  -- amount_used at the start of each subscription's current period.
  opening : Int → Int
  -- The charge an operation had at the last reset of its subscription; `none` since then.
  carried : Int → Option Int

variable (ledger : Ledger)

def carryOver (reset : List Int) (id : Int) : Option Int :=
  match ledger.db.operations.find? id with
  | none => ledger.carried id
  | some operation =>
    if operation.fundingSource = .subscription ∧ operation.subscriptionId ∈ reset then
      some (charge operation)
    else ledger.carried id

def record (done : Committed) : Ledger where
  db := done.db
  opening id := if id ∈ done.reset then 0 else ledger.opening id
  carried := carryOver ledger done.reset

def step (event : Event) : Ledger :=
  match perform ledger.db event with
  | .error _ => ledger
  | .ok done => record ledger done

def start : Ledger where
  db
  opening id := (db.amountUsed id).getD 0
  carried _ := none

/-- What a subscription's operations took since its last reset. -/
def takenSince (carried : Int → Option Int) (subscription : Int) : Int :=
  db.operations.sum fun operation =>
    if fundedBy operation subscription then charge operation - (carried operation.id).getD 0 else 0

/-- The charges of the operations reserved since the last reset. -/
def reservedSince (subscription : Int) : Int :=
  ledger.db.operations.sum fun operation =>
    if fundedBy operation subscription ∧ ledger.carried operation.id = none then charge operation
    else 0

variable {event : Event} {db} {done : Committed} {base delta used subscription : Int} {ledger}
  {operation before : BillingOperation} {rows : OperationRows} {sub : UserSubscription}

theorem perform_effect (performed : perform db event = .ok done) :
    (StepEffect db done ∧ done.adopted = none) ∨ ResetEffect db done.db done.reset := by
  have own {context : Context} (call : Call) (executed : execute context db call = .ok done) :
      StepEffect db done := (execute_effect executed).1
  cases event with
  | reserve context request =>
    obtain ⟨reservation, -, shape⟩ := bind_ok performed
    exact .inl ⟨own (.reserve request) performed, by cases shape; rfl⟩
  | adjust context id targetQuota =>
    obtain ⟨_, -, shape⟩ := bind_ok performed
    exact .inl ⟨own (.adjust id targetQuota) performed, by cases shape; rfl⟩
  | settle context id requestedQuota =>
    obtain ⟨moved, -, shape⟩ := bind_ok performed
    exact .inl ⟨own (.settle id requestedQuota) performed, by cases shape; rfl⟩
  | refund context id =>
    obtain ⟨moved, -, shape⟩ := bind_ok performed
    exact .inl ⟨own (.refund id) performed, by cases shape; rfl⟩
  | dueReset context subscriptionId =>
    obtain ⟨⟨reset, after⟩, resetting, shape⟩ := bind_ok performed
    cases shape
    exact .inr (resetDue_effect resetting)
  | adminResetUser context userId planId advanceResetTime =>
    obtain ⟨⟨subs, after⟩, resetting, shape⟩ := bind_ok performed
    cases shape
    exact .inr (adminResetUser_effect resetting)
  | adminResetPlan context planId advanceResetTime =>
    obtain ⟨⟨subs, after⟩, resetting, shape⟩ := bind_ok performed
    cases shape
    exact .inr (adminResetPlan_effect resetting)

theorem int64_add_of_nonneg (low : 0 ≤ base) (high : base ≤ maxInt64) (down : -maxQuota ≤ delta)
    (up : delta ≤ maxQuota) (kept : 0 ≤ int64 (base + delta)) :
    int64 (base + delta) = base + delta := by
  unfold maxQuota at down up
  unfold maxInt64 at high
  unfold int64 at kept ⊢
  rw [Int.bmod_def] at kept ⊢
  split at kept <;> rename_i half <;> simp only [half, if_true, if_false] <;> omega

/-- At a reset every open operation of the subscription carries its charge over, so the sum
starts again at zero. -/
theorem takenSince_carryOver (reset : List Int) (subscription : Int) :
    takenSince ledger.db (carryOver ledger reset) subscription =
      if subscription ∈ reset then 0 else takenSince ledger.db ledger.carried subscription := by
  have entry : ∀ operation ∈ ledger.db.operations.rows,
      (if fundedBy operation subscription then
        charge operation - (carryOver ledger reset operation.id).getD 0 else 0) =
      if subscription ∈ reset then 0
      else if fundedBy operation subscription then
        charge operation - (ledger.carried operation.id).getD 0 else 0 := by
    intro operation member
    by_cases funded : fundedBy operation subscription
    · obtain ⟨source, same⟩ := funded
      by_cases resetting : subscription ∈ reset <;>
        simp [fundedBy, carryOver, mem_find? member, source, same, resetting]
    · simp [funded]
  unfold takenSince
  rw [sum_congr entry]
  split
  · simp [Table.sum]
  · rfl

structure Accounted (ledger : Ledger) : Prop where
  operations : ∀ operation ∈ ledger.db.operations.rows, 0 < operation.id ∧ InRange operation
  carried : ∀ id, ledger.db.operations.find? id = none → ledger.carried id = none
  amounts : ∀ subscription used, ledger.db.amountUsed subscription = some used →
    0 ≤ used ∧ used ≤ maxInt64 ∧
      used = ledger.opening subscription + takenSince ledger.db ledger.carried subscription

theorem base_accounted (accounted : Accounted ledger) (reset : List Int)
    (stored : ledger.db.amountUsed subscription = some used) :
    0 ≤ (if subscription ∈ reset then 0 else used) ∧
      (if subscription ∈ reset then 0 else used) ≤ maxInt64 ∧
      (if subscription ∈ reset then 0 else used) =
        (if subscription ∈ reset then 0 else ledger.opening subscription) +
          takenSince ledger.db (carryOver ledger reset) subscription := by
  obtain ⟨low, high, sum⟩ := accounted.amounts subscription used stored
  rw [takenSince_carryOver]
  by_cases resetting : subscription ∈ reset
  · simp only [resetting, if_true]
    exact ⟨le_refl 0, by decide, rfl⟩
  · simp only [resetting, if_false]
    exact ⟨low, high, sum⟩

theorem moved_amounts (accounted : Accounted ledger)
    (moves : Moves ledger.db done.db operation delta done.reset) (down : -maxQuota ≤ delta)
    (up : delta ≤ maxQuota)
    (sums : ∀ subscription, takenSince done.db (carryOver ledger done.reset) subscription =
      takenSince ledger.db (carryOver ledger done.reset) subscription +
        if fundedBy operation subscription then delta else 0) (subscription used : Int)
    (stored : done.db.amountUsed subscription = some used) :
    0 ≤ used ∧ used ≤ maxInt64 ∧
      used = (record ledger done).opening subscription +
        takenSince done.db (carryOver ledger done.reset) subscription := by
  have nonneg : 0 ≤ used := by
    refine moves.nonneg subscription (fun earlier found => ?_) used stored
    exact (accounted.amounts subscription earlier found).1
  rw [moves.amountUsed] at stored
  obtain ⟨earlier, found, shape⟩ := map_eq_some_iff.mp stored
  obtain ⟨low, high, sum⟩ := base_accounted accounted done.reset found
  rw [sums]
  simp only [record]
  by_cases charged : fundedBy operation subscription ∧ delta ≠ 0
  · rw [if_pos charged] at shape
    rw [← shape] at nonneg ⊢
    have exactly := int64_add_of_nonneg low high down up nonneg
    refine ⟨nonneg, int64_le _, ?_⟩
    rw [exactly, if_pos charged.1]
    omega
  · rw [if_neg charged] at shape
    subst shape
    refine ⟨low, high, ?_⟩
    by_cases funded : fundedBy operation subscription
    · have still : delta = 0 := by
        by_contra moving
        exact charged ⟨funded, moving⟩
      omega
    · rw [if_neg funded]
      omega

theorem carryOver_nil : carryOver ledger [] = ledger.carried := by
  funext id
  unfold carryOver
  split <;> simp

section

variable (accounted : Accounted ledger)

include accounted

theorem carryOver_absent (reset : List Int) {id : Int}
    (absent : ledger.db.operations.find? id = none) : carryOver ledger reset id = none := by
  simp [carryOver, absent, accounted.carried id absent]

variable {row : BillingOperation}

theorem accounted_created (inserted : ledger.db.operations.insert? row = some done.db.operations)
    (positive : 0 < row.id) (reserved : row.status = .reserved)
    (range : 0 ≤ row.reservedQuota ∧ row.reservedQuota ≤ maxQuota)
    (moves : Moves ledger.db done.db row row.reservedQuota done.reset) :
    Accounted (record ledger done) := by
  obtain ⟨absent, appended⟩ := insert?_eq_some inserted
  have charged : charge row = row.reservedQuota := by simp [charge, reserved]
  constructor
  · intro operation member
    simp only [record, appended, List.mem_append, List.mem_singleton] at member
    rcases member with old | new
    · exact accounted.operations operation old
    · subst new
      exact ⟨positive, range.1, range.2, by rw [charged]; exact range.1,
        by rw [charged]; exact range.2⟩
  · intro id missing
    simp only [record] at missing ⊢
    rw [find?_insert? inserted] at missing
    split at missing
    · simp at missing
    · exact carryOver_absent accounted _ missing
  · refine moved_amounts accounted moves (by omega) range.2 (fun subscription => ?_)
    simp only [takenSince, sum_insert? inserted, carryOver_absent accounted _ absent,
      charged, getD_none, sub_zero]

theorem accounted_advanced (stored : ledger.db.operations.find? before.id = some before)
    (change : Advanced ledger.db done.db before row) (noReset : done.reset = []) :
    Accounted (record ledger done) := by
  have here : ledger.db.operations.find? row.id = some before := by
    rw [change.identity.id, stored]
  obtain ⟨positive, range⟩ := accounted.operations before (find?_mem stored).1
  have ranged := change.range range
  have carry : carryOver ledger done.reset = ledger.carried := by
    rw [noReset, carryOver_nil]
  constructor
  · intro operation member
    simp only [record, change.operations, Table.save, List.mem_map] at member
    obtain ⟨old, present, shape⟩ := member
    split at shape
    · subst shape
      exact ⟨by rw [change.identity.id]; exact positive, ranged⟩
    · subst shape
      exact accounted.operations old present
  · intro id missing
    simp only [record, carry] at missing ⊢
    refine accounted.carried id ?_
    rw [change.operations, find?_save] at missing
    split at missing
    · simpa using missing
    · exact missing
  · have low := ranged.2.2
    have high := range.2.2
    refine moved_amounts accounted (by rw [noReset]; exact change.moves) (by omega) (by omega)
      (fun subscription => ?_)
    have funded : fundedBy row subscription ↔ fundedBy before subscription := by
      simp [fundedBy, change.identity.fundingSource, change.identity.subscriptionId]
    simp only [takenSince, change.operations, sum_save _ here, change.identity.id, funded]
    split <;> ring

theorem accounted_record (effect : StepEffect ledger.db done) (plain : done.adopted = none) :
    Accounted (record ledger done) := by
  cases effect with
  | idle users tokens subscriptions operations noReset noAdoption =>
    constructor
    · simpa [record, operations] using accounted.operations
    · simpa [record, operations, noReset, carryOver_nil] using accounted.carried
    · simpa [record, operations, noReset, carryOver_nil, takenSince, Database.amountUsed,
        subscriptions] using accounted.amounts
  | created row unused inserted positive reserved range moves noAdoption =>
    exact accounted_created accounted inserted positive reserved range moves
  | advanced before row stored change noReset noAdoption =>
    exact accounted_advanced accounted stored change noReset
  | adopted row unused inserted closed moves noReset adoption =>
    rw [adoption] at plain
    cases plain

theorem accounted_reset (effect : ResetEffect ledger.db done.db done.reset) :
    Accounted (record ledger done) := by
  constructor
  · simpa [record, effect.operations] using accounted.operations
  · intro id missing
    simp only [record, effect.operations] at missing ⊢
    exact carryOver_absent accounted _ missing
  · intro subscription used stored
    simp only [record] at stored ⊢
    rw [effect.amountUsed] at stored
    obtain ⟨earlier, found, shape⟩ := map_eq_some_iff.mp stored
    subst shape
    simpa [takenSince, effect.operations] using base_accounted accounted done.reset found

end

theorem accounted_step (ledger : Ledger) (event : Event) (accounted : Accounted ledger) :
    Accounted (step ledger event) := by
  unfold step
  split
  · exact accounted
  rename_i performed
  rcases perform_effect performed with ⟨effect, plain⟩ | effect
  · exact accounted_record accounted effect plain
  · exact accounted_reset accounted effect

/-- The stored counters fit their column. -/
def CountersInRange (db : Database) : Prop :=
  ∀ subscription used, db.amountUsed subscription = some used → 0 ≤ used ∧ used ≤ maxInt64

theorem accounted_start (db : Database) (empty : db.operations.rows = [])
    (amounts : CountersInRange db) : Accounted (start db) := by
  constructor
  · simp [start, empty]
  · intro id _
    rfl
  · intro subscription used stored
    obtain ⟨low, high⟩ := amounts subscription used stored
    refine ⟨low, high, ?_⟩
    have found : db.amountUsed subscription = some used := stored
    simp [start, takenSince, Table.sum, empty, found]

/-! Refunds of an operation whose rows exist. -/

def TokenRefundable (operation : BillingOperation) (rows : OperationRows) : Prop :=
  operation.tokenCharged = true → ∃ token, rows.token = some token ∧
    operation.reservedQuota ≤ token.usedQuota ∧
    (operation.tokenRemainCharged = true →
      token.remainQuota ≤ maxQuota - operation.reservedQuota)

/-- The counter covers the refund, and a limited subscription is within its total after it. -/
def CounterCovers (operation : BillingOperation) (sub : UserSubscription) : Prop :=
  operation.reservedQuota ≤ sub.amountUsed ∧
    (0 < sub.amountTotal → sub.amountUsed - operation.reservedQuota ≤ sub.amountTotal)

theorem validateToken_refund (low : 0 ≤ operation.reservedQuota)
    (token : TokenRefundable operation rows) :
    validateToken operation rows (-operation.reservedQuota) = .ok () := by
  unfold validateToken
  split
  · rename_i charged
    obtain ⟨row, present, used, remain⟩ := token charged
    have down : ¬ 0 < -operation.reservedQuota := by omega
    have covered : ¬ row.usedQuota < - -operation.reservedQuota := by omega
    simp only [present, down, if_false, covered]
    rw [if_neg]
    rintro ⟨remaining, exceeds⟩
    have := remain remaining
    omega
  · rfl

theorem validate_refund_iff (source : operation.fundingSource = .subscription)
    (range : InRange operation) (present : rows.subscription = some sub)
    (low : 0 ≤ sub.amountUsed) (high : sub.amountUsed ≤ maxInt64)
    (token : TokenRefundable operation rows) :
    validateBillingOperationDelta operation rows (-operation.reservedQuota) = .ok () ↔
      operation.reservedQuota = 0 ∨ CounterCovers operation sub := by
  have bounds := range
  have narrow : (-2 ^ 63 : Int) ≤ sub.amountUsed + -operation.reservedQuota := by
    have := bounds.2.1
    unfold maxQuota at this
    omega
  have exactly : int64 (sub.amountUsed + -operation.reservedQuota) =
      sub.amountUsed + -operation.reservedQuota :=
    int64_of_mem narrow (by have := bounds.1; omega)
  unfold validateBillingOperationDelta
  by_cases nothing : operation.reservedQuota = 0
  · simp [nothing]
  · have moving : -operation.reservedQuota ≠ 0 := by omega
    simp only [moving, if_false, validateFunding, source, present, exactly, nothing, false_or,
      validateToken_refund bounds.1 token, CounterCovers]
    by_cases short : sub.amountUsed + -operation.reservedQuota < 0
    · simp only [short, if_true]
      constructor
      · intro impossible
        cases impossible
      · intro covers
        omega
    · by_cases exceeds : 0 < sub.amountTotal ∧
          sub.amountTotal < sub.amountUsed + -operation.reservedQuota
      · simp only [short, exceeds, if_false, if_true, and_self]
        constructor
        · intro impossible
          cases impossible
        · intro covers
          have := covers.2 trivial
          omega
      · simp only [short, exceeds, if_false]
        constructor
        · intro _
          exact ⟨by omega, fun limited => by omega⟩
        · intro _
          rfl

theorem refundBillingOperation_eq (context : Context)
    (found : db.operations.find? operation.id = some operation) (positive : 0 < operation.id)
    (reserved : operation.status = .reserved)
    (loading : loadBillingOperationRows db operation = .ok rows) :
    refundBillingOperation context db operation.id =
      finish context db operation rows (-operation.reservedQuota) 0
        (refundedOperation operation) false := by
  have valid : ¬ (operation.id ≤ 0 ∨ (0 : Int) < 0 ∨ maxQuota < 0) := by
    have cap : ¬ maxQuota < 0 := by decide
    omega
  have quota : ¬ ((0 : Int) < 0 ∨ maxQuota < 0) := by decide
  unfold refundBillingOperation transitionBillingOperation
  rw [if_neg valid]
  simp only [findOperation, found, bind, Except.bind, transitionBillingOperationTx]
  rw [if_neg quota]
  simp only [reserved, refundReserved, loading]

theorem amountUsed_of_loaded (source : operation.fundingSource = .subscription)
    (loading : loadBillingOperationRows db operation = .ok rows)
    (present : rows.subscription = some sub) :
    db.amountUsed operation.subscriptionId = some sub.amountUsed := by
  obtain ⟨same, here, stored⟩ := (loadRows_ok loading).subscription source
  rw [present] at here
  cases here
  simp [Database.amountUsed, stored]

/-- A refund commits exactly when the current counter covers it, and then draws it from that
counter. -/
theorem refund_commits_iff (context : Context)
    (found : db.operations.find? operation.id = some operation) (positive : 0 < operation.id)
    (reserved : operation.status = .reserved) (source : operation.fundingSource = .subscription)
    (range : InRange operation) (loading : loadBillingOperationRows db operation = .ok rows)
    (present : rows.subscription = some sub) (low : 0 ≤ sub.amountUsed)
    (high : sub.amountUsed ≤ maxInt64) (token : TokenRefundable operation rows) :
    (∃ moved, refundBillingOperation context db operation.id = .ok moved ∧
      moved.operation.status = .refunded ∧
      moved.db.amountUsed operation.subscriptionId =
        some (sub.amountUsed - operation.reservedQuota)) ↔
      operation.reservedQuota = 0 ∨ CounterCovers operation sub := by
  have loaded := loadRows_ok loading
  have iff := validate_refund_iff source range present low high token
  rw [refundBillingOperation_eq context found positive reserved loading, ← iff]
  constructor
  · rintro ⟨moved, done, -, -⟩
    unfold finish at done
    split at done
    · simp at done
    · assumption
  · intro valid
    obtain ⟨after, applied⟩ := applyDelta_of_validate context loaded valid
    refine ⟨⟨true, -operation.reservedQuota, refundedOperation operation,
      saveOperation after (refundedOperation operation)⟩, ?_, rfl, ?_⟩
    · simp only [finish, valid, applied, bind, Except.bind]
    · obtain ⟨moves, -⟩ := applyDelta_moves loaded applied
      have before := amountUsed_of_loaded source loading present
      have exactly : int64 (sub.amountUsed + -operation.reservedQuota) =
          sub.amountUsed + -operation.reservedQuota := by
        have wide := range.2.1
        unfold maxQuota at wide
        exact int64_of_mem (by omega) (by have := range.1; omega)
      change after.amountUsed operation.subscriptionId = _
      rw [moves.amountUsed, before]
      by_cases nothing : operation.reservedQuota = 0
      · simp [nothing]
      · simp [fundedBy, source, nothing, exactly]
        ring

def resetBy (db : Database) (event : Event) : List Int :=
  match perform db event with
  | .error _ => []
  | .ok done => done.reset

/-- No operation of a subscription that this step resets is open. -/
def Quiet (ledger : Ledger) (event : Event) : Prop :=
  ∀ operation ∈ ledger.db.operations.rows, operation.fundingSource = .subscription →
    operation.subscriptionId ∈ resetBy ledger.db event → operation.status ≠ .reserved

instance (ledger : Ledger) (event : Event) : Decidable (Quiet ledger event) :=
  inferInstanceAs (Decidable (∀ operation ∈ ledger.db.operations.rows, _))

/-- What an operation carries over is closed, and the opening counters are not negative. -/
structure Closed (ledger : Ledger) : Prop where
  opening : ∀ subscription, 0 ≤ ledger.opening subscription
  carried : ∀ operation ∈ ledger.db.operations.rows, ∀ charged,
    ledger.carried operation.id = some charged →
      operation.status ≠ .reserved ∧ charge operation = charged

theorem Closed.carryOver {charged : Int} (closed : Closed ledger) (quiet : Quiet ledger event)
    (member : operation ∈ ledger.db.operations.rows)
    (carried : carryOver ledger (resetBy ledger.db event) operation.id = some charged) :
    operation.status ≠ .reserved ∧ charge operation = charged := by
  simp only [SubscriptionPeriods.carryOver, mem_find? member] at carried
  split at carried
  · rename_i own
    exact ⟨quiet operation member own.1 own.2, Option.some.inj carried⟩
  · exact closed.carried operation member charged carried

theorem closed_step (ledger : Ledger) (event : Event) (quiet : Quiet ledger event)
    (kept : Accounted ledger ∧ Closed ledger) :
    Accounted (step ledger event) ∧ Closed (step ledger event) := by
  obtain ⟨accounted, closed⟩ := kept
  refine ⟨accounted_step ledger event accounted, ?_⟩
  unfold step
  split
  · exact closed
  rename_i done performed
  have reset : resetBy ledger.db event = done.reset := by rw [resetBy, performed]
  have opening (subscription : Int) : 0 ≤ (record ledger done).opening subscription := by
    simp only [record]
    split
    · exact le_rfl
    · exact closed.opening subscription
  have old {operation : BillingOperation} {charged : Int}
      (member : operation ∈ ledger.db.operations.rows)
      (carried : carryOver ledger done.reset operation.id = some charged) :
      operation.status ≠ .reserved ∧ charge operation = charged :=
    closed.carryOver quiet member (by rw [reset]; exact carried)
  refine ⟨opening, fun operation member charged carried => ?_⟩
  change operation ∈ done.db.operations.rows at member
  change carryOver ledger done.reset operation.id = some charged at carried
  rcases perform_effect performed with ⟨effect, plain⟩ | effect
  · cases effect with
    | idle users tokens subscriptions operations noReset noAdoption =>
      rw [operations] at member
      exact old member carried
    | created row unused inserted positive reserved range moves noAdoption =>
      obtain ⟨absent, appended⟩ := insert?_eq_some inserted
      rw [appended, List.mem_append, List.mem_singleton] at member
      rcases member with member | rfl
      · exact old member carried
      · rw [carryOver_absent accounted done.reset absent] at carried
        cases carried
    | advanced before row stored change noReset noAdoption =>
      rw [change.operations, Table.save, List.mem_map] at member
      obtain ⟨earlier, member, shape⟩ := member
      split at shape
      · rename_i same
        subst shape
        have here := mem_find? member
        rw [same, change.identity.id, stored] at here
        cases here
        rw [change.identity.id] at carried
        exact absurd change.reserved (old (find?_mem stored).1 carried).1
      · subst shape
        exact old member carried
    | adopted row unused inserted closed moves noReset adoption =>
      rw [adoption] at plain
      cases plain
  · rw [effect.operations] at member
    exact old member carried

theorem closed_start (db : Database) (amounts : CountersInRange db) : Closed (start db) := by
  refine ⟨fun subscription => ?_, fun _ _ _ carried => nomatch carried⟩
  simp only [start]
  cases stored : db.amountUsed subscription with
  | none => exact le_rfl
  | some used => exact (amounts subscription used stored).1

theorem Closed.takenSince_eq (closed : Closed ledger) (subscription : Int) :
    takenSince ledger.db ledger.carried subscription = reservedSince ledger subscription := by
  apply sum_congr
  intro operation member
  cases carried : ledger.carried operation.id with
  | none => simp
  | some charged => simp [(closed.carried operation member charged carried).2]

theorem Closed.covers (closed : Closed ledger) (accounted : Accounted ledger)
    (member : operation ∈ ledger.db.operations.rows) (reserved : operation.status = .reserved)
    (source : operation.fundingSource = .subscription) :
    operation.reservedQuota ≤ reservedSince ledger operation.subscriptionId := by
  have fresh : ledger.carried operation.id = none := by
    cases carried : ledger.carried operation.id with
    | none => rfl
    | some charged => exact absurd reserved (closed.carried operation member charged carried).1
  have own : charge operation = operation.reservedQuota := by simp [charge, reserved]
  refine List.single_le_sum (fun value inside => ?_) _
    (List.mem_map.2 ⟨operation, member, by simp [fundedBy, source, fresh, own]⟩)
  obtain ⟨other, present, rfl⟩ := List.mem_map.1 inside
  split
  · exact (accounted.operations other present).2.2.2.1
  · exact le_rfl

/-- In every run whose resets find the subscription's operations closed, amount_used is what the
period opened with plus the charges of the operations reserved since the last reset, and every
open operation can be refunded from it. -/
theorem quiet_periods_accounted (db : Database) (empty : db.operations.rows = [])
    (amounts : CountersInRange db) (events : List Event)
    (quiet : AllSteps step Quiet (start db) events) :
    let ledger := run step (start db) events
    (∀ subscription used, ledger.db.amountUsed subscription = some used →
      used = ledger.opening subscription + reservedSince ledger subscription) ∧
    (∀ context operation rows sub, operation ∈ ledger.db.operations.rows →
      operation.status = .reserved → operation.fundingSource = .subscription →
      loadBillingOperationRows ledger.db operation = .ok rows →
      rows.subscription = some sub → TokenRefundable operation rows →
      (0 < sub.amountTotal → sub.amountUsed ≤ sub.amountTotal) →
      ∃ moved, refundBillingOperation context ledger.db operation.id = .ok moved ∧
        moved.operation.status = .refunded ∧
        moved.db.amountUsed operation.subscriptionId =
          some (sub.amountUsed - operation.reservedQuota)) := by
  intro ledger
  obtain ⟨accounted, closed⟩ : Accounted ledger ∧ Closed ledger :=
    run_invariant closed_step _ events quiet
      ⟨accounted_start db empty amounts, closed_start db amounts⟩
  constructor
  · intro subscription used stored
    rw [← closed.takenSince_eq]
    exact (accounted.amounts subscription used stored).2.2
  · intro context operation rows sub member reserved source loading present token within
    obtain ⟨positive, range⟩ := accounted.operations operation member
    obtain ⟨low, high, sum⟩ :=
      accounted.amounts _ _ (amountUsed_of_loaded source loading present)
    refine (refund_commits_iff context (mem_find? member) positive reserved source range loading
      present low high token).2 (.inr ?_)
    have opened := closed.opening operation.subscriptionId
    have covered := closed.covers accounted member reserved source
    have least := range.1
    rw [closed.takenSince_eq] at sum
    refine ⟨by omega, fun limited => ?_⟩
    have := within limited
    omega

def periodStore : Database where
  users := ⟨[{ id := 1 }], by decide⟩
  plans := ⟨[{ id := 4 }], by decide⟩
  subscriptions := ⟨[{ id := 3, userId := 1, planId := 4, amountTotal := 100,
                       endTime := 1771718501 }], by decide⟩

def periodReserve (requestId : String) (quota : Int) : Event :=
  .reserve sampleContext { requestId, userId := 1, fundingSource := "subscription", quota }

def periodReset : Event := .adminResetUser sampleContext 1 4 false

theorem periodStore_amounts : CountersInRange periodStore := by
  intro subscription used stored
  obtain ⟨row, found, shape⟩ := map_eq_some_iff.mp stored
  have member := (find?_mem found).1
  simp only [periodStore, List.mem_singleton] at member
  subst member shape
  decide

def periodEvents : List Event := [periodReserve "a" 10, periodReset, periodReserve "b" 20]

/-- The first operation is settled before the reset. -/
def settledEvents : List Event :=
  [periodReserve "a" 10, .settle sampleContext 1 4, periodReset, periodReserve "b" 20]

theorem settled_before_reset_accounted :
    (run step (start periodStore) settledEvents).db.amountUsed 3 = some 20 ∧
      20 = (run step (start periodStore) settledEvents).opening 3 +
        reservedSince (run step (start periodStore) settledEvents) 3 :=
  ⟨by decide, (quiet_periods_accounted periodStore rfl periodStore_amounts settledEvents
    (by decide)).1 3 20 (by decide)⟩

/-- Refunding an operation from before the reset draws on the new counter: 10 is left although
20 were reserved since. With no traffic after the reset the refund is rejected. -/
theorem reset_breaks_period_sum :
    (¬ ∀ (db : Database) (events : List Event) (subscription used : Int),
      db.operations.rows = [] → CountersInRange db →
      (run step (start db) events).db.amountUsed subscription = some used →
      used = (run step (start db) events).opening subscription +
        reservedSince (run step (start db) events) subscription) ∧
    perform (run step (start periodStore) [periodReserve "a" 10, periodReset]).db
      (.refund sampleContext 1) = .error .fundingInvalid := by
  constructor
  · intro law
    have claimed := law periodStore (periodEvents ++ [.refund sampleContext 1]) 3 10 rfl
      periodStore_amounts (by decide)
    revert claimed
    decide
  · rfl

end NewApi.SubscriptionPeriods
