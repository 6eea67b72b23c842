import NewApi.Wallet

/-!
Quota reservations of the Midjourney proxy (model/midjourney_quota_reservation.go)
and the conditional task update that settles them (model/midjourney.go). The
reservation debits under a guard; giving the quota back adds it to the wallet
without one, for a reservation as for a task that is older than reservations.
-/

namespace NewApi.MidjourneyReservation

open Runs BillingOperations Wallet TokenEffects

structure ReservationRequest where
  requestId : String
  userId : Int
  tokenId : Int := 0
  quota : Int
  tokenCharged : Bool := false
  deriving DecidableEq

inductive BillingOutcome where
  | pending
  | success
  | failure
  deriving DecidableEq

def findReservation (db : Database) (requestId : String) : Option MidjourneyQuotaReservation :=
  db.reservations.rows.find? (fun row => row.requestId = requestId)

def sameMidjourneyQuotaReservation (existing : MidjourneyQuotaReservation)
    (input : ReservationRequest) : Bool :=
  existing.requestId = input.requestId ∧ existing.userId = input.userId ∧
    existing.tokenId = input.tokenId ∧ existing.quota = input.quota ∧
    existing.tokenCharged = input.tokenCharged

def saveReservation (db : Database) (reservation : MidjourneyQuotaReservation) : Database :=
  { db with reservations := db.reservations.save reservation }

def debitUser (db : Database) (userId quota : Int) : Except StoreError Database :=
  match db.users.updateWhere userId (fun row => live row && decide (quota ≤ row.quota))
      (fun row => { row with quota := row.quota - quota }) with
  | none => .error (.midjourney .walletQuota)
  | some users => .ok { db with users }

variable (context : Context) (db : Database)

/-- Returns whether the token is unlimited, which the reservation remembers. -/
def debitToken (input : ReservationRequest) : Except StoreError (Bool × Database) :=
  match db.tokens.find? input.tokenId with
  | none => .error (.midjourney .tokenInvalid)
  | some token =>
    if token.userId ≠ input.userId ∨ token.status ≠ .enabled ∨
        (token.expiredTime ≠ -1 ∧ token.expiredTime < context.time) then
      .error (.midjourney .tokenInvalid)
    else match db.tokens.updateWhere token.id
        (fun row => token.unlimitedQuota || decide (input.quota ≤ row.remainQuota))
        (chargeToken context.time input.quota !token.unlimitedQuota) with
      | none => .error (.midjourney .tokenQuota)
      | some tokens => .ok (token.unlimitedQuota, { db with tokens })

def chargeReservation (input : ReservationRequest)
    (reservation : MidjourneyQuotaReservation) :
    Except StoreError (MidjourneyQuotaReservation × Database) := do
  let db ← debitUser db input.userId input.quota
  if input.tokenCharged then do
    let (unlimited, db) ← debitToken context db input
    let reservation := { reservation with tokenUnlimited := unlimited }
    .ok (reservation, saveReservation db reservation)
  else .ok (reservation, db)

def newReservation (input : ReservationRequest) : MidjourneyQuotaReservation where
  id := nextId MidjourneyQuotaReservation.id db.reservations.rows
  requestId := input.requestId
  userId := input.userId
  tokenId := input.tokenId
  quota := input.quota
  tokenCharged := input.tokenCharged

def createReservation (input : ReservationRequest) :
    Except StoreError (MidjourneyQuotaReservation × Database) :=
  match db.reservations.insert? (newReservation db input) with
  | none => .error .duplicateKey
  | some reservations => .ok (newReservation db input, { db with reservations })

/-- The reservation of a request whose identifier is trimmed. -/
def reserveTrimmed (input : ReservationRequest) :
    Except StoreError (MidjourneyQuotaReservation × Bool × Database) :=
  if input.requestId = "" ∨ 64 < input.requestId.utf8ByteSize ∨ input.userId ≤ 0 ∨
      input.quota ≤ 0 ∨ (input.tokenCharged ∧ input.tokenId ≤ 0) then
    .error (.midjourney .invalid)
  else match findReservation db input.requestId with
    | some existing =>
      if sameMidjourneyQuotaReservation existing input then .ok (existing, false, db)
      else .error (.midjourney .conflict)
    | none => do
      let (reservation, db) ← createReservation db input
      let (reservation, db) ← chargeReservation context db input reservation
      .ok (reservation, true, db)

/-- Returns whether a reservation was created. A repeated request finds its first one, also
when the transaction it raced with has failed: the look-up afterwards reads the same rows. -/
def reserveMidjourneyQuota (input : ReservationRequest) :
    Except StoreError (MidjourneyQuotaReservation × Bool × Database) :=
  reserveTrimmed context db { input with requestId := trimSpace input.requestId }

def releaseToken (reservation : MidjourneyQuotaReservation) : Except StoreError Database :=
  if reservation.tokenCharged then
    match db.tokens.updateWhere reservation.tokenId
        (fun row => row.userId = reservation.userId ∧ reservation.quota ≤ row.usedQuota)
        (fun row => { row with
          usedQuota := row.usedQuota - reservation.quota,
          remainQuota := if reservation.tokenUnlimited then row.remainQuota
            else row.remainQuota + reservation.quota }) with
    | none => .error (.midjourney .tokenInvalid)
    | some tokens =>
      if reservation.tokenUnlimited = false ∧ 0 < reservation.quota then
        .ok (restoreExhaustedTokenIfFunded { db with tokens } reservation.tokenId context.time)
      else .ok { db with tokens }
  else .ok db

variable (settings : Settings) (db : Database)

/-- The refund statement reaches soft-deleted accounts too, and must reach one. -/
def refundUser (user quota : Int) :
    Except StoreError Database := do
  match ← shiftWallet settings db (fun _ => true) user quota with
  | none => .error (.midjourney .invalid)
  | some db => .ok db

def refundReservation (reservation : MidjourneyQuotaReservation) :
    Except StoreError Database := do
  let db ← refundUser settings db reservation.userId reservation.quota
  let db ← releaseToken settings.context db reservation
  .ok (saveReservation db { reservation with status := .refunded })

/-- Returns whether the reservation changed. -/
def applyMidjourneyReservationOutcome (reservation : MidjourneyQuotaReservation)
    (outcome : BillingOutcome) : Except StoreError (Bool × Database) :=
  match outcome, reservation.status with
  | .pending, .reserved => .ok (false, db)
  | .pending, _ => .error (.midjourney .transition)
  | .success, .settled => .ok (false, db)
  | .success, .refunded => .error (.midjourney .transition)
  | .success, .reserved => .ok (true, saveReservation db { reservation with status := .settled })
  | .failure, .refunded => .ok (false, db)
  | .failure, .settled => .error (.midjourney .transition)
  | .failure, .reserved => do
    let db ← refundReservation settings db reservation
    .ok (true, db)

/-- `RefundMidjourneyQuotaReservation` and `SettleMidjourneyQuotaReservation` differ in the
outcome they apply. -/
def closeReservation (id : Int) (outcome : BillingOutcome) : Except StoreError (Bool × Database) :=
  if id ≤ 0 then .error (.midjourney .invalid)
  else match db.reservations.find? id with
    | none => .error .recordNotFound
    | some reservation => applyMidjourneyReservationOutcome settings db reservation outcome

def refundMidjourneyQuotaReservation (id : Int) : Except StoreError (Bool × Database) :=
  closeReservation settings db id .failure

def settleMidjourneyQuotaReservation (id : Int) : Except StoreError (Bool × Database) :=
  closeReservation settings db id .success

def createMidjourneyTaskWithReservation (task : Midjourney) (reservationId : Int)
    (outcome : BillingOutcome) : Except StoreError (Bool × Database) :=
  if task.id ≠ 0 ∨ reservationId ≤ 0 then .error (.midjourney .invalid)
  else match db.reservations.find? reservationId with
    | none => .error .recordNotFound
    | some reservation =>
      if reservation.status ≠ .reserved ∨ reservation.midjourneyTaskId ≠ 0 ∨
          reservation.userId ≠ task.userId ∨ reservation.quota ≠ task.quota then
        .error (.midjourney .conflict)
      else
        let taskId := nextId Midjourney.id db.midjourneys.rows
        match db.midjourneys.insert?
            { task with id := taskId, quotaReservationId := reservation.id } with
        | none => .error .duplicateKey
        | some midjourneys => do
          let reservation := { reservation with midjourneyTaskId := taskId }
          let (changed, db) ← applyMidjourneyReservationOutcome settings
            (saveReservation { db with midjourneys } reservation) reservation outcome
          .ok (decide (outcome = .failure) && changed, db)

/-- The billing half of the task update, after the row has been won. -/
def applyTaskOutcome (task : Midjourney) (outcome : BillingOutcome) :
    Except StoreError (Bool × Database) :=
  if 0 < task.quotaReservationId then
    match db.reservations.find? task.quotaReservationId with
    | none => .error .recordNotFound
    | some reservation =>
      if reservation.userId ≠ task.userId ∨ reservation.quota ≠ task.quota ∨
          reservation.midjourneyTaskId ≠ task.id then .error (.midjourney .conflict)
      else do
        let (changed, db) ← applyMidjourneyReservationOutcome settings db reservation outcome
        .ok (decide (outcome = .failure) && changed, db)
  else if outcome = .failure ∧ 0 < task.quota then do
    let db ← refundUser settings db task.userId task.quota
    .ok (true, db)
  else .ok (false, db)

/-- Returns whether the update won the row and whether it refunded. -/
def updateWithQuotaReservation (task : Midjourney) (fromStatus : String)
    (outcome : BillingOutcome) : Except StoreError (Bool × Bool × Database) :=
  if task.id ≤ 0 then .error (.midjourney .invalid)
  else match db.midjourneys.updateWhere task.id (fun row => row.status = fromStatus)
      (fun _ => task) with
    | none => .ok (false, false, db)
    | some midjourneys => do
      let (refunded, db) ← applyTaskOutcome settings { db with midjourneys } task outcome
      .ok (true, refunded, db)

/-- What an outcome adds to the wallet behind a reservation. -/
def reservationCredit (reservation : MidjourneyQuotaReservation) (outcome : BillingOutcome) :
    Option (Int × Int) :=
  if outcome = .failure ∧ reservation.status = .reserved then
    some (reservation.userId, reservation.quota)
  else none

theorem outcome_cases {settings : Settings} {db : Database}
    {reservation : MidjourneyQuotaReservation} {outcome : BillingOutcome} {changed : Bool}
    {after : Database} (done : applyMidjourneyReservationOutcome settings db reservation outcome =
      .ok (changed, after)) :
    changed = false ∧ after = db ∨
      changed = true ∧ outcome = .success ∧ reservation.status = .reserved ∧
        after = saveReservation db { reservation with status := .settled } ∨
      changed = true ∧ outcome = .failure ∧ reservation.status = .reserved ∧
        refundReservation settings db reservation = .ok after := by
  unfold applyMidjourneyReservationOutcome at done
  split at done
  case h_5 status =>
    cases done
    exact .inr (.inl ⟨rfl, rfl, status, rfl⟩)
  case h_8 status =>
    rcases bind_ok done with ⟨refunded, refunding, done⟩
    cases done
    exact .inr (.inr ⟨rfl, rfl, status, refunding⟩)
  all_goals
    cases done
    try exact .inl ⟨rfl, rfl⟩

/-- A failed task gives its quota back, from its reservation or, without one, directly. -/
def taskCredit (task : Midjourney) (outcome : BillingOutcome) : Option (Int × Int) :=
  if outcome = .failure then some (task.userId, task.quota) else none

end NewApi.MidjourneyReservation
