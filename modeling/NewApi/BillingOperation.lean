import NewApi.SubscriptionReset

/-!
The durable billing operations of model/billing_operation.go. Every entry point
is one transaction: it returns the new store, or an error and no store. Rows are
read under row locks, so a committed transaction sees and writes one consistent
state. Where the source drops information that a statement about histories needs
(which subscriptions a reservation reset on its way, whether a task's operation
was adopted), the model returns it beside the source's own result.
-/

namespace NewApi

structure Context where
  calendar : Calendar
  hashTokenKey : String → String
  -- `GetDBTimestamp()` and `common.GetTimestamp()`.
  dbTime : Int
  time : Int

inductive Outcome where
  | settle
  | refund
  deriving DecidableEq

structure ReserveRequest where
  requestId : String
  userId : Int
  tokenId : Int := 0
  tokenKey : String := ""
  tokenCharged : Bool := false
  fundingSource : String := "wallet"
  quota : Int
  deriving DecidableEq

structure OperationRows where
  user : User
  subscription : Option UserSubscription := none
  token : Option Token := none

namespace BillingOperations

open SubscriptionReset

/-- `validBillingFundingSource`, with the source it names. -/
def parseFundingSource (source : String) : Option FundingSource :=
  if source = "wallet" then some .wallet
  else if source = "subscription" then some .subscription
  else none

variable (context : Context) (db : Database) (input : ReserveRequest) (operation : BillingOperation)
  (rows : OperationRows) (quota delta requestedQuota : Int) (abandonOnInconsistent : Bool)

/-- The checks before the transaction; `input.requestId` is trimmed already. -/
def acceptedSource : Option FundingSource :=
  match parseFundingSource input.fundingSource with
  | none => none
  | some source =>
    if input.requestId = "" ∨ 64 < input.requestId.utf8ByteSize ∨ input.userId ≤ 0 ∨
        input.quota < 0 ∨ maxQuota < input.quota ∨
        (source = .subscription ∧ input.quota ≤ 0) ∨
        (input.tokenCharged ∧ (input.tokenId ≤ 0 ∨ trimSpace input.tokenKey = "")) then none
    else some source

def findByRequestId (requestId : String) : Option BillingOperation :=
  db.operations.rows.find? (fun row => row.requestId = requestId)

def sameBillingOperationRequest (existing : BillingOperation) (input : ReserveRequest)
    (source : FundingSource) : Bool :=
  existing.requestId = input.requestId ∧ existing.userId = input.userId ∧
    existing.tokenId = input.tokenId ∧ existing.tokenCharged = input.tokenCharged ∧
    existing.fundingSource = source

/-- `tx.Create` under the unique index on request_id. -/
def createOperation : Except StoreError (BillingOperation × Database) :=
  let operation := { operation with id := nextId BillingOperation.id db.operations.rows }
  if (findByRequestId db operation.requestId).isSome then .error .duplicateKey
  else match db.operations.insert? operation with
    | none => .error .duplicateKey
    | some operations => .ok (operation, { db with operations })

def saveOperation : Database :=
  { db with operations := db.operations.save operation }

/-- Returns the chosen subscription, the store, and the subscriptions reset on the way. -/
def selectSubscription (context : Context) (quota : Int) :
    List UserSubscription → Database → Except StoreError (UserSubscription × Database × List Int)
  | [], _ => .error .fundingQuota
  | sub :: rest, db => do
    let plan ← getSubscriptionPlanById db sub.planId
    let (reset, sub, db) ←
      maybeResetUserSubscriptionWithPlan context.calendar db sub plan context.dbTime
    let passed := if reset then [sub.id] else []
    if 0 < sub.amountTotal ∧ int64 (sub.amountTotal - sub.amountUsed) < quota then do
      let (selected, db, more) ← selectSubscription context quota rest db
      .ok (selected, db, passed ++ more)
    else .ok (sub, db, passed)

def selectBillingSubscription (userId quota : Int) :
    Except StoreError (UserSubscription × Database × List Int) :=
  selectSubscription context quota
    (activeSubscriptions db (fun row => row.userId = userId) context.dbTime) db

def debitWallet (userId quota : Int) : Except StoreError Database :=
  match db.users.updateWhere userId (fun row => !row.deleted && decide (quota ≤ row.quota))
      (fun row => { row with quota := row.quota - quota }) with
  | none => .error .fundingQuota
  | some users => .ok { db with users }

/-- The bigint column rejects a sum past its range. -/
def chargeSubscription (sub : UserSubscription) (quota : Int) : Except StoreError Database :=
  if int64 (sub.amountUsed + quota) ≠ sub.amountUsed + quota then .error .outOfRange
  else match db.subscriptions.updateWhere sub.id
      (fun row => decide (row.amountUsed = sub.amountUsed))
      (fun row => { row with amountUsed := row.amountUsed + quota }) with
    | none => .error .fundingQuota
    | some subscriptions => .ok { db with subscriptions }

def reserveFunding (source : FundingSource) (userId quota : Int) :
    Except StoreError (Int × Database × List Int) :=
  let userExists (db : Database) : Bool :=
    (db.users.find? userId).any (fun row => !row.deleted)
  match source with
  | .wallet =>
    if userExists db then
      if 0 < quota then do
        let db ← debitWallet db userId quota
        .ok (0, db, [])
      else .ok (0, db, [])
    else .error (.ownerMissing .user)
  | .subscription => do
    let (sub, db, reset) ← selectBillingSubscription context db userId quota
    if userExists db then do
      let db ← chargeSubscription db sub quota
      .ok (sub.id, db, reset)
    else .error (.ownerMissing .user)

/-- `used_quota + delta`, and `remain_quota - delta` when the operation charges it. -/
def chargeToken (time delta : Int) (remainCharged : Bool) (row : Token) : Token :=
  { row with
    usedQuota := row.usedQuota + delta
    remainQuota := if remainCharged then row.remainQuota - delta else row.remainQuota
    accessedTime := time }

def reserveToken : Except StoreError (Bool × Database) :=
  match db.tokens.find? input.tokenId with
  | none => .error .tokenInvalid
  | some token =>
    if token.deleted ∨ token.userId ≠ input.userId ∨
        token.keyHash ≠ context.hashTokenKey input.tokenKey then .error .tokenInvalid
    else if token.status ≠ .enabled ∨
        (token.expiredTime ≠ -1 ∧ token.expiredTime < context.time) then .error .tokenInvalid
    else if 0 < input.quota then
      match db.tokens.updateWhere input.tokenId
          (fun row => !row.deleted && decide (row.userId = input.userId ∧
            row.usedQuota ≤ maxQuota - input.quota ∧
            (token.unlimitedQuota = false → input.quota ≤ row.remainQuota)))
          (chargeToken context.time input.quota (!token.unlimitedQuota)) with
      | none => .error .tokenQuota
      | some tokens => .ok (token.unlimitedQuota, { db with tokens })
    else .ok (token.unlimitedQuota, db)

structure Reservation where
  operation : BillingOperation
  created : Bool
  db : Database
  reset : List Int

/-- Records on the operation whether the token's remain_quota is charged, and charges it. -/
def reserveTokenCharge : Except StoreError (BillingOperation × Database) :=
  if input.tokenCharged then do
    let (unlimited, db) ← reserveToken context db input
    .ok ({ operation with tokenUnlimited := unlimited, tokenRemainCharged := !unlimited }, db)
  else .ok (operation, db)

def reserveNew (source : FundingSource) : Except StoreError Reservation := do
  let (operation, db) ← createOperation db
    { id := 0, requestId := input.requestId, userId := input.userId, tokenId := input.tokenId,
      tokenCharged := input.tokenCharged, fundingSource := source, reservedQuota := input.quota }
  let (subscriptionId, db, reset) ← reserveFunding context db source input.userId input.quota
  let (operation, db) ← reserveTokenCharge context db input { operation with subscriptionId }
  .ok ⟨operation, true, saveOperation db operation, reset⟩

/-- The source looks the request id up again after a failed transaction; on the unchanged
store that repeats the first lookup. -/
def reserveBillingOperation (request : ReserveRequest) : Except StoreError Reservation :=
  let input := { request with requestId := trimSpace request.requestId }
  match acceptedSource input with
  | none => .error .operationInvalid
  | some source =>
    match findByRequestId db input.requestId with
    | some existing =>
      if sameBillingOperationRequest existing input source then .ok ⟨existing, false, db, []⟩
      else .error .operationConflict
    | none => reserveNew context db input source

/-! Adjusting, settling and refunding a reserved operation. -/

def loadSubscription : Except StoreError (Option UserSubscription) :=
  match operation.fundingSource with
  | .wallet => .ok none
  | .subscription =>
    if operation.subscriptionId ≤ 0 then .error .fundingInvalid
    else match db.subscriptions.find? operation.subscriptionId with
      | none => .error (.ownerMissing .subscription)
      | some sub => .ok (some sub)

def loadToken : Except StoreError (Option Token) :=
  if operation.tokenCharged then
    if operation.tokenId ≤ 0 then .error .tokenInvalid
    else match db.tokens.find? operation.tokenId with
      | none => .error (.ownerMissing .token)
      | some token =>
        if token.userId = operation.userId then .ok (some token)
        else .error (.ownerMissing .token)
  else .ok none

/-- User and token are read unscoped: a soft-deleted owner can still be settled. -/
def loadBillingOperationRows :
    Except StoreError OperationRows := do
  let subscription ← loadSubscription db operation
  match db.users.find? operation.userId with
  | none => .error (.ownerMissing .user)
  | some user => do
    let token ← loadToken db operation
    .ok { user, subscription, token }

def validateFunding : Except StoreError Unit :=
  match operation.fundingSource with
  | .subscription =>
    match rows.subscription with
    | none => .error .fundingInvalid
    | some sub =>
      let next := int64 (sub.amountUsed + delta)
      if next < 0 then .error .fundingInvalid
      else if 0 < sub.amountTotal ∧ sub.amountTotal < next then .error .fundingQuota
      else .ok ()
  | .wallet =>
    if 0 < delta ∧ rows.user.quota < delta then .error .fundingQuota
    else if delta < 0 ∧ maxQuota + delta < rows.user.quota then .error .fundingInvalid
    else .ok ()

def validateToken : Except StoreError Unit :=
  if operation.tokenCharged then
    match rows.token with
    | none => .error .tokenInvalid
    | some token =>
      if 0 < delta then
        if maxQuota - delta < token.usedQuota then .error .tokenInvalid
        else if operation.tokenRemainCharged ∧ token.remainQuota < delta then .error .tokenQuota
        else .ok ()
      else
        if token.usedQuota < -delta then .error .tokenInvalid
        else if operation.tokenRemainCharged ∧ maxQuota + delta < token.remainQuota then
          .error .tokenInvalid
        else .ok ()
  else .ok ()

def validateBillingOperationDelta : Except StoreError Unit :=
  if delta = 0 then .ok ()
  else do
    validateFunding operation rows delta
    validateToken operation rows delta

def applyFunding : Except StoreError Database :=
  match operation.fundingSource with
  | .subscription =>
    match rows.subscription with
    | none => .error .fundingInvalid
    | some sub =>
      let next := int64 (sub.amountUsed + delta)
      if next < 0 then .error .fundingInvalid
      else if 0 < sub.amountTotal ∧ sub.amountTotal < next then .error .fundingQuota
      else match db.subscriptions.updateWhere sub.id
          (fun row => decide (row.amountUsed = sub.amountUsed))
          (fun row => { row with amountUsed := next }) with
        | none => .error .fundingInvalid
        | some subscriptions => .ok { db with subscriptions }
  | .wallet =>
    match db.users.updateWhere operation.userId
        (fun row => if 0 < delta then decide (delta ≤ row.quota)
          else decide (row.quota ≤ maxQuota + delta))
        (fun row => { row with quota := row.quota - delta }) with
    | none => .error .fundingInvalid
    | some users => .ok { db with users }

/-- `RestoreExhaustedTokenIfFunded`; zero affected rows is not an error. -/
def restoreExhaustedTokenIfFunded (id time : Int) : Database :=
  match db.tokens.updateWhere id
      (fun row => decide (row.status = .exhausted ∧ 0 < row.remainQuota ∧
        row.keyPrefix ≠ "invalid" ∧ (row.expiredTime = -1 ∨ time < row.expiredTime) ∧
        row.deleted = false))
      (fun row => { row with status := .enabled }) with
  | none => db
  | some tokens => { db with tokens }

def tokenAccepts (row : Token) : Bool :=
  if 0 < delta then
    row.userId = operation.userId ∧ row.usedQuota ≤ maxQuota - delta ∧
      (operation.tokenRemainCharged → delta ≤ row.remainQuota)
  else
    row.userId = operation.userId ∧ -delta ≤ row.usedQuota ∧
      (operation.tokenRemainCharged → row.remainQuota ≤ maxQuota + delta)

def applyToken : Except StoreError Database :=
  if operation.tokenCharged then
    if rows.token.isNone then .error .tokenInvalid
    else match db.tokens.updateWhere operation.tokenId (tokenAccepts operation delta)
        (chargeToken context.time delta operation.tokenRemainCharged) with
      | none => .error .tokenInvalid
      | some tokens =>
        if delta < 0 ∧ operation.tokenRemainCharged then
          .ok (restoreExhaustedTokenIfFunded { db with tokens } operation.tokenId context.time)
        else .ok { db with tokens }
  else .ok db

def applyBillingOperationDelta : Except StoreError Database :=
  if delta = 0 then .ok db
  else do
    let db ← applyFunding db operation rows delta
    applyToken context db operation rows delta

def fundingCapacity : Int :=
  match operation.fundingSource with
  | .subscription =>
    match rows.subscription with
    | none => 0
    | some sub =>
      if 0 < sub.amountTotal then
        let remaining := int64 (sub.amountTotal - sub.amountUsed)
        if remaining ≤ 0 then 0 else min remaining maxQuota
      else maxQuota
  | .wallet => if rows.user.quota ≤ 0 then 0 else min rows.user.quota maxQuota

/-- The token's part of the capacity; the early `return 0` of the source is the zero result. -/
def tokenCapacity (capacity : Int) : Int :=
  if operation.tokenCharged then
    match rows.token with
    | none => 0
    | some token =>
      let usedCapacity := maxQuota - token.usedQuota
      if usedCapacity ≤ 0 then 0
      else if operation.tokenRemainCharged ∧ token.remainQuota ≤ 0 then 0
      else if operation.tokenRemainCharged then
        min token.remainQuota (min usedCapacity capacity)
      else min usedCapacity capacity
  else capacity

def billingOperationAdditionalCapacity : Int :=
  let capacity := fundingCapacity operation rows
  -- A funding source with nothing left returns zero before the token is looked at.
  if capacity = 0 then 0 else tokenCapacity operation rows capacity

def billingOperationFailureReason : StoreError → String
  | .ownerMissing .user => "user_missing"
  | .ownerMissing .token => "token_missing"
  | .ownerMissing .subscription => "subscription_missing"
  | .tokenInvalid | .tokenQuota => "token_balance_inconsistent"
  | .fundingInvalid | .fundingQuota => "funding_balance_inconsistent"
  | _ => "owner_missing"

def abandonBillingOperation (cause : StoreError) : BillingOperation :=
  { operation with
    requestedQuota
    actualQuota := operation.reservedQuota
    settlementLimited := true
    failureReason := billingOperationFailureReason cause
    status := .abandoned }

def isOwnerMissing : StoreError → Bool
  | .ownerMissing _ => true
  | _ => false

/-- The increase that is applied: the requested one, cut to the capacity. -/
def affordableDelta : Int :=
  let requestedDelta := quota - operation.reservedQuota
  if 0 < requestedDelta then
    min requestedDelta (billingOperationAdditionalCapacity operation rows)
  else requestedDelta

def adjustedOperation (targetQuota applied : Int) : BillingOperation :=
  let limited : Bool := applied ≠ targetQuota - operation.reservedQuota
  { operation with
    reservedQuota := operation.reservedQuota + applied
    requestedQuota := targetQuota
    settlementLimited := limited
    failureReason := if limited then "reservation_capacity_limited" else "" }

/-- Returns whether the row was saved, the operation and the store. -/
def adjustBillingOperationReservationTx (targetQuota : Int) :
    Except StoreError (Bool × BillingOperation × Database) :=
  if targetQuota < 0 ∨ maxQuota < targetQuota then .error .operationInvalid
  else if operation.status ≠ .reserved then .error .operationTransition
  else if targetQuota = operation.reservedQuota then .ok (false, operation, db)
  else match loadBillingOperationRows db operation with
    | .error cause =>
      if isOwnerMissing cause then
        let operation :=
          { operation with
            requestedQuota := targetQuota
            settlementLimited := true
            failureReason := billingOperationFailureReason cause }
        .ok (true, operation, saveOperation db operation)
      else .error cause
    | .ok rows => do
      let applied := affordableDelta operation rows targetQuota
      let db ← applyBillingOperationDelta context db operation rows applied
      let operation := adjustedOperation operation targetQuota applied
      .ok (true, operation, saveOperation db operation)

def settledOperation (applied : Int) : BillingOperation :=
  let limited : Bool := applied ≠ requestedQuota - operation.reservedQuota
  { operation with
    requestedQuota
    actualQuota := operation.reservedQuota + applied
    settlementLimited := limited
    failureReason := if limited then "settlement_capacity_limited" else ""
    status := .settled }

def refundedOperation : BillingOperation :=
  { operation with
    requestedQuota := 0
    actualQuota := 0
    settlementLimited := false
    failureReason := ""
    status := .refunded }

structure Transition where
  changed : Bool
  delta : Int
  operation : BillingOperation
  db : Database

def abandon (cause : StoreError) : Transition :=
  let operation := abandonBillingOperation operation requestedQuota cause
  ⟨true, 0, operation, saveOperation db operation⟩

/-- Moves a reserved operation to its final row by `delta`, or abandons it. -/
def finish (final : BillingOperation) (abandonOnInconsistent : Bool) :
    Except StoreError Transition :=
  match validateBillingOperationDelta operation rows delta with
  | .error cause =>
    if abandonOnInconsistent then .ok (abandon db operation requestedQuota cause)
    else .error cause
  | .ok () => do
    let db ← applyBillingOperationDelta context db operation rows delta
    .ok ⟨true, delta, final, saveOperation db final⟩

def settleReserved : Except StoreError Transition :=
  match loadBillingOperationRows db operation with
  | .error cause =>
    if isOwnerMissing cause then .ok (abandon db operation requestedQuota cause)
    else .error cause
  | .ok rows =>
    let applied := affordableDelta operation rows requestedQuota
    finish context db operation rows applied requestedQuota
      (settledOperation operation requestedQuota applied) abandonOnInconsistent

def refundReserved : Except StoreError Transition :=
  match loadBillingOperationRows db operation with
  | .error cause =>
    if isOwnerMissing cause then .ok (abandon db operation 0 cause) else .error cause
  | .ok rows =>
    finish context db operation rows (-operation.reservedQuota) 0
      (refundedOperation operation) abandonOnInconsistent

def transitionBillingOperationTx (outcome : Outcome) (abandonOnInconsistent : Bool) :
    Except StoreError Transition :=
  if requestedQuota < 0 ∨ maxQuota < requestedQuota then .error .operationInvalid
  else match outcome, operation.status with
    | .settle, .settled =>
      if operation.requestedQuota ≠ requestedQuota then .error .operationConflict
      else .ok ⟨false, 0, operation, db⟩
    | .settle, .refunded | .settle, .abandoned => .error .operationTransition
    | .settle, .reserved =>
      settleReserved context db operation requestedQuota abandonOnInconsistent
    | .refund, .refunded | .refund, .abandoned => .ok ⟨false, 0, operation, db⟩
    | .refund, .settled => .error .operationTransition
    | .refund, .reserved => refundReserved context db operation abandonOnInconsistent

def findOperation (id : Int) : Except StoreError BillingOperation :=
  match db.operations.find? id with
  | none => .error .recordNotFound
  | some operation => .ok operation

def adjustBillingOperationReservation (id targetQuota : Int) :
    Except StoreError (Bool × BillingOperation × Database) :=
  if id ≤ 0 ∨ targetQuota < 0 ∨ maxQuota < targetQuota then .error .operationInvalid
  else do
    let operation ← findOperation db id
    adjustBillingOperationReservationTx context db operation targetQuota

def transitionBillingOperation (id requestedQuota : Int) (outcome : Outcome) :
    Except StoreError Transition :=
  if id ≤ 0 ∨ requestedQuota < 0 ∨ maxQuota < requestedQuota then .error .operationInvalid
  else do
    let operation ← findOperation db id
    transitionBillingOperationTx context db operation requestedQuota outcome false

def settleBillingOperation (id requestedQuota : Int) : Except StoreError Transition :=
  transitionBillingOperation context db id requestedQuota .settle

def refundBillingOperation (id : Int) : Except StoreError Transition :=
  transitionBillingOperation context db id 0 .refund

end BillingOperations
end NewApi
