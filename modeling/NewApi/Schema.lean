import NewApi.MachineInt
import NewApi.Table
import NewApi.TextCase

/-!
The rows of the relational store that the billing, subscription and task code
reads and writes, with the columns those functions use. Bookkeeping columns that
no modelled function reads (created_at, updated_at, display texts) are left out.
Go `int` and `int64` values are integers; `int64` wrap-around is written out
where a sum can leave the range.
-/

namespace NewApi

open List

/-- `common.MaxQuota`, the width of the quota columns. -/
def maxQuota : Int := 2147483647

/-- `IncrementUserAuthVersionWithTx`: a version below one counts as one. -/
def nextAuthVersion (current : Int) : Int := (if current < 1 then 1 else current) + 1

structure User where
  id : Int
  username : String := ""
  password : String := ""
  displayName : String := ""
  role : Int := 1
  status : Int := 1
  email : String := ""
  quota : Int := 0
  group : String := "default"
  affCode : String := ""
  affCount : Int := 0
  affQuota : Int := 0
  affHistoryQuota : Int := 0
  inviterId : Int := 0
  remark : String := ""
  stripeCustomer : String := ""
  authVersion : Int := 1
  -- `DeletedAt.Valid`: scoped queries skip the row, `Unscoped` ones see it.
  deleted : Bool := false
  deriving DecidableEq

/-- The columns of a user other than the wallet. -/
def User.account (row : User) : User := { row with quota := 0 }

inductive TokenStatus where
  | enabled
  | disabled
  | expired
  | exhausted
  deriving DecidableEq

structure Token where
  id : Int
  userId : Int
  keyHash : String := ""
  keyPrefix : String := ""
  status : TokenStatus := .enabled
  accessedTime : Int := 0
  expiredTime : Int := -1
  remainQuota : Int := 0
  unlimitedQuota : Bool := false
  usedQuota : Int := 0
  deleted : Bool := false
  deriving DecidableEq

inductive SubscriptionStatus where
  | active
  | expired
  | cancelled
  deriving DecidableEq

structure UserSubscription where
  id : Int
  userId : Int
  planId : Int
  -- Zero means unlimited.
  amountTotal : Int := 0
  amountUsed : Int := 0
  startTime : Int := 0
  endTime : Int := 0
  status : SubscriptionStatus := .active
  lastResetTime : Int := 0
  nextResetTime : Int := 0
  source : String := "order"
  upgradeGroup : String := ""
  prevUserGroup : String := ""
  downgradeGroup : String := ""
  allowWalletOverflow : Bool := true
  deriving DecidableEq

structure SubscriptionPlan where
  id : Int
  -- Money columns hold the decimal value of the stored float.
  priceAmount : Rat := 0
  currency : String := "USD"
  durationUnit : String := "month"
  durationValue : Int := 1
  customSeconds : Int := 0
  -- The nullable flags; a missing one counts as true.
  enabled : Option Bool := none
  allowBalancePay : Option Bool := none
  allowWalletOverflow : Option Bool := none
  maxPurchasePerUser : Int := 0
  upgradeGroup : String := ""
  downgradeGroup : String := ""
  totalAmount : Int := 0
  quotaResetPeriod : String := "never"
  quotaResetCustomSeconds : Int := 0
  deriving DecidableEq

inductive FundingSource where
  | wallet
  | subscription
  deriving DecidableEq

inductive OperationStatus where
  | reserved
  | settled
  | refunded
  | abandoned
  deriving DecidableEq

structure BillingOperation where
  id : Int
  requestId : String
  taskId : Int := 0
  userId : Int
  tokenId : Int := 0
  tokenCharged : Bool := false
  tokenUnlimited : Bool := false
  tokenRemainCharged : Bool := false
  fundingSource : FundingSource := .wallet
  subscriptionId : Int := 0
  reservedQuota : Int := 0
  requestedQuota : Int := 0
  actualQuota : Int := 0
  settlementLimited : Bool := false
  failureReason : String := ""
  status : OperationStatus := .reserved
  deriving DecidableEq

inductive TaskStatus where
  | notStart
  | submitted
  | queued
  | inProgress
  | failure
  | success
  | unknown
  -- The column is free text: upstream answers are stored as they come.
  | other (text : String)
  deriving DecidableEq

structure TaskPrivateData where
  upstreamTaskId : String := ""
  resultUrl : String := ""
  billingSource : String := ""
  subscriptionId : Int := 0
  tokenId : Int := 0
  deriving DecidableEq

structure Task where
  id : Int := 0
  billingOperationId : Int := 0
  createdAt : Int := 0
  taskId : String := ""
  platform : String := ""
  userId : Int := 0
  channelId : Int := 0
  quota : Int := 0
  action : String := ""
  status : TaskStatus := .notStart
  failReason : String := ""
  submitTime : Int := 0
  startTime : Int := 0
  finishTime : Int := 0
  progress : String := ""
  privateData : TaskPrivateData := {}
  providerResultUri : Option String := none
  data : String := ""
  deriving DecidableEq

inductive PaymentProvider where
  -- The column's default, carried by rows older than the column.
  | unset
  | epay
  | stripe
  | creem
  | waffo
  | waffoPancake
  | balance
  deriving DecidableEq

inductive OrderStatus where
  | pending
  | success
  | failed
  | expired
  deriving DecidableEq

structure TopUp where
  id : Int
  userId : Int
  amount : Int := 0
  money : Rat := 0
  tradeNo : String
  paymentMethod : String := ""
  paymentProvider : PaymentProvider := .unset
  completeTime : Int := 0
  status : OrderStatus := .pending
  deriving DecidableEq

structure SubscriptionOrder where
  id : Int
  userId : Int
  planId : Int
  money : Rat := 0
  tradeNo : String
  paymentMethod : String := ""
  paymentProvider : PaymentProvider := .unset
  status : OrderStatus := .pending
  createTime : Int := 0
  completeTime : Int := 0
  providerPayload : String := ""
  deriving DecidableEq

/-- `RedemptionCodeStatus*`; an administrator's edit stores any number it is given. -/
inductive RedemptionStatus where
  | enabled
  | disabled
  | used
  | other (code : Int)
  deriving DecidableEq

structure Redemption where
  id : Int
  key : String
  status : RedemptionStatus := .enabled
  name : String := ""
  quota : Int := 100
  redeemedTime : Int := 0
  usedUserId : Int := 0
  expiredTime : Int := 0
  deleted : Bool := false
  deriving DecidableEq

inductive ReservationStatus where
  | reserved
  | settled
  | refunded
  deriving DecidableEq

structure MidjourneyQuotaReservation where
  id : Int
  requestId : String
  userId : Int
  tokenId : Int := 0
  quota : Int
  tokenUnlimited : Bool := false
  tokenCharged : Bool := false
  midjourneyTaskId : Int := 0
  status : ReservationStatus := .reserved
  deriving DecidableEq

structure Midjourney where
  id : Int := 0
  userId : Int := 0
  status : String := ""
  quota : Int := 0
  quotaReservationId : Int := 0
  deriving DecidableEq

structure Database where
  users : Table User.id := .empty
  tokens : Table Token.id := .empty
  subscriptions : Table UserSubscription.id := .empty
  plans : Table SubscriptionPlan.id := .empty
  operations : Table BillingOperation.id := .empty
  tasks : Table Task.id := .empty
  topUps : Table TopUp.id := .empty
  orders : Table SubscriptionOrder.id := .empty
  redemptions : Table Redemption.id := .empty
  reservations : Table MidjourneyQuotaReservation.id := .empty
  midjourneys : Table Midjourney.id := .empty

namespace Database

def wallet (db : Database) (user : Int) : Option Int :=
  (db.users.find? user).map User.quota

def account (db : Database) (user : Int) : Option User :=
  (db.users.find? user).map User.account

def usedQuota (db : Database) (token : Int) : Option Int :=
  (db.tokens.find? token).map Token.usedQuota

def remainQuota (db : Database) (token : Int) : Option Int :=
  (db.tokens.find? token).map Token.remainQuota

def amountUsed (db : Database) (subscription : Int) : Option Int :=
  (db.subscriptions.find? subscription).map UserSubscription.amountUsed

end Database

inductive MidjourneyError where
  | invalid
  | walletQuota
  | tokenQuota
  | conflict
  | transition
  | tokenInvalid
  deriving DecidableEq

inductive OwnerKind where
  | user
  | token
  | subscription
  deriving DecidableEq

/-- What a failed transaction reports. Every one of them rolls the transaction back. -/
inductive StoreError where
  | recordNotFound
  | duplicateKey
  | outOfRange
  | operationInvalid
  | operationConflict
  | operationTransition
  | fundingInvalid
  | fundingQuota
  | tokenInvalid
  | tokenQuota
  | ownerMissing (kind : OwnerKind)
  | quotaClamp
  | emailAlreadyTaken
  | paymentMethodMismatch
  | topUpNotFound
  | topUpStatusInvalid
  | redeemFailed
  | midjourney (cause : MidjourneyError)
  | message (text : String)
  deriving DecidableEq

/-- The identifier an auto-increment column gives to the next row. -/
def nextId {Row : Type} (id : Row → Int) (rows : List Row) : Int :=
  rows.foldr (fun row next => max (id row + 1) next) 1

theorem nextId_pos {Row : Type} (id : Row → Int) (rows : List Row) : 0 < nextId id rows := by
  induction rows with
  | nil => simp [nextId]
  | cons first rest ih =>
    simp only [nextId, foldr_cons] at ih ⊢
    omega

theorem lt_nextId {Row : Type} (id : Row → Int) {rows : List Row} {row : Row}
    (member : row ∈ rows) : id row < nextId id rows := by
  induction rows with
  | nil => exact absurd member not_mem_nil
  | cons first rest ih =>
    simp only [nextId, foldr_cons]
    rcases mem_cons.mp member with rfl | later
    · omega
    · have := ih later
      simp only [nextId] at this
      omega

end NewApi
