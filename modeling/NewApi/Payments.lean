import NewApi.Wallet

/-!
Completion of payments: top-up orders (model/topup.go), redemption codes
(model/redemption.go) and subscriptions bought from the wallet
(model/subscription.go). Each is one transaction on the locked order, code or
user row. The gateway completions share one flow and differ in the provider they
expect, in how they value the order and in whether a repeated callback succeeds.
None of them looks at the number of users their credit reached, so the model
returns that number's effect as `credit`.
-/

namespace NewApi.Payments

open Runs SubscriptionReset Wallet

structure Credit where
  user : Int
  amount : Int
  deriving DecidableEq

structure Completion where
  db : Database
  quota : Int := 0
  credit : Option Credit := none

variable (settings : Settings) (db : Database) (tradeNo : String)

def findTopUp : Option TopUp :=
  db.topUps.rows.find? (fun row => row.tradeNo = tradeNo)

variable (order : TopUp)

def saveTopUp : Database :=
  { db with topUps := db.topUps.save order }

/-- Adds `quota` to the wallet of `user` and reports whether a row was there. -/
def creditOwner (user quota : Int) :
    Except StoreError Completion := do
  match ← shiftWallet settings db live user quota with
  | none => .ok { db, quota }
  | some db => .ok { db, quota, credit := some { user, amount := quota } }

/-- The common end of every order: mark it complete and credit its owner. -/
def finishTopUp (value : Rat) :
    Except StoreError Completion := do
  let quota ← quotaFromDecimalStrict value
  if quota ≤ 0 then .error (.message "无效的充值额度")
  else
    let completed := { order with completeTime := settings.context.time, status := .success }
    creditOwner settings (saveTopUp db completed) order.userId quota

structure RechargeFlow where
  provider : PaymentProvider
  -- A repeated callback for a completed order succeeds without effect.
  idempotent : Bool
  value : Settings → TopUp → Rat

def amountValue : Rat :=
  truncateDecimal (order.amount * settings.quotaPerUnit)

def moneyValue : Rat :=
  order.money * settings.quotaPerUnit

def rechargeOrder (flow : RechargeFlow) (db : Database) (tradeNo : String) :
    Except StoreError Completion :=
  match findTopUp db tradeNo with
  | none => .error (.message "充值订单不存在")
  | some order =>
    if order.paymentProvider ≠ flow.provider then .error .paymentMethodMismatch
    else if flow.idempotent ∧ order.status = .success then .ok { db }
    else if order.status ≠ .pending then .error (.message "充值订单状态错误")
    else finishTopUp settings db order (flow.value settings order)

/-- The callers of a gateway learn nothing about the cause. -/
def hideCause (result : Except StoreError Completion) : Except StoreError Completion :=
  match result with
  | .error _ => .error (.message "充值失败，请稍后重试")
  | .ok done => .ok done

def missingTradeNo : StoreError := .message "未提供支付单号"

def stripeFlow : RechargeFlow := ⟨.stripe, false, moneyValue⟩

def creemFlow : RechargeFlow := ⟨.creem, false, fun _ order => order.amount⟩

def waffoFlow : RechargeFlow := ⟨.waffo, true, amountValue⟩

def waffoPancakeFlow : RechargeFlow := ⟨.waffoPancake, true, amountValue⟩

/-- The second column of the statement that credits a Stripe payment. -/
def setStripeCustomer (customerId : String) (done : Completion) : Completion :=
  match done.credit with
  | none => done
  | some credit =>
    match done.db.users.updateWhere credit.user live
        (fun row => { row with stripeCustomer := customerId }) with
    | none => done
    | some users => { done with db := { done.db with users } }

def recharge (referenceId customerId : String) : Except StoreError Completion :=
  if referenceId = "" then .error missingTradeNo
  else hideCause do
    let done ← rechargeOrder settings stripeFlow db referenceId
    .ok (setStripeCustomer customerId done)

def rechargeWaffo : Except StoreError Completion :=
  if tradeNo = "" then .error missingTradeNo
  else hideCause (rechargeOrder settings waffoFlow db tradeNo)

def rechargeWaffoPancake : Except StoreError Completion :=
  if tradeNo = "" then .error missingTradeNo
  else hideCause (rechargeOrder settings waffoPancakeFlow db tradeNo)

def normalizeEmail (email : String) : String := lower (trimSpace email)

/-- Deleted accounts keep their address. -/
def emailTaken (email : String) (excludeUser : Int) : Bool :=
  db.users.rows.any fun row => lower row.email = normalizeEmail email ∧ row.id ≠ excludeUser

def bindEmailToUser (user : User) (email : String) : Except StoreError Database :=
  if user.id ≤ 0 then .error (.message "unsupported data")
  else if normalizeEmail email ≠ "" ∧ emailTaken db email user.id then .error .emailAlreadyTaken
  else match db.users.updateWhere user.id live (fun row =>
      { row with
        email := normalizeEmail email
        authVersion := nextAuthVersion row.authVersion }) with
    | none => .error .recordNotFound
    | some users => .ok { db with users }

/-- A payer's address is bound to an account without one; a refused binding does not undo
the payment, a vanished account does. -/
def bindCustomerEmail (user : Int) (email : String) : Except StoreError Database :=
  if email = "" ∨ settings.validEmail (normalizeEmail email) = false then .ok db
  else match db.users.find? user with
    | none => .error .recordNotFound
    | some row =>
      if row.deleted then .error .recordNotFound
      else if row.email ≠ "" then .ok db
      else match bindEmailToUser db row (normalizeEmail email) with
        | .error _ => .ok db
        | .ok db => .ok db

def rechargeCreem (referenceId customerEmail : String) : Except StoreError Completion :=
  if referenceId = "" then .error missingTradeNo
  else hideCause do
    let done ← rechargeOrder settings creemFlow db referenceId
    match findTopUp db referenceId with
    | none => .ok done
    | some order =>
      let db ← bindCustomerEmail settings done.db order.userId customerEmail
      .ok { done with db }

/-- The administrator completes an order of any provider; the cause of a failure is reported. -/
def manualCompleteTopUp : Except StoreError Completion :=
  if tradeNo = "" then .error (.message "未提供订单号")
  else match findTopUp db tradeNo with
    | none => .error (.message "充值订单不存在")
    | some order =>
      if order.status = .success then .ok { db }
      else if order.status ≠ .pending then .error (.message "订单状态不是待支付，无法补单")
      else if order.paymentProvider = .stripe then
        finishTopUp settings db order (moneyValue settings order)
      else finishTopUp settings db order (amountValue settings order)

def updatePendingTopUpStatus (expectedProvider : Option PaymentProvider) (target : OrderStatus) :
    Except StoreError Database :=
  if tradeNo = "" then .error missingTradeNo
  else match findTopUp db tradeNo with
    | none => .error .topUpNotFound
    | some order =>
      if expectedProvider.any (fun provider => order.paymentProvider ≠ provider) then
        .error .paymentMethodMismatch
      else if order.status ≠ .pending then .error .topUpStatusInvalid
      else .ok (saveTopUp db { order with status := target })

def findRedemption (key : String) : Option Redemption :=
  db.redemptions.rows.find? (fun row => row.key = key ∧ row.deleted = false)

def redeemTx (key : String) (userId : Int) : Except StoreError Completion :=
  match findRedemption db key with
  | none => .error (.message "无效的兑换码")
  | some code =>
    if code.status ≠ .enabled then .error (.message "该兑换码已被使用")
    else if code.expiredTime ≠ 0 ∧ code.expiredTime < settings.context.time then
      .error (.message "该兑换码已过期")
    else match db.redemptions.updateWhere code.id
        (fun row => row.status = .enabled ∧ row.deleted = false)
        (fun row => { row with
          redeemedTime := settings.context.time, status := .used, usedUserId := userId }) with
      | none => .error (.message "该兑换码已被使用")
      | some redemptions => creditOwner settings { db with redemptions } userId code.quota

def redeem (key : String) (userId : Int) : Except StoreError Completion :=
  if key = "" then .error (.message "未提供兑换码")
  else if userId = 0 then .error (.message "无效的 user id")
  else match redeemTx settings db key userId with
    | .error _ => .error .redeemFailed
    | .ok done => .ok done

def calcPlanEndTime (calendar : Calendar) (start : Int) (plan : SubscriptionPlan) :
    Except StoreError Int :=
  let plus (seconds : Int) : Int := start + int64 (seconds * 1000000000) / 1000000000
  if plan.durationValue ≤ 0 ∧ plan.durationUnit ≠ "custom" then
    .error (.message "duration_value must be > 0")
  else if plan.durationUnit = "year" then .ok (calendar.addDate start plan.durationValue 0 0)
  else if plan.durationUnit = "month" then .ok (calendar.addDate start 0 plan.durationValue 0)
  else if plan.durationUnit = "day" then .ok (plus (plan.durationValue * 86400))
  else if plan.durationUnit = "hour" then .ok (plus (plan.durationValue * 3600))
  else if plan.durationUnit = "custom" then
    if plan.customSeconds ≤ 0 then .error (.message "custom_seconds must be > 0")
    else .ok (plus plan.customSeconds)
  else .error (.message s!"invalid duration_unit: {plan.durationUnit}")

variable (userId : Int)

def userGroup : String :=
  match db.users.find? userId with
  | none => ""
  | some row => if row.deleted then "" else row.group

/-- The group the owner had before the purchase, and the store with the new one; the group
is empty when the plan does not change it. -/
def upgradeUserGroup (upgradeGroup : String) : String × Database :=
  if upgradeGroup = "" ∨ userGroup db userId = upgradeGroup then ("", db)
  else match db.users.updateWhere userId live (fun row => { row with group := upgradeGroup }) with
    | none => (userGroup db userId, db)
    | some users => (userGroup db userId, { db with users })

def purchases (planId : Int) : Nat :=
  (db.subscriptions.rows.filter fun row => row.userId = userId ∧ row.planId = planId).length

variable (context : Context)

def newSubscription (userId : Int) (plan : SubscriptionPlan) (source prevGroup : String)
    (endUnix : Int) : UserSubscription :=
  let nextReset := calcNextResetTime context.calendar context.dbTime plan endUnix
  { id := 0, userId, planId := plan.id, amountTotal := plan.totalAmount,
    startTime := context.dbTime, endTime := endUnix, source,
    lastResetTime := if 0 < nextReset then context.dbTime else 0, nextResetTime := nextReset,
    upgradeGroup := trimSpace plan.upgradeGroup, prevUserGroup := prevGroup,
    downgradeGroup := trimSpace plan.downgradeGroup,
    allowWalletOverflow := plan.allowWalletOverflow.getD true }

def insertSubscription (draft : UserSubscription) :
    Except StoreError (UserSubscription × Database) :=
  let sub := { draft with id := nextId UserSubscription.id db.subscriptions.rows }
  match db.subscriptions.insert? sub with
  | none => .error .duplicateKey
  | some subscriptions => .ok (sub, { db with subscriptions })

/-- The first part of `CreateUserSubscriptionFromPlanTx`, up to the count of purchases. -/
def checkPurchase (plan : SubscriptionPlan) : Except StoreError Unit :=
  if plan.id = 0 then .error (.message "invalid plan")
  else if userId ≤ 0 then .error (.message "invalid user id")
  else if 0 < plan.maxPurchasePerUser ∧
      plan.maxPurchasePerUser ≤ purchases db userId plan.id then
    .error (.message "已达到该套餐购买上限")
  else .ok ()

def grantSubscription (db : Database) (userId : Int) (plan : SubscriptionPlan) (source : String) :
    Except StoreError (UserSubscription × Database) := do
  let endUnix ← calcPlanEndTime context.calendar context.dbTime plan
  let upgraded := upgradeUserGroup db userId (trimSpace plan.upgradeGroup)
  insertSubscription upgraded.2 (newSubscription context userId plan source upgraded.1 endUnix)

def createUserSubscriptionFromPlan (db : Database) (userId : Int) (plan : SubscriptionPlan)
    (source : String) :
    Except StoreError (UserSubscription × Database) := do
  checkPurchase db userId plan
  grantSubscription context db userId plan source

def calcSubscriptionBalanceQuota (priceAmount : Rat) : Except StoreError Int :=
  if priceAmount ≤ 0 then .ok 0
  else if settings.quotaPerUnit ≤ 0 then .error (.message "额度单位配置错误")
  else quotaFromDecimalStrict (priceAmount * settings.quotaPerUnit).ceil

def insufficientBalance : StoreError := .message "余额不足"

def debitBalance (required : Int) : Except StoreError Database :=
  match db.users.find? userId with
  | none => .error .recordNotFound
  | some row =>
    if row.deleted then .error .recordNotFound
    else if required ≤ 0 then .ok db
    else match db.users.updateWhere userId
        (fun row => live row && decide (required ≤ row.quota))
        (fun row => { row with quota := row.quota - required }) with
      | none => .error insufficientBalance
      | some users => .ok { db with users }

/-- `nonce` is the random text and the clock reading that make the trade number. -/
def balanceOrder (plan : SubscriptionPlan) (required : Int) (nonce : String) :
    SubscriptionOrder where
  id := nextId SubscriptionOrder.id db.orders.rows
  userId := userId
  planId := plan.id
  money := plan.priceAmount
  tradeNo := s!"SUBBALUSR{userId}NO{nonce}"
  paymentMethod := "balance"
  paymentProvider := .balance
  status := .success
  createTime := settings.context.time
  completeTime := settings.context.time
  providerPayload := s!"charged_quota={required}"

def createBalanceOrder (order : SubscriptionOrder) : Except StoreError Database :=
  if db.orders.rows.any (fun row => row.tradeNo = order.tradeNo) then .error .duplicateKey
  else match db.orders.insert? order with
    | none => .error .duplicateKey
    | some orders => .ok { db with orders }

def purchaseSubscriptionWithBalance (planId : Int) (nonce : String) : Except StoreError Database :=
  if userId ≤ 0 ∨ planId ≤ 0 then .error (.message "invalid userId or planId")
  else match db.plans.find? planId with
    | none => .error .recordNotFound
    | some plan =>
      if plan.enabled = some false then .error (.message "套餐未启用")
      else if plan.priceAmount < 0 then .error (.message "套餐价格不能为负数")
      else if plan.allowBalancePay = some false then
        .error (.message "该套餐不允许使用余额兑换")
      else do
        let required ← calcSubscriptionBalanceQuota settings plan.priceAmount
        let db ← debitBalance db userId required
        let (_, db) ←
          createUserSubscriptionFromPlan settings.context db userId plan "balance"
        createBalanceOrder db (balanceOrder settings db userId plan required nonce)

/-! What the completions do to the wallets. -/

section Effects

variable {userId} {quota user required : Int} {db} {after : Database} {done : Completion} {settings}
  {tradeNo} {referenceId customerId email customerEmail key source : String}

theorem creditOwner_writes (completed : creditOwner settings db user quota = .ok done) :
    Writes db done.db (some (user, quota)) := by
  obtain ⟨result, shifted, completed⟩ := bind_ok completed
  have writes := shiftWallet_writes shifted
  cases result <;> cases completed <;> exact writes

theorem finishTopUp_writes {order : TopUp} {value : Rat}
    (completed : finishTopUp settings db order value = .ok done) :
    Writes db done.db (some (order.userId, roundDecimal value)) := by
  obtain ⟨quota, converted, completed⟩ := bind_ok completed
  have rounded : roundDecimal value = quota := by
    unfold quotaFromDecimalStrict at converted
    split at converted <;> cases converted
    rfl
  split at completed
  · cases completed
  rw [rounded]
  exact (creditOwner_writes completed).of_users db rfl

/-- What completing the order of a trade number adds to a wallet. -/
def pendingCredit (settings : Settings) (value : Settings → TopUp → Rat) (db : Database)
    (tradeNo : String) : Option (Int × Int) :=
  match findTopUp db tradeNo with
  | none => none
  | some order =>
    if order.status = .pending then some (order.userId, roundDecimal (value settings order))
    else none

/-- The order is paid now, unless it was before. -/
def Pays (settings : Settings) (value : Settings → TopUp → Rat) (db : Database) (tradeNo : String)
    (done : Completion) : Prop :=
  done = { db } ∨ ∃ order, findTopUp db tradeNo = some order ∧ order.status = .pending ∧
    finishTopUp settings db order (value settings order) = .ok done

/-- A statement that leaves the orders, the codes and the wallets alone. -/
structure Aside (db after : Database) : Prop where
  orders : after.topUps = db.topUps ∧ after.redemptions = db.redemptions
  wallet : ∀ user, after.wallet user = db.wallet user

theorem Aside.refl (db : Database) : Aside db db := ⟨⟨rfl, rfl⟩, fun _ => rfl⟩

/-- What the completion of any provider does: a payment, and statements aside from it. -/
def Completes (settings : Settings) (value : Settings → TopUp → Rat) (db : Database)
    (tradeNo : String) (done : Completion) : Prop :=
  ∃ paid, Pays settings value db tradeNo paid ∧ Aside paid.db done.db ∧ done.credit = paid.credit

theorem rechargeOrder_pays {flow : RechargeFlow}
    (completed : rechargeOrder settings flow db tradeNo = .ok done) :
    Pays settings flow.value db tradeNo done := by
  unfold rechargeOrder at completed
  split at completed
  · cases completed
  rename_i order found
  split at completed
  · cases completed
  split at completed
  · cases completed
    exact .inl rfl
  split at completed
  · cases completed
  rename_i pending
  exact .inr ⟨order, found, Decidable.not_not.mp pending, completed⟩

theorem hideCause_ok {result : Except StoreError Completion}
    (completed : hideCause result = .ok done) : result = .ok done := by
  cases result with
  | error cause => cases completed
  | ok value => exact completed

theorem setStripeCustomer_aside (customerId : String) (done : Completion) :
    Aside done.db (setStripeCustomer customerId done).db ∧
      (setStripeCustomer customerId done).credit = done.credit := by
  unfold setStripeCustomer
  split
  · exact ⟨.refl _, rfl⟩
  split
  · exact ⟨.refl _, rfl⟩
  rename_i updated
  exact ⟨⟨⟨rfl, rfl⟩, wallet_of_updateWhere updated (fun _ => rfl) (fun _ => rfl)⟩, rfl⟩

theorem recharge_completes (completed : recharge settings db referenceId customerId = .ok done) :
    Completes settings stripeFlow.value db referenceId done := by
  unfold recharge at completed
  split at completed
  · cases completed
  obtain ⟨paid, recharged, completed⟩ := bind_ok (hideCause_ok completed)
  cases completed
  exact ⟨paid, rechargeOrder_pays recharged, setStripeCustomer_aside customerId paid⟩

theorem rechargeWaffo_completes (completed : rechargeWaffo settings db tradeNo = .ok done) :
    Completes settings waffoFlow.value db tradeNo done := by
  unfold rechargeWaffo at completed
  split at completed
  · cases completed
  exact ⟨done, rechargeOrder_pays (hideCause_ok completed), .refl _, rfl⟩

theorem rechargeWaffoPancake_completes
    (completed : rechargeWaffoPancake settings db tradeNo = .ok done) :
    Completes settings waffoPancakeFlow.value db tradeNo done := by
  unfold rechargeWaffoPancake at completed
  split at completed
  · cases completed
  exact ⟨done, rechargeOrder_pays (hideCause_ok completed), .refl _, rfl⟩

theorem bindEmailToUser_aside {user : User} (bound : bindEmailToUser db user email = .ok after) :
    Aside db after := by
  unfold bindEmailToUser at bound
  iterate 3
    split at bound
    · cases bound
  rename_i updated
  cases bound
  exact ⟨⟨rfl, rfl⟩, wallet_of_updateWhere updated (fun _ => rfl) (fun _ => rfl)⟩

theorem bindCustomerEmail_aside (bound : bindCustomerEmail settings db user email = .ok after) :
    Aside db after := by
  unfold bindCustomerEmail at bound
  split at bound
  · cases bound
    exact .refl _
  split at bound
  · cases bound
  split at bound
  · cases bound
  split at bound
  · cases bound
    exact .refl _
  split at bound
  · cases bound
    exact .refl _
  rename_i binding
  cases bound
  exact bindEmailToUser_aside binding

theorem rechargeCreem_completes
    (completed : rechargeCreem settings db referenceId customerEmail = .ok done) :
    Completes settings creemFlow.value db referenceId done := by
  unfold rechargeCreem at completed
  split at completed
  · cases completed
  obtain ⟨paid, recharged, completed⟩ := bind_ok (hideCause_ok completed)
  have pays := rechargeOrder_pays recharged
  split at completed
  · cases completed
    exact ⟨done, pays, .refl _, rfl⟩
  · obtain ⟨bound, binding, completed⟩ := bind_ok completed
    cases completed
    exact ⟨paid, pays, bindCustomerEmail_aside binding, rfl⟩

def manualValue (settings : Settings) (order : TopUp) : Rat :=
  if order.paymentProvider = .stripe then moneyValue settings order else amountValue settings order

theorem manualCompleteTopUp_completes
    (completed : manualCompleteTopUp settings db tradeNo = .ok done) :
    Completes settings manualValue db tradeNo done := by
  refine ⟨done, ?_, .refl _, rfl⟩
  unfold manualCompleteTopUp at completed
  iterate 2
    split at completed
    · cases completed
  rename_i order found
  split at completed
  · cases completed
    exact .inl rfl
  split at completed
  · cases completed
  rename_i pending
  refine .inr ⟨order, found, Decidable.not_not.mp pending, ?_⟩
  unfold manualValue
  split at completed <;> rename_i provider
  · rw [if_pos provider]
    exact completed
  · rw [if_neg provider]
    exact completed

theorem Completes.writes {value : Settings → TopUp → Rat}
    (completes : Completes settings value db tradeNo done) :
    Writes db done.db (pendingCredit settings value db tradeNo) := by
  obtain ⟨paid, rfl | ⟨order, found, pending, paying⟩, aside, -⟩ := completes
  · exact .of_same aside.wallet
  · simp only [pendingCredit, found, pending, if_true]
    exact (finishTopUp_writes paying).then_same aside.wallet

def codeCredit (db : Database) (key : String) (userId : Int) : Option (Int × Int) :=
  match findRedemption db key with
  | none => none
  | some code => if code.status = .enabled then some (userId, code.quota) else none

theorem redeem_writes (completed : redeem settings db key userId = .ok done) :
    Writes db done.db (codeCredit db key userId) := by
  unfold redeem at completed
  iterate 3
    split at completed
    · cases completed
  rename_i redeemed
  cases completed
  unfold redeemTx at redeemed
  unfold codeCredit
  split at redeemed
  · cases redeemed
  split at redeemed
  · cases redeemed
  rename_i enabled
  simp only [ne_eq, Decidable.not_not] at enabled
  split at redeemed
  · cases redeemed
  split at redeemed
  · cases redeemed
  · simpa only [enabled, if_true] using (creditOwner_writes redeemed).of_users db rfl

theorem upgradeUserGroup_wallet (userId : Int) (upgradeGroup : String) (user : Int) :
    (upgradeUserGroup db userId upgradeGroup).2.wallet user = db.wallet user := by
  unfold upgradeUserGroup
  split
  · rfl
  split
  · rfl
  rename_i updated
  exact wallet_of_updateWhere updated (fun _ => rfl) (fun _ => rfl) user

theorem grantSubscription_ok {context : Context} {plan : SubscriptionPlan} {sub : UserSubscription}
    (granted : grantSubscription context db userId plan source = .ok (sub, after)) :
    ∃ ends users subscriptions, calcPlanEndTime context.calendar context.dbTime plan = .ok ends ∧
      sub = { newSubscription context userId plan source
        (upgradeUserGroup db userId (trimSpace plan.upgradeGroup)).1 ends with
          id := nextId UserSubscription.id db.subscriptions.rows } ∧
      users = (upgradeUserGroup db userId (trimSpace plan.upgradeGroup)).2.users ∧
      subscriptions.rows = db.subscriptions.rows ++ [sub] ∧
      after = { db with users, subscriptions } := by
  have upgraded : (upgradeUserGroup db userId (trimSpace plan.upgradeGroup)).2 = { db with
      users := (upgradeUserGroup db userId (trimSpace plan.upgradeGroup)).2.users } := by
    unfold upgradeUserGroup
    split
    · rfl
    · split <;> rfl
  obtain ⟨ends, known, inserted⟩ := bind_ok granted
  simp only [insertSubscription] at inserted
  rw [upgraded] at inserted
  split at inserted
  · cases inserted
  rename_i subscriptions stored
  cases inserted
  exact ⟨ends, _, subscriptions, known, rfl, rfl, (Table.insert?_eq_some stored).2, rfl⟩

theorem createBalanceOrder_users {order : SubscriptionOrder}
    (created : createBalanceOrder db order = .ok after) : after.users = db.users := by
  unfold createBalanceOrder at created
  split at created
  · cases created
  split at created <;> cases created
  rfl

theorem debitBalance_users (debited : debitBalance db userId required = .ok after) :
    after = db ∨ 0 < required ∧
      db.users.updateWhere userId (fun row => live row && decide (required ≤ row.quota))
        (fun row => { row with quota := row.quota - required }) = some after.users := by
  unfold debitBalance at debited
  split at debited
  · cases debited
  split at debited
  · cases debited
  split at debited
  · cases debited
    exact .inl rfl
  · split at debited
    · cases debited
    rename_i updated
    cases debited
    exact .inr ⟨by omega, updated⟩

end Effects

end NewApi.Payments
