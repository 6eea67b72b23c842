import NewApi.PaymentCredits

/-!
The top-up orders that the payment endpoints store (controller/topup.go, topup_stripe.go,
topup_creem.go, topup_waffo.go and topup_waffo_pancake.go), and what it credits to complete
one of them: by the callback of its provider or by an administrator. Each provider fills
`Amount` and `Money` by a convention of its own, and each completion computes the quota
again from one of them. Decoding of the request body, the answers to the browser and the
payment services themselves are left out; whether a payment service accepted the order is
part of a call.
-/

namespace NewApi.TopUpOrders

open Runs Wallet Payments PaymentCredits

inductive QuotaDisplayType where
  | usd
  | cny
  | tokens
  | custom
  deriving DecidableEq

structure CreemProduct where
  productId : String
  price : Rat
  quota : Int
  deriving DecidableEq

structure WaffoPayMethod where
  payMethodType : String
  payMethodName : String
  deriving DecidableEq

/-- The settings the order endpoints read. -/
structure Shop where
  quotaPerUnit : Rat := 500000
  quotaDisplayType : QuotaDisplayType := .usd
  topupGroupRatio : String → Option Rat := fun _ => none
  amountDiscount : Int → Option Rat := fun _ => none
  price : Rat := 73 / 10
  minTopUp : Int := 1
  payMethods : List String := []
  epayConfigured : Bool := true
  stripeMinTopUp : Int := 1
  -- `common.ValidateRedirectURL`.
  trustedRedirect : String → Bool := fun _ => true
  -- `none` when the setting is not a list of products.
  creemProducts : Option (List CreemProduct) := some []
  waffoEnabled : Bool := true
  waffoUnitPrice : Rat := 1
  waffoMinTopUp : Int := 1
  waffoPayMethods : List WaffoPayMethod := []
  waffoPancakeEnabled : Bool := true
  waffoPancakeUnitPrice : Rat := 1
  waffoPancakeMinTopUp : Int := 1

/-- What an endpoint takes from its surroundings: the signed-in user, the random and clock
part of the trade number, and whether the payment service accepts the order. -/
structure Call where
  userId : Int
  nonce : String
  accepted : Bool := true

structure EpayRequest where
  amount : Int
  paymentMethod : String

structure StripePayRequest where
  amount : Int
  paymentMethod : String := "stripe"
  successURL : String := ""
  cancelURL : String := ""

structure CreemPayRequest where
  productId : String
  paymentMethod : String := "creem"

structure WaffoPayRequest where
  amount : Int
  payMethodIndex : Option Int := none
  payMethodType : String := ""
  payMethodName : String := ""

structure WaffoPancakePayRequest where
  amount : Int

/-- `decimal.Div` keeps sixteen digits after the point. -/
def decimalDiv (dividend divisor : Rat) : Rat :=
  roundDecimal (dividend / divisor * 10 ^ 16) / 10 ^ 16

variable (shop : Shop) (amount : Int) (group : String)

def getTopupGroupRatio : Rat :=
  let ratio := (shop.topupGroupRatio group).getD 1
  if ratio = 0 then 1 else ratio

def discount : Rat :=
  match shop.amountDiscount amount with
  | some ratio => if 0 < ratio then ratio else 1
  | none => 1

def payMoney (divide : Rat → Rat → Rat) (unitPrice : Rat) (amount : Int) (group : String) : Rat :=
  let units : Rat :=
    if shop.quotaDisplayType = .tokens then divide amount shop.quotaPerUnit else amount
  units * unitPrice * getTopupGroupRatio shop group * discount shop amount

def getPayMoney : Rat :=
  payMoney shop decimalDiv shop.price amount group

def getWaffoPayMoney : Rat :=
  payMoney shop (· / ·) shop.waffoUnitPrice amount group

def getWaffoPancakePayMoney : Rat :=
  payMoney shop decimalDiv shop.waffoPancakeUnitPrice amount group

def getMinTopup : Except StoreError Int :=
  if shop.quotaDisplayType = .tokens then
    if shop.quotaPerUnit ≤ 0 then .error (.message "invalid quota unit")
    else quotaFromDecimalStrict (truncateDecimal (shop.minTopUp * shop.quotaPerUnit))
  else .ok shop.minTopUp

def getStripeMinTopup : Int :=
  if shop.quotaDisplayType = .tokens then
    int64 (shop.stripeMinTopUp * truncateDecimal shop.quotaPerUnit)
  else shop.stripeMinTopUp

/-- The whole units of an amount; `belowOne` is the answer to an amount of less than one. -/
def normalizeTopUpAmount (belowOne : Except StoreError Int) (amount : Int) :
    Except StoreError Int :=
  if shop.quotaPerUnit ≤ 0 then .error (.message "invalid quota unit")
  else do
    let normalized ←
      if shop.quotaDisplayType = .tokens then do
        let _ ← quotaFromDecimalStrict amount
        let units ← quotaFromDecimalStrict (truncateDecimal (decimalDiv amount shop.quotaPerUnit))
        if units < 1 then belowOne else .ok units
      else .ok amount
    let quota ← quotaFromDecimalStrict (truncateDecimal (normalized * shop.quotaPerUnit))
    if quota ≤ 0 then .error (.message "invalid top-up quota") else .ok normalized

def normalizeEpayTopUpAmount : Except StoreError Int :=
  normalizeTopUpAmount shop (.error (.message "invalid top-up amount")) amount

def normalizeWaffoTopUpAmount : Except StoreError Int :=
  normalizeTopUpAmount shop (.ok 1) amount

def normalizeWaffoPancakeTopUpAmount : Except StoreError Int :=
  normalizeTopUpAmount shop (.ok 1) amount

def getChargedAmount (count : Int) (group : String) : Rat :=
  count * getTopupGroupRatio shop group

def validateStripeTopUpQuota (money : Rat) : Except StoreError Unit := do
  let quota ← quotaFromDecimalStrict (money * shop.quotaPerUnit)
  if quota ≤ 0 then .error (.message "invalid top-up quota") else .ok ()

def validateCreemProductQuota (quota : Int) : Except StoreError Int := do
  let validated ← quotaFromDecimalStrict quota
  if validated ≤ 0 then .error (.message "invalid product quota") else .ok validated

def answering {Value : Type} (text : String) : Except StoreError Value → Except String Value
  | .error _ => .error text
  | .ok value => .ok value

variable (db : Database) (call : Call)

def requestEpay (request : EpayRequest) :
    Except String TopUp := do
  let minTopup ← answering "充值配置错误" (getMinTopup shop)
  if request.amount < minTopup then .error s!"充值数量不能小于 {minTopup}"
  else
    let money := getPayMoney shop request.amount (userGroup db call.userId)
    if money < 1 / 100 then .error "充值金额过低"
    else if request.paymentMethod ∉ shop.payMethods then .error "支付方式不存在"
    else do
      let amount ← answering "充值数量无效" (normalizeEpayTopUpAmount shop request.amount)
      if shop.epayConfigured = false then .error "当前管理员未配置支付信息"
      else if call.accepted = false then .error "拉起支付失败"
      else .ok {
        id := 0, userId := call.userId, amount, money, tradeNo := s!"USR{call.userId}NO{call.nonce}"
        paymentMethod := request.paymentMethod, paymentProvider := .epay }

def requestStripePay (request : StripePayRequest) : Except String TopUp :=
  if request.paymentMethod ≠ "stripe" then .error "不支持的支付渠道"
  else if request.amount < getStripeMinTopup shop then
    .error s!"充值数量不能小于 {getStripeMinTopup shop}"
  else if 10000 < request.amount then .error "充值数量不能大于 10000"
  else if request.successURL ≠ "" ∧ shop.trustedRedirect request.successURL = false then
    .error "支付成功重定向URL不在可信任域名列表中"
  else if request.cancelURL ≠ "" ∧ shop.trustedRedirect request.cancelURL = false then
    .error "支付取消重定向URL不在可信任域名列表中"
  else do
    let money := getChargedAmount shop request.amount (userGroup db call.userId)
    answering "充值数量无效" (validateStripeTopUpQuota shop money)
    if call.accepted = false then .error "拉起支付失败"
    else .ok {
      id := 0, userId := call.userId, amount := request.amount, money
      tradeNo := s!"ref_{call.nonce}", paymentMethod := "stripe", paymentProvider := .stripe }

def requestCreemPay (request : CreemPayRequest) : Except String TopUp :=
  if request.paymentMethod ≠ "creem" then .error "不支持的支付渠道"
  else if request.productId = "" then .error "请选择产品"
  else match shop.creemProducts with
    | none => .error "产品配置错误"
    | some products =>
      match products.find? (fun product => product.productId = request.productId) with
      | none => .error "产品不存在"
      | some product => do
        let quota ← answering "产品配置错误" (validateCreemProductQuota product.quota)
        .ok {
          id := 0, userId := call.userId, amount := quota, money := product.price
          tradeNo := s!"ref_{call.nonce}", paymentMethod := "creem", paymentProvider := .creem }

/-- The payment method is looked up by its index, or by its names for an old client; with
neither, Waffo selects one. -/
def waffoPayMethodKnown (request : WaffoPayRequest) : Bool :=
  match request.payMethodIndex with
  | some index => 0 ≤ index ∧ index < shop.waffoPayMethods.length
  | none => request.payMethodType = "" ∨
      ⟨request.payMethodType, request.payMethodName⟩ ∈ shop.waffoPayMethods

def requestWaffoPay (request : WaffoPayRequest) : Except String TopUp :=
  if shop.waffoEnabled = false then .error "Waffo 支付未启用"
  else if request.amount < shop.waffoMinTopUp then
    .error s!"充值数量不能小于 {shop.waffoMinTopUp}"
  else do
    let amount ← answering "充值数量无效" (normalizeWaffoTopUpAmount shop request.amount)
    if (db.users.find? call.userId).any live = false then .error "用户不存在"
    else if waffoPayMethodKnown shop request = false then .error "不支持的支付方式"
    else
      let money := getWaffoPayMoney shop request.amount (userGroup db call.userId)
      if money < 1 / 100 then .error "充值金额过低"
      else .ok {
        id := 0, userId := call.userId, amount, money
        tradeNo := s!"WAFFO-{call.userId}-{call.nonce}"
        paymentMethod := "waffo", paymentProvider := .waffo
        status := if call.accepted then .pending else .failed }

def requestWaffoPancakePay (request : WaffoPancakePayRequest) : Except String TopUp :=
  if shop.waffoPancakeEnabled = false then .error "Waffo Pancake 配置不完整"
  else if request.amount < shop.waffoPancakeMinTopUp then
    .error s!"充值数量不能小于 {shop.waffoPancakeMinTopUp}"
  else if (db.users.find? call.userId).any live = false then .error "用户不存在"
  else
    let money := getWaffoPancakePayMoney shop request.amount (userGroup db call.userId)
    if money < 1 / 100 then .error "充值金额过低"
    else do
      let amount ← answering "充值数量无效" (normalizeWaffoPancakeTopUpAmount shop request.amount)
      .ok {
        id := 0, userId := call.userId, amount, money
        tradeNo := s!"WAFFO_PANCAKE-{call.userId}-{call.nonce}"
        paymentMethod := "waffo_pancake", paymentProvider := .waffoPancake
        status := if call.accepted then .pending else .failed }

inductive OrderRequest where
  | epay (request : EpayRequest)
  | stripe (request : StripePayRequest)
  | creem (request : CreemPayRequest)
  | waffo (request : WaffoPayRequest)
  | waffoPancake (request : WaffoPancakePayRequest)

def OrderRequest.provider : OrderRequest → PaymentProvider
  | .epay _ => .epay
  | .stripe _ => .stripe
  | .creem _ => .creem
  | .waffo _ => .waffo
  | .waffoPancake _ => .waffoPancake

def topUpRow : OrderRequest → Except String TopUp
  | .epay request => requestEpay shop db call request
  | .stripe request => requestStripePay shop db call request
  | .creem request => requestCreemPay shop call request
  | .waffo request => requestWaffoPay shop db call request
  | .waffoPancake request => requestWaffoPancakePay shop db call request

/-- The order a request stores, and the store with it. An order that Waffo refuses is marked
as failed after its insertion; the row is the one that stays. -/
def placeOrder (request : OrderRequest) :
    Except String (TopUp × Database) := do
  let draft ← topUpRow shop db call request
  let order := { draft with id := nextId TopUp.id db.topUps.rows }
  if (findTopUp db order.tradeNo).isSome then .error "创建订单失败"
  else match db.topUps.insert? order with
    | none => .error "创建订单失败"
    | some topUps => .ok (order, { db with topUps })

/-- The store a completion leaves and its error; a transaction that fails leaves it as it was. -/
def committed : Except StoreError Completion → Database × Option StoreError
  | .error cause => (db, some cause)
  | .ok done => (done.db, none)

/-- The two statements of the epay callback; the first one stays when the second one fails. -/
def completeEpayTopUp (settings : Settings) (db : Database) (topUp : Option TopUp)
    (paymentType : String) : Database × Option StoreError :=
  match prepareEpayTopUp settings topUp paymentType with
  | .error cause => (db, some cause)
  | .ok (order, quota) =>
    let saved := saveTopUp db order
    match increaseUserQuota settings saved order.userId quota with
    | .error cause => (saved, some cause)
    | .ok db => (db, none)

/-- What a provider reports with a payment. -/
structure Callback where
  paymentType : String := ""
  customerId : String := ""
  customerEmail : String := ""

/-- The completion function of the order's own provider. -/
def completeByProvider (settings : Settings) (db : Database) (order : TopUp)
    (callback : Callback) : Database × Option StoreError :=
  match order.paymentProvider with
  | .epay => completeEpayTopUp settings db (findTopUp db order.tradeNo) callback.paymentType
  | .stripe => committed db (recharge settings db order.tradeNo callback.customerId)
  | .creem => committed db (rechargeCreem settings db order.tradeNo callback.customerEmail)
  | .waffo => committed db (rechargeWaffo settings db order.tradeNo)
  | .waffoPancake => committed db (rechargeWaffoPancake settings db order.tradeNo)
  | .unset | .balance => (db, some .paymentMethodMismatch)

def creditedQuota (before after : Database) (user : Int) : Int :=
  (after.wallet user).getD 0 - (before.wallet user).getD 0

variable {text front rest : String} {row order : TopUp} {request : OrderRequest} {db}
  {after second first : Database} {call}

section Endpoints

def Stores (provider : PaymentProvider) (result : Except String TopUp) : Prop :=
  ∀ row, result = .ok row → row.paymentProvider = provider ∧ row.tradeNo ≠ ""

variable {provider : PaymentProvider}

theorem stores_error : Stores provider (.error text) := by
  intro row made
  cases made

theorem stores_row (same : row.paymentProvider = provider) (named : row.tradeNo ≠ "") :
    Stores provider (.ok row) := by
  intro stored made
  cases made
  exact ⟨same, named⟩

theorem stores_bind {Value : Type} {first : Except String Value}
    {next : Value → Except String TopUp} (each : ∀ value, Stores provider (next value)) :
    Stores provider (first >>= next) := by
  intro row made
  rcases bind_ok made with ⟨value, -, made⟩
  exact each value row made

theorem stores_unless {next : Except String TopUp} {condition : Prop} [Decidable condition]
    (stores : Stores provider next) :
    Stores provider (if condition then .error text else next) := by
  by_cases met : condition
  · rw [if_pos met]
    exact stores_error
  · rw [if_neg met]
    exact stores

theorem append_ne_empty (nonempty : front ≠ "") : front ++ rest ≠ "" := by
  intro empty
  exact nonempty (String.append_eq_empty_iff.mp empty).1

theorem topUpRow_stores (shop : Shop) (db : Database) (call : Call) (request : OrderRequest) :
    Stores request.provider (topUpRow shop db call request) := by
  cases request with
  | epay request =>
    apply stores_bind
    intro minTopup
    apply stores_unless
    apply stores_unless
    apply stores_unless
    apply stores_bind
    intro amount
    apply stores_unless
    apply stores_unless
    apply stores_row rfl
    repeat apply append_ne_empty
    decide
  | stripe request =>
    apply stores_unless
    apply stores_unless
    apply stores_unless
    apply stores_unless
    apply stores_unless
    apply stores_bind
    intro valid
    apply stores_unless
    apply stores_row rfl
    apply append_ne_empty
    decide
  | creem request =>
    apply stores_unless
    apply stores_unless
    split
    · exact stores_error
    split
    · exact stores_error
    apply stores_bind
    intro quota
    apply stores_row rfl
    apply append_ne_empty
    decide
  | waffo request =>
    apply stores_unless
    apply stores_unless
    apply stores_bind
    intro amount
    apply stores_unless
    apply stores_unless
    apply stores_unless
    apply stores_row rfl
    repeat apply append_ne_empty
    decide
  | waffoPancake request =>
    apply stores_unless
    apply stores_unless
    apply stores_unless
    apply stores_unless
    apply stores_bind
    intro amount
    apply stores_row rfl
    repeat apply append_ne_empty
    decide

theorem placeOrder_row {shop : Shop}
    (placed : placeOrder shop db call request = .ok (order, after)) :
    order.paymentProvider = request.provider ∧ order.tradeNo ≠ "" := by
  rcases bind_ok placed with ⟨draft, made, placed⟩
  have stores := topUpRow_stores shop db call request draft made
  simp only at placed
  split at placed
  · cases placed
  split at placed
  · cases placed
  cases placed
  exact stores

end Endpoints

/-! The two completions of a pending order. -/

section Completions

variable {settings : Settings} {user quota : Int}

/-- An order that waits for its payment under its own number. -/
structure Awaits (db : Database) (order : TopUp) : Prop where
  found : findTopUp db order.tradeNo = some order
  pending : order.status = .pending
  named : order.tradeNo ≠ ""

theorem manualCompleteTopUp_pending (awaits : Awaits db order) :
    manualCompleteTopUp settings db order.tradeNo =
      finishTopUp settings db order (manualValue settings order) := by
  simp only [manualCompleteTopUp, awaits.named, awaits.found, awaits.pending, manualValue]
  by_cases stripe : order.paymentProvider = .stripe
  · simp [stripe]
  · simp [stripe]

theorem rechargeOrder_pending {flow : RechargeFlow} (awaits : Awaits db order)
    (same : order.paymentProvider = flow.provider) :
    rechargeOrder settings flow db order.tradeNo =
      finishTopUp settings db order (flow.value settings order) := by
  simp [rechargeOrder, awaits.found, awaits.pending, same]

/-- Both completions leave the same wallets. -/
def SameCredit (first second : Database × Option StoreError) : Prop :=
  ∀ user, first.1.wallet user = second.1.wallet user

theorem sameCredit_hideCause (result : Except StoreError Completion) :
    SameCredit (committed db result) (committed db (hideCause result)) := by
  cases result with
  | error cause | ok done => exact fun _ => rfl

theorem sameCredit_recharge (awaits : Awaits db order) (same : order.paymentProvider = .stripe)
    (customerId : String) :
    SameCredit (committed db (finishTopUp settings db order (moneyValue settings order)))
      (committed db (recharge settings db order.tradeNo customerId)) := by
  have flow : rechargeOrder settings stripeFlow db order.tradeNo =
      finishTopUp settings db order (moneyValue settings order) :=
    rechargeOrder_pending awaits same
  simp only [recharge, awaits.named, if_false, flow]
  cases finishTopUp settings db order (moneyValue settings order) with
  | error cause => exact fun _ => rfl
  | ok done =>
    exact fun user => ((setStripeCustomer_aside customerId done).1.wallet user).symm

theorem sameCredit_credit (one : first.users = db.users) (other : second.users = db.users)
    (positive : 0 < quota) :
    SameCredit (committed db (creditOwner settings first user quota))
      (match increaseUserQuota settings second user quota with
        | .error cause => (second, some cause)
        | .ok after => (after, none)) := by
  have unchanged : ∀ id, first.wallet id = second.wallet id := by
    intro id
    simp only [Database.wallet, one, other]
  have failed : ∀ id, db.wallet id = second.wallet id := by
    intro id
    simp only [Database.wallet, other]
  rw [increaseUserQuota, if_neg (by omega), addQuota, creditOwner, shiftWallet, shiftWallet, one,
    other]
  cases found : db.users.find? user with
  | none => exact unchanged
  | some row =>
    by_cases visible : live row = true
    · by_cases out : settings.strictColumns = true ∧
        (maxQuota < row.quota + quota ∨ row.quota + quota < minQuota)
      · simp only [visible, if_true, if_pos out]
        exact failed
      · simp only [visible, if_true, if_neg out]
        exact fun _ => rfl
    · simp only [if_neg visible]
      exact unchanged

theorem sameCredit_completeEpayTopUp (pending : order.status = .pending)
    (same : order.paymentProvider = .epay) (paymentType : String) :
    SameCredit (committed db (finishTopUp settings db order (amountValue settings order)))
      (completeEpayTopUp settings db (some order) paymentType) := by
  simp only [finishTopUp, completeEpayTopUp, prepareEpayTopUp, same, pending, ne_eq,
    not_true_eq_false, if_false]
  cases quotaFromDecimalStrict (amountValue settings order) with
  | error cause => exact fun _ => rfl
  | ok quota =>
    by_cases worthless : quota ≤ 0
    · simp only [bind, Except.bind, if_pos worthless]
      exact fun _ => rfl
    · simp only [bind, Except.bind, if_neg worthless]
      apply sameCredit_credit
      · rfl
      · rfl
      · exact Int.not_le.mp worthless

/-- The address of the payer is refused with the whole payment only for an account that is gone. -/
theorem bindCustomerEmail_error {email : String} {cause : StoreError}
    (refused : bindCustomerEmail settings db user email = .error cause) :
    ∀ row, db.users.find? user = some row → row.deleted = true := by
  intro row found
  unfold bindCustomerEmail at refused
  split at refused
  · cases refused
  rw [found] at refused
  by_contra present
  simp only [present, if_false] at refused
  split at refused
  · cases refused
  split at refused <;> cases refused

theorem finishTopUp_gone {value : Rat} {done : Completion}
    (finished : finishTopUp settings db order value = .ok done)
    (gone : ∀ row, done.db.users.find? order.userId = some row → row.deleted = true) (user : Int) :
    done.db.wallet user = db.wallet user := by
  obtain ⟨quota, -, finished⟩ := bind_ok finished
  split at finished
  · cases finished
  obtain ⟨result, shifted, finished⟩ := bind_ok finished
  rcases shiftWallet_ok shifted with ⟨rfl, -⟩ | ⟨row, found, visible, rfl⟩
  · cases finished
    rfl
  · cases finished
    have own := Table.find?_key found
    have after := gone { row with quota := row.quota + quota } (by
      rw [← own] at found ⊢
      exact Table.find?_save_self found)
    simp [live, show row.deleted = true from after] at visible

theorem sameCredit_rechargeCreem (awaits : Awaits db order) (same : order.paymentProvider = .creem)
    (customerEmail : String) :
    SameCredit (committed db (finishTopUp settings db order order.amount))
      (committed db (rechargeCreem settings db order.tradeNo customerEmail)) := by
  have flow : rechargeOrder settings creemFlow db order.tradeNo =
      finishTopUp settings db order order.amount :=
    rechargeOrder_pending awaits same
  simp only [rechargeCreem, awaits.named, if_false, flow, awaits.found]
  cases finished : finishTopUp settings db order order.amount with
  | error cause => exact fun _ => rfl
  | ok done =>
    simp only [bind, Except.bind]
    cases bound : bindCustomerEmail settings done.db order.userId customerEmail with
    | error cause =>
      exact fun user => finishTopUp_gone finished (bindCustomerEmail_error bound) user
    | ok after => exact fun user => ((bindCustomerEmail_aside bound).wallet user).symm

theorem sameCredit_completeByProvider (awaits : Awaits db order)
    (same : order.paymentProvider = request.provider) (fair : request.provider ≠ .creem ∨
      truncateDecimal (order.amount * settings.quotaPerUnit) = order.amount) (callback : Callback) :
    SameCredit (committed db (manualCompleteTopUp settings db order.tradeNo))
      (completeByProvider settings db order callback) := by
  rw [manualCompleteTopUp_pending awaits]
  cases request with
  | creem =>
    have value : manualValue settings order = order.amount := by
      rw [manualValue, if_neg (by simp [same, OrderRequest.provider]), amountValue,
        fair.resolve_left (by simp [OrderRequest.provider])]
    simp only [completeByProvider, same, OrderRequest.provider, value]
    exact sameCredit_rechargeCreem awaits same callback.customerEmail
  | epay =>
    simp only [completeByProvider, same, OrderRequest.provider, awaits.found, manualValue]
    exact sameCredit_completeEpayTopUp awaits.pending same callback.paymentType
  | stripe =>
    simp only [completeByProvider, same, OrderRequest.provider, manualValue, if_true]
    exact sameCredit_recharge awaits same callback.customerId
  | waffo =>
    have flow : rechargeOrder settings waffoFlow db order.tradeNo =
        finishTopUp settings db order (amountValue settings order) :=
      rechargeOrder_pending awaits same
    simp only [completeByProvider, same, OrderRequest.provider, manualValue, rechargeWaffo,
      awaits.named, if_false, flow]
    exact sameCredit_hideCause _
  | waffoPancake =>
    have flow : rechargeOrder settings waffoPancakeFlow db order.tradeNo =
        finishTopUp settings db order (amountValue settings order) :=
      rechargeOrder_pending awaits same
    simp only [completeByProvider, same, OrderRequest.provider, manualValue, rechargeWaffoPancake,
      awaits.named, if_false, flow]
    exact sameCredit_hideCause _

end Completions

def ownerWith (order : TopUp) : Database where
  users := .ofRows [{ id := order.userId }]
  topUps := .ofRows [order]

theorem find_ownerWith (order : TopUp) :
    findTopUp (ownerWith order) order.tradeNo = some order := by
  simp [findTopUp, ownerWith, Table.ofRows, Table.insert?, Table.empty]

theorem roundDecimal_intCast (value : Int) : roundDecimal value = value := by
  have half (whole : Int) : ((whole : Rat) + 1 / 2).floor = whole := by
    apply le_antisymm
    · exact Int.lt_add_one_iff.1 (Rat.floor_lt_iff.2 (by push_cast; linarith))
    · exact Rat.le_floor_iff.2 (by linarith)
  unfold roundDecimal
  split
  · exact half value
  · rw [← Int.cast_neg, half, neg_neg]

theorem quotaFromDecimalStrict_intCast (value : Int) : quotaFromDecimalStrict value =
    if maxQuota ≤ value ∨ value ≤ minQuota then .error .quotaClamp else .ok value := by
  rw [quotaFromDecimalStrict, roundDecimal_intCast]

theorem finishTopUp_refused (settings : Settings) (db : Database) (order : TopUp) {value : Int}
    (outside : ¬(0 < value ∧ value < maxQuota)) :
    ∃ cause, finishTopUp settings db order value = .error cause := by
  rw [finishTopUp, quotaFromDecimalStrict_intCast]
  by_cases clamped : maxQuota ≤ value ∨ value ≤ minQuota
  · exact ⟨_, by rw [if_pos clamped]; rfl⟩
  · rw [if_neg clamped]
    exact ⟨_, if_pos (by omega)⟩

theorem finishTopUp_fits (settings : Settings) (db : Database) (order : TopUp) {value : Int}
    (positive : 0 < value) (below : value < maxQuota) :
    finishTopUp settings db order value =
      creditOwner settings (saveTopUp db
        { order with completeTime := settings.context.time, status := .success })
        order.userId value := by
  rw [finishTopUp, quotaFromDecimalStrict_intCast,
    if_neg (by unfold maxQuota minQuota at *; omega)]
  exact if_neg (not_le.2 positive)

/-- The owner starts at zero, so the credit is the value itself where the column takes it. -/
theorem credited_ownerWith (settings : Settings) (order : TopUp) (value : Int) :
    creditedQuota (ownerWith order)
        (committed (ownerWith order) (finishTopUp settings (ownerWith order) order value)).1
        order.userId =
      if 0 < value ∧ value < maxQuota then value else 0 := by
  by_cases fits : 0 < value ∧ value < maxQuota
  · rw [if_pos fits, finishTopUp_fits settings _ order fits.1 fits.2]
    have owner : (ownerWith order).users.find? order.userId = some { id := order.userId } := by
      simp [ownerWith, Table.ofRows, Table.insert?, Table.empty, Table.find?]
    have room : ¬(settings.strictColumns = true ∧
        (maxQuota < 0 + value ∨ 0 + value < minQuota)) := by
      unfold maxQuota minQuota at *
      omega
    simp only [creditOwner, shiftWallet, saveTopUp, owner, live, Bool.not_false, if_true, room,
      if_false, bind, Except.bind, committed, creditedQuota, Database.wallet]
    rw [Table.find?_save_self owner]
    simp
  · rw [if_neg fits]
    obtain ⟨cause, failed⟩ := finishTopUp_refused settings (ownerWith order) order fits
    rw [failed]
    exact sub_self _

theorem answering_ok {Value : Type} {result : Except StoreError Value} {value : Value}
    (answered : answering text result = .ok value) : result = .ok value := by
  cases result <;> cases answered
  rfl

theorem creem_amount {shop : Shop} {request : CreemPayRequest}
    (placed : placeOrder shop db call (.creem request) = .ok (order, after)) :
    0 < order.amount ∧ order.amount < maxQuota := by
  obtain ⟨draft, made, placed⟩ := bind_ok placed
  have amount : order.amount = draft.amount := by
    simp only at placed
    split at placed
    · cases placed
    split at placed
    · cases placed
    cases placed
    rfl
  rw [amount]
  change requestCreemPay shop call request = .ok draft at made
  unfold requestCreemPay at made
  iterate 4
    split at made
    · cases made
  obtain ⟨quota, valid, made⟩ := bind_ok made
  cases made
  have stored : validateCreemProductQuota _ = .ok quota := answering_ok valid
  unfold validateCreemProductQuota at stored
  rw [quotaFromDecimalStrict_intCast] at stored
  split at stored
  · cases stored
  rename_i range
  simp only [bind, Except.bind] at stored
  split at stored
  · cases stored
  rename_i positive
  cases stored
  exact ⟨not_le.1 positive, not_le.1 (not_or.1 range).1⟩

/-- The manual completion of a pending order credits in every store what the completion of its
provider credits, exactly when the order is not Creem's or its quota is the same read as units. -/
theorem manual_completion_credits_iff (shop : Shop) (before after : Database) (call : Call)
    (request : OrderRequest) (order : TopUp)
    (placed : placeOrder shop before call request = .ok (order, after))
    (pending : order.status = .pending) (settings : Settings) :
    (∀ db callback user, findTopUp db order.tradeNo = some order →
      creditedQuota db (committed db (manualCompleteTopUp settings db order.tradeNo)).1 user =
        creditedQuota db (completeByProvider settings db order callback).1 user) ↔
      request.provider ≠ .creem ∨
        truncateDecimal (order.amount * settings.quotaPerUnit) = order.amount := by
  obtain ⟨same, named⟩ := placeOrder_row placed
  constructor
  · intro equal
    cases request with
    | creem request =>
      right
      obtain ⟨positive, bounded⟩ := creem_amount placed
      have awaits : Awaits (ownerWith order) order := ⟨find_ownerWith order, pending, named⟩
      have credits := equal (ownerWith order) {} order.userId awaits.found
      rw [manualCompleteTopUp_pending awaits, manualValue,
        if_neg (by simp [same, OrderRequest.provider]), amountValue, credited_ownerWith] at credits
      have provider : SameCredit _ (committed _ (rechargeCreem settings _ order.tradeNo "")) :=
        sameCredit_rechargeCreem awaits same ""
      simp only [completeByProvider, same, OrderRequest.provider] at credits
      rw [creditedQuota, ← provider order.userId, ← creditedQuota] at credits
      have own := credited_ownerWith settings order order.amount
      rw [if_pos ⟨positive, bounded⟩] at own
      rw [own] at credits
      split at credits
      · exact credits
      · omega
    | epay | stripe | waffo | waffoPancake => exact .inl (by simp [OrderRequest.provider])
  · intro fair db callback user found
    rw [creditedQuota, creditedQuota,
      sameCredit_completeByProvider ⟨found, pending, named⟩ same fair callback user]

def sampleShop : Shop where
  quotaPerUnit := 1000
  quotaDisplayType := .tokens
  creemProducts := some [⟨"prod", 5, 1000⟩]

def sampleUsers : Database where
  users := .ofRows [{ id := 7 }]

def waffoRow : TopUp where
  id := 1
  userId := 7
  amount := 5
  money := 5
  tradeNo := "WAFFO-7-n"
  paymentMethod := "waffo"
  paymentProvider := .waffo

def creemRow : TopUp where
  id := 1
  userId := 7
  amount := 1000
  money := 5
  tradeNo := "ref_n"
  paymentMethod := "creem"
  paymentProvider := .creem

def withOrder (row : TopUp) : Database := { sampleUsers with topUps := .ofRows [row] }

def unitSettings : Settings := { sampleSettings with quotaPerUnit := 1000 }

theorem placed_of_order {shop : Shop}
    (made : (placeOrder shop db call request).toOption.map Prod.fst = some order) :
    ∃ after, placeOrder shop db call request = .ok (order, after) := by
  cases placed : placeOrder shop db call request with
  | error text =>
    rw [placed] at made
    cases made
  | ok result =>
    rw [placed] at made
    cases made
    exact ⟨result.2, rfl⟩

theorem waffo_completions_credit_alike :
    creditedQuota (withOrder waffoRow)
        (committed (withOrder waffoRow)
          (manualCompleteTopUp unitSettings (withOrder waffoRow) "WAFFO-7-n")).1 7 = 5000 ∧
      creditedQuota (withOrder waffoRow)
        (completeByProvider unitSettings (withOrder waffoRow) waffoRow {}).1 7 = 5000 := by
  have made : (placeOrder sampleShop sampleUsers ⟨7, "n", true⟩
      (.waffo { amount := 5000 })).toOption.map Prod.fst = some waffoRow := by
    decide +kernel
  rcases placed_of_order made with ⟨after, placed⟩
  have agree := (manual_completion_credits_iff sampleShop sampleUsers after _ _ waffoRow placed rfl
    unitSettings).2 (.inl (by decide)) (withOrder waffoRow) {} 7 rfl
  have manual : creditedQuota (withOrder waffoRow) (committed (withOrder waffoRow)
      (manualCompleteTopUp unitSettings (withOrder waffoRow) "WAFFO-7-n")).1 7 = 5000 := by
    decide +kernel
  exact ⟨manual, agree.symm.trans manual⟩

/-- A Creem order holds its quota in `Amount`, and a manual completion takes it for units. -/
theorem manual_completion_multiplies_creem_quota :
    (placeOrder sampleShop sampleUsers ⟨7, "n", true⟩
        (.creem { productId := "prod" })).toOption.map Prod.fst = some creemRow ∧
      findTopUp (withOrder creemRow) "ref_n" = some creemRow ∧ creemRow.status = .pending ∧
      creditedQuota (withOrder creemRow)
        (completeByProvider unitSettings (withOrder creemRow) creemRow {}).1 7 = 1000 ∧
      creditedQuota (withOrder creemRow)
        (committed (withOrder creemRow)
          (manualCompleteTopUp unitSettings (withOrder creemRow) "ref_n")).1 7 = 1000000 := by
  decide +kernel

end NewApi.TopUpOrders
