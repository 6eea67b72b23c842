import NewApi.Payments

/-!
Concurrent completions of payments. A step is one database statement or one
transaction. The gateway completions and the redemption of a code are single
transactions; the epay callback saves its order and credits the owner in two
statements after a read (controller/topup.go), and the administrator's edit of a
code writes back a row it read before (controller/redemption.go). What a request
holds between its statements is part of the state and lost when its node stops.
The list of credits is history that no step reads.
-/

namespace NewApi.PaymentCredits

open Runs Wallet Payments Table Option List

inductive Source where
  | order (id : Int)
  | code (id : Int)
  deriving DecidableEq

/-- An epay callback after its read: the row it saves and the quota it adds afterwards. -/
structure EpayHandler where
  node : Nat
  order : TopUp
  quota : Int
  saved : Bool := false
  deriving DecidableEq

/-- An edit of a redemption code after its read: the row it writes back. -/
structure RedemptionEdit where
  node : Nat
  row : Redemption
  deriving DecidableEq

structure PaymentState where
  db : Database
  handlers : List EpayHandler := []
  edits : List RedemptionEdit := []
  credits : List Source := []

structure RedemptionRequest where
  id : Int
  name : String := ""
  quota : Int := 0
  expiredTime : Int := 0
  status : RedemptionStatus := .enabled
  statusOnly : Bool := false

/-- The target statuses of the callers of `UpdatePendingTopUpStatus`. -/
inductive ClosedStatus where
  | expired
  | failed
  deriving DecidableEq

def ClosedStatus.status : ClosedStatus → OrderStatus
  | .expired => .expired
  | .failed => .failed

inductive Transaction where
  | recharge (referenceId customerId : String)
  | rechargeCreem (referenceId customerEmail : String)
  | rechargeWaffo (tradeNo : String)
  | rechargeWaffoPancake (tradeNo : String)
  | manualComplete (tradeNo : String)
  | updatePending (tradeNo : String) (expected : Option PaymentProvider) (target : ClosedStatus)
  | redeem (key : String) (userId : Int)

inductive PaymentStep where
  | epayNotify (node : Nat) (tradeNo paymentType : String)
  | epaySave (handler : EpayHandler)
  | epayCredit (handler : EpayHandler)
  | readRedemption (node : Nat) (request : RedemptionRequest)
  | writeRedemption (edit : RedemptionEdit)
  | transaction (transaction : Transaction)
  | stop (node : Nat)

variable (settings : Settings) (db : Database)

def runTransaction :
    Transaction → Except StoreError Completion
  | .recharge referenceId customerId => Payments.recharge settings db referenceId customerId
  | .rechargeCreem referenceId email => Payments.rechargeCreem settings db referenceId email
  | .rechargeWaffo tradeNo => Payments.rechargeWaffo settings db tradeNo
  | .rechargeWaffoPancake tradeNo => Payments.rechargeWaffoPancake settings db tradeNo
  | .manualComplete tradeNo => manualCompleteTopUp settings db tradeNo
  | .updatePending tradeNo expected target => do
    let db ← updatePendingTopUpStatus db tradeNo expected target.status
    .ok { db }
  | .redeem key userId => Payments.redeem settings db key userId

/-- The order or code a transaction is about. -/
def Transaction.source : Transaction → Option Source
  | .recharge tradeNo _ | .rechargeCreem tradeNo _ | .rechargeWaffo tradeNo
  | .rechargeWaffoPancake tradeNo | .manualComplete tradeNo | .updatePending tradeNo _ _ =>
    (findTopUp db tradeNo).map fun order => .order order.id
  | .redeem key _ => (findRedemption db key).map fun code => .code code.id

/-- The owner of the order a trade number names, while it can still be paid. -/
def payableOwner (tradeNo : String) : Option Int :=
  ((findTopUp db tradeNo).filter (·.status = .pending)).map fun order => order.userId

/-- The user a transaction credits, when the order is pending or the code enabled. -/
def Transaction.payee : Transaction → Option Int
  | .recharge tradeNo _ | .rechargeCreem tradeNo _ | .rechargeWaffo tradeNo
  | .rechargeWaffoPancake tradeNo | .manualComplete tradeNo =>
    payableOwner db tradeNo
  | .updatePending _ _ _ => none
  | .redeem key userId =>
    ((findRedemption db key).filter (·.status = .enabled)).map fun _ => userId

def OwnerLive (user : Int) : Prop :=
  ∃ row, db.users.find? user = some row ∧ live row = true

instance (db : Database) (user : Int) : Decidable (OwnerLive db user) :=
  decidable_of_iff ((db.users.find? user).any live = true) (by simp [OwnerLive, Option.any_eq_true])

/-- `completeEpayTopUp` up to its first write, on the order the callback read. -/
def prepareEpayTopUp (topUp : Option TopUp) (paymentType : String) :
    Except StoreError (TopUp × Int) :=
  match topUp with
  | none => .error .topUpNotFound
  | some order =>
    if order.paymentProvider ≠ .epay then .error .paymentMethodMismatch
    else if order.status ≠ .pending then .error .topUpStatusInvalid
    else do
      let quota ← quotaFromDecimalStrict (amountValue settings order)
      if quota ≤ 0 then .error (.message "invalid top-up quota")
      else .ok ({ order with paymentMethod := paymentType, status := .success }, quota)

variable (state : PaymentState)

/-- `LockOrder`: the handlers of one node take turns on an order. -/
def orderLocked (node : Nat) (tradeNo : String) : Bool :=
  state.handlers.any fun handler => handler.node = node ∧ handler.order.tradeNo = tradeNo

/-- `UpdateRedemption` up to its write; `none` for an expiry in the past. -/
def editRedemption (time : Int) (clean : Redemption) (request : RedemptionRequest) :
    Option Redemption :=
  if request.statusOnly then some { clean with status := request.status }
  else if request.expiredTime ≠ 0 ∧ request.expiredTime < time then none
  else some { clean with
    name := request.name, quota := request.quota, expiredTime := request.expiredTime }

def getRedemptionById (id : Int) : Option Redemption :=
  if id = 0 then none
  else (db.redemptions.find? id).filter fun row => !row.deleted

def updateRedemption (row : Redemption) : Database :=
  match db.redemptions.updateWhere row.id (fun stored => !stored.deleted) (fun stored =>
      { stored with
        name := row.name, status := row.status, quota := row.quota,
        redeemedTime := row.redeemedTime, expiredTime := row.expiredTime }) with
  | none => db
  | some redemptions => { db with redemptions }

def notifyEpay (node : Nat) (tradeNo paymentType : String) : PaymentState :=
  if orderLocked state node tradeNo then state
  else match prepareEpayTopUp settings (findTopUp state.db tradeNo) paymentType with
    | .error _ => state
    | .ok (order, quota) => { state with handlers := { node, order, quota } :: state.handlers }

def saveEpay (handler : EpayHandler) : PaymentState :=
  { state with
    db := saveTopUp state.db handler.order
    handlers := { handler with saved := true } :: state.handlers.erase handler }

/-- The callback's second write; its error ends the handler like its success. -/
def creditEpay (handler : EpayHandler) : PaymentState :=
  let rest := state.handlers.erase handler
  match increaseUserQuota settings state.db handler.order.userId handler.quota with
  | .error _ => { state with handlers := rest }
  | .ok db =>
    let reached := if OwnerLive state.db handler.order.userId then
        [Source.order handler.order.id] else []
    { state with db, handlers := rest, credits := reached ++ state.credits }

def readForEdit (node : Nat) (request : RedemptionRequest) : PaymentState :=
  match (getRedemptionById state.db request.id).bind
      (editRedemption settings.context.time · request) with
  | none => state
  | some row => { state with edits := { node, row } :: state.edits }

def commit (transaction : Transaction) : PaymentState :=
  match runTransaction settings state.db transaction with
  | .error _ => state
  | .ok done =>
    let reached := if done.credit.isSome then (transaction.source state.db).toList else []
    { state with db := done.db, credits := reached ++ state.credits }

def perform (entry : Settings × PaymentStep) : PaymentState :=
  match entry.2 with
  | .epayNotify node tradeNo paymentType => notifyEpay entry.1 state node tradeNo paymentType
  | .epaySave handler =>
    if handler ∈ state.handlers ∧ handler.saved = false then saveEpay state handler else state
  | .epayCredit handler =>
    if handler ∈ state.handlers ∧ handler.saved = true then creditEpay entry.1 state handler
    else state
  | .readRedemption node request => readForEdit entry.1 state node request
  | .writeRedemption edit =>
    if edit ∈ state.edits then
      { state with db := updateRedemption state.db edit.row, edits := state.edits.erase edit }
    else state
  | .transaction transaction => commit entry.1 state transaction
  | .stop node =>
    { state with
      handlers := state.handlers.filter fun handler => handler.node ≠ node
      edits := state.edits.filter fun edit => edit.node ≠ node }

def credited (source : Source) : Nat := state.credits.count source

/-- Handlers that have saved the order and not yet credited its owner. -/
def between (id : Int) : Nat :=
  state.handlers.countP fun handler => handler.saved && decide (handler.order.id = id)

/-- Success, or a used code, is the mark of exactly one credit. An order is looked at when no
handler stands between its save and its credit. -/
def CreditedOnce : Prop :=
  (∀ order ∈ state.db.topUps.rows, between state order.id = 0 →
    credited state (.order order.id) ≤ 1 ∧
      (order.status = .success ↔ credited state (.order order.id) = 1)) ∧
  ∀ code ∈ state.db.redemptions.rows,
    credited state (.code code.id) ≤ 1 ∧ (code.status = .used ↔ credited state (.code code.id) = 1)

instance (state : PaymentState) : Decidable (CreditedOnce state) :=
  inferInstanceAs (Decidable (_ ∧ _))

/-- The statement that adds `quota` to the owner's wallet reaches a row and fits the column. -/
def CreditLands (user quota : Int) : Prop :=
  ∃ row ∈ db.users.find? user, live row = true ∧
    (settings.strictColumns = true →
      row.quota + quota ≤ maxQuota ∧ minQuota ≤ row.quota + quota)

instance (settings : Settings) (db : Database) (user quota : Int) :
    Decidable (CreditLands settings db user quota) :=
  inferInstanceAs (Decidable (∃ row ∈ db.users.find? user, _))

/-- What the two-statement paths need of the state they meet. -/
def Guarded (entry : Settings × PaymentStep) : Prop :=
  match entry.2 with
  | .epayNotify _ _ _ => True
  | .epaySave handler =>
    handler ∈ state.handlers → handler.saved = false →
      ∀ order ∈ state.db.topUps.find? handler.order.id, order.status ≠ .success
  | .epayCredit handler =>
    handler ∈ state.handlers → handler.saved = true →
      CreditLands entry.1 state.db handler.order.userId handler.quota
  | .readRedemption _ _ => True
  | .writeRedemption edit =>
    edit ∈ state.edits → ∀ code ∈ state.db.redemptions.find? edit.row.id,
      (edit.row.status = .used ↔ code.status = .used)
  | .transaction transaction =>
    ∀ user ∈ transaction.payee state.db, OwnerLive state.db user
  | .stop node => ∀ handler ∈ state.handlers, handler.node = node → handler.saved = false

instance (state : PaymentState) (entry : Settings × PaymentStep) :
    Decidable (Guarded state entry) := by
  unfold Guarded
  split <;> infer_instance

def SameOrders (after : Database) : Prop :=
  after.topUps = db.topUps ∧ after.redemptions = db.redemptions

inductive OrderEffect (db : Database) (tradeNo : String) (done : Completion) : Prop where
  | idle (same : SameOrders db done.db) (uncredited : done.credit = none)
  | completed (order : TopUp) (time : Int) (found : findTopUp db tradeNo = some order)
      (pending : order.status = .pending)
      (topUps : done.db.topUps =
        db.topUps.save { order with completeTime := time, status := .success })
      (redemptions : done.db.redemptions = db.redemptions)
      (credit : OwnerLive db order.userId → done.credit.isSome = true)

variable {quota user userId : Int} {db} {after : Database} {done : Completion} {settings}
  {tradeNo key paymentType : String} {order : TopUp} {count node : Nat} {state}
  {handler : EpayHandler}

theorem creditOwner_effect (committed : creditOwner settings db user quota = .ok done) :
    SameOrders db done.db ∧ (OwnerLive db user → done.credit.isSome = true) := by
  obtain ⟨result, shifted, committed⟩ := bind_ok committed
  rcases shiftWallet_ok shifted with ⟨rfl, hidden⟩ | ⟨row, found, shown, rfl⟩
  · cases committed
    refine ⟨⟨rfl, rfl⟩, ?_⟩
    rintro ⟨row, found, visible⟩
    rw [hidden row found] at visible
    cases visible
  · cases committed
    exact ⟨⟨rfl, rfl⟩, fun _ => rfl⟩

theorem completes_effect {value : Settings → TopUp → Rat}
    (completes : Completes settings value db tradeNo done) : OrderEffect db tradeNo done := by
  obtain ⟨paid, rfl | ⟨order, found, pending, paying⟩, aside, credit⟩ := completes
  · exact .idle aside.orders credit
  · obtain ⟨quota, -, committed⟩ := bind_ok paying
    split at committed
    · cases committed
    obtain ⟨⟨topUps, redemptions⟩, reached⟩ := creditOwner_effect committed
    exact .completed order settings.context.time found pending (aside.orders.1.trans topUps)
      (aside.orders.2.trans redemptions) fun live => credit ▸ reached live

theorem updatePendingTopUpStatus_effect {expected : Option PaymentProvider} {target : OrderStatus}
    (committed : updatePendingTopUpStatus db tradeNo expected target = .ok after) :
    ∃ order, findTopUp db tradeNo = some order ∧ order.status = .pending ∧
      after = saveTopUp db { order with status := target } := by
  unfold updatePendingTopUpStatus at committed
  split at committed
  · cases committed
  split at committed
  · cases committed
  rename_i order found
  split at committed
  · cases committed
  split at committed
  · cases committed
  rename_i pending
  cases committed
  exact ⟨order, found, Decidable.not_not.mp pending, rfl⟩

theorem redeem_effect (committed : Payments.redeem settings db key userId = .ok done) :
    ∃ code time, findRedemption db key = some code ∧ code.status = .enabled ∧
      done.db.topUps = db.topUps ∧
      done.db.redemptions = db.redemptions.save
        { code with redeemedTime := time, status := .used, usedUserId := userId } ∧
      (OwnerLive db userId → done.credit.isSome = true) := by
  unfold Payments.redeem at committed
  iterate 3
    split at committed
    · cases committed
  rename_i redeemed
  cases committed
  unfold redeemTx at redeemed
  split at redeemed
  · cases redeemed
  rename_i code found
  split at redeemed
  · cases redeemed
  rename_i enabled
  split at redeemed
  · cases redeemed
  split at redeemed
  · cases redeemed
  rename_i updated
  obtain ⟨stored, present, -, saved⟩ := updateWhere_eq_some updated
  have same : stored = code := by
    have member := mem_of_find?_eq_some found
    exact Option.some.inj (present.symm.trans (mem_find? member))
  obtain ⟨⟨topUps, redemptions⟩, credit⟩ := creditOwner_effect redeemed
  rw [saved, same] at redemptions
  exact ⟨code, settings.context.time, found, Decidable.not_not.mp enabled, topUps,
    redemptions, credit⟩

theorem findTopUp_find? (found : findTopUp db tradeNo = some order) :
    db.topUps.find? order.id = some order :=
  mem_find? (mem_of_find?_eq_some found)

/-! The count behind the property: credits and handlers about to credit, against the mark. -/

def orderMark (order : TopUp) : Nat := if order.status = .success then 1 else 0

def codeMark (code : Redemption) : Nat := if code.status = .used then 1 else 0

structure Counted (state : PaymentState) : Prop where
  orders : ∀ id order, state.db.topUps.find? id = some order →
    credited state (.order id) + between state id = orderMark order
  codes : ∀ id code, state.db.redemptions.find? id = some code →
    credited state (.code id) = codeMark code
  handlers : ∀ handler ∈ state.handlers, handler.order.status = .success ∧ 0 < handler.quota

theorem once_of_mark {marked : Prop} [Decidable marked] (same : count = if marked then 1 else 0) :
    count ≤ 1 ∧ (marked ↔ count = 1) := by
  rw [same]
  split <;> simp [*]

theorem Counted.creditedOnce (counted : Counted state) : CreditedOnce state := by
  constructor
  · intro order member idle
    have count := counted.orders order.id order (mem_find? member)
    rw [idle] at count
    exact once_of_mark count
  · exact fun code member => once_of_mark (counted.codes code.id code (mem_find? member))

theorem countP_erase_cons {handlers : List EpayHandler} (member : handler ∈ handlers)
    (test : EpayHandler → Bool) :
    handlers.countP test =
      (handlers.erase handler).countP test + if test handler then 1 else 0 := by
  rw [(perm_cons_erase member).countP_eq, countP_cons]

theorem prepareEpayTopUp_ok {topUp : Option TopUp}
    (prepared : prepareEpayTopUp settings topUp paymentType = .ok (order, quota)) :
    order.status = .success ∧ 0 < quota := by
  unfold prepareEpayTopUp at prepared
  iterate 3
    split at prepared
    · cases prepared
  obtain ⟨value, -, prepared⟩ := bind_ok prepared
  split at prepared
  · cases prepared
  cases prepared
  exact ⟨rfl, by omega⟩

theorem Counted.notify (counted : Counted state) (node : Nat) (tradeNo paymentType : String) :
    Counted (notifyEpay settings state node tradeNo paymentType) := by
  unfold notifyEpay
  split
  · exact counted
  split
  · exact counted
  rename_i order quota prepared
  constructor
  · intro id stored found
    have count := counted.orders id stored found
    simpa [between, credited] using count
  · exact counted.codes
  · rw [forall_mem_cons]
    exact ⟨prepareEpayTopUp_ok prepared, counted.handlers⟩

theorem between_saveEpay (member : handler ∈ state.handlers) (unsaved : handler.saved = false)
    (id : Int) :
    between (saveEpay state handler) id =
      between state id + if handler.order.id = id then 1 else 0 := by
  simp only [between, saveEpay, countP_cons, Bool.true_and, decide_eq_true_eq]
  rw [countP_erase_cons member]
  simp [unsaved]

theorem Counted.save (counted : Counted state) (member : handler ∈ state.handlers)
    (unsaved : handler.saved = false)
    (waiting : ∀ order, state.db.topUps.find? handler.order.id = some order →
      order.status ≠ .success) : Counted (saveEpay state handler) := by
  have marks : ∀ old, state.db.topUps.find? handler.order.id = some old →
      orderMark handler.order = orderMark old + 1 := by
    intro old stored
    rw [orderMark, orderMark, if_pos (counted.handlers handler member).1,
      if_neg (waiting old stored)]
  constructor
  · intro id order found
    obtain ⟨old, before, mark⟩ := find?_save_measure orderMark marks found
    have count := counted.orders id old before
    rw [between_saveEpay member unsaved, mark, ← count]
    exact (Nat.add_assoc _ _ _).symm
  · exact counted.codes
  · rw [saveEpay, forall_mem_cons]
    exact ⟨counted.handlers handler member,
      fun other kept => counted.handlers other (mem_of_mem_erase kept)⟩

theorem CreditLands.ownerLive (lands : CreditLands settings db user quota) : OwnerLive db user := by
  obtain ⟨row, found, visible, -⟩ := lands
  exact ⟨row, found, visible⟩

theorem CreditLands.increases (lands : CreditLands settings db user quota) (positive : 0 < quota) :
    ∃ after, increaseUserQuota settings db user quota = .ok after ∧ SameOrders db after := by
  obtain ⟨row, found, visible, fits⟩ := lands
  have accepted : ¬ (settings.strictColumns = true ∧
      (maxQuota < row.quota + quota ∨ row.quota + quota < minQuota)) := by
    rintro ⟨strict, outside⟩
    have bounds := fits strict
    omega
  refine ⟨{ db with users := db.users.save { row with quota := row.quota + quota } }, ?_,
    ⟨rfl, rfl⟩⟩
  unfold increaseUserQuota addQuota shiftWallet
  rw [if_neg (by omega), found]
  simp only [visible, if_true]
  rw [if_neg accepted]
  rfl

section

variable (counted : Counted state)

include counted

theorem Counted.credit (member : handler ∈ state.handlers) (saved : handler.saved = true)
    (lands : CreditLands settings state.db handler.order.userId handler.quota) :
    Counted (creditEpay settings state handler) := by
  obtain ⟨after, increased, sameOrders, sameCodes⟩ :=
    lands.increases (counted.handlers handler member).2
  unfold creditEpay
  rw [increased]
  simp only [if_pos lands.ownerLive]
  constructor
  · intro id order found
    have count := counted.orders id order (sameOrders ▸ found)
    unfold between at count
    rw [countP_erase_cons member] at count
    simp only [credited, between, cons_append, nil_append, count_cons, saved,
      Bool.true_and, decide_eq_true_eq, beq_iff_eq, Source.order.injEq] at count ⊢
    omega
  · intro id code found
    have count := counted.codes id code (sameCodes ▸ found)
    simpa [credited] using count
  · exact fun other kept => counted.handlers other (mem_of_mem_erase kept)

theorem Counted.stop
    (idle : ∀ handler ∈ state.handlers, handler.node = node → handler.saved = false) :
    Counted (perform state (settings, .stop node)) := by
  constructor
  · intro id order found
    have kept : between (perform state (settings, .stop node)) id = between state id := by
      unfold between perform
      rw [countP_filter]
      apply countP_congr
      intro handler member
      by_cases there : handler.node = node
      · simp [idle handler member there]
      · simp [there]
    rw [kept]
    exact counted.orders id order found
  · exact counted.codes
  · exact fun handler member => counted.handlers handler (mem_filter.mp member).1

theorem Counted.edit {edit : RedemptionEdit}
    (agrees : ∀ code, state.db.redemptions.find? edit.row.id = some code →
      (edit.row.status = .used ↔ code.status = .used)) (edits : List RedemptionEdit) :
    Counted { state with db := updateRedemption state.db edit.row, edits } := by
  unfold updateRedemption
  split
  · exact { counted with }
  rename_i updated
  refine ⟨counted.orders, ?_, counted.handlers⟩
  intro id code found
  rw [find?_updateWhere updated (fun _ => rfl)] at found
  obtain ⟨old, stored, rfl⟩ := map_eq_some_iff.mp found
  have count := counted.codes id old stored
  by_cases same : id = edit.row.id
  · have mark := agrees old (same ▸ stored)
    rw [if_pos same]
    change credited state (.code id) = codeMark _
    rw [count]
    simp only [codeMark, mark]
  · rw [if_neg same]
    exact count

theorem Counted.completion (effect : OrderEffect state.db tradeNo done)
    (live : ∀ user, payableOwner state.db tradeNo = some user → OwnerLive state.db user) :
    Counted
      { state with
        db := done.db
        credits := (if done.credit.isSome then
          ((findTopUp state.db tradeNo).map fun order => Source.order order.id).toList
          else []) ++ state.credits } := by
  cases effect with
  | idle same uncredited =>
    obtain ⟨sameOrders, sameCodes⟩ := same
    rw [uncredited]
    exact ⟨fun id order found => counted.orders id order (sameOrders ▸ found),
      fun id code found => counted.codes id code (sameCodes ▸ found), counted.handlers⟩
  | completed order time found pending topUps redemptions credit =>
    have reached := credit (live order.userId (by simp [payableOwner, found, pending]))
    simp only [reached, found, if_true, map_some, toList_some]
    refine ⟨?_, ?_, counted.handlers⟩
    · intro id stored present
      rw [topUps] at present
      have marks : ∀ old, state.db.topUps.find? order.id = some old →
          (1 : Nat) = orderMark old + 1 := by
        intro old before
        rw [findTopUp_find? found] at before
        cases before
        simp [orderMark, pending]
      obtain ⟨old, before, mark⟩ := find?_save_measure orderMark marks present
      have count := counted.orders id old before
      simp only [credited, between, cons_append, nil_append, count_cons,
        beq_iff_eq, Source.order.injEq] at count mark ⊢
      omega
    · intro id code present
      have count := counted.codes id code (redemptions ▸ present)
      simpa [credited] using count

theorem Counted.close (found : findTopUp state.db tradeNo = some order)
    (pending : order.status = .pending) (target : ClosedStatus) :
    Counted { state with db := saveTopUp state.db { order with status := target.status } } := by
  refine ⟨?_, counted.codes, counted.handlers⟩
  intro id stored present
  have marks : ∀ old, state.db.topUps.find? order.id = some old →
      orderMark { order with status := target.status } = orderMark old + 0 := by
    intro old before
    rw [findTopUp_find? found] at before
    cases before
    cases target <;> simp [orderMark, pending, ClosedStatus.status]
  obtain ⟨old, before, mark⟩ := find?_save_measure orderMark marks present
  rw [mark, ite_self]
  exact counted.orders id old before

theorem Counted.redemption (committed : Payments.redeem settings state.db key userId = .ok done)
    (live : ∀ user, (Transaction.redeem key userId).payee state.db = some user →
      OwnerLive state.db user) :
    Counted
      { state with
        db := done.db
        credits := (if done.credit.isSome then
          ((findRedemption state.db key).map fun code => Source.code code.id).toList
          else []) ++ state.credits } := by
  obtain ⟨code, time, found, enabled, topUps, redemptions, credit⟩ := redeem_effect committed
  have reached := credit (live userId (by simp [Transaction.payee, found, enabled]))
  simp only [reached, found, if_true, map_some, toList_some]
  refine ⟨?_, ?_, counted.handlers⟩
  · intro id order present
    have count := counted.orders id order (topUps ▸ present)
    simpa [credited, between] using count
  · intro id stored present
    rw [redemptions] at present
    have marks : ∀ old, state.db.redemptions.find? code.id = some old →
        (1 : Nat) = codeMark old + 1 := by
      intro old before
      rw [mem_find? (mem_of_find?_eq_some found)] at before
      cases before
      simp [codeMark, enabled]
    obtain ⟨old, before, mark⟩ := find?_save_measure codeMark marks present
    have count := counted.codes id old before
    simp only [credited, cons_append, nil_append, count_cons, beq_iff_eq,
      Source.code.injEq] at count mark ⊢
    omega

theorem Counted.commit {transaction : Transaction}
    (live : ∀ user, transaction.payee state.db = some user → OwnerLive state.db user) :
    Counted (commit settings state transaction) := by
  unfold PaymentCredits.commit
  split
  · exact counted
  rename_i done committed
  have completion {value : Settings → TopUp → Rat} {tradeNo : String}
      (completes : Completes settings value state.db tradeNo done) :=
    counted.completion (completes_effect completes)
  cases transaction with
  | recharge _ _ => exact completion (recharge_completes committed) live
  | rechargeCreem _ _ => exact completion (rechargeCreem_completes committed) live
  | rechargeWaffo _ => exact completion (rechargeWaffo_completes committed) live
  | rechargeWaffoPancake _ => exact completion (rechargeWaffoPancake_completes committed) live
  | manualComplete _ => exact completion (manualCompleteTopUp_completes committed) live
  | updatePending tradeNo expected target =>
    obtain ⟨after, updated, committed⟩ := bind_ok committed
    cases committed
    obtain ⟨order, found, pending, rfl⟩ := updatePendingTopUpStatus_effect updated
    exact counted.close found pending target
  | redeem _ _ => exact counted.redemption committed live

theorem Counted.perform {entry : Settings × PaymentStep} (guarded : Guarded state entry) :
    Counted (perform state entry) := by
  obtain ⟨settings, step⟩ := entry
  cases step with
  | epayNotify node tradeNo paymentType => exact counted.notify node tradeNo paymentType
  | epaySave handler =>
    dsimp only [PaymentCredits.perform]
    split
    · rename_i holds
      exact counted.save holds.1 holds.2 (guarded holds.1 holds.2)
    · exact counted
  | epayCredit handler =>
    dsimp only [PaymentCredits.perform]
    split
    · rename_i holds
      exact counted.credit holds.1 holds.2 (guarded holds.1 holds.2)
    · exact counted
  | readRedemption node request =>
    dsimp only [PaymentCredits.perform, readForEdit]
    split
    · exact counted
    · exact { counted with }
  | writeRedemption edit =>
    dsimp only [PaymentCredits.perform]
    split
    · rename_i member
      exact counted.edit (guarded member) _
    · exact counted
  | transaction transaction => exact counted.commit guarded
  | stop node => exact counted.stop guarded

end

theorem Counted.of_unpaid (handlers : state.handlers = []) (credits : state.credits = [])
    (orders : ∀ order ∈ state.db.topUps.rows, order.status ≠ .success)
    (codes : ∀ code ∈ state.db.redemptions.rows, code.status ≠ .used) : Counted state := by
  constructor
  · intro id order found
    have unpaid := orders order (find?_mem found).1
    simp [credited, between, orderMark, handlers, credits, unpaid]
  · intro id code found
    have unused := codes code (find?_mem found).1
    simp [credited, codeMark, credits, unused]
  · simp [handlers]

/-- In every state of a run whose steps meet the condition, an order is successful, and a code
used, exactly when its owner was credited for it once. -/
theorem guarded_runs_credit_once (initial : PaymentState) (steps : List (Settings × PaymentStep))
    (counted : Counted initial) (guarded : AllSteps perform Guarded initial steps)
    (reached : List (Settings × PaymentStep)) (part : reached <+: steps) :
    CreditedOnce (run perform initial reached) := by
  obtain ⟨rest, rfl⟩ := part
  have kept : ∀ state entry, Guarded state entry → Counted state → Counted (perform state entry) :=
    fun _ _ guarded counted => counted.perform guarded
  exact (run_invariant kept initial reached guarded.of_append counted).creditedOnce

def sampleSettings : Settings where
  context :=
    { calendar := ⟨id, id, id, id, fun _ _ day => day, fun base _ _ days => base + days⟩
      hashTokenKey := id
      dbTime := 1771718500
      time := 1771718500 }

def sampleState : PaymentState where
  db :=
    { users := .ofRows [{ id := 1 }]
      topUps := .ofRows
        [{ id := 3, userId := 1, amount := 1, tradeNo := "T", paymentProvider := .epay },
          { id := 4, userId := 1, amount := 2, tradeNo := "U", paymentProvider := .waffo }]
      redemptions := .ofRows [{ id := 5, key := "K" }] }

def sampleHandler (node : Nat) : EpayHandler where
  node := node
  order :=
    { id := 3, userId := 1, amount := 1, tradeNo := "T", paymentMethod := "alipay"
      paymentProvider := .epay, status := .success }
  quota := 500000

def sampleEdit : RedemptionEdit where
  node := 2
  row := { id := 5, key := "K", name := "gift" }

def atSettings (steps : List PaymentStep) : List (Settings × PaymentStep) :=
  steps.map fun step => (sampleSettings, step)

/-- A callback, a manual completion, an edit and a redemption in turn on two nodes. -/
def sampleSteps : List (Settings × PaymentStep) :=
  atSettings
    [.epayNotify 1 "T" "alipay", .readRedemption 2 { id := 5, name := "gift", quota := 100 },
      .transaction (.manualComplete "U"), .epaySave (sampleHandler 1), .writeRedemption sampleEdit,
      .epayCredit { sampleHandler 1 with saved := true }, .transaction (.redeem "K" 1)]

theorem guarded_runs_credit_once_sample :
    (run perform sampleState sampleSteps).db.wallet 1 = some 1500100 ∧
      CreditedOnce (run perform sampleState sampleSteps) :=
  ⟨by decide +kernel,
    guarded_runs_credit_once sampleState sampleSteps
      (Counted.of_unpaid rfl rfl (by decide) (by decide)) (by decide +kernel) sampleSteps
      prefix_rfl⟩

/-- Two nodes complete one callback twice; a node stops between its two writes; a stale edit
enables a used code again, which is then redeemed twice. -/
theorem unguarded_runs_break_credits :
    ¬ CreditedOnce (run perform sampleState (atSettings
        [.epayNotify 1 "T" "alipay", .epayNotify 2 "T" "alipay", .epaySave (sampleHandler 1),
          .epaySave (sampleHandler 2), .epayCredit { sampleHandler 1 with saved := true },
          .epayCredit { sampleHandler 2 with saved := true }])) ∧
      ¬ CreditedOnce (run perform sampleState (atSettings
        [.epayNotify 1 "T" "alipay", .epaySave (sampleHandler 1), .stop 1])) ∧
      ¬ CreditedOnce (run perform sampleState (atSettings
        [.readRedemption 2 { id := 5, name := "gift", quota := 100 }, .transaction (.redeem "K" 1),
          .writeRedemption sampleEdit, .transaction (.redeem "K" 1)])) := by
  decide +kernel

end NewApi.PaymentCredits
