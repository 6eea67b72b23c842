import NewApi.BillingOperation

/-!
Billing sessions (service/billing_session.go): a session reserves its pre-consume amount from the
wallet or a subscription, in the order of the user's preference, and from the token. The choice
is stated on the rows as they are once due resets are applied, and the session's reservation is
shown to make it. Two calls at once are not modelled.
-/

namespace NewApi.BillingSession

open SubscriptionReset BillingOperations List Table

inductive Preference where
  | subscriptionFirst
  | walletFirst
  | subscriptionOnly
  | walletOnly
  deriving DecidableEq

def normalizeBillingPreference (preference : String) : Preference :=
  let trimmed := trimSpace preference
  if trimmed = "wallet_first" then .walletFirst
  else if trimmed = "subscription_only" then .subscriptionOnly
  else if trimmed = "wallet_only" then .walletOnly
  else .subscriptionFirst

structure RelayInfo where
  requestId : String
  userId : Int
  tokenId : Int := 0
  tokenKey : String := ""
  tokenUnlimited : Bool := false
  -- `c.GetInt("token_quota")`
  tokenQuota : Int := 0
  isPlayground : Bool := false
  forcePreConsume : Bool := false
  billingPreference : String := ""

structure SessionSettings where
  trustQuota : Int
  newRequestId : String

inductive ErrorCode where
  | modelPriceError
  | queryDataError
  | insufficientUserQuota
  | preConsumeTokenQuotaFailed
  | updateDataError
  deriving DecidableEq

structure Session where
  operation : BillingOperation
  trusted : Bool
  db : Database

def billingOperationAPIError : StoreError → ErrorCode
  | .fundingQuota => .insufficientUserQuota
  | .tokenInvalid | .tokenQuota => .preConsumeTokenQuotaFailed
  | .ownerMissing _ => .queryDataError
  | _ => .updateDataError

def sourceName : FundingSource → String
  | .wallet => "wallet"
  | .subscription => "subscription"

def reserveRequest (info : RelayInfo) (source : FundingSource) (quota : Int) : ReserveRequest :=
  { requestId := info.requestId, userId := info.userId, tokenId := info.tokenId,
    tokenKey := info.tokenKey, tokenCharged := !info.isPlayground,
    fundingSource := sourceName source, quota }

variable (context : Context)

def reserveBillingSession (db : Database) (info : RelayInfo) (source : FundingSource) (quota : Int)
    (trusted : Bool) : Except ErrorCode Session :=
  match reserveBillingOperation context db (reserveRequest info source quota) with
  | .error cause => .error (billingOperationAPIError cause)
  | .ok reservation => .ok ⟨reservation.operation, trusted, reservation.db⟩

variable (settings : SessionSettings)

/-- For the wallet only; the quota of the token is the one its authentication has seen. -/
def shouldTrustBillingSession (info : RelayInfo) (userQuota : Int) : Bool :=
  !info.forcePreConsume && decide (0 < settings.trustQuota) &&
    (info.tokenUnlimited || decide (settings.trustQuota < info.tokenQuota)) &&
    decide (settings.trustQuota < userQuota)

variable (db : Database)

def getUserQuota (userId : Int) : Option Int :=
  match db.users.find? userId with
  | some row => if row.deleted then none else some row.quota
  | none => none

def tryWallet (info : RelayInfo) (preConsumedQuota : Int) : Except ErrorCode Session :=
  match getUserQuota db info.userId with
  | none => .error .queryDataError
  | some userQuota =>
    if userQuota ≤ 0 ∨ userQuota < preConsumedQuota then .error .insufficientUserQuota
    else
      let trusted := shouldTrustBillingSession settings info userQuota
      reserveBillingSession context db info .wallet (if trusted then 0 else preConsumedQuota)
        trusted

def trySubscription (info : RelayInfo) (preConsumedQuota : Int) : Except ErrorCode Session :=
  reserveBillingSession context db info .subscription
    (if preConsumedQuota ≤ 0 then 1 else preConsumedQuota) false

def activeOf (userId now : Int) : List UserSubscription :=
  activeSubscriptions db (fun row => row.userId = userId) now

def hasActiveUserSubscription (userId : Int) : Option Bool :=
  if userId ≤ 0 then none else some (decide (activeOf db userId context.time ≠ []))

def userActiveSubscriptionsAllowWalletOverflow (userId : Int) : Option Bool :=
  if userId ≤ 0 then none else some ((activeOf db userId context.time).all (·.allowWalletOverflow))

/-- The second source is tried only when the first one lacks quota. -/
def orElse (first : Except ErrorCode Session) (second : Unit → Except ErrorCode Session) :
    Except ErrorCode Session :=
  match first with
  | .error .insufficientUserQuota => second ()
  | other => other

def identified (info : RelayInfo) : RelayInfo :=
  if info.requestId = "" then { info with requestId := settings.newRequestId } else info

def newBillingSession (relayInfo : RelayInfo) (preConsumedQuota : Int) : Except ErrorCode Session :=
  if preConsumedQuota < 0 ∨ maxQuota < preConsumedQuota then .error .modelPriceError
  else
    let info := identified settings relayInfo
    let wallet := fun _ : Unit => tryWallet context settings db info preConsumedQuota
    let subscription := fun _ : Unit => trySubscription context db info preConsumedQuota
    match normalizeBillingPreference info.billingPreference with
    | .subscriptionOnly => subscription ()
    | .walletOnly => wallet ()
    | .walletFirst => orElse (wallet ()) subscription
    | .subscriptionFirst =>
      match hasActiveUserSubscription context db info.userId with
      | none => .error .queryDataError
      | some false => wallet ()
      | some true => orElse (subscription ()) fun _ =>
        match userActiveSubscriptionsAllowWalletOverflow context db info.userId with
        | none => .error .queryDataError
        | some true => wallet ()
        | some false => .error .insufficientUserQuota

def dueReset (calendar : Calendar) (plan : SubscriptionPlan) (now : Int)
    (sub : UserSubscription) : UserSubscription :=
  if 0 < sub.nextResetTime ∧ now < sub.nextResetTime then sub
  else
    match advanceBase calendar plan sub.endTime now (manyRounds now (resetBase sub))
        (resetBase sub) false with
    | none => sub
    | some (false, base, next) =>
      { sub with lastResetTime := repairedLastReset sub plan base next, nextResetTime := next }
    | some (true, base, next) =>
      { sub with amountUsed := 0, lastResetTime := base, nextResetTime := next }

def current (plans : Table SubscriptionPlan.id) (sub : UserSubscription) : UserSubscription :=
  match plans.find? sub.planId with
  | none => sub
  | some plan => dueReset context.calendar plan context.dbTime sub

/-- An `amountTotal` of zero is unlimited. -/
def covers (quota : Int) (sub : UserSubscription) : Bool :=
  sub.amountTotal ≤ 0 || quota ≤ sub.amountTotal - sub.amountUsed

/-- The first of the subscriptions that covers the amount. -/
structure Picks (context : Context) (plans : Table SubscriptionPlan.id) (quota : Int)
    (subs passed : List UserSubscription) (chosen : UserSubscription) : Prop where
  split : ∃ rest, subs = passed ++ chosen :: rest
  short : ∀ sub ∈ passed, covers quota (current context plans sub) = false
  enough : covers quota (current context plans chosen) = true

/-- A new charge has to be paid from a positive balance. -/
def walletPays (user : User) (amount : Int) : Bool := 0 < user.quota && amount ≤ user.quota

def subscriptionPays (userId amount : Int) : Bool :=
  (activeOf db userId context.dbTime).any fun sub =>
    covers (max amount 1) (current context db.plans sub)

def chosenSource (user : User) (preference : Preference) (amount : Int) : Option FundingSource :=
  let wallet := walletPays user amount
  let subscription := subscriptionPays context db user.id amount
  let overflow := (activeOf db user.id context.dbTime).all (·.allowWalletOverflow)
  match preference with
  | .walletOnly => if wallet then some .wallet else none
  | .subscriptionOnly => if subscription then some .subscription else none
  | .walletFirst =>
    if wallet then some .wallet else if subscription then some .subscription else none
  | .subscriptionFirst =>
    if subscription then some .subscription
    else if overflow && wallet then some .wallet else none

/-- A trusted wallet reserves nothing, a subscription at least one. -/
def reservedAmount (info : RelayInfo) (user : User) (amount : Int) :
    FundingSource → Int
  | .wallet => if shouldTrustBillingSession settings info user.quota then 0 else amount
  | .subscription => max amount 1

structure TokenPays (context : Context) (info : RelayInfo) (token : Token) (amount : Int) :
    Prop where
  owner : token.deleted = false ∧ token.userId = info.userId
  key : token.keyHash = context.hashTokenKey info.tokenKey
  enabled : token.status = .enabled
  alive : token.expiredTime = -1 ∨ context.time ≤ token.expiredTime
  room : 0 < amount → token.usedQuota ≤ maxQuota - amount
  quota : 0 < amount → token.unlimitedQuota = false → amount ≤ token.remainQuota

def CanPay (info : RelayInfo) (amount : Int) : Prop :=
  info.isPlayground = false →
    ∃ token, db.tokens.find? info.tokenId = some token ∧ TokenPays context info token amount

def charged (amount : Int) (sub : UserSubscription) : UserSubscription :=
  { sub with amountUsed := sub.amountUsed + amount }

def TokensAfter (info : RelayInfo) (amount : Int) (tokens : Table Token.id) : Prop :=
  (info.isPlayground = true ∨ amount = 0) ∧ tokens = db.tokens ∨
    ∃ token, db.tokens.find? info.tokenId = some token ∧
      tokens = db.tokens.save (chargeToken context.time amount (!token.unlimitedQuota) token)

structure Reserves (context : Context) (info : RelayInfo) (user : User) (source : FundingSource)
    (amount : Int) (db after : Database) : Prop where
  users : after.users = match source with
    | .wallet => db.users.save { user with quota := user.quota - amount }
    | .subscription => db.users
  subscriptions : match source with
    | .wallet => after.subscriptions = db.subscriptions
    | .subscription => ∃ passed chosen,
        Picks context db.plans amount (activeOf db user.id context.dbTime) passed chosen ∧
        after.subscriptions = (passed.map (current context db.plans) ++
          [charged amount (current context db.plans chosen)]).foldl Table.save db.subscriptions
  tokens : TokensAfter context db info amount after.tokens

/-- A subscription whose plan exists and whose catch-up ends, with counters in their columns. -/
structure Ready (context : Context) (plans : Table SubscriptionPlan.id) (sub : UserSubscription) :
    Prop where
  plan : ∃ plan, plans.find? sub.planId = some plan ∧ Forward context.calendar plan
  ids : 0 < sub.planId ∧ 0 < sub.userId
  active : sub.status = .active ∧ context.dbTime < sub.endTime
  used : 0 ≤ sub.amountUsed ∧ sub.amountUsed ≤ maxInt64 - maxQuota
  total : sub.amountTotal ≤ maxInt64

variable {context} {db}
variable {sub row : UserSubscription} {plans : Table SubscriptionPlan.id} {amount userId now : Int}
  {user : User} {info : RelayInfo} {source : FundingSource} {result : Except ErrorCode Session}

theorem maybeReset_eq {plan : SubscriptionPlan} (stored : db.subscriptions.find? sub.id = some sub)
    (ids : 0 < sub.planId ∧ 0 < sub.userId)
    (active : sub.status = .active ∧ context.dbTime < sub.endTime) (same : plan.id = sub.planId)
    (forward : Forward context.calendar plan) :
    ∃ reset, maybeResetUserSubscriptionWithPlan context.calendar db sub plan context.dbTime =
      .ok (reset, dueReset context.calendar plan context.dbTime sub,
        { db with subscriptions :=
            db.subscriptions.save (dueReset context.calendar plan context.dbTime sub) }) := by
  have eligible : ¬ (sub.userId ≤ 0 ∨ sub.planId ≤ 0 ∨ plan.id ≠ sub.planId ∨
      sub.status ≠ .active ∨ sub.endTime ≤ context.dbTime) := by
    simp only [not_or, not_le, not_not]
    exact ⟨ids.2, ids.1, same, active.1, active.2⟩
  have kept : db.subscriptions.save sub = db.subscriptions := save_of_find? stored
  have passes : sameSchedule sub context.dbTime sub = true := by
    simp [sameSchedule, active.1, active.2]
  unfold maybeResetUserSubscriptionWithPlan dueReset
  rw [if_neg eligible]
  by_cases later : 0 < sub.nextResetTime ∧ context.dbTime < sub.nextResetTime
  · rw [if_pos later, if_pos later, kept]
    exact ⟨false, rfl⟩
  · rw [if_neg later, if_neg later]
    obtain ⟨⟨advanced, base, next⟩, found⟩ := Option.isSome_iff_exists.mp
      (advanceBase_isSome forward sub.endTime context.dbTime
        (manyRounds context.dbTime (resetBase sub)) (resetBase sub) false
        (by unfold manyRounds; omega))
    rw [found]
    cases advanced with
    | false =>
      refine ⟨false, ?_⟩
      simp only [repairSchedule]
      split
      · next unchanged =>
        rw [← unchanged.1, ← unchanged.2, kept]
      · rw [updateWhere_of_find? _ stored passes]
    | true =>
      refine ⟨true, ?_⟩
      simp only [applyDueReset]
      rw [updateWhere_of_find? _ stored (by simp [passes])]

theorem dueReset_fields (calendar : Calendar) (plan : SubscriptionPlan) (now : Int)
    (sub : UserSubscription) : (dueReset calendar plan now sub).id = sub.id ∧
      (dueReset calendar plan now sub).amountTotal = sub.amountTotal ∧
      ((dueReset calendar plan now sub).amountUsed = sub.amountUsed ∨
        (dueReset calendar plan now sub).amountUsed = 0) := by
  unfold dueReset
  split
  · exact ⟨rfl, rfl, .inl rfl⟩
  split
  · exact ⟨rfl, rfl, .inl rfl⟩
  · exact ⟨rfl, rfl, .inl rfl⟩
  · exact ⟨rfl, rfl, .inr rfl⟩

theorem current_id (plans : Table SubscriptionPlan.id) :
    (current context plans sub).id = sub.id := by
  unfold current
  split
  · rfl
  · exact (dueReset_fields _ _ _ _).1

theorem Ready.counters (ready : Ready context plans sub) :
    0 ≤ (current context plans sub).amountUsed ∧
      (current context plans sub).amountUsed ≤ maxInt64 - maxQuota ∧
      (current context plans sub).amountTotal ≤ maxInt64 := by
  obtain ⟨plan, found, _⟩ := ready.plan
  obtain ⟨_, total, used⟩ := dueReset_fields context.calendar plan context.dbTime sub
  have := ready.used
  have := ready.total
  simp only [current, found, total]
  rcases used with same | zero <;> omega

theorem Ready.skips_iff (ready : Ready context plans sub) (quota : Int) :
    (0 < (current context plans sub).amountTotal ∧
      int64 ((current context plans sub).amountTotal - (current context plans sub).amountUsed) <
        quota) ↔ covers quota (current context plans sub) = false := by
  obtain ⟨low, high, total⟩ := ready.counters
  generalize current context plans sub = row at *
  have top : maxInt64 = 2 ^ 63 - 1 := rfl
  have wide : maxQuota = 2147483647 := rfl
  by_cases limited : 0 < row.amountTotal
  · rw [int64_of_mem (by omega) (by omega)]
    simp [covers, limited]
  · simp [covers, limited]

theorem selectSubscription_cons (ready : Ready context db.plans sub)
    (stored : db.subscriptions.find? sub.id = some sub) (quota : Int)
    (rest : List UserSubscription) :
    let next := { db with subscriptions := db.subscriptions.save (current context db.plans sub) }
    (covers quota (current context db.plans sub) = true → ∃ reset,
      selectSubscription context quota (sub :: rest) db =
        .ok (current context db.plans sub, next, reset)) ∧
    (covers quota (current context db.plans sub) = false → ∃ reset,
      selectSubscription context quota (sub :: rest) db =
        (selectSubscription context quota rest next).map fun done =>
          (done.1, done.2.1, reset ++ done.2.2)) := by
  have skips := ready.skips_iff quota
  obtain ⟨plan, found, forward⟩ := ready.plan
  have due : current context db.plans sub = dueReset context.calendar plan context.dbTime sub := by
    rw [current, found]
  obtain ⟨reset, resets⟩ :=
    maybeReset_eq stored ready.ids ready.active (find?_key found) forward
  have getPlan : getSubscriptionPlanById db sub.planId = .ok plan := by
    rw [getSubscriptionPlanById, if_neg (by have := ready.ids.1; omega), found]
  rw [due] at skips ⊢
  generalize dueReset context.calendar plan context.dbTime sub = row at skips resets ⊢
  refine ⟨fun enough => ⟨if reset then [row.id] else [], ?_⟩,
    fun short => ⟨if reset then [row.id] else [], ?_⟩⟩
  · simp only [selectSubscription, getPlan, bind, Except.bind, resets]
    rw [if_neg (by rw [skips, enough]; simp)]
  · simp only [selectSubscription, getPlan, bind, Except.bind, resets]
    rw [if_pos (skips.mpr short)]
    cases selectSubscription context quota rest _ <;> rfl

def saved (db : Database) (rows : List UserSubscription) : Database :=
  { db with subscriptions := rows.foldl Table.save db.subscriptions }

theorem selectSubscription_picks (quota : Int) (subs : List UserSubscription)
    (ready : ∀ sub ∈ subs, Ready context db.plans sub)
    (stored : ∀ sub ∈ subs, db.subscriptions.find? sub.id = some sub)
    (distinct : (subs.map UserSubscription.id).Nodup) :
    (∃ passed chosen reset, Picks context db.plans quota subs passed chosen ∧
      selectSubscription context quota subs db = .ok (current context db.plans chosen,
        saved db ((passed ++ [chosen]).map (current context db.plans)), reset)) ∨
    ((∀ sub ∈ subs, covers quota (current context db.plans sub) = false) ∧
      selectSubscription context quota subs db = .error .fundingQuota) := by
  induction subs generalizing db with
  | nil => exact .inr ⟨by simp, rfl⟩
  | cons sub rest ih =>
    rw [forall_mem_cons] at ready stored
    rw [map_cons, nodup_cons] at distinct
    obtain ⟨takes, skips⟩ := selectSubscription_cons ready.1 stored.1 quota rest
    cases enough : covers quota (current context db.plans sub) with
    | true =>
      obtain ⟨reset, picked⟩ := takes enough
      exact .inl ⟨[], sub, reset, ⟨⟨rest, rfl⟩, by simp, enough⟩, picked⟩
    | false =>
      obtain ⟨reset, goesOn⟩ := skips enough
      have others : ∀ other ∈ rest,
          (db.subscriptions.save (current context db.plans sub)).find? other.id =
            some other := by
        intro other member
        have apart : (current context db.plans sub).id ≠ other.id := by
          rw [current_id]
          exact fun same => distinct.1 (same ▸ mem_map_of_mem member)
        exact (find?_save_other apart).trans (stored.2 other member)
      rw [goesOn]
      rcases @ih (saved db [current context db.plans sub]) ready.2 others distinct.2 with
        ⟨passed, chosen, more, picks, picked⟩ | ⟨short, refused⟩
      · obtain ⟨last, split⟩ := picks.split
        refine .inl ⟨sub :: passed, chosen, reset ++ more, ⟨⟨last, ?_⟩, ?_, picks.enough⟩, ?_⟩
        · rw [split, cons_append]
        · exact forall_mem_cons.mpr ⟨enough, picks.short⟩
        · exact congrArg (Except.map _) picked
      · exact .inr ⟨forall_mem_cons.mpr ⟨enough, short⟩, congrArg (Except.map _) refused⟩

/-! ### One reservation -/

theorem find?_foldl_save {key : UserSubscription → Int} {table : Table key}
    (rows : List UserSubscription) {id : Int} (present : (table.find? id).isSome) :
    ((rows.foldl Table.save table).find? id).isSome := by
  induction rows generalizing table with
  | nil => exact present
  | cons row rest ih =>
    apply ih
    rw [find?_save]
    split
    · simpa using present
    · exact present

theorem chargeSubscription_saved (amount : Int) (passed : List UserSubscription)
    (present : (db.subscriptions.find? row.id).isSome)
    (fits : -2 ^ 63 ≤ row.amountUsed + amount ∧ row.amountUsed + amount ≤ maxInt64) :
    chargeSubscription (saved db (passed ++ [row])) row amount =
      .ok (saved db (passed ++ [charged amount row])) := by
  obtain ⟨old, before⟩ := Option.isSome_iff_exists.mp (find?_foldl_save passed present)
  have found : (saved db (passed ++ [row])).subscriptions.find? row.id = some row := by
    rw [saved, foldl_concat]
    exact find?_save_self before
  have twice (table : Table UserSubscription.id) :
      (table.save row).save (charged amount row) = table.save (charged amount row) :=
    save_save table rfl
  rw [chargeSubscription, if_neg (by rw [int64_of_mem fits.1 fits.2]; simp),
    updateWhere_of_find? _ found (by simp)]
  simp only [saved, foldl_concat]
  exact congrArg (fun subscriptions => Except.ok { db with subscriptions }) (twice _)

/-- What the funding side of a reservation leaves. -/
inductive Funds (context : Context) (db : Database) (user : User) (amount : Int) :
    FundingSource → Database → Prop
  | wallet (enough : amount ≤ user.quota) : Funds context db user amount .wallet
      { db with users := db.users.save { user with quota := user.quota - amount } }
  | subscription {passed : List UserSubscription} {chosen : UserSubscription}
      (picks : Picks context db.plans amount (activeOf db user.id context.dbTime) passed chosen) :
      Funds context db user amount .subscription
        (saved db (passed.map (current context db.plans) ++
          [charged amount (current context db.plans chosen)]))

theorem reserveFunding_wallet (found : db.users.find? user.id = some user)
    (alive : user.deleted = false) (nonneg : 0 ≤ amount) (enough : amount ≤ user.quota) :
    reserveFunding context db .wallet user.id amount = .ok (0,
      { db with users := db.users.save { user with quota := user.quota - amount } }, []) := by
  by_cases positive : 0 < amount
  · simp [reserveFunding, found, alive, positive, debitWallet, bind, Except.bind,
      updateWhere_of_find? _ found, enough]
  · obtain rfl : amount = 0 := by omega
    have same : { user with quota := user.quota - 0 } = user := by rw [sub_zero]
    rw [same, save_of_find? found]
    simp [reserveFunding, found, alive]

theorem activeOf_mem (member : sub ∈ activeOf db userId now) :
    db.subscriptions.find? sub.id = some sub ∧ sub.userId = userId ∧ sub.status = .active ∧
      now < sub.endTime := by
  simp only [activeOf, activeSubscriptions, mem_insertionSort, mem_filter,
    Bool.and_eq_true, decide_eq_true_eq] at member
  exact ⟨mem_find? member.1, member.2.1, member.2.2⟩

theorem reserveFunding_subscription (db : Database) (found : db.users.find? user.id = some user)
    (alive : user.deleted = false)
    (ready : ∀ sub ∈ activeOf db user.id context.dbTime, Ready context db.plans sub)
    (range : 0 < amount ∧ amount ≤ maxQuota) :
    (∃ id after reset, Funds context db user amount .subscription after ∧
      reserveFunding context db .subscription user.id amount = .ok (id, after, reset)) ∨
    ((∀ sub ∈ activeOf db user.id context.dbTime,
        covers amount (current context db.plans sub) = false) ∧
      reserveFunding context db .subscription user.id amount = .error .fundingQuota) := by
  have distinct := activeSubscriptions_distinct db (fun row => row.userId = user.id) context.dbTime
  rcases selectSubscription_picks amount (activeOf db user.id context.dbTime) ready
    (fun sub member => (activeOf_mem member).1) distinct with
    ⟨passed, chosen, reset, picks, picked⟩ | ⟨short, refused⟩
  · obtain ⟨rest, split⟩ := picks.split
    have member : chosen ∈ activeOf db user.id context.dbTime := by
      rw [split]
      exact mem_append_right _ mem_cons_self
    have counters := (ready chosen member).counters
    have select : selectBillingSubscription context db user.id amount = _ := picked
    have present : (db.subscriptions.find? (current context db.plans chosen).id).isSome := by
      rw [current_id, (activeOf_mem member).1]
      rfl
    have charging := chargeSubscription_saved amount (passed.map (current context db.plans)) present
      (by omega)
    refine .inl ⟨chosen.id, _, reset, .subscription picks, ?_⟩
    rw [map_append, map_singleton] at select
    simp only [reserveFunding, select, bind, Except.bind, charging]
    simp [saved, found, alive, current_id]
  · have select : selectBillingSubscription context db user.id amount = _ := refused
    refine .inr ⟨short, ?_⟩
    simp only [reserveFunding, select, bind, Except.bind]

def input (info : RelayInfo) (source : FundingSource) (amount : Int) : ReserveRequest :=
  { reserveRequest info source amount with requestId := trimSpace info.requestId }

theorem reserveToken_cases (db : Database) (source : FundingSource) (nonneg : 0 ≤ amount) :
    (∃ token tokens, db.tokens.find? info.tokenId = some token ∧
      TokenPays context info token amount ∧ TokensAfter context db info amount tokens ∧
      reserveToken context db (input info source amount) =
        .ok (token.unlimitedQuota, { db with tokens })) ∨
    ((¬ ∃ token, db.tokens.find? info.tokenId = some token ∧
        TokenPays context info token amount) ∧
      ∃ cause, reserveToken context db (input info source amount) = .error cause ∧
        billingOperationAPIError cause = .preConsumeTokenQuotaFailed) := by
  have refuses {token : Token} (fails : ¬ TokenPays context info token amount) :
      ¬ ∃ other, some token = some other ∧ TokenPays context info other amount := by
    rintro ⟨other, same, pays⟩
    exact fails (Option.some.inj same ▸ pays)
  simp only [reserveToken, show (input info source amount).tokenId = info.tokenId from rfl,
    show (input info source amount).userId = info.userId from rfl,
    show (input info source amount).tokenKey = info.tokenKey from rfl,
    show (input info source amount).quota = amount from rfl]
  cases found : db.tokens.find? info.tokenId with
  | none => exact .inr ⟨by simp, .tokenInvalid, rfl, rfl⟩
  | some token =>
    simp only [Table.updateWhere, found]
    split_ifs with foreign dead positive accepts
    · exact .inr ⟨refuses fun pays => by
        simp [pays.owner.1, pays.owner.2, pays.key] at foreign, .tokenInvalid, rfl, rfl⟩
    · refine .inr ⟨refuses fun pays => ?_, .tokenInvalid, rfl, rfl⟩
      have := pays.alive
      simp only [pays.enabled, ne_eq, not_true, false_or] at dead
      omega
    · simp only [not_or, Bool.not_eq_true, not_not, not_and, not_lt] at foreign dead
      simp only [Bool.and_eq_true, decide_eq_true_eq] at accepts
      refine .inl ⟨token, _, rfl, ⟨⟨foreign.1, foreign.2.1⟩, foreign.2.2, dead.1, ?_,
        fun _ => accepts.2.2.1, fun _ => accepts.2.2.2⟩, .inr ⟨token, found, rfl⟩, rfl⟩
      have := dead.2
      omega
    · refine .inr ⟨refuses fun pays => accepts ?_, .tokenQuota, rfl, rfl⟩
      simp only [pays.owner.1, pays.owner.2, Bool.not_false, Bool.true_and, decide_eq_true_eq]
      exact ⟨trivial, pays.room positive, pays.quota positive⟩
    · simp only [not_or, Bool.not_eq_true, not_not, not_and, not_lt] at foreign dead
      refine .inl ⟨token, db.tokens, rfl, ⟨⟨foreign.1, foreign.2.1⟩, foreign.2.2, dead.1, ?_,
        fun more => absurd more positive, fun more => absurd more positive⟩,
        .inl ⟨.inr (by omega), rfl⟩, rfl⟩
      have := dead.2
      omega

theorem createOperation_fresh {operation : BillingOperation}
    (fresh : findByRequestId db operation.requestId = none) :
    ∃ operations, createOperation db operation =
      .ok ({ operation with id := nextId BillingOperation.id db.operations.rows },
        { db with operations }) := by
  have unused : nextId BillingOperation.id db.operations.rows ∉
      db.operations.rows.map BillingOperation.id := by
    intro member
    obtain ⟨row, listed, same⟩ := mem_map.mp member
    have := lt_nextId BillingOperation.id listed
    omega
  simp only [createOperation, fresh, Option.isSome_none, Bool.false_eq_true, if_false,
    Table.insert?, unused, dite_false]
  exact ⟨_, rfl⟩

/-- A request that the checks accept and that is not booked yet, of a user who is there. -/
structure Valid (db : Database) (info : RelayInfo) (user : User) : Prop where
  found : db.users.find? user.id = some user
  alive : user.deleted = false
  own : info.userId = user.id ∧ 0 < user.id
  request : trimSpace info.requestId ≠ "" ∧ (trimSpace info.requestId).utf8ByteSize ≤ 64
  fresh : findByRequestId db (trimSpace info.requestId) = none
  token : info.isPlayground = false → 0 < info.tokenId ∧ trimSpace info.tokenKey ≠ ""

theorem Valid.opens (valid : Valid db info user) (range : 0 ≤ amount ∧ amount ≤ maxQuota)
    (positive : source = .subscription → 0 < amount) :
    reserveBillingOperation context db (reserveRequest info source amount) =
      reserveNew context db (input info source amount) source := by
  have named : parseFundingSource (input info source amount).fundingSource = some source := by
    cases source <;> rfl
  have accepted : acceptedSource (input info source amount) = some source := by
    unfold acceptedSource
    simp only [named]
    rw [if_neg]
    simp only [input, reserveRequest, not_or, not_and, not_le, not_lt, Bool.not_eq_true',
      valid.own.1]
    exact ⟨valid.request.1, valid.request.2, valid.own.2, range.1, range.2, positive, valid.token⟩
  have fresh :
      findByRequestId db (trimSpace (reserveRequest info source amount).requestId) = none :=
    valid.fresh
  have same : { reserveRequest info source amount with
      requestId := trimSpace (reserveRequest info source amount).requestId } =
    input info source amount := rfl
  simp only [reserveBillingOperation, same, accepted, fresh]

theorem Valid.reserveNew_eq (valid : Valid db info user) :
    ∃ (operations : Table BillingOperation.id)
      (operation : BillingOperation), operation.fundingSource = source ∧
    reserveNew context db (input info source amount) source =
      (reserveFunding context { db with operations } source user.id amount).bind fun funded =>
        (reserveTokenCharge context funded.2.1 (input info source amount)
          { operation with subscriptionId := funded.1 }).bind fun charged =>
            .ok ⟨charged.1, true, saveOperation charged.2 charged.1, funded.2.2⟩ := by
  let operation : BillingOperation :=
    { id := 0, requestId := trimSpace info.requestId, userId := info.userId,
      tokenId := info.tokenId, tokenCharged := !info.isPlayground, fundingSource := source,
      reservedQuota := amount }
  obtain ⟨operations, created⟩ : ∃ operations, createOperation db operation =
      .ok ({ operation with id := nextId BillingOperation.id db.operations.rows },
        { db with operations }) := createOperation_fresh valid.fresh
  refine ⟨operations, { operation with id := nextId BillingOperation.id db.operations.rows }, rfl,
    ?_⟩
  change (createOperation db operation >>= _) = _
  rw [created, ← valid.own.1]
  rfl

theorem reserveTokenCharge_cases (db : Database) (source : FundingSource) (nonneg : 0 ≤ amount)
    (operation : BillingOperation) :
    (CanPay context db info amount → ∃ charged tokens,
      reserveTokenCharge context db (input info source amount) operation =
        .ok (charged, { db with tokens }) ∧ charged.fundingSource = operation.fundingSource ∧
      TokensAfter context db info amount tokens) ∧
    (¬ CanPay context db info amount → ∃ cause,
      reserveTokenCharge context db (input info source amount) operation = .error cause ∧
        billingOperationAPIError cause = .preConsumeTokenQuotaFailed) := by
  have charges : (input info source amount).tokenCharged = !info.isPlayground := rfl
  unfold reserveTokenCharge CanPay
  rw [charges]
  cases playground : info.isPlayground with
  | true =>
    refine ⟨fun _ => ⟨operation, db.tokens, rfl, rfl, .inl ⟨.inl playground, rfl⟩⟩, fun no => ?_⟩
    simp at no
  | false =>
    simp only [Bool.not_false, if_true, true_implies]
    rcases reserveToken_cases db source nonneg with
      ⟨token, tokens, found, pays, left, reserved⟩ | ⟨refused, cause, failed, code⟩
    · refine ⟨fun _ => ⟨{ operation with
          tokenUnlimited := token.unlimitedQuota, tokenRemainCharged := !token.unlimitedQuota },
        tokens, ?_, rfl, left⟩, fun never => absurd ⟨token, found, pays⟩ never⟩
      rw [reserved]
      rfl
    · refine ⟨fun pays => absurd pays refused, fun _ => ⟨cause, ?_, code⟩⟩
      rw [failed]
      rfl

structure Settles (context : Context) (db : Database) (info : RelayInfo) (user : User)
    (source : FundingSource) (amount : Int) (result : Except ErrorCode Session) : Prop where
  pays : CanPay context db info amount → ∃ session, result = .ok session ∧
    session.operation.fundingSource = source ∧
    Reserves context info user source amount db session.db
  refuses : ¬ CanPay context db info amount → result = .error .preConsumeTokenQuotaFailed

theorem reserveBillingSession_cases (valid : Valid db info user) (source : FundingSource)
    (range : 0 ≤ amount ∧ amount ≤ maxQuota) (positive : source = .subscription → 0 < amount)
    (trusted : Bool) : ∃ operations,
    (∀ cause, reserveFunding context { db with operations } source user.id amount = .error cause →
      reserveBillingSession context db info source amount trusted =
        .error (billingOperationAPIError cause)) ∧
    ∀ id after reset, reserveFunding context { db with operations } source user.id amount =
        .ok (id, after, reset) → after.tokens = db.tokens →
      (∀ left : Database, left.users = after.users → left.subscriptions = after.subscriptions →
        TokensAfter context db info amount left.tokens →
        Reserves context info user source amount db left) →
      Settles context db info user source amount
        (reserveBillingSession context db info source amount trusted) := by
  obtain ⟨operations, operation, named, steps⟩ := valid.reserveNew_eq
  refine ⟨operations, fun cause failing => ?_, fun id after reset funded same reserves => ?_⟩
  · rw [reserveBillingSession, valid.opens range positive, steps, failing]
    rfl
  · obtain ⟨pays, fails⟩ := reserveTokenCharge_cases after source range.1
      { operation with subscriptionId := id }
    have canPay : CanPay context after info amount ↔ CanPay context db info amount := by
      simp only [CanPay, same]
    rw [canPay] at pays fails
    rw [reserveBillingSession, valid.opens range positive, steps, funded]
    refine ⟨fun able => ?_, fun unable => ?_⟩
    · obtain ⟨charged, tokens, paid, source', left⟩ := pays able
      refine ⟨⟨charged, trusted, saveOperation { after with tokens } charged⟩, ?_, ?_, ?_⟩
      · simp only [Except.bind, paid]
      · exact source'.trans named
      · rw [TokensAfter, same] at left
        exact reserves _ rfl rfl left
    · obtain ⟨cause, failed, code⟩ := fails unable
      simp only [Except.bind, failed, code]

def Follows (context : Context) (settings : SessionSettings) (db : Database) (info : RelayInfo)
    (user : User) (amount : Int) (result : Except ErrorCode Session) :
    Option FundingSource → Prop
  | some source => Settles context db info user source
      (reservedAmount settings info user amount source) result
  | none => result = .error .insufficientUserQuota

theorem tryWallet_follows (valid : Valid db info user) (context : Context)
    (range : 0 ≤ amount ∧ amount ≤ maxQuota) :
    Follows context settings db info user amount (tryWallet context settings db info amount)
      (if walletPays user amount then some .wallet else none) := by
  have quota : getUserQuota db info.userId = some user.quota := by
    simp [getUserQuota, valid.own.1, valid.found, valid.alive]
  rw [tryWallet, quota]
  cases pays : walletPays user amount with
  | false =>
    simp only [walletPays, Bool.and_eq_false_iff, decide_eq_false_iff_not] at pays
    exact if_pos (by omega)
  | true =>
    simp only [walletPays, Bool.and_eq_true, decide_eq_true_eq] at pays
    have enough : ¬ (user.quota ≤ 0 ∨ user.quota < amount) := by omega
    simp only [enough, if_false, if_true, Follows, reservedAmount]
    generalize shouldTrustBillingSession settings info user.quota = trusted
    have bounds : 0 ≤ (if trusted then 0 else amount) ∧
        (if trusted then 0 else amount) ≤ maxQuota ∧
        (if trusted then 0 else amount) ≤ user.quota := by
      cases trusted <;> simp <;> omega
    obtain ⟨operations, _, funds⟩ := reserveBillingSession_cases valid .wallet
      ⟨bounds.1, bounds.2.1⟩ (by simp) trusted
    exact funds 0 _ [] (reserveFunding_wallet valid.found valid.alive bounds.1 bounds.2.2) rfl
      fun _ users subscriptions tokens => ⟨users, subscriptions, tokens⟩

theorem trySubscription_follows (valid : Valid db info user)
    (ready : ∀ sub ∈ activeOf db user.id context.dbTime, Ready context db.plans sub)
    (range : 0 ≤ amount ∧ amount ≤ maxQuota) :
    Follows context settings db info user amount (trySubscription context db info amount)
      (if subscriptionPays context db user.id amount then some .subscription else none) := by
  have least : (if amount ≤ 0 then 1 else amount) = max amount 1 := by split <;> omega
  have wide : maxQuota = 2147483647 := rfl
  have bounds : 0 < max amount 1 ∧ max amount 1 ≤ maxQuota := by omega
  rw [trySubscription, least]
  obtain ⟨operations, failing, funds⟩ := reserveBillingSession_cases valid .subscription
    ⟨le_of_lt bounds.1, bounds.2⟩ (fun _ => bounds.1) false
  have opened : ∀ sub ∈ activeOf { db with operations } user.id context.dbTime,
      Ready context db.plans sub := ready
  rcases reserveFunding_subscription { db with operations } valid.found valid.alive opened
    bounds with ⟨id, _, reset, _ | @⟨passed, chosen, picks⟩, done⟩ | ⟨short, refused⟩
  · obtain ⟨rest, split⟩ := picks.split
    have listed : activeOf db user.id context.dbTime = passed ++ chosen :: rest := split
    have pays : subscriptionPays context db user.id amount = true := by
      rw [subscriptionPays, listed]
      exact any_eq_true.mpr ⟨chosen, by simp, picks.enough⟩
    rw [if_pos pays]
    exact funds id _ reset done rfl fun _ users subscriptions tokens => ⟨users, ⟨passed, chosen,
      ⟨⟨rest, listed⟩, picks.short, picks.enough⟩, subscriptions⟩, tokens⟩
  · have none : subscriptionPays context db user.id amount = false := by
      exact any_eq_false.mpr fun sub member => by
        have := short sub member
        simpa using this
    rw [none]
    exact failing _ refused

structure Ordinary (context : Context) (db : Database) (info : RelayInfo) (user : User)
    (amount : Int) : Prop where
  valid : Valid db info user
  ready : ∀ sub ∈ activeOf db user.id context.dbTime, Ready context db.plans sub
  range : 0 ≤ amount ∧ amount ≤ maxQuota
  -- The clocks of the server and the database agree.
  clock : context.time = context.dbTime

theorem Settles.ok_iff (settles : Settles context db info user source amount result) :
    (∃ session, result = .ok session) ↔ CanPay context db info amount := by
  constructor
  · rintro ⟨session, done⟩
    by_contra unable
    rw [settles.refuses unable] at done
    cases done
  · intro able
    obtain ⟨session, done, _⟩ := settles.pays able
    exact ⟨session, done⟩

theorem orElse_settles (settles : Settles context db info user source amount result)
    (second : Unit → Except ErrorCode Session) : orElse result second = result := by
  by_cases able : CanPay context db info amount
  · obtain ⟨session, rfl, _⟩ := settles.pays able
    rfl
  · rw [settles.refuses able]
    rfl

theorem newBillingSession_follows {settings : SessionSettings}
    (ordinary : Ordinary context db (identified settings info) user amount) :
    Follows context settings db (identified settings info) user amount
      (newBillingSession context settings db info amount)
      (chosenSource context db user
        (normalizeBillingPreference (identified settings info).billingPreference) amount) := by
  have inRange : ¬ (amount < 0 ∨ maxQuota < amount) := by
    have := ordinary.range
    omega
  rw [newBillingSession, if_neg inRange]
  generalize identified settings info = info at ordinary ⊢
  have wallet := tryWallet_follows settings ordinary.valid context ordinary.range
  have subscription := trySubscription_follows settings ordinary.valid ordinary.ready
    ordinary.range
  have positive : ¬ user.id ≤ 0 := not_le.mpr ordinary.valid.own.2
  simp only [hasActiveUserSubscription, userActiveSubscriptionsAllowWalletOverflow, positive,
    if_false, ordinary.clock, ordinary.valid.own.1]
  cases normalizeBillingPreference info.billingPreference with
  | walletOnly => exact wallet
  | subscriptionOnly => exact subscription
  | walletFirst =>
    simp only [chosenSource]
    cases pays : walletPays user amount with
    | true =>
      rw [pays] at wallet
      rw [orElse_settles wallet]
      exact wallet
    | false =>
      rw [pays] at wallet
      rw [show tryWallet context settings db info amount = _ from wallet]
      exact subscription
  | subscriptionFirst =>
    simp only [chosenSource]
    cases pays : subscriptionPays context db user.id amount with
    | true =>
      rw [pays] at subscription
      have some : activeOf db user.id context.dbTime ≠ [] := by
        intro none
        simp [subscriptionPays, none] at pays
      simp only [ne_eq, some, not_false_eq_true, decide_true, if_true]
      rw [orElse_settles (show Settles .. from subscription)]
      exact subscription
    | false =>
      rw [pays] at subscription
      rw [show trySubscription context db info amount = _ from subscription]
      by_cases none : activeOf db user.id context.dbTime = []
      · simpa [none] using wallet
      · simp only [ne_eq, none, not_false_eq_true, decide_true, orElse]
        cases (activeOf db user.id context.dbTime).all (·.allowWalletOverflow) with
        | true => simpa using wallet
        | false => rfl

/-- The call succeeds iff a permitted source and the token can pay, and then it reserves from the
first such source. -/
theorem newBillingSession_follows_preference (context : Context) (settings : SessionSettings)
    (db : Database) (info : RelayInfo) (user : User) (amount : Int)
    (ordinary : Ordinary context db (identified settings info) user amount) :
    ((∃ session, newBillingSession context settings db info amount = .ok session) ↔
      ∃ source, chosenSource context db user
          (normalizeBillingPreference (identified settings info).billingPreference) amount =
            some source ∧
        CanPay context db (identified settings info)
          (reservedAmount settings (identified settings info) user amount source)) ∧
    ∀ session, newBillingSession context settings db info amount = .ok session →
      chosenSource context db user
          (normalizeBillingPreference (identified settings info).billingPreference) amount =
        some session.operation.fundingSource ∧
      Reserves context (identified settings info) user session.operation.fundingSource
        (reservedAmount settings (identified settings info) user amount
          session.operation.fundingSource) db session.db := by
  have follows := newBillingSession_follows ordinary
  cases chosen : chosenSource context db user
      (normalizeBillingPreference (identified settings info).billingPreference) amount with
  | none =>
    rw [chosen] at follows
    simp only [Follows] at follows
    simp [follows]
  | some source =>
    rw [chosen] at follows
    have settles : Settles context db (identified settings info) user source _ _ := follows
    refine ⟨?_, fun session done => ?_⟩
    · rw [settles.ok_iff]
      simp
    · have able := settles.ok_iff.mp ⟨session, done⟩
      obtain ⟨made, same, rfl, reserves⟩ := settles.pays able
      rw [done] at same
      cases same
      exact ⟨rfl, reserves⟩

def sessionContext : Context where
  calendar := ⟨fun _ => 0, fun _ => 0, fun _ => 0, fun _ => 0, fun _ _ _ => 0, fun _ _ _ _ => 0⟩
  hashTokenKey key := key
  dbTime := 100
  time := 100

def sessionSettings : SessionSettings := { trustQuota := 5000000, newRequestId := "generated" }

def payer : User := { id := 1, quota := 100 }

def lowSubscription : UserSubscription :=
  { id := 7, userId := 1, planId := 4, amountTotal := 10, amountUsed := 8, endTime := 200 }

def basicPlan : SubscriptionPlan := { id := 4 }

def sessionStore : Database where
  users := .ofRows [payer]
  tokens := .ofRows [{ id := 3, userId := 1, keyHash := "key", remainQuota := 50 }]
  plans := .ofRows [basicPlan]
  subscriptions := .ofRows [lowSubscription]

def sessionInfo : RelayInfo := { requestId := "r1", userId := 1, tokenId := 3, tokenKey := "key" }

theorem sessionStore_ready : ∀ sub ∈ activeOf sessionStore 1 100,
    Ready sessionContext sessionStore.plans sub := by
  have rows : activeOf sessionStore 1 100 = [lowSubscription] := by decide
  have never : normalizeResetPeriod basicPlan.quotaResetPeriod = .never := by decide +kernel
  rw [rows, forall_mem_singleton]
  refine ⟨⟨basicPlan, by decide +kernel, fun base next found => ?_⟩, by decide, by decide,
    by decide, by decide⟩
  simp [nextBoundary, never] at found

/-- The subscription is short, so the wallet pays. -/
theorem sessionStore_follows_preference :
    ∃ session, newBillingSession sessionContext sessionSettings sessionStore sessionInfo 5 =
        .ok session ∧ session.operation.fundingSource = .wallet ∧
      Reserves sessionContext sessionInfo payer .wallet 5 sessionStore session.db := by
  have follows := newBillingSession_follows_preference sessionContext sessionSettings sessionStore
    sessionInfo payer 5 ⟨⟨by decide +kernel, rfl, by decide, by decide +kernel, by decide +kernel,
      fun _ => by decide +kernel⟩, sessionStore_ready, by decide, rfl⟩
  have chosen : chosenSource sessionContext sessionStore payer (normalizeBillingPreference
      (identified sessionSettings sessionInfo).billingPreference) 5 = some .wallet := by
    decide +kernel
  obtain ⟨session, done⟩ := follows.1.mpr ⟨.wallet, chosen, fun _ => ⟨_, rfl,
    ⟨by decide, rfl, rfl, .inl rfl, fun _ => by decide +kernel, fun _ _ => by decide +kernel⟩⟩⟩
  obtain ⟨same, reserves⟩ := follows.2 session done
  have source : session.operation.fundingSource = .wallet := (Option.some.inj same).symm
  rw [source] at reserves
  exact ⟨session, done, source, reserves⟩

def emptyStore : Database := { sessionStore with users := .ofRows [{ id := 1 }] }

def walletOnly : RelayInfo := { sessionInfo with billingPreference := "wallet_only" }

/-- An empty wallet is refused even where nothing is to be reserved and the token can pay. -/
theorem emptyWallet_refused : emptyStore.wallet 1 = some 0 ∧
    CanPay sessionContext emptyStore walletOnly 0 ∧
    newBillingSession sessionContext sessionSettings emptyStore walletOnly 0 =
      .error .insufficientUserQuota :=
  ⟨by decide, fun _ => ⟨_, rfl, ⟨by decide, rfl, rfl, .inl rfl, by decide, by decide⟩⟩, rfl⟩

end NewApi.BillingSession
