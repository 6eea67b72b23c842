import NewApi.TaskBilling
import NewApi.TokenEffects
import Mathlib.Tactic.Linarith

/-!
What a committed billing transaction does to the balances. Each entry point
either leaves every balance and every operation alone, or moves one operation
from one charge to another and moves the wallet, the subscription and the token
by exactly the difference. The conservation results follow from that one fact.
-/

namespace NewApi.BillingLedger

open Runs SubscriptionReset BillingOperations TaskBilling TokenEffects Option
open Table hiding rows

variable (operation : BillingOperation)

/-- What an operation currently holds of its owner's quota. -/
def charge : Int :=
  match operation.status with
  | .reserved | .abandoned => operation.reservedQuota
  | .settled => operation.actualQuota
  | .refunded => 0

def walletShare (user delta : Int) : Int :=
  if operation.fundingSource = .wallet ∧ operation.userId = user then delta else 0

def tokenShare (token delta : Int) : Int :=
  if operation.tokenCharged ∧ operation.tokenId = token then delta else 0

def remainShare (token delta : Int) : Int :=
  if operation.tokenCharged ∧ operation.tokenRemainCharged ∧ operation.tokenId = token then delta
  else 0

def fundedBy (subscription : Int) : Prop :=
  operation.fundingSource = .subscription ∧ operation.subscriptionId = subscription

instance (operation : BillingOperation) (subscription : Int) :
    Decidable (fundedBy operation subscription) :=
  inferInstanceAs (Decidable (_ ∧ _))

/-- The funding side of a move by `delta`, after the subscriptions in `reset` were reset. -/
structure FundingEffect (db after : Database) (operation : BillingOperation) (delta : Int)
    (reset : List Int) : Prop where
  tokens : after.tokens = db.tokens
  operations : after.operations = db.operations
  tasks : after.tasks = db.tasks
  wallet : ∀ user, after.wallet user =
    (db.wallet user).map (· - walletShare operation user delta)
  -- The guards of the wallet UPDATE.
  debit : ∀ user quota, after.wallet user = some quota →
    0 < walletShare operation user delta → 0 ≤ quota
  credit : ∀ user quota, after.wallet user = some quota →
    walletShare operation user delta < 0 → quota ≤ maxQuota
  amountUsed : ∀ id, after.amountUsed id = (db.amountUsed id).map fun used =>
    let base := if id ∈ reset then 0 else used
    if fundedBy operation id ∧ delta ≠ 0 then int64 (base + delta) else base
  nonneg : ∀ id, (∀ used, db.amountUsed id = some used → 0 ≤ used) →
    ∀ used, after.amountUsed id = some used → 0 ≤ used
  account : ∀ user, after.account user = db.account user

structure TokenEffect (db after : Database) (operation : BillingOperation) (delta : Int) :
    Prop where
  users : after.users = db.users
  subscriptions : after.subscriptions = db.subscriptions
  operations : after.operations = db.operations
  tasks : after.tasks = db.tasks
  used : ∀ token, after.usedQuota token =
    (db.usedQuota token).map (· + tokenShare operation token delta)
  remain : ∀ token, after.remainQuota token =
    (db.remainQuota token).map (· - remainShare operation token delta)

structure Moves (db after : Database) (operation : BillingOperation) (delta : Int)
    (reset : List Int) : Prop where
  wallet : ∀ user, after.wallet user =
    (db.wallet user).map (· - walletShare operation user delta)
  debit : ∀ user quota, after.wallet user = some quota →
    0 < walletShare operation user delta → 0 ≤ quota
  credit : ∀ user quota, after.wallet user = some quota →
    walletShare operation user delta < 0 → quota ≤ maxQuota
  used : ∀ token, after.usedQuota token =
    (db.usedQuota token).map (· + tokenShare operation token delta)
  remain : ∀ token, after.remainQuota token =
    (db.remainQuota token).map (· - remainShare operation token delta)
  amountUsed : ∀ id, after.amountUsed id = (db.amountUsed id).map fun used =>
    let base := if id ∈ reset then 0 else used
    if fundedBy operation id ∧ delta ≠ 0 then int64 (base + delta) else base
  -- A counter that is not negative stays so: the guards reject a draw below zero.
  nonneg : ∀ id, (∀ used, db.amountUsed id = some used → 0 ≤ used) →
    ∀ used, after.amountUsed id = some used → 0 ≤ used
  account : ∀ user, after.account user = db.account user

section Shares

variable (operation : BillingOperation) (key : Int)

@[simp] theorem walletShare_zero : walletShare operation key 0 = 0 := by simp [walletShare]

@[simp] theorem tokenShare_zero : tokenShare operation key 0 = 0 := by simp [tokenShare]

@[simp] theorem remainShare_zero : remainShare operation key 0 = 0 := by simp [remainShare]

end Shares

theorem map_id_of_eq {Value : Type*} (value : Option Value) (change : Value → Value)
    (same : ∀ entry, change entry = entry) : value = value.map change := by
  rw [show change = id from funext same, map_id, id]

theorem FundingEffect.none (db : Database) (operation : BillingOperation) :
    FundingEffect db db operation 0 [] := by
  refine ⟨rfl, rfl, rfl, fun user => ?_, ?_, ?_, fun id => ?_, fun id low => low, fun _ => rfl⟩
  · exact map_id_of_eq _ _ (by simp)
  · simp
  · simp
  · exact map_id_of_eq _ _ (by simp)

theorem TokenEffect.none (db : Database) (operation : BillingOperation) :
    TokenEffect db db operation 0 := by
  refine ⟨rfl, rfl, rfl, rfl, fun token => ?_, fun token => ?_⟩
  · exact map_id_of_eq _ _ (by simp)
  · exact map_id_of_eq _ _ (by simp)

variable {operation} {before charged created final : BillingOperation} {db middle after : Database}
  {delta time quota subscriptionId userId target requested : Int} {reset : List Int}
  {rows : OperationRows} {users : Table User.id} {context : Context} {sub : UserSubscription}
  {input : ReserveRequest} {unlimited changed lenient : Bool} {moved : Transition}

theorem TokenEffect.uncharged (db : Database) (free : operation.tokenCharged = false)
    (delta : Int) : TokenEffect db db operation delta := by
  refine ⟨rfl, rfl, rfl, rfl, fun token => ?_, fun token => ?_⟩
  · exact map_id_of_eq _ _ (by simp [tokenShare, free])
  · exact map_id_of_eq _ _ (by simp [remainShare, free])

variable {guard : User → Bool}

theorem FundingEffect.moves (funding : FundingEffect db middle operation delta reset)
    (token : TokenEffect middle after operation delta) : Moves db after operation delta reset := by
  have used := token.used
  have remain := token.remain
  simp only [Database.usedQuota, Database.remainQuota, funding.tokens] at used remain
  -- The other columns are those of the tables that the token's side leaves alone.
  cases after
  cases token.users
  cases token.subscriptions
  exact { funding with used, remain }

structure Loaded (db : Database) (operation : BillingOperation) (rows : OperationRows) : Prop where
  user : db.users.find? operation.userId = some rows.user
  subscription : operation.fundingSource = .subscription →
    ∃ sub, rows.subscription = some sub ∧
      db.subscriptions.find? operation.subscriptionId = some sub
  token : operation.tokenCharged = true →
    ∃ token, rows.token = some token ∧ db.tokens.find? operation.tokenId = some token ∧
      token.userId = operation.userId

theorem loadSubscription_ok {subscription : Option UserSubscription}
    (done : loadSubscription db operation = .ok subscription)
    (source : operation.fundingSource = .subscription) :
    ∃ sub, subscription = some sub ∧
      db.subscriptions.find? operation.subscriptionId = some sub := by
  revert done
  fun_cases loadSubscription db operation
  case case4 sub found =>
    rintro ⟨⟩
    exact ⟨sub, rfl, found⟩
  case case1 wallet => simp [wallet] at source
  all_goals rintro ⟨⟩

theorem loadToken_ok {token : Option Token} (done : loadToken db operation = .ok token)
    (charged : operation.tokenCharged = true) :
    ∃ row, token = some row ∧ db.tokens.find? operation.tokenId = some row ∧
      row.userId = operation.userId := by
  revert done
  fun_cases loadToken db operation
  case case3 row found owner =>
    rintro ⟨⟩
    exact ⟨row, rfl, found, owner⟩
  case case5 free => exact absurd charged free
  all_goals rintro ⟨⟩

theorem loadRows_ok (done : loadBillingOperationRows db operation = .ok rows) :
    Loaded db operation rows := by
  obtain ⟨subscription, first, rest⟩ := bind_ok done
  split at rest
  · simp at rest
  rename_i user found
  obtain ⟨token, second, last⟩ := bind_ok rest
  cases last
  exact ⟨found, loadSubscription_ok first, loadToken_ok second⟩

theorem wallet_updateWhere {id : Int}
    (updated : db.users.updateWhere id guard (fun row => { row with quota := row.quota - delta }) =
      some users) (user : Int) :
    ({ db with users } : Database).wallet user =
      (db.wallet user).map (· - if id = user then delta else 0) := by
  simp only [Database.wallet, map_map]
  rw [map_find?_updateWhere updated (fun _ => rfl)]
  congr 1
  funext row
  by_cases here : id = user
  · simp [here]
  · have other : user ≠ id := fun back => here back.symm
    simp [here, other]

theorem FundingEffect.of_wallet (source : operation.fundingSource = .wallet)
    (updated : db.users.updateWhere operation.userId guard
      (fun row => { row with quota := row.quota - delta }) = some users)
    (debit : ∀ row, guard row = true → 0 < delta → delta ≤ row.quota)
    (credit : ∀ row, guard row = true → delta < 0 → row.quota ≤ maxQuota + delta) :
    FundingEffect db { db with users } operation delta [] := by
  obtain ⟨row, found, passed, -⟩ := updateWhere_eq_some updated
  have stored : ({ db with users } : Database).wallet operation.userId =
      some (row.quota - delta) := by
    simp [Database.wallet, find?_updateWhere updated (fun _ => rfl), found]
  refine ⟨rfl, rfl, rfl, fun user => ?_, fun user quota here positive => ?_,
    fun user quota here negative => ?_, fun id => ?_, fun id low => low, fun user => ?_⟩
  · rw [wallet_updateWhere updated]
    simp [walletShare, source]
  · by_cases same : operation.userId = user
    · subst same
      simp only [walletShare, source, true_and, if_true] at positive
      rw [stored] at here
      cases here
      have := debit row passed positive
      omega
    · simp [walletShare, same] at positive
  · by_cases same : operation.userId = user
    · subst same
      simp only [walletShare, source, true_and, if_true] at negative
      rw [stored] at here
      cases here
      have := credit row passed negative
      omega
    · simp [walletShare, same] at negative
  · refine map_id_of_eq _ _ (fun used => ?_)
    simp [fundedBy, source]
  · simp only [Database.account]
    rw [map_find?_updateWhere updated fun _ => rfl]
    congr 1
    funext row
    exact ite_self _

theorem FundingEffect.of_subscription {subscriptions : Table UserSubscription.id}
    {guard : UserSubscription → Bool} (next : Int → Int)
    (source : operation.fundingSource = .subscription) (moving : delta ≠ 0)
    (before : ResetEffect db middle reset)
    (updated : middle.subscriptions.updateWhere operation.subscriptionId guard
      (fun row => { row with amountUsed := next row.amountUsed }) = some subscriptions)
    (exact_next : ∀ row, guard row = true → next row.amountUsed = int64 (row.amountUsed + delta))
    (low_next : ∀ row, guard row = true → 0 ≤ row.amountUsed → 0 ≤ next row.amountUsed) :
    FundingEffect db { middle with subscriptions } operation delta reset := by
  have noShare : ∀ user, walletShare operation user delta = 0 := by
    intro user
    simp [walletShare, source]
  refine ⟨before.tokens, before.operations, before.tasks, fun user => ?_, ?_, ?_, fun id => ?_,
    fun id low used stored => ?_, fun user => by rw [Database.account, before.users]; rfl⟩
  · simp only [noShare, sub_zero]
    rw [Database.wallet, before.users]
    exact map_id_of_eq _ _ (fun _ => rfl)
  · intro user quota _ positive
    simp [noShare] at positive
  · intro user quota _ negative
    simp [noShare] at negative
  · obtain ⟨row, found, passed, -⟩ := updateWhere_eq_some updated
    have amounts := before.amountUsed id
    simp only [Database.amountUsed] at amounts ⊢
    rw [map_find?_updateWhere updated (fun _ => rfl)]
    by_cases here : operation.subscriptionId = id
    · subst here
      rw [found] at amounts ⊢
      simp only [map_some, if_true, exact_next row passed]
      cases stored : db.subscriptions.find? operation.subscriptionId with
      | none => simp [stored] at amounts
      | some old =>
        simp only [stored, map_some, Option.some.injEq] at amounts ⊢
        simp [fundedBy, source, moving, amounts]
    · have other : id ≠ operation.subscriptionId := fun back => here back.symm
      simp only [other, if_false, fundedBy, here, and_false, false_and]
      exact amounts
  · have middle_low : ∀ value, middle.amountUsed id = some value → 0 ≤ value := by
      intro value found
      rw [before.amountUsed] at found
      obtain ⟨old, present, rfl⟩ := map_eq_some_iff.mp found
      have := low old present
      split <;> omega
    obtain ⟨row, found, passed, -⟩ := updateWhere_eq_some updated
    simp only [Database.amountUsed] at stored middle_low
    rw [map_find?_updateWhere updated (fun _ => rfl)] at stored
    by_cases here : id = operation.subscriptionId
    · subst here
      simp only [found, map_some, if_true, Option.some.injEq] at stored
      subst stored
      exact low_next row passed (middle_low _ (by simp [found]))
    · simp only [here, if_false] at stored
      exact middle_low used stored

theorem applyFunding_effect (moving : delta ≠ 0) (loaded : Loaded db operation rows)
    (done : applyFunding db operation rows delta = .ok after) :
    FundingEffect db after operation delta [] := by
  revert done
  fun_cases applyFunding db operation rows delta
  case case5 source sub present next covered _ subscriptions updated =>
    rintro ⟨⟩
    rcases loaded.subscription source with ⟨row, same, found⟩
    cases present.symm.trans same
    rw [find?_key found] at updated
    refine .of_subscription (fun _ => next) source moving (.none db) updated (fun row passed => ?_)
      (fun row passed _ => ?_)
    · rw [of_decide_eq_true passed]
    · exact not_lt.mp covered
  case case7 source users updated =>
    rintro ⟨⟩
    refine .of_wallet source updated (fun row passed positive => ?_)
      (fun row passed negative => ?_)
    · simpa [positive] using passed
    · have down : ¬ 0 < delta := by omega
      simpa [down] using passed
  all_goals rintro ⟨⟩

theorem TokenEffect.of_update {tokens : Table Token.id} {guard : Token → Bool}
    (charged : operation.tokenCharged = true)
    (updated : db.tokens.updateWhere operation.tokenId guard
      (chargeToken time delta operation.tokenRemainCharged) = some tokens) :
    TokenEffect db { db with tokens } operation delta := by
  refine ⟨rfl, rfl, rfl, rfl, fun token => ?_, fun token => ?_⟩
  · simp only [Database.usedQuota, map_map]
    rw [map_find?_updateWhere updated (fun _ => rfl)]
    congr 1
    funext row
    by_cases here : operation.tokenId = token
    · simp [here, tokenShare, charged, chargeToken]
    · have other : token ≠ operation.tokenId := fun back => here back.symm
      simp [here, other, tokenShare]
  · simp only [Database.remainQuota, map_map]
    rw [map_find?_updateWhere updated (fun _ => rfl)]
    congr 1
    funext row
    by_cases here : operation.tokenId = token
    · cases remaining : operation.tokenRemainCharged <;>
        simp [here, remainShare, charged, chargeToken, remaining]
    · have other : token ≠ operation.tokenId := fun back => here back.symm
      simp [here, other, remainShare]

theorem TokenEffect.restore (effect : TokenEffect db after operation delta) (id time : Int) :
    TokenEffect db (restoreExhaustedTokenIfFunded after id time) operation delta := by
  unfold restoreExhaustedTokenIfFunded
  split
  · exact effect
  rename_i tokens updated
  refine { effect with used := fun token => ?_, remain := fun token => ?_ }
  · rw [← effect.used token]
    simp only [Database.usedQuota]
    rw [map_find?_updateWhere updated (fun _ => rfl)]
    simp
  · rw [← effect.remain token]
    simp only [Database.remainQuota]
    rw [map_find?_updateWhere updated (fun _ => rfl)]
    simp

theorem applyToken_effect (done : applyToken context db operation rows delta = .ok after) :
    TokenEffect db after operation delta ∧ Bills context.time db after := by
  revert done
  fun_cases applyToken context db operation rows delta
  case case3 charged _ _ updated _ =>
    rintro ⟨⟩
    exact ⟨(TokenEffect.of_update charged updated).restore _ _,
      .of_release updated (fun _ => rfl) fun _ => ⟨rfl, rfl⟩⟩
  case case4 charged _ _ updated spends =>
    rintro ⟨⟩
    exact ⟨.of_update charged updated,
      .of_update updated (fun _ => rfl) fun row _ => chargeToken_billed spends row⟩
  case case5 free =>
    rintro ⟨⟩
    exact ⟨.uncharged db (by simpa using free) delta, .of_tokens rfl⟩
  all_goals rintro ⟨⟩

theorem applyDelta_moves (loaded : Loaded db operation rows)
    (done : applyBillingOperationDelta context db operation rows delta = .ok after) :
    Moves db after operation delta [] ∧ Bills context.time db after ∧
      after.operations = db.operations ∧ after.tasks = db.tasks := by
  unfold applyBillingOperationDelta at done
  split at done
  · rename_i still
    cases done
    subst still
    exact ⟨(FundingEffect.none db operation).moves (.none db operation), .of_tokens rfl, rfl, rfl⟩
  · rename_i moving
    obtain ⟨middle, first, second⟩ := bind_ok done
    have funding := applyFunding_effect moving loaded first
    obtain ⟨token, bills⟩ := applyToken_effect second
    exact ⟨funding.moves token, bills.congr funding.tokens.symm rfl,
      token.operations.trans funding.operations, token.tasks.trans funding.tasks⟩

/-! Reservations. -/

theorem selectSubscription_effect (subs : List UserSubscription)
    (done : selectSubscription context quota subs db = .ok (sub, after, reset)) :
    ResetEffect db after reset := by
  induction subs generalizing db reset with
  | nil => simp [selectSubscription] at done
  | cons first rest ih =>
    obtain ⟨plan, -, done⟩ := bind_ok done
    obtain ⟨⟨applied, current, middle⟩, resetting, done⟩ := bind_ok done
    obtain ⟨effect, same⟩ := maybeReset_effect resetting
    simp only [same] at done
    split at done
    · obtain ⟨⟨selected, last, more⟩, later, done⟩ := bind_ok done
      cases done
      exact effect.trans (ih later)
    · cases done
      exact effect

theorem debitWallet_effect (wallet : operation.fundingSource = .wallet) (accepted : 0 ≤ quota)
    (debit : debitWallet db operation.userId quota = .ok after) :
    FundingEffect db after operation quota [] := by
  unfold debitWallet at debit
  split at debit
  · simp at debit
  rename_i updated
  cases debit
  refine .of_wallet wallet updated (fun row passed _ => ?_) (fun row passed negative => ?_)
  · simp only [Bool.and_eq_true, decide_eq_true_eq] at passed
    exact passed.2
  · omega

theorem chargeSubscription_effect (funded : operation.fundingSource = .subscription)
    (positive : 0 < quota) (sameSubscription : operation.subscriptionId = sub.id)
    (effect : ResetEffect db middle reset)
    (charging : chargeSubscription middle sub quota = .ok after) :
    FundingEffect db after operation quota reset := by
  unfold chargeSubscription at charging
  split at charging
  · simp at charging
  rename_i inRange
  split at charging
  · simp at charging
  rename_i updated
  cases charging
  rw [← sameSubscription] at updated
  refine .of_subscription (fun used => used + quota) funded (by omega) effect
    updated (fun row passed => ?_) (fun row passed low => ?_)
  · simp only [ne_eq, not_not] at inRange
    simp only [of_decide_eq_true passed, inRange]
  · omega

theorem reserveFunding_effect {source : FundingSource}
    (sameSource : operation.fundingSource = source) (sameUser : operation.userId = userId)
    (sameSubscription : operation.subscriptionId = subscriptionId) (accepted : 0 ≤ quota)
    (positive : source = .subscription → 0 < quota)
    (done : reserveFunding context db source userId quota = .ok (subscriptionId, after, reset)) :
    FundingEffect db after operation quota reset := by
  subst sameUser
  revert done
  fun_cases reserveFunding context db source operation.userId quota
  case case1 =>
    intro done
    obtain ⟨debited, debit, done⟩ := bind_ok done
    cases done
    exact debitWallet_effect sameSource accepted debit
  case case2 =>
    rintro ⟨⟩
    have zero : quota = 0 := by omega
    subst zero
    exact .none db operation
  case case3 => rintro ⟨⟩
  case case4 =>
    intro done
    obtain ⟨⟨sub, middle, resets⟩, selecting, done⟩ := bind_ok done
    simp only at done
    split at done
    · obtain ⟨charged, charging, done⟩ := bind_ok done
      cases done
      exact chargeSubscription_effect sameSource (positive rfl) sameSubscription
        (selectSubscription_effect _ selecting) charging
    · cases done

theorem reserveToken_effect (accepted : 0 ≤ input.quota) (charged : operation.tokenCharged = true)
    (sameToken : operation.tokenId = input.tokenId)
    (remaining : operation.tokenRemainCharged = !unlimited)
    (done : reserveToken context db input = .ok (unlimited, after)) :
    TokenEffect db after operation input.quota ∧ Bills context.time db after := by
  revert done
  fun_cases reserveToken context db input
  case case5 updated =>
    rintro ⟨⟩
    rw [← remaining, ← sameToken] at updated
    exact ⟨.of_update charged updated,
      .of_update updated (fun _ => rfl) fun row _ => chargeToken_billed (by omega) row⟩
  case case6 =>
    rintro ⟨⟩
    have zero : input.quota = 0 := by omega
    rw [zero]
    exact ⟨.none db operation, .of_tokens rfl⟩
  all_goals rintro ⟨⟩

theorem reserveTokenCharge_effect (accepted : 0 ≤ input.quota)
    (sameCharged : operation.tokenCharged = input.tokenCharged)
    (sameToken : operation.tokenId = input.tokenId)
    (done : reserveTokenCharge context db input operation = .ok (charged, after)) :
    (TokenEffect db after charged input.quota ∧ Bills context.time db after) ∧
      ∃ unlimited remain, charged =
        { operation with tokenUnlimited := unlimited, tokenRemainCharged := remain } := by
  unfold reserveTokenCharge at done
  split at done
  · rename_i charges
    obtain ⟨⟨unlimited, last⟩, token, done⟩ := bind_ok done
    cases done
    exact ⟨reserveToken_effect accepted (sameCharged.trans charges) sameToken rfl token,
      unlimited, !unlimited, rfl⟩
  · rename_i free
    cases done
    exact ⟨⟨.uncharged _ (by simpa [sameCharged] using free) _, .of_tokens rfl⟩, _, _, rfl⟩

theorem createOperation_ok (done : createOperation db operation = .ok (created, after)) :
    created = { operation with id := nextId BillingOperation.id db.operations.rows } ∧
      findByRequestId db operation.requestId = none ∧
      ∃ operations, db.operations.insert? created = some operations ∧
        after = { db with operations } := by
  revert done
  fun_cases createOperation db operation
  case case3 unused operations inserted =>
    simp only [Except.ok.injEq, Prod.mk.injEq]
    rintro ⟨rfl, rfl⟩
    exact ⟨rfl, by simpa using unused, operations, inserted, rfl⟩
  all_goals rintro ⟨⟩

structure SameIdentity (before operation : BillingOperation) : Prop where
  id : operation.id = before.id
  requestId : operation.requestId = before.requestId
  userId : operation.userId = before.userId
  tokenId : operation.tokenId = before.tokenId
  tokenCharged : operation.tokenCharged = before.tokenCharged
  tokenRemainCharged : operation.tokenRemainCharged = before.tokenRemainCharged
  fundingSource : operation.fundingSource = before.fundingSource
  subscriptionId : operation.subscriptionId = before.subscriptionId

def InRange (operation : BillingOperation) : Prop :=
  0 ≤ operation.reservedQuota ∧ operation.reservedQuota ≤ maxQuota ∧
    0 ≤ charge operation ∧ charge operation ≤ maxQuota

/-- A reserved operation was replaced by `operation`, and the balances moved by the difference
of their charges. -/
structure Advanced (db after : Database) (before operation : BillingOperation) : Prop where
  reserved : before.status = .reserved
  identity : SameIdentity before operation
  range : InRange before → InRange operation
  moves : Moves db after before (charge operation - charge before) []
  operations : after.operations = db.operations.save operation

theorem Advanced.of_save (reserved : before.status = .reserved)
    (identity : SameIdentity before operation) (same : charge operation = charge before)
    (sameReserved : operation.reservedQuota = before.reservedQuota) :
    Advanced db (saveOperation db operation) before operation := by
  refine ⟨reserved, identity, fun range => ?_, ?_, rfl⟩
  · rw [InRange, same, sameReserved]
    exact range
  · rw [same, sub_self]
    exact { (FundingEffect.none db before).moves (.none db before) with }

theorem Advanced.of_delta (reserved : before.status = .reserved)
    (identity : SameIdentity before operation)
    (charged : charge operation = before.reservedQuota + delta)
    (range : InRange before → InRange operation) (loaded : Loaded db before rows)
    (done : applyBillingOperationDelta context db before rows delta = .ok middle) :
    Advanced db (saveOperation middle operation) before operation ∧ middle.tasks = db.tasks ∧
      Bills context.time db middle := by
  obtain ⟨moves, bills, operations, tasks⟩ := applyDelta_moves loaded done
  refine ⟨⟨reserved, identity, range, ?_, ?_⟩, tasks, bills⟩
  · have difference : charge operation - charge before = delta := by
      have held : charge before = before.reservedQuota := by simp [charge, reserved]
      omega
    rw [difference]
    exact { moves with }
  · simp [saveOperation, operations]

theorem fundingCapacity_nonneg (operation : BillingOperation) (rows : OperationRows) :
    0 ≤ fundingCapacity operation rows := by
  have cap : (0 : Int) ≤ maxQuota := by decide
  fun_cases fundingCapacity operation rows <;> omega

theorem capacity_nonneg (operation : BillingOperation) (rows : OperationRows) :
    0 ≤ billingOperationAdditionalCapacity operation rows := by
  have funding := fundingCapacity_nonneg operation rows
  rw [billingOperationAdditionalCapacity]
  generalize fundingCapacity operation rows = capacity at funding ⊢
  split
  · exact le_refl 0
  fun_cases tokenCapacity operation rows capacity
  case case4 remaining charged =>
    simp only [charged, true_and, not_le] at remaining
    omega
  all_goals omega

theorem affordableDelta_range (quota : Int) (low : 0 ≤ operation.reservedQuota)
    (quotaLow : 0 ≤ quota) :
    0 ≤ operation.reservedQuota + affordableDelta operation rows quota ∧
      operation.reservedQuota + affordableDelta operation rows quota ≤ quota := by
  have capacity := capacity_nonneg operation rows
  unfold affordableDelta
  simp only
  split <;> omega

theorem adjust_effect (done : adjustBillingOperationReservationTx context db before target =
      .ok (changed, operation, after)) :
    before.status = .reserved ∧
      ((operation = before ∧ after = db) ∨ Advanced db after before operation) ∧
      Bills context.time db after := by
  revert done
  fun_cases adjustBillingOperationReservationTx context db before target
  case case3 open_ _ =>
    rintro ⟨⟩
    have reserved := not_not.mp open_
    exact ⟨reserved, .inl ⟨rfl, rfl⟩, .of_tokens rfl⟩
  case case4 open_ _ _ _ _ limited =>
    simp only [Except.ok.injEq, Prod.mk.injEq]
    rintro ⟨-, rfl, rfl⟩
    have reserved := not_not.mp open_
    exact ⟨reserved, .inr (.of_save reserved ⟨rfl, rfl, rfl, rfl, rfl, rfl, rfl, rfl⟩
      (by simp [charge, limited, reserved]) rfl), .of_tokens rfl⟩
  case case6 inRange open_ _ rows loading _ =>
    intro done
    obtain ⟨middle, applied, done⟩ := bind_ok done
    cases done
    have reserved := not_not.mp open_
    have charged (applied : Int) :
        charge (adjustedOperation before target applied) = before.reservedQuota + applied := by
      simp [charge, adjustedOperation, reserved]
    refine ⟨reserved, And.imp .inr And.right (Advanced.of_delta reserved
      ⟨rfl, rfl, rfl, rfl, rfl, rfl, rfl, rfl⟩ (charged _) (fun range => ?_)
      (loadRows_ok loading) applied)⟩
    obtain ⟨low, high⟩ := affordableDelta_range target range.1 (by omega)
    refine ⟨low, ?_, ?_, ?_⟩
    · change before.reservedQuota + affordableDelta before rows target ≤ maxQuota
      omega
    all_goals rw [charged]; omega
  all_goals rintro ⟨⟩

structure Closed (db : Database) (before : BillingOperation) (moved : Transition) : Prop where
  advanced : Advanced db moved.db before moved.operation
  closed : moved.operation.status ≠ .reserved
  reservedQuota : moved.operation.reservedQuota = before.reservedQuota
  taskId : moved.operation.taskId = before.taskId
  tasks : moved.db.tasks = db.tasks

section

variable (reserved : before.status = .reserved)

include reserved

theorem abandon_effect (cause : StoreError) :
    Closed db before (abandon db before requested cause) ∧
      Bills time db (abandon db before requested cause).db := by
  refine ⟨⟨.of_save reserved ⟨rfl, rfl, rfl, rfl, rfl, rfl, rfl, rfl⟩ ?_ rfl, ?_, rfl, rfl, rfl⟩,
    .of_tokens rfl⟩
  · simp [charge, abandonBillingOperation, reserved]
  · simp [abandon, abandonBillingOperation]

theorem finish_effect (identity : SameIdentity before final)
    (charged : charge final = before.reservedQuota + delta) (range : InRange before → InRange final)
    (closed : final.status ≠ .reserved) (sameReserved : final.reservedQuota = before.reservedQuota)
    (sameTask : final.taskId = before.taskId) (loaded : Loaded db before rows)
    (done : finish context db before rows delta requested final lenient = .ok moved) :
    Closed db before moved ∧ Bills context.time db moved.db := by
  unfold finish at done
  split at done
  · split at done
    · cases done
      exact abandon_effect reserved _
    · simp at done
  · obtain ⟨middle, applied, done⟩ := bind_ok done
    cases done
    obtain ⟨advanced, tasks, bills⟩ :=
      Advanced.of_delta reserved identity charged range loaded applied
    exact ⟨⟨advanced, closed, sameReserved, sameTask, tasks⟩, bills⟩

theorem settleReserved_effect (low : 0 ≤ requested) (high : requested ≤ maxQuota)
    (done : settleReserved context db before requested lenient = .ok moved) :
    Closed db before moved ∧ Bills context.time db moved.db := by
  unfold settleReserved at done
  split at done
  · split at done
    · cases done
      exact abandon_effect reserved _
    · simp at done
  · rename_i rows loading
    have identity (applied : Int) :
        SameIdentity before (settledOperation before requested applied) :=
      ⟨rfl, rfl, rfl, rfl, rfl, rfl, rfl, rfl⟩
    have charged (applied : Int) : charge (settledOperation before requested applied) =
        before.reservedQuota + applied := by
      simp [charge, settledOperation]
    refine finish_effect reserved (identity _) (charged _) (fun range => ?_)
      (by simp [settledOperation]) rfl rfl (loadRows_ok loading) done
    obtain ⟨first, second⟩ := affordableDelta_range requested range.1 low
    refine ⟨range.1, range.2.1, ?_, ?_⟩
    all_goals rw [charged]; omega

theorem refundReserved_effect (done : refundReserved context db before lenient = .ok moved) :
    Closed db before moved ∧ Bills context.time db moved.db := by
  unfold refundReserved at done
  split at done
  · split at done
    · cases done
      exact abandon_effect reserved _
    · simp at done
  · rename_i rows loading
    have identity : SameIdentity before (refundedOperation before) :=
      ⟨rfl, rfl, rfl, rfl, rfl, rfl, rfl, rfl⟩
    have charged : charge (refundedOperation before) = 0 := by simp [charge, refundedOperation]
    refine finish_effect reserved identity (by rw [charged]; ring) (fun range => ?_)
      (by simp [refundedOperation]) rfl rfl (loadRows_ok loading) done
    refine ⟨range.1, range.2.1, ?_, ?_⟩
    · rw [charged]
    · rw [charged]
      decide

end

theorem transition_effect {outcome : Outcome}
    (done : transitionBillingOperationTx context db before requested outcome lenient = .ok moved) :
    ((before.status ≠ .reserved ∧ moved = ⟨false, 0, before, db⟩) ∨ Closed db before moved) ∧
      Bills context.time db moved.db := by
  revert done
  fun_cases transitionBillingOperationTx context db before requested outcome lenient
  case case6 valid status =>
    exact fun done => (settleReserved_effect status (by omega) (by omega) done).imp_left .inr
  case case10 status => exact fun done => (refundReserved_effect status done).imp_left .inr
  case case3 status _ | case7 status | case8 status =>
    rintro ⟨⟩
    exact ⟨.inl ⟨by simp [status], rfl⟩, .of_tokens rfl⟩
  all_goals rintro ⟨⟩

theorem applyFunding_of_validate (moving : delta ≠ 0) (loaded : Loaded db operation rows)
    (valid : validateFunding operation rows delta = .ok ()) :
    ∃ after, applyFunding db operation rows delta = .ok after ∧ after.tokens = db.tokens := by
  unfold validateFunding at valid
  unfold applyFunding
  cases source : operation.fundingSource with
  | subscription =>
    obtain ⟨sub, present, found⟩ := loaded.subscription source
    simp only [source, present] at valid ⊢
    split at valid
    · simp at valid
    rename_i covered
    split at valid
    · simp at valid
    rename_i fits
    have key := find?_key found
    rw [← key] at found
    simp only [covered, fits, if_false]
    rw [updateWhere_of_find? _ found (by simp)]
    exact ⟨_, rfl, rfl⟩
  | wallet =>
    simp only [source] at valid ⊢
    split at valid
    · simp at valid
    rename_i affordable
    split at valid
    · simp at valid
    rename_i room
    have passed : (if 0 < delta then decide (delta ≤ rows.user.quota)
        else decide (rows.user.quota ≤ maxQuota + delta)) = true := by
      split
      · rename_i positive
        simp only [positive, true_and, not_lt] at affordable
        simpa using affordable
      · have negative : delta < 0 := by omega
        simp only [negative, true_and, not_lt] at room
        simpa using room
    rw [updateWhere_of_find? _ loaded.user passed]
    exact ⟨_, rfl, rfl⟩

theorem tokenAccepts_of_validate {token : Token} (charged : operation.tokenCharged = true)
    (present : rows.token = some token) (owner : token.userId = operation.userId)
    (valid : validateToken operation rows delta = .ok ()) :
    tokenAccepts operation delta token = true := by
  simp only [validateToken, charged, if_true, present] at valid
  unfold tokenAccepts
  split at valid
  · rename_i positive
    split at valid
    · simp at valid
    split at valid
    · simp at valid
    rename_i room enough
    simp only [not_lt, not_and] at room enough
    simp only [positive, if_true, decide_eq_true_eq]
    exact ⟨owner, room, enough⟩
  · rename_i down
    split at valid
    · simp at valid
    split at valid
    · simp at valid
    rename_i covered room
    simp only [not_lt, not_and] at covered room
    simp only [down, if_false, decide_eq_true_eq]
    exact ⟨owner, covered, room⟩

theorem applyDelta_of_validate (context : Context) (loaded : Loaded db operation rows)
    (valid : validateBillingOperationDelta operation rows delta = .ok ()) :
    ∃ after, applyBillingOperationDelta context db operation rows delta = .ok after := by
  unfold validateBillingOperationDelta at valid
  unfold applyBillingOperationDelta
  split at valid
  · rename_i still
    exact ⟨db, by simp [still]⟩
  · rename_i moving
    obtain ⟨_, funding, token⟩ := bind_ok valid
    obtain ⟨middle, first, sameTokens⟩ := applyFunding_of_validate moving loaded funding
    simp only [moving, if_false, first, bind, Except.bind]
    unfold applyToken
    cases charged : operation.tokenCharged with
    | false => exact ⟨middle, by simp⟩
    | true =>
      obtain ⟨row, present, found, owner⟩ := loaded.token charged
      have passed := tokenAccepts_of_validate charged present owner token
      rw [← sameTokens] at found
      simp only [if_true, present, isNone_some, Bool.false_eq_true, if_false]
      rw [updateWhere_of_find? _ found passed]
      simp only
      split
      · exact ⟨_, rfl⟩
      · exact ⟨_, rfl⟩

end NewApi.BillingLedger
