import NewApi.BillingLedger

/-!
Statements that change a wallet outside the durable billing operations:
relative updates of the quota column and the consume path built on them. Such a
statement carries no bound of its own. Whether the store rejects a value outside
the 32-bit column depends on the database: MySQL in strict mode and PostgreSQL
do, SQLite stores it.
-/

namespace NewApi

open Table

structure Settings where
  context : Context
  quotaPerUnit : Rat := 500000
  strictColumns : Bool := false
  quotaForInviter : Int := 0
  -- `logger.LogQuota`.
  logQuota : Int → String := toString
  -- The `required,email` rule of the validator package.
  validEmail : String → Bool := fun _ => true

namespace Wallet

open Runs BillingOperations

def minQuota : Int := -2147483648

/-- `decimal.Round(0)`: half away from zero. -/
def roundDecimal (value : Rat) : Int :=
  if 0 ≤ value then (value + 1 / 2).floor else -(-value + 1 / 2).floor

/-- `decimal.Truncate(0)`. -/
def truncateDecimal (value : Rat) : Int :=
  if 0 ≤ value then value.floor else -(-value).floor

/-- Values at the saturation bounds are rejected like those past them. -/
def quotaFromDecimalStrict (value : Rat) : Except StoreError Int :=
  if maxQuota ≤ roundDecimal value ∨ roundDecimal value ≤ minQuota then .error .quotaClamp
  else .ok (roundDecimal value)

def live (row : User) : Bool := !row.deleted

/-- `UPDATE users SET quota = quota + amount WHERE id = user`, over the rows that are
`visible`; `.ok none` reports zero affected rows. -/
def shiftWallet (settings : Settings) (db : Database) (visible : User → Bool)
    (user amount : Int) : Except StoreError (Option Database) :=
  match db.users.find? user with
  | none => .ok none
  | some row =>
    if visible row then
      if settings.strictColumns ∧
          (maxQuota < row.quota + amount ∨ row.quota + amount < minQuota) then
        .error .outOfRange
      else
        let users := db.users.save { row with quota := row.quota + amount }
        .ok (some { db with users })
    else .ok none

variable {db : Database}
variable {amount user quota delta : Int} {visible : User → Bool} {result : Option Database}
  {settings : Settings} {after final : Database}

theorem shiftWallet_ok (done : shiftWallet settings db visible user amount = .ok result) :
    (result = none ∧ ∀ row, db.users.find? user = some row → visible row = false) ∨
      ∃ row, db.users.find? user = some row ∧ visible row ∧
        result =
          some { db with users := db.users.save { row with quota := row.quota + amount } } := by
  unfold shiftWallet at done
  split at done
  case h_1 absent =>
    cases done
    exact .inl ⟨rfl, by simp [absent]⟩
  case h_2 row found =>
    by_cases shown : visible row
    · rw [if_pos shown] at done
      split at done
      · cases done
      cases done
      exact .inr ⟨row, found, shown, rfl⟩
    · rw [if_neg shown] at done
      cases done
      exact .inl ⟨rfl, by simpa [found] using shown⟩

/-- The same where the caller does not look at the number of affected rows. -/
def addQuota (settings : Settings) (db : Database) (user amount : Int) :
    Except StoreError Database := do
  let shifted ← shiftWallet settings db live user amount
  .ok (shifted.getD db)

def negativeQuota : StoreError := .message "quota 不能为负数！"

def increaseUserQuota (settings : Settings) (db : Database) (id quota : Int) :
    Except StoreError Database :=
  if quota < 0 then .error negativeQuota else addQuota settings db id quota

def decreaseUserQuota (settings : Settings) (db : Database) (id quota : Int) :
    Except StoreError Database :=
  if quota < 0 then .error negativeQuota else addQuota settings db id (-quota)

theorem increaseUserQuota_ok {id : Int}
    (done : increaseUserQuota settings db id quota = .ok after) :
    addQuota settings db id quota = .ok after := by
  unfold increaseUserQuota at done
  split at done
  · cases done
  · exact done

theorem decreaseUserQuota_ok {id : Int}
    (done : decreaseUserQuota settings db id quota = .ok after) :
    addQuota settings db id (-quota) = .ok after := by
  unfold decreaseUserQuota at done
  split at done
  · cases done
  · exact done

/-- The token counters are bigint columns. -/
def shiftToken (settings : Settings) (db : Database) (id quota : Int) :
    Except StoreError Database :=
  match db.tokens.find? id with
  | none => .ok db
  | some row =>
    if row.deleted then .ok db
    else if int64 (row.remainQuota - quota) ≠ row.remainQuota - quota ∨
        int64 (row.usedQuota + quota) ≠ row.usedQuota + quota then .error .outOfRange
    else
      let charged :=
        { row with remainQuota := row.remainQuota - quota, usedQuota := row.usedQuota + quota }
      let tokens := db.tokens.save { charged with accessedTime := settings.context.time }
      .ok { db with tokens }

def increaseTokenQuota (settings : Settings) (db : Database) (id quota : Int) :
    Except StoreError Database :=
  if quota < 0 then .error negativeQuota
  else do
    let db ← shiftToken settings db id (-quota)
    if 0 < quota then .ok (restoreExhaustedTokenIfFunded db id settings.context.time)
    else .ok db

def decreaseTokenQuota (settings : Settings) (db : Database) (id quota : Int) :
    Except StoreError Database :=
  if quota < 0 then .error negativeQuota else shiftToken settings db id quota

/-- The usage counter after a delta; a refund larger than the usage stops at zero. -/
def nextUsage (sub : UserSubscription) (delta : Int) : Except StoreError Int :=
  if sub.amountUsed < 0 then .error (.message "subscription used amount is negative")
  else if 0 < delta ∧ maxInt64 - delta < sub.amountUsed then
    .error (.message "subscription used amount overflow")
  else
    let newUsed := if delta < 0 ∧ sub.amountUsed ≤ -delta then 0 else sub.amountUsed + delta
    if 0 < sub.amountTotal ∧ sub.amountTotal < newUsed then
      .error (.message s!"subscription used exceeds total, used={newUsed} total={sub.amountTotal}")
    else .ok newUsed

def storeUsage (db : Database) (sub : UserSubscription) (newUsed : Int) :
    Except StoreError Database :=
  if newUsed = sub.amountUsed then .ok db
  else match db.subscriptions.updateWhere sub.id
      (fun row => decide (row.amountUsed = sub.amountUsed))
      (fun row => { row with amountUsed := newUsed }) with
    | none => .error (.message "subscription usage changed concurrently")
    | some subscriptions => .ok { db with subscriptions }

def applyUserSubscriptionDelta (db : Database) (sub : UserSubscription) (delta : Int) :
    Except StoreError Database :=
  if delta = 0 then .ok db
  else do
    let newUsed ← nextUsage sub delta
    storeUsage db sub newUsed

def postConsumeUserSubscriptionDelta (db : Database) (id delta : Int) :
    Except StoreError Database :=
  if id ≤ 0 then .error (.message "invalid userSubscriptionId")
  else if delta = 0 then .ok db
  else match db.subscriptions.find? id with
    | none => .error .recordNotFound
    | some sub => applyUserSubscriptionDelta db sub delta

/-- The fields of `RelayInfo` the consume path reads. -/
structure ConsumeInfo where
  userId : Int
  tokenId : Int := 0
  billingSource : FundingSource := .wallet
  subscriptionId : Int := 0
  isPlayground : Bool := false
  deriving DecidableEq

def consumeFunding (settings : Settings) (db : Database) (info : ConsumeInfo) (quota : Int) :
    Except StoreError Database :=
  match info.billingSource with
  | .subscription =>
    if info.subscriptionId = 0 then .error (.message "subscription id is missing")
    else if quota ≠ 0 then postConsumeUserSubscriptionDelta db info.subscriptionId quota
    else .ok db
  | .wallet =>
    if 0 < quota then decreaseUserQuota settings db info.userId quota
    else increaseUserQuota settings db info.userId (-quota)

def consumeToken (settings : Settings) (db : Database) (info : ConsumeInfo) (quota : Int) :
    Except StoreError Database :=
  if info.isPlayground then .ok db
  else if 0 < quota then decreaseTokenQuota settings db info.tokenId quota
  else increaseTokenQuota settings db info.tokenId (-quota)

/-- Funding and token are separate statements: a failure of the second leaves the first in
place, so the store is returned together with the error. -/
def postConsumeQuota (settings : Settings) (db : Database) (info : ConsumeInfo) (quota : Int) :
    Database × Option StoreError :=
  match consumeFunding settings db info quota with
  | .error cause => (db, some cause)
  | .ok db =>
    match consumeToken settings db info quota with
    | .error cause => (db, some cause)
    | .ok db => (db, none)

/-- The only wallet that may differ afterwards is the claimed one, by the claimed amount. -/
def Writes (db after : Database) (claimed : Option (Int × Int)) : Prop :=
  ∀ user quota, after.wallet user = some quota →
    db.wallet user = some quota ∨
      ∃ amount, claimed = some (user, amount) ∧ db.wallet user = some (quota - amount)

section Effects

variable {claimed : Option (Int × Int)} {row old : User} {info : ConsumeInfo}

theorem Writes.of_same (same : ∀ user, after.wallet user = db.wallet user) :
    Writes db after claimed := by
  intro user quota held
  exact .inl (same user ▸ held)

theorem Writes.then_same (writes : Writes db after claimed)
    (same : ∀ user, final.wallet user = after.wallet user) : Writes db final claimed := by
  intro user quota held
  exact writes user quota (same user ▸ held)

theorem Writes.of_users (start : Database) (writes : Writes db after claimed)
    (users : db.users = start.users) : Writes start after claimed := by
  intro user quota held
  simpa only [Database.wallet, users] using writes user quota held

theorem wallet_save (found : db.users.find? row.id = some old) :
    ({ db with users := db.users.save row } : Database).wallet user =
      if row.id = user then some row.quota else db.wallet user := by
  by_cases here : row.id = user
  · subst here
    simp [Database.wallet, find?_save_self found]
  · simp [Database.wallet, find?_save_other here, here]

theorem Writes.of_save (row : User) (found : db.users.find? row.id = some old)
    (shifted : row.quota = old.quota + amount) :
    Writes db { db with users := db.users.save row } (some (row.id, amount)) := by
  intro user quota held
  rw [wallet_save found] at held
  by_cases here : row.id = user
  · subst here
    right
    refine ⟨amount, rfl, ?_⟩
    have stored : quota - amount = old.quota := by
      simp only [if_true, Option.some.injEq] at held
      omega
    simp [Database.wallet, found, stored]
  · left
    simpa [here] using held

theorem wallet_of_updateWhere {change : User → User} {users : Table User.id} {id : Int}
    {guard : User → Bool} (updated : db.users.updateWhere id guard change = some users)
    (sameId : ∀ row, (change row).id = row.id) (sameQuota : ∀ row, (change row).quota = row.quota)
    (user : Int) : ({ db with users } : Database).wallet user = db.wallet user := by
  obtain ⟨row, found, -, rfl⟩ := updateWhere_eq_some updated
  have own := find?_key found
  have stored : db.users.find? (change row).id = some row := by
    rw [sameId, own]
    exact found
  rw [wallet_save stored, sameId, own, sameQuota]
  by_cases here : id = user
  · subst here
    simp [Database.wallet, found]
  · simp [here]

theorem shiftWallet_writes (done : shiftWallet settings db visible user amount = .ok result) :
    Writes db (result.getD db) (some (user, amount)) := by
  rcases shiftWallet_ok done with ⟨rfl, -⟩ | ⟨row, found, -, rfl⟩
  · exact .of_same fun _ => rfl
  · have own := find?_key found
    rw [← own] at found ⊢
    exact Writes.of_save { row with quota := row.quota + amount } found rfl

theorem addQuota_writes (done : addQuota settings db user amount = .ok after) :
    Writes db after (some (user, amount)) := by
  obtain ⟨result, shifted, done⟩ := bind_ok done
  cases done
  exact shiftWallet_writes shifted

theorem restoreExhaustedTokenIfFunded_users (id time : Int) :
    (restoreExhaustedTokenIfFunded db id time).users = db.users := by
  rw [TokenEffects.restore_eq]

theorem shiftToken_users {id : Int} (done : shiftToken settings db id quota = .ok after) :
    after.users = db.users := by
  unfold shiftToken at done
  split at done
  · cases done
    rfl
  · split at done
    · cases done
      rfl
    · split at done <;> cases done
      rfl

theorem consumeToken_users (done : consumeToken settings db info quota = .ok after) :
    after.users = db.users := by
  unfold consumeToken decreaseTokenQuota increaseTokenQuota at done
  split at done
  · cases done
    rfl
  · split at done
    · split at done
      · cases done
      · exact shiftToken_users done
    · split at done
      · cases done
      obtain ⟨charged, shifted, done⟩ := bind_ok done
      rw [← shiftToken_users shifted]
      split at done <;> cases done
      · exact restoreExhaustedTokenIfFunded_users _ _
      · rfl

theorem postConsumeUserSubscriptionDelta_users {id : Int}
    (done : postConsumeUserSubscriptionDelta db id delta = .ok after) : after.users = db.users := by
  unfold postConsumeUserSubscriptionDelta applyUserSubscriptionDelta at done
  split at done
  · cases done
  split at done
  · cases done
    rfl
  · split at done
    · cases done
    obtain ⟨newUsed, -, done⟩ := bind_ok done
    unfold storeUsage at done
    split at done
    · cases done
      rfl
    · split at done <;> cases done
      rfl

def consumed (info : ConsumeInfo) (quota : Int) : Option (Int × Int) :=
  match info.billingSource with
  | .subscription => none
  | .wallet => some (info.userId, -quota)

theorem consumeFunding_writes (done : consumeFunding settings db info quota = .ok after) :
    Writes db after (consumed info quota) := by
  unfold consumeFunding at done
  unfold consumed
  split at done
  case h_1 source =>
    refine .of_same fun user => ?_
    split at done
    · cases done
    split at done
    · simp only [Database.wallet, postConsumeUserSubscriptionDelta_users done]
    cases done
    rfl
  case h_2 source =>
    unfold decreaseUserQuota increaseUserQuota at done
    split at done
    · split at done
      · cases done
      · exact addQuota_writes done
    · split at done
      · cases done
      · exact addQuota_writes done

theorem postConsumeQuota_writes (info : ConsumeInfo) (quota : Int) :
    Writes db (postConsumeQuota settings db info quota).1 (consumed info quota) := by
  unfold postConsumeQuota
  split
  · exact .of_same fun _ => rfl
  rename_i funded funding
  have writes := consumeFunding_writes funding
  split
  · exact writes
  rename_i charged charging
  refine writes.then_same fun user => ?_
  simp only [Database.wallet, consumeToken_users charging]

end Effects

end Wallet

end NewApi
