import NewApi.BillingConservation
import NewApi.MidjourneyMeters
import NewApi.Payments

/-!
The range of the wallets under every function that writes one. The billing
operations, the Midjourney reservation and the purchase from the balance carry
their bound in the WHERE clause of the update; the other writers do not, and
keep the range exactly as far as their callers leave room for the amount.
-/

namespace NewApi.WalletRange

open Runs BillingOperations BillingLedger BillingConservation Wallet Payments
  MidjourneyReservation

inductive Call where
  | billing (call : BillingConservation.Call)
  | reserveMidjourney (input : ReservationRequest)
  | refundMidjourney (id : Int)
  | settleMidjourney (id : Int)
  | createMidjourneyTask (task : Midjourney) (reservationId : Int) (outcome : BillingOutcome)
  | updateMidjourney (task : Midjourney) (fromStatus : String) (outcome : BillingOutcome)
  | recharge (referenceId customerId : String)
  | rechargeCreem (referenceId customerEmail : String)
  | rechargeWaffo (tradeNo : String)
  | rechargeWaffoPancake (tradeNo : String)
  | manualComplete (tradeNo : String)
  | redeem (key : String) (userId : Int)
  | purchase (userId planId : Int) (nonce : String)
  | postConsume (info : ConsumeInfo) (quota : Int)

variable (db : Database)

/-- The store after a transaction: a failed one leaves it as it was. -/
def stored {Result : Type} (read : Result → Database) (result : Except StoreError Result) :
    Database :=
  match result with
  | .error _ => db
  | .ok done => read done

def perform (entry : Settings × Call) : Database :=
  let settings := entry.1
  match entry.2 with
  | .billing call => stored db Committed.db (execute settings.context db call)
  | .reserveMidjourney input =>
    stored db (·.2.2) (reserveMidjourneyQuota settings.context db input)
  | .refundMidjourney id => stored db (·.2) (refundMidjourneyQuotaReservation settings db id)
  | .settleMidjourney id => stored db (·.2) (settleMidjourneyQuotaReservation settings db id)
  | .createMidjourneyTask task reservationId outcome =>
    stored db (·.2) (createMidjourneyTaskWithReservation settings db task reservationId outcome)
  | .updateMidjourney task fromStatus outcome =>
    stored db (·.2.2) (updateWithQuotaReservation settings db task fromStatus outcome)
  | .recharge referenceId customerId =>
    stored db Completion.db (Payments.recharge settings db referenceId customerId)
  | .rechargeCreem referenceId customerEmail =>
    stored db Completion.db (Payments.rechargeCreem settings db referenceId customerEmail)
  | .rechargeWaffo tradeNo => stored db Completion.db (Payments.rechargeWaffo settings db tradeNo)
  | .rechargeWaffoPancake tradeNo =>
    stored db Completion.db (Payments.rechargeWaffoPancake settings db tradeNo)
  | .manualComplete tradeNo => stored db Completion.db (manualCompleteTopUp settings db tradeNo)
  | .redeem key userId => stored db Completion.db (Payments.redeem settings db key userId)
  | .purchase userId planId nonce =>
    stored db id (purchaseSubscriptionWithBalance settings db userId planId nonce)
  | .postConsume info quota => (postConsumeQuota settings db info quota).1

/-- The wallet that a call writes by a statement without a bound, and the amount it adds. -/
def unguarded (settings : Settings) (db : Database) : Call → Option (Int × Int)
  | .billing _ | .reserveMidjourney _ | .settleMidjourney _ | .purchase _ _ _ => none
  | .refundMidjourney id =>
    match db.reservations.find? id with
    | none => none
    | some reservation => reservationCredit reservation .failure
  | .createMidjourneyTask task _ outcome | .updateMidjourney task _ outcome =>
    taskCredit task outcome
  | .recharge referenceId _ => pendingCredit settings moneyValue db referenceId
  | .rechargeCreem referenceId _ => pendingCredit settings creemFlow.value db referenceId
  | .rechargeWaffo tradeNo | .rechargeWaffoPancake tradeNo =>
    pendingCredit settings amountValue db tradeNo
  | .manualComplete tradeNo => pendingCredit settings manualValue db tradeNo
  | .redeem key userId => codeCredit db key userId
  | .postConsume info quota => consumed info quota

def WalletsInRange : Prop :=
  ∀ row ∈ db.users.rows, 0 ≤ row.quota ∧ row.quota ≤ maxQuota

instance (db : Database) : Decidable (WalletsInRange db) :=
  inferInstanceAs (Decidable (∀ row ∈ db.users.rows, 0 ≤ row.quota ∧ row.quota ≤ maxQuota))

def Room (user amount : Int) : Prop :=
  ∀ quota, db.wallet user = some quota →
    (0 < amount → quota ≤ maxQuota - amount) ∧ (amount < 0 → -amount ≤ quota)

def Bounded (entry : Settings × Call) : Prop :=
  ∀ user amount, unguarded entry.1 db entry.2 = some (user, amount) → Room db user amount

theorem walletsInRange_iff :
    WalletsInRange db ↔
      ∀ user quota, db.wallet user = some quota → 0 ≤ quota ∧ quota ≤ maxQuota := by
  constructor
  · intro range user quota held
    obtain ⟨row, found, rfl⟩ := Option.map_eq_some_iff.mp held
    exact range row (Table.find?_mem found).1
  · intro range row member
    apply range row.id row.quota
    simp [Database.wallet, Table.mem_find? member]

section

variable {db} {after : Database} {claimed : Option (Int × Int)}
  {delta amount user userId planId : Int} (range : WalletsInRange db)

include range

theorem writes_keep_range (writes : Writes db after claimed)
    (room : ∀ user amount, claimed = some (user, amount) → Room db user amount) :
    WalletsInRange after := by
  rw [walletsInRange_iff] at range ⊢
  intro user quota held
  rcases writes user quota held with same | ⟨amount, claim, before⟩
  · exact range user quota same
  · have low := range user _ before
    have bound := room user amount claim _ before
    -- A credit can only pass the upper bound, a debit only the lower one.
    rcases lt_trichotomy amount 0 with debit | none | credit
    · have := bound.2 debit
      omega
    · omega
    · have := bound.1 credit
      omega

theorem moves_keep_range {operation : BillingOperation} {reset : List Int}
    (moves : Moves db after operation delta reset) : WalletsInRange after := by
  rw [walletsInRange_iff] at range ⊢
  intro user quota held
  have shifted := moves.wallet user
  rw [held] at shifted
  obtain ⟨before, found, rfl⟩ := Option.map_eq_some_iff.mp shifted.symm
  have old := range user before found
  rcases lt_trichotomy (walletShare operation user delta) 0 with credit | none | debit
  · have := moves.credit user _ held credit
    omega
  · omega
  · have := moves.debit user _ held debit
    omega

theorem billing_keeps_range {context : Context} {call : BillingConservation.Call} {done : Committed}
    (executed : execute context db call = .ok done) : WalletsInRange done.db := by
  cases (execute_effect executed).1 with
  | idle users =>
    intro row member
    rw [users] at member
    exact range row member
  | created operation _ _ _ _ _ moves | adopted operation _ _ _ moves =>
    exact moves_keep_range range moves
  | advanced before operation _ change => exact moves_keep_range range change.moves

theorem debit_keeps_range (debited : after.users = db.users ∨ 0 < amount ∧
      db.users.updateWhere user (fun row => live row && decide (amount ≤ row.quota))
        (fun row => { row with quota := row.quota - amount }) = some after.users) :
    WalletsInRange after := by
  intro other member
  rcases debited with same | ⟨positive, updated⟩
  · rw [same] at member
    exact range other member
  · obtain ⟨row, found, passed, saved⟩ := Table.updateWhere_eq_some updated
    simp only [Bool.and_eq_true, decide_eq_true_eq] at passed
    have old := range row (Table.find?_mem found).1
    rw [saved, Table.save] at member
    obtain ⟨source, present, rfl⟩ := List.mem_map.mp member
    split
    · exact ⟨by simp only; omega, by simp only; omega⟩
    · exact range source present

theorem purchase_keeps_range {settings : Settings} {nonce : String}
    (bought : purchaseSubscriptionWithBalance settings db userId planId nonce = .ok after) :
    WalletsInRange after := by
  unfold purchaseSubscriptionWithBalance at bought
  iterate 5
    split at bought
    · cases bought
  obtain ⟨required, -, bought⟩ := bind_ok bought
  obtain ⟨debited, debiting, bought⟩ := bind_ok bought
  obtain ⟨⟨sub, created⟩, creating, bought⟩ := bind_ok bought
  have paid := debit_keeps_range range ((debitBalance_users debiting).imp_left (congrArg _))
  have kept : Writes debited after none := by
    intro user quota held
    obtain ⟨-, -, granted⟩ := bind_ok creating
    obtain ⟨ends, _, subscriptions, -, -, rfl, -, rfl⟩ := grantSubscription_ok granted
    rw [Database.wallet, createBalanceOrder_users bought] at held
    exact .inl ((upgradeUserGroup_wallet userId _ user).symm.trans held)
  exact writes_keep_range paid kept (by simp)

theorem stored_keeps_range {Result : Type} {read : Result → Database}
    {result : Except StoreError Result}
    (committed : ∀ done, result = .ok done → WalletsInRange (read done)) :
    WalletsInRange (stored db read result) := by
  cases result with
  | error cause => exact range
  | ok done => exact committed done rfl

theorem stored_writes_keep_range {Result : Type} {read : Result → Database}
    {result : Except StoreError Result}
    (room : ∀ user amount, claimed = some (user, amount) → Room db user amount)
    (writes : ∀ done, result = .ok done → Writes db (read done) claimed) :
    WalletsInRange (stored db read result) :=
  stored_keeps_range range fun done committed =>
    writes_keep_range range (writes done committed) room

end

theorem perform_keeps_range (db : Database) (entry : Settings × Call) (bounded : Bounded db entry)
    (range : WalletsInRange db) : WalletsInRange (perform db entry) := by
  obtain ⟨settings, call⟩ := entry
  cases call with
  | billing call =>
    exact stored_keeps_range range fun _ executed => billing_keeps_range range executed
  | reserveMidjourney input =>
    exact stored_keeps_range range fun _ reserved =>
      debit_keeps_range range (MidjourneyMeters.reserve_effect reserved).2.1
  | refundMidjourney id =>
    refine stored_keeps_range range fun done refunded => ?_
    obtain ⟨-, ⟨reservation, found, writes⟩, -⟩ := MidjourneyMeters.close_effect refunded
    apply writes_keep_range range writes
    intro user amount claimed
    apply bounded user amount
    simp only [unguarded, found]
    exact claimed
  | settleMidjourney id =>
    refine stored_keeps_range range fun done settled => ?_
    obtain ⟨-, ⟨reservation, found, writes⟩, -⟩ := MidjourneyMeters.close_effect settled
    apply writes_keep_range range writes
    intro user amount claimed
    simp [reservationCredit] at claimed
  | createMidjourneyTask task reservationId outcome =>
    exact stored_writes_keep_range range bounded fun _ created =>
      (MidjourneyMeters.create_effect created).2.1
  | updateMidjourney task fromStatus outcome =>
    exact stored_writes_keep_range range bounded fun _ updated =>
      (MidjourneyMeters.update_effect updated).2.1
  | recharge referenceId customerId =>
    exact stored_writes_keep_range range bounded fun _ done => (recharge_completes done).writes
  | rechargeCreem referenceId customerEmail =>
    exact stored_writes_keep_range range bounded fun _ done => (rechargeCreem_completes done).writes
  | rechargeWaffo tradeNo =>
    exact stored_writes_keep_range range bounded fun _ done => (rechargeWaffo_completes done).writes
  | rechargeWaffoPancake tradeNo =>
    exact stored_writes_keep_range range bounded fun _ done =>
      (rechargeWaffoPancake_completes done).writes
  | manualComplete tradeNo =>
    exact stored_writes_keep_range range bounded fun _ done =>
      (manualCompleteTopUp_completes done).writes
  | redeem key userId =>
    exact stored_writes_keep_range range bounded fun _ => redeem_writes
  | purchase userId planId nonce =>
    exact stored_keeps_range range fun _ bought => purchase_keeps_range range bought
  | postConsume info quota =>
    exact writes_keep_range range (postConsumeQuota_writes info quota) bounded

/-- In a run in which every statement without a bound leaves room for its amount, every
wallet is in range in every state on the way. -/
theorem bounded_runs_keep_wallets_in_range (start : Database)
    (calls : List (Settings × Call)) (range : WalletsInRange start)
    (bounded : AllSteps perform Bounded start calls) (passed rest : List (Settings × Call))
    (reached : calls = passed ++ rest) : WalletsInRange (run perform start passed) := by
  subst reached
  exact run_invariant perform_keeps_range start passed bounded.of_append range

def sampleSettings : Settings where
  context := sampleContext

def sampleAccount (quota : Int) : Database where
  users := .ofRows [{ id := 1, quota }]
  topUps := .ofRows
    [{ id := 3, userId := 1, amount := 1, tradeNo := "T", paymentProvider := .waffo }]
  redemptions := .ofRows [{ id := 5, key := "K" }]

def sampleWrites : List (Settings × Call) :=
  [(sampleSettings, .redeem "K" 1), (sampleSettings, .postConsume { userId := 1 } 40)]

theorem bounded_runs_keep_wallets_in_range_sample :
    (run perform (sampleAccount 0) sampleWrites).wallet 1 = some 60 ∧
      WalletsInRange (run perform (sampleAccount 0) sampleWrites) := by
  refine ⟨by decide, ?_⟩
  apply bounded_runs_keep_wallets_in_range (sampleAccount 0) sampleWrites (by decide) _
    sampleWrites [] rfl
  refine ⟨?_, ?_, trivial⟩
  · rintro user amount claimed quota held
    cases claimed
    cases held
    decide
  · rintro user amount claimed quota held
    cases claimed
    have balance : quota = 100 := by
      have stored : (perform (sampleAccount 0) (sampleSettings, .redeem "K" 1)).wallet 1 =
          some 100 := by decide
      exact Option.some.inj (held.symm.trans stored)
    subst balance
    decide

/-- A consume call takes a wallet below zero; a completed order or a redeemed code takes one
past the column width where the database stores the value. -/
theorem unguarded_writes_leave_range :
    (WalletsInRange (sampleAccount 0) ∧
      (perform (sampleAccount 0) (sampleSettings, .postConsume { userId := 1 } 1)).wallet 1 =
        some (-1)) ∧
    (WalletsInRange (sampleAccount maxQuota) ∧
      (perform (sampleAccount maxQuota) (sampleSettings, .redeem "K" 1)).wallet 1 =
        some (maxQuota + 100) ∧
      (perform (sampleAccount maxQuota) (sampleSettings, .manualComplete "T")).wallet 1 =
        some (maxQuota + 500000)) := by
  decide +kernel

end NewApi.WalletRange
