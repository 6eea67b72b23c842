import NewApi.SubscriptionPeriods
import Mathlib.Order.Bounds.Basic

/-!
Settling a reserved operation above its reservation. The capacity computation,
the validation and the guarded UPDATEs encode the same limits three times; here
the limits are stated once, as what the funding source and the token can absorb,
and the three encodings are shown to agree with it.
-/

namespace NewApi.Settlement

open Runs BillingOperations TaskBilling BillingLedger SubscriptionPeriods

variable (operation : BillingOperation)

def FundingAbsorbs (rows : OperationRows) (amount : Int) : Prop :=
  match operation.fundingSource with
  | .wallet => amount ≤ rows.user.quota
  | .subscription => ∃ sub, rows.subscription = some sub ∧
      (0 < sub.amountTotal → sub.amountUsed + amount ≤ sub.amountTotal)

def TokenAbsorbs (rows : OperationRows) (amount : Int) : Prop :=
  operation.tokenCharged = true → ∃ token, rows.token = some token ∧
    token.usedQuota + amount ≤ maxQuota ∧
    (operation.tokenRemainCharged = true → amount ≤ token.remainQuota)

/-- Every limit takes the additional amount; nothing is always absorbed. -/
def Absorbs (rows : OperationRows) (amount : Int) : Prop :=
  amount = 0 ∨ (FundingAbsorbs operation rows amount ∧ TokenAbsorbs operation rows amount)

/-- The bigint columns of a loaded subscription. -/
def ColumnRange (rows : OperationRows) : Prop :=
  ∀ sub, rows.subscription = some sub →
    0 ≤ sub.amountUsed ∧ sub.amountUsed ≤ maxInt64 ∧ sub.amountTotal ≤ maxInt64

variable {rows : OperationRows} {amount capacity quota delta balance remain : Int} {operation}
  {context : Context} {after : Database} {current task : Task}

theorem le_fundingCapacity_iff (columns : ColumnRange rows) (positive : 0 < amount)
    (small : amount ≤ maxQuota) :
    amount ≤ fundingCapacity operation rows ↔ FundingAbsorbs operation rows amount := by
  unfold fundingCapacity FundingAbsorbs
  cases operation.fundingSource with
  | wallet =>
    simp only
    split <;> omega
  | subscription =>
    cases present : rows.subscription with
    | none => simp [positive]
    | some sub =>
      obtain ⟨low, high, total⟩ := columns sub present
      simp only [Option.some.injEq, exists_eq_left']
      by_cases limited : 0 < sub.amountTotal
      · have exactly : int64 (sub.amountTotal - sub.amountUsed) =
            sub.amountTotal - sub.amountUsed := by
          refine int64_of_mem ?_ (by omega)
          unfold maxInt64 at high
          omega
        split <;> omega
      · simp only [limited, if_false, false_implies, iff_true]
        exact small

theorem le_tokenCapacity_iff (positive : 0 < amount) :
    amount ≤ tokenCapacity operation rows capacity ↔
      amount ≤ capacity ∧ TokenAbsorbs operation rows amount := by
  unfold tokenCapacity TokenAbsorbs
  cases charged : operation.tokenCharged with
  | false => simp
  | true =>
    cases present : rows.token with
    | none => simp [positive]
    | some token =>
      simp only [if_true, Option.some.injEq, exists_eq_left', forall_const]
      cases remaining : operation.tokenRemainCharged with
      | false =>
        simp only [Bool.false_eq_true, false_and, if_false, false_implies, and_true]
        split <;> omega
      | true =>
        simp only [true_and, if_true, forall_const]
        split
        · omega
        · split <;> omega

theorem le_capacity_iff (columns : ColumnRange rows) (positive : 0 < amount)
    (small : amount ≤ maxQuota) :
    amount ≤ billingOperationAdditionalCapacity operation rows ↔
      FundingAbsorbs operation rows amount ∧ TokenAbsorbs operation rows amount := by
  rw [← le_fundingCapacity_iff columns positive small]
  unfold billingOperationAdditionalCapacity
  simp only
  split
  · constructor
    · intro impossible
      omega
    · rintro ⟨funded, -⟩
      omega
  · exact le_tokenCapacity_iff positive

theorem fundingCapacity_le (operation : BillingOperation) (rows : OperationRows) :
    fundingCapacity operation rows ≤ maxQuota := by
  have cap : (0 : Int) ≤ maxQuota := by decide
  unfold fundingCapacity
  split
  · split
    · exact cap
    split
    · simp only
      split <;> omega
    · exact le_refl _
  · split <;> omega

theorem capacity_le (operation : BillingOperation) (rows : OperationRows) :
    billingOperationAdditionalCapacity operation rows ≤ maxQuota := by
  have cap : (0 : Int) ≤ maxQuota := by decide
  by_contra exceeds
  have positive : 0 < billingOperationAdditionalCapacity operation rows := by omega
  have bound := fundingCapacity_le operation rows
  unfold billingOperationAdditionalCapacity at exceeds positive
  simp only at exceeds positive
  split at exceeds
  · omega
  rename_i some_
  rw [if_neg some_] at positive
  have := ((le_tokenCapacity_iff positive).mp (le_refl _)).1
  omega

theorem capacity_isGreatest (columns : ColumnRange rows) :
    IsGreatest { amount | 0 ≤ amount ∧ amount ≤ maxQuota ∧ Absorbs operation rows amount }
      (billingOperationAdditionalCapacity operation rows) := by
  have low := capacity_nonneg operation rows
  have high := capacity_le operation rows
  constructor
  · refine ⟨low, high, ?_⟩
    by_cases nothing : billingOperationAdditionalCapacity operation rows = 0
    · exact .inl nothing
    · exact .inr ((le_capacity_iff columns (by omega) high).mp (le_refl _))
  · rintro amount ⟨nonneg, small, absorbed⟩
    rcases absorbed with nothing | absorbed
    · omega
    · by_cases positive : 0 < amount
      · exact (le_capacity_iff columns positive small).mpr absorbed
      · omega

structure Settleable (db : Database) (operation : BillingOperation) (rows : OperationRows)
    (quota : Int) : Prop where
  stored : db.operations.find? operation.id = some operation
  positive : 0 < operation.id
  reserved : operation.status = .reserved
  loading : loadBillingOperationRows db operation = .ok rows
  wallet : 0 ≤ rows.user.quota ∧ rows.user.quota ≤ maxQuota
  token : ∀ token, rows.token = some token → 0 ≤ token.usedQuota ∧ token.usedQuota ≤ maxQuota
  columns : ColumnRange rows
  low : 0 ≤ quota
  above : operation.reservedQuota ≤ quota
  high : quota ≤ maxQuota
  -- No increase the limits allow carries the bigint counter past its range.
  counter : ∀ sub amount, rows.subscription = some sub → 0 ≤ amount →
    amount ≤ quota - operation.reservedQuota → Absorbs operation rows amount →
    sub.amountUsed + amount ≤ maxInt64

theorem affordableDelta_eq_min (rows : OperationRows) (above : operation.reservedQuota ≤ quota) :
    affordableDelta operation rows quota = min (quota - operation.reservedQuota)
      (billingOperationAdditionalCapacity operation rows) := by
  have capacity := capacity_nonneg operation rows
  unfold affordableDelta
  simp only
  split <;> omega

variable {db : Database}

theorem affordable_absorbed (columns : ColumnRange rows)
    (above : operation.reservedQuota ≤ quota) :
    0 ≤ affordableDelta operation rows quota ∧
      affordableDelta operation rows quota ≤ quota - operation.reservedQuota ∧
      Absorbs operation rows (affordableDelta operation rows quota) := by
  have capacity := capacity_nonneg operation rows
  have largest := capacity_le operation rows
  rw [affordableDelta_eq_min rows above]
  refine ⟨by omega, by omega, ?_⟩
  by_cases nothing : min (quota - operation.reservedQuota)
      (billingOperationAdditionalCapacity operation rows) = 0
  · exact .inl nothing
  · refine .inr ((le_capacity_iff columns (by omega) (by omega)).mp ?_)
    omega

theorem validateFunding_absorbed (columns : ColumnRange rows) (positive : 0 < delta)
    (funding : FundingAbsorbs operation rows delta)
    (counter : ∀ sub, rows.subscription = some sub → sub.amountUsed + delta ≤ maxInt64) :
    validateFunding operation rows delta = .ok () := by
  unfold validateFunding
  unfold FundingAbsorbs at funding
  cases source : operation.fundingSource with
  | wallet =>
    simp only [source] at funding
    have affordable : ¬ (0 < delta ∧ rows.user.quota < delta) := by omega
    have upward : ¬ (delta < 0 ∧ maxQuota + delta < rows.user.quota) := by omega
    simp only [affordable, upward, if_false]
  | subscription =>
    simp only [source] at funding
    obtain ⟨sub, present, limit⟩ := funding
    have range := columns sub present
    have exactly : int64 (sub.amountUsed + delta) = sub.amountUsed + delta :=
      int64_of_mem (by omega) (counter sub present)
    have covered : ¬ sub.amountUsed + delta < 0 := by omega
    have fits : ¬ (0 < sub.amountTotal ∧ sub.amountTotal < sub.amountUsed + delta) := by
      rintro ⟨limited, exceeds⟩
      have := limit limited
      omega
    simp only [present, exactly, covered, fits, if_false]

theorem validateToken_absorbed (positive : 0 < delta) (token : TokenAbsorbs operation rows delta) :
    validateToken operation rows delta = .ok () := by
  unfold validateToken
  split
  · rename_i charged
    obtain ⟨row, present, used, remain⟩ := token charged
    have room : ¬ maxQuota - delta < row.usedQuota := by omega
    simp only [present]
    rw [if_neg room, if_neg]
    rintro ⟨remaining, short⟩
    have := remain remaining
    omega
  · rfl

theorem validate_absorbed (columns : ColumnRange rows) (nonneg : 0 ≤ delta)
    (absorbed : Absorbs operation rows delta)
    (counter : ∀ sub, rows.subscription = some sub → sub.amountUsed + delta ≤ maxInt64) :
    validateBillingOperationDelta operation rows delta = .ok () := by
  unfold validateBillingOperationDelta
  by_cases still : delta = 0
  · rw [if_pos still]
  · have positive : 0 < delta := by omega
    rcases absorbed with nothing | ⟨funding, token⟩
    · exact absurd nothing still
    · rw [if_neg still, validateFunding_absorbed columns positive funding counter]
      exact validateToken_absorbed positive token

theorem validate_affordable (ready : Settleable db operation rows quota) :
    validateBillingOperationDelta operation rows (affordableDelta operation rows quota) =
      .ok () := by
  obtain ⟨nonneg, within, absorbed⟩ := affordable_absorbed ready.columns ready.above
  apply validate_absorbed ready.columns nonneg absorbed
  intro sub present
  exact ready.counter sub _ present nonneg within absorbed

theorem settleReserved_ready (lenient : Bool) (ready : Settleable db operation rows quota) :
    ∃ after, applyBillingOperationDelta context db operation rows
        (affordableDelta operation rows quota) = .ok after ∧
      settleReserved context db operation quota lenient =
        .ok ⟨true, affordableDelta operation rows quota,
          settledOperation operation quota (affordableDelta operation rows quota),
          saveOperation after
            (settledOperation operation quota (affordableDelta operation rows quota))⟩ := by
  have valid := validate_affordable ready
  obtain ⟨after, applied⟩ := applyDelta_of_validate context (loadRows_ok ready.loading) valid
  refine ⟨after, applied, ?_⟩
  simp only [settleReserved, ready.loading, finish, valid, applied, bind, Except.bind]

structure Collected (operation : BillingOperation) (quota largest : Int)
    (final : BillingOperation) : Prop where
  id : final.id = operation.id
  status : final.status = .settled
  actualQuota : final.actualQuota = min quota (operation.reservedQuota + largest)
  limited : final.settlementLimited = true ↔ final.actualQuota < quota

structure WithinCaps (operation : BillingOperation) (rows : OperationRows) (after : Database) :
    Prop where
  wallet : ∀ balance, after.wallet operation.userId = some balance →
    0 ≤ balance ∧ balance ≤ maxQuota
  used : operation.tokenCharged = true → ∀ used, after.usedQuota operation.tokenId = some used →
    0 ≤ used ∧ used ≤ maxQuota
  remain : operation.tokenCharged = true → ∀ token remain, rows.token = some token →
    after.remainQuota operation.tokenId = some remain → 0 ≤ token.remainQuota → 0 ≤ remain
  amount : operation.fundingSource = .subscription → ∀ sub used, rows.subscription = some sub →
    after.amountUsed operation.subscriptionId = some used →
    0 ≤ used ∧ used ≤ maxInt64 ∧
      (0 < sub.amountTotal → sub.amountUsed ≤ sub.amountTotal → used ≤ sub.amountTotal)

theorem settledOperation_collected (ready : Settleable db operation rows quota) :
    Collected operation quota (billingOperationAdditionalCapacity operation rows)
      (settledOperation operation quota (affordableDelta operation rows quota)) := by
  have applied := affordableDelta_eq_min rows ready.above
  refine ⟨rfl, rfl, ?_, ?_⟩
  · simp only [settledOperation, applied]
    omega
  · simp only [settledOperation, applied, ne_eq, decide_eq_true_eq]
    omega

/-! What an absorbed increase leaves on each balance. -/

section Caps

variable (ready : Settleable db operation rows quota) (moves : Moves db after operation delta [])
  (nonneg : 0 ≤ delta) (absorbed : Absorbs operation rows delta)

include ready moves nonneg absorbed

theorem wallet_capped (stored : after.wallet operation.userId = some balance) :
    0 ≤ balance ∧ balance ≤ maxQuota := by
  rw [moves.wallet, Database.wallet, (loadRows_ok ready.loading).user] at stored
  simp only [Option.map_some, Option.some.injEq] at stored
  have wallet := ready.wallet
  subst stored
  unfold walletShare
  split
  · rename_i owned
    rcases absorbed with nothing | ⟨funding, -⟩
    · omega
    · simp only [FundingAbsorbs, owned.1] at funding
      omega
  · omega

variable {used : Int}

theorem used_capped (charged : operation.tokenCharged = true)
    (stored : after.usedQuota operation.tokenId = some used) : 0 ≤ used ∧ used ≤ maxQuota := by
  obtain ⟨token, present, found, -⟩ := (loadRows_ok ready.loading).token charged
  rw [moves.used, Database.usedQuota, found] at stored
  simp only [Option.map_some, Option.some.injEq, tokenShare, charged, true_and, if_true]
    at stored
  have range := ready.token token present
  rcases absorbed with nothing | ⟨-, limits⟩
  · omega
  · obtain ⟨row, same, headroom, -⟩ := limits charged
    rw [present] at same
    cases same
    omega

omit nonneg in
theorem remain_capped {token : Token} (charged : operation.tokenCharged = true)
    (present : rows.token = some token) (stored : after.remainQuota operation.tokenId = some remain)
    (enough : 0 ≤ token.remainQuota) : 0 ≤ remain := by
  obtain ⟨row, same, found, -⟩ := (loadRows_ok ready.loading).token charged
  rw [present] at same
  cases same
  rw [moves.remain, Database.remainQuota, found] at stored
  simp only [Option.map_some, Option.some.injEq, remainShare, charged, true_and] at stored
  subst stored
  split
  · rename_i remaining
    rcases absorbed with nothing | ⟨-, limits⟩
    · omega
    · obtain ⟨row, same, -, left⟩ := limits charged
      rw [present] at same
      cases same
      have := left remaining.1
      omega
  · omega

theorem amount_capped {sub : UserSubscription} (within : delta ≤ quota - operation.reservedQuota)
    (source : operation.fundingSource = .subscription) (present : rows.subscription = some sub)
    (stored : after.amountUsed operation.subscriptionId = some used) :
    0 ≤ used ∧ used ≤ maxInt64 ∧
      (0 < sub.amountTotal → sub.amountUsed ≤ sub.amountTotal → used ≤ sub.amountTotal) := by
  have range := ready.columns sub present
  have counter := ready.counter sub delta present nonneg within absorbed
  obtain ⟨row, same, found⟩ := (loadRows_ok ready.loading).subscription source
  rw [present] at same
  cases same
  have exactly : int64 (sub.amountUsed + delta) = sub.amountUsed + delta :=
    int64_of_mem (by omega) counter
  rw [moves.amountUsed, Database.amountUsed, found] at stored
  have shape : used = sub.amountUsed + delta := by
    by_cases still : delta = 0
    · simpa [fundedBy, source, still] using stored.symm
    · simpa [fundedBy, source, still, exactly] using stored.symm
  subst shape
  refine ⟨by omega, counter, fun limited fits => ?_⟩
  rcases absorbed with nothing | ⟨funding, -⟩
  · omega
  · simp only [FundingAbsorbs, source] at funding
    obtain ⟨row, same, limit⟩ := funding
    rw [present] at same
    cases same
    exact limit limited

end Caps

section

variable (ready : Settleable db operation rows quota)

include ready

theorem settled_withinCaps
    (applied : applyBillingOperationDelta context db operation rows
      (affordableDelta operation rows quota) = .ok after) : WithinCaps operation rows after := by
  obtain ⟨moves, -⟩ := applyDelta_moves (loadRows_ok ready.loading) applied
  obtain ⟨nonneg, within, absorbed⟩ := affordable_absorbed ready.columns ready.above
  constructor
  · intro balance stored
    exact wallet_capped ready moves nonneg absorbed stored
  · intro charged used stored
    exact used_capped ready moves nonneg absorbed charged stored
  · intro charged token remain present stored enough
    exact remain_capped ready moves absorbed charged present stored enough
  · intro source sub used present stored
    exact amount_capped ready moves nonneg absorbed within source present stored

theorem Settleable.saved (same : after.operations = db.operations) :
    (saveOperation after
      (settledOperation operation quota (affordableDelta operation rows quota))).operations.find?
        operation.id =
      some (settledOperation operation quota (affordableDelta operation rows quota)) := by
  simp only [saveOperation, same]
  exact Table.find?_save_self ready.stored

theorem Settleable.settle_eq :
    settleBillingOperation context db operation.id quota =
      settleReserved context db operation quota false := by
  have positive := ready.positive
  have low := ready.low
  have high := ready.high
  have valid : ¬ (operation.id ≤ 0 ∨ quota < 0 ∨ maxQuota < quota) := by omega
  have quotaRange : ¬ (quota < 0 ∨ maxQuota < quota) := by omega
  unfold settleBillingOperation transitionBillingOperation
  rw [if_neg valid]
  simp only [findOperation, ready.stored, bind, Except.bind, transitionBillingOperationTx]
  rw [if_neg quotaRange]
  simp only [ready.reserved]

end

structure TaskReady (db : Database) (operation : BillingOperation) (task current : Task)
    (fromStatus : TaskStatus) : Prop where
  positive : 0 < task.id
  succeeded : task.status = .success
  stored : db.tasks.find? task.id = some current
  status : current.status = .success ∨
    (isTerminalTaskStatus current.status = false ∧ current.status = fromStatus)
  linked : current.billingOperationId = operation.id
  owner : operation.userId = current.userId
  free : operation.taskId = 0 ∨ operation.taskId = current.id

theorem storeTask_ok (updated : Task) (found : after.tasks.find? current.id = some current) :
    ∃ tasks, storeTask after current updated = .ok { after with tasks } := by
  unfold storeTask updateTask
  split
  · rw [Table.updateWhere_of_find? _ found (by simp)]
    exact ⟨_, rfl⟩
  · exact ⟨after.tasks, rfl⟩

theorem TaskReady.applyTask_eq {fromStatus : TaskStatus}
    (linked : TaskReady db operation task current fromStatus)
    (ready : Settleable db operation rows quota) :
    applyTaskBillingTransition context db task fromStatus quota .settle =
      (settleReserved context db operation quota true >>= writeTask current task quota none) := by
  have quotaRange : ¬ (quota < 0 ∨ maxQuota < quota) := by
    have := ready.low
    have := ready.high
    omega
  have valid : ¬ (task.id ≤ 0 ∨ quota < 0 ∨ maxQuota < quota ∨
      (Outcome.settle = .settle ∧ task.status ≠ .success) ∨
      (Outcome.settle = .refund ∧ task.status ≠ .failure)) := by
    have := linked.positive
    simp only [linked.succeeded, not_or]
    exact ⟨by omega, by omega, by omega, by simp, by simp⟩
  have kept : ¬ (isTerminalTaskStatus current.status = true ∧ current.status ≠ task.status) := by
    rw [linked.succeeded]
    rcases linked.status with done | ⟨open_, -⟩
    · simp [done]
    · simp [open_]
  have moving : ¬ (isTerminalTaskStatus current.status = false ∧
      current.status ≠ fromStatus) := by
    rcases linked.status with done | ⟨-, same⟩
    · simp [done, isTerminalTaskStatus]
    · simp [same]
  have legacy : ¬ isLegacyWithoutRefund current .settle = true := by
    simp [isLegacyWithoutRefund]
  have own : ¬ (operation.userId ≠ current.userId ∨
      (operation.taskId ≠ 0 ∧ operation.taskId ≠ current.id)) := by
    have := linked.owner
    have := linked.free
    omega
  have free : ¬ (operation.taskId ≠ 0 ∧ operation.taskId ≠ current.id) := by
    have := linked.free
    omega
  have loading : loadOrAdoptTaskBillingOperation db current = .ok (operation, false, db) := by
    unfold loadOrAdoptTaskBillingOperation
    rw [if_pos (by rw [linked.linked]; exact ready.positive)]
    simp only [findOperation, linked.linked, ready.stored, bind, Except.bind]
    rw [if_neg own]
  unfold applyTaskBillingTransition
  rw [if_neg valid]
  simp only [linked.stored]
  rw [if_neg kept, if_neg moving, if_neg legacy]
  simp only [loading, bind, Except.bind]
  rw [if_neg free]
  simp only [transitionBillingOperationTx]
  rw [if_neg quotaRange]
  simp only [ready.reserved, Bool.false_eq_true, if_false]

/-- Settling at or above the reservation always commits, collects the requested quota or as much
more than the reservation as every limit absorbs, and keeps every balance within its caps; directly
and through the task's transition. -/
theorem settlement_collects_affordable {quota : Int} (context : Context)
    (ready : Settleable db operation rows quota) :
    ∃ largest, IsGreatest { amount | 0 ≤ amount ∧ amount ≤ maxQuota ∧
        Absorbs operation rows amount } largest ∧
      (∃ moved, settleBillingOperation context db operation.id quota = .ok moved ∧
        Collected operation quota largest moved.operation ∧
        moved.db.operations.find? operation.id = some moved.operation ∧
        WithinCaps operation rows moved.db) ∧
      (∀ task current fromStatus, TaskReady db operation task current fromStatus →
        ∃ done final,
          applyTaskBillingTransition context db task fromStatus quota .settle = .ok done ∧
          done.result.abandoned = false ∧ Collected operation quota largest final ∧
          done.db.operations.find? operation.id = some final ∧
          done.result.finalQuota = final.actualQuota ∧ WithinCaps operation rows done.db) := by
  have collected := settledOperation_collected ready
  refine ⟨_, capacity_isGreatest ready.columns, ?_, ?_⟩
  · obtain ⟨after, applied, settled⟩ := settleReserved_ready false ready
    obtain ⟨-, -, operations, -⟩ := applyDelta_moves (loadRows_ok ready.loading) applied
    have caps := settled_withinCaps ready applied
    exact ⟨_, (ready.settle_eq).trans settled, collected, ready.saved operations,
      caps.wallet, caps.used, caps.remain, caps.amount⟩
  · intro task current fromStatus linked
    obtain ⟨after, applied, settled⟩ := settleReserved_ready true ready
    obtain ⟨-, -, operations, tasks⟩ := applyDelta_moves (loadRows_ok ready.loading) applied
    rw [linked.applyTask_eq ready, settled]
    have found : (saveOperation after (settledOperation operation quota
        (affordableDelta operation rows quota))).tasks.find? current.id = some current := by
      simp only [saveOperation, tasks]
      rw [Table.find?_key linked.stored]
      exact linked.stored
    obtain ⟨stores, storing⟩ := storeTask_ok (finalTask current task operation.id
      (finalQuota (settledOperation operation quota (affordableDelta operation rows quota)))) found
    let final := settledOperation operation quota (affordableDelta operation rows quota)
    let updated := finalTask current task operation.id (finalQuota final)
    let moved : Transition :=
      ⟨true, affordableDelta operation rows quota, final, saveOperation after final⟩
    refine ⟨{ result := transitionResult current updated quota moved, task := updated,
              db := { saveOperation after final with tasks := stores } }, final, ?_, ?_, collected,
      ready.saved operations, ?_, ?_⟩
    · simp only [bind, Except.bind, writeTask]
      rw [show (settledOperation operation quota (affordableDelta operation rows quota)).id =
        operation.id from rfl, storing]
    · simp [transitionResult, moved, final, settledOperation]
    · simp [transitionResult, moved, final, finalQuota, settledOperation]
    · exact { settled_withinCaps ready applied with }

def limitedOperation : BillingOperation :=
  { id := 1, requestId := "r", userId := 1, tokenId := 2, tokenCharged := true,
    tokenRemainCharged := true, reservedQuota := 30 }

def limitedRows : OperationRows where
  user := { id := 1, quota := 70 }
  token := some { id := 2, userId := 1, remainQuota := 50, usedQuota := 35 }

def limitedStore : Database where
  users := ⟨[limitedRows.user], by decide⟩
  tokens := ⟨limitedRows.token.toList, by decide⟩
  operations := ⟨[limitedOperation], by decide⟩

theorem limitedStore_ready : Settleable limitedStore limitedOperation limitedRows 95 where
  stored := by decide
  positive := by decide
  reserved := rfl
  loading := rfl
  wallet := by decide
  token := by
    intro token present
    cases present
    decide
  columns := by
    intro sub present
    cases present
  low := by decide
  above := by decide
  high := by decide
  counter := by
    intro sub amount present
    cases present

theorem settlement_collects_affordable_limited :
    (settleBillingOperation BillingConservation.sampleContext limitedStore 1 95).toOption.map
        (fun moved => moved.operation.actualQuota) = some 80 ∧
      ∃ largest moved,
        settleBillingOperation BillingConservation.sampleContext limitedStore 1 95 = .ok moved ∧
        Collected limitedOperation 95 largest moved.operation := by
  obtain ⟨largest, -, ⟨moved, settled, collected, -⟩, -⟩ :=
    settlement_collects_affordable BillingConservation.sampleContext limitedStore_ready
  exact ⟨by decide, largest, moved, settled, collected⟩

def unlimitedOperation : BillingOperation :=
  { id := 1, requestId := "r", userId := 1, fundingSource := .subscription, subscriptionId := 3,
    reservedQuota := 10 }

def unlimitedRows : OperationRows where
  user := { id := 1 }
  subscription := some { id := 3, userId := 1, planId := 4, amountUsed := maxInt64 }

def unlimitedStore : Database where
  users := ⟨[unlimitedRows.user], by decide⟩
  subscriptions := ⟨unlimitedRows.subscription.toList, by decide⟩
  operations := ⟨[unlimitedOperation], by decide⟩

/-- An unlimited subscription absorbs any amount, but the bigint counter does not: one unit past
its range wraps to a negative sum, and the settlement is rejected. -/
theorem counter_overflow_rejects_settlement :
    ¬ ∀ (context : Context) (db : Database) (operation : BillingOperation) (rows : OperationRows)
      (quota : Int), db.operations.find? operation.id = some operation → 0 < operation.id →
      operation.status = .reserved → loadBillingOperationRows db operation = .ok rows →
      0 ≤ rows.user.quota → rows.user.quota ≤ maxQuota →
      (∀ token, rows.token = some token → 0 ≤ token.usedQuota ∧ token.usedQuota ≤ maxQuota) →
      ColumnRange rows → operation.reservedQuota ≤ quota → quota ≤ maxQuota →
      ∃ moved, settleBillingOperation context db operation.id quota = .ok moved := by
  intro always
  obtain ⟨moved, settled⟩ := always BillingConservation.sampleContext unlimitedStore
    unlimitedOperation unlimitedRows 11 (by decide) (by decide) rfl rfl (by decide) (by decide)
    (by intro token present; cases present)
    (by intro sub present; cases present; decide) (by decide) (by decide)
  cases settled

end NewApi.Settlement
