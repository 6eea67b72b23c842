import NewApi.BillingConservation
import NewApi.UserRows

/-!
Interleavings of the writers of one user's row, and what becomes of the wallet.
Billing calls, relative updates and the transfer of invitation quota are single
transactions or statements. `inviteUser` and the callers of `User.Update` read the
row first and write it back later; the rows they hold are part of the state. The
ledgers of reported amounts are history that no step reads.
-/

namespace NewApi.AccountWallet

open Runs BillingConservation Wallet UserRows Table

structure AccountState where
  history : History
  snapshots : List User := []
  -- Reported by successful calls: wallet deltas, transfers and rewards for invitations.
  deltas : Int → Int := fun _ => 0
  transferred : Int → Int := fun _ => 0
  invited : Int → Int := fun _ => 0

inductive AccountStep where
  | billing (call : Call)
  | increase (id quota : Int)
  | decrease (id quota : Int)
  | transfer (id quota : Int)
  | read (id : Int)
  | inviteSave (snapshot : User)
  | update (snapshot : User) (patch : UserPatch) (hash : Option String)
  | edit (request : EditRequest)

def single (user amount other : Int) : Int := if user = other then amount else 0

variable (state : AccountState)

def AccountState.store (db : Database) : AccountState :=
  { state with history := { state.history with db } }

/-- What a billing call took from the wallet of a user, by the books of the operations. -/
def billed (before after : History) (user : Int) : Int :=
  held (walletFunded user) after - held (walletFunded user) before

def bill (context : Context) (state : AccountState) (call : Call) : AccountState :=
  match execute context state.history.db call with
  | .error _ => state
  | .ok done =>
    let history := record state.history done
    { state with
      history
      deltas := fun user => state.deltas user - billed state.history history user }

def shift (id amount : Int) (result : Except StoreError Database) : AccountState :=
  match result with
  | .error _ => state
  | .ok db =>
    { state.store db with deltas := fun user => state.deltas user + single id amount user }

def transfer (settings : Settings) (state : AccountState) (id quota : Int) : AccountState :=
  match transferAffQuotaToQuota settings state.history.db id quota with
  | .error _ => state
  | .ok db =>
    { state.store db with
      transferred := fun user => state.transferred user + single id quota user }

def inviteSave (settings : Settings) (state : AccountState) (snapshot : User) : AccountState :=
  match saveUser settings state.history.db (invitedRow settings snapshot) with
  | .error _ => state
  | .ok db =>
    { state.store db with
      snapshots := state.snapshots.erase snapshot
      invited := fun user =>
        state.invited user + single snapshot.id settings.quotaForInviter user }

def perform (entry : Settings × AccountStep) : AccountState :=
  let settings := entry.1
  let db := state.history.db
  match entry.2 with
  | .billing call => bill settings.context state call
  | .increase id quota => shift state id quota (increaseUserQuota settings db id quota)
  | .decrease id quota => shift state id (-quota) (decreaseUserQuota settings db id quota)
  | .transfer id quota => transfer settings state id quota
  | .read id =>
    match getUserById db id with
    | .error _ => state
    | .ok row => { state with snapshots := row :: state.snapshots }
  | .inviteSave snapshot =>
    if snapshot ∈ state.snapshots then inviteSave settings state snapshot else state
  | .update snapshot patch hash =>
    -- The receiver is a row read before, or a blank one with the request's columns.
    if snapshot ∈ state.snapshots ∨ snapshot = blankUser snapshot.id then
      match updateWithTx settings db (patch.apply snapshot) hash with
      | .error _ => state
      | .ok db => { state.store db with snapshots := state.snapshots.erase snapshot }
    else state
  | .edit request =>
    match editWithTx db request with
    | .error _ => state
    | .ok db => state.store db

def begin (db : Database) : AccountState where
  history := { db }

/-- Every account holds what it held at the start and what successful calls reported. -/
def Accounted (start : Database) (state : AccountState) : Prop :=
  ∀ row ∈ start.users.rows, row.deleted = false →
    ∃ now ∈ state.history.db.users.find? row.id, now.deleted = false ∧
      now.quota = row.quota + state.deltas row.id + state.transferred row.id ∧
      now.affQuota = row.affQuota + state.invited row.id - state.transferred row.id

instance (start : Database) (state : AccountState) : Decidable (Accounted start state) :=
  inferInstanceAs (Decidable (∀ row ∈ start.users.rows, _ → _))

/-- A row is written back only while it still holds the stored balances. -/
def Guarded (entry : Settings × AccountStep) : Prop :=
  match entry.2 with
  | .inviteSave snapshot =>
    snapshot ∈ state.snapshots → ∀ row ∈ state.history.db.users.find? snapshot.id,
      snapshot.quota = row.quota ∧ snapshot.affQuota = row.affQuota
  | .update snapshot _ _ =>
    snapshot ∈ state.snapshots → ∀ row ∈ state.history.db.users.find? snapshot.id,
      snapshot.affQuota = 0 ∨ snapshot.affQuota = row.affQuota
  | _ => True

instance (state : AccountState) (entry : Settings × AccountStep) :
    Decidable (Guarded state entry) := by
  unfold Guarded
  split <;> infer_instance

def Shifts (db after : Database) (quota aff : Int → Int) : Prop :=
  ∀ user row, db.users.find? user = some row → row.deleted = false →
    ∃ now, after.users.find? user = some now ∧ now.deleted = false ∧
      now.quota = row.quota + quota user ∧ now.affQuota = row.affQuota + aff user

variable {db : Database} {old snapshot : User} {amount quota : Int} {settings : Settings}
  {history : History}

theorem Shifts.of_save {id : Int} (row : User) (quota aff : Int) (sameId : row.id = id)
    (found : db.users.find? id = some old) (visible : row.deleted = false)
    (moved : row.quota = old.quota + quota) (reward : row.affQuota = old.affQuota + aff) :
    Shifts db { db with users := db.users.save row } (single id quota) (single id aff) := by
  subst sameId
  intro user before present live
  rw [find?_saved found]
  by_cases same : row.id = user
  · rw [← same, found] at present
    cases present
    exact ⟨row, by rw [if_pos same], visible, by simp [single, same, moved],
      by simp [single, same, reward]⟩
  · exact ⟨before, by rw [if_neg same, present], live, by simp [single, same],
      by simp [single, same]⟩

theorem single_zero (user : Int) : single user 0 = fun _ => 0 := by
  funext other
  simp [single]

section Writers

variable {after : Database}

theorem addQuota_shifts {id : Int} (added : addQuota settings db id amount = .ok after) :
    Shifts db after (single id amount) (fun _ => 0) ∧ after.operations = db.operations := by
  obtain ⟨result, shifted, added⟩ := bind_ok added
  cases added
  rcases shiftWallet_ok shifted with ⟨rfl, hidden⟩ | ⟨row, found, shown, rfl⟩
  · refine ⟨?_, rfl⟩
    intro user row found visible
    by_cases same : id = user
    · have gone := hidden row (same ▸ found)
      simp [live, visible] at gone
    · exact ⟨row, found, visible, by simp [single, same], by simp⟩
  · have visible : row.deleted = false := by simpa [live] using shown
    have sameId : row.id = id := find?_key found
    have shifts := Shifts.of_save { row with quota := row.quota + amount } amount 0 sameId found
      visible rfl (Int.add_zero _).symm
    rw [single_zero] at shifts
    exact ⟨shifts, rfl⟩

theorem transfer_shifts {id : Int}
    (committed : transferAffQuotaToQuota settings db id quota = .ok after) :
    Shifts db after (single id quota) (single id (-quota)) ∧ after.operations = db.operations := by
  obtain ⟨row, found, visible, rfl⟩ := transferAffQuotaToQuota_ok committed
  have sameId : row.id = id := find?_key found
  exact ⟨.of_save (transferredRow row quota) quota (-quota) sameId found visible rfl rfl, rfl⟩

theorem invite_shifts (saved : saveUser settings db (invitedRow settings snapshot) = .ok after)
    (visible : snapshot.deleted = false) (fresh : ∀ row ∈ db.users.find? snapshot.id,
      snapshot.quota = row.quota ∧ snapshot.affQuota = row.affQuota) :
    Shifts db after (fun _ => 0) (single snapshot.id settings.quotaForInviter) ∧
      after.operations = db.operations := by
  have stored := saveUser_ok saved
  subst stored
  refine ⟨?_, rfl⟩
  cases found : db.users.find? snapshot.id with
  | none =>
    -- No row to write: the account is not there for any user to see.
    intro user row present live
    have other : snapshot.id ≠ user := by
      rintro rfl
      rw [found] at present
      cases present
    refine ⟨row, ?_, live, by simp, by simp [single, other]⟩
    have untouched : (invitedRow settings snapshot).id ≠ user := other
    exact (find?_save_other untouched).trans present
  | some row =>
    obtain ⟨quota, aff⟩ := fresh row found
    have shifts := Shifts.of_save (invitedRow settings snapshot) 0 settings.quotaForInviter rfl
      found visible (by simp [invitedRow, quota]) (by simp [invitedRow, aff])
    rw [single_zero] at shifts
    exact shifts

theorem update_shifts {patch : UserPatch} {hash : Option String}
    (committed : updateWithTx settings db (patch.apply snapshot) hash = .ok after)
    (fresh : ∀ row ∈ db.users.find? snapshot.id,
      snapshot.affQuota = 0 ∨ snapshot.affQuota = row.affQuota) :
    Shifts db after (fun _ => 0) (fun _ => 0) ∧ after.operations = db.operations := by
  obtain ⟨row, found, visible, rfl⟩ := updateWithTx_ok committed
  refine ⟨?_, rfl⟩
  have sameId : row.id = snapshot.id := find?_key found
  have aff : (updatedRow row (patch.apply snapshot) hash).affQuota = row.affQuota + 0 := by
    have written : (withHash (patch.apply snapshot) hash).affQuota = snapshot.affQuota := by
      cases hash <;> rfl
    change numberOr (withHash (patch.apply snapshot) hash).affQuota row.affQuota = row.affQuota + 0
    rw [written, numberOr]
    rcases fresh row found with zero | same
    · simp [zero]
    · split <;> omega
  have shifts := Shifts.of_save (updatedRow row (patch.apply snapshot) hash) 0 0 sameId found
    visible (Int.add_zero _).symm aff
  rw [single_zero] at shifts
  exact shifts

theorem edit_shifts {request : EditRequest} (committed : editWithTx db request = .ok after) :
    Shifts db after (fun _ => 0) (fun _ => 0) ∧ after.operations = db.operations := by
  obtain ⟨row, found, visible, rfl⟩ := editWithTx_ok committed
  refine ⟨?_, rfl⟩
  have sameId : row.id = request.id := find?_key found
  have shifts := Shifts.of_save (editedRow row request) 0 0 sameId found visible
    (Int.add_zero _).symm (Int.add_zero _).symm
  rw [single_zero] at shifts
  exact shifts

end Writers

theorem billing_shifts {done : Committed} (sound : Sound history)
    (effect : StepEffect history.db done) :
    Shifts history.db done.db (fun user => -billed history (record history done) user)
      (fun _ => 0) := by
  obtain ⟨operation, delta, moves, books⟩ := effect_moves sound effect
  intro user row found visible
  have wallet := moves.wallet user
  have account := moves.account user
  simp only [Database.wallet, Database.account, found, Option.map_some] at wallet account
  obtain ⟨now, stored, quota⟩ := Option.map_eq_some_iff.mp wallet
  simp only [stored, Option.map_some, Option.some.injEq] at account
  have deleted := congrArg User.deleted account
  have aff := congrArg User.affQuota account
  have share : billed history (record history done) user =
      BillingLedger.walletShare operation user delta := by
    rw [billed, books _ (walletFunded_stable user)]
    simp [BillingLedger.walletShare, walletFunded]
  refine ⟨now, stored, deleted.trans visible, ?_, aff.trans (Int.add_zero _).symm⟩
  change now.quota = row.quota + -billed history (record history done) user
  rw [share, quota, Int.sub_eq_add_neg]

/-! Runs. -/

structure Tracked (start : Database) (state : AccountState) : Prop where
  sound : Sound state.history
  snapshots : ∀ snapshot ∈ state.snapshots, snapshot.deleted = false
  accounted : Accounted start state

theorem tracked_begin (start : Database) : Tracked start (begin start) := by
  refine ⟨?_, ?_, ?_⟩
  · intro id member
    cases member
  · intro snapshot member
    cases member
  · intro row member visible
    exact ⟨row, mem_find? member, visible, by simp [begin], by simp [begin]⟩

section Steps

variable {start : Database} {state}

theorem Accounted.of_shifts {quota aff : Int → Int} {after : AccountState}
    (accounted : Accounted start state)
    (shifts : Shifts state.history.db after.history.db quota aff)
    (quotas : ∀ user, after.deltas user + after.transferred user =
      state.deltas user + state.transferred user + quota user)
    (affs : ∀ user, after.invited user - after.transferred user =
      state.invited user - state.transferred user + aff user) : Accounted start after := by
  intro row member visible
  obtain ⟨middle, stored, live, quotaBefore, affBefore⟩ := accounted row member visible
  obtain ⟨now, present, shown, quotaNow, affNow⟩ := shifts row.id middle stored live
  have quotaSum := quotas row.id
  have affSum := affs row.id
  exact ⟨now, present, shown, by omega, by omega⟩

theorem Sound.of_operations (sound : Sound history) (same : db.operations = history.db.operations) :
    Sound { history with db } := by
  intro id member
  obtain ⟨operation, found, closed⟩ := sound id member
  exact ⟨operation, by simpa only [same] using found, closed⟩

section

variable (tracked : Tracked start state)

include tracked

theorem Tracked.bill (context : Context) (call : Call) :
    Tracked start (bill context state call) := by
  unfold AccountWallet.bill
  split
  · exact tracked
  rename_i done executed
  have effect := (execute_effect executed).1
  refine ⟨sound_record tracked.sound effect, tracked.snapshots, ?_⟩
  apply tracked.accounted.of_shifts (billing_shifts tracked.sound effect)
  · intro user
    simp only
    omega
  · intro user
    simp

theorem Tracked.shift {result : Except StoreError Database} (settings : Settings) {id : Int}
    (wallet : ∀ db, result = .ok db → addQuota settings state.history.db id amount = .ok db) :
    Tracked start (shift state id amount result) := by
  unfold AccountWallet.shift
  split
  · exact tracked
  rename_i db
  obtain ⟨shifts, operations⟩ := addQuota_shifts (wallet db rfl)
  refine ⟨Sound.of_operations tracked.sound operations, tracked.snapshots, ?_⟩
  apply tracked.accounted.of_shifts shifts
  · intro user
    simp only [AccountState.store]
    omega
  · intro user
    simp [AccountState.store]

theorem Tracked.transfer (settings : Settings) (id quota : Int) :
    Tracked start (transfer settings state id quota) := by
  unfold AccountWallet.transfer
  split
  · exact tracked
  rename_i db committed
  obtain ⟨shifts, operations⟩ := transfer_shifts committed
  refine ⟨Sound.of_operations tracked.sound operations, tracked.snapshots, ?_⟩
  apply tracked.accounted.of_shifts shifts
  · intro user
    simp only [AccountState.store]
    omega
  · intro user
    simp only [AccountState.store, single]
    split <;> omega

theorem Tracked.inviteSave (member : snapshot ∈ state.snapshots)
    (fresh : ∀ row ∈ state.history.db.users.find? snapshot.id,
      snapshot.quota = row.quota ∧ snapshot.affQuota = row.affQuota) :
    Tracked start (inviteSave settings state snapshot) := by
  unfold AccountWallet.inviteSave
  split
  · exact tracked
  rename_i db saved
  obtain ⟨shifts, operations⟩ := invite_shifts saved (tracked.snapshots snapshot member) fresh
  refine ⟨Sound.of_operations tracked.sound operations,
    fun other kept => tracked.snapshots other (List.mem_of_mem_erase kept), ?_⟩
  apply tracked.accounted.of_shifts shifts
  · intro user
    simp [AccountState.store]
  · intro user
    simp only [AccountState.store]
    omega

theorem Tracked.store (snapshots : List User)
    (live : ∀ snapshot ∈ snapshots, snapshot.deleted = false)
    (still : Shifts state.history.db db (fun _ => 0) (fun _ => 0) ∧
      db.operations = state.history.db.operations) :
    Tracked start { state.store db with snapshots } := by
  refine ⟨Sound.of_operations tracked.sound still.2, live, ?_⟩
  apply tracked.accounted.of_shifts still.1
  · intro user
    simp [AccountState.store]
  · intro user
    simp [AccountState.store]

theorem Tracked.perform {entry : Settings × AccountStep} (guarded : Guarded state entry) :
    Tracked start (perform state entry) := by
  obtain ⟨settings, step⟩ := entry
  cases step with
  | billing call => exact tracked.bill settings.context call
  | increase id quota => exact tracked.shift settings fun _ => increaseUserQuota_ok
  | decrease id quota => exact tracked.shift settings fun _ => decreaseUserQuota_ok
  | transfer id quota => exact tracked.transfer settings id quota
  | read id =>
    dsimp only [AccountWallet.perform]
    split
    · exact tracked
    rename_i row loaded
    refine ⟨tracked.sound, ?_, tracked.accounted⟩
    rw [List.forall_mem_cons]
    exact ⟨(getUserById_ok loaded).2, tracked.snapshots⟩
  | inviteSave snapshot =>
    dsimp only [AccountWallet.perform]
    split
    · rename_i member
      exact tracked.inviteSave member (guarded member)
    · exact tracked
  | update snapshot patch hash =>
    dsimp only [AccountWallet.perform]
    split
    · rename_i receiver
      split
      · exact tracked
      rename_i committed
      apply tracked.store
      · exact fun other kept => tracked.snapshots other (List.mem_of_mem_erase kept)
      · apply update_shifts committed
        rcases receiver with member | blank
        · exact guarded member
        · intro row _
          left
          rw [blank]
          rfl
    · exact tracked
  | edit request =>
    dsimp only [AccountWallet.perform]
    split
    · exact tracked
    rename_i committed
    exact tracked.store state.snapshots tracked.snapshots (edit_shifts committed)

end

end Steps

/-- In every state of a run whose write-backs meet the condition, no reported amount is lost. -/
theorem guarded_runs_keep_wallet_updates (start : Database)
    (steps : List (Settings × AccountStep))
    (guarded : AllSteps perform Guarded (begin start) steps)
    (reached : List (Settings × AccountStep)) (part : reached <+: steps) :
    Accounted start (run perform (begin start) reached) := by
  obtain ⟨rest, rfl⟩ := part
  have kept : ∀ state entry, Guarded state entry → Tracked start state →
      Tracked start (perform state entry) := fun _ _ guarded tracked => tracked.perform guarded
  exact (run_invariant kept _ reached guarded.of_append (tracked_begin start)).accounted

def sampleSettings : Settings where
  context := sampleContext
  quotaForInviter := 500000

def sampleAccounts : Database where
  users := ⟨[{ id := 1, quota := 100, affQuota := 500000 }], by simp⟩

def sampleRow : User := { id := 1, quota := 100, affQuota := 500000 }

def atSettings (steps : List AccountStep) : List (Settings × AccountStep) :=
  steps.map fun step => (sampleSettings, step)

/-- An invitation is rewarded, then the wallet is charged and the reward transferred, while the
user's invitation code is stored through a row read before both. -/
def sampleSteps : List (Settings × AccountStep) :=
  atSettings
    [.read 1, .inviteSave sampleRow, .decrease 1 40, .transfer 1 500000, .read 1,
      .update { sampleRow with quota := 500060, affCount := 1, affHistoryQuota := 500000 }
        { affCode := some "code" } none]

theorem guarded_runs_keep_wallet_updates_sample :
    (run perform (begin sampleAccounts) sampleSteps).history.db.wallet 1 = some 500060 ∧
      Accounted sampleAccounts (run perform (begin sampleAccounts) sampleSteps) :=
  ⟨by decide +kernel,
    guarded_runs_keep_wallet_updates sampleAccounts sampleSteps (by decide +kernel) sampleSteps
      List.prefix_rfl⟩

/-- A charge between the read and the save of `inviteUser` is undone; quota transferred between
the read and the commit of `User.Update` stays in `aff_quota`. -/
theorem stale_rows_lose_updates :
    ¬ Accounted sampleAccounts (run perform (begin sampleAccounts)
        (atSettings [.read 1, .decrease 1 40, .inviteSave sampleRow])) ∧
      ¬ Accounted sampleAccounts (run perform (begin sampleAccounts)
        (atSettings [.read 1, .transfer 1 500000,
          .update sampleRow { affCode := some "code" } none])) := by
  decide +kernel

end NewApi.AccountWallet
