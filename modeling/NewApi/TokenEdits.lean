import NewApi.TokenStore

/-!
An edit of a token's status against billing transactions on it. `UpdateToken` reads the row,
and `Token.Update` writes remain_quota, unlimited_quota and expired_time back with the status,
so a transaction that commits in between loses its change of remain_quota. Without one, the
edit moves no quota: settling and refunding never read the status, and two stores that differ
in nothing else stay so.
-/

namespace NewApi.TokenEdits

open Runs BillingOperations BillingConservation TokenStore TokenEffects

inductive Restated (id : Int) (row : Token) : Token → Prop
  | mk (status : TokenStatus) (only : row.id ≠ id → status = row.status) :
      Restated id row { row with status }

variable (id : Int)

theorem restated_refl (row : Token) : Restated id row row :=
  .mk row.status fun _ => rfl

def Twins (db other : Database) : Prop :=
  ∃ others, Table.Related (Restated id) db.tokens others ∧ other = { db with tokens := others }

def TwinRows (rows other : OperationRows) : Prop :=
  ∃ token, Option.Rel (Restated id) rows.token token ∧ other = { rows with token }

def TwinTransitions (moved other : Transition) : Prop :=
  ∃ db, Twins id moved.db db ∧ other = { moved with db }

variable {other db : Database} {stored clean token : Token} {edit : TokenEdit} {userId now : Int}

section Operations

variable {id}
variable {rows twinRows : OperationRows} {operation final : BillingOperation}
  {delta requested : Int} {context : Context}

theorem TwinRows.same (twins : TwinRows id rows twinRows) :
    validateBillingOperationDelta operation twinRows delta =
        validateBillingOperationDelta operation rows delta ∧
      affordableDelta operation twinRows delta = affordableDelta operation rows delta := by
  rcases twins with ⟨token, holds, rfl⟩
  rcases rows with ⟨user, subscription, own⟩
  cases holds with
  | none => exact ⟨rfl, rfl⟩
  | some holds =>
    cases holds
    exact ⟨rfl, rfl⟩

variable (twins : Twins id db other)

include twins

theorem loadToken_twins (operation : BillingOperation) :
    Agree (Option.Rel (Restated id)) (loadToken db operation) (loadToken other operation) := by
  rcases twins with ⟨others, related, rfl⟩
  unfold loadToken
  split
  · split
    · exact .error _
    cases found : db.tokens.find? operation.tokenId with
    | none =>
      simp only [related.none found]
      exact .error _
    | some row =>
      rcases related.some found with ⟨twin, present, holds⟩
      simp only [present]
      cases holds with
      | mk status only =>
        split
        · exact .ok (.some (.mk status only))
        · exact .error _
  · exact .ok .none

theorem loadRows_twins (operation : BillingOperation) :
    Agree (TwinRows id) (loadBillingOperationRows db operation)
      (loadBillingOperationRows other operation) := by
  have tokens := loadToken_twins twins operation
  rcases twins with ⟨others, related, rfl⟩
  refine Agree.bind (Agree.refl (fun _ => rfl) (loadSubscription db operation)) ?_
  rintro subscription _ rfl
  simp only
  split
  · exact .error _
  refine tokens.bind ?_
  intro token twin holds
  exact .ok ⟨twin, holds, rfl⟩

theorem applyFunding_twins (same : TwinRows id rows twinRows) :
    Agree (Twins id) (applyFunding db operation rows delta)
      (applyFunding other operation twinRows delta) := by
  rcases twins with ⟨others, related, rfl⟩
  rcases same with ⟨token, -, rfl⟩
  unfold applyFunding
  cases operation.fundingSource with
  | subscription =>
    cases rows.subscription with
    | none => exact .error _
    | some sub =>
      simp only
      iterate 3
        split
        · exact .error _
      · exact .ok ⟨others, related, rfl⟩
  | wallet =>
    simp only
    split
    · exact .error _
    · exact .ok ⟨others, related, rfl⟩

theorem restore_twins (target time : Int) :
    Twins id (restoreExhaustedTokenIfFunded db target time)
      (restoreExhaustedTokenIfFunded other target time) := by
  rcases twins with ⟨others, related, rfl⟩
  have rows : Table.Related (Restated id) (restoreExhaustedTokenIfFunded db target time).tokens
      (restoreExhaustedTokenIfFunded { db with tokens := others } target time).tokens := by
    intro k
    rw [find?_restore, find?_restore]
    cases found : db.tokens.find? k with
    | none =>
      simp only [related.none found]
      exact .none
    | some row =>
      rcases related.some found with ⟨twin, present, holds⟩
      simp only [present, Option.map_some]
      refine .some ?_
      cases holds with
      | mk status only =>
        by_cases here : row.id = id
        · have free (status : TokenStatus) (kept : Token) (same : kept.id = row.id) :
              Restated id kept { kept with status } :=
            .mk status fun apart => absurd (same.trans here) apart
          split <;> split <;> exact free _ _ rfl
        · cases only here
          exact restated_refl id _
  rw [restore_eq, restore_eq] at rows ⊢
  exact ⟨_, rows, rfl⟩

theorem applyToken_twins (same : TwinRows id rows twinRows) :
    Agree (Twins id) (applyToken context db operation rows delta)
      (applyToken context other operation twinRows delta) := by
  rcases twins with ⟨others, related, rfl⟩
  rcases same with ⟨token, holds, rfl⟩
  have missing : token.isNone = rows.token.isNone := by
    rcases rows with ⟨user, subscription, own⟩
    cases holds <;> rfl
  have hits : Option.Rel (Table.Related (Restated id))
      (db.tokens.updateWhere operation.tokenId (tokenAccepts operation delta)
        (chargeToken context.time delta operation.tokenRemainCharged))
      (others.updateWhere operation.tokenId (tokenAccepts operation delta)
        (chargeToken context.time delta operation.tokenRemainCharged)) := by
    apply related.updateWhere
    · intro _
      rfl
    · rintro row _ ⟨status, -⟩
      rfl
    · rintro row _ ⟨status, only⟩
      exact .mk status only
  unfold applyToken
  simp only [missing]
  split
  · split
    · exact .error _
    generalize db.tokens.updateWhere _ _ _ = charged at hits ⊢
    generalize others.updateWhere _ _ _ = twin at hits ⊢
    cases hits with
    | none => exact .error _
    | some tables =>
      simp only
      split
      · exact .ok (restore_twins ⟨_, tables, rfl⟩ _ _)
      · exact .ok ⟨_, tables, rfl⟩
  · exact .ok ⟨others, related, rfl⟩

theorem applyDelta_twins (same : TwinRows id rows twinRows) :
    Agree (Twins id) (applyBillingOperationDelta context db operation rows delta)
      (applyBillingOperationDelta context other operation twinRows delta) := by
  unfold applyBillingOperationDelta
  split
  · exact .ok twins
  refine (applyFunding_twins twins same).bind ?_
  intro funded twin holds
  exact applyToken_twins holds same

theorem saveOperation_twins (saved : BillingOperation) :
    Twins id (saveOperation db saved) (saveOperation other saved) := by
  rcases twins with ⟨others, related, rfl⟩
  exact ⟨others, related, rfl⟩

theorem finish_twins {lenient : Bool} (same : TwinRows id rows twinRows) :
    Agree (TwinTransitions id)
      (finish context db operation rows delta requested final lenient)
      (finish context other operation twinRows delta requested final lenient) := by
  unfold finish
  rw [same.same.1]
  split
  · split
    · exact .ok ⟨_, saveOperation_twins twins _, rfl⟩
    · exact .error _
  · refine (applyDelta_twins twins same).bind ?_
    intro applied twin holds
    exact .ok ⟨_, saveOperation_twins holds final, rfl⟩

theorem transition_twins (requested : Int) (outcome : Outcome) (lenient : Bool) :
    Agree (TwinTransitions id)
      (transitionBillingOperationTx context db operation requested outcome lenient)
      (transitionBillingOperationTx context other operation requested outcome lenient) := by
  have loaded := loadRows_twins twins operation
  unfold transitionBillingOperationTx settleReserved refundReserved
  generalize loadBillingOperationRows db operation = rows at loaded ⊢
  generalize loadBillingOperationRows other operation = twin at loaded ⊢
  split
  · exact .error _
  split
  · split
    · exact .error _
    · exact .ok ⟨other, twins, rfl⟩
  · exact .error _
  · exact .error _
  · cases loaded with
    | error cause =>
      simp only
      split
      · exact .ok ⟨_, saveOperation_twins twins _, rfl⟩
      · exact .error _
    | ok same =>
      simp only [same.same.2]
      exact finish_twins twins same
  · exact .ok ⟨other, twins, rfl⟩
  · exact .ok ⟨other, twins, rfl⟩
  · exact .error _
  · cases loaded with
    | error cause =>
      simp only
      split
      · exact .ok ⟨_, saveOperation_twins twins _, rfl⟩
      · exact .error _
    | ok same => exact finish_twins twins same

theorem transitionOperation_twins (context : Context) (key requested : Int) (outcome : Outcome) :
    Agree (TwinTransitions id) (transitionBillingOperation context db key requested outcome)
      (transitionBillingOperation context other key requested outcome) := by
  unfold transitionBillingOperation
  split
  · exact .error _
  have same : findOperation other key = findOperation db key := by
    rcases twins with ⟨others, -, rfl⟩
    rfl
  rw [same]
  refine Agree.bind (Agree.refl (fun _ => rfl) (findOperation db key)) ?_
  rintro operation _ rfl
  exact transition_twins twins requested outcome false

end Operations

/-! Runs of billing transactions, with an edit among them. -/

def bill (db : Database) (entry : Context × BillingConservation.Call) : Database :=
  match execute entry.1 db entry.2 with
  | .error _ => db
  | .ok done => done.db

/-- The transactions that do not read the status of a token. -/
def Closing : BillingConservation.Call → Prop
  | .settle _ _ | .refund _ => True
  | _ => False

/-- `UpdateToken` reads after the first transactions and writes before the last ones. -/
def billWithEdit (settings : Settings) (now : Int) (db : Database) (userId : Int)
    (edit : TokenEdit) (first middle last : List (Context × BillingConservation.Call)) :
    Database :=
  match readEdit settings now (run bill db first) userId edit with
  | .error _ => run bill db (first ++ middle ++ last)
  | .ok token => run bill (updateToken (run bill db (first ++ middle)) token) last

variable {id}

theorem execute_twins {call : Call} (closing : Closing call) (context : Context)
    (twins : Twins id db other) :
    Agree (fun done twin : Committed => Twins id done.db twin.db) (execute context db call)
      (execute context other call) := by
  cases call with
  | settle key requested =>
    refine (transitionOperation_twins twins context key requested .settle).bind ?_
    rintro moved _ ⟨twin, holds, rfl⟩
    exact .ok holds
  | refund key =>
    refine (transitionOperation_twins twins context key 0 .refund).bind ?_
    rintro moved _ ⟨twin, holds, rfl⟩
    exact .ok holds
  | _ => cases closing

theorem bill_twins {entry : Context × Call} (closing : Closing entry.2)
    (twins : Twins id db other) : Twins id (bill db entry) (bill other entry) := by
  have agree := execute_twins closing entry.1 twins
  unfold bill
  generalize execute entry.1 db entry.2 = done at agree ⊢
  generalize execute entry.1 other entry.2 = twin at agree ⊢
  cases agree with
  | error cause => exact twins
  | ok holds => exact holds

theorem Twins.quotas (twins : Twins id db other) (target : Int) :
    other.remainQuota target = db.remainQuota target ∧
      other.usedQuota target = db.usedQuota target := by
  rcases twins with ⟨others, related, rfl⟩
  simp only [Database.remainQuota, Database.usedQuota]
  cases found : db.tokens.find? target with
  | none => exact ⟨by rw [related.none found], by rw [related.none found]⟩
  | some row =>
    rcases related.some found with ⟨twin, present, holds⟩
    rw [present]
    cases holds
    exact ⟨rfl, rfl⟩

theorem restated_save {tokens : Table Token.id} (found : tokens.find? id = some stored)
    (status : TokenStatus) :
    Table.Related (Restated id) tokens (tokens.save { stored with status }) := by
  have own := Table.find?_key found
  subst own
  intro target
  rw [Table.find?_save]
  by_cases here : stored.id = target
  · subst here
    simp only [found, Option.map_some, if_true]
    exact .some (.mk status fun other => absurd rfl other)
  · simp only [if_neg here]
    exact Table.Related.refl (restated_refl stored.id) tokens target

/-- The edited row is still there, with its credential, expiry and flags. -/
def Framed (clean : Token) (db : Database) : Prop :=
  ∃ row, db.tokens.find? clean.id = some row ∧ frame row = frame clean

theorem bill_framed (db : Database) (entry : Context × BillingConservation.Call)
    (framed : Framed clean db) : Framed clean (bill db entry) := by
  unfold bill
  split
  · exact framed
  rename_i done executed
  rcases framed with ⟨row, found, same⟩
  rcases (execute_effect executed).2.some found with ⟨next, present, billed⟩
  exact ⟨next, present, billed.frame.trans same⟩

theorem readEdit_clean {settings : Settings}
    (read : readEdit settings now db userId edit = .ok token) :
    ∃ clean, db.tokens.find? edit.id = some clean ∧ clean.deleted = false ∧
      token = applyEdit edit clean := by
  rcases bind_ok read with ⟨-, -, read⟩
  rcases bind_ok read with ⟨clean, found, read⟩
  rcases bind_ok read with ⟨-, -, read⟩
  cases read
  unfold getTokenByIds at found
  split at found
  · cases found
  split at found
  · cases found
  split at found
  · rename_i row present own
    cases found
    exact ⟨clean, present, own.2, rfl⟩
  · cases found

theorem updateToken_row (statusOnly : edit.statusOnly = true) (kept : clean.deleted = false)
    (found : db.tokens.find? clean.id = some stored) (same : frame stored = frame clean)
    (unmoved : stored.remainQuota = clean.remainQuota) :
    updateToken db (applyEdit edit clean) =
      { db with tokens := db.tokens.save { stored with status := edit.status } } := by
  rcases frame_columns same with ⟨-, -, -, expiredTime, unlimited, deleted⟩
  have hit : db.tokens.updateWhere clean.id (fun row => !row.deleted) (fun row =>
      { row with
        status := edit.status
        expiredTime := clean.expiredTime
        remainQuota := clean.remainQuota
        unlimitedQuota := clean.unlimitedQuota }) =
      some (db.tokens.save { stored with status := edit.status }) := by
    rw [Table.updateWhere_of_find? _ found (by simp only [deleted, kept, Bool.not_false]),
      ← expiredTime, ← unmoved, ← unlimited]
  simp only [updateToken, applyEdit, statusOnly, if_true, hit]

/-- The edit moves no quota when no transaction has moved remain_quota between its read and its
write, and when it keeps the status or only settlements and refunds follow. -/
theorem status_edit_moves_no_quota (settings : Settings) (now : Int) (db : Database) (userId : Int)
    (edit : TokenEdit) (statusOnly : edit.statusOnly = true)
    (first middle last : List (Context × BillingConservation.Call))
    (unmoved : (run bill db (first ++ middle)).remainQuota edit.id =
      (run bill db first).remainQuota edit.id)
    (unread : (∀ stored, (run bill db (first ++ middle)).tokens.find? edit.id = some stored →
        stored.status = edit.status) ∨
      ∀ entry ∈ last, Closing entry.2) (target : Int) :
    (billWithEdit settings now db userId edit first middle last).remainQuota target =
        (run bill db (first ++ middle ++ last)).remainQuota target ∧
      (billWithEdit settings now db userId edit first middle last).usedQuota target =
        (run bill db (first ++ middle ++ last)).usedQuota target := by
  unfold billWithEdit
  split
  · exact ⟨rfl, rfl⟩
  rename_i token read
  rcases readEdit_clean read with ⟨clean, present, kept, rfl⟩
  have own := Table.find?_key present
  have framed : Framed clean (run bill db (first ++ middle)) := by
    rw [run_append]
    exact run_keeps bill_framed _ _ ⟨clean, own ▸ present, rfl⟩
  rcases framed with ⟨stored, found, same⟩
  rw [own] at found
  have remain : stored.remainQuota = clean.remainQuota := by
    simpa only [Database.remainQuota, found, present, Option.map_some, Option.some.injEq]
      using unmoved
  have written := updateToken_row statusOnly kept (own ▸ found) same remain
  rw [written, run_append db (first ++ middle) last]
  rcases unread with status | closing
  · have unchanged : { stored with status := edit.status } = stored := by
      rw [← status stored found]
    rw [unchanged, Table.save_of_find? (by rw [Table.find?_key found]; exact found)]
    exact ⟨rfl, rfl⟩
  · have twins : Twins edit.id (run bill db (first ++ middle))
        { run bill db (first ++ middle) with
          tokens := (run bill db (first ++ middle)).tokens.save
            { stored with status := edit.status } } :=
      ⟨_, restated_save found edit.status, rfl⟩
    have keeps : ∀ entry ∈ last, ∀ left right, Twins edit.id left right →
        Twins edit.id (bill left entry) (bill right entry) := by
      intro entry member left right holds
      exact bill_twins (closing entry member) holds
    exact (run_related keeps twins).quotas target

def statusEdit (status : TokenStatus) : TokenEdit :=
  { id := 2, statusOnly := true, status }

def reserveCall (requestId : String) (quota : Int) : Context × BillingConservation.Call :=
  (sampleContext, .reserve { sampleRequest with requestId, quota })

theorem status_edit_moves_no_quota_disabled :
    ((billWithEdit { context := sampleContext } 1771718500 sampleStore 1 (statusEdit .disabled)
        [reserveCall "r" 30, reserveCall "s" 20] [(sampleContext, .settle 1 30)]
        [(sampleContext, .refund 2)]).tokens.find? 2).map Token.status = some .disabled ∧
      (billWithEdit { context := sampleContext } 1771718500 sampleStore 1 (statusEdit .disabled)
        [reserveCall "r" 30, reserveCall "s" 20] [(sampleContext, .settle 1 30)]
        [(sampleContext, .refund 2)]).remainQuota 2 = some 50 ∧
      (billWithEdit { context := sampleContext } 1771718500 sampleStore 1 (statusEdit .disabled)
        [reserveCall "r" 30, reserveCall "s" 20] [(sampleContext, .settle 1 30)]
        [(sampleContext, .refund 2)]).usedQuota 2 = some 35 := by
  have closing : ∀ entry ∈ [(sampleContext, BillingConservation.Call.refund 2)],
      Closing entry.2 := by
    intro entry member
    rw [List.mem_singleton.mp member]
    trivial
  have same := status_edit_moves_no_quota { context := sampleContext } 1771718500 sampleStore 1
    (statusEdit .disabled) rfl [reserveCall "r" 30, reserveCall "s" 20]
    [(sampleContext, .settle 1 30)] [(sampleContext, .refund 2)] (by decide +kernel) (.inr closing)
    2
  exact ⟨by decide +kernel, same.1.trans (by decide +kernel), same.2.trans (by decide +kernel)⟩

/-- A reservation between the read and the write is undone in remain_quota, and one after the
write is refused. -/
theorem status_edit_moves_quota :
    ((billWithEdit { context := sampleContext } 1771718500 sampleStore 1 (statusEdit .enabled) []
        [reserveCall "r" 30] []).remainQuota 2 = some 80 ∧
      (run bill sampleStore [reserveCall "r" 30]).remainQuota 2 = some 50) ∧
      (billWithEdit { context := sampleContext } 1771718500 sampleStore 1 (statusEdit .disabled) []
        [] [reserveCall "r" 30]).usedQuota 2 = some 5 ∧
      (run bill sampleStore [reserveCall "r" 30]).usedQuota 2 = some 35 := by
  decide +kernel

end NewApi.TokenEdits
