import NewApi.TokenStore

/-!
A rotated key stays dead. The row keeps its id under the new key, so every statement of a
validation names the hash that was presented: after the rotation no row answers to the old
hash, whatever Redis still holds under it, and the update that persists a status does not
reach the row either. A validation that has judged the row before the rotation falls back on
the row it has judged, which it has found expired or spent.
-/

namespace NewApi.TokenRotation

open Runs Interleaving TokenStore TokenEffects BillingOperations Wallet Table Option
open List hiding after

def SameKeys (db after : Database) : Prop :=
  Table.Related (fun row next => next.keyHash = row.keyHash) db.tokens after.tokens

variable {after db : Database} {time now quota userId : Int} {status : TokenStatus}
  {request : Request} {keyHash keyPrefix oldHash : String} {store : Store} {accepted late : Bool}
  {config : TokenStore.Config}

theorem SameKeys.of_map {change : Int → Token → Token}
    (rows : ∀ id, after.tokens.find? id = (db.tokens.find? id).map (change id))
    (kept : ∀ id row, (change id row).keyHash = row.keyHash) : SameKeys db after := by
  intro id
  rw [rows]
  cases db.tokens.find? id with
  | none => exact .none
  | some row => exact .some (kept id row)

theorem SameKeys.of_bills (bills : Bills time db after) : SameKeys db after := by
  intro id
  cases found : db.tokens.find? id with
  | none =>
    rw [bills.none found]
    exact .none
  | some row =>
    rcases bills.some found with ⟨next, present, billed⟩
    rw [present]
    exact .some (frame_columns billed.frame).2.1

theorem SameKeys.persist {token : Token}
    (done : persistTokenInvalidStatus db now token status = some after) : SameKeys db after := by
  rcases map_eq_some_iff.mp done with ⟨tokens, updated, rfl⟩
  have rows := find?_updateWhere updated (fun _ => rfl)
  apply SameKeys.of_map rows
  intro id row
  split <;> rfl

theorem SameKeys.edit (db : Database) (token : Token) : SameKeys db (updateToken db token) := by
  apply SameKeys.of_map (find?_updateToken db token)
  intro id row
  split <;> rfl

theorem SameKeys.shift {settings : Settings} {id : Int}
    (done : shiftToken settings db id quota = .ok after) : SameKeys db after := by
  apply SameKeys.of_map (shiftToken_row done)
  intro target row
  split <;> rfl

theorem SameKeys.restore (db : Database) (id time : Int) :
    SameKeys db (restoreExhaustedTokenIfFunded db id time) := by
  apply SameKeys.of_map (find?_restore db id time)
  intro target row
  split <;> rfl

structure Keyed (store : Store) : Prop where
  -- The unique index on the hash.
  distinct : ∀ {id other row twin}, store.db.tokens.find? id = some row →
    store.db.tokens.find? other = some twin → row.keyHash = twin.keyHash → id = other
  retired : ∀ keyHash ∈ store.retired, ∀ {id row}, store.db.tokens.find? id = some row →
    row.keyHash ≠ keyHash
  verdicts : ∀ verdict ∈ store.verdicts, verdict.late = true → verdict.accepted = false

/-- The row a validation has judged and will not accept. -/
def Failed (now : Int) (row : Token) : Prop := Expired row now ∨ Spent row

def Fits (now : Int) : Request → Prop
  | .judge call row late => row.keyHash = call.keyHash ∧ late = false
  | .persist call row _ | .reload call row => row.keyHash = call.keyHash ∧ Failed now row
  | .resolve _ row late => late = true → Failed now row
  | _ => True

/-- A rotation brings a key that the row does not have and that was not replaced before. -/
def Fresh (config : Config) (store : Store) : Event Request Move → Prop
  | .resume (.rotate id _ key _) =>
    config.settings.context.hashTokenKey key ∉ store.retired ∧
      (store.db.tokens.find? id).map Token.keyHash ≠
        some (config.settings.context.hashTokenKey key)
  | _ => True

instance (config : Config) (store : Store) (event : Event Request Move) :
    Decidable (Fresh config store event) := by
  unfold Fresh
  split <;> infer_instance

variable {row : Token}

theorem Failed.not_usable (failed : Failed now row) : ¬ Usable now row := by
  rintro ⟨-, -, unexpired, funded⟩
  rcases failed with ⟨dated, past⟩ | ⟨limited, empty⟩
  · omega
  · rcases funded with unlimited | funded
    · rw [limited] at unlimited
      cases unlimited
    · omega

theorem Failed.later {later : Int} (failed : Failed now row) (order : now ≤ later) :
    Failed later row := by
  rcases failed with ⟨dated, past⟩ | spent
  · exact .inl ⟨dated, Int.lt_of_lt_of_le past order⟩
  · exact .inr spent

theorem Fits.later {later : Int} (fits : Fits now request) (order : now ≤ later) :
    Fits later request := by
  cases request with
  | judge call row late => exact fits
  | persist call row status | reload call row => exact ⟨fits.1, fits.2.later order⟩
  | resolve call row late => exact fun isLate => (fits isLate).later order
  | _ => trivial

theorem judge_failed (judged : judge now row = .persist status) : Failed now row := by
  unfold judge at judged
  split at judged
  · cases judged
  split at judged
  · rename_i expired
    exact .inl expired
  · split at judged
    · rename_i spent
      exact .inr spent
    · cases judged

theorem findCredential_row {id : Int} (found : findCredential db id keyHash = some row) :
    db.tokens.find? id = some row ∧ row.keyHash = keyHash := by
  rcases filter_eq_some_iff.mp found with ⟨present, passed⟩
  exact ⟨present, (of_decide_eq_true passed).1⟩

theorem findByKeyHash_row (found : findByKeyHash db keyHash = some row) :
    db.tokens.find? row.id = some row ∧ row.keyHash = keyHash := by
  have passed := find?_some found
  exact ⟨mem_find? (mem_of_find?_eq_some found), (of_decide_eq_true passed).1⟩

section

variable (keyed : Keyed store)

include keyed

theorem Keyed.not_retired {id : Int} (found : store.db.tokens.find? id = some row)
    (same : row.keyHash = keyHash) :
    retiredHash store keyHash = false := by
  apply decide_eq_false
  intro member
  exact keyed.retired keyHash member found same

theorem Keyed.of_keys (same : SameKeys store.db after) : Keyed { store with db := after } := by
  have back {id : Int} {next : Token} (present : after.tokens.find? id = some next) :
      ∃ row, store.db.tokens.find? id = some row ∧ row.keyHash = next.keyHash := by
    cases found : store.db.tokens.find? id with
    | none =>
      rw [same.none found] at present
      cases present
    | some row =>
      rcases same.some found with ⟨other, here, kept⟩
      rw [present] at here
      cases here
      exact ⟨row, rfl, kept.symm⟩
  refine ⟨?_, ?_, keyed.verdicts⟩
  · intro id other row twin first second equal
    rcases back first with ⟨old, found, kept⟩
    rcases back second with ⟨oldTwin, foundTwin, keptTwin⟩
    exact keyed.distinct found foundTwin (by rw [kept, keptTwin, equal])
  · intro keyHash member id row present equal
    rcases back present with ⟨old, found, kept⟩
    exact keyed.retired keyHash member found (kept.trans equal)

theorem Keyed.conclude {call : Validation} (sound : late = true → accepted = false) :
    Keyed (conclude store call late accepted) := by
  refine ⟨keyed.distinct, keyed.retired, ?_⟩
  intro verdict member
  simp only [TokenStore.conclude, mem_append, mem_singleton] at member
  rcases member with old | rfl
  · exact keyed.verdicts verdict old
  · exact sound

theorem Keyed.rotate {id : Int} (unused : keyHash ∉ store.retired)
    (different : (store.db.tokens.find? id).map Token.keyHash ≠ some keyHash)
    (done : rotateTokenKey store.db id userId keyHash keyPrefix = some (oldHash, after)) :
    Keyed { store with db := after, retired := oldHash :: store.retired } := by
  rcases rotateTokenKey_row done with ⟨free, row, found, rfl, -, rows⟩
  have absent {other : Int} {twin : Token} (present : store.db.tokens.find? other = some twin)
      (apart : id ≠ other) : twin.keyHash ≠ keyHash := by
    intro clash
    have taken : hashTaken store.db id keyHash = true := by
      apply any_eq_true.mpr
      refine ⟨twin, (find?_mem present).1, decide_eq_true ⟨clash, ?_⟩⟩
      rw [find?_key present]
      exact fun back => apart back.symm
    rw [free] at taken
    cases taken
  refine ⟨?_, ?_, keyed.verdicts⟩
  · intro left right first second one two equal
    simp only [rows] at one two
    split at one
    · rename_i here
      split at two
      · rename_i there
        rw [← here, ← there]
      · rename_i apart
        cases one
        exact absurd equal.symm (absent two apart)
    · rename_i apart
      split at two
      · cases two
        exact absurd equal (absent one apart)
      · exact keyed.distinct one two equal
  · intro hash member target next present
    simp only [rows] at present
    rcases mem_cons.mp member with rfl | older
    · split at present
      · cases present
        intro clash
        simp only at clash
        exact different (by rw [found, map_some, clash])
      · rename_i apart
        intro clash
        exact apart (keyed.distinct found present clash.symm)
    · split at present
      · cases present
        intro clash
        simp only at clash
        exact unused (clash ▸ older)
      · exact keyed.retired hash older present

end

/-! Steps. -/

section Steps

theorem resume_keyed (fresh : Fresh config store (.resume request)) (keyed : Keyed store)
    (fits : Fits store.now request) : Keyed (resume config store request).1 := by
  revert fresh fits
  fun_cases resume config store request
  all_goals intro fresh fits
  case case4 | case8 | case9 | case11 => exact keyed.conclude fun _ => rfl
  case case7 | case10 | case22 | case23 => exact { keyed with }
  case case12 =>
    apply keyed.conclude
    intro isLate
    rw [fits.2] at isLate
    cases isLate
  case case15 done => exact (keyed.of_keys (.persist done)).conclude fun _ => rfl
  case case18 => exact keyed.conclude fun isLate => decide_eq_false (fits isLate).not_usable
  case case21 done => exact keyed.rotate fresh.1 fresh.2 done
  case case26 token => exact { keyed.of_keys (.edit store.db token) with }
  case case29 done => exact keyed.of_keys (.shift done)
  case case30 => exact keyed.of_keys (.restore store.db _ store.now)
  all_goals exact keyed

theorem resume_fits {next : Request} (keyed : Keyed store) (fits : Fits store.now request)
    (following : (resume config store request).2 = some next) : Fits store.now next := by
  revert fits following
  fun_cases resume config store request
  case case5 row found =>
    rintro - ⟨⟩
    rcases findCredential_row found with ⟨present, same⟩
    exact ⟨same, keyed.not_retired present same⟩
  case case10 row found =>
    rintro - ⟨⟩
    rcases findByKeyHash_row found with ⟨present, same⟩
    exact ⟨same, keyed.not_retired present same⟩
  case case13 judged =>
    rintro fits ⟨⟩
    exact ⟨fits.1, judge_failed judged⟩
  case case14 | case16 =>
    rintro fits ⟨⟩
    exact fits
  case case17 row current =>
    rintro fits ⟨⟩ isLate
    -- A row that is still there under the hash shows that the hash was not replaced.
    cases found : findCredential store.db row.id row.keyHash with
    | none =>
      simp only [current, found, getD_none, ite_self]
      exact fits.2
    | some stored =>
      rcases findCredential_row found with ⟨present, same⟩
      rw [keyed.not_retired present (same.trans fits.1)] at isLate
      cases isLate
  case case21 | case29 =>
    intro _ following
    split at following <;> cases following
    trivial
  all_goals rintro - ⟨⟩
  all_goals trivial

variable {move : Move}

theorem environment_keyed (keyed : Keyed store) : Keyed (environment config store move).1 := by
  cases move with
  | wait seconds | evict keyHash => exact { keyed with }
  | start request => exact keyed
  | validate key faults =>
    simp only [environment]
    split <;> exact keyed
  | decrease id quota =>
    simp only [environment, committed]
    split
    · exact keyed
    rename_i done
    unfold decreaseTokenQuota at done
    split at done
    · cases done
    · exact keyed.of_keys (.shift done)
  | fill entry =>
    simp only [environment]
    split
    · exact { keyed with }
    · exact keyed
  | transaction settings transaction =>
    simp only [environment, committed]
    split
    · exact keyed
    rename_i done
    exact keyed.of_keys (.of_bills (transaction_bills done))

theorem environment_fits (new : request ∈ (environment config store move).2) (now : Int) :
    Fits now request := by
  cases move with
  | start first =>
    simp only [environment] at new
    split at new
    · rw [mem_singleton.mp new]
      cases first <;> trivial
    · cases new
  | validate key faults =>
    simp only [environment] at new
    split at new
    · cases new
    rw [mem_singleton.mp new]
    trivial
  | fill entry =>
    simp only [environment] at new
    split at new <;> cases new
  | _ => cases new

theorem environment_later (move : Move) : store.now ≤ (environment config store move).1.now := by
  cases move with
  | wait seconds =>
    simp only [environment]
    omega
  | validate key faults | fill entry =>
    simp only [environment]
    split <;> exact Int.le_refl _
  | _ => exact Int.le_refl _

theorem rotation_preserved :
    Preserved (program config) (Fresh config) Keyed (fun store => Fits store.now) where
  resume_good := resume_keyed
  resume_self := by
    intro store request next _ keyed fits following
    rw [show ((program config).resume store request).1.now = store.now from resume_now ..]
    exact resume_fits keyed fits following
  resume_other := by
    intro store request other _ _ _ fits
    rw [show ((program config).resume store request).1.now = store.now from resume_now ..]
    exact fits
  environment_good := fun _ keyed => environment_keyed keyed
  environment_new := fun _ _ new => environment_fits new _
  environment_other := fun _ _ fits => fits.later (environment_later _)

end Steps

def presented : Request → Option String
  | .lookup call | .load call _ | .dropStale call | .read call | .judge call _ _
  | .persist call _ _ | .reload call _ | .resolve call _ _ => some call.keyHash
  | _ => none

theorem resume_frame (fits : Fits store.now request) (own : presented request = some keyHash)
    {id : Int} (found : store.db.tokens.find? id = some row) (other : row.keyHash ≠ keyHash) :
    (resume config store request).1.db.tokens.find? id = some row := by
  have writes := resume_writes config store request
  generalize (resume config store request).2 = next at writes
  generalize (resume config store request).1.db = db at writes ⊢
  cases writes with
  | kept => exact found
  | @persist call token status db done =>
    rcases map_eq_some_iff.mp done with ⟨tokens, updated, rfl⟩
    rcases updateWhere_eq_some updated with ⟨stored, present, guard, -⟩
    simp only [find?_updateWhere updated (fun _ => rfl), found, map_some]
    by_cases here : id = token.id
    · subst here
      rw [found] at present
      cases present
      have same : row.keyHash = token.keyHash := (of_decide_eq_true guard).1
      have given : call.keyHash = keyHash := Option.some.inj own
      exact absurd (same.trans (fits.1.trans given)) other
    · rw [if_neg here]
  | _ => cases own

/-- After any run no late validation was accepted, no row answers to a replaced hash, and no
validation writes to a row of another hash than its own. -/
theorem rotated_key_stays_dead (config : Config) (store : Store)
    (unique : ∀ row ∈ store.db.tokens.rows, ∀ other ∈ store.db.tokens.rows,
      row.keyHash = other.keyHash → row.id = other.id)
    (start : store.retired = [] ∧ store.verdicts = []) (events : List (Event Request Move))
    (fresh : AllSteps (step (program config)) (fun state => Fresh config state.shared) ⟨store, []⟩
      events) :
    (∀ verdict ∈ (run (step (program config)) ⟨store, []⟩ events).shared.verdicts,
      verdict.late = true → verdict.accepted = false) ∧
    (∀ keyHash ∈ (run (step (program config)) ⟨store, []⟩ events).shared.retired, ∀ id row,
      (run (step (program config)) ⟨store, []⟩ events).shared.db.tokens.find? id = some row →
      row.keyHash ≠ keyHash) ∧
    ∀ request ∈ (run (step (program config)) ⟨store, []⟩ events).running, ∀ keyHash,
      presented request = some keyHash → ∀ id row,
      (run (step (program config)) ⟨store, []⟩ events).shared.db.tokens.find? id = some row →
      row.keyHash ≠ keyHash →
      (resume config (run (step (program config)) ⟨store, []⟩ events).shared
        request).1.db.tokens.find? id = some row := by
  have initial : Holds Keyed (fun store => Fits store.now) ⟨store, []⟩ := by
    refine ⟨⟨?_, ?_, ?_⟩, ?_⟩
    · intro id other row twin first second same
      rw [← find?_key first, ← find?_key second]
      exact unique row (find?_mem first).1 twin (find?_mem second).1 same
    · intro keyHash member
      rw [start.1] at member
      cases member
    · intro verdict member
      rw [start.2] at member
      cases member
    · intro request running
      cases running
  rcases rotation_preserved.holds_run ⟨store, []⟩ events fresh initial with ⟨keyed, fits⟩
  refine ⟨keyed.verdicts, ?_, ?_⟩
  · intro keyHash member id row found
    exact keyed.retired keyHash member found
  · intro request running keyHash own id row found other
    exact resume_frame (fits request running) own found other

def rotatedStore : Store where
  db := { tokens := .ofRows [{ id := 2, userId := 1, keyHash := "key", keyPrefix := "key" }] }
  now := 1771718500

/-- One validation has found the token spent when the key is rotated, another one starts from the
entry that the first one left in Redis. -/
def rotatedEvents : List (Event Request Move) :=
  schedule (program sampleConfig) ⟨rotatedStore, []⟩
    [.inr (.validate "key" {}), .inl 0, .inl 0, .inl 0,
      .inr (.start (.rotate 2 1 "new" false)), .inl 0,
      .inr (.fill ("key", 2)), .inr (.validate "key" {}), .inl 0, .inl 0, .inl 0, .inl 0,
      .inl 1, .inl 0, .inl 0]

theorem rotated_key_stays_dead_concurrent :
    (run (step (program sampleConfig)) ⟨rotatedStore, []⟩ rotatedEvents).shared.verdicts =
        [⟨"key", true, false⟩, ⟨"key", true, false⟩] ∧
      ∀ id row, (run (step (program sampleConfig)) ⟨rotatedStore, []⟩
        rotatedEvents).shared.db.tokens.find? id = some row → row.keyHash ≠ "key" := by
  have dead := rotated_key_stays_dead sampleConfig rotatedStore
    (by decide +kernel) ⟨rfl, rfl⟩ rotatedEvents (by decide +kernel)
  exact ⟨by decide +kernel, dead.2.1 "key" (by decide +kernel)⟩

end NewApi.TokenRotation
