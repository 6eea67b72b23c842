import NewApi.TokenStore

/-!
Exhausted means out of quota. A token gets the status by an update that requires it to be
out of quota at that moment, and every release of quota tries to take the status back. What
breaks the relation is an edit that writes the status it has read together with quota, the
moment between the two statements of `IncreaseTokenQuota`, and a release in the second in
which the token expires, which is too late for the attempt and not yet for a validation.
-/

namespace NewApi.TokenExhaustion

open Runs Interleaving TokenStore TokenEffects BillingOperations Wallet List

/-- Undeleted, unexpired, with a valid key. -/
def Live (now : Int) (row : Token) : Prop :=
  row.deleted = false ∧ ¬ Expired row now ∧ row.keyPrefix ≠ "invalid"

/-- Exhausted tokens have no quota, unless somebody is about to enable them. -/
def Fine (pending : Prop) (now : Int) (row : Token) : Prop :=
  Live now row → row.status = .exhausted →
    row.unlimitedQuota = false ∧ (row.remainQuota ≤ 0 ∨ pending)

def RowsFine (pending : Int → Prop) (now : Int) (db : Database) : Prop :=
  ∀ id row, db.tokens.find? id = some row → Fine (pending id) now row

/-- No exhausted token expires right now. -/
def NoneExpiring (now : Int) (db : Database) : Prop :=
  ∀ id row, db.tokens.find? id = some row → row.status = .exhausted → row.expiredTime ≠ now

variable {pending : Int → Prop} {row next clean : Token} {oldHash keyPrefix keyHash : String}

section Rows

variable {now userId quota : Int} {after db : Database} {pending' : Int → Prop} {token : Token}
  {settings : Settings}

theorem RowsFine.of_map {later : Int} {change : Int → Token → Token}
    (fine : RowsFine pending now db)
    (rows : ∀ id, after.tokens.find? id = (db.tokens.find? id).map (change id))
    (each : ∀ id row, db.tokens.find? id = some row → Fine (pending id) now row →
      Fine (pending' id) later (change id row)) : RowsFine pending' later after := by
  intro id row found
  rw [rows] at found
  rcases Option.map_eq_some_iff.mp found with ⟨old, present, rfl⟩
  exact each id old present (fine id old present)

theorem Fine.mono {pending pending' : Prop} (fine : Fine pending now row)
    (grows : pending → pending') : Fine pending' now row := by
  intro live exhausted
  rcases fine live exhausted with ⟨limited, empty | waits⟩
  · exact ⟨limited, .inl empty⟩
  · exact ⟨limited, .inr (grows waits)⟩

theorem RowsFine.mono (fine : RowsFine pending now db) (grows : ∀ id, pending id → pending' id) :
    RowsFine pending' now db := by
  intro id row found
  exact (fine id row found).mono (grows id)

theorem Live.earlier {later : Int} (live : Live later row) (order : now ≤ later) :
    Live now row := by
  rcases live with ⟨kept, unexpired, valid⟩
  refine ⟨kept, ?_, valid⟩
  rintro ⟨dated, past⟩
  exact unexpired ⟨dated, Int.lt_of_lt_of_le past order⟩

theorem RowsFine.later {later : Int} (fine : RowsFine pending now db) (order : now ≤ later) :
    RowsFine pending later db := by
  intro id row found live
  exact fine id row found (live.earlier order)

theorem not_restorable_empty (live : Live now row) (dated : row.expiredTime ≠ now)
    (refused : ¬ Restorable now row) : row.remainQuota ≤ 0 := by
  rcases live with ⟨kept, unexpired, valid⟩
  apply Int.not_lt.mp
  intro positive
  refine refused ⟨positive, valid, ?_, kept⟩
  by_cases never : row.expiredTime = -1
  · exact .inl never
  · right
    have early : ¬ row.expiredTime < now := fun past => unexpired ⟨never, past⟩
    omega

theorem billed_fine {pending : Prop} (billed : Billed now row next)
    (dated : row.status = .exhausted → row.expiredTime ≠ now) (fine : Fine pending now row) :
    Fine pending now next := by
  intro live exhausted
  have before : row.status = .exhausted := by
    rcases billed.status with same | ⟨before, -⟩
    · rw [← same, exhausted]
    · exact before
  rcases frame_columns billed.frame with ⟨-, -, keyPrefix, expiredTime, unlimited, deleted⟩
  have live' : Live now row := by
    rcases live with ⟨kept, unexpired, valid⟩
    exact ⟨deleted ▸ kept, by rwa [Expired, ← expiredTime], keyPrefix ▸ valid⟩
  rcases fine live' before with ⟨limited, empty | waits⟩
  · refine ⟨unlimited.trans limited, .inl ?_⟩
    by_cases more : row.remainQuota < next.remainQuota
    · exact not_restorable_empty live (expiredTime ▸ dated before) (billed.funded more exhausted)
    · omega
  · exact ⟨unlimited.trans limited, .inr waits⟩

variable (fine : RowsFine pending now db)

include fine

theorem RowsFine.bills (bills : Bills now db after)
    (dated : NoneExpiring now db) : RowsFine pending now after := by
  intro id next found
  cases before : db.tokens.find? id with
  | none =>
    rw [bills.none before] at found
    cases found
  | some row =>
    rcases bills.some before with ⟨other, present, billed⟩
    rw [found] at present
    cases present
    exact billed_fine billed (dated id row before) (fine id row before)

theorem RowsFine.persist {status : TokenStatus}
    (done : persistTokenInvalidStatus db now token status = some after) :
    RowsFine pending now after := by
  rcases Option.map_eq_some_iff.mp done with ⟨tokens, updated, rfl⟩
  rcases Table.updateWhere_eq_some updated with ⟨stored, found, guard, -⟩
  have rows := Table.find?_updateWhere updated (fun _ => rfl)
  apply fine.of_map rows
  intro id row present kept
  split
  · rename_i here
    subst here
    rw [found] at present
    cases present
    intro _ exhausted
    subst exhausted
    have lapsed := (of_decide_eq_true guard).2.2.2.2
    exact ⟨lapsed.1.1, .inl lapsed.1.2⟩
  · exact kept

theorem RowsFine.edit (spent : token.status = .exhausted → Spent token) :
    RowsFine pending now (updateToken db token) := by
  apply fine.of_map (find?_updateToken db token)
  intro id row present kept
  split
  · intro _ exhausted
    rcases spent exhausted with ⟨limited, empty⟩
    exact ⟨limited, .inl empty⟩
  · exact kept

theorem RowsFine.rotate {id : Int}
    (valid : ∀ row, db.tokens.find? id = some row → row.keyPrefix ≠ "invalid")
    (done : rotateTokenKey db id userId keyHash keyPrefix = some (oldHash, after)) :
    RowsFine pending now after := by
  rcases rotateTokenKey_row done with ⟨-, row, found, -, kept, rows⟩
  intro target next present
  rw [rows] at present
  split at present
  · rename_i here
    subst here
    cases present
    intro live
    exact fine id row found ⟨kept, live.2.1, valid row found⟩
  · exact fine target next present

theorem RowsFine.increase {id : Int} (grows : ∀ target, pending target → pending' target)
    (funded : ∀ row, db.tokens.find? id = some row → row.status = .exhausted →
      0 < row.remainQuota + quota → 0 < quota → pending' id)
    (done : shiftToken settings db id (-quota) = .ok after) (nonneg : 0 ≤ quota) :
    RowsFine pending' now after := by
  apply fine.of_map (shiftToken_row done)
  intro target row present kept
  split
  · rename_i here
    rcases here with ⟨rfl, -⟩
    intro live exhausted
    rcases kept live exhausted with ⟨limited, empty | waits⟩
    · refine ⟨limited, ?_⟩
      by_cases lifted : 0 < row.remainQuota + quota
      · exact .inr (funded row present exhausted lifted (by omega))
      · left
        simp only
        omega
    · exact ⟨limited, .inr (grows target waits)⟩
  · exact kept.mono (grows target)

theorem RowsFine.decrease {id : Int} (done : decreaseTokenQuota settings db id quota = .ok after) :
    RowsFine pending now after := by
  unfold decreaseTokenQuota at done
  split at done
  · cases done
  apply fine.of_map (shiftToken_row done)
  intro target row present kept
  split
  · intro live exhausted
    rcases kept live exhausted with ⟨limited, empty | waits⟩
    · refine ⟨limited, .inl ?_⟩
      simp only
      omega
    · exact ⟨limited, .inr waits⟩
  · exact kept

theorem RowsFine.restore {id : Int}
    (dated : ∀ row, db.tokens.find? id = some row → row.status = .exhausted → row.expiredTime ≠ now)
    (others : ∀ target, target ≠ id → pending target → pending' target) :
    RowsFine pending' now (restoreExhaustedTokenIfFunded db id now) := by
  apply fine.of_map (find?_restore db id now)
  intro target row present kept
  split
  · intro _ exhausted
    cases exhausted
  · rename_i refused
    by_cases here : target = id
    · subst here
      intro live exhausted
      refine ⟨(kept live exhausted).1, .inl ?_⟩
      apply not_restorable_empty live (dated row present exhausted)
      intro restorable
      exact refused ⟨rfl, exhausted, restorable⟩
    · exact kept.mono (others target here)

end Rows

/-! Runs. -/

/-- A status of exhausted goes with no quota: to a status-only edit the row's, to any other the
quota of the request. -/
def CarefulEdit (edit : TokenEdit) (clean : Token) : Prop :=
  if edit.statusOnly then edit.status = .exhausted → Spent clean
  else clean.status = .exhausted → edit.unlimitedQuota = false ∧ edit.remainQuota ≤ 0

theorem CarefulEdit.spent {edit : TokenEdit} (careful : CarefulEdit edit clean)
    (exhausted : (applyEdit edit clean).status = .exhausted) : Spent (applyEdit edit clean) := by
  unfold CarefulEdit at careful
  unfold applyEdit at exhausted ⊢
  split at careful
  · next statusOnly =>
    rw [if_pos statusOnly] at exhausted ⊢
    exact careful exhausted
  · next whole =>
    rw [if_neg whole] at exhausted ⊢
    exact careful exhausted

/-- An edit that writes the status writes no quota with it; nothing restores an exhausted token
in the second in which it expires; only valid keys are rotated. -/
def Careful (state : State Store Request) : Event Request Move → Prop
  | .resume (.readEdit userId edit) => ∀ clean,
      getTokenByIds state.shared.db edit.id userId = .ok clean → CarefulEdit edit clean
  | .resume (.restore id _) => ∀ row, state.shared.db.tokens.find? id = some row →
      row.status = .exhausted → row.expiredTime ≠ state.shared.now
  | .resume (.rotate id _ _ _) => ∀ row, state.shared.db.tokens.find? id = some row →
      row.keyPrefix ≠ "invalid"
  | .environment (.transaction _ _) => NoneExpiring state.shared.now state.shared.db
  | _ => True

/-- An increase lifts no exhausted token above zero. -/
def Unfunded (state : State Store Request) : Event Request Move → Prop
  | .resume (.increase id quota) => funds state.shared.db id quota = false
  | _ => True

structure Sound (state : State Store Request) : Prop where
  rows : RowsFine (fun id => .restore id true ∈ state.running) state.shared.now state.shared.db
  edits : ∀ token, .writeEdit token ∈ state.running → token.status = .exhausted → Spent token

section Steps

variable {state : State Store Request}
variable {other request : Request} {move : Move} {config : TokenStore.Config}

theorem mem_after {next : Option Request} {running : List Request} (different : request ≠ other)
    (member : other ∈ running) : other ∈ next.toList ++ running.erase request := by
  rw [mem_append]
  exact .inr ((mem_erase_of_ne different.symm).mpr member)

theorem resume_rows (config : Config) (careful : Careful state (.resume request))
    (sound : Sound state) (member : request ∈ state.running) :
    RowsFine (fun id => .restore id true ∈
        (resume config state.shared request).2.toList ++ state.running.erase request)
      state.shared.now (resume config state.shared request).1.db := by
  have writes := resume_writes config state.shared request
  generalize (resume config state.shared request).2 = next at writes ⊢
  generalize (resume config state.shared request).1.db = db at writes ⊢
  cases writes with
  | kept idle => exact sound.rows.mono fun id pending => mem_after (idle id true) pending
  | persist done =>
    exact (sound.rows.persist done).mono fun id pending => mem_after (by simp) pending
  | rotate _ done =>
    exact (sound.rows.rotate careful done).mono fun id pending => mem_after (by simp) pending
  | @edit token =>
    exact (sound.rows.edit (sound.edits token member)).mono
      fun id pending => mem_after (by simp) pending
  | @increase id quota db nonneg done =>
    refine sound.rows.increase (fun id pending => mem_after (by simp) pending) ?_ done nonneg
    intro row found exhausted lifted positive
    have funded : funds state.shared.db id quota = true := by
      simp only [funds, found, Option.any_some]
      exact decide_eq_true ⟨exhausted, lifted⟩
    simp [positive, funded]
  | @restore id funded =>
    apply sound.rows.restore careful
    intro target other pending
    apply mem_after _ pending
    intro same
    cases same
    exact other rfl

theorem environment_rows (careful : Careful state (.environment move))
    (fine : RowsFine pending state.shared.now state.shared.db) :
    RowsFine pending (environment config state.shared move).1.now
      (environment config state.shared move).1.db := by
  cases move with
  | wait seconds =>
    simp only [environment]
    exact fine.later (by omega)
  | start request => exact fine
  | validate key faults | fill entry =>
    simp only [environment]
    split <;> exact fine
  | decrease id quota =>
    simp only [environment, committed]
    split
    · exact fine
    rename_i done
    exact fine.decrease done
  | evict keyHash => exact fine
  | transaction settings transaction =>
    simp only [environment, committed]
    split
    · exact fine
    rename_i done
    exact fine.bills (transaction_bills done) careful

theorem environment_new (new : request ∈ (environment config state.shared move).2) :
    (∀ token, request ≠ .writeEdit token) ∧ ∀ id funded, request ≠ .restore id funded := by
  cases move with
  | start first =>
    simp only [environment] at new
    split at new
    · simp only [mem_singleton] at new
      subst new
      cases request <;> simp_all [Request.isFirst]
    · cases new
  | validate key faults =>
    simp only [environment] at new
    split at new
    · cases new
    simp only [mem_singleton] at new
    subst new
    simp
  | fill entry =>
    simp only [environment] at new
    split at new <;> cases new
  | _ => cases new

theorem step_sound (state : State Store Request) (event : Event Request Move)
    (careful : Careful state event) (sound : Sound state) :
    Sound (step (program config) state event) := by
  cases event with
  | resume request =>
    by_cases member : request ∈ state.running
    · simp only [step, if_pos member]
      constructor
      · have rows := resume_rows config careful sound member
        rw [← resume_now] at rows
        exact rows
      · intro token present exhausted
        simp only [mem_append, Option.mem_toList] at present
        rcases present with next | kept
        · rcases resume_edit next with ⟨userId, edit, clean, rfl, found, rfl⟩
          exact (careful clean found).spent exhausted
        · exact sound.edits token (mem_of_mem_erase kept) exhausted
    · simp only [step, if_neg member]
      exact sound
  | environment move =>
    constructor
    · apply environment_rows careful
      exact sound.rows.mono fun id pending => mem_append_right _ pending
    · intro token present exhausted
      simp only [step, mem_append] at present
      rcases present with new | kept
      · exact absurd rfl ((environment_new new).1 token)
      · exact sound.edits token kept exhausted

theorem step_unfunded (state : State Store Request) (event : Event Request Move)
    (unfunded : Unfunded state event) (none_ : ∀ id, .restore id true ∉ state.running) (id : Int) :
    .restore id true ∉ (step (program config) state event).running := by
  intro present
  cases event with
  | resume request =>
    by_cases member : request ∈ state.running
    · simp only [step, if_pos member, mem_append, Option.mem_toList] at present
      rcases present with next | kept
      · have writes := resume_writes config state.shared request
        change (resume config state.shared request).2 = _ at next
        generalize (resume config state.shared request).2 = following at writes next
        generalize (resume config state.shared request).1.db = db at writes
        cases writes with
        | kept _ other | rotate other => exact other id next
        | persist => cases next
        | edit => cases next
        | increase =>
          split at next
          · simp only [Option.some.injEq, Request.restore.injEq] at next
            rw [Unfunded, next.2] at unfunded
            cases unfunded
          · cases next
        | restore => cases next
      · exact none_ id (mem_of_mem_erase kept)
    · simp only [step, if_neg member] at present
      exact none_ id present
  | environment move =>
    simp only [step, mem_append] at present
    rcases present with new | kept
    · exact (environment_new new).2 id true rfl
    · exact none_ id kept

end Steps

def OutOfQuota (store : Store) : Prop :=
  ∀ id row, store.db.tokens.find? id = some row → Live store.now row → row.status = .exhausted →
    row.remainQuota ≤ 0 ∧ row.unlimitedQuota = false

/-- Careful runs leave an exhausted token without quota, except between the two statements of an
increase that has funded it. -/
theorem exhausted_or_restoring (config : Config) (store : Store) (initial : OutOfQuota store)
    (events : List (Event Request Move))
    (careful : AllSteps (step (program config)) Careful ⟨store, []⟩ events) :
    Sound (run (step (program config)) ⟨store, []⟩ events) := by
  apply run_invariant step_sound _ _ careful
  constructor
  · intro id row found live exhausted
    rcases initial id row found live exhausted with ⟨empty, limited⟩
    exact ⟨limited, .inl empty⟩
  · intro token present
    cases present

theorem judge_funded {store : Store} (sound : OutOfQuota store) {id : Int}
    (found : store.db.tokens.find? id = some row) (live : Live store.now row)
    (status : row.status = .enabled ∨ row.status = .exhausted) (funded : ¬ Spent row) :
    judge store.now row = .accept := by
  have enabled : row.status = .enabled := by
    rcases status with enabled | exhausted
    · exact enabled
    · rcases sound id row found live exhausted with ⟨empty, limited⟩
      exact absurd ⟨limited, empty⟩ funded
  rcases live with ⟨-, unexpired, valid⟩
  simp only [judge, enabled, valid, unexpired, funded, ne_eq, not_true_eq_false, or_self, if_false]

/-- In every run that is careful and funds no exhausted token from outside, exhausted means out of
quota, and a live token with quota passes. -/
theorem exhausted_means_out_of_quota (config : Config) (store : Store)
    (initial : OutOfQuota store) (events : List (Event Request Move))
    (allowed : AllSteps (step (program config))
      (fun state event => Careful state event ∧ Unfunded state event) ⟨store, []⟩ events) :
    OutOfQuota (run (step (program config)) ⟨store, []⟩ events).shared ∧
      ∀ id row,
        (run (step (program config)) ⟨store, []⟩ events).shared.db.tokens.find? id = some row →
        Live (run (step (program config)) ⟨store, []⟩ events).shared.now row →
        (row.status = .enabled ∨ row.status = .exhausted) → ¬ Spent row →
        judge (run (step (program config)) ⟨store, []⟩ events).shared.now row = .accept := by
  have careful : AllSteps (step (program config)) Careful ⟨store, []⟩ events :=
    allowed.imp fun _ _ both => both.1
  have sound := exhausted_or_restoring config store initial events careful
  have unfunded : ∀ id, .restore id true ∉
      (run (step (program config)) ⟨store, []⟩ events).running := by
    apply run_invariant step_unfunded _ _ (allowed.imp fun _ _ both => both.2)
    intro id present
    cases present
  have out : OutOfQuota (run (step (program config)) ⟨store, []⟩ events).shared := by
    intro id row found live exhausted
    rcases sound.rows id row found live exhausted with ⟨limited, empty | waits⟩
    · exact ⟨empty, limited⟩
    · exact absurd waits (unfunded id)
  refine ⟨out, ?_⟩
  intro id row found live status funded
  exact judge_funded out found live status funded

def spentToken : Token :=
  { id := 2, userId := 1, keyHash := "key", keyPrefix := "key", status := .exhausted,
    usedQuota := 30 }

def spentOperation : BillingOperation :=
  { id := 1, requestId := "r", userId := 1, tokenId := 2, tokenCharged := true,
    tokenRemainCharged := true, reservedQuota := 30 }

def spentStore : Store where
  db := {
    users := .ofRows [{ id := 1, quota := 70 }]
    tokens := .ofRows [spentToken]
    operations := .ofRows [spentOperation] }
  now := 1771718500

theorem spentStore_row {id : Int} (found : spentStore.db.tokens.find? id = some row) :
    row = spentToken :=
  mem_singleton.mp (Table.find?_mem found).1

theorem spentStore_sound : OutOfQuota spentStore := by
  intro id row found _ _
  rw [spentStore_row found]
  exact ⟨Int.le_refl 0, rfl⟩

def refundedEvents : List (Event Request Move) :=
  schedule (program sampleConfig) ⟨spentStore, []⟩
    [.inr (.transaction sampleConfig.settings (.billing (.refund 1))), .inr (.validate "key" {}),
      .inl 0, .inl 0, .inl 0]

theorem exhausted_means_out_of_quota_refunded :
    OutOfQuota (run (step (program sampleConfig)) ⟨spentStore, []⟩ refundedEvents).shared ∧
      (run (step (program sampleConfig)) ⟨spentStore, []⟩ refundedEvents).shared.verdicts =
        [⟨"key", false, true⟩] := by
  have dated : NoneExpiring spentStore.now spentStore.db := by
    intro id row found _
    rw [spentStore_row found]
    decide
  have allowed : AllSteps (step (program sampleConfig))
      (fun state event => Careful state event ∧ Unfunded state event) ⟨spentStore, []⟩
      refundedEvents := by
    refine ⟨⟨dated, trivial⟩, ⟨trivial, trivial⟩, ⟨trivial, trivial⟩, ⟨trivial, trivial⟩,
      ⟨trivial, trivial⟩, trivial⟩
  exact ⟨(exhausted_means_out_of_quota sampleConfig spentStore spentStore_sound refundedEvents
    allowed).1, by decide +kernel⟩

/-- The owner gives the token 100; the status is the one the form was loaded with. -/
def fundingEdit : TokenEdit :=
  { id := 2, statusOnly := false, status := .exhausted, expiredTime := -1, remainQuota := 100 }

def editedEvents : List (Event Request Move) :=
  schedule (program sampleConfig) ⟨spentStore, []⟩
    [.inr (.start (.readEdit 1 fundingEdit)), .inl 0, .inl 0, .inr (.validate "key" {}), .inl 0,
      .inl 0, .inl 0]

/-- The edit stores the quota and leaves the token exhausted, so its key is rejected. -/
theorem edited_token_stays_exhausted :
    OutOfQuota spentStore ∧
      ¬ OutOfQuota (run (step (program sampleConfig)) ⟨spentStore, []⟩ editedEvents).shared ∧
      ((run (step (program sampleConfig)) ⟨spentStore, []⟩
        editedEvents).shared.db.tokens.find? 2).map (fun row => (row.status, row.remainQuota)) =
        some (.exhausted, 100) ∧
      (run (step (program sampleConfig)) ⟨spentStore, []⟩ editedEvents).shared.verdicts =
        [⟨"key", false, false⟩] := by
  refine ⟨spentStore_sound, ?_, by decide +kernel, by decide +kernel⟩
  intro sound
  have found : (run (step (program sampleConfig)) ⟨spentStore, []⟩
      editedEvents).shared.db.tokens.find? 2 =
        some { spentToken with remainQuota := 100 } := by decide +kernel
  have live : Live (run (step (program sampleConfig)) ⟨spentStore, []⟩ editedEvents).shared.now
      { spentToken with remainQuota := 100 } := by
    refine ⟨rfl, ?_, by decide⟩
    rintro ⟨dated, -⟩
    exact dated rfl
  exact absurd (sound 2 _ found live rfl).1 (by decide)

end NewApi.TokenExhaustion
