import Mathlib.Tactic.Ring
import NewApi.IndexedTable
import NewApi.MidjourneyPolling

/-!
What the Midjourney transactions do to wallets and token counters, read as meters. A
reservation stakes its quota on the meters of its user and its token until it is refunded.
Every transaction is booked on the request or, for a task without a reservation, on the task
it works for, and moves the meters by as much as it changes the stake of its own request.
-/

namespace NewApi.MidjourneyMeters

open Runs Attribution BillingOperations Wallet MidjourneyReservation MidjourneyPolling TokenEffects
open Table

inductive Meter where
  | wallet (user : Int)
  | used (token : Int)
  | remain (token : Int)
  deriving DecidableEq

variable (db : Database)

def reading : Meter → Int
  | .wallet user => (db.wallet user).getD 0
  | .used token => (db.usedQuota token).getD 0
  | .remain token => (db.remainQuota token).getD 0

def walletPart (user amount : Int) : Meter → Int
  | .wallet other => if other = user then amount else 0
  | _ => 0

def tokenPart (token amount : Int) (limited : Bool) : Meter → Int
  | .wallet _ => 0
  | .used other => if other = token then amount else 0
  | .remain other => if limited = true ∧ other = token then -amount else 0

def stake (reservation : MidjourneyQuotaReservation) (meter : Meter) : Int :=
  walletPart reservation.userId (-reservation.quota) meter +
    if reservation.tokenCharged then
      tokenPart reservation.tokenId reservation.quota (!reservation.tokenUnlimited) meter
    else 0

def held (request : String) (meter : Meter) : Int :=
  match findReservation db request with
  | none => 0
  | some reservation => if reservation.status = .refunded then 0 else stake reservation meter

def returned (request : String) : Int :=
  match findReservation db request with
  | none => 0
  | some reservation => if reservation.status = .refunded then 1 else 0

/-- The unique index on request_id. -/
def Distinct : Prop :=
  (db.reservations.rows.map MidjourneyQuotaReservation.requestId).Nodup

variable {meter : Meter} {db} {after left right : Database}
  {limited unlimited created refunded : Bool} {context : Context} {input : ReservationRequest}
  {settings : Settings} {reservation final : MidjourneyQuotaReservation}
  {taskId reservationId : Int} {request fromStatus : String}

theorem tokenPart_neg (token amount : Int) (limited : Bool) :
    tokenPart token (-amount) limited meter = -tokenPart token amount limited meter := by
  cases meter with
  | wallet user => rfl
  | used other | remain other =>
    simp only [tokenPart]
    split <;> simp

theorem walletPart_neg (user amount : Int) :
    walletPart user (-amount) meter = -walletPart user amount meter := by
  cases meter with
  | wallet other =>
    simp only [walletPart]
    split <;> simp
  | used token => rfl
  | remain token => rfl

section Statements

variable {amount user token quota : Int}

theorem reading_users {users : Table User.id} {change : User → User} {guard : User → Bool}
    (updated : db.users.updateWhere user guard change = some users)
    (sameId : ∀ row, (change row).id = row.id)
    (moved : ∀ row, (change row).quota = row.quota + amount) (meter : Meter) :
    reading { db with users } meter = reading db meter + walletPart user amount meter := by
  cases meter with
  | wallet other =>
    rcases updateWhere_eq_some updated with ⟨row, found, -, -⟩
    simp only [reading, Database.wallet, walletPart]
    rw [map_find?_updateWhere updated sameId]
    by_cases here : other = user
    · subst here
      simp [found, moved]
    · simp [here]
  | used token | remain token => exact (Int.add_zero _).symm

theorem reading_tokens {tokens : Table Token.id} {change : Token → Token} {guard : Token → Bool}
    (updated : db.tokens.updateWhere token guard change = some tokens)
    (sameId : ∀ row, (change row).id = row.id)
    (used : ∀ row, (change row).usedQuota = row.usedQuota + amount)
    (remain : ∀ row, (change row).remainQuota =
      if limited = true then row.remainQuota - amount else row.remainQuota) (meter : Meter) :
    reading { db with tokens } meter =
      reading db meter + tokenPart token amount limited meter := by
  rcases updateWhere_eq_some updated with ⟨row, found, -, -⟩
  cases meter with
  | wallet user => exact (Int.add_zero _).symm
  | used other =>
    simp only [reading, Database.usedQuota, tokenPart]
    rw [map_find?_updateWhere updated sameId]
    by_cases here : other = token
    · subst here
      simp [found, used]
    · simp [here]
  | remain other =>
    simp only [reading, Database.remainQuota, tokenPart]
    rw [map_find?_updateWhere updated sameId]
    by_cases here : other = token
    · subst here
      cases limited with
      | false => simp [found, remain]
      | true => simp [found, remain, Int.sub_eq_add_neg]
    · simp [here]

theorem reading_restore (db : Database) (id time : Int) :
    reading (restoreExhaustedTokenIfFunded db id time) meter = reading db meter := by
  have columns : ∀ {Value : Type} (column : Token → Value),
      (∀ row, column { row with status := .enabled } = column row) → ∀ token,
      ((restoreExhaustedTokenIfFunded db id time).tokens.find? token).map column =
        (db.tokens.find? token).map column := by
    intro Value column kept token
    rw [find?_restore, Option.map_map]
    congr 1
    funext row
    simp only [Function.comp_apply]
    split
    · exact kept row
    · rfl
  cases meter with
  | wallet user =>
    simp only [reading, Database.wallet, restoreExhaustedTokenIfFunded_users]
  | used token =>
    simp only [reading, Database.usedQuota, columns Token.usedQuota (fun _ => rfl)]
  | remain token =>
    simp only [reading, Database.remainQuota, columns Token.remainQuota (fun _ => rfl)]

theorem debitToken_spec (positive : 0 < input.quota)
    (done : debitToken context db input = .ok (unlimited, after)) :
    (∃ tokens, after = { db with tokens }) ∧ Bills context.time db after ∧
      ∀ meter, reading after meter =
        reading db meter + tokenPart input.tokenId input.quota (!unlimited) meter := by
  unfold debitToken at done
  split at done
  · cases done
  rename_i token found
  iterate 2
    split at done
    · cases done
  rename_i updated
  cases done
  rw [find?_key found] at updated
  exact ⟨⟨_, rfl⟩,
    .of_update updated (fun _ => rfl) fun row _ => chargeToken_billed (by omega) row,
    reading_tokens updated (fun _ => rfl) (fun _ => rfl) (fun _ => rfl)⟩

theorem refundUser_spec (done : refundUser settings db user quota = .ok after) :
    (∃ users, after = { db with users }) ∧ Writes db after (some (user, quota)) ∧
      ∀ meter, reading after meter = reading db meter + walletPart user quota meter := by
  rcases bind_ok done with ⟨result, shifted, done⟩
  have writes := shiftWallet_writes shifted
  rcases shiftWallet_ok shifted with ⟨rfl, -⟩ | ⟨row, found, -, rfl⟩ <;> cases done
  refine ⟨⟨_, rfl⟩, writes, ?_⟩
  have updated : db.users.updateWhere user (fun _ => true)
      (fun stored => { stored with quota := stored.quota + quota }) =
      some (db.users.save { row with quota := row.quota + quota }) :=
    updateWhere_of_find? _ found rfl
  exact reading_users updated (fun _ => rfl) (fun _ => rfl)

theorem releaseToken_spec (done : releaseToken context db reservation = .ok after) :
    (∃ tokens, after = { db with tokens }) ∧ Bills context.time db after ∧
      ∀ meter, reading after meter = reading db meter -
        if reservation.tokenCharged then
          tokenPart reservation.tokenId reservation.quota (!reservation.tokenUnlimited) meter
        else 0 := by
  unfold releaseToken at done
  split at done
  · rename_i charged
    split at done
    · cases done
    rename_i tokens updated
    have moved : ∀ meter, reading { db with tokens } meter = reading db meter +
        tokenPart reservation.tokenId (-reservation.quota) (!reservation.tokenUnlimited)
          meter := by
      apply reading_tokens updated (fun _ => rfl) (fun _ => Int.sub_eq_add_neg)
      intro row
      cases reservation.tokenUnlimited <;> simp
    simp only [tokenPart_neg, ← Int.sub_eq_add_neg] at moved
    simp only [charged, if_true]
    split at done
    · cases done
      refine ⟨⟨_, restore_eq _ _ _⟩, .of_release updated (fun _ => rfl) fun _ => ⟨rfl, rfl⟩, ?_⟩
      intro meter
      rw [reading_restore, moved]
    · rename_i spends
      cases done
      refine ⟨⟨_, rfl⟩, .of_update updated (fun _ => rfl) fun row _ => ⟨rfl, .inl rfl, ?_⟩, moved⟩
      intro more
      simp only at more
      split at more
      · omega
      · rename_i limited
        exact absurd ⟨by simpa using limited, by omega⟩ spends
  · rename_i uncharged
    cases done
    refine ⟨⟨_, rfl⟩, .of_tokens rfl, ?_⟩
    intro meter
    rw [if_neg uncharged, Int.sub_zero]

theorem reading_saveReservation (db : Database) :
    reading (saveReservation db reservation) meter = reading db meter := by
  cases meter <;> rfl

theorem refundReservation_spec (done : refundReservation settings db reservation = .ok after) :
    after.midjourneys = db.midjourneys ∧
      after.reservations = db.reservations.save { reservation with status := .refunded } ∧
      Writes db after (some (reservation.userId, reservation.quota)) ∧
      Bills settings.context.time db after ∧
      ∀ meter, reading after meter = reading db meter - stake reservation meter := by
  rcases bind_ok done with ⟨credited, crediting, done⟩
  rcases bind_ok done with ⟨released, releasing, done⟩
  cases done
  rcases refundUser_spec crediting with ⟨⟨users, rfl⟩, writes, credit⟩
  rcases releaseToken_spec releasing with ⟨⟨tokens, rfl⟩, bills, release⟩
  refine ⟨rfl, rfl, writes.then_same fun _ => rfl, bills, ?_⟩
  intro meter
  rw [reading_saveReservation, release, credit, stake, walletPart_neg]
  omega

end Statements

/-! What a transaction does, seen from the request or task it is booked on. -/

/-- The columns of a task that no update changes. -/
def identity (task : Midjourney) : Int × Int × Int × Int :=
  (task.id, task.userId, task.quota, task.quotaReservationId)

def Known (db : Database) (task : Midjourney) : Prop :=
  (db.midjourneys.find? task.id).map identity = some (identity task)

theorem Known.congr {right left : Midjourney} (known : Known db right)
    (same : identity left = identity right) : Known db left := by
  have id : left.id = right.id := congrArg Prod.fst same
  rw [Known, id, same]
  exact known

inductive Effect (db after : Database) : Cause → Bool → Prop
  | idle (cause : Cause) (rows : after.reservations = db.reservations)
      (meters : ∀ meter, reading after meter = reading db meter) : Effect db after cause false
  | opened (reservation : MidjourneyQuotaReservation)
      (absent : findReservation db reservation.requestId = none)
      (rows : after.reservations.rows = db.reservations.rows ++ [reservation])
      (status : reservation.status = .reserved) (positive : 0 < reservation.quota)
      (meters : ∀ meter, reading after meter = reading db meter + stake reservation meter) :
      Effect db after (.request reservation.requestId) false
  | moved (reservation : MidjourneyQuotaReservation) (taskId : Int) (status : ReservationStatus)
      (found : db.reservations.find? reservation.id = some reservation)
      (rows : after.reservations =
        db.reservations.save { reservation with midjourneyTaskId := taskId, status })
      (pending : reservation.status = .reserved)
      (meters : ∀ meter, reading after meter =
        reading db meter - if status = .refunded then stake reservation meter else 0) :
      Effect db after (.request reservation.requestId) (decide (status = .refunded))
  | legacy (task : Midjourney) (known : Known db task) (old : task.quotaReservationId ≤ 0)
      (rows : after.reservations = db.reservations)
      (meters : ∀ meter, reading after meter =
        reading db meter + walletPart task.userId task.quota meter) :
      Effect db after (.task task.id) true

section Transactions

theorem createReservation_spec (done : createReservation db input = .ok (reservation, after)) :
    reservation = newReservation db input ∧ ∃ reservations,
      db.reservations.insert? reservation = some reservations ∧
      after = { db with reservations } := by
  unfold createReservation at done
  split at done
  · cases done
  rename_i inserted
  cases done
  exact ⟨rfl, _, inserted, rfl⟩

theorem reading_congr (users : left.users = right.users) (tokens : left.tokens = right.tokens)
    (meter : Meter) : reading left meter = reading right meter := by
  cases meter <;>
    simp only [reading, Database.wallet, Database.usedQuota, Database.remainQuota, users, tokens]

theorem chargeReservation_spec (positive : 0 < input.quota)
    (done : chargeReservation context db input reservation = .ok (final, after))
    (user : reservation.userId = input.userId) (token : reservation.tokenId = input.tokenId)
    (quota : reservation.quota = input.quota)
    (charged : reservation.tokenCharged = input.tokenCharged)
    (stored : db.reservations.find? reservation.id = some reservation) :
    final = { reservation with tokenUnlimited := final.tokenUnlimited } ∧
      after.midjourneys = db.midjourneys ∧ after.reservations = db.reservations.save final ∧
      (∀ meter, reading after meter = reading db meter + stake final meter) ∧
      db.users.updateWhere input.userId (fun row => live row && decide (input.quota ≤ row.quota))
        (fun row => { row with quota := row.quota - input.quota }) = some after.users ∧
      Bills context.time db after := by
  rcases bind_ok done with ⟨debited, debiting, done⟩
  unfold debitUser at debiting
  split at debiting <;> cases debiting
  rename_i users updated
  have debit : ∀ meter, reading { db with users } meter =
      reading db meter + walletPart input.userId (-input.quota) meter :=
    reading_users updated (fun _ => rfl) (fun _ => Int.sub_eq_add_neg)
  split at done
  · rename_i charging
    rcases bind_ok done with ⟨⟨unlimited, spent⟩, spending, done⟩
    cases done
    rcases debitToken_spec positive spending with ⟨⟨tokens, rfl⟩, bills, spend⟩
    refine ⟨rfl, rfl, rfl, ?_, updated, bills⟩
    intro meter
    rw [reading_saveReservation, spend, debit, stake]
    simp only [charged, charging, if_true, user, token, quota]
    omega
  · rename_i free
    cases done
    refine ⟨rfl, rfl, (save_of_find? stored).symm, ?_, updated, .of_tokens rfl⟩
    intro meter
    rw [debit, stake, charged, if_neg free, user, quota, Int.add_zero]

theorem reserve_effect
    (done : reserveTrimmed context db input = .ok (reservation, created, after)) :
    (after.midjourneys = db.midjourneys ∧ Effect db after (.request input.requestId) false) ∧
      (after.users = db.users ∨ 0 < input.quota ∧
        db.users.updateWhere input.userId (fun row => live row && decide (input.quota ≤ row.quota))
          (fun row => { row with quota := row.quota - input.quota }) = some after.users) ∧
      Bills context.time db after := by
  unfold reserveTrimmed at done
  split at done
  · cases done
  split at done
  · split at done <;> cases done
    exact ⟨⟨rfl, .idle _ rfl (fun _ => rfl)⟩, .inl rfl, .of_tokens rfl⟩
  · rename_i absent
    have positive : 0 < input.quota := by omega
    rcases bind_ok done with ⟨⟨fresh, stored⟩, creating, done⟩
    rcases bind_ok done with ⟨⟨final, charged⟩, charging, done⟩
    cases done
    rcases createReservation_spec creating with ⟨rfl, reservations, inserted, rfl⟩
    have found : reservations.find? (newReservation db input).id =
        some (newReservation db input) := by
      rw [find?_insert? inserted, if_pos rfl]
    rcases chargeReservation_spec positive charging rfl rfl rfl rfl found with
      ⟨shape, tasks, saved, meters, debited, bills⟩
    refine ⟨⟨tasks, ?_⟩, .inr ⟨positive, debited⟩, bills⟩
    have request : reservation.requestId = input.requestId := by rw [shape]; rfl
    have id : reservation.id = (newReservation db input).id := by rw [shape]
    rw [← request]
    apply Effect.opened reservation
    · rw [request]
      exact absent
    · -- The row is inserted and saved once more with the token's flag.
      have appended := (insert?_eq_some (insert?_save inserted id)).2
      rw [saved, appended]
    · rw [shape]
      rfl
    · have quota : reservation.quota = input.quota := by rw [shape]; rfl
      rw [quota]
      exact positive
    · intro meter
      rw [meters]
      exact congrArg (· + _) (reading_congr rfl rfl meter)

variable {outcome : BillingOutcome} {changed won : Bool} {tasks : Table Midjourney.id}
  {task : Midjourney}

theorem outcome_writes
    (done : applyMidjourneyReservationOutcome settings db reservation outcome =
      .ok (changed, after)) :
    Writes db after (reservationCredit reservation outcome) ∧
      Bills settings.context.time db after := by
  rcases outcome_cases done with ⟨-, rfl⟩ | ⟨-, -, -, rfl⟩ | ⟨-, rfl, status, refunding⟩
  · exact ⟨.of_same fun _ => rfl, .of_tokens rfl⟩
  · exact ⟨.of_same fun _ => rfl, .of_tokens rfl⟩
  · rcases refundReservation_spec refunding with ⟨-, -, writes, bills, -⟩
    simp only [reservationCredit, status, and_self, if_true]
    exact ⟨writes, bills⟩

theorem outcome_effect (found : db.reservations.find? reservation.id = some reservation)
    (done : applyMidjourneyReservationOutcome settings db reservation outcome =
      .ok (changed, after)) :
    after.midjourneys = db.midjourneys ∧
      Effect db after (.request reservation.requestId)
        (decide (outcome = .failure) && changed) := by
  rcases outcome_cases done with
    ⟨rfl, rfl⟩ | ⟨rfl, rfl, status, rfl⟩ | ⟨rfl, rfl, status, refunding⟩
  · rw [Bool.and_false]
    exact ⟨rfl, .idle _ rfl (fun _ => rfl)⟩
  · refine ⟨rfl, .moved reservation reservation.midjourneyTaskId .settled found rfl status ?_⟩
    intro meter
    rw [reading_saveReservation, if_neg (by decide), Int.sub_zero]
  · rcases refundReservation_spec refunding with ⟨tasks, rows, -, -, meters⟩
    refine ⟨tasks, .moved reservation reservation.midjourneyTaskId .refunded found rows status ?_⟩
    intro meter
    rw [meters, if_pos rfl]

theorem linked_effect (found : db.reservations.find? reservation.id = some reservation)
    (pending : reservation.status = .reserved) (done : applyMidjourneyReservationOutcome settings
      (saveReservation { db with midjourneys := tasks }
        { reservation with midjourneyTaskId := taskId })
      { reservation with midjourneyTaskId := taskId } outcome = .ok (changed, after)) :
    after.midjourneys = tasks ∧
      Effect db after (.request reservation.requestId)
        (decide (outcome = .failure) && changed) := by
  have unmoved : ∀ meter, reading (saveReservation { db with midjourneys := tasks }
      { reservation with midjourneyTaskId := taskId }) meter = reading db meter := by
    intro meter
    exact reading_congr rfl rfl meter
  rcases outcome_cases done with ⟨rfl, rfl⟩ | ⟨rfl, rfl, -, rfl⟩ | ⟨rfl, rfl, -, refunding⟩
  · rw [Bool.and_false]
    refine ⟨rfl, .moved reservation taskId .reserved found ?_ pending ?_⟩
    · rw [← pending]
      rfl
    · intro meter
      rw [unmoved, if_neg (by decide), Int.sub_zero]
  · refine ⟨rfl, .moved reservation taskId .settled found ?_ pending ?_⟩
    · exact save_save _ rfl
    · intro meter
      rw [reading_saveReservation, unmoved, if_neg (by decide), Int.sub_zero]
  · rcases refundReservation_spec refunding with ⟨same, rows, -, -, meters⟩
    refine ⟨same, .moved reservation taskId .refunded found ?_ pending ?_⟩
    · rw [rows]
      exact save_save _ rfl
    · intro meter
      rw [meters, unmoved, if_pos rfl]
      rfl

theorem requestOf_found {id : Int} (found : db.reservations.find? id = some reservation) :
    requestOf db id = reservation.requestId := by
  rw [requestOf, found]
  rfl

theorem find?_id {id : Int} (found : db.reservations.find? id = some reservation) :
    db.reservations.find? reservation.id = some reservation := by
  rw [find?_key found]
  exact found

theorem close_effect {id : Int}
    (done : closeReservation settings db id outcome = .ok (changed, after)) :
    (after.midjourneys = db.midjourneys ∧
      Effect db after (.request (requestOf db id)) (decide (outcome = .failure) && changed)) ∧
      (∃ reservation, db.reservations.find? id = some reservation ∧
        Writes db after (reservationCredit reservation outcome)) ∧
      Bills settings.context.time db after := by
  unfold closeReservation at done
  split at done
  · cases done
  split at done
  · cases done
  rename_i reservation found
  rw [requestOf_found found]
  rcases outcome_writes done with ⟨writes, bills⟩
  exact ⟨outcome_effect (find?_id found) done, ⟨reservation, found, writes⟩, bills⟩

theorem create_effect
    (done : createMidjourneyTaskWithReservation settings db task reservationId outcome =
      .ok (refunded, after)) :
    ((∃ row : Midjourney, row.id = nextId Midjourney.id db.midjourneys.rows ∧
      db.midjourneys.insert? row = some after.midjourneys) ∧
      Effect db after (.request (requestOf db reservationId)) refunded) ∧
      Writes db after (taskCredit task outcome) ∧ Bills settings.context.time db after := by
  unfold createMidjourneyTaskWithReservation at done
  split at done
  · cases done
  split at done
  · cases done
  rename_i reservation found
  split at done
  · cases done
  rename_i agrees
  simp only [ne_eq, not_or, Decidable.not_not] at agrees
  simp only at done
  split at done
  · cases done
  rename_i tasks inserted
  rcases bind_ok done with ⟨⟨changed, final⟩, applied, done⟩
  cases done
  rcases linked_effect (find?_id found) agrees.1 applied with ⟨same, effect⟩
  rcases outcome_writes applied with ⟨writes, bills⟩
  simp only [reservationCredit, agrees, and_true] at writes
  refine ⟨⟨⟨_, rfl, same ▸ inserted⟩, ?_⟩, writes.of_users db rfl, bills⟩
  rw [requestOf_found found]
  exact effect

theorem Effect.of_tasks
    (effect : Effect { db with midjourneys := tasks } after (.request request) refunded) :
    Effect db after (.request request) refunded := by
  cases effect with
  | idle cause rows meters => exact .idle _ rows meters
  | opened reservation absent rows status positive meters =>
    exact .opened reservation absent rows status positive meters
  | moved reservation taskId status found rows pending meters =>
    exact .moved reservation taskId status found rows pending meters

theorem task_effect
    (done : applyTaskOutcome settings { db with midjourneys := tasks } task outcome =
      .ok (refunded, after)) :
    after.midjourneys = tasks ∧ (Known db task → Effect db after (taskCause db task) refunded) ∧
      (refunded = true → outcome = .failure) ∧ Writes db after (taskCredit task outcome) ∧
      Bills settings.context.time db after := by
  unfold applyTaskOutcome at done
  split at done
  · rename_i reserved
    split at done
    · cases done
    rename_i reservation found
    split at done
    · cases done
    rename_i agrees
    simp only [ne_eq, not_or, Decidable.not_not] at agrees
    rcases bind_ok done with ⟨⟨changed, final⟩, applied, done⟩
    cases done
    have here : db.reservations.find? task.quotaReservationId = some reservation := found
    rcases outcome_effect (find?_id found) applied with ⟨same, effect⟩
    rcases outcome_writes applied with ⟨writes, bills⟩
    simp only [reservationCredit, agrees] at writes
    refine ⟨same, fun _ => ?_, ?_, fun user quota held => ?_, bills⟩
    · rw [taskCause, if_pos reserved, requestOf_found here]
      exact effect.of_tasks
    · intro refunded
      simp only [Bool.and_eq_true, decide_eq_true_eq] at refunded
      exact refunded.1
    · rcases writes user quota held with same | ⟨amount, claimed, before⟩
      · exact .inl same
      · split at claimed
        · rename_i failed
          exact .inr ⟨amount, by simpa only [taskCredit, failed.1, if_true] using claimed, before⟩
        · cases claimed
  · rename_i free
    rw [taskCause, if_neg free]
    split at done
    · rename_i failure
      rcases bind_ok done with ⟨credited, crediting, done⟩
      cases done
      rcases refundUser_spec crediting with ⟨⟨users, rfl⟩, writes, credit⟩
      refine ⟨rfl, fun known => ?_, fun _ => failure.1, ?_, .of_tokens rfl⟩
      · refine Effect.legacy task known (by omega) rfl fun meter => ?_
        rw [credit]
        exact congrArg (· + _) (reading_congr rfl rfl meter)
      · simpa only [taskCredit, failure.1, if_true] using writes.of_users db rfl
    · cases done
      exact ⟨rfl, fun _ => .idle _ rfl (reading_congr rfl rfl), by simp, .of_same fun _ => rfl,
        .of_tokens rfl⟩

theorem update_effect (done : updateWithQuotaReservation settings db task fromStatus outcome =
      .ok (won, refunded, after)) :
    ((won = false ∧ refunded = false ∧ after = db) ∨
      (won = true ∧ (Known db task → Effect db after (taskCause db task) refunded) ∧
        (refunded = true → outcome = .failure) ∧
        after.midjourneys = db.midjourneys.save task ∧
        ∃ stored, db.midjourneys.find? task.id = some stored ∧ stored.status = fromStatus)) ∧
      Writes db after (taskCredit task outcome) ∧ Bills settings.context.time db after := by
  unfold updateWithQuotaReservation at done
  split at done
  · cases done
  split at done
  · cases done
    exact ⟨.inl ⟨rfl, rfl, rfl⟩, .of_same fun _ => rfl, .of_tokens rfl⟩
  · rename_i tasks updated
    rcases bind_ok done with ⟨⟨changed, final⟩, applied, done⟩
    cases done
    rcases updateWhere_eq_some updated with ⟨stored, found, passed, saved⟩
    rcases task_effect applied with ⟨same, effect, failure, paid⟩
    exact ⟨.inr ⟨rfl, effect, failure, same.trans saved, stored, found,
      of_decide_eq_true passed⟩, paid⟩

end Transactions

def shift (meter : Meter) (entry : Entry Database Cause Bool) : Int :=
  reading entry.after meter - reading entry.before meter

def refundCount (entry : Entry Database Cause Bool) : Int := if entry.answer then 1 else 0

structure Posted (entry : Entry Database Cause Bool) : Prop where
  moved : ∀ request, entry.cause = .request request → ∀ meter,
    shift meter entry = held entry.after request meter - held entry.before request meter
  counted : ∀ request, entry.cause = .request request →
    refundCount entry = returned entry.after request - returned entry.before request
  apart : ∀ request, entry.cause ≠ .request request →
    findReservation entry.after request = findReservation entry.before request

theorem findReservation_stored (distinct : Distinct db)
    (found : db.reservations.find? reservation.id = some reservation) :
    findReservation db reservation.requestId = some reservation := by
  have member : reservation ∈ (⟨_, distinct⟩ : Table MidjourneyQuotaReservation.requestId).rows :=
    (find?_mem found).1
  exact mem_find? member

theorem findReservation_append
    (rows : after.reservations.rows = db.reservations.rows ++ [reservation])
    (absent : findReservation db reservation.requestId = none) (request : String) :
    findReservation after request =
      if reservation.requestId = request then some reservation else findReservation db request := by
  simp only [findReservation] at absent ⊢
  rw [rows, List.find?_append]
  by_cases here : reservation.requestId = request
  · subst here
    simp [absent]
  · simp [here]

theorem findReservation_save {status : ReservationStatus} (distinct : Distinct db)
    (found : db.reservations.find? reservation.id = some reservation) (rows : after.reservations =
      db.reservations.save { reservation with midjourneyTaskId := taskId, status })
    (request : String) :
    findReservation after request =
      if reservation.requestId = request then
        some { reservation with midjourneyTaskId := taskId, status }
      else findReservation db request := by
  simp only [findReservation, rows]
  apply find_column_save distinct
  · exact found
  · rfl

section

variable {cause : Cause} (effect : Effect db after cause refunded)

include effect

theorem Effect.distinct (distinct : Distinct db) :
    Distinct after := by
  cases effect with
  | idle _ rows _ | legacy _ _ _ rows _ =>
    rw [Distinct, rows]
    exact distinct
  | opened reservation absent rows _ _ _ =>
    rw [Distinct, rows, List.map_append]
    have fresh : reservation.requestId ∉
        db.reservations.rows.map MidjourneyQuotaReservation.requestId := by
      rw [← find?_eq_none_iff (⟨_, distinct⟩ : Table _)]
      exact absent
    simpa [List.nodup_append, distinct] using ⟨distinct, fun stored member same =>
      fresh (same ▸ List.mem_map_of_mem member)⟩
  | moved reservation taskId status found rows _ _ =>
    have columns : after.reservations.rows.map MidjourneyQuotaReservation.requestId =
        db.reservations.rows.map MidjourneyQuotaReservation.requestId := by
      rw [rows]
      apply map_rows_save
      · exact found
      · rfl
    rw [Distinct, columns]
    exact distinct

theorem Effect.posted (distinct : Distinct db) :
    Posted ⟨cause, db, after, refunded⟩ := by
  cases effect with
  | idle _ rows meters =>
    have same : ∀ request, findReservation after request = findReservation db request := by
      intro request
      rw [findReservation, rows]
      rfl
    constructor
    · intro request _ meter
      simp only [shift, meters, held, same, Int.sub_self]
    · intro request _
      simp only [refundCount, returned, same, Int.sub_self, Bool.false_eq_true, if_false]
    · intro request _
      exact same request
  | opened reservation absent rows status _ meters =>
    have lookup := findReservation_append rows absent
    constructor
    · rintro _ ⟨⟩ meter
      simp [shift, meters, held, lookup, absent, status]
    · rintro _ ⟨⟩
      simp [refundCount, returned, lookup, absent, status]
    · intro request other
      rw [lookup, if_neg]
      rintro rfl
      exact other rfl
  | moved reservation taskId status found rows pending meters =>
    have lookup := findReservation_save distinct found rows
    have before := findReservation_stored distinct found
    constructor
    · rintro _ ⟨⟩ meter
      simp only [shift, meters, held, lookup, before, pending, if_true]
      have same : stake { reservation with midjourneyTaskId := taskId, status } meter =
        stake reservation meter := rfl
      rw [same]
      split <;> simp
    · rintro _ ⟨⟩
      simp only [refundCount, returned, lookup, before, pending, if_true]
      by_cases closed : status = .refunded <;> simp [closed]
    · intro request other
      rw [lookup, if_neg]
      rintro rfl
      exact other rfl
  | legacy task _ _ rows _ =>
    constructor
    · rintro _ ⟨⟩
    · rintro _ ⟨⟩
    · intro request _
      rw [findReservation, rows]
      rfl

theorem Effect.quota (distinct : Distinct db)
    (found : findReservation after request = some reservation) :
    0 < reservation.quota ∨
      ∃ old, findReservation db request = some old ∧ old.quota = reservation.quota := by
  cases effect with
  | idle _ rows _ | legacy _ _ _ rows _ =>
    rw [findReservation, rows] at found
    exact .inr ⟨reservation, found, rfl⟩
  | opened fresh absent rows _ positive _ =>
    rw [findReservation_append rows absent] at found
    split at found
    · cases found
      exact .inl positive
    · exact .inr ⟨reservation, found, rfl⟩
  | moved stored taskId status present rows _ _ =>
    rw [findReservation_save distinct present rows] at found
    split at found
    · rename_i here
      cases found
      exact .inr ⟨stored, here ▸ findReservation_stored distinct present, rfl⟩
    · exact .inr ⟨reservation, found, rfl⟩

end

end NewApi.MidjourneyMeters
