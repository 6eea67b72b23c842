import NewApi.Runs
import NewApi.Table
import NewApi.UserSessions

/-!
Admission of login sessions (`AdmitUserSession`, model/user_session.go) over the rows of all
users, beside refreshes, revocations and the clean-up of old rows. Every call is one statement
or transaction; times do not decrease, except that a clean-up may work with the time it started
at. The limits are the configured ones. The user's row is given to a login as it is found.
-/

namespace NewApi.SessionAdmission

open Runs UserSessions
open List hiding after

structure SessionRow extends UserSession where
  sid : String
  userID : Int
  createdAt : Int := 0
  deriving DecidableEq

/-- The limits, the window of the clean-up being the one of the limits. -/
structure Limits where
  active : Nat
  issuance : Nat
  windowSeconds : Int
  revokedRetentionDays : Int
  session : SessionConfig

inductive AdmissionError where
  | invalid | authVersionMismatch | limit | issuanceLimit | userNotFound | duplicate
  deriving DecidableEq

/-- `issued` is history: the user and the time of every session that was created. -/
structure Store where
  sessions : Table SessionRow.sid := Table.empty
  time : Int := 0
  issued : List (Int × Int) := []

variable (limits : Limits)

def isActive (userID now : Int) (row : SessionRow) : Bool :=
  row.userID = userID ∧ openAt row.toUserSession now = true ∧
    idleAt limits.session row.toUserSession now = false

def createdAfter (userID time : Int) (row : SessionRow) : Bool :=
  row.userID = userID && decide (time < row.createdAt)

def prepareUserSessionForCreate (session : SessionRow) (now : Int) :
    Except AdmissionError SessionRow :=
  if session.sid = "" ∨ session.userID ≤ 0 ∨ session.refreshHash = "" ∨ session.expiresAt ≤ now ∨
      session.status ≠ .active ∨ session.revokedAt ≠ 0 then .error .invalid
  else .ok { session with
    version := if session.version ≤ 0 then 1 else session.version
    lastActiveAt := if session.lastActiveAt = 0 then now else session.lastActiveAt
    createdAt := if session.createdAt = 0 then now else session.createdAt }

variable (store : Store)

/-- `user` is the user's status and auth version. -/
def admitUserSession (user : Option (Bool × Int)) (session : SessionRow)
    (expectedAuthVersion now : Int) : Except AdmissionError Store :=
  if expectedAuthVersion < 0 ∨ now ≤ 0 ∨ limits.active = 0 ∨ limits.issuance = 0 ∨
      limits.windowSeconds ≤ 0 then .error .invalid
  else match prepareUserSessionForCreate session now, user with
    | .error cause, _ => .error cause
    | .ok _, none => .error .userNotFound
    | .ok session, some (enabled, authVersion) =>
      if !enabled ∨ authVersion ≤ 0 then .error .invalid
      else if 0 < expectedAuthVersion ∧ authVersion ≠ expectedAuthVersion then
        .error .authVersionMismatch
      else if limits.active ≤ store.sessions.rows.countP (isActive limits session.userID now) then
        .error .limit
      else if limits.issuance ≤ store.sessions.rows.countP
          (createdAfter session.userID (now - limits.windowSeconds)) then .error .issuanceLimit
      else match store.sessions.insert? { session with userAuthVersion := authVersion } with
        | none => .error .duplicate
        | some sessions => .ok { store with
            sessions
            issued := (session.userID, session.createdAt) :: store.issued }

def loginSessionTTL : Int := 30 * 24 * 60 * 60

/-- The session that `createLoginSession` asks for. -/
def loginSession (sid : String) (userID : Int) (refreshHash : String) (now : Int) : SessionRow :=
  { sid, userID, refreshHash, createdAt := now, lastActiveAt := now
    expiresAt := now + loginSessionTTL }

inductive Call where
  | login (sid : String) (userID : Int) (refreshHash : String) (user : Option (Bool × Int))
      (expectedAuthVersion : Int)
  -- The update of `RotateUserSessionRefresh`.
  | rotate (userID : Int) (sid presentedHash nextHash : String) (graceSeconds : Int)
  | revoke (sids : List String) (reason : String)
  -- The batches of a clean-up that started earlier.
  | deleteExpired (sids : List String) (started : Int)
  | deleteRevoked (sids : List String) (started : Int)

def rotateUserSessionRefresh (userID : Int) (sid : String) (rotation : Rotation) :
    Table SessionRow.sid :=
  store.sessions.updateAll (fun row => row.sid = sid ∧ row.userID = userID ∧
      (rotateUpdate limits.session rotation row.toUserSession).isSome)
    (fun row => { row with toUserSession := rotatedSession rotation row.toUserSession })
    fun _ => rfl

def revokeUserSessions (sids : List String) (now : Int) (reason : String) : Table SessionRow.sid :=
  store.sessions.updateAll (fun row => row.sid ∈ sids ∧ row.status = .active)
    (fun row => { row with toUserSession := revokedWith row.toUserSession now reason })
    fun _ => rfl

/-- The conditions of `deleteExpiredUserSessionsBefore` and `deleteRevokedUserSessionsBefore`. -/
def expiredBefore (started : Int) (row : SessionRow) : Bool :=
  row.expiresAt < started ∧ row.createdAt ≤ started - limits.windowSeconds ∧
    (row.status ≠ .revoked ∨ row.revokedAt ≤ 0 ∨
      row.revokedAt < started - limits.revokedRetentionDays * 24 * 60 * 60)

def revokedBefore (started : Int) (row : SessionRow) : Bool :=
  row.status = .revoked ∧ 0 < row.revokedAt ∧
    row.revokedAt < started - limits.revokedRetentionDays * 24 * 60 * 60 ∧
    row.createdAt ≤ started - limits.windowSeconds

/-- A call at a time. -/
def step (call : Int × Call) : Store :=
  let now := call.1
  let store := { store with time := now }
  match call.2 with
  | .login sid userID refreshHash user expectedAuthVersion =>
    match admitUserSession limits store user (loginSession sid userID refreshHash now)
        expectedAuthVersion now with
    | .ok after => after
    | .error _ => store
  | .rotate userID sid presentedHash nextHash graceSeconds =>
    { store with
      sessions := rotateUserSessionRefresh limits store userID sid
        ⟨presentedHash, nextHash, now, graceSeconds⟩ }
  | .revoke sids reason => { store with sessions := revokeUserSessions store sids now reason }
  | .deleteExpired sids started =>
    { store with
      sessions := store.sessions.remove fun row =>
        row.sid ∈ sids ∧ expiredBefore limits started row }
  | .deleteRevoked sids started =>
    { store with
      sessions := store.sessions.remove fun row =>
        row.sid ∈ sids ∧ revokedBefore limits started row }

/-- Times do not decrease, and a clean-up has started before. -/
def InOrder (call : Int × Call) : Prop :=
  store.time ≤ call.1 ∧
    match call.2 with
    | .deleteExpired _ started | .deleteRevoked _ started => started ≤ call.1
    | _ => True

instance (store : Store) (call : Int × Call) : Decidable (InOrder store call) := by
  unfold InOrder
  split <;> infer_instance

def issuedIn (userID start stop : Int) (entry : Int × Int) : Bool :=
  entry.1 = userID && decide (start ≤ entry.2) && decide (entry.2 < stop)

/-- The sessions that were issued in the window are still there, so that counting the rows counts
them. -/
structure Within (limits : Limits) (store : Store) : Prop where
  active : ∀ userID, store.sessions.rows.countP (isActive limits userID store.time) ≤ limits.active
  present : ∀ userID start, store.time - limits.windowSeconds < start →
    store.issued.countP (issuedIn userID start (store.time + 1)) ≤
      store.sessions.rows.countP (createdAfter userID (start - 1))
  past : ∀ entry ∈ store.issued, entry.2 ≤ store.time
  issuance : ∀ userID start,
    store.issued.countP (issuedIn userID start (start + limits.windowSeconds)) ≤ limits.issuance

variable {userID now time expected : Int} {row session : SessionRow} {limits} {store}
  {after : Store} {sessions : Table SessionRow.sid}

theorem isActive_before (later : time ≤ now) (active : isActive limits userID now row = true) :
    isActive limits userID time row = true := by
  simp only [isActive, openAt, idleAt, idleCutoff, decide_eq_true_eq, Bool.and_eq_true] at active ⊢
  obtain ⟨owner, ⟨status, expires⟩, recent⟩ := active
  have used := of_decide_eq_false recent
  refine ⟨owner, ⟨status, by omega⟩, decide_eq_false ?_⟩
  split at used <;> split <;> omega

section

variable (within : Within limits store) (later : store.time ≤ now)

include within later

/-- Rows that no call has made active again, and none of the window lost. -/
theorem Within.change (active : ∀ userID, sessions.rows.countP (isActive limits userID now) ≤
      store.sessions.rows.countP (isActive limits userID now))
    (kept : ∀ userID start, now - limits.windowSeconds < start →
      store.sessions.rows.countP (createdAfter userID (start - 1)) ≤
        sessions.rows.countP (createdAfter userID (start - 1))) :
    Within limits { store with sessions, time := now } where
  active userID := (active userID).trans
    ((countP_mono_left fun _ _ => isActive_before later).trans (within.active userID))
  present userID start recent := by
    dsimp only at recent ⊢
    refine le_trans ?_ ((within.present userID start (by omega)).trans (kept userID start recent))
    refine countP_mono_left fun entry member issued => ?_
    have bound := within.past entry member
    simp only [issuedIn, Bool.and_eq_true, decide_eq_true_eq] at issued ⊢
    omega
  past entry member := (within.past entry member).trans later
  issuance := within.issuance

theorem Within.update
    {guard : SessionRow → Bool} {change : SessionRow → SessionRow}
    (sameKey : ∀ row, (change row).sid = row.sid)
    (user : ∀ row, (change row).userID = row.userID)
    (created : ∀ row, (change row).createdAt = row.createdAt)
    (active : ∀ row userID, guard row = true → isActive limits userID now (change row) = true →
      isActive limits userID now row = true) :
    Within limits
      { store with sessions := store.sessions.updateAll guard change sameKey, time := now } := by
  refine within.change later (fun userID => ?_) fun userID start _ => ?_
  · rw [Table.updateAll, countP_map]
    refine countP_mono_left fun row _ here => ?_
    rw [Function.comp_apply] at here
    split at here
    · rename_i passed
      exact active row userID passed here
    · exact here
  · rw [Table.updateAll, countP_map]
    refine countP_mono_left fun row _ here => ?_
    rw [Function.comp_apply]
    split
    · rwa [createdAfter, user, created]
    · exact here

theorem Within.remove {gone : SessionRow → Bool}
    (old : ∀ row, gone row = true → row.createdAt ≤ now - limits.windowSeconds) :
    Within limits { store with sessions := store.sessions.remove gone, time := now } := by
  refine within.change later (fun _ => filter_sublist.countP_le) fun userID start recent => ?_
  rw [Table.remove, countP_filter]
  refine countP_mono_left fun row _ here => ?_
  cases removed : gone row with
  | false => simpa using here
  | true =>
    have created := old row removed
    simp only [createdAfter, Bool.and_eq_true, decide_eq_true_eq] at here
    omega

end

/-- What admits a session: the counts are below the limits. -/
theorem admitUserSession_ok {user : Option (Bool × Int)}
    (admitted : admitUserSession limits store user session expected now = .ok after)
    (created : session.createdAt = now) :
    ∃ row sessions, store.sessions.insert? row = some sessions ∧ row.userID = session.userID ∧
      row.createdAt = now ∧
      store.sessions.rows.countP (isActive limits session.userID now) < limits.active ∧
      store.sessions.rows.countP (createdAfter session.userID (now - limits.windowSeconds)) <
        limits.issuance ∧
      after = { store with sessions, issued := (session.userID, now) :: store.issued } := by
  unfold admitUserSession at admitted
  split at admitted
  · cases admitted
  rename_i sane
  split at admitted
  · cases admitted
  · cases admitted
  rename_i prepared enabled version accepted
  have kept : prepared.userID = session.userID ∧ prepared.createdAt = now := by
    unfold prepareUserSessionForCreate at accepted
    split at accepted
    · cases accepted
    · cases accepted
      exact ⟨rfl, by simp [created]⟩
  rw [← kept.1]
  iterate 3
    split at admitted
    · cases admitted
  rename_i below
  split at admitted
  · cases admitted
  rename_i slower
  split at admitted
  · cases admitted
  rename_i sessions inserted
  cases admitted
  exact ⟨_, sessions, inserted, rfl, kept.2, by omega, by omega, by rw [kept.2]⟩

theorem Within.admit (within : Within limits store)
    (inserted : store.sessions.insert? row = some sessions) (created : row.createdAt = store.time)
    (below : store.sessions.rows.countP (isActive limits row.userID store.time) < limits.active)
    (slower : store.sessions.rows.countP
      (createdAfter row.userID (store.time - limits.windowSeconds)) < limits.issuance) :
    Within limits
      { store with sessions, issued := (row.userID, store.time) :: store.issued } := by
  obtain ⟨-, rows⟩ := Table.insert?_eq_some inserted
  refine ⟨fun userID => ?_, fun userID start recent => ?_, ?_, fun userID start => ?_⟩
  · dsimp only
    rw [rows, countP_append, countP_singleton]
    split
    · rename_i active
      rw [← (of_decide_eq_true active).1]
      exact below
    · exact within.active userID
  · have counted : issuedIn userID start (store.time + 1) (row.userID, store.time) =
        createdAfter userID (start - 1) row := by
      simp only [issuedIn, createdAfter, created, Int.sub_one_lt_iff, Int.lt_add_one_iff, le_refl,
        decide_true, Bool.and_true]
    dsimp only
    rw [rows, countP_append, countP_singleton, countP_cons, counted]
    exact Nat.add_le_add_right (within.present userID start recent) _
  · exact forall_mem_cons.mpr ⟨le_refl _, within.past⟩
  · dsimp only
    rw [countP_cons]
    split
    · rename_i issued
      simp only [issuedIn, Bool.and_eq_true, decide_eq_true_eq] at issued
      obtain ⟨⟨rfl, started⟩, ends⟩ := issued
      -- Every earlier session of the interval is in the window of this one, and has its row.
      have window := within.present row.userID (store.time - limits.windowSeconds + 1) (by omega)
      have earlier : store.issued.countP
          (issuedIn row.userID start (start + limits.windowSeconds)) ≤ store.issued.countP
          (issuedIn row.userID (store.time - limits.windowSeconds + 1) (store.time + 1)) := by
        refine countP_mono_left fun entry member issued => ?_
        have bound := within.past entry member
        simp only [issuedIn, Bool.and_eq_true, decide_eq_true_eq] at issued ⊢
        omega
      rw [add_sub_cancel_right] at window
      omega
    · exact within.issuance userID start

theorem within_step (store : Store) (call : Int × Call) (order : InOrder store call)
    (within : Within limits store) : Within limits (step limits store call) := by
  obtain ⟨now, call⟩ := call
  obtain ⟨later, started⟩ := order
  cases call with
  | login sid userID refreshHash user expected =>
    have same : Within limits { store with time := now } :=
      within.change later (fun _ => le_refl _) fun _ _ _ => le_refl _
    simp only [step]
    split
    · rename_i admitted
      obtain ⟨row, sessions, inserted, owner, created, below, slower, rfl⟩ :=
        admitUserSession_ok admitted rfl
      rw [← owner] at below slower ⊢
      exact same.admit inserted created below slower
    · exact same
  | rotate userID sid presented next grace =>
    refine within.update later _ (fun _ => rfl) (fun _ => rfl) fun row other passed active => ?_
    obtain ⟨-, -, rotated⟩ := of_decide_eq_true passed
    unfold rotateUpdate at rotated
    split at rotated
    · rename_i live
      exact decide_eq_true ⟨(of_decide_eq_true active).1, live.1, live.2.1⟩
    · cases rotated
  | revoke sids reason =>
    refine within.update later _ (fun _ => rfl) (fun _ => rfl) fun row other _ active => ?_
    cases (of_decide_eq_true active).2.1
  | deleteExpired sids time =>
    refine within.remove later fun row gone => ?_
    have old := (of_decide_eq_true (of_decide_eq_true gone).2).2.1
    dsimp only at started
    omega
  | deleteRevoked sids time =>
    refine within.remove later fun row gone => ?_
    have old := (of_decide_eq_true (of_decide_eq_true gone).2).2.2.2
    dsimp only at started
    omega

/-- Along every run at times that do not decrease, a user has at most as many sessions active as
the limit allows, now and at every later time, and in every interval of the window's length at
most as many were created as the limit on issuance allows. -/
theorem admission_limits_hold (limits : Limits) (calls : List (Int × Call))
    (ordered : AllSteps (step limits) InOrder {} calls) (userID : Int) :
    let store := run (step limits) {} calls
    (∀ now, store.time ≤ now →
      store.sessions.rows.countP (isActive limits userID now) ≤ limits.active) ∧
    ∀ start, store.issued.countP (issuedIn userID start (start + limits.windowSeconds)) ≤
      limits.issuance := by
  have within : Within limits (run (step limits) {} calls) :=
    run_invariant within_step {} calls ordered
      ⟨fun _ => by simp [Table.empty], fun _ _ _ => by simp, by simp, fun _ _ => by simp⟩
  refine ⟨fun now later => ?_, within.issuance userID⟩
  exact (countP_mono_left fun _ _ => isActive_before later).trans (within.active userID)

def sampleLimits : Limits where
  active := 5
  issuance := 2
  windowSeconds := 100
  revokedRetentionDays := 7
  session := {}

def sampleCalls : List (Int × Call) :=
  let login := fun sid => Call.login sid 1 "hash" (some (true, 1)) 0
  [(10, login "a"), (10, login "b"), (20, login "c"), (30, .revoke ["a"] "logout"),
    (700000, .deleteRevoked ["a", "b"] 699990), (700000, login "d")]

theorem admission_limits_hold_sample :
    let store := run (step sampleLimits) {} sampleCalls
    store.sessions.rows.map (·.sid) = ["b", "d"] ∧
      store.issued = [(1, 700000), (1, 10), (1, 10)] ∧
      store.issued.countP (issuedIn 1 10 110) ≤ 2 :=
  ⟨by decide +kernel, by decide +kernel,
    (admission_limits_hold sampleLimits sampleCalls (by decide +kernel) 1).2 10⟩

end NewApi.SessionAdmission
