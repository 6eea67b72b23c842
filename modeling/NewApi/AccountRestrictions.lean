import NewApi.Payments
import NewApi.UserRows

/-!
Restrictions of an account under concurrent requests: disabling and demoting
(ManageUser), password resets, and the requests that write back a row they read
before (inviteUser, GetAffCode, and finishInsert / FinalizeOAuthUserCreation, which
issue the same statements on the new account). A request reads in one step and
commits in another; what it holds in between is part of the state. The restrictions
imposed so far are history that no step reads.
-/

namespace NewApi.AccountRestrictions

open Runs Wallet UserRows Table Option

def roleCommonUser : Int := 1

def roleAdminUser : Int := 10

def roleRootUser : Int := 100

def userStatusEnabled : Int := 1

def userStatusDisabled : Int := 2

inductive ManageAction where
  | disable
  | enable
  | promote
  | demote
  deriving DecidableEq

variable (db : Database)

def firstUser : Option User :=
  db.users.rows.foldl (fun best row =>
    match best with
    | none => some row
    | some least => if row.id < least.id then some row else some least) none

/-- `DB.Unscoped().Where(&user).First(&user)`: a zero id is no condition, and a missing row
leaves the request's own struct. -/
def manageTarget (id : Int) : User :=
  if id = 0 then (firstUser db).getD (blankUser 0)
  else (db.users.find? id).getD (blankUser id)

def canManageTargetRole (myRole targetRole : Int) : Bool :=
  myRole = roleRootUser || decide (targetRole < myRole)

def manageRow (myRole : Int) (user : User) (action : ManageAction) : Except StoreError User :=
  if user.id = 0 then .error (.message "user.not_exists")
  else if canManageTargetRole myRole user.role = false then
    .error (.message "user.no_permission_higher_level")
  else match action with
    | .disable =>
      if user.role = roleRootUser then .error (.message "user.cannot_disable_root_user")
      else .ok { user with status := userStatusDisabled }
    | .enable => .ok { user with status := userStatusEnabled }
    | .promote =>
      if myRole ≠ roleRootUser then .error (.message "user.admin_cannot_promote")
      else if roleAdminUser ≤ user.role then .error (.message "user.already_admin")
      else .ok { user with role := roleAdminUser }
    | .demote =>
      if user.role = roleRootUser then .error (.message "user.cannot_demote_root_user")
      else if user.role = roleCommonUser then .error (.message "user.already_common")
      else .ok { user with role := roleCommonUser }

def getUniqueUserByEmail (email : String) : Except StoreError User :=
  let email := Payments.normalizeEmail email
  if email = "" then .error (.message "email not found")
  else match db.users.rows.filter fun row => !row.deleted && decide (lower row.email = email) with
    | [] => .error (.message "email not found")
    | [row] => .ok row
    | _ => .error (.message "email matches multiple users")

/-- The version is advanced on a deleted row as well, the password is not. -/
def resetRow (stored : User) (hash : String) : User :=
  { stored with
    authVersion := nextAuthVersion stored.authVersion
    password := if stored.deleted then stored.password else hash }

/-- The transaction of `ResetUserPasswordByEmail`. -/
def resetPassword (id : Int) (hash : String) : Except StoreError Database :=
  if id ≤ 0 then .error invalidVersionUpdate
  else match db.users.find? id with
    | none => .error .recordNotFound
    | some stored => .ok { db with users := db.users.save (resetRow stored hash) }

/-- A request between its read and its commit. -/
inductive Pending where
  | manage (action : ManageAction) (row : User)
  | reset (id : Int) (hash : String)
  | invite (row : User)
  | affCode (row : User)
  | finish (row : User)
  deriving DecidableEq

inductive RequestStep where
  | manage (id : Int) (action : ManageAction) (myRole : Int)
  | reset (email hash : String)
  | invite (inviterId : Int)
  | affCode (id : Int) (code : String)
  | finishInsert (id : Int)
  | commit (pending : Pending)

structure Restriction where
  status : Option Int := none
  role : Option Int := none
  password : Option String := none
  deriving DecidableEq

structure RestrictionState where
  db : Database
  pending : List Pending := []
  imposed : Int → Restriction := fun _ => {}

def readRequest : RequestStep → Option Pending
  | .manage id action myRole =>
    (manageRow myRole (manageTarget db id) action).toOption.map (.manage action)
  | .reset email hash =>
    if email = "" then none
    else (getUniqueUserByEmail db email).toOption.map fun row => .reset row.id hash
  | .invite inviterId => (getUserById db inviterId).toOption.map .invite
  | .affCode id code =>
    (getUserById db id).toOption.bind fun row =>
      if row.affCode = "" then some (.affCode { row with affCode := code }) else none
  | .finishInsert id => ((db.users.find? id).filter live).map .finish
  | .commit _ => none

def commitPending (settings : Settings) (db : Database) : Pending → Except StoreError Database
  | .manage _ row | .affCode row | .finish row => updateWithTx settings db row none
  | .reset id hash => resetPassword db id hash
  | .invite row => saveUser settings db (invitedRow settings row)

def Pending.target : Pending → Int
  | .manage _ row | .invite row | .affCode row | .finish row => row.id
  | .reset id _ => id

/-- What the commit of an explicit request imposes or lifts. -/
def Pending.impose (restriction : Restriction) : Pending → Restriction
  | .manage .disable _ => { restriction with status := some userStatusDisabled }
  | .manage .enable _ => { restriction with status := none }
  | .manage .promote _ => { restriction with role := none }
  | .manage .demote _ => { restriction with role := some roleCommonUser }
  | .reset _ hash => { restriction with password := some hash }
  | .invite _ | .affCode _ | .finish _ => restriction

def imposeOn (imposed : Int → Restriction) (pending : Pending) (user : Int) : Restriction :=
  if pending.target = user then pending.impose (imposed user) else imposed user

variable (state : RestrictionState)

def perform (entry : Settings × RequestStep) : RestrictionState :=
  match entry.2 with
  | .commit pending =>
    if pending ∈ state.pending then
      match commitPending entry.1 state.db pending with
      | .error _ => { state with pending := state.pending.erase pending }
      | .ok db =>
        { db
          pending := state.pending.erase pending
          imposed := imposeOn state.imposed pending }
    else state
  | step =>
    match readRequest state.db step with
    | none => state
    | some pending => { state with pending := pending :: state.pending }

def begin : RestrictionState where
  db := db

def Obeys (restriction : Restriction) (row : User) : Prop :=
  (∀ status ∈ restriction.status, row.status = status) ∧
    (∀ role ∈ restriction.role, row.role = role) ∧
    ∀ password ∈ restriction.password, row.password = password

instance (restriction : Restriction) (row : User) : Decidable (Obeys restriction row) :=
  inferInstanceAs (Decidable (_ ∧ _ ∧ _))

/-- Every stored row still obeys what was imposed on it. -/
def Restricted : Prop :=
  ∀ row ∈ state.db.users.rows, Obeys (state.imposed row.id) row

instance (state : RestrictionState) : Decidable (Restricted state) :=
  inferInstanceAs (Decidable (∀ row ∈ state.db.users.rows, _))

def VersionsGrow (before after : Database) : Prop :=
  ∀ row ∈ before.users.rows, ∃ now ∈ after.users.find? row.id, row.authVersion ≤ now.authVersion

instance (before after : Database) : Decidable (VersionsGrow before after) :=
  inferInstanceAs (Decidable (∀ row ∈ before.users.rows, _))

def KeepsStatus (row stored : User) : Prop := row.status = 0 ∨ row.status = stored.status

def KeepsRole (row stored : User) : Prop := row.role = 0 ∨ row.role = stored.role

def KeepsPassword (row stored : User) : Prop := row.password = "" ∨ row.password = stored.password

/-- The columns that a request writes back without meaning to change them are still the stored
ones. -/
def Unstale (stored : User) : Pending → Prop
  | .manage .disable row | .manage .enable row => KeepsRole row stored ∧ KeepsPassword row stored
  | .manage .promote row | .manage .demote row => KeepsStatus row stored ∧ KeepsPassword row stored
  | .affCode row | .finish row =>
    KeepsStatus row stored ∧ KeepsRole row stored ∧ KeepsPassword row stored
  | .invite row =>
    row.status = stored.status ∧ row.role = stored.role ∧ row.password = stored.password ∧
      stored.authVersion ≤ row.authVersion
  | .reset _ _ => True

def Guarded (entry : Settings × RequestStep) : Prop :=
  match entry.2 with
  | .commit pending =>
    pending ∈ state.pending → ∀ stored ∈ state.db.users.find? pending.target,
      Unstale stored pending
  | _ => True

instance (row stored : User) : Decidable (KeepsStatus row stored) :=
  inferInstanceAs (Decidable (_ ∨ _))

instance (row stored : User) : Decidable (KeepsRole row stored) :=
  inferInstanceAs (Decidable (_ ∨ _))

instance (row stored : User) : Decidable (KeepsPassword row stored) :=
  inferInstanceAs (Decidable (_ ∨ _))

instance (stored : User) (pending : Pending) : Decidable (Unstale stored pending) := by
  unfold Unstale
  split <;> infer_instance

instance (state : RestrictionState) (entry : Settings × RequestStep) :
    Decidable (Guarded state entry) := by
  unfold Guarded
  split <;> infer_instance

def Pending.written (settings : Settings) (stored : User) : Pending → User
  | .manage _ row | .affCode row | .finish row => updatedRow stored row none
  | .reset _ hash => resetRow stored hash
  | .invite row => invitedRow settings row

variable {db} {pending : Pending} {state}
variable {saved stored row user : User} {settings : Settings} {after third second first : Database}
  {restriction : Restriction}

theorem find?_save_written (sameId : saved.id = pending.target)
    (shape : ∀ stored ∈ db.users.find? pending.target, saved = pending.written settings stored)
    (id : Int) :
    (db.users.save saved).find? id =
      (db.users.find? id).map fun stored =>
        if pending.target = id then pending.written settings stored else stored := by
  rw [find?_save, sameId]
  split
  · rename_i target
    subst target
    exact map_congr shape
  · exact map_id'.symm

theorem commitPending_find (committed : commitPending settings db pending = .ok after) (id : Int) :
    after.users.find? id =
      (db.users.find? id).map fun stored =>
        if pending.target = id then pending.written settings stored else stored := by
  cases pending with
  | manage action row | affCode row | finish row =>
    obtain ⟨stored, found, -, rfl⟩ := updateWithTx_ok committed
    have sameId : stored.id = row.id := find?_key found
    exact find?_save_written sameId
      (fun _ present => congrArg (updatedRow · row none) (mem_unique found present)) id
  | reset target hash =>
    simp only [commitPending, resetPassword] at committed
    split at committed
    · cases committed
    split at committed
    · cases committed
    rename_i stored found
    cases committed
    have sameId : stored.id = target := find?_key found
    exact find?_save_written sameId
      (fun _ present => congrArg (resetRow · hash) (mem_unique found present)) id
  | invite row =>
    obtain rfl := saveUser_ok committed
    exact find?_save_written rfl (fun _ _ => rfl) id

theorem nextAuthVersion_grows (current : Int) : current ≤ nextAuthVersion current := by
  unfold nextAuthVersion
  split <;> omega

theorem updatedRow_version (stored row : User) (hash : Option String) :
    stored.authVersion ≤ (updatedRow stored row hash).authVersion := by
  change stored.authVersion ≤ versionAfter stored _
  unfold versionAfter
  split
  · exact nextAuthVersion_grows stored.authVersion
  · exact Int.le_refl _

theorem written_version (unstale : Unstale stored pending) :
    stored.authVersion ≤ (pending.written settings stored).authVersion := by
  cases pending with
  | manage _ row | affCode row | finish row => exact updatedRow_version stored row none
  | reset _ hash => exact nextAuthVersion_grows stored.authVersion
  | invite row => exact unstale.2.2.2

theorem updatedRow_status (keeps : KeepsStatus row stored) :
    (updatedRow stored row none).status = stored.status := numberOr_kept keeps

theorem updatedRow_role (keeps : KeepsRole row stored) :
    (updatedRow stored row none).role = stored.role := numberOr_kept keeps

theorem updatedRow_password (keeps : KeepsPassword row stored) :
    (updatedRow stored row none).password = stored.password := textOr_kept keeps

def WellRead (db : Database) : Pending → Prop
  | .manage .disable row => row.status = userStatusDisabled
  | .manage .demote row => row.role = roleCommonUser
  | .reset id _ => ∃ row, db.users.find? id = some row ∧ row.deleted = false
  | .invite row => row.deleted = false
  | _ => True

theorem Obeys.of_columns (obeys : Obeys restriction stored) (status : row.status = stored.status)
    (role : row.role = stored.role) (password : row.password = stored.password) :
    Obeys restriction row := by
  unfold Obeys
  rw [status, role, password]
  exact obeys

theorem written_obeys (found : db.users.find? pending.target = some stored)
    (read : WellRead db pending) (unstale : Unstale stored pending)
    (obeys : Obeys restriction stored) :
    Obeys (pending.impose restriction) (pending.written settings stored) := by
  cases pending with
  | manage action row =>
    cases action with
    | disable =>
      refine ⟨?_, fun _ held => (updatedRow_role unstale.1).trans (obeys.2.1 _ held),
        fun _ held => (updatedRow_password unstale.2).trans (obeys.2.2 _ held)⟩
      rintro _ ⟨⟩
      change numberOr row.status stored.status = userStatusDisabled
      rw [show row.status = userStatusDisabled from read]
      rfl
    | enable =>
      refine ⟨?_, fun _ held => (updatedRow_role unstale.1).trans (obeys.2.1 _ held),
        fun _ held => (updatedRow_password unstale.2).trans (obeys.2.2 _ held)⟩
      rintro _ ⟨⟩
    | promote =>
      refine ⟨fun _ held => (updatedRow_status unstale.1).trans (obeys.1 _ held), ?_,
        fun _ held => (updatedRow_password unstale.2).trans (obeys.2.2 _ held)⟩
      rintro _ ⟨⟩
    | demote =>
      refine ⟨fun _ held => (updatedRow_status unstale.1).trans (obeys.1 _ held), ?_,
        fun _ held => (updatedRow_password unstale.2).trans (obeys.2.2 _ held)⟩
      rintro _ ⟨⟩
      change numberOr row.role stored.role = roleCommonUser
      rw [show row.role = roleCommonUser from read]
      rfl
  | reset id hash =>
    refine ⟨obeys.1, obeys.2.1, ?_⟩
    rintro _ ⟨⟩
    obtain ⟨row, present, visible⟩ := read
    have same : stored = row := Option.some.inj (found.symm.trans present)
    change (if stored.deleted = true then stored.password else hash) = hash
    rw [same, visible]
    rfl
  | affCode row | finish row =>
    exact obeys.of_columns (updatedRow_status unstale.1) (updatedRow_role unstale.2.1)
      (updatedRow_password unstale.2.2)
  | invite row => exact obeys.of_columns unstale.1 unstale.2.1 unstale.2.2.1

theorem written_deleted (read : WellRead db pending) (visible : stored.deleted = false) :
    (pending.written settings stored).deleted = false := by
  cases pending with
  | manage _ _ | reset _ _ | affCode _ | finish _ => exact visible
  | invite row => exact read

/-! One step. -/

theorem toOption_eq_some {Error Value : Type} {result : Except Error Value} {value : Value}
    (present : result.toOption = some value) : result = .ok value := by
  cases result with
  | error cause => cases present
  | ok other =>
    cases present
    rfl

structure Kept (state : RestrictionState) : Prop where
  read : ∀ pending ∈ state.pending, WellRead state.db pending
  restricted : Restricted state

theorem kept_begin (start : Database) : Kept (begin start) := by
  constructor
  · intro pending member
    cases member
  · intro row member
    refine ⟨?_, ?_, ?_⟩ <;> rintro _ ⟨⟩

theorem manageRow_wellRead {myRole : Int} {action : ManageAction}
    (managed : manageRow myRole user action = .ok row) : WellRead db (.manage action row) := by
  unfold manageRow at managed
  split at managed
  · cases managed
  split at managed
  · cases managed
  cases action with
  | disable =>
    simp only at managed
    split at managed
    · cases managed
    cases managed
    rfl
  | enable => trivial
  | promote => trivial
  | demote =>
    simp only at managed
    split at managed
    · cases managed
    split at managed
    · cases managed
    cases managed
    rfl

theorem getUniqueUserByEmail_live {email : String}
    (loaded : getUniqueUserByEmail db email = .ok row) :
    db.users.find? row.id = some row ∧ row.deleted = false := by
  unfold getUniqueUserByEmail at loaded
  simp only at loaded
  split at loaded
  · cases loaded
  split at loaded
  · cases loaded
  · rename_i only
    cases loaded
    have member : row ∈ db.users.rows.filter fun row =>
        !row.deleted && decide (lower row.email = Payments.normalizeEmail email) := by
      rw [only]
      exact List.mem_singleton_self row
    rw [List.mem_filter] at member
    refine ⟨mem_find? member.1, ?_⟩
    have visible := member.2
    rw [Bool.and_eq_true] at visible
    simpa using visible.1
  · cases loaded

theorem readRequest_wellRead {step : RequestStep} (loaded : readRequest db step = some pending) :
    WellRead db pending := by
  cases step with
  | manage id action myRole =>
    obtain ⟨row, managed, rfl⟩ := map_eq_some_iff.mp loaded
    exact manageRow_wellRead (toOption_eq_some managed)
  | reset email hash =>
    simp only [readRequest] at loaded
    split at loaded
    · cases loaded
    obtain ⟨row, found, rfl⟩ := map_eq_some_iff.mp loaded
    exact ⟨row, getUniqueUserByEmail_live (toOption_eq_some found)⟩
  | invite inviterId =>
    obtain ⟨row, found, rfl⟩ := map_eq_some_iff.mp loaded
    exact (getUserById_ok (toOption_eq_some found)).2
  | affCode id code =>
    obtain ⟨row, -, chosen⟩ := bind_eq_some_iff.mp loaded
    split at chosen <;> cases chosen
    trivial
  | finishInsert id =>
    obtain ⟨row, -, rfl⟩ := map_eq_some_iff.mp loaded
    trivial
  | commit _ => cases loaded

section

variable (committed : commitPending settings state.db pending = .ok after)

include committed

theorem commit_restricted (kept : Kept state) (member : pending ∈ state.pending)
    (unstale : ∀ stored ∈ state.db.users.find? pending.target, Unstale stored pending)
    (rest : List Pending) :
    Restricted
      { db := after, pending := rest, imposed := imposeOn state.imposed pending } := by
  intro row present
  have found := mem_find? present
  rw [commitPending_find committed, map_eq_some_iff] at found
  obtain ⟨stored, before, written⟩ := found
  have obeys := kept.restricted stored (find?_mem before).1
  rw [find?_key before] at obeys
  change Obeys (imposeOn state.imposed pending row.id) row
  unfold imposeOn
  split at written
  · rename_i target
    rw [← target] at before
    subst written
    rw [if_pos target]
    exact written_obeys before (kept.read pending member) (unstale stored before) obeys
  · rename_i other
    subst written
    rw [if_neg other]
    exact obeys

theorem commit_live (kept : Kept state) (member : pending ∈ state.pending) {id : Int}
    (live : ∃ row, state.db.users.find? id = some row ∧ row.deleted = false) :
    ∃ row, after.users.find? id = some row ∧ row.deleted = false := by
  obtain ⟨row, found, visible⟩ := live
  rw [commitPending_find committed, found]
  refine ⟨_, rfl, ?_⟩
  split
  · exact written_deleted (kept.read pending member) visible
  · exact visible

theorem commit_versions
    (unstale : ∀ stored ∈ state.db.users.find? pending.target, Unstale stored pending) :
    VersionsGrow state.db after := by
  intro row present
  have found := mem_find? present
  rw [commitPending_find committed, found]
  refine ⟨_, rfl, ?_⟩
  split
  · rename_i target
    rw [← target] at found
    exact written_version (unstale row found)
  · exact Int.le_refl _

theorem commit_wellRead {other : Pending} (kept : Kept state) (member : pending ∈ state.pending)
    (read : WellRead state.db other) : WellRead after other := by
  cases other with
  | reset id hash => exact commit_live committed kept member read
  | manage action row => cases action <;> exact read
  | invite row => exact read
  | affCode row => trivial
  | finish row => trivial

end

theorem VersionsGrow.refl (db : Database) : VersionsGrow db db :=
  fun row member => ⟨row, mem_find? member, Int.le_refl _⟩

theorem VersionsGrow.trans (left : VersionsGrow first second) (right : VersionsGrow second third) :
    VersionsGrow first third := by
  intro row member
  obtain ⟨middle, found, grows⟩ := left row member
  obtain ⟨now, present, more⟩ := right middle (find?_mem found).1
  rw [find?_key found] at present
  exact ⟨now, present, Int.le_trans grows more⟩

theorem Kept.read_step {step : RequestStep} (kept : Kept state)
    (loaded : readRequest state.db step = some pending) :
    Kept { state with pending := pending :: state.pending } := by
  refine ⟨?_, kept.restricted⟩
  rw [List.forall_mem_cons]
  exact ⟨readRequest_wellRead loaded, kept.read⟩

theorem Kept.commit (kept : Kept state)
    (unstale : pending ∈ state.pending → ∀ stored ∈ state.db.users.find? pending.target,
      Unstale stored pending) :
    Kept (perform state (settings, .commit pending)) ∧
      VersionsGrow state.db (perform state (settings, .commit pending)).db := by
  dsimp only [perform]
  split
  · rename_i member
    split
    · exact ⟨⟨fun other waits => kept.read other (List.mem_of_mem_erase waits), kept.restricted⟩,
        .refl state.db⟩
    · rename_i after committed
      refine ⟨⟨?_, commit_restricted committed kept member (unstale member) _⟩,
        commit_versions committed (unstale member)⟩
      intro other waits
      exact commit_wellRead committed kept member (kept.read other (List.mem_of_mem_erase waits))
  · exact ⟨kept, .refl state.db⟩

theorem Kept.step {entry : Settings × RequestStep} (kept : Kept state)
    (guarded : Guarded state entry) :
    Kept (perform state entry) ∧ VersionsGrow state.db (perform state entry).db := by
  obtain ⟨settings, step⟩ := entry
  cases step with
  | commit pending => exact kept.commit guarded
  | manage _ _ _ | reset _ _ | invite _ | affCode _ _ | finishInsert _ =>
    dsimp only [AccountRestrictions.perform]
    split
    · exact ⟨kept, .refl state.db⟩
    rename_i pending loaded
    exact ⟨kept.read_step loaded, .refl state.db⟩

theorem Kept.run_steps {steps : List (Settings × RequestStep)} (kept : Kept state)
    (guarded : AllSteps perform Guarded state steps) :
    Kept (run perform state steps) ∧ VersionsGrow state.db (run perform state steps).db := by
  have invariant : ∀ middle entry, Guarded middle entry →
      Kept middle ∧ VersionsGrow state.db middle.db →
      Kept (perform middle entry) ∧ VersionsGrow state.db (perform middle entry).db := by
    rintro middle entry guarded ⟨kept, grown⟩
    have next := kept.step guarded
    exact ⟨next.1, grown.trans next.2⟩
  exact run_invariant invariant state steps guarded ⟨kept, .refl state.db⟩

/-- In every state of a run whose write-backs meet the condition, every restriction stands until
it is lifted, and no authentication version is lower than in an earlier state. -/
theorem guarded_runs_keep_restrictions (start : Database)
    (steps : List (Settings × RequestStep))
    (guarded : AllSteps perform Guarded (begin start) steps)
    (reached : List (Settings × RequestStep)) (part : reached <+: steps) :
    Restricted (run perform (begin start) reached) ∧
      ∀ earlier, earlier <+: reached →
        VersionsGrow (run perform (begin start) earlier).db
          (run perform (begin start) reached).db := by
  obtain ⟨rest, rfl⟩ := part
  have allowed := guarded.of_append
  refine ⟨((kept_begin start).run_steps allowed).1.restricted, ?_⟩
  rintro earlier ⟨later, rfl⟩
  have middle := (kept_begin start).run_steps allowed.of_append
  rw [run_append]
  exact (middle.1.run_steps allowed.of_append_right).2

def sampleSettings : Settings where
  context :=
    { calendar := ⟨id, id, id, id, fun _ _ day => day, fun base _ _ days => base + days⟩
      hashTokenKey := id
      dbTime := 1771718500
      time := 1771718500 }
  quotaForInviter := 500000

def sampleRow : User :=
  { id := 1, username := "u", password := "old", email := "u@example.com", role := 10 }

def sampleStore : Database where
  users := ⟨[sampleRow], by decide⟩

def atSettings (steps : List RequestStep) : List (Settings × RequestStep) :=
  steps.map fun step => (sampleSettings, step)

def demotedRow : User := { sampleRow with role := 1, authVersion := 2 }

/-- A demotion and a password reset, then a request that stores the invitation code. -/
def sampleSteps : List (Settings × RequestStep) :=
  atSettings
    [.manage 1 .demote 100, .commit (.manage .demote { sampleRow with role := 1 }),
      .reset "u@example.com" "new", .commit (.reset 1 "new"), .affCode 1 "code",
      .commit (.affCode
        { demotedRow with password := "new", authVersion := 3, affCode := "code" })]

theorem guarded_runs_keep_restrictions_sample :
    (run perform (begin sampleStore) sampleSteps).imposed 1 =
        { role := some 1, password := some "new" } ∧
      Restricted (run perform (begin sampleStore) sampleSteps) :=
  ⟨by decide +kernel,
    (guarded_runs_keep_restrictions sampleStore sampleSteps (by decide +kernel) sampleSteps
      List.prefix_rfl).1⟩

/-- `inviteUser` undoes a disable that committed between its read and its save, and takes the
authentication version back; storing an invitation code undoes a password reset. -/
theorem stale_rows_undo_restrictions :
    (¬ Restricted (run perform (begin sampleStore) (atSettings
        [.invite 1, .manage 1 .disable 100,
          .commit (.manage .disable { sampleRow with status := 2 }),
          .commit (.invite sampleRow)])) ∧
      ¬ VersionsGrow
        (run perform (begin sampleStore) (atSettings
          [.invite 1, .manage 1 .disable 100,
            .commit (.manage .disable { sampleRow with status := 2 })])).db
        (run perform (begin sampleStore) (atSettings
          [.invite 1, .manage 1 .disable 100,
            .commit (.manage .disable { sampleRow with status := 2 }),
            .commit (.invite sampleRow)])).db) ∧
      ¬ Restricted (run perform (begin sampleStore) (atSettings
        [.affCode 1 "code", .reset "u@example.com" "new", .commit (.reset 1 "new"),
          .commit (.affCode { sampleRow with affCode := "code" })])) := by
  decide +kernel

end NewApi.AccountRestrictions
