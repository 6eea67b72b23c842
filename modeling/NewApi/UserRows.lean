import NewApi.Wallet

/-!
Writers of a user's row (model/user.go). A request reads the row with
`getUserById` and hands it, changed, to one of the writers: `DB.Save` stores every
column, `UpdateWithTx` every column that is not zero except the counters and the
authentication version, `EditWithTx` a fixed list of columns. The password hash
a request computes is part of its input.
-/

namespace NewApi.UserRows

open Wallet

def getUserById (db : Database) (id : Int) : Except StoreError User :=
  if id = 0 then .error (.message "id 为空！")
  else match db.users.find? id with
    | none => .error .recordNotFound
    | some row => if row.deleted then .error .recordNotFound else .ok row

variable (settings : Settings)

/-- What an `int` column accepts. -/
def fits (value : Int) : Bool :=
  !settings.strictColumns || decide (minQuota ≤ value ∧ value ≤ maxQuota)

/-- `DB.Save(user)`. A row that was deleted meanwhile is written all the same: the update
that reaches no row is followed by an upsert. -/
def saveUser (db : Database) (user : User) : Except StoreError Database :=
  if fits settings user.quota && fits settings user.affQuota && fits settings user.affHistoryQuota
  then .ok { db with users := db.users.save user }
  else .error .outOfRange

/-- The row that `inviteUser` saves, from the row it read. -/
def invitedRow (inviter : User) : User :=
  { inviter with
    affCount := inviter.affCount + 1
    affQuota := inviter.affQuota + settings.quotaForInviter
    affHistoryQuota := inviter.affHistoryQuota + settings.quotaForInviter }

def transferredRow (row : User) (quota : Int) : User :=
  { row with affQuota := row.affQuota - quota, quota := row.quota + quota }

def transferAffQuotaToQuota (db : Database) (id quota : Int) : Except StoreError Database :=
  if (quota : Rat) < settings.quotaPerUnit then
    .error (.message ("转移额度最小为" ++
      settings.logQuota (truncateDecimal settings.quotaPerUnit) ++ "！"))
  else match db.users.find? id with
    | none => .error .recordNotFound
    | some row =>
      if row.deleted then .error .recordNotFound
      else if row.affQuota < quota then .error (.message "邀请额度不足！")
      else saveUser settings db (transferredRow row quota)

/-- `Updates(struct)` skips zero values. -/
def textOr (written stored : String) : String := if written = "" then stored else written

def numberOr (written stored : Int) : Int := if written = 0 then stored else written

theorem textOr_kept {written stored : String} (keeps : written = "" ∨ written = stored) :
    textOr written stored = stored := by
  unfold textOr
  rcases keeps with zero | same
  · rw [if_pos zero]
  · rw [same, ite_self]

theorem numberOr_kept {written stored : Int} (keeps : written = 0 ∨ written = stored) :
    numberOr written stored = stored := by
  unfold numberOr
  rcases keeps with zero | same
  · rw [if_pos zero]
  · rw [same, ite_self]

/-- The columns `UpdateWithTx` writes; quota, used_quota, request_count and auth_version are
omitted. -/
def mergeRow (stored written : User) : User :=
  { stored with
    username := textOr written.username stored.username
    password := textOr written.password stored.password
    displayName := textOr written.displayName stored.displayName
    role := numberOr written.role stored.role
    status := numberOr written.status stored.status
    email := textOr written.email stored.email
    group := textOr written.group stored.group
    affCode := textOr written.affCode stored.affCode
    affCount := numberOr written.affCount stored.affCount
    affQuota := numberOr written.affQuota stored.affQuota
    affHistoryQuota := numberOr written.affHistoryQuota stored.affHistoryQuota
    inviterId := numberOr written.inviterId stored.inviterId
    remark := textOr written.remark stored.remark
    stripeCustomer := textOr written.stripeCustomer stored.stripeCustomer }

def authChanged (stored written : User) (updatePassword : Bool) : Bool :=
  (updatePassword && stored.password != written.password) ||
    (written.role != 0 && stored.role != written.role) ||
    (written.status != 0 && stored.status != written.status) ||
    (written.group != "" && stored.group != written.group)

def withHash (user : User) (hash : Option String) : User :=
  match hash with
  | none => user
  | some password => { user with password }

def versionAfter (stored : User) (changed : Bool) : Int :=
  if changed then nextAuthVersion stored.authVersion else stored.authVersion

/-- The row after `UpdateWithTx`; `hash` is the password's hash when it is updated. -/
def updatedRow (stored user : User) (hash : Option String) : User :=
  let written := withHash user hash
  { mergeRow stored written with
    authVersion := versionAfter stored (authChanged stored written hash.isSome) }

def invalidVersionUpdate : StoreError := .message "invalid user auth version update"

def updateWithTx (db : Database) (user : User) (hash : Option String) :
    Except StoreError Database :=
  match db.users.find? user.id with
  | none => .error .recordNotFound
  | some stored =>
    if stored.deleted then .error .recordNotFound
    else if authChanged stored (withHash user hash) hash.isSome ∧ user.id ≤ 0 then
      .error invalidVersionUpdate
    else saveUser settings db (updatedRow stored user hash)

structure EditRequest where
  id : Int
  username : String := ""
  displayName : String := ""
  group : String := ""
  remark : String := ""
  hash : Option String := none

def editChanged (stored : User) (request : EditRequest) : Bool :=
  request.hash.any (· ≠ stored.password) || stored.group != request.group

def editedRow (stored : User) (request : EditRequest) : User :=
  { stored with
    username := request.username
    displayName := request.displayName
    group := request.group
    remark := request.remark
    password := request.hash.getD stored.password
    authVersion := versionAfter stored (editChanged stored request) }

def editWithTx (db : Database) (request : EditRequest) : Except StoreError Database :=
  match db.users.find? request.id with
  | none => .error .recordNotFound
  | some stored =>
    if stored.deleted then .error .recordNotFound
    else if editChanged stored request ∧ request.id ≤ 0 then .error invalidVersionUpdate
    else .ok { db with users := db.users.save (editedRow stored request) }

/-- The columns a request changes on the row it hands to a writer. -/
structure UserPatch where
  username : Option String := none
  password : Option String := none
  displayName : Option String := none
  role : Option Int := none
  status : Option Int := none
  email : Option String := none
  group : Option String := none
  affCode : Option String := none
  remark : Option String := none

def UserPatch.apply (patch : UserPatch) (user : User) : User :=
  { user with
    username := patch.username.getD user.username
    password := patch.password.getD user.password
    displayName := patch.displayName.getD user.displayName
    role := patch.role.getD user.role
    status := patch.status.getD user.status
    email := patch.email.getD user.email
    group := patch.group.getD user.group
    affCode := patch.affCode.getD user.affCode
    remark := patch.remark.getD user.remark }

/-- `User{Id: id}`, for requests that set only what they change. -/
def blankUser (id : Int) : User :=
  { id, role := 0, status := 0, group := "", authVersion := 0 }

variable {db : Database}
variable {row user old : User} {after : Database} {settings}

theorem getUserById_ok {id : Int} (loaded : getUserById db id = .ok row) :
    db.users.find? id = some row ∧ row.deleted = false := by
  unfold getUserById at loaded
  split at loaded
  · cases loaded
  split at loaded
  · cases loaded
  rename_i found
  split at loaded
  · cases loaded
  rename_i visible
  cases loaded
  exact ⟨found, by simpa using visible⟩

theorem saveUser_ok (saved : saveUser settings db user = .ok after) :
    after = { db with users := db.users.save user } := by
  unfold saveUser at saved
  split at saved <;> cases saved
  rfl

theorem transferAffQuotaToQuota_ok {quota : Int} {id : Int}
    (committed : transferAffQuotaToQuota settings db id quota = .ok after) :
    ∃ row, db.users.find? id = some row ∧ row.deleted = false ∧
      after = { db with users := db.users.save (transferredRow row quota) } := by
  unfold transferAffQuotaToQuota at committed
  split at committed
  · cases committed
  split at committed
  · cases committed
  rename_i row found
  split at committed
  · cases committed
  rename_i visible
  split at committed
  · cases committed
  exact ⟨row, found, by simpa using visible, saveUser_ok committed⟩

theorem updateWithTx_ok {hash : Option String}
    (committed : updateWithTx settings db user hash = .ok after) :
    ∃ stored, db.users.find? user.id = some stored ∧ stored.deleted = false ∧
      after = { db with users := db.users.save (updatedRow stored user hash) } := by
  unfold updateWithTx at committed
  split at committed
  · cases committed
  rename_i stored found
  split at committed
  · cases committed
  rename_i visible
  split at committed
  · cases committed
  · exact ⟨stored, found, by simpa using visible, saveUser_ok committed⟩

theorem editWithTx_ok {request : EditRequest} (committed : editWithTx db request = .ok after) :
    ∃ stored, db.users.find? request.id = some stored ∧ stored.deleted = false ∧
      after = { db with users := db.users.save (editedRow stored request) } := by
  unfold editWithTx at committed
  split at committed
  · cases committed
  rename_i stored found
  split at committed
  · cases committed
  rename_i visible
  split at committed
  · cases committed
  cases committed
  exact ⟨stored, found, by simpa using visible, rfl⟩

theorem find?_saved (found : db.users.find? row.id = some old) (user : Int) :
    ({ db with users := db.users.save row } : Database).users.find? user =
      if row.id = user then some row else db.users.find? user := by
  rw [Table.find?_save]
  by_cases same : row.id = user
  · simp [← same, found]
  · simp [same]

end NewApi.UserRows
