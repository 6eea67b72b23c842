import NewApi.Interleaving
import NewApi.UserSessions

/-!
The cached metadata of one user in model/user_cache.go and model/user_auth_cache.go: the
user's hash, the pending fence that is set before a change commits, and the floor of
committed versions. A call stands between two atomic steps (a database statement or
transaction, a Redis command or script). The transaction of a change reads the version,
sets the fence and commits with a compare-and-swap, or rolls back. The inspection and the
encryption of a setting are parameters.
-/

namespace NewApi.UserAuthCache

open Runs Interleaving

structure UserBase where
  group : String := ""
  email : String := ""
  quota : Int := 0
  status : Int := 1
  role : Int := 1
  username : String := ""
  setting : String := ""
  authVersion : Int := 1
  deriving DecidableEq

structure UserRow where
  user : UserBase
  -- A deleted user is found by a change of its version only.
  deleted : Bool := false
  deriving DecidableEq

structure SettingCodec where
  -- `none` for a setting that is not valid, else whether it holds a secret.
  inspect : String → Option Bool
  encryptionConfigured : Bool
  encryptionEnabled : Bool
  isEnvelope : String → Bool
  sealValue : String → Option String
  openValue : String → Option String

structure CacheConfig where
  sessions : SessionConfig := {}
  codec : SettingCodec

/-- `none` for an error, `some none` for a setting that must not be cached. -/
def userSettingCacheValue (codec : SettingCodec) (plaintext : String) : Option (Option String) :=
  match codec.inspect plaintext with
  | none => none
  | some false => some (some plaintext)
  | some true =>
    if codec.encryptionConfigured then (codec.sealValue plaintext).map some else some none

def openUserSettingValue (codec : SettingCodec) (stored : String) : Option String :=
  if stored = "" then some ""
  else if codec.isEnvelope stored then
    match codec.openValue stored with
    | none => none
    | some plaintext => (codec.inspect plaintext).map fun _ => plaintext
  else
    match codec.inspect stored with
    | none => none
    | some isProtected => if isProtected && codec.encryptionEnabled then none else some stored

def userCacheSchemaVersion : Int := 4

variable (config : CacheConfig)

def userCacheTTL : Int := UserSessions.userCacheTTLSeconds config.sessions

def userAuthFenceTTLSeconds : Int :=
  userCacheTTL config + max (userCacheTTL config) 60

structure UserHash where
  entry : UserBase
  cacheSchema : Int
  expireAt : Int
  deriving DecidableEq

structure Fence where
  version : Int
  expireAt : Int
  deriving DecidableEq

structure World where
  clock : Int
  row : UserRow
  hash : Option UserHash := none
  pending : Option Fence := none
  -- This key does not expire.
  committed : Option Int := none
  deriving DecidableEq

variable (world : World)

def World.visibleHash : Option UserHash :=
  world.hash.filter fun hash => world.clock < hash.expireAt

def World.pendingVersion : Int :=
  match world.pending with
  | some fence => if world.clock < fence.expireAt then fence.version else 0
  | none => 0

def World.committedVersion : Int := world.committed.getD 0

def World.cachedVersion : Int :=
  (world.visibleHash.map (·.entry.authVersion)).getD 0

def getUserAuthVersionFloor : Int :=
  max 0 (max world.pendingVersion world.committedVersion)

/-- The script of `publishCommittedUserAuthVersion`, and the part of the other scripts that raises
the floor and drops the fence it replaces. -/
def raiseFloor (incoming : Int) : World :=
  { world with
    committed := if world.committedVersion < incoming then some incoming else world.committed
    pending :=
      if 0 < world.pendingVersion ∧ world.pendingVersion ≤ incoming then none
      else world.pending }

def belowFloor (incoming : Int) : Bool :=
  incoming < world.pendingVersion || incoming < world.committedVersion ||
    incoming < world.cachedVersion

/-- The script of `SetUserAuthVersionFence`; the key always has an expiry here. -/
def setUserAuthVersionFence (world : World) (incoming : Int) : World :=
  if world.pendingVersion ≤ incoming then
    { world with pending := some ⟨incoming, world.clock + userAuthFenceTTLSeconds config⟩ }
  else world

inductive WriteResult where
  | invalid
  | dropped (world : World)
  | pending
  | written (world : World)

/-- A setting that must not be cached removes the hash and does nothing else. -/
def writeUserCache (world : World) (user : UserBase) (createIfMissing : Bool) : WriteResult :=
  if user.authVersion ≤ 0 then .invalid
  else
    match userSettingCacheValue config.codec user.setting with
    | none => .invalid
    | some none => .dropped { world with hash := none }
    | some (some stored) =>
      if belowFloor world user.authVersion then .pending
      else if createIfMissing = false ∧ world.visibleHash = none then
        .written (raiseFloor world user.authVersion)
      else
        .written
          { raiseFloor world user.authVersion with
            hash := some
              { entry := { user with setting := stored, quota := 0 }
                cacheSchema := userCacheSchemaVersion
                expireAt := world.clock + userCacheTTL config } }

inductive Field where
  | group (value : String)
  | status (value : Int)
  | email (value : String)
  | username (value : String)
  | setting (stored : String)
  deriving DecidableEq

def Field.set (field : Field) (entry : UserBase) : UserBase :=
  match field with
  | .group value => { entry with group := value }
  | .status value => { entry with status := value }
  | .email value => { entry with email := value }
  | .username value => { entry with username := value }
  | .setting stored => { entry with setting := stored }

/-- `none` for an error or a rejected write. -/
def updateUserCacheFieldAtVersion (field : Field) (authVersion : Int) : Option World :=
  if authVersion ≤ 0 ∨ belowFloor world authVersion then none
  else
    match world.visibleHash with
    | none => some (raiseFloor world authVersion)
    | some hash =>
      if hash.entry.authVersion ≠ authVersion then some (raiseFloor world authVersion)
      else
        some
          { raiseFloor world authVersion with
            hash := some
              { hash with
                entry := field.set hash.entry, cacheSchema := userCacheSchemaVersion } }

/-! ### Calls -/

inductive Publication where
  -- publishCommittedUserAuthVersion
  | committed
  -- updateUserCache with the row of the transaction
  | own
  -- updateUserCache with the row as it is read after the commit
  | reread
  deriving DecidableEq

/-- A transaction around `IncrementUserAuthVersionWithTx`. -/
structure Change where
  user : UserBase
  deleted : Bool := false
  commits : Bool := true
  publication : Publication
  deriving DecidableEq

inductive Call where
  -- getUserCache
  | readHash (includeQuota : Bool)
  | readFloor (cached : UserBase) (includeQuota : Bool)
  | readQuota (cached : UserBase)
  | readRow
  | fallbackFloor (user : UserBase)
  | populate (user : UserBase)
  -- a change and its publication
  | lockRow (change : Change) (attempts : Nat)
  | fence (change : Change) (read : Int) (attempts : Nat)
  | commit (change : Change) (read : Int) (attempts : Nat)
  | publishCommitted (version : Int)
  | reread
  | update (user : UserBase)
  -- RefreshUserGroupCache
  | groupRead
  | groupWrite (group : String) (version : Int) (attempts : Nat)
  | groupVerify (group : String) (version : Int) (attempts : Nat)
  -- updateUserCacheField
  | fieldRead (field : Field)
  | fieldWrite (field : Field) (version : Int)
  -- invalidateUserCache
  | invalidate
  deriving DecidableEq

inductive Outcome where
  | user (user : UserBase)
  | published (version : Int)
  | finished
  | failed
  deriving DecidableEq

inductive Progress where
  | next (call : Call)
  | done (outcome : Outcome)
  deriving DecidableEq

def nextRow (change : Change) (read : Int) : UserRow where
  user := { change.user with authVersion := nextAuthVersion read }
  deleted := change.deleted

def publish (change : Change) (read : Int) : Call :=
  match change.publication with
  | .committed => .publishCommitted (nextAuthVersion read)
  | .own => .update (nextRow change read).user
  | .reread => .reread

/-- `none` when the row is deleted. -/
def World.user : Option UserBase :=
  if world.row.deleted then none else some world.row.user

/-- One atomic step of a call. -/
def resume (world : World) : Call → World × Progress
  -- Whatever fails in the cache falls back to the row.
  | .readHash includeQuota =>
    match world.visibleHash with
    | none => (world, .next .readRow)
    | some hash =>
      if hash.cacheSchema ≠ userCacheSchemaVersion ∨ hash.entry.authVersion ≤ 0 then
        (world, .next .readRow)
      else (world, .next (.readFloor hash.entry includeQuota))
  | .readFloor cached includeQuota =>
    if cached.authVersion < getUserAuthVersionFloor world then (world, .next .readRow)
    else
      match openUserSettingValue config.codec cached.setting with
      | none => (world, .next .readRow)
      | some setting =>
        if includeQuota then (world, .next (.readQuota { cached with setting }))
        else (world, .done (.user { cached with setting }))
  | .readQuota cached =>
    match world.user with
    | none => (world, .done .failed)
    | some user => (world, .done (.user { cached with quota := user.quota }))
  | .readRow =>
    match world.user with
    | none => (world, .done .failed)
    | some user => (world, .next (.fallbackFloor user))
  | .fallbackFloor user =>
    if user.authVersion < getUserAuthVersionFloor world then (world, .done .failed)
    else (world, .next (.populate user))
  | .populate user =>
    match writeUserCache config world user true with
    | .invalid => (world, .done (.user user))
    | .dropped world => (world, .done (.user user))
    | .pending => (world, .done .failed)
    | .written world => (world, .done (.user user))
  | .lockRow _ 0 => (world, .done .failed)
  | .lockRow change (attempts + 1) =>
    (world, .next (.fence change world.row.user.authVersion attempts))
  | .fence change read attempts =>
    (setUserAuthVersionFence config world (nextAuthVersion read),
      .next (.commit change read attempts))
  | .commit change read attempts =>
    if world.row.user.authVersion ≠ read then (world, .next (.lockRow change attempts))
    else if change.commits then
      ({ world with row := nextRow change read }, .next (publish change read))
    else (world, .done .failed)
  | .publishCommitted version => (raiseFloor world version, .done (.published version))
  | .reread =>
    match world.user with
    | none => (world, .done .failed)
    | some user => (world, .next (.update user))
  | .update user =>
    match writeUserCache config world user false with
    | .invalid => (world, .done .failed)
    | .dropped world => (world, .done (.published user.authVersion))
    | .pending => (world, .done .failed)
    | .written world => (world, .done (.published user.authVersion))
  | .groupRead =>
    match world.user with
    | none => (world, .done .failed)
    | some user => (world, .next (.groupWrite user.group user.authVersion 3))
  | .groupWrite group version attempts =>
    match updateUserCacheFieldAtVersion world (.group group) version with
    | none => (world, .done .failed)
    | some world =>
      match attempts with
      | 0 => (world, .done .failed)
      | attempts + 1 => (world, .next (.groupVerify group version attempts))
  | .groupVerify group version attempts =>
    match world.user with
    | none => (world, .done .failed)
    | some user =>
      if user.authVersion = version ∧ user.group = group then (world, .done .finished)
      else (world, .next (.groupWrite user.group user.authVersion attempts))
  | .fieldRead field =>
    match world.user with
    | none => (world, .done .failed)
    | some user =>
      if user.authVersion ≤ 0 then (world, .done .failed)
      else (world, .next (.fieldWrite field user.authVersion))
  | .fieldWrite field version =>
    match updateUserCacheFieldAtVersion world field version with
    | none => (world, .done .failed)
    | some world => (world, .done .finished)
  | .invalidate => ({ world with hash := none }, .done .finished)

structure Shared where
  world : World
  -- The highest version that was published.
  published : Option Int := none
  -- A lookup returned less than what was published when it started.
  revived : Bool := false
  -- A lookup returned less than a fence that stood at all of its steps.
  unfenced : Bool := false
  deriving DecidableEq

structure Running where
  call : Call
  -- What was published when the call started.
  floor : Option Int
  -- The lowest fence at a step of the call, 0 when there was none.
  leastFence : Int
  deriving DecidableEq

def Shared.returned (shared : Shared) (running : Running) : Outcome → Shared
  | .user user =>
    { shared with
      revived := shared.revived || running.floor.any fun version => user.authVersion < version
      unfenced := shared.unfenced || decide (user.authVersion < running.leastFence) }
  | .published version =>
    { shared with published := some (max version (shared.published.getD version)) }
  | .finished => shared
  | .failed => shared

def resumeRunning (shared : Shared) (running : Running) : Shared × Option Running :=
  let after := resume config shared.world running.call
  let seen := { running with leastFence := min running.leastFence shared.world.pendingVersion }
  match after.2 with
  | .next call => ({ shared with world := after.1 }, some { seen with call })
  | .done outcome => (({ shared with world := after.1 }).returned seen outcome, none)

inductive Request where
  | get (includeQuota : Bool)
  | bump (change : Change)
  | refreshGroup
  | updateField (field : Field)
  | updateSetting (plaintext : String)
  deriving DecidableEq

/-- The first step of a call; a setting that is not valid makes none. -/
def Request.call : Request → Option Call
  | .get includeQuota => some (.readHash includeQuota)
  | .bump change => some (.lockRow change 3)
  | .refreshGroup => some .groupRead
  | .updateField field => some (.fieldRead field)
  | .updateSetting plaintext =>
    match userSettingCacheValue config.codec plaintext with
    | none => none
    | some none => some .invalidate
    | some (some stored) => some (.fieldRead (.setting stored))

inductive Move where
  | tick (duration : Nat)
  | start (request : Request)
  deriving DecidableEq

def move (shared : Shared) : Move → Shared × List Running
  | .tick duration =>
    ({ shared with world := { shared.world with clock := shared.world.clock + duration } }, [])
  | .start request =>
    (shared, ((request.call config).map fun call =>
      { call, floor := shared.published, leastFence := shared.world.pendingVersion }).toList)

def program : Program Shared Running Move where
  resume := resumeRunning config
  environment := move config

def begin (clock : Int) (row : UserRow) : State Shared Running where
  shared := { world := { clock, row } }
  running := []

/-- A publication by `updateUserCache` is of a setting that may be cached. -/
def Allowed : Event Running Move → Prop
  | .resume ⟨.update user, _, _⟩ => userSettingCacheValue config.codec user.setting ≠ some none
  | _ => True

instance (config : CacheConfig) (event : Event Running Move) :
    Decidable (Allowed config event) := by
  unfold Allowed
  split <;> infer_instance

end NewApi.UserAuthCache
