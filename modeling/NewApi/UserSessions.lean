import NewApi.Schema

/-!
One login session of model/user_session.go: its row, its entry in Redis and the calls
that work on both. A call is modelled by its program counter between two atomic steps
(a database statement or transaction, a Redis command or script, a reading of the
clock), so that any delay can stand between them. Time is in milliseconds; the `now`
of a call is in seconds, as in the source. The Redis entry disappears at its expiry.
The columns that only the session list shows (method, address, agent) are left out.
-/

namespace NewApi

inductive SessionStatus where
  | active
  | revoking
  | revoked
  deriving DecidableEq

structure UserSession where
  version : Int := 1
  userAuthVersion : Int := 1
  status : SessionStatus := .active
  refreshHash : String := ""
  previousRefreshHash : String := ""
  previousValidUntil : Int := 0
  lastActiveAt : Int := 0
  expiresAt : Int := 0
  revokedAt : Int := 0
  revokedReason : String := ""
  deriving DecidableEq

structure SessionConfig where
  redisKeyCacheSeconds : Int := 60
  idleTimeoutSeconds : Int := 604800

namespace UserSessions

inductive SessionError where
  | invalid
  | inactive
  | refreshInvalid
  | refreshRace
  | refreshReuse
  | observationStale
  deriving DecidableEq

variable (config : SessionConfig)

def userCacheTTLSeconds : Int :=
  if config.redisKeyCacheSeconds ≤ 0 then 60 else config.redisKeyCacheSeconds

/-- The same in milliseconds. -/
def cacheTTL : Int := userCacheTTLSeconds config * 1000

def idleCutoff (now : Int) : Int :=
  if config.idleTimeoutSeconds ≤ 0 then now else now - config.idleTimeoutSeconds

section

variable (session : UserSession)

def effectiveExpiresAt : Int :=
  if session.lastActiveAt ≤ 0 ∨ config.idleTimeoutSeconds ≤ 0 then 0
  else min session.expiresAt (session.lastActiveAt + config.idleTimeoutSeconds)

def isActiveAt (now : Int) : Bool :=
  session.status = .active && session.revokedAt = 0 &&
    decide (now < effectiveExpiresAt config session)

/-- Neither revoked nor expired; the idle timeout is checked apart. -/
def openAt (now : Int) : Bool :=
  session.status = .active && session.revokedAt = 0 && decide (now < session.expiresAt)

def idleAt (now : Int) : Bool :=
  decide (session.lastActiveAt ≤ idleCutoff config now)

def revokedWith (now : Int) (reason : String) : UserSession :=
  { session with status := .revoked, revokedAt := now, revokedReason := reason }

/-- A cache entry carries no refresh digests. -/
def cacheEntry : UserSession :=
  { session with refreshHash := "", previousRefreshHash := "", previousValidUntil := 0 }

end

inductive IdleOutcome where
  | inactive
  | stillActive
  | idleRevoked
  deriving DecidableEq

variable (row : UserSession)

/-- The transaction of `GetActiveUserSessionBySIDAt`; its conditional update meets the row that
the same transaction has just read. -/
def idleTransaction (now : Int) : UserSession × IdleOutcome :=
  if openAt row now = false then (row, .inactive)
  else if idleAt config row now = false then (row, .stillActive)
  else (revokedWith row now "idle_timeout", .idleRevoked)

structure Rotation where
  presentedHash : String
  nextHash : String
  now : Int
  graceSeconds : Int
  deriving DecidableEq

def rotatedSession (rotation : Rotation) (session : UserSession) : UserSession :=
  { session with
    previousRefreshHash := rotation.presentedHash
    previousValidUntil := rotation.now + rotation.graceSeconds
    refreshHash := rotation.nextHash
    lastActiveAt := rotation.now }

/-- The compare-and-swap of `RotateUserSessionRefresh`. -/
def rotateUpdate (rotation : Rotation) (row : UserSession) : Option UserSession :=
  if openAt row rotation.now ∧ idleAt config row rotation.now = false ∧
      row.refreshHash = rotation.presentedHash
  then some (rotatedSession rotation row)
  else none

structure Advancement where
  expectedSessionVersion : Int
  expectedUserAuthVersion : Int
  nextUserAuthVersion : Int
  now : Int
  deriving DecidableEq

inductive AdvanceOutcome where
  | inactive
  | idle
  | advanced
  deriving DecidableEq

def advancedSession (request : Advancement) (session : UserSession) : UserSession :=
  { session with
    version := session.version + 1
    userAuthVersion := request.nextUserAuthVersion }

def advanceTransaction (request : Advancement) (row : UserSession) : UserSession × AdvanceOutcome :=
  if openAt row request.now = false then (row, .inactive)
  else if idleAt config row request.now then (row, .idle)
  else if row.version ≠ request.expectedSessionVersion ∨
      row.userAuthVersion ≠ request.expectedUserAuthVersion then (row, .inactive)
  else (advancedSession request row, .advanced)

/-- The update of `RevokeUserSession` and of the reuse branch of a rotation. -/
def revokeUpdate (now : Int) (reason : String) : Option UserSession :=
  if openAt row now then some (revokedWith row now reason) else none

structure Recovery where
  presentedPreviousHash : String
  expectedCurrentHash : String
  expectedVersion : Int
  expectedAuthVersion : Int
  now : Int
  deriving DecidableEq

inductive RecoverOutcome where
  | inactive
  | idle
  | race
  | recovered
  deriving DecidableEq

/-- `owner` is the auth version of the session's user, if that user exists and is enabled. -/
def recoverTransaction (owner : Option Int) (request : Recovery) (row : UserSession) :
    RecoverOutcome :=
  if owner ≠ some request.expectedAuthVersion then .inactive
  else if openAt row request.now = false then .inactive
  else if isActiveAt config row request.now = false then .idle
  else if row.version ≠ request.expectedVersion ∨
      row.userAuthVersion ≠ request.expectedAuthVersion then .inactive
  else if row.previousRefreshHash = "" ∨ row.previousRefreshHash ≠ request.presentedPreviousHash ∨
      row.refreshHash ≠ request.expectedCurrentHash ∨ row.previousValidUntil < request.now
  then .race
  else .recovered

/-- `confirmUserSessionActiveSnapshot` -/
def confirms (session : UserSession) (now : Int) : Bool :=
  openAt row now && !idleAt config row now && row.version = session.version &&
    row.userAuthVersion = session.userAuthVersion && decide (0 < session.version) &&
    decide (0 < session.userAuthVersion)

structure Stored where
  entry : UserSession
  expireAt : Int
  deriving DecidableEq

structure World where
  clock : Int
  row : UserSession
  redis : Option Stored := none
  -- The session's user as `recoverTransaction` reads it.
  owner : Option Int := none
  deriving DecidableEq

variable (world : World)

/-- The entry, unless it has expired. -/
def World.visible : Option UserSession :=
  match world.redis with
  | some stored => if world.clock < stored.expireAt then some stored.entry else none
  | none => none

inductive CacheRead where
  | miss
  | inactive
  | idle
  | hit (entry : UserSession)
  deriving DecidableEq

def getUserSessionCacheAt (now : Int) : CacheRead :=
  match world.visible with
  | none => .miss
  | some entry =>
    if entry.version ≤ 0 ∨ entry.userAuthVersion ≤ 0 then .miss
    else if openAt entry now = false then .inactive
    else if idleAt config entry now then .idle
    else .hit entry

/-- How a script sets the expiry: at a time for an active entry, after one for a deny entry. -/
inductive Expiration where
  | pexpireAt (time : Int)
  | pexpire (duration : Int)
  deriving DecidableEq

/-- `writeUserSessionCache` up to the script. A deny entry comes without a deadline. -/
def prepareWrite (clock : Int) (entry : UserSession) (deadline : Option Int) :
    Except SessionError Expiration :=
  if entry.status = .active then
    let sessionExpiresAt := effectiveExpiresAt config entry * 1000
    match deadline with
    | none => .error .invalid
    | some deadline =>
      if deadline ≤ clock then .error .observationStale
      else if sessionExpiresAt ≤ clock then .error .inactive
      else .ok (.pexpireAt (min deadline sessionExpiresAt))
  else
    let ttl := min (entry.expiresAt * 1000 - clock) (cacheTTL config)
    .ok (.pexpire (if ttl ≤ 0 then 1000 else ttl))

/-- The script: an active entry never replaces a deny entry, and no entry one of a higher version.
An expiry that has passed deletes the entry. -/
def runScript (entry : UserSession) (expiration : Expiration) : Option (Option Stored) :=
  let held := world.visible
  if entry.status = .active ∧ (held.map (·.status)).getD .active ≠ .active then none
  else if entry.version < (held.map (·.version)).getD 0 then none
  else
    match expiration with
    | .pexpireAt time => some (some ⟨entry, time⟩)
    | .pexpire duration => some (some ⟨entry, world.clock + duration⟩)

/-- What `GetActiveUserSessionBySIDAt` was called for. -/
inductive Purpose where
  | revalidate
  | fill (deadline : Int)
  | rotate (rotation : Rotation) (attempts : Nat)
  | advance (request : Advancement) (deadline : Int) (attempts : Nat)
  | recover
  deriving DecidableEq

/-- What a write to the cache was made for. -/
inductive WriteFor where
  | filled (session : UserSession)
  | revalidated (session : UserSession)
  | rotated (session : UserSession)
  | advanced (session : UserSession)
  | idleRevoked
  | revokeFence (candidate : UserSession) (now : Int) (reason : String)
  | revokeFinal
  | reuseFence (session : UserSession) (now : Int)
  | reuseFinal
  deriving DecidableEq

inductive Call where
  -- GetUserSessionCachedAt
  | lookUp (now : Int)
  | missed (now : Int)
  | revalidated (session : UserSession)
  -- GetActiveUserSessionBySIDAt
  | activeRead (now : Int) (purpose : Purpose)
  | idleCheck (now : Int) (purpose : Purpose)
  -- writeUserSessionCache
  | write (entry : UserSession) (deadline : Option Int) (reason : WriteFor)
  | script (entry : UserSession) (expiration : Expiration) (deadline : Option Int)
      (reason : WriteFor)
  | completed (entry : UserSession) (deadline : Int) (reason : WriteFor)
  | confirm (session : UserSession)
  -- RotateUserSessionRefresh
  | rotateStart (rotation : Rotation) (attempts : Nat)
  | rotateRead (rotation : Rotation) (deadline : Int) (attempts : Nat)
  | rotateSwap (rotation : Rotation) (session : UserSession) (deadline : Int) (attempts : Nat)
  | reuseUpdate (session : UserSession) (now : Int)
  -- AdvanceUserSessionAuthVersionAt
  | advanceStart (request : Advancement)
  | advanceCommit (request : Advancement) (deadline : Int) (attempts : Nat)
  -- RevokeUserSession
  | revokeRead (now : Int) (reason : String)
  | revokeCommit (candidate : UserSession) (now : Int) (reason : String)
  -- RecoverUserSessionRefresh
  | recover (request : Recovery)
  deriving DecidableEq

inductive Answer where
  | session (session : UserSession)
  | revoked (done : Bool)
  -- ErrUserSessionRefreshRace comes with the session it was seen on.
  | race (session : UserSession)
  | failed (error : SessionError)
  deriving DecidableEq

inductive Progress where
  | next (call : Call)
  | done (outcome : Answer)
  deriving DecidableEq

def denyEntry (session : UserSession) (status : SessionStatus) (now : Int) (reason : String) :
    UserSession :=
  { cacheEntry session with status := status, revokedAt := now, revokedReason := reason }

/-- How a caller of `writeUserSessionCache` goes on after its result. -/
def afterWrite : WriteFor → Option SessionError → Progress
  | .filled session, none | .rotated session, none | .advanced session, none =>
    .done (.session session)
  | .filled session, some .observationStale | .rotated session, some .observationStale
  | .advanced session, some .observationStale => .next (.confirm session)
  | .filled _, some .inactive | .rotated _, some .inactive => .done (.failed .inactive)
  -- Any other error is logged.
  | .filled session, some _ | .rotated session, some _ => .done (.session session)
  | .advanced _, some error => .done (.failed error)
  | .revalidated session, _ => .done (.session session)
  | .idleRevoked, _ => .done (.failed .inactive)
  | .revokeFence candidate now reason, none => .next (.revokeCommit candidate now reason)
  | .revokeFence _ _ _, some error => .done (.failed error)
  | .revokeFinal, _ => .done (.revoked true)
  | .reuseFence session now, none => .next (.reuseUpdate session now)
  | .reuseFence _ _, some error => .done (.failed error)
  | .reuseFinal, _ => .done (.failed .refreshReuse)

/-- How a caller of `GetActiveUserSessionBySIDAt` goes on with an active session. -/
def afterActive : Purpose → UserSession → Progress
  | .revalidate, session => .next (.revalidated session)
  | .fill deadline, session => .next (.write (cacheEntry session) (some deadline) (.filled session))
  | .rotate rotation attempts, _ => .next (.rotateStart rotation attempts)
  | .advance request deadline attempts, _ => .next (.advanceCommit request deadline attempts)
  | .recover, _ => .done (.failed .inactive)

def resumeRotateRead (rotation : Rotation) (deadline : Int) (attempts : Nat) : Progress :=
  let session := world.row
  if openAt session rotation.now = false then .done (.failed .inactive)
  else if idleAt config session rotation.now then
    .next (.activeRead rotation.now (.rotate rotation attempts))
  else if session.refreshHash = rotation.presentedHash then
    .next (.rotateSwap rotation session deadline attempts)
  else if session.previousRefreshHash = "" ∨
      session.previousRefreshHash ≠ rotation.presentedHash then .done (.failed .refreshInvalid)
  else if rotation.now ≤ session.previousValidUntil then .done (.race session)
  else
    .next (.write (denyEntry session .revoking rotation.now "refresh_reuse") none
      (.reuseFence session rotation.now))

/-- One atomic step of a call. -/
def resume : Call → World × Progress
  | .lookUp now =>
    match getUserSessionCacheAt config world now with
    | .hit entry => (world, .done (.session entry))
    | .inactive => (world, .done (.failed .inactive))
    | .idle => (world, .next (.activeRead now .revalidate))
    | .miss => (world, .next (.missed now))
  | .missed now =>
    (world, .next (.activeRead now (.fill (world.clock + cacheTTL config))))
  -- The deadline is read after the row here.
  | .revalidated session =>
    (world, .next (.write (cacheEntry session) (some (world.clock + cacheTTL config))
      (.revalidated session)))
  | .activeRead now purpose =>
    if openAt world.row now = false then (world, .done (.failed .inactive))
    else if idleAt config world.row now = false then (world, afterActive purpose world.row)
    else (world, .next (.idleCheck now purpose))
  | .idleCheck now purpose =>
    match idleTransaction config world.row now with
    | (_, .inactive) => (world, .done (.failed .inactive))
    | (_, .stillActive) => (world, afterActive purpose world.row)
    | (row, .idleRevoked) =>
      ({ world with row }, .next (.write (cacheEntry row) none .idleRevoked))
  | .write entry deadline reason =>
    match prepareWrite config world.clock entry deadline with
    | .ok expiration => (world, .next (.script entry expiration deadline reason))
    | .error error => (world, afterWrite reason (some error))
  | .script entry expiration deadline reason =>
    match runScript world entry expiration with
    | none => (world, afterWrite reason (some .inactive))
    | some redis =>
      match deadline with
      | some deadline => ({ world with redis }, .next (.completed entry deadline reason))
      | none => ({ world with redis }, afterWrite reason none)
  | .completed entry deadline reason =>
    if deadline ≤ world.clock then (world, afterWrite reason (some .observationStale))
    else if effectiveExpiresAt config entry * 1000 ≤ world.clock then
      (world, afterWrite reason (some .inactive))
    else (world, afterWrite reason none)
  | .confirm session =>
    if confirms config world.row session (world.clock / 1000) then
      (world, .done (.session session))
    else (world, .done (.failed .inactive))
  | .rotateStart _ 0 => (world, .done (.failed .refreshInvalid))
  | .rotateStart rotation (attempts + 1) =>
    (world, .next (.rotateRead rotation (world.clock + cacheTTL config) attempts))
  | .rotateRead rotation deadline attempts =>
    (world, resumeRotateRead config world rotation deadline attempts)
  | .rotateSwap rotation session deadline attempts =>
    match rotateUpdate config rotation world.row with
    | some row =>
      ({ world with row },
        .next (.write (cacheEntry (rotatedSession rotation session)) (some deadline)
          (.rotated (rotatedSession rotation session))))
    | none => (world, .next (.rotateStart rotation attempts))
  | .reuseUpdate session now =>
    match revokeUpdate world.row now "refresh_reuse" with
    | some row =>
      ({ world with row },
        .next (.write (denyEntry session .revoked now "refresh_reuse") none .reuseFinal))
    | none => (world, .done (.failed .inactive))
  | .advanceStart request =>
    (world, .next (.advanceCommit request (world.clock + cacheTTL config) 3))
  | .advanceCommit _ _ 0 => (world, .done (.failed .inactive))
  | .advanceCommit request deadline (attempts + 1) =>
    match advanceTransaction config request world.row with
    | (_, .inactive) => (world, .done (.failed .inactive))
    | (_, .idle) =>
      (world, .next (.activeRead request.now (.advance request deadline attempts)))
    | (row, .advanced) =>
      ({ world with row }, .next (.write (cacheEntry row) (some deadline) (.advanced row)))
  | .revokeRead now reason =>
    if openAt world.row now = false then (world, .done (.revoked false))
    else
      (world, .next (.write (denyEntry world.row .revoking now reason) none
        (.revokeFence world.row now reason)))
  -- The final entry is made from the row that was read at first.
  | .revokeCommit candidate now reason =>
    match revokeUpdate world.row now reason with
    | some row =>
      ({ world with row },
        .next (.write (denyEntry candidate .revoked now reason) none .revokeFinal))
    | none => (world, .done (.revoked false))
  | .recover request =>
    match recoverTransaction config world.owner request world.row with
    | .inactive => (world, .done (.failed .inactive))
    | .idle => (world, .next (.activeRead request.now .recover))
    | .race => (world, .done (.failed .refreshRace))
    | .recovered => (world, .done (.session world.row))

/-! ### What a step does to the row -/

/-- Not revoked. -/
def alive (session : UserSession) : Bool :=
  session.status = .active && session.revokedAt = 0

theorem alive_of_openAt {session : UserSession} {now : Int} (isOpen : openAt session now = true) :
    alive session = true := by
  simp only [openAt, Bool.and_eq_true] at isOpen
  simp only [alive, Bool.and_eq_true]
  exact isOpen.1

/-- What every write keeps: the version does not fall, the expiry stays, and a revoked row stays
revoked. -/
structure RowGrows (before after : UserSession) : Prop where
  version : before.version ≤ after.version
  expiresAt : after.expiresAt = before.expiresAt
  revoked : alive before = false → alive after = false

theorem RowGrows.refl : RowGrows row row := ⟨le_refl _, rfl, id⟩

theorem RowGrows.revokedWith (row : UserSession) (now : Int) (reason : String) :
    RowGrows row (revokedWith row now reason) := ⟨le_refl _, rfl, fun _ => rfl⟩

inductive RowStep (config : SessionConfig) (row : UserSession) : Call → UserSession → Prop where
  | keep {call} : RowStep config row call row
  | idle {now purpose} (wasOpen : openAt row now = true) (wasIdle : idleAt config row now = true) :
      RowStep config row (.idleCheck now purpose) (revokedWith row now "idle_timeout")
  | rotate {rotation session deadline attempts} (wasOpen : openAt row rotation.now = true)
      (matched : row.refreshHash = rotation.presentedHash) :
      RowStep config row (.rotateSwap rotation session deadline attempts)
        (rotatedSession rotation row)
  | reuse {session now} (wasOpen : openAt row now = true) :
      RowStep config row (.reuseUpdate session now) (revokedWith row now "refresh_reuse")
  | advance {request deadline attempts} (wasOpen : openAt row request.now = true) :
      RowStep config row (.advanceCommit request deadline attempts) (advancedSession request row)
  | revoke {candidate now reason} (wasOpen : openAt row now = true) :
      RowStep config row (.revokeCommit candidate now reason) (revokedWith row now reason)

variable {row}
variable {call : Call} {config} {after : UserSession}

theorem RowStep.grows (change : RowStep config row call after) :
    RowGrows row after := by
  cases change with
  | keep => exact RowGrows.refl row
  | idle wasOpen wasIdle | reuse wasOpen | revoke wasOpen => exact RowGrows.revokedWith row _ _
  | rotate wasOpen matched => exact ⟨le_refl _, rfl, fun dead => dead⟩
  | advance wasOpen => exact ⟨by simp [advancedSession], rfl, fun dead => dead⟩

theorem idleTransaction_stillActive {now : Int}
    (outcome : idleTransaction config row now = (after, .stillActive)) :
    openAt row now = true ∧ idleAt config row now = false := by
  simp only [idleTransaction] at outcome
  split at outcome
  · cases outcome
  split at outcome
  · simp_all
  · cases outcome

theorem idleTransaction_idleRevoked {now : Int}
    (outcome : idleTransaction config row now = (after, .idleRevoked)) :
    openAt row now = true ∧ idleAt config row now = true ∧
      after = revokedWith row now "idle_timeout" := by
  simp only [idleTransaction] at outcome
  split at outcome
  · cases outcome
  split at outcome
  · cases outcome
  cases outcome
  simp_all

theorem rotateUpdate_eq_some {rotation : Rotation}
    (swapped : rotateUpdate config rotation row = some after) :
    openAt row rotation.now = true ∧ idleAt config row rotation.now = false ∧
      row.refreshHash = rotation.presentedHash ∧ after = rotatedSession rotation row := by
  simp only [rotateUpdate] at swapped
  split at swapped
  · rename_i conditions
    cases swapped
    exact ⟨conditions.1, conditions.2.1, conditions.2.2, rfl⟩
  · cases swapped

theorem advanceTransaction_advanced {request : Advancement}
    (outcome : advanceTransaction config request row = (after, .advanced)) :
    openAt row request.now = true ∧ after = advancedSession request row := by
  simp only [advanceTransaction] at outcome
  iterate 3
    split at outcome
    · cases outcome
  cases outcome
  simp_all

theorem revokeUpdate_eq_some {reason : String} {now : Int}
    (revoked : revokeUpdate row now reason = some after) :
    openAt row now = true ∧ after = revokedWith row now reason := by
  simp only [revokeUpdate] at revoked
  split at revoked
  · cases revoked
    exact ⟨‹_›, rfl⟩
  · cases revoked

theorem recoverTransaction_recovered {owner : Option Int} {request : Recovery}
    (outcome : recoverTransaction config owner request row = .recovered) :
    openAt row request.now = true ∧ row.previousRefreshHash ≠ "" ∧
      row.previousRefreshHash = request.presentedPreviousHash ∧
      row.refreshHash = request.expectedCurrentHash := by
  simp only [recoverTransaction] at outcome
  split at outcome
  · cases outcome
  split at outcome
  · cases outcome
  rename_i isOpen
  iterate 3
    split at outcome
    · cases outcome
  rename_i matched
  rw [not_or, not_or, not_or, not_not, not_not] at matched
  exact ⟨eq_true_of_ne_false isOpen, matched.1, matched.2.1, matched.2.2.1⟩

variable (config)

theorem resume_row (call : Call) :
    RowStep config world.row call (resume config world call).1.row := by
  fun_cases resume config world call
  -- the transactions that write the row
  case case12 outcome =>
    rcases idleTransaction_idleRevoked outcome with ⟨wasOpen, wasIdle, rfl⟩
    exact .idle wasOpen wasIdle
  case case26 swapped =>
    rcases rotateUpdate_eq_some swapped with ⟨wasOpen, -, matched, rfl⟩
    exact .rotate wasOpen matched
  case case28 revoked =>
    rcases revokeUpdate_eq_some revoked with ⟨wasOpen, rfl⟩
    exact .reuse wasOpen
  case case34 outcome =>
    rcases advanceTransaction_advanced outcome with ⟨wasOpen, rfl⟩
    exact .advance wasOpen
  case case37 revoked =>
    rcases revokeUpdate_eq_some revoked with ⟨wasOpen, rfl⟩
    exact .revoke wasOpen
  all_goals exact .keep

theorem resume_clock : (resume config world call).1.clock = world.clock := by
  fun_cases resume config world call <;> rfl

/-- What a script leaves in the cache. -/
def scriptStored (entry : UserSession) : Expiration → Stored
  | .pexpireAt time => ⟨entry, time⟩
  | .pexpire duration => ⟨entry, world.clock + duration⟩

theorem scriptStored_entry {expiration : Expiration} (entry : UserSession) :
    (scriptStored world entry expiration).entry = entry := by
  cases expiration <;> rfl

theorem runScript_deny {world : World} {entry : UserSession} (expiration : Expiration)
    (deny : entry.status ≠ .active)
    (newest : (world.visible.map (·.version)).getD 0 ≤ entry.version) :
    runScript world entry expiration = some (some (scriptStored world entry expiration)) := by
  simp only [runScript, deny, false_and, if_false, if_neg (not_lt.mpr newest)]
  cases expiration <;> rfl

theorem runScript_eq_some {world : World} {entry : UserSession} {expiration : Expiration}
    {redis : Option Stored} (ran : runScript world entry expiration = some redis) :
    (entry.status = .active → (world.visible.map (·.status)).getD .active = .active) ∧
      redis = some (scriptStored world entry expiration) := by
  revert ran
  fun_cases runScript world entry expiration
  all_goals rintro ⟨⟩
  all_goals exact ⟨fun active => by_contra fun deny => ‹¬ (_ ∧ _)› ⟨active, deny⟩, rfl⟩

theorem resume_redis (call : Call) :
    (resume config world call).1.redis = world.redis ∨
      ∃ entry expiration deadline reason,
        call = .script entry expiration deadline reason ∧
          (entry.status = .active → (world.visible.map (·.status)).getD .active = .active) ∧
          (resume config world call).1.redis = some (scriptStored world entry expiration) := by
  fun_cases resume config world call
  case case16 ran _ | case17 ran =>
    rcases runScript_eq_some ran with ⟨accepted, written⟩
    exact .inr ⟨_, _, _, _, rfl, accepted, written⟩
  all_goals exact .inl rfl

inductive NextCall (config : SessionConfig) (world : World) : Call → World → Call → Prop where
  | lookUpIdle {now} (found : getUserSessionCacheAt config world now = .idle) :
      NextCall config world (.lookUp now) world (.activeRead now .revalidate)
  | lookUpMiss {now} : NextCall config world (.lookUp now) world (.missed now)
  | missed {now} :
      NextCall config world (.missed now) world
        (.activeRead now (.fill (world.clock + cacheTTL config)))
  | revalidated {session} :
      NextCall config world (.revalidated session) world
        (.write (cacheEntry session) (some (world.clock + cacheTTL config)) (.revalidated session))
  | activeRead {now purpose next} (isOpen : openAt world.row now = true)
      (goes : afterActive purpose world.row = .next next) :
      NextCall config world (.activeRead now purpose) world next
  | activeIdle {now purpose} :
      NextCall config world (.activeRead now purpose) world (.idleCheck now purpose)
  | idleActive {now purpose next} (isOpen : openAt world.row now = true)
      (goes : afterActive purpose world.row = .next next) :
      NextCall config world (.idleCheck now purpose) world next
  | idleRevoked {now purpose} (isOpen : openAt world.row now = true) :
      NextCall config world (.idleCheck now purpose)
        { world with row := revokedWith world.row now "idle_timeout" }
        (.write (cacheEntry (revokedWith world.row now "idle_timeout")) none .idleRevoked)
  | prepared {entry deadline reason expiration}
      (ready : prepareWrite config world.clock entry deadline = .ok expiration) :
      NextCall config world (.write entry deadline reason) world
        (.script entry expiration deadline reason)
  | unprepared {entry deadline reason error next}
      (goes : afterWrite reason (some error) = .next next) :
      NextCall config world (.write entry deadline reason) world next
  | scripted {entry expiration deadline reason redis}
      (ran : runScript world entry expiration = some redis) :
      NextCall config world (.script entry expiration (some deadline) reason)
        { world with redis } (.completed entry deadline reason)
  | denied {entry expiration reason redis next}
      (ran : runScript world entry expiration = some redis)
      (goes : afterWrite reason none = .next next) :
      NextCall config world (.script entry expiration none reason) { world with redis } next
  | rejected {entry expiration deadline reason next}
      (goes : afterWrite reason (some .inactive) = .next next) :
      NextCall config world (.script entry expiration deadline reason) world next
  | completed {entry deadline reason error next} (goes : afterWrite reason error = .next next) :
      NextCall config world (.completed entry deadline reason) world next
  | rotateStart {rotation attempts} :
      NextCall config world (.rotateStart rotation (attempts + 1)) world
        (.rotateRead rotation (world.clock + cacheTTL config) attempts)
  | rotateIdle {rotation deadline attempts} :
      NextCall config world (.rotateRead rotation deadline attempts) world
        (.activeRead rotation.now (.rotate rotation attempts))
  | rotateCurrent {rotation deadline attempts}
      (current : world.row.refreshHash = rotation.presentedHash) :
      NextCall config world (.rotateRead rotation deadline attempts) world
        (.rotateSwap rotation world.row deadline attempts)
  | rotateReuse {rotation deadline attempts} (isOpen : openAt world.row rotation.now = true)
      (busy : idleAt config world.row rotation.now = false)
      (previous : world.row.previousRefreshHash = rotation.presentedHash)
      (late : world.row.previousValidUntil < rotation.now) :
      NextCall config world (.rotateRead rotation deadline attempts) world
        (.write (denyEntry world.row .revoking rotation.now "refresh_reuse") none
          (.reuseFence world.row rotation.now))
  | rotateSwapped {rotation session deadline attempts}
      (isOpen : openAt world.row rotation.now = true)
      (matched : world.row.refreshHash = rotation.presentedHash) :
      NextCall config world (.rotateSwap rotation session deadline attempts)
        { world with row := rotatedSession rotation world.row }
        (.write (cacheEntry (rotatedSession rotation session)) (some deadline)
          (.rotated (rotatedSession rotation session)))
  | rotateRetry {rotation session deadline attempts} :
      NextCall config world (.rotateSwap rotation session deadline attempts) world
        (.rotateStart rotation attempts)
  | reuseRevoked {session now} (isOpen : openAt world.row now = true) :
      NextCall config world (.reuseUpdate session now)
        { world with row := revokedWith world.row now "refresh_reuse" }
        (.write (denyEntry session .revoked now "refresh_reuse") none .reuseFinal)
  | advanceStart {request} :
      NextCall config world (.advanceStart request) world
        (.advanceCommit request (world.clock + cacheTTL config) 3)
  | advanceIdle {request deadline attempts} :
      NextCall config world (.advanceCommit request deadline (attempts + 1)) world
        (.activeRead request.now (.advance request deadline attempts))
  | advanced {request deadline attempts} (isOpen : openAt world.row request.now = true) :
      NextCall config world (.advanceCommit request deadline (attempts + 1))
        { world with row := advancedSession request world.row }
        (.write (cacheEntry (advancedSession request world.row)) (some deadline)
          (.advanced (advancedSession request world.row)))
  | revokeRead {now reason} (isOpen : openAt world.row now = true) :
      NextCall config world (.revokeRead now reason) world
        (.write (denyEntry world.row .revoking now reason) none
          (.revokeFence world.row now reason))
  | revokeCommit {candidate now reason} (isOpen : openAt world.row now = true) :
      NextCall config world (.revokeCommit candidate now reason)
        { world with row := revokedWith world.row now reason }
        (.write (denyEntry candidate .revoked now reason) none .revokeFinal)
  | recoverIdle {request} :
      NextCall config world (.recover request) world (.activeRead request.now .recover)

inductive WriteGoes : WriteFor → Option SessionError → Call → Prop where
  | revoke {candidate now text} :
      WriteGoes (.revokeFence candidate now text) none (.revokeCommit candidate now text)
  | reuse {session now} : WriteGoes (.reuseFence session now) none (.reuseUpdate session now)
  | filled {session} : WriteGoes (.filled session) (some .observationStale) (.confirm session)
  | rotated {session} : WriteGoes (.rotated session) (some .observationStale) (.confirm session)
  | advanced {session} : WriteGoes (.advanced session) (some .observationStale) (.confirm session)

variable {next : Call} {world}

theorem writeGoes {reason : WriteFor} {error : Option SessionError}
    (resumed : afterWrite reason error = .next next) : WriteGoes reason error next := by
  revert resumed
  fun_cases afterWrite reason error <;> rintro ⟨⟩ <;> constructor

theorem nextCall_rotateRead {deadline : Int} {attempts : Nat} {config : SessionConfig}
    {rotation : Rotation}
    (resumed : resumeRotateRead config world rotation deadline attempts = .next next) :
    NextCall config world (.rotateRead rotation deadline attempts) world next := by
  revert resumed
  fun_cases resumeRotateRead config world rotation deadline attempts
  all_goals rintro ⟨⟩
  case case2 => exact .rotateIdle
  case case3 current => exact .rotateCurrent current
  case case6 isOpen busy _ known grace =>
    rw [not_or, not_not] at known
    exact .rotateReuse (eq_true_of_ne_false isOpen) (eq_false_of_ne_true busy) known.2
      (lt_of_not_ge grace)

theorem nextCall_of_resume {config : SessionConfig} {after : World}
    (resumed : resume config world call = (after, .next next)) :
    NextCall config world call after next := by
  revert resumed
  fun_cases resume config world call
  all_goals
    intro resumed
    obtain ⟨rfl, goes⟩ := Prod.mk.inj resumed
  case case8 isOpen _ => exact .activeRead (eq_true_of_ne_false isOpen) goes
  case case11 outcome => exact .idleActive (idleTransaction_stillActive outcome).1 goes
  case case25 => exact nextCall_rotateRead goes
  case case14 | case15 | case17 | case18 | case19 | case20 => constructor <;> assumption
  all_goals cases goes
  case case9 => exact .activeIdle
  case case12 outcome =>
    rcases idleTransaction_idleRevoked outcome with ⟨isOpen, -, rfl⟩
    exact .idleRevoked isOpen
  case case26 swapped =>
    rcases rotateUpdate_eq_some swapped with ⟨isOpen, -, matched, rfl⟩
    exact .rotateSwapped isOpen matched
  case case28 revoked =>
    rcases revokeUpdate_eq_some revoked with ⟨isOpen, rfl⟩
    exact .reuseRevoked isOpen
  case case34 outcome =>
    rcases advanceTransaction_advanced outcome with ⟨isOpen, rfl⟩
    exact .advanced isOpen
  case case36 isOpen => exact .revokeRead (eq_true_of_ne_false isOpen)
  case case37 revoked =>
    rcases revokeUpdate_eq_some revoked with ⟨isOpen, rfl⟩
    exact .revokeCommit isOpen
  all_goals constructor <;> assumption

end UserSessions

end NewApi
