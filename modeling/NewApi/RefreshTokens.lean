import NewApi.Interleaving
import NewApi.SessionOperations

/-!
The refresh tokens of one login session: `refreshLoginSessionAt` of
service/auth_session.go under every interleaving of its steps. A call looks the session
up, checks its user, rotates the secret and, when it lost a race within the grace
window, recovers the successor. `derive` and `digest` are the keyed hashes of the source;
a token's session id is that of the session. What the state remembers beside the world
(rotations, answers) is read by no call. Issuing the access token is left out: a call
that fails there returns no answer.
-/

namespace NewApi.RefreshChain

open Runs Interleaving UserSessions

variable {Secret : Type}

structure Scheme (Secret : Type) where
  derive : Secret → Secret
  digest : Secret → String

/-- The secrets of a session in their order. -/
def Scheme.secretAt (scheme : Scheme Secret) (first : Secret) : Nat → Secret
  | 0 => first
  | position + 1 => scheme.derive (scheme.secretAt first position)

/-- The digests of the secrets are distinct, and no other secret has the digest of one of them. -/
structure Distinct (scheme : Scheme Secret) (first : Secret) : Prop where
  distinct : ∀ left right, scheme.digest (scheme.secretAt first left) =
    scheme.digest (scheme.secretAt first right) → left = right
  unguessed : ∀ secret position, scheme.digest secret =
    scheme.digest (scheme.secretAt first position) → secret = scheme.secretAt first position

/-- An answer about the session's user, from the cache or from the database. -/
inductive UserRead where
  | failed
  | found (enabled : Bool) (authVersion : Int)
  deriving DecidableEq

def UserRead.allows (read : UserRead) (session : UserSession) : Bool :=
  read = .found true session.userAuthVersion

def UserRead.owner : UserRead → Option Int
  | .found true authVersion => some authVersion
  | _ => none

structure Shared (Secret : Type) where
  world : World
  cachedUser : UserRead := .failed
  currentUser : UserRead := .failed
  -- The secrets whose calls changed the current digest, in that order.
  rotations : List Secret := []
  -- The presented secret and the returned one of every successful call.
  answers : List (Secret × Secret) := []
  -- A call succeeded on a revoked row that it had not rotated before.
  lateAnswer : Bool := false
  -- A call replayed the previous secret and returned without the row being revoked.
  spared : Bool := false
  deriving DecidableEq

inductive Stage where
  | calling (operation : Operation) (call : Call)
  | cachedUser (session : UserSession)
  | currentUser (session : UserSession) (cached : UserRead)
  deriving DecidableEq

structure Refresh (Secret : Type) where
  secret : Secret
  now : Int
  stage : Stage
  -- How many rotations there had been when the call last read the row for its own.
  seen : Nat := 0
  replayed : Bool := false
  rotated : Bool := false
  deriving DecidableEq

inductive Next where
  | goOn (stage : Stage)
  | fail
  | answer
  deriving DecidableEq

def rotationOf (scheme : Scheme Secret) (refresh : Refresh Secret) : Rotation where
  presentedHash := scheme.digest refresh.secret
  nextHash := scheme.digest (scheme.derive refresh.secret)
  now := refresh.now
  -- RefreshReplayWindow
  graceSeconds := 30

/-- `RotateUserSessionRefresh` from its check of the arguments. -/
def startRotation (rotation : Rotation) : Next :=
  if rotation.presentedHash = "" ∨ rotation.nextHash = "" ∨
      rotation.presentedHash = rotation.nextHash
  then .fail
  else .goOn (.calling (.rotate rotation) (.rotateStart rotation 3))

/-- `RecoverUserSessionRefresh` from its check of the arguments. -/
def startRecovery (request : Recovery) : Next :=
  if request.presentedPreviousHash = "" ∨ request.expectedCurrentHash = "" ∨
      request.expectedVersion ≤ 0 ∨ request.expectedAuthVersion ≤ 0 ∨ request.now ≤ 0
  then .fail
  else .goOn (.calling (.recover request) (.recover request))

def recoveryOf (scheme : Scheme Secret) (refresh : Refresh Secret) (rotated : UserSession) :
    Recovery where
  presentedPreviousHash := scheme.digest refresh.secret
  expectedCurrentHash := scheme.digest (scheme.derive refresh.secret)
  expectedVersion := rotated.version
  expectedAuthVersion := rotated.userAuthVersion
  now := refresh.now

variable (config : SessionConfig) (scheme : Scheme Secret)

def afterOperation (refresh : Refresh Secret) :
    Operation → Answer → Next
  | .get, .session session =>
    if isActiveAt config session refresh.now then .goOn (.cachedUser session) else .fail
  | .rotate _, .session _ => .answer
  | .rotate rotation, .race rotated =>
    if rotation.nextHash = rotated.refreshHash
    then startRecovery (recoveryOf scheme refresh rotated)
    else .fail
  | .recover _, .session _ => .answer
  | _, _ => .fail

def userSecurityChanged : String := "user_security_changed"

variable (shared : Shared Secret)

def worldAfter (refresh : Refresh Secret) : World :=
  match refresh.stage with
  | .calling _ call => (resume config shared.world call).1
  | _ => shared.world

def nextAfter (refresh : Refresh Secret) : Next :=
  match refresh.stage with
  | .calling operation call =>
    match (resume config shared.world call).2 with
    | .next next => .goOn (.calling operation next)
    | .done answer => afterOperation config scheme refresh operation answer
  | .cachedUser session =>
    if shared.cachedUser = .failed then .fail
    else .goOn (.currentUser session shared.cachedUser)
  | .currentUser session cached =>
    if shared.currentUser = .failed then .fail
    else if cached.allows session && shared.currentUser.allows session then
      startRotation (rotationOf scheme refresh)
    -- `RevokeUserSession` reads the clock itself.
    else .goOn (.calling (.revoke userSecurityChanged)
      (.revokeRead (shared.world.clock / 1000) userSecurityChanged))

def readsRow : Stage → Bool
  | .calling _ (.rotateRead _ _ _) => true
  | _ => false

/-- The row that the step reads for the rotation has the presented secret as its previous one, past
its grace window. -/
def replaysAt (row : UserSession) : Stage → Bool
  | .calling _ (.rotateRead rotation _ _) => replays config row rotation
  | _ => false

/-- What is remembered of a step that leaves the world as `world`. -/
def Shared.moved (world : World) (secret : Secret) : Shared Secret :=
  { shared with
    world
    rotations :=
      if world.row.refreshHash = shared.world.row.refreshHash then shared.rotations
      else shared.rotations ++ [secret] }

def Refresh.moved (world : World) (refresh : Refresh Secret) : Refresh Secret :=
  { refresh with
    seen := if readsRow refresh.stage then shared.rotations.length else refresh.seen
    replayed := refresh.replayed || replaysAt config shared.world.row refresh.stage
    rotated := refresh.rotated || world.row.refreshHash ≠ shared.world.row.refreshHash }

def Shared.returned (refresh : Refresh Secret) (answer : Option Secret) : Shared Secret :=
  { shared with
    answers := shared.answers ++ (answer.map (refresh.secret, ·)).toList
    lateAnswer := shared.lateAnswer ||
      (answer.isSome && !alive shared.world.row && !refresh.rotated)
    spared := shared.spared || (refresh.replayed && alive shared.world.row) }

def resumeRefresh (refresh : Refresh Secret) : Shared Secret × Option (Refresh Secret) :=
  let world := worldAfter config shared refresh
  let after := shared.moved world refresh.secret
  let moved := refresh.moved config shared world
  match nextAfter config scheme shared refresh with
  | .goOn stage => (after, some { moved with stage })
  | .fail => (after.returned moved none, none)
  | .answer => (after.returned moved (some (scheme.derive refresh.secret)), none)

inductive Move (Secret : Type) where
  | tick (duration : Nat)
  | users (cached current : UserRead)
  -- refreshLoginSessionAt with any secret.
  | start (secret : Secret) (now : Int)
  deriving DecidableEq

def move : Move Secret → Shared Secret × List (Refresh Secret)
  | .tick duration =>
    ({ shared with world := { shared.world with clock := shared.world.clock + duration } }, [])
  | .users cached current =>
    ({ shared with
       world := { shared.world with owner := current.owner }
       cachedUser := cached
       currentUser := current }, [])
  | .start secret now =>
    (shared, if 0 < now then [{ secret, now, stage := .calling .get (.lookUp now) }] else [])

def program : Program (Shared Secret) (Refresh Secret) (Move Secret) where
  resume := resumeRefresh config scheme
  environment := move

structure Created (scheme : Scheme Secret) (first : Secret) (world : World) : Prop where
  current : world.row.refreshHash = scheme.digest first
  previous : world.row.previousRefreshHash = ""
  version : 0 < world.row.version
  cached : ∀ stored, world.redis = some stored → stored.entry.version ≤ world.row.version

def begin (world : World) : State (Shared Secret) (Refresh Secret) where
  shared := { world }
  running := []

/-- The rotations were made by calls with the first, the second, ... secret, and the digests of the
row are those of the secret reached and of the one before. -/
structure History (scheme : Scheme Secret) (first : Secret) (row : UserSession)
    (rotations : List Secret) : Prop where
  order : rotations = (List.range rotations.length).map (scheme.secretAt first)
  current : row.refreshHash = scheme.digest (scheme.secretAt first rotations.length)
  previous :
    match rotations.length with
    | 0 => row.previousRefreshHash = ""
    | position + 1 => row.previousRefreshHash = scheme.digest (scheme.secretAt first position)

structure Sound (scheme : Scheme Secret) (first : Secret) (shared : Shared Secret) : Prop where
  history : History scheme first shared.world.row shared.rotations
  once : shared.rotations.Nodup
  -- Every successful answer is the successor of a secret that was rotated.
  answers : ∀ answer ∈ shared.answers, ∃ position < shared.rotations.length,
    answer = (scheme.secretAt first position, scheme.secretAt first (position + 1))
  inTime : shared.lateAnswer = false
  punished : shared.spared = false

/-- What a step of a call may do to the row and to the history of rotations. -/
inductive RowChange (config : SessionConfig) (scheme : Scheme Secret) (first : Secret)
    (before : Shared Secret) (refresh : Refresh Secret) : UserSession → List Secret → Prop where
  | keep : RowChange config scheme first before refresh before.world.row before.rotations
  | rotate (wasAlive : alive before.world.row = true)
      (current : refresh.secret = scheme.secretAt first before.rotations.length) :
      RowChange config scheme first before refresh
        (rotatedSession (rotationOf scheme refresh) before.world.row)
        (before.rotations ++ [refresh.secret])
  | idle {now} (wasIdle : idleAt config before.world.row now = true) :
      RowChange config scheme first before refresh
        (revokedWith before.world.row now "idle_timeout") before.rotations
  | user {now call} (rejected : refresh.stage = .calling (.revoke userSecurityChanged) call) :
      RowChange config scheme first before refresh
        (revokedWith before.world.row now userSecurityChanged) before.rotations
  -- The secret was the previous one when the call read the row, which may have been rotated since.
  | reuse {position} (replayed : refresh.replayed = true) (seen : refresh.seen = position + 1)
      (previous : refresh.secret = scheme.secretAt first position) :
      RowChange config scheme first before refresh
        (revokedWith before.world.row refresh.now "refresh_reuse") before.rotations

/-- A bound on the steps a call still takes. -/
def stepsLeft : Stage → Nat
  | .calling .get call => remaining call + 47
  | .cachedUser _ => 46
  | .currentUser _ _ => 45
  | .calling (.rotate _) call => remaining call + 10
  | .calling _ call => remaining call

/-- What the next step of a running call does, and that it brings the call nearer to its end. -/
structure StepSafe (config : SessionConfig) (scheme : Scheme Secret) (first : Secret)
    (shared : Shared Secret) (refresh : Refresh Secret) : Prop where
  change : RowChange config scheme first shared refresh
    (resumeRefresh config scheme shared refresh).1.world.row
    (resumeRefresh config scheme shared refresh).1.rotations
  ends : ∀ next, (resumeRefresh config scheme shared refresh).2 = some next →
    stepsLeft next.stage < stepsLeft refresh.stage

def reached [DecidableEq Secret] (world : World)
    (events : List (Event (Refresh Secret) (Move Secret))) :
    State (Shared Secret) (Refresh Secret) :=
  run (step (program config scheme)) (begin world) events

end NewApi.RefreshChain
