import NewApi.Interleaving
import NewApi.UserSessions

/-!
Session revocation under every interleaving of lookups, rotations, version advances and
revocations of one session. Beside the world the state keeps history that no call
reads: when the row was revoked, whether a revocation has reported success, and
whether a call that started after that has returned the session.
-/

namespace NewApi.SessionRevocation

open Runs Interleaving UserSessions

structure Shared where
  world : World
  -- The clock when the row was revoked.
  closedAt : Option Int := none
  revokedReturned : Bool := false
  lateReturn : Bool := false
  deriving DecidableEq

/-- A call, and whether a revocation had reported success when it started. -/
structure Running where
  call : Call
  late : Bool
  deriving DecidableEq

inductive Request where
  | get (now : Int)
  | rotate (rotation : Rotation)
  | advance (request : Advancement)
  | revoke (now : Int) (reason : String)
  deriving DecidableEq

def Request.now : Request → Int
  | .get now => now
  | .rotate rotation => rotation.now
  | .advance request => request.now
  | .revoke now _ => now

def Request.call : Request → Call
  | .get now => .lookUp now
  | .rotate rotation => .rotateStart rotation 3
  | .advance request => .advanceStart request
  | .revoke now reason => .revokeRead now reason

inductive Move where
  | tick (duration : Nat)
  | start (request : Request)
  deriving DecidableEq

def isSession : Answer → Bool
  | .session _ => true
  | _ => false

def Shared.moved (shared : Shared) (world : World) : Shared :=
  { shared with
    world
    closedAt :=
      match shared.closedAt with
      | some time => some time
      | none => if alive world.row then none else some world.clock }

variable (config : SessionConfig) (shared : Shared)

def resumeRunning (running : Running) : Shared × Option Running :=
  match resume config shared.world running.call with
  | (world, .next call) => (shared.moved world, some { running with call })
  | (world, .done outcome) =>
    ({ shared.moved world with
       revokedReturned := shared.revokedReturned || outcome = .revoked true
       lateReturn := shared.lateReturn || (running.late && isSession outcome) },
      none)

/-- Clocks are synchronised: the time a call works with is not ahead of the clock. -/
def move : Move → Shared × List Running
  | .tick duration =>
    ({ shared with world := { shared.world with clock := shared.world.clock + duration } }, [])
  | .start request =>
    (shared, if 0 < request.now ∧ request.now * 1000 ≤ shared.world.clock
      then [⟨request.call, shared.revokedReturned⟩] else [])

def program : Program Shared Running Move where
  resume := resumeRunning config
  environment := move

/-- What `publishCreatedUserSession` leaves in the cache. -/
def published (clock : Int) (row : UserSession) : Option Stored :=
  match prepareWrite config clock (cacheEntry row) (some (clock + cacheTTL config)) with
  | .ok (.pexpireAt time) => some ⟨cacheEntry row, time⟩
  | _ => none

/-- A session that is in the cache as it was created, or is not in the cache. -/
def begin (clock : Nat) (row : UserSession) (cached : Bool) : State Shared Running where
  shared :=
    { world :=
        { clock := (clock : Int)
          row
          redis := if cached then published config clock row else none }
      closedAt := if alive row then none else some (clock : Int) }
  running := []

/-- When a revocation publishes its final entry, the version in the cache (0 for no entry) is not
above the version of the row that the revocation read at first. -/
def Allowed : Event Running Move → Prop
  | .resume ⟨.script entry _ _ .revokeFinal, _⟩ =>
    (shared.world.visible.map (·.version)).getD 0 ≤ entry.version
  | _ => True

instance (shared : Shared) (event : Event Running Move) : Decidable (Allowed shared event) := by
  unfold Allowed
  split <;> infer_instance

def bound : Int :=
  shared.closedAt.getD shared.world.clock + cacheTTL config

def Snapshot (row session : UserSession) : Prop :=
  session.version ≤ row.version ∧ session.expiresAt = row.expiresAt

def activeLimit (entry : UserSession) : Int :=
  min (bound config shared)
    (min (shared.world.row.expiresAt * 1000) (effectiveExpiresAt config entry * 1000))

/-- From here on no active entry is visible once the row has been revoked. -/
def denyUntil : Int :=
  min (shared.world.row.expiresAt * 1000) (bound config shared)

structure StoredFits (config : SessionConfig) (shared : Shared) (stored : Stored) : Prop where
  version : stored.entry.version ≤ shared.world.row.version
  active : stored.entry.status = .active →
    stored.expireAt ≤ activeLimit config shared stored.entry

/-- A deny entry stands until no active one can be written, or that time has come. -/
def Denied : Prop :=
  (∃ stored, shared.world.redis = some stored ∧ stored.entry.status ≠ .active ∧
      denyUntil config shared ≤ stored.expireAt) ∨
    denyUntil config shared ≤ shared.world.clock

structure Good (config : SessionConfig) (shared : Shared) : Prop where
  time : 0 ≤ shared.world.clock
  closed : shared.closedAt.isSome = !alive shared.world.row
  past : ∀ time ∈ shared.closedAt, time ≤ shared.world.clock
  stored : ∀ stored, shared.world.redis = some stored → StoredFits config shared stored
  denied : shared.revokedReturned = true → shared.closedAt.isSome = true ∧ Denied config shared
  onTime : shared.lateReturn = false

def PurposeFits : Purpose → Prop
  | .revalidate => False
  | .fill deadline | .advance _ deadline _ =>
    deadline ≤ shared.world.clock + cacheTTL config
  | .rotate _ _ | .recover => True

def ReasonFits (entry : UserSession) (deadline : Option Int) :
    WriteFor → Prop
  | .revokeFence candidate _ _ => Snapshot shared.world.row candidate
  | .reuseFence session _ => Snapshot shared.world.row session
  | .revokeFinal =>
    entry.status ≠ .active ∧ deadline = none ∧ shared.closedAt.isSome = true
  | _ => True

/-- A deny entry lasts as long as it must, counted from now. -/
def ExpirationFits (entry : UserSession) :
    Expiration → Prop
  | .pexpireAt time => entry.status = .active ∧ time ≤ activeLimit config shared entry
  | .pexpire duration =>
    entry.status ≠ .active ∧
      min (shared.world.row.expiresAt * 1000 - shared.world.clock) (cacheTTL config) ≤ duration

def CallFits : Call → Prop
  | .lookUp now => 0 < now ∧ now * 1000 ≤ shared.world.clock
  | .revalidated _ => False
  | .activeRead _ purpose | .idleCheck _ purpose => PurposeFits config shared purpose
  | .write entry deadline reason =>
    Snapshot shared.world.row entry ∧ ReasonFits shared entry deadline reason ∧
      (entry.status = .active → ∀ time ∈ deadline, time ≤ bound config shared)
  | .script entry expiration deadline reason =>
    Snapshot shared.world.row entry ∧ ReasonFits shared entry deadline reason ∧
      ExpirationFits config shared entry expiration
  | .completed entry deadline reason => ReasonFits shared entry (some deadline) reason
  | .rotateRead _ deadline _ => deadline ≤ shared.world.clock + cacheTTL config
  | .rotateSwap _ session deadline _ =>
    Snapshot shared.world.row session ∧ deadline ≤ shared.world.clock + cacheTTL config
  | .advanceCommit _ deadline _ => deadline ≤ shared.world.clock + cacheTTL config
  | .reuseUpdate session _ => Snapshot shared.world.row session
  | .revokeCommit candidate _ _ => Snapshot shared.world.row candidate
  | .missed _ | .confirm _ | .rotateStart _ _ | .advanceStart _ | .revokeRead _ _ | .recover _ =>
    True

/-- A call that has not read the row since it started. -/
def early : Call → Bool
  | .lookUp _ | .missed _ | .activeRead _ _ | .rotateStart _ _ | .rotateRead _ _ _
  | .advanceStart _ | .advanceCommit _ _ _ | .revokeRead _ _ => true
  | _ => false

structure Fits (config : SessionConfig) (shared : Shared) (running : Running) : Prop where
  call : CallFits config shared running.call
  late : running.late = true → shared.revokedReturned = true ∧ early running.call = true

structure Later (before after : Shared) : Prop where
  clock : before.world.clock ≤ after.world.clock
  row : RowGrows before.world.row after.world.row
  closed : before.closedAt.isSome = true → after.closedAt = before.closedAt
  stillOpen : before.closedAt.getD before.world.clock ≤ after.closedAt.getD after.world.clock
  returned : before.revokedReturned = true → after.revokedReturned = true

variable {session row entry : UserSession} {config} {purpose : Purpose} {deadline : Option Int}
  {reason : WriteFor} {expiration : Expiration} {call : Call}

section Later

variable {before after : Shared}

theorem Later.bound_le (later : Later before after) (config : SessionConfig) :
    bound config before ≤ bound config after := by
  have := later.stillOpen
  simp only [bound]
  omega

theorem Snapshot.later {next : UserSession} (snapshot : Snapshot row session)
    (grows : RowGrows row next) : Snapshot next session :=
  ⟨le_trans snapshot.1 grows.version, snapshot.2.trans grows.expiresAt.symm⟩

section

variable (later : Later before after)

include later

theorem Later.activeLimit_le (entry : UserSession) :
    activeLimit config before entry ≤ activeLimit config after entry := by
  have limit := later.bound_le config
  simp only [activeLimit, later.row.expiresAt]
  omega

theorem Later.purposeFits (fits : PurposeFits config before purpose) :
    PurposeFits config after purpose := by
  have clock := later.clock
  cases purpose with
  | revalidate => exact fits
  | fill deadline | advance _ deadline _ =>
    simp only [PurposeFits] at fits ⊢
    omega
  | rotate _ _ | recover => trivial

theorem Later.reasonFits (fits : ReasonFits before entry deadline reason) :
    ReasonFits after entry deadline reason := by
  cases reason with
  | revokeFence candidate _ _ | reuseFence candidate _ => exact Snapshot.later fits later.row
  | revokeFinal =>
    rcases fits with ⟨deny, none, closed⟩
    exact ⟨deny, none, by rw [later.closed closed]; exact closed⟩
  | filled _ | revalidated _ | rotated _ | advanced _ | idleRevoked | reuseFinal => trivial

theorem Later.expirationFits (fits : ExpirationFits config before entry expiration) :
    ExpirationFits config after entry expiration := by
  cases expiration with
  | pexpireAt time => exact ⟨fits.1, le_trans fits.2 (later.activeLimit_le entry)⟩
  | pexpire duration =>
    have clock := later.clock
    have kept := fits.2
    refine ⟨fits.1, ?_⟩
    rw [later.row.expiresAt]
    omega

theorem Later.callFits (fits : CallFits config before call) : CallFits config after call := by
  have clock := later.clock
  cases call with
  | lookUp now => exact ⟨fits.1, le_trans fits.2 clock⟩
  | revalidated session => exact fits
  | activeRead _ purpose | idleCheck _ purpose => exact later.purposeFits fits
  | write entry deadline reason =>
    rcases fits with ⟨snapshot, reasonFits, limit⟩
    exact ⟨snapshot.later later.row, later.reasonFits reasonFits,
      fun active time given => le_trans (limit active time given) (later.bound_le config)⟩
  | script entry expiration deadline reason =>
    rcases fits with ⟨snapshot, reasonFits, expirationFits⟩
    exact ⟨snapshot.later later.row, later.reasonFits reasonFits,
      later.expirationFits expirationFits⟩
  | completed entry deadline reason => exact later.reasonFits fits
  | rotateRead _ deadline _ | advanceCommit _ deadline _ =>
    simp only [CallFits] at fits ⊢
    omega
  | rotateSwap _ session deadline _ =>
    exact ⟨fits.1.later later.row, by have := fits.2; omega⟩
  | reuseUpdate session _ | revokeCommit session _ _ => exact Snapshot.later fits later.row
  | missed _ | confirm _ | rotateStart _ _ | advanceStart _ | revokeRead _ _ | recover _ => trivial

theorem Later.fits {running : Running} (fits : Fits config before running) :
    Fits config after running :=
  ⟨later.callFits fits.call, fun late => ⟨later.returned (fits.late late).1, (fits.late late).2⟩⟩

end

end Later

/-! ### One step of a call -/

section Steps

variable {shared}

section

variable (good : Good config shared)

include good

theorem Good.closedAt_of_alive (live : alive shared.world.row = true) :
    shared.closedAt = none := by
  have closed := good.closed
  rw [live] at closed
  simpa using closed

theorem Good.not_alive (closed : shared.closedAt.isSome = true) :
    alive shared.world.row = false := by
  have agrees := good.closed
  rw [closed] at agrees
  simpa using agrees.symm

theorem Good.openAt_eq_false (closed : shared.closedAt.isSome = true) (now : Int) :
    openAt shared.world.row now = false := by
  have dead := good.not_alive closed
  cases isOpen : openAt shared.world.row now with
  | false => rfl
  | true => rw [alive_of_openAt isOpen] at dead; cases dead

theorem Good.moved_self : shared.moved shared.world = shared := by
  have closed := good.closed
  cases shared with
  | mk world closedAt revokedReturned lateReturn =>
    cases closedAt with
    | some time => rfl
    | none =>
      have live : alive world.row = true := by simpa using closed
      simp [Shared.moved, live]

theorem deadline_le_bound {deadline : Int} (before : alive shared.world.row = true)
    (after : alive row = true) (recent : deadline ≤ shared.world.clock + cacheTTL config) :
    deadline ≤ bound config (shared.moved { shared.world with row }) := by
  simpa [bound, Shared.moved, good.closedAt_of_alive before, after] using recent

end

variable {world : World} {next : Call} {now : Int}

theorem moved_closed (dead : alive world.row = false) :
    (shared.moved world).closedAt.isSome = true := by
  cases closedAt : shared.closedAt <;> simp [Shared.moved, closedAt, dead]

theorem later_moved (clock : shared.world.clock = world.clock)
    (grows : RowGrows shared.world.row world.row) : Later shared (shared.moved world) := by
  constructor
  case clock => exact le_of_eq clock
  case row => exact grows
  case closed =>
      intro closed
      rcases Option.isSome_iff_exists.mp closed with ⟨time, known⟩
      simp [Shared.moved, known]
  case stillOpen =>
      cases closedAt : shared.closedAt with
      | some time => simp [Shared.moved, closedAt]
      | none =>
        simp only [Shared.moved, closedAt, Option.getD_none]
        split <;> simp [clock]
  case returned => exact id

theorem later_resume (config : SessionConfig) (shared : Shared) (call : Call) :
    Later shared (shared.moved (resume config shared.world call).1) :=
  later_moved (resume_clock config shared.world).symm
    (resume_row config shared.world call).grows

theorem Snapshot.refl (row : UserSession) : Snapshot row row := ⟨le_refl _, rfl⟩

theorem callFits_afterWrite {error : Option SessionError}
    (fits : ReasonFits shared entry deadline reason)
    (resumed : afterWrite reason error = .next next) : CallFits config shared next := by
  cases writeGoes resumed with
  | revoke | reuse => exact fits
  | filled | rotated | advanced => trivial

theorem callFits_afterActive (good : Good config shared) (live : alive shared.world.row = true)
    (fits : PurposeFits config shared purpose)
    (resumed : afterActive purpose shared.world.row = .next next) :
    CallFits config shared next := by
  cases purpose with
  | revalidate => exact fits.elim
  | fill deadline =>
    cases resumed
    refine ⟨Snapshot.refl _, trivial, ?_⟩
    rintro - time given
    cases given
    have limit := deadline_le_bound good live live fits
    rw [good.moved_self] at limit
    exact limit
  | rotate rotation attempts => cases resumed; trivial
  | advance request deadline attempts => cases resumed; exact fits
  | recover => cases resumed

theorem effectiveExpiresAt_le (positive : 0 < effectiveExpiresAt config session) :
    effectiveExpiresAt config session ≤ session.expiresAt := by
  simp only [effectiveExpiresAt] at positive ⊢
  split at positive <;> split <;> omega

theorem expirationFits_prepareWrite (time : 0 ≤ shared.world.clock)
    (snapshot : Snapshot shared.world.row entry)
    (limit : entry.status = .active → ∀ time ∈ deadline, time ≤ bound config shared)
    (prepared : prepareWrite config shared.world.clock entry deadline = .ok expiration) :
    ExpirationFits config shared entry expiration := by
  simp only [prepareWrite] at prepared
  split at prepared
  · rename_i active
    cases deadline with
    | none => cases prepared
    | some deadline =>
      have within := limit active deadline rfl
      dsimp only at prepared
      split at prepared
      · cases prepared
      split at prepared
      · cases prepared
      cases prepared
      have positive : 0 < effectiveExpiresAt config entry := by omega
      have expiry := effectiveExpiresAt_le positive
      rw [snapshot.2] at expiry
      exact ⟨active, by simp only [activeLimit]; omega⟩
  · rename_i deny
    cases prepared
    refine ⟨deny, ?_⟩
    rw [snapshot.2]
    split <;> omega

theorem effectiveExpiresAt_le_of_idle (positive : 0 < now)
    (isIdle : idleAt config session now = true) : effectiveExpiresAt config session ≤ now := by
  rw [idleAt, decide_eq_true_eq, idleCutoff] at isIdle
  simp only [effectiveExpiresAt]
  split
  · omega
  omega

theorem Good.visible_active (good : Good config shared)
    (visible : shared.world.visible = some entry) (active : entry.status = .active) :
    shared.world.clock < activeLimit config shared entry := by
  simp only [World.visible] at visible
  split at visible
  · rename_i stored held
    split at visible
    · cases visible
      exact lt_of_lt_of_le ‹_› ((good.stored stored held).active active)
    · cases visible
  · cases visible

theorem status_of_openAt (isOpen : openAt session now = true) :
    session.status = .active := by
  simp only [openAt, Bool.and_eq_true, decide_eq_true_eq] at isOpen
  exact isOpen.1.1

theorem lookUp_not_idle (good : Good config shared) (fits : CallFits config shared (.lookUp now)) :
    getUserSessionCacheAt config shared.world now ≠ .idle := by
  rcases fits with ⟨positive, past⟩
  simp only [getUserSessionCacheAt]
  cases visible : shared.world.visible with
  | none => simp
  | some entry =>
    dsimp only
    split
    · simp
    split
    · simp
    rename_i isOpen
    split
    · rename_i isIdle
      have active := status_of_openAt (eq_true_of_ne_false isOpen)
      have limit := good.visible_active visible active
      have timeout := effectiveExpiresAt_le_of_idle positive isIdle
      simp only [activeLimit] at limit
      omega
    · simp

theorem callFits_next (good : Good config shared) (fits : CallFits config shared call)
    (resumed : resume config shared.world call = (world, .next next)) :
    CallFits config (shared.moved world) next := by
  have later := later_resume config shared call
  rw [resumed] at later
  have same := good.moved_self
  cases nextCall_of_resume resumed with
  | lookUpIdle found => exact absurd found (lookUp_not_idle good fits)
  | revalidated => exact fits.elim
  | missed | rotateStart | advanceStart => rw [same]; exact le_refl _
  | activeRead isOpen goes | idleActive isOpen goes =>
    rw [same]
    exact callFits_afterActive good (alive_of_openAt isOpen) fits goes
  | activeIdle | advanceIdle => rw [same]; exact fits
  | idleRevoked isOpen => exact ⟨Snapshot.refl _, trivial, by rintro - time ⟨⟩⟩
  | prepared ready =>
    rcases fits with ⟨snapshot, reasonFits, limit⟩
    rw [same]
    exact ⟨snapshot, reasonFits, expirationFits_prepareWrite good.time snapshot limit ready⟩
  | unprepared goes => rw [same]; exact callFits_afterWrite fits.2.1 goes
  | scripted ran => exact later.reasonFits fits.2.1
  | denied ran goes | rejected goes => exact callFits_afterWrite (later.reasonFits fits.2.1) goes
  | completed goes => exact callFits_afterWrite (later.reasonFits fits) goes
  | rotateCurrent current => rw [same]; exact ⟨Snapshot.refl _, fits⟩
  | rotateReuse isOpen busy previous late =>
    exact ⟨Snapshot.refl _, Snapshot.refl _, by rintro - time ⟨⟩⟩
  | rotateSwapped isOpen matched =>
    refine ⟨fits.1.later later.row, trivial, ?_⟩
    rintro - time ⟨⟩
    have live := alive_of_openAt isOpen
    exact deadline_le_bound good live live fits.2
  | reuseRevoked isOpen => exact ⟨Snapshot.later fits later.row, trivial, by rintro - time ⟨⟩⟩
  | advanced isOpen =>
    refine ⟨Snapshot.refl _, trivial, ?_⟩
    rintro - time ⟨⟩
    have live := alive_of_openAt isOpen
    exact deadline_le_bound good live live fits
  | revokeRead isOpen => rw [same]; exact ⟨Snapshot.refl _, Snapshot.refl _, by rintro - time ⟨⟩⟩
  | revokeCommit isOpen =>
    refine ⟨Snapshot.later fits later.row, ⟨by simp [denyEntry], rfl, ?_⟩, by rintro - time ⟨⟩⟩
    exact moved_closed rfl
  | lookUpMiss | rotateIdle | rotateRetry | recoverIdle => trivial

end Steps

end NewApi.SessionRevocation
