import NewApi.SessionFences

/-!
Revocation is final: once a revocation has reported success a deny entry stands in the
cache until no active entry can be left, so that no later call returns the session.
This needs the final entry of the revocation to be accepted. It is made from the row as
the revocation first read it, and the script rejects it when an advance has put a
higher version into the cache in between.
-/

namespace NewApi.SessionRevocation

open Runs Interleaving UserSessions Option

variable {config : SessionConfig} {shared after before : Shared} {stored : Stored}
  {deadline now : Int} {running : Running}

section Steps

variable {expiration : Expiration} {entry session : UserSession} {call : Call}

theorem storedFits_script (snapshot : Snapshot shared.world.row entry)
    (fits : ExpirationFits config shared entry expiration) :
    StoredFits config shared (scriptStored shared.world entry expiration) := by
  cases expiration with
  | pexpireAt time => exact ⟨snapshot.1, fun _ => fits.2⟩
  | pexpire duration => exact ⟨snapshot.1, fun active => absurd active fits.1⟩

theorem Later.storedFits (later : Later before after) (fits : StoredFits config before stored) :
    StoredFits config after stored :=
  ⟨le_trans fits.version later.row.version,
    fun active => le_trans (fits.active active) (later.activeLimit_le stored.entry)⟩

theorem denied_script (good : Good config shared) (closed : shared.closedAt.isSome = true)
    (deny : entry.status ≠ .active) (fits : ExpirationFits config shared entry expiration) :
    denyUntil config shared ≤ (scriptStored shared.world entry expiration).expireAt := by
  rcases isSome_iff_exists.mp closed with ⟨time, known⟩
  have past := good.past time known
  cases expiration with
  | pexpireAt limit => exact absurd fits.1 deny
  | pexpire duration =>
    have long := fits.2
    simp only [denyUntil, bound, known, getD_some, scriptStored]
    omega

theorem Later.denyUntil_eq (later : Later before after) (closed : before.closedAt.isSome = true) :
    denyUntil config after = denyUntil config before := by
  rcases isSome_iff_exists.mp closed with ⟨time, known⟩
  simp [denyUntil, bound, later.closed closed, known, later.row.expiresAt]

theorem denied_resume (good : Good config shared) (closed : shared.closedAt.isSome = true)
    (fits : CallFits config shared call) (denied : Denied config shared) :
    Denied config (shared.moved (resume config shared.world call).1) := by
  have later := later_resume config shared call
  simp only [Denied, later.denyUntil_eq closed]
  rcases denied with ⟨stored, held, deny, lasting⟩ | ended
  · rcases resume_redis config shared.world call with
      same | ⟨entry, expiration, deadline, reason, rfl, accepted, written⟩
    · exact .inl ⟨stored, same.trans held, deny, lasting⟩
    · by_cases fresh : shared.world.clock < stored.expireAt
      · -- The entry is visible, so that only a deny entry replaces it.
        have visible : shared.world.visible = some stored.entry := by
          simp [World.visible, held, fresh]
        have deny' : entry.status ≠ .active := by
          intro active
          have seen := accepted active
          rw [visible] at seen
          exact deny seen
        left
        refine ⟨_, written, by rwa [scriptStored_entry], ?_⟩
        exact denied_script good closed deny' fits.2.2
      · exact .inr (le_trans (le_trans lasting (not_lt.mp fresh)) later.clock)
  · exact .inr (le_trans ended later.clock)

theorem good_moved (good : Good config shared) (fits : CallFits config shared call) :
    Good config (shared.moved (resume config shared.world call).1) := by
  have later := later_resume config shared call
  constructor
  case time => exact le_trans good.time later.clock
  case closed =>
      cases closedAt : shared.closedAt with
      | some time =>
        have dead := good.not_alive (by simp [closedAt])
        simpa [Shared.moved, closedAt] using later.row.revoked dead
      | none =>
        simp only [Shared.moved, closedAt]
        split <;> simp_all
  case past =>
      intro time known
      cases closedAt : shared.closedAt with
      | some closing =>
        simp only [Shared.moved, closedAt, mem_some_iff] at known
        exact known ▸ le_trans (good.past closing closedAt) later.clock
      | none =>
        simp only [Shared.moved, closedAt] at known
        split at known
        · cases known
        cases known
        exact le_refl _
  case stored =>
      intro stored held
      rcases resume_redis config shared.world call with
        same | ⟨entry, expiration, deadline, reason, rfl, accepted, written⟩
      · exact later.storedFits (good.stored stored (same.symm.trans held))
      · have written := Option.some.inj (written.symm.trans held)
        exact later.storedFits (written ▸ storedFits_script fits.1 fits.2.2)
  case denied =>
      intro returned
      rcases good.denied returned with ⟨closed, denied⟩
      exact ⟨by rw [later.closed closed]; exact closed, denied_resume good closed fits denied⟩
  case onTime => exact good.onTime

theorem afterWrite_revoked {reason : WriteFor} {error : Option SessionError}
    (returned : afterWrite reason error = .done (.revoked true)) : reason = .revokeFinal := by
  revert returned
  fun_cases afterWrite reason error <;> rintro ⟨⟩
  rfl

theorem afterActive_ne_revoked {purpose : Purpose} :
    afterActive purpose session ≠ .done (.revoked true) := by
  cases purpose <;> simp [afterActive]

theorem resumeRotateRead_ne_revoked {world : World} {attempts : Nat} {rotation : Rotation} :
    resumeRotateRead config world rotation deadline attempts ≠ .done (.revoked true) := by
  fun_cases resumeRotateRead config world rotation deadline attempts <;> simp

theorem script_of_revoked (fits : CallFits config shared call)
    (returned : (resume config shared.world call).2 = .done (.revoked true)) :
    ∃ entry expiration, call = .script entry expiration none .revokeFinal := by
  revert fits returned
  fun_cases resume config shared.world call
  all_goals intro fits returned
  case case14 failed =>
    -- Preparing a deny entry never fails.
    cases afterWrite_revoked returned
    simp [prepareWrite, fits.2.1.1] at failed
  case case15 | case17 =>
    cases afterWrite_revoked returned
    cases fits.2.1.2.1
    exact ⟨_, _, rfl⟩
  case case18 | case19 | case20 =>
    cases afterWrite_revoked returned
    cases fits.2.1
  case case8 | case11 => exact absurd returned afterActive_ne_revoked
  case case25 => exact absurd returned resumeRotateRead_ne_revoked
  all_goals cases returned

theorem denied_of_revoked (good : Good config shared) (allowed : Allowed shared (.resume running))
    (fits : CallFits config shared running.call)
    (returned : (resume config shared.world running.call).2 = .done (.revoked true)) :
    (shared.moved (resume config shared.world running.call).1).closedAt.isSome = true ∧
      Denied config (shared.moved (resume config shared.world running.call).1) := by
  rcases running with ⟨call, late⟩
  rcases script_of_revoked fits returned with ⟨entry, expiration, rfl⟩
  rcases fits with ⟨-, ⟨deny, -, closed⟩, expirationFits⟩
  have later := later_resume config shared (.script entry expiration none .revokeFinal)
  refine ⟨by rw [later.closed closed]; exact closed, .inl ?_⟩
  rw [later.denyUntil_eq closed]
  have accepted := runScript_deny expiration deny allowed
  refine ⟨scriptStored shared.world entry expiration, by simp [resume, accepted, Shared.moved],
    by rwa [scriptStored_entry], denied_script good closed deny expirationFits⟩

theorem Denied.not_hit (denied : Denied config shared) (good : Good config shared) :
    getUserSessionCacheAt config shared.world now ≠ .hit entry := by
  simp only [getUserSessionCacheAt]
  cases visible : shared.world.visible with
  | none => simp
  | some held =>
    have inactive : openAt held now = false := by
      cases isOpen : openAt held now with
      | false => rfl
      | true =>
        have active := status_of_openAt isOpen
        have limit := good.visible_active visible active
        rcases denied with ⟨stored, present, deny, -⟩ | ended
        · simp only [World.visible, present] at visible
          split at visible
          · cases visible
            exact absurd active deny
          · cases visible
        · simp only [activeLimit] at limit
          simp only [denyUntil] at ended
          omega
    simp only [inactive]
    split <;> simp

theorem resume_late (good : Good config shared) (closed : shared.closedAt.isSome = true)
    (denied : Denied config shared) (fits : CallFits config shared call)
    (isEarly : early call = true) :
    (∀ session, (resume config shared.world call).2 ≠ .done (.session session)) ∧
      ∀ next, (resume config shared.world call).2 = .next next → early next = true := by
  have dead := good.openAt_eq_false closed
  cases call with
  | lookUp now =>
    simp only [resume]
    split
    · exact absurd ‹_› (denied.not_hit good)
    · simp
    · exact absurd ‹_› (lookUp_not_idle good fits)
    · simp [early]
  | missed now | advanceStart request => simp [resume, early]
  | activeRead now purpose | revokeRead now reason => simp [resume, dead]
  | rotateStart rotation attempts => cases attempts <;> simp [resume, early]
  | rotateRead rotation deadline attempts => simp [resume, resumeRotateRead, dead]
  | advanceCommit request deadline attempts =>
    cases attempts <;> simp [resume, advanceTransaction, dead]
  | revalidated _ | idleCheck _ _ | write _ _ _ | script _ _ _ _ | completed _ _ _ | confirm _
  | rotateSwap _ _ _ _ | reuseUpdate _ _ | revokeCommit _ _ _ | recover _ => cases isEarly

end Steps

theorem later_tick (shared : Shared) (duration : Nat) :
    Later shared (move shared (.tick duration)).1 := by
  constructor
  case clock => simp [move]
  case row => exact RowGrows.refl _
  case closed => exact fun _ => rfl
  case stillOpen => cases closedAt : shared.closedAt <;> simp [move, closedAt]
  case returned => exact id

theorem Later.returns (later : Later before after) (revoked late : Bool) :
    Later before
      { after with
        revokedReturned := before.revokedReturned || revoked, lateReturn := late } := by
  refine { later with returned := fun returned => ?_ }
  simp [returned]

theorem good_tick (good : Good config shared) (duration : Nat) :
    Good config (move shared (.tick duration)).1 := by
  have later := later_tick shared duration
  refine { good with
    time := le_trans good.time later.clock
    past := fun time known => le_trans (good.past time known) later.clock
    stored := fun stored held => later.storedFits (good.stored stored held)
    denied := ?_ }
  intro returned
  rcases good.denied returned with ⟨closed, denied⟩
  refine ⟨closed, ?_⟩
  simp only [Denied, later.denyUntil_eq closed]
  exact denied.imp_right (le_trans · later.clock)

theorem fits_resume (good : Good config shared) (allowed : Allowed shared (.resume running))
    (fits : Fits config shared running) :
    Later shared (resumeRunning config shared running).1 ∧
      Good config (resumeRunning config shared running).1 ∧
      ∀ next, (resumeRunning config shared running).2 = some next →
        Fits config (resumeRunning config shared running).1 next := by
  have later := later_resume config shared running.call
  have kept := good_moved good fits.call
  have lateOutcome : running.late = true →
      (∀ session, (resume config shared.world running.call).2 ≠ .done (.session session)) ∧
        ∀ next, (resume config shared.world running.call).2 = .next next → early next = true := by
    intro late
    rcases fits.late late with ⟨returned, isEarly⟩
    rcases good.denied returned with ⟨closed, denied⟩
    exact resume_late good closed denied fits.call isEarly
  have revoked := denied_of_revoked good allowed fits.call
  simp only [resumeRunning]
  split
  · rename_i world next resumed
    rw [resumed] at later kept lateOutcome
    refine ⟨later, kept, ?_⟩
    rintro - ⟨⟩
    refine ⟨callFits_next good fits.call resumed, fun late => ?_⟩
    exact ⟨later.returned (fits.late late).1, (lateOutcome late).2 next rfl⟩
  · rename_i world outcome resumed
    rw [resumed] at later kept lateOutcome revoked
    refine ⟨?_, ?_, by rintro - ⟨⟩⟩
    · exact later.returns _ _
    · refine { kept with stored := ?stored, denied := ?denied, onTime := ?onTime }
      case stored => exact fun stored held => { kept.stored stored held with }
      case denied =>
          intro returned
          simp only [Bool.or_eq_true, decide_eq_true_eq] at returned
          rcases returned with before | now
          · exact kept.denied before
          · exact revoked (by rw [now])
      case onTime =>
          cases late : running.late with
          | false => simp [good.onTime]
          | true =>
            cases outcome <;> simp_all [isSession, good.onTime]

theorem environment_fits (good : Good config shared) (next : Move) :
    Later shared (move shared next).1 ∧ Good config (move shared next).1 ∧
      ∀ running ∈ (move shared next).2, Fits config (move shared next).1 running := by
  cases next with
  | tick duration =>
    exact ⟨later_tick shared duration, good_tick good duration, by rintro running ⟨⟩⟩
  | start request =>
    have same : Later shared shared := by
      constructor
      case row => exact RowGrows.refl _
      all_goals simp
    refine ⟨same, good, ?_⟩
    intro running started
    simp only [move] at started
    split at started
    · rename_i guard
      rw [List.mem_singleton] at started
      subst started
      cases request with
      | get now => exact ⟨guard, fun late => ⟨late, rfl⟩⟩
      | rotate _ | advance _ | revoke _ _ => exact ⟨trivial, fun late => ⟨late, rfl⟩⟩
    · cases started

theorem preserved (config : SessionConfig) :
    Preserved (program config) Allowed (Good config) (Fits config) := by
  constructor
  case resume_good => exact fun allowed good fits => (fits_resume good allowed fits).2.1
  case resume_self => exact fun allowed good fits => (fits_resume good allowed fits).2.2 _
  case resume_other =>
      exact fun allowed good fits => (fits_resume good allowed fits).1.fits
  case environment_good => exact fun _ good => (environment_fits good _).2.1
  case environment_new => exact fun _ good => (environment_fits good _).2.2 _
  case environment_other => exact fun _ good => (environment_fits good _).1.fits

theorem storedFits_published (time : 0 ≤ shared.world.clock)
    (full : bound config shared = shared.world.clock + cacheTTL config)
    (held : published config shared.world.clock shared.world.row = some stored) :
    StoredFits config shared stored := by
  have snapshot : Snapshot shared.world.row (cacheEntry shared.world.row) := Snapshot.refl _
  simp only [published] at held
  split at held
  · rename_i limit prepared
    cases held
    have fits := expirationFits_prepareWrite time snapshot
      (by rintro - deadline ⟨⟩; exact le_of_eq full.symm) prepared
    exact storedFits_script snapshot fits
  · cases held

theorem good_begin (config : SessionConfig) (clock : Nat) (row : UserSession) (cached : Bool) :
    Good config (begin config clock row cached).shared := by
  constructor
  case time => exact Int.natCast_nonneg clock
  case closed => cases live : alive row <;> simp [begin, live]
  case past => cases live : alive row <;> simp [begin, live]
  case stored =>
      intro stored held
      cases cached with
      | false => cases held
      | true =>
        have full : bound config (begin config clock row true).shared =
            (begin config clock row true).shared.world.clock + cacheTTL config := by
          cases live : alive row <;> simp [bound, begin, live]
        exact storedFits_published (Int.natCast_nonneg clock) full held
  case denied => exact fun returned => by cases returned
  case onTime => rfl

/-- In every interleaving in which each final entry of a revocation meets no entry of a higher
version in the cache: once a revocation has returned true, no call that starts afterwards
returns the session. -/
theorem revocation_final (config : SessionConfig) (clock : Nat) (row : UserSession) (cached : Bool)
    (events : List (Event Running Move))
    (steps : AllSteps (step (program config)) (fun state => Allowed state.shared)
      (begin config clock row cached) events) :
    ∀ past rest, events = past ++ rest →
      (run (step (program config)) (begin config clock row cached) past).shared.lateReturn
        = false := by
  rintro past rest rfl
  have initial : Holds (Good config) (Fits config) (begin config clock row cached) :=
    ⟨good_begin config clock row cached, by rintro running ⟨⟩⟩
  exact ((preserved config).holds_run _ past steps.of_append initial).1.onTime

def sampleSession : UserSession :=
  { refreshHash := "h0", lastActiveAt := 100000, expiresAt := 900000 }

def sampleBegin : State Shared Running := begin {} 100000000 sampleSession true

def oneAfterAnother : List (Event Running Move) :=
  schedule (program {}) sampleBegin
    [.inr (.start (.get 100000)), .inl 0,
      .inr (.start (.advance ⟨1, 1, 2, 100000⟩)), .inl 0, .inl 0, .inl 0, .inl 0, .inl 0,
      .inr (.start (.revoke 100000 "logout")), .inl 0, .inl 0, .inl 0, .inl 0, .inl 0, .inl 0,
      .inr (.start (.get 100000)), .inl 0]

theorem revocation_final_one_after_another :
    (run (step (program {})) sampleBegin oneAfterAnother).shared.revokedReturned = true ∧
      ∀ past rest, oneAfterAnother = past ++ rest →
        (run (step (program {})) sampleBegin past).shared.lateReturn = false :=
  ⟨by decide +kernel, revocation_final {} 100000000 sampleSession true oneAfterAnother
    (by decide +kernel)⟩

/-- A revocation fences the session and waits longer than its fence stands; meanwhile an advance
publishes version 2. The final entry of the revocation, made from version 1, is rejected. -/
def advancedWhileRevoked : List (Event Running Move) :=
  schedule (program {}) sampleBegin
    [.inr (.start (.revoke 100000 "logout")), .inl 0, .inl 0, .inl 0,
      .inr (.tick 60000),
      .inr (.start (.advance ⟨1, 1, 2, 100000⟩)), .inl 0, .inl 0, .inl 0, .inl 0, .inl 0,
      .inl 0, .inl 0, .inl 0,
      .inr (.start (.get 100060)), .inl 0]

/-- The revocation has returned true and revoked the row, and a lookup that starts afterwards
returns the session. -/
theorem revoked_session_returned :
    (run (step (program {})) sampleBegin advancedWhileRevoked).shared.world.row.status = .revoked ∧
      (run (step (program {})) sampleBegin advancedWhileRevoked).shared.revokedReturned = true ∧
      (run (step (program {})) sampleBegin advancedWhileRevoked).shared.lateReturn = true := by
  decide +kernel

end NewApi.SessionRevocation
