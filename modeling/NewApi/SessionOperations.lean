import NewApi.UserSessions

/-!
The calls that an operation on a session goes through, and what they can do to the row.
A lookup changes the row only when it finds the session idle; a rotation may also swap the
digests or revoke a session whose old secret came back; every operation ends after a
bounded number of its own steps.
-/

namespace NewApi.UserSessions

/-- An operation without the advance of the version. -/
inductive Operation where
  | get
  | rotate (rotation : Rotation)
  | revoke (reason : String)
  | recover (request : Recovery)
  deriving DecidableEq

def Operation.HasPurpose : Operation → Purpose → Prop
  | .get, .revalidate => True
  | .get, .fill _ => True
  | .rotate rotation, .rotate carried _ => carried = rotation
  | .recover _, .recover => True
  | _, _ => False

def Operation.HasWrite : Operation → WriteFor → Prop
  | .get, .filled _ => True
  | .get, .revalidated _ => True
  | .rotate _, .rotated _ => True
  | .rotate rotation, .reuseFence _ now => now = rotation.now
  | .rotate _, .reuseFinal => True
  | .revoke reason, .revokeFence _ _ text => text = reason
  | .revoke _, .revokeFinal => True
  | .revoke _, .idleRevoked => False
  | _, .idleRevoked => True
  | _, _ => False

/-- The calls of an operation, with the arguments they carry along. -/
def Operation.Has : Operation → Call → Prop
  | .get, .lookUp _ => True
  | .get, .missed _ => True
  | .get, .revalidated _ => True
  | .get, .confirm _ => True
  | .rotate _, .confirm _ => True
  | .rotate rotation, .rotateStart carried _ => carried = rotation
  | .rotate rotation, .rotateRead carried _ _ => carried = rotation
  | .rotate rotation, .rotateSwap carried _ _ _ => carried = rotation
  | .rotate rotation, .reuseUpdate _ now => now = rotation.now
  | .revoke reason, .revokeRead _ text => text = reason
  | .revoke reason, .revokeCommit _ _ text => text = reason
  | .recover request, .recover carried => carried = request
  | operation, .activeRead _ purpose => operation.HasPurpose purpose
  | operation, .idleCheck _ purpose => operation.HasPurpose purpose
  | operation, .write _ _ reason => operation.HasWrite reason
  | operation, .script _ _ _ reason => operation.HasWrite reason
  | operation, .completed _ _ reason => operation.HasWrite reason
  | _, _ => False

section Steps

variable {world : World} {operation : Operation} {rotation : Rotation}
variable {next call : Call} {error : Option SessionError} {reason : WriteFor} {purpose : Purpose}
  {session row : UserSession} {config : SessionConfig} {after : World} {version now deadline : Int}
  {attempts : Nat}

theorem Operation.has_afterWrite (has : operation.HasWrite reason)
    (resumed : afterWrite reason error = .next next) : operation.Has next := by
  cases writeGoes resumed with
  | revoke | reuse => cases operation <;> exact has
  | filled | rotated => cases operation <;> trivial
  | advanced => cases operation <;> cases has

theorem Operation.has_afterActive (has : operation.HasPurpose purpose)
    (resumed : afterActive purpose session = .next next) : operation.Has next := by
  cases purpose with
  | revalidate | fill deadline =>
    cases resumed
    cases operation <;> trivial
  | rotate rotation attempts => cases resumed; cases operation <;> exact has
  | advance request deadline attempts => cases operation <;> cases has
  | recover => cases resumed

theorem Operation.has_next (has : operation.Has call)
    (resumed : resume config world call = (after, .next next)) : operation.Has next := by
  cases nextCall_of_resume resumed with
  | lookUpIdle | lookUpMiss | missed | revalidated | idleRevoked isOpen =>
    cases operation <;> trivial
  | activeRead isOpen goes | idleActive isOpen goes =>
    exact Operation.has_afterActive (by cases operation <;> exact has) goes
  | activeIdle | prepared | scripted | rotateStart | rotateIdle | rotateCurrent | rotateRetry =>
    cases operation <;> exact has
  | unprepared goes | denied ran goes | rejected goes | completed goes =>
    exact Operation.has_afterWrite (by cases operation <;> exact has) goes
  | rotateReuse isOpen busy previous late =>
    cases operation with
    | rotate rotation => cases has; rfl
    | get | revoke _ | recover _ => cases has
  | rotateSwapped | reuseRevoked | revokeRead | revokeCommit | recoverIdle =>
    cases operation <;> trivial
  | advanceStart | advanceIdle | advanced => cases operation <;> cases has

def stepsAfterWrite : WriteFor → Nat
  | .revokeFence _ _ _ | .reuseFence _ _ => 5
  | _ => 1

def stepsAfterActive : Purpose → Nat
  | .revalidate => 5
  | .fill _ => 4
  | .rotate _ attempts => 10 * attempts + 1
  | .advance _ _ attempts => 7 * attempts + 1
  | .recover => 0

/-- A bound on the steps a call still takes. -/
def remaining : Call → Nat
  | .lookUp _ => 12
  | .missed _ => 11
  | .revalidated _ => 5
  | .activeRead _ purpose => stepsAfterActive purpose + 6
  | .idleCheck _ purpose => stepsAfterActive purpose + 5
  | .write _ _ reason => stepsAfterWrite reason + 3
  | .script _ _ _ reason => stepsAfterWrite reason + 2
  | .completed _ _ reason => stepsAfterWrite reason + 1
  | .confirm _ => 1
  | .rotateStart _ attempts => 10 * attempts + 1
  | .rotateRead _ _ attempts => 10 * attempts + 10
  | .rotateSwap _ _ _ attempts => 10 * attempts + 6
  | .reuseUpdate _ _ => 5
  | .advanceStart _ => 23
  | .advanceCommit _ _ attempts => 7 * attempts + 1
  | .revokeRead _ _ => 9
  | .revokeCommit _ _ _ => 5
  | .recover _ => 7

theorem remaining_afterWrite (resumed : afterWrite reason error = .next next) :
    remaining next ≤ stepsAfterWrite reason := by
  cases writeGoes resumed <;> simp [remaining, stepsAfterWrite]

theorem remaining_afterActive (resumed : afterActive purpose session = .next next) :
    remaining next ≤ stepsAfterActive purpose := by
  cases purpose <;> cases resumed <;> simp [remaining, stepsAfterActive, stepsAfterWrite]

theorem remaining_next (resumed : resume config world call = (after, .next next)) :
    remaining next < remaining call := by
  cases nextCall_of_resume resumed with
  | activeRead isOpen goes | idleActive isOpen goes =>
    apply lt_of_le_of_lt (remaining_afterActive goes)
    simp only [remaining]
    omega
  | unprepared goes | denied ran goes | rejected goes | completed goes =>
    apply lt_of_le_of_lt (remaining_afterWrite goes)
    simp only [remaining]
    omega
  | _ =>
    simp only [remaining, stepsAfterActive, stepsAfterWrite]
    omega

/-! ### Versions

Without an advance every snapshot has the version of the row. -/

def WriteCarries (version : Int) : WriteFor → Prop
  | .reuseFence session _ | .revokeFence session _ _ => session.version = version
  | _ => True

def Carries (version : Int) : Call → Prop
  | .revalidated session | .rotateSwap _ session _ _ | .reuseUpdate session _
  | .revokeCommit session _ _ => session.version = version
  | .write entry _ reason | .script entry _ _ reason =>
    entry.version = version ∧ WriteCarries version reason
  | .completed _ _ reason => WriteCarries version reason
  | _ => True

theorem carries_afterWrite (carried : WriteCarries version reason)
    (resumed : afterWrite reason error = .next next) : Carries version next := by
  cases writeGoes resumed with
  | revoke | reuse => exact carried
  | filled | rotated | advanced => trivial

theorem carries_afterActive (resumed : afterActive purpose session = .next next) :
    Carries session.version next := by
  cases purpose <;> cases resumed
  case revalidate => rfl
  case fill => exact ⟨rfl, trivial⟩
  all_goals trivial

theorem carries_next (carried : Carries world.row.version call)
    (resumed : resume config world call = (after, .next next)) :
    Carries after.row.version next := by
  cases nextCall_of_resume resumed with
  | activeRead isOpen goes | idleActive isOpen goes => exact carries_afterActive goes
  | unprepared goes | denied ran goes | rejected goes => exact carries_afterWrite carried.2 goes
  | completed goes => exact carries_afterWrite carried goes
  | prepared => exact carried
  | scripted => exact carried.2
  | revalidated | rotateSwapped | reuseRevoked | revokeCommit => exact ⟨carried, trivial⟩
  | idleRevoked | advanced => exact ⟨rfl, trivial⟩
  | rotateReuse | revokeRead => exact ⟨rfl, rfl⟩
  | rotateCurrent => rfl
  | lookUpIdle | lookUpMiss | missed | activeIdle | rotateStart | rotateIdle | rotateRetry
  | advanceStart | advanceIdle | recoverIdle => trivial

theorem Operation.version_resume (has : operation.Has call) :
    (resume config world call).1.row.version = world.row.version := by
  have change := resume_row config world call
  generalize (resume config world call).1.row = row at change
  cases change with
  | keep | idle | rotate | reuse | revoke => rfl
  | advance => cases operation <;> cases has

theorem version_le_resume (has : operation.Has call) (carried : Carries world.row.version call)
    (held : ∀ stored, world.redis = some stored → stored.entry.version ≤ world.row.version) :
    ∀ stored, (resume config world call).1.redis = some stored →
      stored.entry.version ≤ (resume config world call).1.row.version := by
  intro stored found
  rw [Operation.version_resume has]
  rcases resume_redis config world call with
    same | ⟨entry, expiration, deadline, reason, rfl, -, written⟩
  · exact held stored (same.symm.trans found)
  · cases written.symm.trans found
    rw [scriptStored_entry]
    exact le_of_eq carried.1

/-- The calls of a rotation that has seen an old secret after its grace window. -/
def inReuse : Call → Bool
  | .write _ _ (.reuseFence _ _) | .script _ _ _ (.reuseFence _ _)
  | .completed _ _ (.reuseFence _ _) | .write _ _ .reuseFinal | .script _ _ _ .reuseFinal
  | .completed _ _ .reuseFinal | .reuseUpdate _ _ => true
  | _ => false

/-- What they rely on: the entries are deny entries, the row does not expire before it is revoked,
and it is revoked before the last entry is written. -/
def ReuseFits (row : UserSession) : Call → Prop
  | .write entry deadline (.reuseFence _ now) | .script entry _ deadline (.reuseFence _ now) =>
    entry.status ≠ .active ∧ deadline = none ∧ now < row.expiresAt
  | .write entry deadline .reuseFinal | .script entry _ deadline .reuseFinal =>
    entry.status ≠ .active ∧ deadline = none ∧ alive row = false
  | .reuseUpdate _ now => now < row.expiresAt
  | .completed _ _ (.reuseFence _ _) | .completed _ _ .reuseFinal => False
  | _ => True

theorem ReuseFits.later {later : UserSession} (fits : ReuseFits row call)
    (grows : RowGrows row later) : ReuseFits later call := by
  cases call with
  | write entry deadline reason | script entry _ deadline reason =>
    cases reason with
    | reuseFence session now => exact ⟨fits.1, fits.2.1, grows.expiresAt ▸ fits.2.2⟩
    | reuseFinal => exact ⟨fits.1, fits.2.1, grows.revoked fits.2.2⟩
    | _ => trivial
  | completed entry deadline reason =>
    cases reason with
    | reuseFence session now => exact fits
    | reuseFinal => exact fits
    | _ => trivial
  | reuseUpdate session now => exact (show now < later.expiresAt from grows.expiresAt ▸ fits)
  | _ => trivial

theorem lt_expiresAt_of_openAt (isOpen : openAt session now = true) : now < session.expiresAt := by
  simp only [openAt, Bool.and_eq_true, decide_eq_true_eq] at isOpen
  exact isOpen.2

theorem reuseFits_next (fits : ReuseFits world.row call)
    (resumed : resume config world call = (after, .next next)) : ReuseFits after.row next := by
  cases nextCall_of_resume resumed with
  | rotateReuse isOpen busy previous late =>
    exact ⟨by simp [denyEntry], rfl, lt_expiresAt_of_openAt isOpen⟩
  | reuseRevoked isOpen => exact ⟨by simp [denyEntry], rfl, rfl⟩
  | @prepared entry deadline reason expiration ready => cases reason <;> exact fits
  | @scripted entry expiration deadline reason redis ran =>
    cases reason with
    | reuseFence | reuseFinal => cases fits.2.1
    | _ => trivial
  | denied ran goes =>
    cases writeGoes goes with
    | reuse => exact fits.2.2
    | revoke => trivial
  | completed goes =>
    cases writeGoes goes with
    | reuse => exact fits.elim
    | _ => trivial
  | unprepared goes | rejected goes => cases writeGoes goes <;> trivial
  | @activeRead now purpose next isOpen goes | @idleActive now purpose next isOpen goes =>
    cases purpose <;> cases goes <;> trivial
  | _ => trivial

theorem inReuse_next (resumed : resume config world call = (after, .next next))
    (unread : ∀ rotation deadline attempts, call ≠ .rotateRead rotation deadline attempts) :
    inReuse next = inReuse call := by
  cases nextCall_of_resume resumed with
  | rotateIdle | rotateCurrent | rotateReuse => exact absurd rfl (unread _ _ _)
  | @prepared entry deadline reason expiration ready
  | @scripted entry expiration deadline reason redis ran =>
    cases reason <;> rfl
  | denied ran goes | unprepared goes | rejected goes | completed goes =>
    cases writeGoes goes <;> rfl
  | @activeRead now purpose next isOpen goes | @idleActive now purpose next isOpen goes =>
    cases purpose <;> cases goes <;> rfl
  | _ => rfl

/-- The row that a rotation reads has the presented secret as its previous one, and the grace window
has passed. -/
def replays (config : SessionConfig) (row : UserSession) (rotation : Rotation) : Bool :=
  openAt row rotation.now && !idleAt config row rotation.now &&
    row.previousRefreshHash = rotation.presentedHash &&
    decide (row.previousValidUntil < rotation.now)

theorem resumeRotateRead_of_replays (given : rotation.presentedHash ≠ "")
    (notCurrent : world.row.refreshHash ≠ rotation.presentedHash)
    (replayed : replays config world.row rotation = true) :
    resumeRotateRead config world rotation deadline attempts =
      .next (.write (denyEntry world.row .revoking rotation.now "refresh_reuse") none
        (.reuseFence world.row rotation.now)) := by
  simp only [replays, Bool.and_eq_true, Bool.not_eq_true', decide_eq_true_eq] at replayed
  rcases replayed with ⟨⟨⟨isOpen, busy⟩, previous⟩, late⟩
  simp [resumeRotateRead, isOpen, busy, notCurrent, previous, given, not_le.mpr late]

theorem inReuse_rotateRead (given : rotation.presentedHash ≠ "")
    (notCurrent : world.row.previousRefreshHash = rotation.presentedHash →
      world.row.refreshHash ≠ rotation.presentedHash)
    (resumed : resume config world (.rotateRead rotation deadline attempts) = (after, .next next)) :
    inReuse next = replays config world.row rotation := by
  cases replayed : replays config world.row rotation with
  | true =>
    have previous : world.row.previousRefreshHash = rotation.presentedHash := by
      simp only [replays, Bool.and_eq_true, decide_eq_true_eq] at replayed
      exact replayed.1.2
    rw [resume, resumeRotateRead_of_replays given (notCurrent previous) replayed] at resumed
    cases resumed
    rfl
  | false =>
    cases nextCall_of_resume resumed with
    | rotateIdle | rotateCurrent => rfl
    | rotateReuse isOpen busy previous late =>
      simp [replays, isOpen, busy, previous, late] at replayed

theorem visible_version_le (positive : 0 ≤ world.row.version)
    (held : ∀ stored, world.redis = some stored → stored.entry.version ≤ world.row.version) :
    (world.visible.map (·.version)).getD 0 ≤ world.row.version := by
  simp only [World.visible]
  cases found : world.redis with
  | none => exact positive
  | some stored =>
    by_cases fresh : world.clock < stored.expireAt
    · simpa [fresh] using held stored found
    · simpa [fresh] using positive

theorem revoked_of_inReuse {answer : Answer} (turned : inReuse call = true)
    (fits : ReuseFits world.row call) (carried : Carries world.row.version call)
    (positive : 0 ≤ world.row.version)
    (held : ∀ stored, world.redis = some stored → stored.entry.version ≤ world.row.version)
    (resumed : resume config world call = (after, .done answer)) :
    alive after.row = false ∧ ∃ error, answer = .failed error := by
  have grows := (resume_row config world call).grows
  rw [resumed] at grows
  cases call with
  | write entry deadline reason =>
    cases reason with
    | reuseFence session now | reuseFinal => simp [resume, prepareWrite, fits.1] at resumed
    | _ => cases turned
  | script entry expiration deadline reason =>
    cases reason with
    | reuseFence session now =>
      rcases fits with ⟨deny, rfl, -⟩
      have newest := visible_version_le positive held
      rw [← carried.1] at newest
      simp [resume, runScript_deny expiration deny newest, afterWrite] at resumed
    | reuseFinal =>
      refine ⟨grows.revoked fits.2.2, ?_⟩
      rcases fits with ⟨-, rfl, -⟩
      simp only [resume] at resumed
      split at resumed <;> cases resumed <;> exact ⟨_, rfl⟩
    | _ => cases turned
  | completed entry deadline reason =>
    cases reason with
    | reuseFence session now | reuseFinal => exact fits.elim
    | _ => cases turned
  | reuseUpdate session now =>
    simp only [resume, revokeUpdate] at resumed
    cases isOpen : openAt world.row now with
    | true => simp [isOpen] at resumed
    | false =>
      simp only [isOpen, Bool.false_eq_true, if_false] at resumed
      cases resumed
      refine ⟨?_, _, rfl⟩
      have lasting : now < world.row.expiresAt := fits
      simpa [openAt, alive, lasting] using isOpen
  | _ => cases turned

/-- The calls of a rotation that has swapped the digests. -/
def settles : Call → Bool
  | .write _ _ (.rotated _) | .script _ _ _ (.rotated _) | .completed _ _ (.rotated _)
  | .confirm _ => true
  | _ => false

theorem settles_next (has : (Operation.rotate rotation).Has call)
    (resumed : resume config world call = (after, .next next)) (settled : settles next = true) :
    settles call = true ∨ world.row.refreshHash = rotation.presentedHash ∧
      after.row = rotatedSession rotation world.row := by
  cases nextCall_of_resume resumed with
  | rotateSwapped isOpen matched => cases has; exact .inr ⟨matched, rfl⟩
  | @prepared entry deadline reason expiration ready
  | @scripted entry expiration deadline reason redis ran =>
    cases reason <;> exact .inl settled
  | denied ran goes | unprepared goes | rejected goes | completed goes =>
    cases writeGoes goes <;> first | exact .inl rfl | (cases has; done) | cases settled
  | @activeRead now purpose next isOpen goes | @idleActive now purpose next isOpen goes =>
    cases purpose <;> cases goes <;> cases settled
  | _ => cases settled

theorem afterWrite_session (resumed : afterWrite reason error = .done (.session session)) :
    reason = .filled session ∨ reason = .rotated session ∨ reason = .advanced session ∨
      reason = .revalidated session := by
  revert resumed
  fun_cases afterWrite reason error <;> rintro ⟨⟩ <;> simp

theorem afterActive_ne_session : afterActive purpose row ≠ .done (.session session) := by
  cases purpose <;> simp [afterActive]

theorem rotateRead_ne_session :
    resumeRotateRead config world rotation deadline attempts ≠ .done (.session session) := by
  fun_cases resumeRotateRead config world rotation deadline attempts <;> simp

theorem settles_of_session (has : (Operation.rotate rotation).Has call)
    (resumed : resume config world call = (after, .done (.session session))) :
    settles call = true := by
  revert has resumed
  fun_cases resume config world call
  all_goals
    intro has resumed
    have goes := (Prod.mk.inj resumed).2
  -- A rotation writes an active entry only after its swap.
  case case14 | case15 | case17 | case18 | case19 | case20 =>
    rcases afterWrite_session goes with rfl | rfl | rfl | rfl <;> first | rfl | cases has
  case case8 | case11 => exact absurd goes afterActive_ne_session
  case case25 => exact absurd goes rotateRead_ne_session
  case case21 => rfl
  all_goals first | (cases has; done) | cases goes

theorem recovered_of_session {request : Recovery} (has : (Operation.recover request).Has call)
    (resumed : resume config world call = (after, .done (.session session))) :
    recoverTransaction config world.owner request world.row = .recovered ∧ after = world := by
  revert has resumed
  fun_cases resume config world call
  all_goals
    intro has resumed
    obtain ⟨rfl, goes⟩ := Prod.mk.inj resumed
  case case14 | case15 | case17 | case18 | case19 | case20 =>
    rcases afterWrite_session goes with rfl | rfl | rfl | rfl <;> cases has
  case case8 | case11 => exact absurd goes afterActive_ne_session
  case case42 recovered =>
    cases has
    exact ⟨recovered, rfl⟩
  all_goals first | (cases has; done) | cases goes

end Steps

end NewApi.UserSessions
