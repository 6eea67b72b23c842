import NewApi.RefreshTokens

/-!
Safety of the chain of refresh secrets. The invariant relates the digests of the row to
the history of rotations; each running call carries what its stage relies on. Only a
call with the current secret rotates; a call with the previous secret, past its grace
window, returns with the session revoked; other calls change the row only by revoking a
session that is idle or whose user has changed.
-/

namespace NewApi.RefreshChain

open Runs Interleaving UserSessions List

variable {Secret : Type}

structure Good (scheme : Scheme Secret) (first : Secret) (shared : Shared Secret) : Prop where
  sound : Sound scheme first shared
  version : 0 < shared.world.row.version
  held : ∀ stored, shared.world.redis = some stored →
    stored.entry.version ≤ shared.world.row.version

def ArgumentsFit (scheme : Scheme Secret) (refresh : Refresh Secret) : Operation → Prop
  | .get => True
  | .rotate rotation => rotation = rotationOf scheme refresh ∧ rotation.presentedHash ≠ ""
  | .revoke reason => reason = userSecurityChanged
  | .recover request =>
    request.presentedPreviousHash = scheme.digest refresh.secret ∧
      request.expectedCurrentHash = scheme.digest (scheme.derive refresh.secret)

structure CallFits (scheme : Scheme Secret) (shared : Shared Secret) (refresh : Refresh Secret)
    (operation : Operation) (call : Call) : Prop where
  has : operation.Has call
  carries : Carries shared.world.row.version call
  reuse : ReuseFits shared.world.row call
  replayed : refresh.replayed = inReuse call
  rotated : ∀ rotation, operation = .rotate rotation → settles call = true → refresh.rotated = true
  arguments : ArgumentsFit scheme refresh operation

structure Fits (scheme : Scheme Secret) (first : Secret) (shared : Shared Secret)
    (refresh : Refresh Secret) : Prop where
  calling : ∀ operation call, refresh.stage = .calling operation call →
    CallFits scheme shared refresh operation call
  checking : (∀ operation call, refresh.stage ≠ .calling operation call) →
    refresh.replayed = false
  seen : refresh.replayed = true →
    ∃ position, refresh.seen = position + 1 ∧ refresh.secret = scheme.secretAt first position
  rotated : refresh.rotated = true →
    ∃ position < shared.rotations.length, refresh.secret = scheme.secretAt first position

structure Later (before after : Shared Secret) : Prop where
  version : after.world.row.version = before.world.row.version
  row : RowGrows before.world.row after.world.row
  rotations : before.rotations.length ≤ after.rotations.length

variable {first secret : Secret} {after before middle : Shared Secret} {attempts left right : Nat}

theorem Later.fits {scheme : Scheme Secret} {refresh : Refresh Secret} (later : Later before after)
    (fits : Fits scheme first before refresh) : Fits scheme first after refresh := by
  refine { fits with calling := ?calling, rotated := ?rotated }
  case calling =>
      intro operation call stage
      have call := fits.calling operation call stage
      refine { call with carries := ?_, reuse := call.reuse.later later.row }
      rw [later.version]
      exact call.carries
  case rotated =>
      intro rotated
      rcases fits.rotated rotated with ⟨position, reached, same⟩
      exact ⟨position, lt_of_lt_of_le reached later.rotations, same⟩

section Steps

variable {config : SessionConfig} {scheme : Scheme Secret} {shared : Shared Secret}
  {refresh : Refresh Secret}

/-- The state after a step, before what the call returns is remembered. -/
abbrev Shared.stepped (config : SessionConfig) (shared : Shared Secret)
    (refresh : Refresh Secret) : Shared Secret :=
  shared.moved (worldAfter config shared refresh) refresh.secret

abbrev Refresh.stepped (config : SessionConfig) (shared : Shared Secret)
    (refresh : Refresh Secret) : Refresh Secret :=
  refresh.moved config shared (worldAfter config shared refresh)

structure Calls (config : SessionConfig) (shared : Shared Secret) (refresh : Refresh Secret)
    (operation : Operation) (call : Call) (progress : Progress) : Prop where
  stage : refresh.stage = .calling operation call
  resumed : resume config shared.world call = (worldAfter config shared refresh, progress)

inductive Goes (config : SessionConfig) (scheme : Scheme Secret) (shared : Shared Secret)
    (refresh : Refresh Secret) : Next → Prop where
  | next {operation call next} (calls : Calls config shared refresh operation call (.next next)) :
      Goes config scheme shared refresh (.goOn (.calling operation next))
  | found {call session}
      (calls : Calls config shared refresh .get call (.done (.session session))) :
      Goes config scheme shared refresh (.goOn (.cachedUser session))
  | cached {session} (stage : refresh.stage = .cachedUser session) :
      Goes config scheme shared refresh (.goOn (.currentUser session shared.cachedUser))
  | rotate {session cached} (stage : refresh.stage = .currentUser session cached)
      (given : scheme.digest refresh.secret ≠ "") :
      Goes config scheme shared refresh (.goOn (.calling (.rotate (rotationOf scheme refresh))
        (.rotateStart (rotationOf scheme refresh) 3)))
  | revoke {session cached now} (stage : refresh.stage = .currentUser session cached) :
      Goes config scheme shared refresh (.goOn (.calling (.revoke userSecurityChanged)
        (.revokeRead now userSecurityChanged)))
  | recover {rotation call session}
      (calls : Calls config shared refresh (.rotate rotation) call (.done (.race session))) :
      Goes config scheme shared refresh (.goOn (.calling
        (.recover (recoveryOf scheme refresh session))
        (.recover (recoveryOf scheme refresh session))))
  | rotated {rotation call session}
      (calls : Calls config shared refresh (.rotate rotation) call (.done (.session session))) :
      Goes config scheme shared refresh .answer
  | recovered {request call session}
      (calls : Calls config shared refresh (.recover request) call (.done (.session session))) :
      Goes config scheme shared refresh .answer
  | failed : Goes config scheme shared refresh .fail

variable {operation : Operation} {call next : Call} {rotations : List Secret} {row : UserSession}
  {answer : Answer} {stage : Stage}

theorem Calls.of_snd {progress : Progress} (stage : refresh.stage = .calling operation call)
    (resumed : (resume config shared.world call).2 = progress) :
    Calls config shared refresh operation call progress :=
  ⟨stage, by simp only [worldAfter, stage]; rw [← resumed]⟩

theorem goes_nextAfter (config : SessionConfig) (scheme : Scheme Secret) (shared : Shared Secret)
    (refresh : Refresh Secret) :
    Goes config scheme shared refresh (nextAfter config scheme shared refresh) := by
  fun_cases nextAfter config scheme shared refresh
  case case1 stage _ resumed => exact .next (.of_snd stage resumed)
  case case2 operation call stage answer resumed =>
    have calls : Calls config shared refresh operation call _ := .of_snd stage resumed
    fun_cases afterOperation config scheme refresh operation answer
    case case1 => exact .found calls
    case case3 => exact .rotated calls
    case case4 =>
      fun_cases startRecovery
      case case1 => exact .failed
      case case2 => exact .recover calls
    case case6 => exact .recovered calls
    all_goals exact .failed
  case case4 stage _ => exact .cached stage
  case case6 stage _ _ =>
    fun_cases startRotation (rotationOf scheme refresh)
    case case1 => exact .failed
    case case2 valid => exact .rotate stage fun empty => valid (.inl empty)
  case case7 stage _ _ => exact .revoke stage
  all_goals exact .failed

theorem revokedWith_refreshHash (session : UserSession) (now : Int) (reason : String) :
    (revokedWith session now reason).refreshHash = session.refreshHash := rfl

theorem replays_previous {rotation : Rotation}
    (replayed : replays config shared.world.row rotation = true) :
    shared.world.row.previousRefreshHash = rotation.presentedHash := by
  simp only [replays, Bool.and_eq_true, decide_eq_true_eq] at replayed
  exact replayed.1.2

theorem RowChange.later (change : RowChange config scheme first shared refresh row rotations) :
    row.version = shared.world.row.version ∧ RowGrows shared.world.row row ∧
      shared.rotations.length ≤ rotations.length := by
  cases change with
  | keep => exact ⟨rfl, RowGrows.refl _, le_refl _⟩
  | rotate wasAlive current => exact ⟨rfl, ⟨le_refl _, rfl, fun dead => dead⟩, by simp⟩
  | idle | user | reuse => exact ⟨rfl, RowGrows.revokedWith _ _ _, le_refl _⟩

theorem History.change (history : History scheme first shared.world.row shared.rotations)
    (change : RowChange config scheme first shared refresh row rotations) :
    History scheme first row rotations := by
  cases change with
  | keep => exact history
  | idle | user | reuse => exact { history with }
  | rotate wasAlive current =>
    constructor
    case current =>
      simp only [rotatedSession, rotationOf, current, length_append, length_singleton]
      rfl
    case order =>
      rw [length_append, length_singleton, range_succ, map_append,
        ← history.order, current]
      rfl
    case previous =>
      simp only [length_append, length_singleton]
      rw [← current]
      rfl

theorem CallFits.rotateRead {deadline : Int} {rotation : Rotation}
    (callFits : CallFits scheme shared refresh operation (.rotateRead rotation deadline attempts)) :
    rotation = rotationOf scheme refresh ∧ rotation.presentedHash ≠ "" := by
  cases operation with
  | rotate carried =>
    have same : rotation = carried := callFits.has
    exact same ▸ callFits.arguments
  | get | revoke _ | recover _ => cases callFits.has

variable (distinct : Distinct scheme first)

include distinct

theorem History.nodup (history : History scheme first row rotations) : rotations.Nodup := by
  rw [history.order]
  apply List.Nodup.map
  · intro left right same
    exact distinct.distinct left right (congrArg scheme.digest same)
  · exact nodup_range

theorem History.of_previous (history : History scheme first row rotations)
    (matched : row.previousRefreshHash = scheme.digest secret) (given : scheme.digest secret ≠ "") :
    ∃ position, rotations.length = position + 1 ∧ secret = scheme.secretAt first position := by
  have previous := history.previous
  cases length : rotations.length with
  | zero =>
    rw [length] at previous
    exact absurd (matched.symm.trans previous) given
  | succ position =>
    rw [length] at previous
    exact ⟨position, rfl, distinct.unguessed _ _ (matched.symm.trans previous)⟩

variable (good : Good scheme first shared)

include good

theorem refreshHash_moves
    (matched : shared.world.row.refreshHash = (rotationOf scheme refresh).presentedHash) :
    (rotatedSession (rotationOf scheme refresh) shared.world.row).refreshHash ≠
      shared.world.row.refreshHash := by
  have current : refresh.secret = scheme.secretAt first shared.rotations.length :=
    distinct.unguessed _ _ (matched.symm.trans good.sound.history.current)
  intro same
  rw [good.sound.history.current] at same
  simp only [rotatedSession, rotationOf, current] at same
  have := distinct.distinct (shared.rotations.length + 1) _ same
  omega

theorem current_ne_of_previous {rotation : Rotation} (own : rotation = rotationOf scheme refresh)
    (given : rotation.presentedHash ≠ "")
    (previous : shared.world.row.previousRefreshHash = rotation.presentedHash) :
    shared.world.row.refreshHash ≠ rotation.presentedHash := by
  subst own
  intro current
  rcases good.sound.history.of_previous distinct previous given with ⟨position, length, same⟩
  have reached := distinct.unguessed _ _ (current.symm.trans good.sound.history.current)
  have := distinct.distinct position _ (congrArg scheme.digest (same.symm.trans reached))
  omega

variable (fits : Fits scheme first shared refresh)

include fits

theorem rowChange_calling (stage : refresh.stage = .calling operation call) :
    RowChange config scheme first shared refresh (resume config shared.world call).1.row
      (shared.moved (resume config shared.world call).1 refresh.secret).rotations := by
  have callFits := fits.calling operation call stage
  have has := callFits.has
  have arguments := callFits.arguments
  have change := resume_row config shared.world call
  simp only [Shared.moved]
  generalize (resume config shared.world call).1.row = row at change ⊢
  cases change with
  | keep => rw [if_pos rfl]; exact .keep
  | idle wasOpen wasIdle => rw [revokedWith_refreshHash, if_pos rfl]; exact .idle wasIdle
  | @rotate rotation session deadline attempts wasOpen matched =>
    cases operation with
    | rotate carried =>
      cases has
      rcases arguments with ⟨rfl, -⟩
      have current : refresh.secret = scheme.secretAt first shared.rotations.length :=
        distinct.unguessed _ _ (matched.symm.trans good.sound.history.current)
      rw [if_neg (refreshHash_moves distinct good matched)]
      exact .rotate (alive_of_openAt wasOpen) current
    | get | revoke _ | recover _ => cases has
  | @reuse session now wasOpen =>
    rw [revokedWith_refreshHash, if_pos rfl]
    cases operation with
    | rotate carried =>
      rcases arguments with ⟨rfl, -⟩
      have same : now = refresh.now := has
      subst same
      rcases fits.seen callFits.replayed with ⟨position, seen, previous⟩
      exact .reuse callFits.replayed seen previous
    | get | revoke _ | recover _ => cases has
  | @revoke candidate now reason wasOpen =>
    rw [revokedWith_refreshHash, if_pos rfl]
    cases operation with
    | revoke carried =>
      cases arguments
      cases has
      exact .user stage
    | get | rotate _ | recover _ => cases has
  | advance wasOpen => cases operation <;> cases has

variable (config)

theorem rowChange_of_fits :
    RowChange config scheme first shared refresh (worldAfter config shared refresh).row
      (shared.stepped config refresh).rotations := by
  cases stage : refresh.stage with
  | calling operation call =>
    simp only [Shared.stepped, worldAfter, stage]
    exact rowChange_calling distinct good fits stage
  | cachedUser _ | currentUser _ _ =>
    simp only [Shared.stepped, worldAfter, stage, Shared.moved, if_true]
    exact .keep

theorem later_moved : Later shared (shared.stepped config refresh) := by
  rcases (rowChange_of_fits config distinct good fits).later with ⟨version, row, rotations⟩
  exact ⟨version, row, rotations⟩

theorem good_moved : Good scheme first (shared.stepped config refresh) := by
  have later := later_moved config distinct good fits
  have history := good.sound.history.change (rowChange_of_fits config distinct good fits)
  constructor
  case sound =>
    refine { good.sound with history, once := history.nodup distinct, answers := ?_ }
    intro answer given
    rcases good.sound.answers answer given with ⟨position, reached, same⟩
    exact ⟨position, lt_of_lt_of_le reached later.rotations, same⟩
  case version => rw [later.version]; exact good.version
  case held =>
    cases stage : refresh.stage with
    | calling operation call =>
      have callFits := fits.calling operation call stage
      simp only [Shared.stepped, worldAfter, stage, Shared.moved]
      exact version_le_resume callFits.has callFits.carries good.held
    | cachedUser _ | currentUser _ _ =>
      simp only [Shared.stepped, worldAfter, stage, Shared.moved]
      exact good.held

variable {config}

theorem rotated_moved (rotated : (refresh.stepped config shared).rotated = true) :
    ∃ position < (shared.stepped config refresh).rotations.length,
      refresh.secret = scheme.secretAt first position := by
  have later := later_moved config distinct good fits
  simp only [Refresh.stepped, Refresh.moved, Bool.or_eq_true, decide_eq_true_eq] at rotated
  rcases rotated with before | moves
  · rcases fits.rotated before with ⟨position, reached, same⟩
    exact ⟨position, lt_of_lt_of_le reached later.rotations, same⟩
  · have change := rowChange_of_fits config distinct good fits
    generalize (worldAfter config shared refresh).row = row at change moves
    generalize (shared.stepped config refresh).rotations = rotations at change
    cases change with
    | rotate wasAlive current => exact ⟨_, by simp, current⟩
    | keep | idle | user | reuse => exact absurd rfl moves

theorem replayed_next {after : World} (stage : refresh.stage = .calling operation call)
    (resumed : resume config shared.world call = (after, .next next)) :
    (refresh.replayed || replaysAt config shared.world.row refresh.stage) = inReuse next := by
  have callFits := fits.calling operation call stage
  rw [callFits.replayed, stage]
  by_cases read : ∃ rotation deadline attempts, call = .rotateRead rotation deadline attempts
  · rcases read with ⟨rotation, deadline, attempts, rfl⟩
    rcases callFits.rotateRead with ⟨own, given⟩
    rw [inReuse_rotateRead given (current_ne_of_previous distinct good own given) resumed]
    rfl
  · have unread : ∀ rotation deadline attempts, call ≠ .rotateRead rotation deadline attempts :=
      fun rotation deadline attempts same => read ⟨rotation, deadline, attempts, same⟩
    rw [inReuse_next resumed unread]
    cases call with
    | rotateRead rotation deadline attempts => exact absurd rfl (unread _ _ _)
    | _ => simp [replaysAt]

theorem replayed_done {after : World} (stage : refresh.stage = .calling operation call)
    (resumed : resume config shared.world call = (after, .done answer))
    (replayed : (refresh.replayed || replaysAt config shared.world.row refresh.stage) = true) :
    alive after.row = false ∧ ∃ error, answer = .failed error := by
  have callFits := fits.calling operation call stage
  rw [callFits.replayed, stage, Bool.or_eq_true] at replayed
  rcases replayed with turned | replays
  · exact revoked_of_inReuse turned callFits.reuse callFits.carries (le_of_lt good.version)
      good.held resumed
  · cases call with
    | rotateRead rotation deadline attempts =>
      rcases callFits.rotateRead with ⟨own, given⟩
      have notCurrent := current_ne_of_previous distinct good own given (replays_previous replays)
      rw [resume, resumeRotateRead_of_replays given notCurrent replays] at resumed
      cases resumed
    | _ => cases replays

theorem seen_moved (replayed : (refresh.stepped config shared).replayed = true) :
    ∃ position, (refresh.stepped config shared).seen = position + 1 ∧
      refresh.secret = scheme.secretAt first position := by
  simp only [Refresh.stepped, Refresh.moved, Bool.or_eq_true] at replayed ⊢
  cases reads : readsRow refresh.stage with
  | false =>
    rcases replayed with before | now
    · exact fits.seen before
    · -- A replay is seen only where the row is read.
      revert reads now
      fun_cases readsRow refresh.stage <;> simp_all [replaysAt]
  | true =>
    cases stage : refresh.stage with
    | calling operation call =>
      have callFits := fits.calling operation call stage
      rw [stage] at reads replayed
      cases call with
      | rotateRead rotation deadline attempts =>
        rcases callFits.rotateRead with ⟨rfl, given⟩
        rcases replayed with before | now
        · rw [callFits.replayed] at before
          cases before
        · exact good.sound.history.of_previous distinct (replays_previous now) given
      | _ => cases reads
    | cachedUser _ | currentUser _ _ => rw [stage] at reads; cases reads

theorem callFits_next (calls : Calls config shared refresh operation call (.next next)) :
    CallFits scheme (shared.stepped config refresh) (refresh.stepped config shared)
      operation next := by
  rcases calls with ⟨stage, resumed⟩
  have callFits := fits.calling operation call stage
  constructor
  case has => exact Operation.has_next callFits.has resumed
  case carries => exact carries_next callFits.carries resumed
  case reuse => exact reuseFits_next callFits.reuse resumed
  case replayed => exact replayed_next distinct good fits stage resumed
  case rotated =>
    rintro rotation rfl settled
    simp only [Refresh.stepped, Refresh.moved, Bool.or_eq_true, decide_eq_true_eq]
    rcases settles_next callFits.has resumed settled with before | ⟨matched, swapped⟩
    · exact .inl (callFits.rotated rotation rfl before)
    · rcases callFits.arguments with ⟨rfl, -⟩
      right
      rw [swapped]
      exact refreshHash_moves distinct good matched
  case arguments => cases operation <;> exact callFits.arguments

theorem replayed_returning (calls : Calls config shared refresh operation call (.done answer))
    (succeeded : ∀ error, answer ≠ .failed error) :
    (refresh.stepped config shared).replayed = false := by
  cases replayed : (refresh.stepped config shared).replayed with
  | false => rfl
  | true =>
    rcases replayed_done distinct good fits calls.1 calls.2 replayed with ⟨-, error, failed⟩
    exact absurd failed (succeeded error)

omit distinct good

theorem replayed_checking (config : SessionConfig)
    (checking : ∀ operation call, refresh.stage ≠ .calling operation call) :
    (refresh.stepped config shared).replayed = false := by
  have before := fits.checking checking
  cases stage : refresh.stage with
  | calling operation call => exact absurd stage (checking operation call)
  | cachedUser _ | currentUser _ _ => simp [Refresh.moved, before, replaysAt, stage]

omit fits

theorem callFits_start {moved : Refresh Secret} (has : operation.Has call)
    (carries : Carries after.world.row.version call) (reuse : ReuseFits after.world.row call)
    (turned : inReuse call = false) (settled : settles call = false)
    (replayed : moved.replayed = false) (arguments : ArgumentsFit scheme moved operation) :
    CallFits scheme after moved operation call := by
  refine { has, carries, reuse, arguments, replayed := by rw [replayed, turned], rotated := ?_ }
  rintro - - unsettled
  rw [settled] at unsettled
  cases unsettled

include distinct good fits

theorem fits_goOn_of_next (goes : nextAfter config scheme shared refresh = .goOn stage) :
    Fits scheme first (shared.stepped config refresh)
      { refresh.stepped config shared with stage } := by
  have way := goes_nextAfter config scheme shared refresh
  rw [goes] at way
  have calling : ∀ operation call, stage = .calling operation call →
      CallFits scheme (shared.stepped config refresh) (refresh.stepped config shared)
        operation call := by
    rintro operation call rfl
    cases way with
    | next calls => exact callFits_next distinct good fits calls
    | rotate before given =>
      exact callFits_start rfl trivial trivial rfl rfl
        (replayed_checking fits config (by simp [before])) ⟨rfl, given⟩
    | revoke before =>
      exact callFits_start rfl trivial trivial rfl rfl
        (replayed_checking fits config (by simp [before])) rfl
    | recover calls =>
      exact callFits_start rfl trivial trivial rfl rfl
        (replayed_returning distinct good fits calls (by simp)) ⟨rfl, rfl⟩
  constructor
  case calling => exact fun operation call same => { calling operation call same with }
  case seen => exact seen_moved distinct good fits
  case rotated => exact rotated_moved distinct good fits
  case checking =>
    intro checking
    cases way with
    | found calls => exact replayed_returning distinct good fits calls (by simp)
    | cached before => exact replayed_checking fits config (by simp [before])
    | next | rotate | revoke | recover => exact absurd rfl (checking _ _)

/-! ### A call returns -/

theorem revoked_of_replayed
    (returns : ∀ stage, nextAfter config scheme shared refresh ≠ .goOn stage)
    (replayed : (refresh.stepped config shared).replayed = true) :
    alive (worldAfter config shared refresh).row = false := by
  cases stage : refresh.stage with
  | calling operation call =>
    cases resumed : (resume config shared.world call).2 with
    | next next =>
      have goes : nextAfter config scheme shared refresh = .goOn (.calling operation next) := by
        simp [nextAfter, stage, resumed]
      exact absurd goes (returns _)
    | done answer =>
      have calls : Calls config shared refresh operation call (.done answer) :=
        .of_snd stage resumed
      exact (replayed_done distinct good fits stage calls.resumed replayed).1
  | cachedUser _ | currentUser _ _ =>
    rw [replayed_checking fits config (by simp [stage])] at replayed
    cases replayed

/-- A call answers only when it has rotated the row, or when it finds its secret to be the one
before the current one on a row that is not revoked. -/
theorem of_answer (answers : nextAfter config scheme shared refresh = .answer) :
    (refresh.rotated = true ∨ alive (worldAfter config shared refresh).row = true) ∧
      ∃ position < shared.rotations.length, refresh.secret = scheme.secretAt first position := by
  have way := goes_nextAfter config scheme shared refresh
  rw [answers] at way
  cases way with
  | @rotated rotation call session calls =>
    rcases calls with ⟨stage, resumed⟩
    have callFits := fits.calling _ call stage
    have rotated := callFits.rotated rotation rfl (settles_of_session callFits.has resumed)
    exact ⟨.inl rotated, fits.rotated rotated⟩
  | @recovered request call session calls =>
    rcases calls with ⟨stage, resumed⟩
    have callFits := fits.calling _ call stage
    rcases recovered_of_session callFits.has resumed with ⟨recovered, same⟩
    rcases recoverTransaction_recovered recovered with ⟨isOpen, filled, previous, -⟩
    rw [callFits.arguments.1] at previous
    rw [previous] at filled
    rcases good.sound.history.of_previous distinct previous filled with ⟨position, length, own⟩
    exact ⟨.inr (same ▸ alive_of_openAt isOpen), position, by omega, own⟩

omit distinct good fits

theorem Later.trans (early : Later before middle) (late : Later middle after) :
    Later before after where
  version := late.version.trans early.version
  row :=
    { version := le_trans early.row.version late.row.version
      expiresAt := late.row.expiresAt.trans early.row.expiresAt
      revoked := fun dead => late.row.revoked (early.row.revoked dead) }
  rotations := le_trans early.rotations late.rotations

include distinct good fits

theorem good_returned {answer : Option Secret}
    (returns : ∀ stage, nextAfter config scheme shared refresh ≠ .goOn stage)
    (given : ∀ secret ∈ answer, secret = scheme.derive refresh.secret ∧
      nextAfter config scheme shared refresh = .answer) :
    Good scheme first
      ((shared.stepped config refresh).returned (refresh.stepped config shared) answer) := by
  have kept := good_moved config distinct good fits
  have later := later_moved config distinct good fits
  have revoked := revoked_of_replayed distinct good fits returns
  refine { kept with sound :=
    { kept.sound with answers := ?answers, inTime := ?inTime, punished := ?punished } }
  case answers =>
    intro pair member
    simp only [Shared.returned, mem_append, Option.mem_toList,
      Option.map_eq_some_iff] at member
    rcases member with before | ⟨secret, answered, rfl⟩
    · exact kept.sound.answers pair before
    · rcases given secret answered with ⟨rfl, answers⟩
      rcases (of_answer distinct good fits answers).2 with ⟨position, reached, same⟩
      refine ⟨position, lt_of_lt_of_le reached later.rotations, ?_⟩
      rw [Scheme.secretAt, ← same]
      rfl
  case inTime =>
    have before := kept.sound.inTime
    cases answer with
    | none => simpa [Shared.returned] using before
    | some secret =>
      rcases given secret rfl with ⟨-, answers⟩
      rcases (of_answer distinct good fits answers).1 with rotated | living
      · simp [Shared.returned, before, Refresh.moved, rotated]
      · simp [Shared.returned, Shared.moved, living, good.sound.inTime]
  case punished =>
    have before := kept.sound.punished
    simp only [Shared.returned, before, Bool.false_or]
    cases replayed : (refresh.stepped config shared).replayed with
    | false => rfl
    | true => simpa [Shared.moved] using revoked replayed

theorem fits_resume (config : SessionConfig) :
    Later shared (resumeRefresh config scheme shared refresh).1 ∧
      Good scheme first (resumeRefresh config scheme shared refresh).1 ∧
      ∀ next, (resumeRefresh config scheme shared refresh).2 = some next →
        Fits scheme first (resumeRefresh config scheme shared refresh).1 next := by
  have later := later_moved config distinct good fits
  cases goes : nextAfter config scheme shared refresh with
  | goOn stage =>
    simp only [resumeRefresh, goes]
    refine ⟨later, good_moved config distinct good fits, ?_⟩
    intro next same
    cases same
    exact fits_goOn_of_next distinct good fits goes
  | fail | answer =>
    simp only [resumeRefresh, goes]
    refine ⟨later.trans ⟨rfl, RowGrows.refl _, le_refl _⟩, ?_, by rintro - ⟨⟩⟩
    exact good_returned distinct good fits (by simp [goes]) (by simp [goes])

omit distinct fits

theorem environment_fits (next : Move Secret) :
    Later shared (move shared next).1 ∧ Good scheme first (move shared next).1 ∧
      ∀ refresh ∈ (move shared next).2, Fits scheme first (move shared next).1 refresh := by
  cases next with
  | tick _ | users _ _ =>
    refine ⟨⟨rfl, RowGrows.refl _, le_refl _⟩, ?_, by rintro refresh ⟨⟩⟩
    exact { good with sound := { good.sound with } }
  | start secret now =>
    refine ⟨⟨rfl, RowGrows.refl _, le_refl _⟩, good, ?_⟩
    intro refresh started
    simp only [move] at started
    split at started
    · rw [mem_singleton] at started
      subst started
      constructor
      case calling =>
        intro operation call same
        cases same
        exact callFits_start trivial trivial trivial rfl rfl rfl trivial
      case checking => exact fun _ => rfl
      case seen => rintro ⟨⟩
      case rotated => rintro ⟨⟩
    · cases started

omit good

theorem preserved (config : SessionConfig) (distinct : Distinct scheme first) :
    Preserved (program config scheme) (fun _ _ => True) (Good scheme first)
      (Fits scheme first) := by
  constructor
  case resume_good => exact fun _ good fits => (fits_resume distinct good fits config).2.1
  case resume_self => exact fun _ good fits => (fits_resume distinct good fits config).2.2 _
  case resume_other => exact fun _ good fits => (fits_resume distinct good fits config).1.fits
  case environment_good => exact fun _ good => (environment_fits good _).2.1
  case environment_new => exact fun _ good => (environment_fits good _).2.2 _
  case environment_other => exact fun _ good => (environment_fits good _).1.fits

theorem good_begin {world : World} (created : Created scheme first world) :
    Good scheme first { world } := by
  constructor
  case sound =>
      constructor
      case history => exact ⟨rfl, created.current, created.previous⟩
      case once => exact nodup_nil
      case answers => rintro answer ⟨⟩
      case inTime => rfl
      case punished => rfl
  case version => exact created.version
  case held => exact created.cached

theorem stepsLeft_calling (less : remaining next < remaining call) :
    stepsLeft (.calling operation next) < stepsLeft (.calling operation call) := by
  cases operation <;> simp only [stepsLeft] <;> omega

theorem stepsLeft_next (goes : nextAfter config scheme shared refresh = .goOn stage) :
    stepsLeft stage < stepsLeft refresh.stage := by
  have way := goes_nextAfter config scheme shared refresh
  rw [goes] at way
  cases way with
  | next calls => rw [calls.stage]; exact stepsLeft_calling (remaining_next calls.resumed)
  | found calls | recover calls =>
    rw [calls.stage]
    simp only [stepsLeft, remaining]
    omega
  | cached before | rotate before | revoke before =>
    rw [before]
    simp only [stepsLeft, remaining]
    omega

theorem stepsLeft_resume {next : Refresh Secret}
    (resumed : (resumeRefresh config scheme shared refresh).2 = some next) :
    stepsLeft next.stage < stepsLeft refresh.stage := by
  cases goes : nextAfter config scheme shared refresh with
  | goOn stage =>
    simp only [resumeRefresh, goes] at resumed
    cases resumed
    exact stepsLeft_next goes
  | fail | answer => simp [resumeRefresh, goes] at resumed

end Steps

/-- In every state of every interleaving: the current digest is that of the secret reached by the
rotations, each made once and by a call with the secret that was current; every successful answer
is the successor of its secret; a call that replayed the previous secret past its grace window
returned with the session revoked; and no call succeeded on a revoked session without having
rotated it before. The next step of a running call changes the row only as `RowChange` says, and
every call returns after a bounded number of its own steps. -/
theorem refresh_chain_safe [DecidableEq Secret] (config : SessionConfig) (scheme : Scheme Secret)
    (first : Secret) (world : World) (distinct : Distinct scheme first)
    (created : Created scheme first world) (events : List (Event (Refresh Secret) (Move Secret))) :
    Sound scheme first (reached config scheme world events).shared ∧
      ∀ refresh ∈ (reached config scheme world events).running,
        StepSafe config scheme first (reached config scheme world events).shared refresh := by
  have steps : AllSteps (step (program config scheme)) (fun _ _ => True) (begin world) events :=
    AllSteps.of_forall fun _ _ => trivial
  have initial : Holds (Good scheme first) (Fits scheme first) (begin world) :=
    ⟨good_begin created, by rintro refresh ⟨⟩⟩
  rcases (preserved config distinct).holds_run _ events steps initial with ⟨good, fits⟩
  refine ⟨good.sound, fun refresh member => ?_⟩
  constructor
  case change =>
    have change := rowChange_of_fits config distinct good (fits refresh member)
    cases goes : nextAfter config scheme (reached config scheme world events).shared refresh <;>
      (simp only [resumeRefresh, goes]; exact change)
  case ends => exact fun next => stepsLeft_resume

/-- Secrets that count up, with digests of growing length. -/
def tally : Scheme Nat where
  derive := (· + 1)
  digest secret := String.ofList (replicate (secret + 1) 'd')

theorem tally_secretAt (position : Nat) : tally.secretAt 0 position = position := by
  induction position with
  | zero => rfl
  | succ position ih => rw [Scheme.secretAt, ih]; rfl

theorem tally_digest (same : tally.digest left = tally.digest right) : left = right := by
  have lists := congrArg String.length same
  simpa [tally] using lists

theorem tally_distinct : Distinct tally 0 where
  distinct left right same := by
    have equal := tally_digest same
    simpa only [tally_secretAt] using equal
  unguessed secret position same := tally_digest same

def sampleWorld : World where
  clock := 100000000
  row := { refreshHash := "d", lastActiveAt := 100000, expiresAt := 900000 }

def refreshed (secret : Nat) (now : Int) : List (Nat ⊕ Move Nat) :=
  .inr (.start secret now) :: replicate 15 (.inl 0)

/-- A session is refreshed, refreshed again with the same secret within the grace window and once
more after it. -/
def replaySchedule : List (Event (Refresh Nat) (Move Nat)) :=
  schedule (program {} tally) (begin sampleWorld)
    (.inr (.users (.found true 1) (.found true 1)) ::
      (refreshed 0 100001 ++ refreshed 0 100002 ++ refreshed 0 100040))

theorem refresh_chain_safe_replayed :
    ((reached {} tally sampleWorld replaySchedule).shared.answers = [(0, 1), (0, 1)] ∧
      (reached {} tally sampleWorld replaySchedule).shared.world.row.status = .revoked) ∧
      Sound tally 0 (reached {} tally sampleWorld replaySchedule).shared :=
  ⟨by decide +kernel,
    (refresh_chain_safe {} tally 0 sampleWorld tally_distinct
      ⟨by decide, rfl, by decide, by rintro stored ⟨⟩⟩ replaySchedule).1⟩

/-- A guess presented on a session that has been idle for a week. -/
def guessSchedule : List (Event (Refresh Nat) (Move Nat)) :=
  schedule (program {} tally) (begin sampleWorld) (refreshed 7 704800)

/-- The guess is neither the current secret nor the one before, and its call revokes the session. -/
theorem guess_revokes_idle_session :
    (reached {} tally sampleWorld guessSchedule).shared.rotations = [] ∧
      (reached {} tally sampleWorld guessSchedule).shared.world.row =
        revokedWith sampleWorld.row 704800 "idle_timeout" := by
  decide +kernel

end NewApi.RefreshChain
