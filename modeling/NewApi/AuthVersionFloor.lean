import NewApi.UserAuthCache

/-!
What a lookup of a user may return. Every lookup that returns a user has compared its
version with the floor, the higher one of the pending fence and of the committed versions.
The committed versions do not fall, so that a lookup that starts after a publication
returns no lower version; a lookup that saw a fence at each of its steps returns nothing
below it. The first fact needs every publication to raise the floor: a publication of a
setting that must not be cached only removes the hash.
-/

namespace NewApi.UserAuthCache

open Runs Interleaving Option

theorem committedVersion_raiseFloor (world : World) (incoming : Int) :
    (raiseFloor world incoming).committedVersion = max world.committedVersion incoming := by
  have after : (raiseFloor world incoming).committed =
      if world.committedVersion < incoming then some incoming else world.committed := rfl
  rw [World.committedVersion, after]
  by_cases below : world.committedVersion < incoming
  · rw [if_pos below, getD_some, max_eq_right (le_of_lt below)]
  · rw [if_neg below, max_eq_left (not_lt.mp below)]
    rfl

variable {config : CacheConfig} {version : Int} {call next : Call} {running : Running}
  {shared : Shared}

section Steps

variable {createIfMissing : Bool} {after world : World} {user : UserBase} {bound : Int}

theorem written_raises
    (written : writeUserCache config world user createIfMissing = .written after) :
    after.committedVersion = max world.committedVersion user.authVersion := by
  revert written
  fun_cases writeUserCache config world user createIfMissing
  all_goals rintro ⟨⟩
  all_goals exact committedVersion_raiseFloor world user.authVersion

theorem dropped_written
    (dropped : writeUserCache config world user createIfMissing = .dropped after) :
    after = { world with hash := none } ∧
      userSettingCacheValue config.codec user.setting = some none := by
  revert dropped
  fun_cases writeUserCache config world user createIfMissing
  all_goals rintro ⟨⟩
  exact ⟨rfl, ‹_›⟩

theorem field_raises {field : Field}
    (written : updateUserCacheFieldAtVersion world field version = some after) :
    after.committedVersion = max world.committedVersion version := by
  revert written
  fun_cases updateUserCacheFieldAtVersion world field version
  all_goals rintro ⟨⟩
  all_goals exact committedVersion_raiseFloor world version

theorem committedVersion_resume (config : CacheConfig) (world : World) (call : Call) :
    world.committedVersion ≤ (resume config world call).1.committedVersion := by
  fun_cases resume config world call
  case case15 dropped | case28 dropped =>
    rw [(dropped_written dropped).1]
    exact le_refl _
  case case17 written | case30 written =>
    rw [written_raises written]
    exact le_max_left _ _
  case case20 =>
    simp only [setUserAuthVersionFence]
    split <;> exact le_refl _
  case case24 =>
    rw [committedVersion_raiseFloor]
    exact le_max_left _ _
  case case34 written | case35 written _ | case43 written =>
    rw [field_raises written]
    exact le_max_left _ _
  all_goals exact le_refl _

/-- A call that has compared its user with the floor has found it not to be below `bound`. -/
def Checked (bound : Int) : Call → Prop
  | .readQuota user | .populate user => bound ≤ user.authVersion
  | _ => True

theorem Checked.mono {lower : Int} (checked : Checked bound call) (below : lower ≤ bound) :
    Checked lower call := by
  cases call with
  | readQuota user | populate user => exact le_trans below checked
  | _ => trivial

theorem checked_next (inFloor : bound ≤ getUserAuthVersionFloor world)
    (resumed : (resume config world call).2 = .next next) : Checked bound next := by
  revert resumed
  fun_cases resume config world call
  all_goals rintro ⟨⟩
  case case6 current _ _ | case13 current => exact le_trans inFloor (not_lt.mp current)
  case case22 change _ _ _ _ =>
    cases publication : change.publication <;> simp only [publish, publication, Checked]
  all_goals trivial

theorem le_of_user (inFloor : bound ≤ getUserAuthVersionFloor world) (checked : Checked bound call)
    (resumed : (resume config world call).2 = .done (.user user)) : bound ≤ user.authVersion := by
  revert checked resumed
  fun_cases resume config world call
  all_goals rintro checked ⟨⟩
  case case7 current _ _ _ => exact le_trans inFloor (not_lt.mp current)
  all_goals exact checked

theorem le_of_published (cacheable : ∀ user, call = .update user →
      userSettingCacheValue config.codec user.setting ≠ some none)
    (resumed : (resume config world call).2 = .done (.published version)) :
    version ≤ (resume config world call).1.committedVersion := by
  revert cacheable resumed
  fun_cases resume config world call
  all_goals rintro cacheable ⟨⟩
  case case24 =>
    rw [committedVersion_raiseFloor]
    exact le_max_right _ _
  case case28 dropped => exact absurd (dropped_written dropped).2 (cacheable _ rfl)
  case case30 written =>
    rw [written_raises written]
    exact le_max_right _ _

end Steps

theorem fenced_resume (onTime : shared.unfenced = false)
    (checked : Checked running.leastFence running.call) :
    (resumeRunning config shared running).1.unfenced = false ∧
      ∀ next, (resumeRunning config shared running).2 = some next →
        Checked next.leastFence next.call := by
  have seen : min running.leastFence shared.world.pendingVersion ≤
      getUserAuthVersionFloor shared.world := by
    simp only [getUserAuthVersionFloor]
    omega
  cases resumed : (resume config shared.world running.call).2 with
  | next call =>
    simp only [resumeRunning, resumed]
    refine ⟨onTime, ?_⟩
    rintro - ⟨⟩
    exact checked_next seen resumed
  | done outcome =>
    simp only [resumeRunning, resumed]
    refine ⟨?_, by rintro - ⟨⟩⟩
    cases outcome with
    | user user =>
      have reached := le_of_user seen (checked.mono (min_le_left _ _)) resumed
      simp only [Shared.returned, onTime, Bool.false_or, decide_eq_false_iff_not, not_lt]
      exact reached
    | published version | finished | failed => exact onTime

theorem checked_start {request : Request} (bound : Int) (first : request.call config = some call) :
    Checked bound call := by
  cases request with
  | updateSetting plaintext =>
    simp only [Request.call] at first
    split at first <;> cases first <;> trivial
  | get _ | bump _ | refreshGroup | updateField _ => cases first; trivial

theorem fenced_preserved :
    Preserved (program config) (fun _ _ => True) (fun shared => shared.unfenced = false)
      (fun _ running => Checked running.leastFence running.call) := by
  constructor
  case resume_good => exact fun _ onTime checked => (fenced_resume onTime checked).1
  case resume_self => exact fun _ onTime checked => (fenced_resume onTime checked).2 _
  case resume_other => exact fun _ _ _ checked => checked
  case environment_good =>
      intro shared next _ onTime
      cases next <;> exact onTime
  case environment_new =>
      intro shared next running _ _ started
      cases next with
      | tick duration => cases started
      | start request =>
        simp only [program, move, mem_toList, map_eq_some_iff] at started
        rcases started with ⟨call, first, rfl⟩
        exact checked_start _ first
  case environment_other => exact fun _ _ checked => checked

structure Good (shared : Shared) : Prop where
  committed : ∀ version ∈ shared.published, version ≤ shared.world.committedVersion
  current : shared.revived = false

/-- What had been published when the call started is in the floor, and the call has found its user
not to be below it. -/
structure Fits (shared : Shared) (running : Running) : Prop where
  committed : ∀ version ∈ running.floor, version ≤ shared.world.committedVersion
  checked : ∀ version ∈ running.floor, Checked version running.call

theorem Fits.inFloor (fits : Fits shared running) (started : version ∈ running.floor) :
    version ≤ getUserAuthVersionFloor shared.world := by
  have := fits.committed version started
  simp only [getUserAuthVersionFloor]
  omega

theorem good_resume (good : Good shared) (allowed : Allowed config (.resume running))
    (fits : Fits shared running) : Good (resumeRunning config shared running).1 := by
  have raised := committedVersion_resume config shared.world running.call
  have kept : ∀ version ∈ shared.published,
      version ≤ (resume config shared.world running.call).1.committedVersion :=
    fun version published => le_trans (good.committed version published) raised
  cases resumed : (resume config shared.world running.call).2 with
  | next call =>
    simp only [resumeRunning, resumed]
    exact ⟨kept, good.current⟩
  | done outcome =>
    simp only [resumeRunning, resumed]
    cases outcome with
    | user user =>
      refine ⟨kept, ?_⟩
      have notBelow :
          (running.floor.any fun version => user.authVersion < version) = false := by
        cases started : running.floor with
        | none => rfl
        | some version =>
          simpa using le_of_user (fits.inFloor started) (fits.checked version started) resumed
      simp only [Shared.returned, good.current, notBelow, Bool.or_false]
    | published version =>
      have cacheable : ∀ user, running.call = .update user →
          userSettingCacheValue config.codec user.setting ≠ some none := by
        intro user called
        rcases running with ⟨call, floor, leastFence⟩
        subst called
        exact allowed
      have reached := le_of_published cacheable resumed
      refine ⟨?_, good.current⟩
      rintro - ⟨⟩
      cases published : shared.published with
      | none => simpa [Shared.returned] using reached
      | some earlier => exact max_le reached (kept earlier published)
    | finished | failed => exact ⟨kept, good.current⟩

theorem committedVersion_resumeRunning (config : CacheConfig) (shared : Shared)
    (running : Running) :
    shared.world.committedVersion ≤
      (resumeRunning config shared running).1.world.committedVersion := by
  have raised := committedVersion_resume config shared.world running.call
  cases resumed : (resume config shared.world running.call).2 with
  | next call => simpa only [resumeRunning, resumed] using raised
  | done outcome =>
    cases outcome <;> simpa only [resumeRunning, resumed, Shared.returned] using raised

theorem fits_next {next : Running} (fits : Fits shared running)
    (resumed : (resumeRunning config shared running).2 = some next) :
    Fits (resumeRunning config shared running).1 next := by
  have raised := committedVersion_resumeRunning config shared running
  cases progress : (resume config shared.world running.call).2 with
  | next call =>
    simp only [resumeRunning, progress] at resumed raised ⊢
    cases resumed
    exact ⟨fun version started => le_trans (fits.committed version started) raised,
      fun version started => checked_next (fits.inFloor started) progress⟩
  | done outcome => simp [resumeRunning, progress] at resumed

theorem preserved (config : CacheConfig) :
    Preserved (program config) (fun _ => Allowed config) Good Fits := by
  constructor
  case resume_good => exact fun allowed good fits => good_resume good allowed fits
  case resume_self => exact fun _ _ fits resumed => fits_next fits resumed
  case resume_other =>
      intro shared running bystander _ _ _ fits
      exact ⟨fun version started => le_trans (fits.committed version started)
        (committedVersion_resumeRunning config shared running), fits.checked⟩
  case environment_good =>
      intro shared next _ good
      cases next <;> exact ⟨good.committed, good.current⟩
  case environment_new =>
      intro shared next running _ good started
      cases next with
      | tick duration => cases started
      | start request =>
        simp only [program, move, mem_toList, map_eq_some_iff] at started
        rcases started with ⟨call, first, rfl⟩
        exact ⟨good.committed, fun version _ => checked_start version first⟩
  case environment_other =>
      intro shared next bystander _ _ fits
      cases next <;> exact ⟨fits.committed, fits.checked⟩

/-- In every interleaving no lookup returns less than a fence that stood at all of its steps; and
where every publication by `updateUserCache` is of a setting that may be cached, no lookup
returns less than what was published when it started. -/
theorem lookup_not_revived (config : CacheConfig) (clock : Int) (row : UserRow)
    (events : List (Event Running Move)) :
    (run (step (program config)) (begin clock row) events).shared.unfenced = false ∧
      (AllSteps (step (program config)) (fun _ => Allowed config) (begin clock row) events →
        ∀ past rest, events = past ++ rest →
          (run (step (program config)) (begin clock row) past).shared.revived = false) := by
  constructor
  · have steps : AllSteps (step (program config)) (fun _ _ => True) (begin clock row) events :=
      AllSteps.of_forall fun _ _ => trivial
    have initial : Holds (fun shared : Shared => shared.unfenced = false)
        (fun _ running => Checked running.leastFence running.call) (begin clock row) :=
      ⟨rfl, by rintro running ⟨⟩⟩
    exact (fenced_preserved.holds_run _ events steps initial).1
  · rintro steps past rest rfl
    have initial : Holds Good Fits (begin clock row) :=
      ⟨⟨by rintro version ⟨⟩, rfl⟩, by rintro running ⟨⟩⟩
    exact ((preserved config).holds_run _ past steps.of_append initial).1.current

def sampleConfig : CacheConfig where
  codec :=
    { inspect := fun text => some (text ≠ "")
      encryptionConfigured := false
      encryptionEnabled := false
      isEnvelope := fun _ => false
      sealValue := fun _ => none
      openValue := fun _ => none }

/-- A lookup misses and reads version 1. Before it fills the cache a change disables the user and is
published; its fence expires, the lookup goes on, and another lookup starts. -/
def delayedFill (setting : String) : List (Event Running Move) :=
  schedule (program sampleConfig) (begin 0 { user := {} })
    [.inr (.start (.get true)), .inl 0, .inl 0, .inl 0,
      .inr (.start (.bump { user := { status := 2, setting }, publication := .own })),
      .inl 0, .inl 0, .inl 0, .inl 0,
      .inr (.tick 120), .inl 0,
      .inr (.start (.get true)), .inl 0, .inl 0, .inl 0, .inl 0]

theorem lookup_not_revived_delayed_fill :
    (run (step (program sampleConfig)) (begin 0 { user := {} }) (delayedFill "")).shared.published
        = some 2 ∧
      ∀ past rest, delayedFill "" = past ++ rest →
        (run (step (program sampleConfig)) (begin 0 { user := {} }) past).shared.revived = false :=
  ⟨by decide +kernel,
    (lookup_not_revived sampleConfig 0 { user := {} } (delayedFill "")).2 (by decide +kernel)⟩

/-- With a secret in the new setting the publication reports success without raising the floor: the
late fill puts version 1 back and the later lookup returns it. -/
theorem uncacheable_publication_revived :
    let shared := (run (step (program sampleConfig)) (begin 0 { user := {} })
      (delayedFill "hook")).shared
    shared.world.row.user.authVersion = 2 ∧ shared.published = some 2 ∧
      shared.revived = true := by
  decide +kernel

end NewApi.UserAuthCache
