import NewApi.TwoFactor

/-!
One-time codes are one-time. A password is accepted by a conditional update that raises
the factor's counter, and a backup code by a conditional update that marks it as used.
No other statement of a validation writes these two columns, whatever the age of the copy
it works on, so both are monotone and the conditions order the commits.
-/

namespace NewApi.OneTimeCodes

open TwoFactor Runs Interleaving Table
open List hiding after

def reached (config : Config) (start : State Store Request) (events : List (Event Request Move)) :
    Store :=
  (run (step (program config)) start events).shared

/-- No code matches two of the stored hashes. -/
def Unambiguous (config : Config) (codes : BackupCodes) : Prop :=
  ∀ code, ∀ row ∈ codes.rows, ∀ other ∈ codes.rows,
    config.validatePasswordAndHash code row.codeHash = true →
      config.validatePasswordAndHash code other.codeHash = true → row.id = other.id

structure Kept (store after : Store) : Prop where
  codes : after.codes = store.codes
  counters : after.counters = store.counters
  used : after.used = store.used
  counter : after.factor.counter = store.factor.counter

variable {store after : Store} {codes start : BackupCodes} {now counter : Int}
  {stored : TwoFABackupCode} {config : TwoFactor.Config}

theorem kept_refl : Kept store store := ⟨rfl, rfl, rfl, rfl⟩

/-- A statement of a validation keeps these columns, or accepts a password, or accepts a code. -/
inductive Accepts (store : Store) : Request → Store → Prop
  | kept {request : Request} {after : Store} (same : Kept store after) :
      Accepts store request after
  | password {copy : TwoFA} {counter now : Int} (higher : store.factor.counter < counter) :
      Accepts store (.claimCounter copy counter now) (store.claim counter now)
  | backup {copy : TwoFA} {code : String} {row stored : TwoFABackupCode} {now : Int}
      (found : store.codes.find? row.id = some stored) (unused : stored.isUsed = false) :
      Accepts store (.useCode copy code row now)
        { store with
          codes := store.codes.save (stored.spend now)
          used := store.used ++ [(row.id, code)] }

theorem resume_accepts (config : Config) (store : Store) (request : Request) :
    Accepts store request (resume config store request).1 := by
  fun_cases resume config store request
  case case7 claimed => exact .password claimed.2
  case case11 updated =>
    rcases updateWhere_eq_some updated with ⟨stored, found, passed, rfl⟩
    exact .backup found (by simpa using passed)
  case case6 | case10 =>
    apply Accepts.kept
    split <;> exact ⟨rfl, rfl, rfl, rfl⟩
  case case13 => exact .kept ⟨rfl, rfl, rfl, rfl⟩
  case case18 =>
    apply Accepts.kept
    unfold Store.countFailure
    split <;> exact ⟨rfl, rfl, rfl, rfl⟩
  all_goals exact .kept kept_refl

theorem environment_kept (move : Move) :
    Kept store (environment store move).1 := by
  cases move <;> exact ⟨rfl, rfl, rfl, rfl⟩

/-- What a validation reads of a backup code besides its use. -/
def labels (codes : BackupCodes) : List (Int × String) :=
  codes.rows.map fun code => (code.id, code.codeHash)

structure Later (store after : Store) : Prop where
  labels : labels after.codes = labels store.codes
  counter : store.factor.counter ≤ after.factor.counter

theorem labels_save {row : TwoFABackupCode} (found : codes.find? row.id = some stored) :
    labels (codes.save (stored.spend now)) = labels codes := by
  have own : codes.find? (stored.spend now).id = some stored :=
    mem_find? (find?_mem found).1
  exact map_rows_save _ own rfl

theorem Kept.later (kept : Kept store after) : Later store after :=
  ⟨by rw [kept.codes], le_of_eq kept.counter.symm⟩

theorem Accepts.later {request : Request} (accepts : Accepts store request after) :
    Later store after := by
  cases accepts with
  | kept same => exact same.later
  | password higher => exact ⟨rfl, le_of_lt higher⟩
  | @backup copy code row stored now found unused =>
    constructor
    case labels => exact labels_save found
    case counter => exact le_refl _

theorem later_step (config : Config) (state : State Store Request) (event : Event Request Move) :
    Later state.shared (step (program config) state event).shared := by
  cases event with
  | resume request =>
    by_cases member : request ∈ state.running
    · simp only [step, member, if_true]
      exact (resume_accepts config state.shared request).later
    · simp only [step, member, if_false]
      exact kept_refl.later
  | environment move => exact (environment_kept move).later

theorem later_run (config : Config) (state : State Store Request)
    (events : List (Event Request Move)) :
    Later state.shared (run (step (program config)) state events).shared := by
  apply run_climbs (fun first second : State Store Request => Later first.shared second.shared)
  · intro first
    exact kept_refl.later
  · intro first second third early late
    exact ⟨late.labels.trans early.labels, early.counter.trans late.counter⟩
  · exact later_step config

structure Good (config : Config) (store : Store) : Prop where
  increasing : store.counters.Pairwise (· < ·)
  below : ∀ counter ∈ store.counters, counter ≤ store.factor.counter
  once : (store.used.map Prod.fst).Nodup
  spent : ∀ entry ∈ store.used, ∃ row ∈ store.codes.rows, row.id = entry.1 ∧ row.isUsed = true ∧
    config.validatePasswordAndHash entry.2 row.codeHash = true

def Fits (config : Config) (store : Store) : Request → Prop
  | .compareCodes _ _ rows => ∀ row ∈ rows, (row.id, row.codeHash) ∈ labels store.codes
  | .useCode _ code row _ => (row.id, row.codeHash) ∈ labels store.codes ∧
      config.validatePasswordAndHash code row.codeHash = true
  | _ => True

variable {request : Request}

theorem Fits.later (fits : Fits config store request) (later : Later store after) :
    Fits config after request := by
  cases request with
  | compareCodes copy code rows | useCode copy code row now =>
    simp only [Fits, later.labels]
    exact fits
  | _ => trivial

section

variable (good : Good config store)

include good

theorem Good.kept (kept : Kept store after) : Good config after := by
  cases after
  cases kept.codes
  cases kept.counters
  cases kept.used
  refine { good with below := ?_ }
  rw [kept.counter]
  exact good.below

theorem Good.password (higher : store.factor.counter < counter) :
    Good config (store.claim counter now) := by
  refine { good with increasing := ?increasing, below := ?below }
  case increasing =>
    rw [Store.claim, pairwise_append]
    refine ⟨good.increasing, pairwise_singleton _ _, fun earlier member => ?_⟩
    rw [forall_mem_singleton]
    exact lt_of_le_of_lt (good.below earlier member) higher
  case below =>
    rw [Store.claim, forall_mem_append, forall_mem_singleton]
    refine ⟨fun other earlier => ?_, le_refl _⟩
    exact le_of_lt (lt_of_le_of_lt (good.below other earlier) higher)

theorem Good.backup {code : String} {row : TwoFABackupCode}
    (found : store.codes.find? row.id = some stored) (unused : stored.isUsed = false)
    (matched : config.validatePasswordAndHash code stored.codeHash = true) :
    Good config { store with
      codes := store.codes.save (stored.spend now)
      used := store.used ++ [(row.id, code)] } := by
  have own : store.codes.find? (stored.spend now).id = some stored :=
    mem_find? (find?_mem found).1
  have members := mem_save_iff own
  have owner : stored.id = row.id := (find?_mem found).2
  refine { good with once := ?once, spent := ?spent }
  case once =>
    -- A code that was accepted before is not unused.
    rw [map_append, nodup_append]
    refine ⟨good.once, nodup_singleton _, ?_⟩
    intro id earlier last only
    rw [map_singleton, mem_singleton] at only
    rw [only]
    rcases mem_map.mp earlier with ⟨entry, member, rfl⟩
    rintro same
    rcases good.spent entry member with ⟨other, present, here, taken, -⟩
    have one : other = stored := eq_of_key present (find?_mem found).1
      (here.trans (same.trans owner.symm))
    rw [one, unused] at taken
    cases taken
  case spent =>
    intro entry member
    rcases mem_append.mp member with earlier | only
    · rcases good.spent entry earlier with ⟨other, present, here, taken, fits⟩
      by_cases same : other.id = stored.id
      · have one : other = stored := eq_of_key present (find?_mem found).1 same
        subst one
        exact ⟨other.spend now, (members _).mpr (.inl rfl), here, rfl, fits⟩
      · exact ⟨other, (members _).mpr (.inr ⟨present, same⟩), here, taken, fits⟩
    · rw [mem_singleton] at only
      rw [only]
      exact ⟨stored.spend now, (members _).mpr (.inl rfl), owner, rfl, matched⟩

theorem resume_good (fits : Fits config store request) :
    Good config (resume config store request).1 := by
  have accepts := resume_accepts config store request
  generalize (resume config store request).1 = after at accepts
  cases accepts with
  | kept same => exact good.kept same
  | password higher => exact good.password higher
  | @backup copy code row stored now found unused =>
    rcases fits with ⟨listed, matched⟩
    rcases mem_map.mp listed with ⟨other, present, same⟩
    have one : other = stored := eq_of_key present (find?_mem found).1
      ((congrArg Prod.fst same).trans (find?_mem found).2.symm)
    have hash : stored.codeHash = row.codeHash := one ▸ congrArg Prod.snd same
    exact good.backup found unused (hash ▸ matched)

end

theorem next_fits {next : Request} (fits : Fits config store request)
    (goes : (resume config store request).2 = some next) : Fits config store next := by
  revert fits goes
  fun_cases resume config store request
  case case6 =>
    intro _ goes
    dsimp only at goes
    split at goes <;> cases goes <;> trivial
  case case9 =>
    rintro - ⟨⟩ row member
    exact mem_map_of_mem (f := fun code : TwoFABackupCode => (code.id, code.codeHash))
      (mem_of_mem_filter member)
  case case10 =>
    intro fits goes
    dsimp only at goes
    split at goes
    · rename_i row chosen
      cases goes
      have matched := find?_some chosen
      exact ⟨fits row (mem_of_find?_eq_some chosen), matched⟩
    · cases goes
      trivial
  all_goals rintro - ⟨⟩
  all_goals trivial

theorem preserved (config : Config) :
    Preserved (program config) (fun _ _ => True) (Good config) (Fits config) := by
  constructor
  case resume_good => exact fun _ => resume_good
  case resume_self =>
    intro store request next _ _ fits goes
    exact (next_fits fits goes).later (resume_accepts config store request).later
  case resume_other =>
    intro store request other _ _ _ fits
    exact fits.later (resume_accepts config store request).later
  case environment_good =>
    intro store move _ good
    exact good.kept (environment_kept move)
  case environment_new =>
    intro store move request _ _ started
    cases move with
    | tick duration => cases started
    | request kind code | validate kind copy code =>
      rw [mem_singleton.mp started]
      trivial
  case environment_other =>
    intro store move other _ _ fits
    exact fits.later (environment_kept move).later

theorem begin_good (clock : Int) (factor : TwoFA) :
    Holds (Good config) (Fits config) (begin clock factor codes) := by
  constructor
  · constructor
    case increasing => exact List.Pairwise.nil
    case below => exact fun _ member => nomatch member
    case once => exact nodup_nil
    case spent => exact fun _ member => nomatch member
  · exact fun _ member => nomatch member

theorem good_reached (config : Config) (clock : Int) (factor : TwoFA) (codes : BackupCodes)
    (events : List (Event Request Move)) :
    Good config (reached config (begin clock factor codes) events) := by
  have holds := (preserved config).holds_run (begin clock factor codes) events
    (AllSteps.of_forall fun _ _ => trivial) (begin_good clock factor)
  exact holds.1

theorem Good.origin {entry : Int × String} (good : Good config store)
    (same : labels store.codes = labels start) (member : entry ∈ store.used) :
    ∃ row ∈ start.rows, row.id = entry.1 ∧
      config.validatePasswordAndHash entry.2 row.codeHash = true := by
  rcases good.spent entry member with ⟨row, present, here, -, matched⟩
  have listed : (row.id, row.codeHash) ∈ labels store.codes :=
    mem_map_of_mem (f := fun code : TwoFABackupCode => (code.id, code.codeHash)) present
  rw [same] at listed
  rcases mem_map.mp listed with ⟨origin, first, alike⟩
  have identifier : origin.id = row.id := congrArg Prod.fst alike
  have hash : origin.codeHash = row.codeHash := congrArg Prod.snd alike
  exact ⟨origin, first, identifier.trans here, hash ▸ matched⟩

theorem Good.texts (good : Good config store) (same : labels store.codes = labels start)
    (unambiguous : Unambiguous config start) : (store.used.map Prod.snd).Nodup := by
  have once := good.once
  rw [List.Nodup, pairwise_map] at once ⊢
  apply once.imp_of_mem
  intro entry other first second different text
  rcases good.origin same first with ⟨row, rowAt, here, matched⟩
  rcases good.origin same second with ⟨origin, originAt, there, alike⟩
  rw [← text] at alike
  exact different
    (here.symm.trans ((unambiguous entry.2 row rowAt origin originAt matched alike).trans there))

/-- The counters of the accepted passwords increase, no backup code is accepted twice, and the
counter of the factor never decreases. -/
theorem one_time_codes_used_once (config : Config) (clock : Int) (factor : TwoFA)
    (codes : BackupCodes) (past rest : List (Event Request Move)) :
    (reached config (begin clock factor codes) past).counters.Pairwise (· < ·) ∧
      ((reached config (begin clock factor codes) past).used.map Prod.fst).Nodup ∧
      (Unambiguous config codes →
        ((reached config (begin clock factor codes) past).used.map Prod.snd).Nodup) ∧
      (reached config (begin clock factor codes) past).factor.counter ≤
        (reached config (begin clock factor codes) (past ++ rest)).factor.counter := by
  have good := good_reached config clock factor codes past
  have whole := later_run config (begin clock factor codes) past
  refine ⟨good.increasing, good.once, good.texts whole.labels, ?_⟩
  unfold reached
  rw [run_append]
  exact (later_run config _ rest).counter

def sampleConfig : Config where
  validateCustom := fun code _ counter => code == toString counter
  validatePasswordAndHash := fun code hash => code == hash
  toUpper := Char.toUpper

def sampleFactor : TwoFA := { id := 1, userId := 7, secret := "secret" }

def sampleCodes : BackupCodes := Table.ofRows
  [{ id := 1, userId := 7, codeHash := "ABCD-0001" },
    { id := 2, userId := 7, codeHash := "ABCD-0002" }]

def sampleStart : State Store Request := begin (3000000 * second) sampleFactor sampleCodes

theorem sampleCodes_unambiguous : Unambiguous sampleConfig sampleCodes := by
  intro code row rowAt other otherAt first second
  have distinct : ∀ row ∈ sampleCodes.rows, ∀ other ∈ sampleCodes.rows,
      row.codeHash = other.codeHash → row.id = other.id := by
    decide +kernel
  exact distinct row rowAt other otherAt
    ((eq_of_beq first).symm.trans (eq_of_beq second))

/-- One password and one backup code are sent twice at a time; then the next password comes. -/
def sampleEvents : List (Event Request Move) :=
  schedule (program sampleConfig) sampleStart
    [.inr (.validate .totp sampleFactor "100 000"), .inr (.validate .totp sampleFactor "100000"),
      .inl 0, .inl 1, .inl 1, .inl 1, .inl 1, .inl 1, .inl 0, .inl 0,
      .inr (.validate .backup sampleFactor "abcd0002"),
      .inr (.validate .backup sampleFactor "ABCD-0002"),
      .inl 0, .inl 0, .inl 0, .inl 1, .inl 1, .inl 1, .inl 0, .inl 1, .inl 0, .inl 0, .inl 0,
      .inr (.validate .totp sampleFactor "100001"), .inl 0, .inl 0, .inl 0]

theorem one_time_codes_used_once_repeated :
    (reached sampleConfig sampleStart sampleEvents).counters = [100000, 100001] ∧
      (reached sampleConfig sampleStart sampleEvents).used = [(2, "ABCD-0002")] ∧
      ((reached sampleConfig sampleStart sampleEvents).used.map Prod.snd).Nodup :=
  ⟨by decide +kernel, by decide +kernel,
    (one_time_codes_used_once sampleConfig (3000000 * second) sampleFactor sampleCodes sampleEvents
      []).2.2.1 sampleCodes_unambiguous⟩

end NewApi.OneTimeCodes
