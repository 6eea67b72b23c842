import NewApi.TwoFactor

/-!
How often a second factor can be guessed. The lock is tested on the copy that a request
loaded, the code is compared after that, and the failure is counted last, so requests that
overlap all compare their codes before any of them is counted. When a request starts only
after the others have returned, five wrong codes lock the factor and one more does so
after each lock.
-/

namespace NewApi.FactorLockout

open TwoFactor Runs Interleaving

/-- No code is compared under a lock, at most five are compared before the first lock, and one
after each. A factor that starts with five failures had its first lock before. -/
def Bounded (factor : TwoFA) (store : Store) : Prop :=
  store.underLock = 0 ∧ store.compared ≤ maxFailAttempts ∧
    (store.locks ≠ 0 ∨ maxFailAttempts ≤ factor.failedAttempts → store.compared ≤ 1)

instance (factor : TwoFA) (store : Store) : Decidable (Bounded factor store) :=
  inferInstanceAs (Decidable (_ ∧ _ ∧ (_ → _)))

/-- Every request loads the row first, and the code it sends is wrong when it is compared. -/
def WrongCode (config : Config) (state : State Store Request) : Event Request Move → Prop
  | .resume (.matchTOTP copy code) =>
    matchTOTPCounter config copy.secret code state.shared.clock = none
  | .resume (.compareCodes _ code rows) =>
    ∀ row ∈ rows, config.validatePasswordAndHash code row.codeHash = false
  | .environment (.validate ..) => False
  | _ => True

instance (config : Config) (state : State Store Request) (event : Event Request Move) :
    Decidable (WrongCode config state event) := by
  unfold WrongCode
  split <;> infer_instance

/-- A request starts when no other one is in progress. -/
def Alone (state : State Store Request) : Event Request Move → Prop
  | .environment (.request ..) => state.running = []
  | _ => True

instance (state : State Store Request) (event : Event Request Move) :
    Decidable (Alone state event) := by
  unfold Alone
  split <;> infer_instance

variable (store : Store)

def Counted : Prop :=
  store.compared = 0 ∨
    (store.compared ≤ store.factor.failedAttempts ∧ store.factor.failedAttempts < maxFailAttempts)

def Counting : Prop :=
  store.compared ≤ 1 ∨
    (store.compared ≤ store.factor.failedAttempts + 1 ∧
      store.factor.failedAttempts < maxFailAttempts)

def Unlocked : Prop := store.factor.isLocked store.clock = false

def Serial : Request → Prop
  | .load .. => Counted store
  | .lockTest _ copy _ => Counted store ∧ copy = store.factor
  | .matchTOTP copy _ | .readCodes copy _ | .compareCodes copy _ _ =>
    Counted store ∧ Unlocked store ∧ copy.id = store.factor.id
  | .readAttempts copy retries =>
    Counting store ∧ Unlocked store ∧ copy.id = store.factor.id ∧ 0 < retries
  | .writeAttempts _ current now _ =>
    Counting store ∧ current = store.factor ∧ store.factor.isLocked now = false
  | _ => False

inductive Progress (store : Store) : List Request → Prop
  | idle (counted : Counted store) : Progress store []
  | busy {request : Request} (serial : Serial store request) : Progress store [request]

structure Kept (factor : TwoFA) (store : Store) : Prop where
  stored : store.factor.id ≠ 0
  free : store.underLock = 0
  reached : store.locks ≠ 0 ∨ maxFailAttempts ≤ factor.failedAttempts →
    maxFailAttempts ≤ store.factor.failedAttempts

def Sound (factor : TwoFA) (state : State Store Request) : Prop :=
  Kept factor state.shared ∧ Progress state.shared state.running

variable {factor : TwoFA}
variable {store} {request : Request} {state : Interleaving.State Store Request} {now : Int}
  {config : TwoFactor.Config}

theorem Counted.counting (counted : Counted store) : Counting store := by
  rcases counted with none_compared | ⟨counted, below⟩
  · left
    omega
  · right
    exact ⟨by omega, below⟩

theorem Counted.compare (counted : Counted store) : Counting store.compare := by
  rcases counted with none_compared | ⟨counted, below⟩
  · left
    exact Nat.le_of_eq (congrArg (· + 1) none_compared)
  · right
    exact ⟨Nat.succ_le_succ counted, below⟩

theorem Counting.bounded (counting : Counting store) (kept : Kept factor store) :
    Bounded factor store := by
  refine ⟨kept.free, ?_, ?_⟩
  · rcases counting with single | ⟨counted, below⟩
    · exact single.trans (by decide)
    · omega
  · intro before
    have reached := kept.reached before
    rcases counting with single | ⟨counted, below⟩
    · exact single
    · omega

theorem Serial.counting (serial : Serial store request) : Counting store := by
  cases request with
  | load => exact Counted.counting serial
  | lockTest | matchTOTP | readCodes | compareCodes => exact serial.1.counting
  | readAttempts | writeAttempts => exact serial.1
  | claimCounter | useCode | updateUsageState => exact serial.elim

theorem Sound.bounded (sound : Sound factor state) :
    Bounded factor state.shared := by
  rcases state with ⟨store, running⟩
  rcases sound with ⟨kept, progress⟩
  cases progress with
  | idle counted => exact counted.counting.bounded kept
  | busy serial => exact serial.counting.bounded kept

theorem Kept.compare (kept : Kept factor store) (unlocked : Unlocked store) :
    Kept factor store.compare := by
  refine ⟨kept.stored, ?_, kept.reached⟩
  simp only [Store.compare]
  rw [kept.free, unlocked]
  rfl

theorem Kept.countFailure (kept : Kept factor store) (now : Int) :
    Kept factor (store.countFailure store.factor now) := by
  unfold Store.countFailure
  split
  · rename_i locks
    exact ⟨kept.stored, kept.free, fun _ => locks⟩
  · refine ⟨kept.stored, kept.free, ?_⟩
    intro before
    exact (kept.reached before).trans (Nat.le_succ _)

theorem Counting.countFailure (counting : Counting store) (now : Int) :
    Counted (store.countFailure store.factor now) := by
  unfold Store.countFailure
  split
  · left
    rfl
  · rename_i below
    right
    rcases counting with single | ⟨counted, limit⟩
    · exact ⟨single.trans (Nat.le_add_left 1 _), Nat.lt_of_not_le below⟩
    · exact ⟨counted, Nat.lt_of_not_le below⟩

/-- The update of `IncrementFailedAttempts` finds the row that the request has just read. -/
theorem unchanged_self (unlocked : factor.isLocked now = false) :
    unchanged factor factor now = true := by
  unfold TwoFA.isLocked at unlocked
  unfold unchanged
  cases limit : factor.lockedUntil with
  | none => simp
  | some time =>
    rw [limit] at unlocked
    simpa using unlocked

theorem isLocked_later (duration : Nat) (unlocked : factor.isLocked now = false) :
    factor.isLocked (now + duration) = false := by
  unfold TwoFA.isLocked at unlocked ⊢
  cases limit : factor.lockedUntil with
  | none => rfl
  | some time =>
    rw [limit] at unlocked
    simp only [Option.any_some, decide_eq_false_iff_not] at unlocked ⊢
    omega

theorem serial_resume (kept : Kept factor store) (serial : Serial store request)
    (wrong : WrongCode config ⟨store, [request]⟩ (.resume request)) :
    Sound factor ⟨(resume config store request).1, (resume config store request).2.toList⟩ := by
  cases request with
  | load kind code => exact ⟨kept, .busy ⟨serial, rfl⟩⟩
  | lockTest kind copy code =>
    rcases serial with ⟨counted, rfl⟩
    by_cases locked : store.factor.isLocked store.clock
    · simp only [resume, if_pos locked]
      exact ⟨kept, .idle counted⟩
    · have unlocked : Unlocked store := Bool.eq_false_of_not_eq_true locked
      simp only [resume, if_neg locked]
      cases kind with
      | totp => exact ⟨kept, .busy ⟨counted, unlocked, rfl⟩⟩
      | backup =>
        simp only
        split
        · exact ⟨kept, .busy ⟨counted, unlocked, rfl⟩⟩
        · exact ⟨kept, .idle counted⟩
  | matchTOTP copy code =>
    rcases serial with ⟨counted, unlocked, same⟩
    simp only [WrongCode] at wrong
    simp only [resume, wrong]
    split
    · exact ⟨kept.compare unlocked, .busy ⟨counted.compare, unlocked, same, by decide⟩⟩
    · exact ⟨kept, .busy ⟨counted.counting, unlocked, same, by decide⟩⟩
  | readCodes copy code => exact ⟨kept, .busy serial⟩
  | compareCodes copy code rows =>
    rcases serial with ⟨counted, unlocked, same⟩
    have missed : rows.find? (fun row => config.validatePasswordAndHash code row.codeHash) =
        none := by
      rw [List.find?_eq_none]
      intro row member
      rw [wrong row member]
      decide
    simp only [resume, missed]
    split
    · exact ⟨kept, .busy ⟨counted.counting, unlocked, same, by decide⟩⟩
    · exact ⟨kept.compare unlocked, .busy ⟨counted.compare, unlocked, same, by decide⟩⟩
  | readAttempts copy retries =>
    rcases serial with ⟨counting, unlocked, same, more⟩
    cases retries with
    | zero => cases more
    | succ retries =>
      have passes : ¬(copy.id = 0 ∨ copy.id ≠ store.factor.id ∨
          store.factor.isLocked store.clock = true) := by
        rw [same, unlocked]
        simpa using kept.stored
      simp only [resume, if_neg passes]
      exact ⟨kept, .busy ⟨counting, rfl, unlocked⟩⟩
  | writeAttempts copy current now retries =>
    rcases serial with ⟨counting, rfl, unlocked⟩
    simp only [resume, unchanged_self unlocked, if_true]
    exact ⟨kept.countFailure now, .idle (counting.countFailure now)⟩
  | claimCounter | useCode | updateUsageState => exact serial.elim

theorem serial_tick (duration : Nat) (serial : Serial store request) :
    Serial { store with clock := store.clock + duration } request := by
  cases request with
  | load | lockTest | writeAttempts => exact serial
  | matchTOTP | readCodes | compareCodes | readAttempts =>
    exact ⟨serial.1, isLocked_later duration serial.2.1, serial.2.2⟩
  | claimCounter | useCode | updateUsageState => exact serial.elim

theorem sound_step {event : Event Request Move}
    (allowed : WrongCode config state event ∧ Alone state event) (sound : Sound factor state) :
    Sound factor (step (program config) state event) := by
  rcases state with ⟨store, running⟩
  rcases sound with ⟨kept, progress⟩
  rcases allowed with ⟨wrong, alone⟩
  cases event with
  | resume request =>
    by_cases member : request ∈ running
    · simp only [step, if_pos member]
      cases progress with
      | idle counted => cases member
      | busy serial =>
        rw [List.mem_singleton] at member
        subst member
        rw [List.erase_cons_head, List.append_nil]
        exact serial_resume kept serial wrong
    · simp only [step, if_neg member]
      exact ⟨kept, progress⟩
  | environment move =>
    cases move with
    | tick duration =>
      refine ⟨{ kept with }, ?_⟩
      cases progress with
      | idle counted => exact .idle counted
      | busy serial => exact .busy (serial_tick duration serial)
    | request kind code =>
      cases alone
      cases progress with
      | idle counted => exact ⟨kept, .busy counted⟩
    | validate kind copy code => exact wrong.elim

/-- When every code is wrong and every request starts alone, the guesses stay bounded. -/
theorem guessing_bounded (config : Config) (clock : Int) (factor : TwoFA) (codes : BackupCodes)
    (events : List (Event Request Move)) (stored : factor.id ≠ 0)
    (steps : AllSteps (step (program config))
      (fun state event => WrongCode config state event ∧ Alone state event)
      (begin clock factor codes) events) :
    Bounded factor (run (step (program config)) (begin clock factor codes) events).shared := by
  have initial : Sound factor (begin clock factor codes) := by
    constructor
    · refine ⟨stored, rfl, ?_⟩
      rintro (locked | reached)
      · exact absurd rfl locked
      · exact reached
    · exact .idle (.inl rfl)
  have sound := run_invariant (fun _ _ => sound_step) _ events steps initial
  exact sound.bounded

def sampleConfig : Config where
  validateCustom := fun _ _ _ => false
  validatePasswordAndHash := fun _ _ => false
  toUpper := Char.toUpper

def sampleFactor : TwoFA := { id := 1, userId := 7, secret := "secret" }

def sampleCodes : BackupCodes := Table.ofRows [{ id := 1, userId := 7, codeHash := "hash" }]

def sampleStart : State Store Request := begin 0 sampleFactor sampleCodes

def totpGuess : Nat ⊕ Move := .inr (.request .totp "123456")

def backupGuess : Nat ⊕ Move := .inr (.request .backup "ABCD-0001")

/-- Five guesses one after the other, one under the lock, one after it. -/
def serialGuesses : List (Event Request Move) :=
  let alone := [totpGuess, .inl 0, .inl 0, .inl 0, .inl 0, .inl 0]
  schedule (program sampleConfig) sampleStart
    (alone ++ alone ++ alone ++ alone ++
      [backupGuess, .inl 0, .inl 0, .inl 0, .inl 0, .inl 0, .inl 0] ++
      [totpGuess, .inl 0, .inl 0, .inr (.tick 300000000000)] ++ alone)

theorem guessing_bounded_serial :
    (run (step (program sampleConfig)) sampleStart serialGuesses).shared.locks = 2 ∧
      (run (step (program sampleConfig)) sampleStart serialGuesses).running = [] ∧
      Bounded sampleFactor
        (run (step (program sampleConfig)) sampleStart serialGuesses).shared :=
  ⟨by decide +kernel, by decide +kernel,
    guessing_bounded sampleConfig 0 sampleFactor sampleCodes serialGuesses (by decide)
      (by decide +kernel)⟩

/-- Seven requests pass the test of the lock, and six compare their codes. -/
def overlappingGuesses : List (Nat ⊕ Move) :=
  let passed := [totpGuess, .inl 0, .inl 0]
  passed ++ passed ++ passed ++ passed ++ passed ++ passed ++ passed ++
    [.inl 0, .inl 1, .inl 2, .inl 3, .inl 4, .inl 5]

/-- Five of them are counted, and the last request compares its code under the lock. -/
def staleGuess : List (Nat ⊕ Move) :=
  let counted := [.inl 0, .inl 0]
  counted ++ counted ++ counted ++ counted ++ counted ++ [.inl 1]

def overlapped : List (Event Request Move) :=
  schedule (program sampleConfig) sampleStart overlappingGuesses

def overlappedStale : List (Event Request Move) :=
  schedule (program sampleConfig) sampleStart (overlappingGuesses ++ staleGuess)

theorem overlapping_requests_guess_on :
    AllSteps (step (program sampleConfig)) (WrongCode sampleConfig) sampleStart overlapped ∧
      (run (step (program sampleConfig)) sampleStart overlapped).shared.compared = 6 ∧
      (run (step (program sampleConfig)) sampleStart overlapped).shared.locks = 0 ∧
      AllSteps (step (program sampleConfig)) (WrongCode sampleConfig) sampleStart
        overlappedStale ∧
      (run (step (program sampleConfig)) sampleStart overlappedStale).shared.locks = 1 ∧
      (run (step (program sampleConfig)) sampleStart overlappedStale).shared.underLock = 1 ∧
      ¬Bounded sampleFactor
        (run (step (program sampleConfig)) sampleStart overlapped).shared ∧
      ¬Bounded sampleFactor
        (run (step (program sampleConfig)) sampleStart overlappedStale).shared := by
  decide +kernel

end NewApi.FactorLockout
