import NewApi.Interleaving
import NewApi.Schema

/-!
Validation of a second factor (model/twofa.go, common/totp.go). A request works on a copy
of the factor's row that it loaded earlier. Each statement of the database is one step;
what a request computes between two statements belongs to the step before it, and every
step that asks for the time reads the clock. The one-time password algorithm, the
password hash and upper case are parameters. Beside the rows, the store records what was
accepted, in the order of the commits, and how many codes were compared.
-/

namespace NewApi.TwoFactor

open Runs Interleaving

structure Config where
  -- `totp.ValidateCustom` for a clean code, a secret and the time step of a counter.
  validateCustom : String → String → Int → Bool
  validatePasswordAndHash : String → String → Bool
  -- `unicode.ToUpper`.
  toUpper : Char → Char

/-- Times are in nanoseconds. -/
def second : Int := 1000000000

def maxFailAttempts : Nat := 5

def lockoutDuration : Int := 300 * second

def maxUpdateRetries : Nat := 5

def backupCodeLength : Nat := 8

structure TwoFA where
  id : Int
  userId : Int
  secret : String := ""
  failedAttempts : Nat := 0
  lockedUntil : Option Int := none
  lastUsedAt : Option Int := none
  -- NULL in rows from before the column existed.
  lastUsedCounter : Option Int := none
  deriving DecidableEq

structure TwoFABackupCode where
  id : Int
  userId : Int
  codeHash : String
  isUsed : Bool := false
  usedAt : Option Int := none
  deriving DecidableEq

/-- `COALESCE(last_used_counter, 0)`. -/
def TwoFA.counter (t : TwoFA) : Int := t.lastUsedCounter.getD 0

def TwoFA.isLocked (t : TwoFA) (now : Int) : Bool := t.lockedUntil.any fun limit => now < limit

variable (config : Config) (code : String)

def cleanCode : String := String.ofList (code.toList.filter (· ≠ ' '))

def comparable : Bool := (cleanCode code).utf8ByteSize == 6

/-- The counters of the time window, in the order in which they are tried. -/
def window (now : Int) : List Int :=
  let base := Int.tdiv (now / second) 30
  [base, base - 1, base + 1]

def matchTOTPCounter (secret code : String) (now : Int) : Option Int :=
  if comparable code then (window now).find? (config.validateCustom (cleanCode code) secret)
  else none

def compactCode : String :=
  String.ofList ((code.toList.filter (· ≠ '-')).map config.toUpper)

def validBackupCode : Bool :=
  (compactCode config code).utf8ByteSize == backupCodeLength &&
    (compactCode config code).toList.all fun letter =>
      ('A' ≤ letter && letter ≤ 'Z') || ('0' ≤ letter && letter ≤ '9')

def normalizeBackupCode : String :=
  if (compactCode config code).utf8ByteSize = backupCodeLength then
    String.ofList ((compactCode config code).toList.take 4 ++
      '-' :: (compactCode config code).toList.drop 4)
  else code

abbrev BackupCodes := Table (fun code : TwoFABackupCode => code.id)

structure Store where
  clock : Int
  factor : TwoFA
  codes : BackupCodes
  -- The counters of the accepted passwords and the accepted backup codes, oldest first.
  counters : List Int := []
  used : List (Int × String) := []
  -- Codes compared since the last lock, locks set, codes compared under a lock.
  compared : Nat := 0
  locks : Nat := 0
  underLock : Nat := 0

variable (store : Store)

inductive Kind where
  | totp
  | backup
  deriving DecidableEq

/-- The next statement of a request. -/
inductive Request where
  | load (kind : Kind) (code : String)
  | lockTest (kind : Kind) (copy : TwoFA) (code : String)
  | matchTOTP (copy : TwoFA) (code : String)
  | claimCounter (copy : TwoFA) (counter now : Int)
  | readCodes (copy : TwoFA) (code : String)
  | compareCodes (copy : TwoFA) (code : String) (rows : List TwoFABackupCode)
  | useCode (copy : TwoFA) (code : String) (row : TwoFABackupCode) (now : Int)
  | updateUsageState (copy : TwoFA)
  | readAttempts (copy : TwoFA) (retries : Nat)
  | writeAttempts (copy current : TwoFA) (now : Int) (retries : Nat)
  deriving DecidableEq

inductive Move where
  | tick (duration : Nat)
  -- A request that loads the row first.
  | request (kind : Kind) (code : String)
  -- A validation on a copy of any age.
  | validate (kind : Kind) (copy : TwoFA) (code : String)
  deriving DecidableEq

def Store.compare : Store :=
  { store with
    compared := store.compared + 1
    underLock := store.underLock + if store.factor.isLocked store.clock then 1 else 0 }

def Store.claim (counter now : Int) : Store :=
  { store with
    factor := { store.factor with
      lastUsedCounter := some counter
      failedAttempts := 0
      lockedUntil := none
      lastUsedAt := some now }
    counters := store.counters ++ [counter] }

def Store.writeUsage (copy : TwoFA) : Store :=
  { store with
    factor := { store.factor with
      failedAttempts := copy.failedAttempts
      lockedUntil := copy.lockedUntil
      lastUsedAt := copy.lastUsedAt } }

/-- The condition of the optimistic update of `IncrementFailedAttempts`. -/
def unchanged (factor current : TwoFA) (now : Int) : Bool :=
  factor.id == current.id && factor.failedAttempts == current.failedAttempts &&
    factor.lockedUntil.all fun limit => decide (limit ≤ now)

def Store.countFailure (current : TwoFA) (now : Int) : Store :=
  if maxFailAttempts ≤ current.failedAttempts + 1 then
    { store with
      factor := { store.factor with
        failedAttempts := current.failedAttempts + 1
        lockedUntil := some (now + lockoutDuration) }
      compared := 0
      locks := store.locks + 1 }
  else
    { store with
      factor := { store.factor with
        failedAttempts := current.failedAttempts + 1
        lockedUntil := current.lockedUntil } }

/-- `TwoFA` as `ValidateBackupCodeAndUpdateUsage` writes it back. -/
def TwoFA.reset (t : TwoFA) (now : Int) : TwoFA :=
  { t with failedAttempts := 0, lockedUntil := none, lastUsedAt := some now }

def unusedCodes (codes : BackupCodes) (userId : Int) : List TwoFABackupCode :=
  codes.rows.filter fun code => code.userId = userId ∧ code.isUsed = false

def TwoFABackupCode.spend (now : Int) (code : TwoFABackupCode) : TwoFABackupCode :=
  { code with isUsed := true, usedAt := some now }

def resume (config : Config) (store : Store) : Request → Store × Option Request
  | .load kind code => (store, some (.lockTest kind store.factor code))
  | .lockTest kind copy code =>
    if copy.isLocked store.clock then (store, none)
    else match kind with
      | .totp => (store, some (.matchTOTP copy code))
      | .backup =>
        -- A code of the wrong form is an error and no failure.
        if validBackupCode config code then
          (store, some (.readCodes copy (normalizeBackupCode config code)))
        else (store, none)
  | .matchTOTP copy code =>
    (if comparable code then store.compare else store,
      match matchTOTPCounter config copy.secret code store.clock with
      | some counter => some (.claimCounter copy counter store.clock)
      | none => some (.readAttempts copy maxUpdateRetries))
  | .claimCounter copy counter now =>
    if copy.id = store.factor.id ∧ store.factor.counter < counter then
      (store.claim counter now, none)
    else (store, none)
  | .readCodes copy code =>
    (store, some (.compareCodes copy code (unusedCodes store.codes copy.userId)))
  | .compareCodes copy code rows =>
    (if rows = [] then store else store.compare,
      match rows.find? fun row => config.validatePasswordAndHash code row.codeHash with
      | some row => some (.useCode copy code row store.clock)
      | none => some (.readAttempts copy maxUpdateRetries))
  | .useCode copy code row now =>
    match store.codes.updateWhere row.id (fun stored => !stored.isUsed)
        (TwoFABackupCode.spend now) with
    | some codes =>
      ({ store with codes, used := store.used ++ [(row.id, code)] },
        some (.updateUsageState (copy.reset store.clock)))
    | none => (store, some (.readAttempts copy maxUpdateRetries))
  | .updateUsageState copy =>
    if copy.id ≠ 0 ∧ copy.id = store.factor.id then (store.writeUsage copy, none)
    else (store, none)
  | .readAttempts copy retries =>
    match retries with
    | 0 => (store, none)
    | retries + 1 =>
      if copy.id = 0 ∨ copy.id ≠ store.factor.id ∨ store.factor.isLocked store.clock then
        (store, none)
      else (store, some (.writeAttempts copy store.factor store.clock retries))
  | .writeAttempts copy current now retries =>
    if unchanged store.factor current now then (store.countFailure current now, none)
    else (store, some (.readAttempts copy retries))

def environment : Move → Store × List Request
  | .tick duration => ({ store with clock := store.clock + duration }, [])
  | .request kind code => (store, [.load kind code])
  | .validate kind copy code => (store, [.lockTest kind copy code])

def program (config : Config) : Program Store Request Move where
  resume := resume config
  environment := environment

def begin (clock : Int) (factor : TwoFA) (codes : BackupCodes) : State Store Request where
  shared := { clock, factor, codes }
  running := []

end NewApi.TwoFactor
