import NewApi.BillingConservation
import NewApi.Interleaving
import NewApi.MidjourneyMeters

/-!
API tokens, statement by statement: `ValidateUserToken`, `RotateTokenKey` and the two
halves of `IncreaseTokenQuota` (model/token.go), the Redis entries that lead from a key
hash to a row (model/token_cache.go), and `UpdateToken` (controller/token.go), which
writes back the row it has read. A statement or a transaction is atomic; between two of
them anything else may run. The billing and Midjourney transactions are the ones of their
own modules. A status outside the four constants, which an edit may store, is refused like
`disabled`.
-/

namespace NewApi.TokenStore

open BillingOperations Wallet MidjourneyReservation Table Option

def Expired (row : Token) (now : Int) : Prop := row.expiredTime ≠ -1 ∧ row.expiredTime < now

instance (row : Token) (now : Int) : Decidable (Expired row now) :=
  inferInstanceAs (Decidable (_ ∧ _))

def Spent (row : Token) : Prop := row.unlimitedQuota = false ∧ row.remainQuota ≤ 0

instance (row : Token) : Decidable (Spent row) := inferInstanceAs (Decidable (_ ∧ _))

inductive Judgement where
  | reject
  | accept
  | persist (status : TokenStatus)
  deriving DecidableEq

/-- What `ValidateUserToken` makes of the row it has read. -/
def judge (now : Int) (row : Token) : Judgement :=
  if row.keyPrefix = "invalid" ∨ row.status ≠ .enabled then .reject
  else if Expired row now then .persist .expired
  else if Spent row then .persist .exhausted
  else .accept

/-- The condition of the update that persists a status. -/
def Lapsed (now : Int) (row : Token) : TokenStatus → Prop
  | .expired => Expired row now
  | .exhausted => Spent row ∧ (row.expiredTime = -1 ∨ now < row.expiredTime)
  | _ => False

instance (now : Int) (row : Token) (status : TokenStatus) : Decidable (Lapsed now row status) := by
  cases status <;> unfold Lapsed <;> infer_instance

/-- `resolveTokenInvalidStatus` on the row that decides. -/
def Usable (now : Int) (row : Token) : Prop :=
  row.status = .enabled ∧ row.keyPrefix ≠ "invalid" ∧
    (row.expiredTime = -1 ∨ now ≤ row.expiredTime) ∧
    (row.unlimitedQuota = true ∨ 0 < row.remainQuota)

instance (now : Int) (row : Token) : Decidable (Usable now row) :=
  inferInstanceAs (Decidable (_ ∧ _))

variable (settings : Settings) (db : Database)

/-- `WHERE id = ? AND key = ?`, without the soft-deleted rows. -/
def findCredential (id : Int) (keyHash : String) : Option Token :=
  (db.tokens.find? id).filter fun row => row.keyHash = keyHash ∧ row.deleted = false

def findByKeyHash (keyHash : String) : Option Token :=
  db.tokens.rows.find? fun row => row.keyHash = keyHash ∧ row.deleted = false

variable (now : Int)

/-- The update of `persistTokenInvalidStatus`; `none` when no row meets its condition. -/
def persistTokenInvalidStatus (token : Token) (status : TokenStatus) : Option Database :=
  (db.tokens.updateWhere token.id
    (fun row => decide (row.keyHash = token.keyHash ∧ row.status = .enabled ∧
      row.keyPrefix ≠ "invalid" ∧ row.deleted = false ∧ Lapsed now row status))
    (fun row => { row with status, accessedTime := now })).map fun tokens => { db with tokens }

def tokenKeyPrefix (key : String) : String :=
  if key.utf8ByteSize ≤ 8 then key else String.ofList (key.toList.take 8)

/-- The unique index on the hash. -/
def hashTaken (id : Int) (keyHash : String) : Bool :=
  db.tokens.rows.any fun row => decide (row.keyHash = keyHash ∧ row.id ≠ id)

/-- The transaction of `RotateTokenKey`. Returns the hash it replaced and the store. -/
def rotateTokenKey (id userId : Int) (keyHash keyPrefix : String) : Option (String × Database) :=
  match db.tokens.find? id with
  | none => none
  | some row =>
    if row.userId ≠ userId ∨ row.deleted ∨ hashTaken db id keyHash then none
    else some (row.keyHash, { db with tokens := db.tokens.save { row with keyHash, keyPrefix } })

/-- The columns of the request of `UpdateToken` that the modelled rows have. -/
structure TokenEdit where
  id : Int
  statusOnly : Bool
  name : String := ""
  status : TokenStatus
  expiredTime : Int := 0
  remainQuota : Int := 0
  unlimitedQuota : Bool := false
  deriving DecidableEq

def getTokenByIds (id userId : Int) : Except String Token :=
  if id = 0 ∨ userId = 0 then .error "id 或 userId 为空！"
  else match db.tokens.find? id with
    | none => .error "record not found"
    | some row =>
      if row.userId = userId ∧ row.deleted = false then .ok row else .error "record not found"

def checkEdit (edit : TokenEdit) : Except String Unit :=
  if 50 < edit.name.utf8ByteSize then .error "token.name_too_long"
  else if edit.unlimitedQuota then .ok ()
  else if edit.remainQuota < 0 then .error "token.quota_negative"
  else if truncateDecimal (1000000000 * settings.quotaPerUnit) < edit.remainQuota then
    .error "token.quota_exceed_max"
  else .ok ()

def checkEnable (edit : TokenEdit) (clean : Token) : Except String Unit :=
  if edit.status ≠ .enabled then .ok ()
  else if clean.keyPrefix = "invalid" then .error "token.invalid"
  else if clean.status = .expired ∧ clean.expiredTime ≤ now ∧ clean.expiredTime ≠ -1 then
    .error "token.expired_cannot_enable"
  else if clean.status = .exhausted ∧ clean.remainQuota ≤ 0 ∧ clean.unlimitedQuota = false then
    .error "token.exhausted_cannot_enable"
  else .ok ()

def applyEdit (edit : TokenEdit) (clean : Token) : Token :=
  if edit.statusOnly then { clean with status := edit.status }
  else
    { clean with
      expiredTime := edit.expiredTime
      remainQuota := edit.remainQuota
      unlimitedQuota := edit.unlimitedQuota }

/-- `UpdateToken` up to its write: the row it is going to write. -/
def readEdit (db : Database) (userId : Int) (edit : TokenEdit) :
    Except String Token := do
  checkEdit settings edit
  let clean ← getTokenByIds db edit.id userId
  checkEnable now edit clean
  .ok (applyEdit edit clean)

/-- `Token.Update` writes a fixed list of columns, whatever the edit changed. -/
def updateToken (token : Token) : Database :=
  match db.tokens.updateWhere token.id (fun row => !row.deleted) (fun row =>
      { row with
        status := token.status
        expiredTime := token.expiredTime
        remainQuota := token.remainQuota
        unlimitedQuota := token.unlimitedQuota }) with
  | none => db
  | some tokens => { db with tokens }

inductive Transaction where
  | billing (call : BillingConservation.Call)
  | reserveMidjourney (input : ReservationRequest)
  | refundMidjourney (id : Int)
  | settleMidjourney (id : Int)
  | createMidjourneyTask (task : Midjourney) (reservationId : Int) (outcome : BillingOutcome)
  | updateMidjourney (task : Midjourney) (fromStatus : String) (outcome : BillingOutcome)

def runTransaction : Transaction → Except StoreError Database
  | .billing call => do
    let done ← BillingConservation.execute settings.context db call
    .ok done.db
  | .reserveMidjourney input => do
    let (_, _, db) ← reserveMidjourneyQuota settings.context db input
    .ok db
  | .refundMidjourney id => do
    let (_, db) ← refundMidjourneyQuotaReservation settings db id
    .ok db
  | .settleMidjourney id => do
    let (_, db) ← settleMidjourneyQuotaReservation settings db id
    .ok db
  | .createMidjourneyTask task reservationId outcome => do
    let (_, db) ← createMidjourneyTaskWithReservation settings db task reservationId outcome
    .ok db
  | .updateMidjourney task fromStatus outcome => do
    let (_, _, db) ← updateWithQuotaReservation settings db task fromStatus outcome
    .ok db

/-- A failed transaction leaves the store as it was. -/
def committed : Except StoreError Database → Database
  | .error _ => db
  | .ok after => after

def atTime : Settings :=
  { settings with context := { settings.context with time := now } }

/-! The program. -/

/-- The statements of one validation that fail. -/
structure Faults where
  redis : Bool := false
  load : Bool := false
  read : Bool := false
  write : Bool := false
  reload : Bool := false
  deriving DecidableEq

structure Validation where
  keyHash : String
  faults : Faults := {}
  deriving DecidableEq

structure Verdict where
  keyHash : String
  -- The read that decides came after a rotation had replaced the key.
  late : Bool
  accepted : Bool
  deriving DecidableEq

structure Store where
  db : Database
  now : Int
  -- Redis: the id under a key hash.
  cache : String → Option Int := fun _ => none
  -- Cache writes left to goroutines of their own.
  fills : List (String × Int) := []
  -- History: the hashes that rotations replaced, and the results of the validations.
  retired : List String := []
  verdicts : List Verdict := []

structure Config where
  settings : Settings
  redisEnabled : Bool := true

inductive Request where
  -- `ValidateUserToken`
  | lookup (call : Validation)
  | load (call : Validation) (id : Int)
  | dropStale (call : Validation)
  | read (call : Validation)
  | judge (call : Validation) (row : Token) (late : Bool)
  | persist (call : Validation) (row : Token) (status : TokenStatus)
  | reload (call : Validation) (row : Token)
  | resolve (call : Validation) (row : Token) (late : Bool)
  -- `RotateTokenKey`
  | rotate (id userId : Int) (key : String) (redisFails : Bool)
  | dropRotated (oldHash keyHash : String) (id : Int)
  | cacheRotated (keyHash : String) (id : Int)
  -- `UpdateToken`
  | readEdit (userId : Int) (edit : TokenEdit)
  | writeEdit (token : Token)
  -- `IncreaseTokenQuota`; the flag records whether it has funded an exhausted token.
  | increase (id quota : Int)
  | restore (id : Int) (funded : Bool)
  deriving DecidableEq

inductive Move where
  | wait (seconds : Nat)
  | start (request : Request)
  | validate (key : String) (faults : Faults)
  | decrease (id quota : Int)
  | fill (entry : String × Int)
  | evict (keyHash : String)
  | transaction (settings : Settings) (transaction : Transaction)

def setCache (store : Store) (keyHash : String) (entry : Option Int) : Store :=
  { store with cache := Function.update store.cache keyHash entry }

def conclude (store : Store) (call : Validation) (late accepted : Bool) : Store :=
  { store with verdicts := store.verdicts ++ [⟨call.keyHash, late, accepted⟩] }

def retiredHash (store : Store) (keyHash : String) : Bool := decide (keyHash ∈ store.retired)

/-- The token is exhausted, and the amount lifts it above zero. -/
def funds (id quota : Int) : Bool :=
  (db.tokens.find? id).any fun row => row.status = .exhausted ∧ 0 < row.remainQuota + quota

variable (config : Config)

def resume (store : Store) : Request → Store × Option Request
  | .lookup call =>
    if config.redisEnabled ∧ call.faults.redis = false then
      match store.cache call.keyHash with
      | some id => (store, some (.load call id))
      | none => (store, some (.read call))
    else (store, some (.read call))
  | .load call id =>
    if call.faults.load then (conclude store call (retiredHash store call.keyHash) false, none)
    else match findCredential store.db id call.keyHash with
      | some row => (store, some (.judge call row (retiredHash store call.keyHash)))
      | none => (store, some (.dropStale call))
  | .dropStale call => (setCache store call.keyHash none, some (.read call))
  | .read call =>
    if call.faults.read then (conclude store call (retiredHash store call.keyHash) false, none)
    else match findByKeyHash store.db call.keyHash with
      | none => (conclude store call (retiredHash store call.keyHash) false, none)
      | some row =>
        ({ store with fills :=
            if config.redisEnabled then store.fills ++ [(row.keyHash, row.id)]
            else store.fills },
          some (.judge call row (retiredHash store call.keyHash)))
  | .judge call row late =>
    match judge store.now row with
    | .reject => (conclude store call late false, none)
    | .accept => (conclude store call late true, none)
    | .persist status => (store, some (.persist call row status))
  | .persist call row status =>
    if call.faults.write then (store, some (.reload call row))
    else match persistTokenInvalidStatus store.db store.now row status with
      -- The copy that is returned carries the status just written.
      | some db =>
        (conclude { store with db } call (retiredHash store call.keyHash) false, none)
      | none => (store, some (.reload call row))
  | .reload call row =>
    -- A row that cannot be read again is replaced by the one that has been judged.
    let current :=
      if call.faults.reload then row
      else (findCredential store.db row.id row.keyHash).getD row
    (store, some (.resolve call current (retiredHash store call.keyHash)))
  | .resolve call row late => (conclude store call late (decide (Usable store.now row)), none)
  | .rotate id userId key redisFails =>
    if id ≤ 0 ∨ userId ≤ 0 ∨ key = "" then (store, none)
    else
      let keyHash := config.settings.context.hashTokenKey key
      match rotateTokenKey store.db id userId keyHash (tokenKeyPrefix key) with
      | none => (store, none)
      | some (oldHash, db) =>
        ({ store with db, retired := oldHash :: store.retired },
          if config.redisEnabled ∧ redisFails = false then
            some (.dropRotated oldHash keyHash id)
          else none)
  | .dropRotated oldHash keyHash id =>
    (setCache store oldHash none, some (.cacheRotated keyHash id))
  | .cacheRotated keyHash id => (setCache store keyHash (some id), none)
  | .readEdit userId edit =>
    match TokenStore.readEdit config.settings store.now store.db userId edit with
    | .error _ => (store, none)
    | .ok token => (store, some (.writeEdit token))
  | .writeEdit token =>
    ({ store with
        db := updateToken store.db token
        fills := if config.redisEnabled then store.fills ++ [(token.keyHash, token.id)]
          else store.fills },
      none)
  | .increase id quota =>
    if quota < 0 then (store, none)
    else match shiftToken (atTime config.settings store.now) store.db id (-quota) with
      | .error _ => (store, none)
      | .ok db =>
        ({ store with db },
          if 0 < quota then some (.restore id (funds store.db id quota)) else none)
  | .restore id _ =>
    ({ store with db := restoreExhaustedTokenIfFunded store.db id store.now }, none)

/-- The requests that a server starts with. -/
def Request.isFirst : Request → Bool
  | .rotate _ _ _ _ | .readEdit _ _ | .increase _ _ => true
  | _ => false

def environment (store : Store) : Move → Store × List Request
  | .wait seconds => ({ store with now := store.now + seconds }, [])
  | .start request => (store, if request.isFirst then [request] else [])
  | .validate key faults =>
    if key = "" then (store, [])
    else (store, [.lookup { keyHash := config.settings.context.hashTokenKey key, faults }])
  | .decrease id quota =>
    let result := decreaseTokenQuota (atTime config.settings store.now) store.db id quota
    ({ store with db := committed store.db result }, [])
  | .fill entry =>
    if entry ∈ store.fills then
      ({ setCache store entry.1 (some entry.2) with fills := store.fills.erase entry }, [])
    else (store, [])
  | .evict keyHash => (setCache store keyHash none, [])
  | .transaction settings transaction =>
    let result := runTransaction (atTime settings store.now) store.db transaction
    ({ store with db := committed store.db result }, [])

def program : Interleaving.Program Store Request Move where
  resume := resume config
  environment := environment config

theorem find?_updateToken (token : Token) (target : Int) :
    (updateToken db token).tokens.find? target =
      (db.tokens.find? target).map fun row =>
        if target = token.id ∧ row.deleted = false then
          { row with
            status := token.status
            expiredTime := token.expiredTime
            remainQuota := token.remainQuota
            unlimitedQuota := token.unlimitedQuota }
        else row := by
  have tokens : (updateToken db token).tokens =
      (db.tokens.updateWhere token.id (fun row => !row.deleted) (fun row =>
        { row with
          status := token.status
          expiredTime := token.expiredTime
          remainQuota := token.remainQuota
          unlimitedQuota := token.unlimitedQuota })).getD db.tokens := by
    unfold updateToken
    split
    · rename_i refused
      rw [refused, getD_none]
    · rename_i updated
      rw [updated, getD_some]
  rw [tokens, find?_getD_updateWhere _ _ _ (by exact fun _ => rfl)]
  simp only [Bool.not_eq_true']

variable {after : Database} {quota userId : Int} {keyHash keyPrefix oldHash : String}
  {store : Store} {request : Request} {config}

theorem shiftToken_row {settings : Settings} {db : Database} {id : Int}
    (done : shiftToken settings db id quota = .ok after) (target : Int) :
    after.tokens.find? target =
      (db.tokens.find? target).map fun row =>
        if target = id ∧ row.deleted = false then
          { row with
            remainQuota := row.remainQuota - quota
            usedQuota := row.usedQuota + quota
            accessedTime := settings.context.time }
        else row := by
  unfold shiftToken at done
  split at done
  · rename_i absent
    cases done
    by_cases here : target = id
    · subst here
      rw [absent, map_none]
    · simp only [here, false_and, if_false, map_id']
  · rename_i row found
    split at done
    · rename_i removed
      cases done
      by_cases here : target = id
      · subst here
        simp [found, removed]
      · simp only [here, false_and, if_false, map_id']
    · rename_i stays
      split at done
      · cases done
      cases done
      have own := find?_key found
      simp only [find?_save, own]
      by_cases here : target = id
      · subst here
        simp only [found, map_some, if_true, true_and, stays, own]
      · have other : id ≠ target := fun back => here back.symm
        simp only [if_neg other, here, false_and, if_false, map_id']

theorem rotateTokenKey_row {db : Database} {id : Int}
    (done : rotateTokenKey db id userId keyHash keyPrefix = some (oldHash, after)) :
    hashTaken db id keyHash = false ∧ ∃ row, db.tokens.find? id = some row ∧
      row.keyHash = oldHash ∧ row.deleted = false ∧
      ∀ target, after.tokens.find? target =
        if id = target then some { row with keyHash, keyPrefix } else db.tokens.find? target := by
  unfold rotateTokenKey at done
  split at done
  · cases done
  rename_i row found
  split at done
  · cases done
  rename_i allowed
  cases done
  simp only [not_or, Bool.not_eq_true] at allowed
  refine ⟨allowed.2.2, row, found, rfl, allowed.2.1, ?_⟩
  intro target
  have own := find?_key found
  simp only [find?_save, own]
  by_cases here : id = target
  · subst here
    simp only [found, map_some, if_true]
  · simp only [if_neg here]

inductive Writes (config : Config) (store : Store) : Request → Option Request → Database → Prop
  | kept {request : Request} {next : Option Request}
      (idle : ∀ id funded, request ≠ .restore id funded)
      (unfunded : ∀ id, next ≠ some (.restore id true)) :
      Writes config store request next store.db
  | persist {call : Validation} {row : Token} {status : TokenStatus} {db : Database}
      (done : persistTokenInvalidStatus store.db store.now row status = some db) :
      Writes config store (.persist call row status) none db
  | rotate {id userId : Int} {key oldHash : String} {redisFails : Bool} {db : Database}
      {next : Option Request} (unfunded : ∀ id, next ≠ some (.restore id true))
      (done : rotateTokenKey store.db id userId (config.settings.context.hashTokenKey key)
        (tokenKeyPrefix key) = some (oldHash, db)) :
      Writes config store (.rotate id userId key redisFails) next db
  | edit {token : Token} : Writes config store (.writeEdit token) none (updateToken store.db token)
  | increase {id quota : Int} {db : Database} (nonneg : 0 ≤ quota)
      (done : shiftToken (atTime config.settings store.now) store.db id (-quota) = .ok db) :
      Writes config store (.increase id quota)
        (if 0 < quota then some (.restore id (funds store.db id quota)) else none) db
  | restore {id : Int} {funded : Bool} :
      Writes config store (.restore id funded) none
        (restoreExhaustedTokenIfFunded store.db id store.now)

theorem resume_writes (config : Config) (store : Store) (request : Request) :
    Writes config store request (resume config store request).2
      (resume config store request).1.db := by
  fun_cases resume config store request
  case case15 done => exact .persist done
  case case21 done =>
    refine .rotate ?_ done
    intro other
    split <;> simp
  case case26 => exact .edit
  case case29 done => exact .increase (by omega) done
  case case30 => exact .restore
  all_goals exact .kept (by simp) (by simp)

theorem resume_now :
    (resume config store request).1.now = store.now := by
  fun_cases resume config store request <;> rfl

theorem resume_edit {token : Token}
    (next : (resume config store request).2 = some (.writeEdit token)) :
    ∃ userId edit clean, request = .readEdit userId edit ∧
      getTokenByIds store.db edit.id userId = .ok clean ∧ token = applyEdit edit clean := by
  revert next
  fun_cases resume config store request
  case case25 userId edit _ read =>
    rintro ⟨⟩
    rcases Runs.bind_ok read with ⟨-, -, read⟩
    rcases Runs.bind_ok read with ⟨clean, found, read⟩
    rcases Runs.bind_ok read with ⟨-, -, read⟩
    cases read
    exact ⟨userId, edit, clean, rfl, found, rfl⟩
  case case21 | case29 => dsimp only; split <;> rintro ⟨⟩
  all_goals rintro ⟨⟩

theorem transaction_bills {transaction : Transaction} {settings : Settings} {db : Database}
    (done : runTransaction settings db transaction = .ok after) :
    TokenEffects.Bills settings.context.time db after := by
  cases transaction with
  | billing call =>
    rcases Runs.bind_ok done with ⟨committed, executed, saved⟩
    cases saved
    exact (BillingConservation.execute_effect executed).2
  | reserveMidjourney input =>
    rcases Runs.bind_ok done with ⟨⟨reservation, created, stored⟩, reserved, saved⟩
    cases saved
    exact (MidjourneyMeters.reserve_effect reserved).2.2
  | refundMidjourney id | settleMidjourney id =>
    rcases Runs.bind_ok done with ⟨⟨changed, stored⟩, closed, saved⟩
    cases saved
    exact (MidjourneyMeters.close_effect closed).2.2
  | createMidjourneyTask task reservationId outcome =>
    rcases Runs.bind_ok done with ⟨⟨refunded, stored⟩, created, saved⟩
    cases saved
    exact (MidjourneyMeters.create_effect created).2.2
  | updateMidjourney task fromStatus outcome =>
    rcases Runs.bind_ok done with ⟨⟨won, refunded, stored⟩, updated, saved⟩
    cases saved
    exact (MidjourneyMeters.update_effect updated).2.2

/-- A server whose key hashes are the keys. -/
def sampleConfig : Config where
  settings := { context := BillingConservation.sampleContext }

end NewApi.TokenStore
