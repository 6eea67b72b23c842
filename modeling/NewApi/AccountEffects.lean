import NewApi.Accounts

/-!
What each call on accounts can store. A transaction that commits writes one row, new or
found by its identifier, and leaves every other row alone; the claims it leaves are
described by their members. `Effect` lists the outcomes of a call once, with the checks
each one has passed, and the invariants of the accounts are proved from this list.
-/

namespace NewApi.Accounts

open Payments UserRows Runs Table
open List hiding after

variable {row : Account}
variable {subject cause newGitHubId token bindingType : String}
  {other claim current : ExternalIdentityClaim} {directory after : Directory}
  {change : Account → Account} {call : Call} {form : Form} {myRole : Int}

@[simp] theorem toUser_withIdentity {provider : Provider} :
    (row.withIdentity subject provider).toUser = row.toUser := by
  cases provider <;> rfl

@[simp] theorem identity_withIdentity_self {provider : Provider} :
    (row.withIdentity subject provider).identity provider = subject := by
  cases provider <;> rfl

theorem withIdentity_id (subject : String) (provider : Provider) :
    (row.withIdentity subject provider).id = row.id := by
  rw [toUser_withIdentity]

variable {claims : Claims}

theorem identity_withIdentity_other {other provider : Provider} (row : Account) (subject : String)
    (different : other ≠ provider) :
    (row.withIdentity subject provider).identity other = row.identity other := by
  cases provider <;> cases other <;> first | rfl | exact absurd rfl different

theorem withEmail_id {email : String} (row : Account) : (row.withEmail email).id = row.id := rfl

theorem withEmail_deleted {email : String} (row : Account) :
    (row.withEmail email).deleted = row.deleted := rfl

@[simp] theorem withEmail_username {email : String} (row : Account) :
    (row.withEmail email).username = row.username := rfl

@[simp] theorem withEmail_email {email : String} (row : Account) :
    (row.withEmail email).email = email := rfl

def SameIdentities (row other : Account) : Prop :=
  ∀ provider, row.identity provider = other.identity provider

theorem sameIdentities_advanced (row : Account) : SameIdentities row.advanced row := by
  intro provider
  cases provider <;> rfl

theorem identity_toUser (row : Account) (user : User) :
    SameIdentities { row with toUser := user } row := by
  intro provider
  cases provider <;> rfl

theorem identity_unbound (user : User) (provider : Provider) :
    ({ toUser := user } : Account).identity provider = "" := by
  cases provider <;> rfl

theorem claimTrimmed_ok {provider : Provider} {userId : Int} {after : Claims}
    (claimed : claimTrimmed claims provider subject userId = .ok after)
    (claim : ExternalIdentityClaim) :
    claim ∈ after.rows ↔ claim ∈ claims.rows ∨ claim = ⟨provider, subject, userId⟩ := by
  unfold claimTrimmed at claimed
  cases inserted : claims.insert? ⟨provider, subject, userId⟩ with
  | some table =>
    simp only [inserted, Option.getD_some] at claimed
    have same : after = table := by
      iterate 3
        split at claimed
        · cases claimed
      split at claimed <;> cases claimed
      rfl
    rw [same, (IndexedTable.insert?_eq_some inserted).2]
    simp
  | none =>
    -- The insert was skipped, so the row read back is the claim itself.
    simp only [inserted, Option.getD_none] at claimed
    split at claimed
    · cases claimed
    rename_i owner found
    split at claimed
    · cases claimed
    rename_i owned
    split at claimed
    · cases claimed
    split at claimed <;> cases claimed
    have present := find?_mem found
    have member : (⟨provider, subject, userId⟩ : ExternalIdentityClaim) ∈ claims.rows := by
      simp only [ne_eq, not_not] at owned
      simp only [Prod.mk.injEq] at present
      rw [← present.2.1, ← present.2.2, ← owned]
      exact present.1
    constructor
    · exact .inl
    · rintro (old | rfl)
      · exact old
      · exact member

theorem claimTrimmed_owned {provider : Provider} {userId : Int}
    (owned : (⟨provider, subject, userId⟩ : ExternalIdentityClaim) ∈ claims.rows) :
    claimTrimmed claims provider subject userId = .ok claims := by
  have bySubject := mem_find? owned
  have byUser := IndexedTable.byIndex_find? owned
  have skipped := IndexedTable.insert?_eq_none bySubject
  simp [claimTrimmed, skipped, bySubject, byUser]

theorem claimExternalIdentityWithTx_ok {provider : Provider} {userId : Int} {after : Claims}
    (claimed : claimExternalIdentityWithTx claims provider subject userId = .ok after) :
    validClaim (trimSpace subject) userId = true ∧ ∀ claim, claim ∈ after.rows ↔
      claim ∈ claims.rows ∨ claim = ⟨provider, trimSpace subject, userId⟩ := by
  unfold claimExternalIdentityWithTx at claimed
  split at claimed
  · rename_i valid
    exact ⟨valid, claimTrimmed_ok claimed⟩
  · cases claimed

theorem slot_unique (first : claim ∈ claims.rows) (second : other ∈ claims.rows)
    (sameProvider : claim.provider = other.provider) (sameUser : claim.userId = other.userId) :
    claim = other :=
  IndexedTable.eq_of_index first second (Prod.ext sameProvider sameUser)

theorem slot_found {provider : Provider} {userId : Int}
    (found : claims.byIndex.find? (provider, userId) = some current) :
    current ∈ claims.rows ∧ current.provider = provider ∧ current.userId = userId := by
  rcases find?_mem found with ⟨member, slot⟩
  exact ⟨member, congrArg Prod.fst slot, congrArg Prod.snd slot⟩

theorem claim_into_slot {provider : Provider} {userId : Int} {cleared after : Claims}
    (emptied : ∀ claim, claim ∈ cleared.rows ↔
      claim ∈ claims.rows ∧ ¬(claim.provider = provider ∧ claim.userId = userId))
    (claimed : claimExternalIdentityWithTx cleared provider (trimSpace subject) userId = .ok after)
    (claim : ExternalIdentityClaim) :
    claim ∈ after.rows ↔ claim = ⟨provider, trimSpace subject, userId⟩ ∨
      (claim ∈ claims.rows ∧ ¬(claim.provider = provider ∧ claim.userId = userId)) := by
  have members := (claimExternalIdentityWithTx_ok claimed).2 claim
  rw [trimSpace_trimSpace] at members
  rw [members, emptied, or_comm]

theorem replaceExternalIdentityWithTx_ok {provider : Provider} {userId : Int} {after : Claims}
    (replaced : replaceExternalIdentityWithTx claims provider subject userId = .ok after) :
    validClaim (trimSpace subject) userId = true ∧ ∀ claim, claim ∈ after.rows ↔
      claim = ⟨provider, trimSpace subject, userId⟩ ∨
        (claim ∈ claims.rows ∧ ¬(claim.provider = provider ∧ claim.userId = userId)) := by
  unfold replaceExternalIdentityWithTx at replaced
  split at replaced
  · rename_i valid
    apply And.intro valid
    cases found : claims.byIndex.find? (provider, userId) with
    | none =>
      rw [found] at replaced
      apply claim_into_slot _ replaced
      intro claim
      refine ⟨fun member => ⟨member, ?_⟩, And.left⟩
      rintro ⟨rfl, rfl⟩
      rw [IndexedTable.byIndex_find? member] at found
      cases found
    | some current =>
      rw [found] at replaced
      rcases slot_found found with ⟨present, here, there⟩
      simp only at replaced
      split at replaced
      · rename_i same
        cases replaced
        have whole : current = ⟨provider, trimSpace subject, userId⟩ := by
          rw [← same, ← here, ← there]
        intro claim
        constructor
        · intro member
          by_cases slot : claim.provider = provider ∧ claim.userId = userId
          · exact .inl ((slot_unique member present (slot.1.trans here.symm)
              (slot.2.trans there.symm)).trans whole)
          · exact .inr ⟨member, slot⟩
        · rintro (rfl | ⟨member, -⟩)
          · rw [← whole]
            exact present
          · exact member
      · apply claim_into_slot _ replaced
        intro claim
        rw [IndexedTable.remove, mem_remove, decide_eq_false_iff_not]
        apply and_congr_right
        intro member
        apply not_congr
        constructor
        · rintro rfl
          exact ⟨here, there⟩
        · rintro ⟨left, right⟩
          exact slot_unique member present (left.trans here.symm) (right.trans there.symm)
  · cases replaced

theorem mem_releaseExternalIdentity {provider : Provider} {userId : Int} :
    claim ∈ (releaseExternalIdentityWithTx claims provider userId).rows ↔
      claim ∈ claims.rows ∧ ¬(claim.provider = provider ∧ claim.userId = userId) := by
  rw [releaseExternalIdentityWithTx, IndexedTable.remove, mem_remove,
    decide_eq_false_iff_not]

theorem mem_releaseAllExternalIdentities {userId : Int} :
    claim ∈ (releaseAllExternalIdentitiesWithTx claims userId).rows ↔
      claim ∈ claims.rows ∧ claim.userId ≠ userId := by
  rw [releaseAllExternalIdentitiesWithTx, IndexedTable.remove, mem_remove,
    decide_eq_false_iff_not]

/-- One row is stored, new or in place of the row with its identifier. -/
def Stored (before after : Directory) (row : Account) : Prop :=
  ∀ other, other ∈ after.users.rows ↔
    other = row ∨ (other ∈ before.users.rows ∧ other.id ≠ row.id)

structure Written (before after : Directory) (row : Account) : Prop where
  users : ∀ other, other ∈ after.users.rows ↔
    other = row ∨ (other ∈ before.users.rows ∧ other.id ≠ row.id)
  claims : after.claims = before.claims

theorem find?_id {userId : Int} {users : Users} (found : users.find? userId = some row) :
    row.id = userId := by
  have stored := find?_mem found
  exact stored.2

theorem saveRow_ok {userId : Int} {old : Account} (same : row.id = userId)
    (found : directory.users.find? userId = some old) (saved : saveRow directory row = .ok after) :
    Written directory after row := by
  subst same
  unfold saveRow at saved
  split at saved
  · cases saved
  rename_i users accepted
  cases saved
  constructor
  case users =>
    intro other
    rw [IndexedTable.ofTable?_eq_some accepted]
    exact mem_save_iff found other
  case claims => rfl

theorem createRow_ok (created : createRow directory row = .ok after) :
    directory.users.find? row.id = none ∧ Written directory after row ∧
      after.users.find? row.id = some row := by
  unfold createRow at created
  split at created
  · cases created
  rename_i users accepted
  cases created
  rcases IndexedTable.insert?_eq_some accepted with ⟨fresh, rows⟩
  apply And.intro fresh
  constructor
  · constructor
    case users =>
      intro other
      rw [rows, mem_append, mem_singleton, or_comm]
      apply or_congr_right
      constructor
      · intro member
        apply And.intro member
        intro same
        have stored := mem_find? member
        simp only [same] at stored
        rw [fresh] at stored
        cases stored
      · exact And.left
    case claims => rfl
  · rw [find?_eq_some_iff]
    exact ⟨by rw [rows]; simp, rfl⟩

theorem findLive_ok {userId : Int} (loaded : findLive directory userId = .ok row) :
    directory.users.find? userId = some row ∧ row.deleted = false := by
  unfold findLive at loaded
  split at loaded
  · cases loaded
  rename_i found
  split at loaded
  · cases loaded
  rename_i visible
  cases loaded
  exact ⟨found, by simpa using visible⟩

theorem findLive_error {userId : Int} (failed : findLive directory userId = .error cause)
    (found : directory.users.find? userId = some row) : row.deleted = true := by
  unfold findLive at failed
  rw [found] at failed
  by_cases gone : row.deleted = true
  · exact gone
  · simp [gone] at failed

theorem versionedRow_id (kept : ∀ row, (change row).id = row.id) (stored : Account) :
    (versionedRow change stored).id = stored.id := by
  unfold versionedRow
  split
  · rfl
  · exact kept _

theorem updateWithVersion_ok {userId : Int}
    (updated : updateWithVersion directory userId change = .ok after)
    (kept : ∀ row, (change row).id = row.id) :
    ∃ stored, directory.users.find? userId = some stored ∧
      Written directory after (versionedRow change stored) := by
  unfold updateWithVersion at updated
  split at updated
  · cases updated
  split at updated
  · cases updated
  rename_i stored found
  have same := (versionedRow_id kept stored).trans (find?_id found)
  exact ⟨stored, found, saveRow_ok same found updated⟩

theorem updateWithVersion_live {userId : Int}
    (updated : updateWithVersion directory userId change = .ok after)
    (loaded : findLive after userId = .ok row) (kept : ∀ row, (change row).id = row.id) :
    ∃ stored, directory.users.find? userId = some stored ∧ stored.deleted = false ∧
      Written directory after (change stored.advanced) := by
  rcases updateWithVersion_ok updated kept with ⟨stored, found, written⟩
  rcases findLive_ok loaded with ⟨present, visible⟩
  have owner := find?_id found
  by_cases gone : stored.deleted = true
  · -- A deleted account is not found again.
    have only := (written.users row).mp (find?_mem present).1
    simp only [versionedRow, gone, if_true] at only
    rcases only with rfl | ⟨-, different⟩
    · exact absurd (gone.symm.trans visible) (by decide)
    · exact absurd ((find?_id present).trans owner.symm) different
  · simp only [versionedRow, gone] at written
    exact ⟨stored, found, by simpa using gone, written⟩

theorem insertWithTx_ok {environment : Environment}
    (inserted : insertWithTx environment directory row = .ok after) :
    emailAvailable directory row.email 0 = true ∧
      directory.users.find? environment.id = none ∧
      Written directory after (preparedRow environment row) ∧
      after.users.find? environment.id = some (preparedRow environment row) := by
  unfold insertWithTx at inserted
  split at inserted
  · rename_i available
    exact ⟨available, createRow_ok inserted⟩
  · cases inserted

/-! Calls. -/

/-- The username a call stores when it commits; an empty one of `updateSelf` is not stored. -/
def Call.username? (directory : Directory) : Call → Option String
  | .register form | .createUser _ form | .updateUser _ form => some (trimSpace form.username)
  | .findOrCreateOAuthUser provider oauthUser => some (oauthUsername directory provider oauthUser)
  | .updateSelf _ form => if form.username = "" then none else some form.username
  | _ => none

def Call.email? : Call → Option String
  | .register form => some (normalizeEmail form.email)
  | .findOrCreateOAuthUser _ oauthUser => some (normalizeEmail oauthUser.email)
  | .bindEmail _ email _ => some (normalizeEmail email)
  | _ => none

/-- The account whose username or address a call changes; the others make a new one. -/
def Call.target? : Call → Option Int
  | .updateUser _ form => some form.id
  | .updateSelf userId _ | .bindEmail userId _ _ => some userId
  | _ => none

inductive Effect (environment : Environment) (before : Directory) : Call → Directory → Prop
  | refused {call : Call} : Effect environment before call before
  | created {call : Call} {row : Account} {after : Directory}
      (anew : call.target? = none)
      (username : call.username? before = some row.username)
      (email : row.email = "" ∨ call.email? = some row.email)
      (unbound : ∀ provider, row.identity provider = "")
      (live : row.deleted = false)
      (available : emailAvailable before row.email 0 = true)
      (fresh : before.users.find? environment.id = none)
      (written : Written before after (preparedRow environment row)) :
      Effect environment before call after
  | registered {provider : OAuthProvider} {oauthUser : OAuthUser} {builtIn : Provider}
      {claims : Claims} {after : Directory}
      (known : provider.builtIn? = some builtIn)
      (available : emailAvailable before (oauthRow before provider oauthUser).email 0 = true)
      (fresh : before.users.find? environment.id = none)
      (claimed : replaceExternalIdentityWithTx before.claims builtIn oauthUser.providerUserId
        environment.id = .ok claims)
      (written : Written { before with claims } after
        ((preparedRow environment (oauthRow before provider oauthUser)).withIdentity
          oauthUser.providerUserId builtIn)) :
      Effect environment before (.findOrCreateOAuthUser provider oauthUser) after
  | identified {call : Call} {stored base : Account} {provider : Provider} {subject : String}
      {claims : Claims} {after : Directory}
      (found : before.users.find? stored.id = some stored)
      (live : stored.deleted = false)
      (kept : base = stored ∨ base = stored.advanced)
      (trimmed : trimSpace subject = subject)
      (claimed : replaceExternalIdentityWithTx before.claims provider subject stored.id =
        .ok claims)
      (written : Written { before with claims } after (base.withIdentity subject provider)) :
      Effect environment before call after
  -- `UpdateGitHubId` for an account that is gone.
  | orphaned {userId : Int} {newGitHubId : String} {claims : Claims}
      (absent : ∀ row, before.users.find? userId = some row → row.deleted = true) :
      Effect environment before (.updateGitHubId userId newGitHubId) { before with claims }
  | renamed {call : Call} {stored row : Account} {after : Directory}
      (found : before.users.find? stored.id = some stored)
      (live : stored.deleted = false)
      (same : row.id = stored.id)
      (alive : row.deleted = false)
      (identities : SameIdentities row stored)
      (email : row.email = stored.email)
      (username : row.username = stored.username ∨
        (call.username? before = some row.username ∧ call.target? = some stored.id))
      (written : Written before after row) : Effect environment before call after
  | addressed {userId : Int} {email token : String} {stored : Account} {after : Directory}
      (found : before.users.find? userId = some stored)
      (live : stored.deleted = false)
      (positive : 0 < userId)
      (available : emailAvailable before email userId = true)
      (written : Written before after (stored.advanced.withEmail (normalizeEmail email))) :
      Effect environment before (.bindEmail userId email token) after
  | clearedEmail {userId : Int} {bindingType : String} {stored : Account} {after : Directory}
      (found : before.users.find? userId = some stored)
      (written : Written before after (versionedRow (fun row => row.withEmail "") stored)) :
      Effect environment before (.clearBinding userId bindingType) after
  | clearedIdentity {userId : Int} {bindingType : String} {provider : Provider} {stored : Account}
      {after : Directory}
      (found : before.users.find? userId = some stored)
      (written : Written
        { before with claims := releaseExternalIdentityWithTx before.claims provider userId } after
        (versionedRow (fun row => row.withIdentity "" provider) stored)) :
      Effect environment before (.clearBinding userId bindingType) after
  | deleted {userId : Int} {stored : Account} {after : Directory}
      (found : before.users.find? userId = some stored)
      (written : Written (deleteUserAuthenticationData before userId) after
        (versionedRow Account.removed stored)) :
      Effect environment before (.delete userId) after
  | hardDeleted {userId : Int} {after : Directory}
      (users : ∀ row, row ∈ after.users.rows ↔ row ∈ before.users.rows ∧ row.id ≠ userId)
      (claims : after.claims = releaseAllExternalIdentitiesWithTx before.claims userId) :
      Effect environment before (.hardDelete userId) after
  | imported {claims : Claims}
      (imported : importIdentities before.claims (boundIdentities before.users) = .ok claims) :
      Effect environment before .initializeExternalIdentityClaims { before with claims }

variable {before : Directory}
variable {environment : Environment} {providerId userId : Int}

theorem effect_committed {result : Except String Directory}
    (each : ∀ after, result = .ok after → Effect environment before call after) :
    Effect environment before call (committed before result) := by
  cases result with
  | error cause => exact .refused
  | ok after => exact each after rfl

theorem register_effect (done : register environment before form = .ok after) :
    Effect environment before (.register form) after := by
  unfold register at done
  split at done
  · cases done
  split at done
  · cases done
  unfold registerForm at done
  simp only at done
  -- Every refusal of the form comes before the insert.
  iterate 7
    split at done
    · cases done
  rename_i inserted
  cases done
  rcases insertWithTx_ok inserted with ⟨available, fresh, written, -⟩
  apply Effect.created _ _ _ _ _ available fresh written
  · rfl
  · rfl
  · exact .inr rfl
  · exact identity_unbound _
  · rfl

theorem createUser_effect (done : createUser environment before myRole form = .ok after) :
    Effect environment before (.createUser myRole form) after := by
  unfold createUser createForm at done
  iterate 3
    split at done
    · cases done
  rcases insertWithTx_ok done with ⟨available, fresh, written, -⟩
  apply Effect.created _ _ _ _ _ available fresh written
  · rfl
  · rfl
  · exact .inl rfl
  · exact identity_unbound _
  · rfl

theorem registerBuiltIn_ok {builtIn : Provider}
    (done : registerBuiltIn environment before builtIn subject row = .ok after) :
    ∃ claims, emailAvailable before row.email 0 = true ∧
      before.users.find? environment.id = none ∧
      replaceExternalIdentityWithTx before.claims builtIn subject environment.id = .ok claims ∧
      Written { before with claims } after
        ((preparedRow environment row).withIdentity subject builtIn) := by
  rcases bind_ok done with ⟨inserted, insertion, rest⟩
  rcases bind_ok rest with ⟨claims, claimed, saved⟩
  rcases insertWithTx_ok insertion with ⟨available, fresh, written, present⟩
  rw [written.claims] at claimed
  apply Exists.intro claims
  refine ⟨available, fresh, claimed, ?_⟩
  have stored : ({ inserted with claims } : Directory).users.find? environment.id = _ := present
  have final := saveRow_ok (withIdentity_id _ _) stored saved
  constructor
  case users =>
    intro other
    rw [final.users, toUser_withIdentity]
    constructor
    · rintro (rfl | ⟨member, different⟩)
      · exact .inl rfl
      · rcases (written.users other).mp member with rfl | ⟨old, -⟩
        · exact absurd rfl different
        · exact .inr ⟨old, different⟩
    · rintro (rfl | ⟨member, different⟩)
      · exact .inl rfl
      · exact .inr ⟨(written.users other).mpr (.inr ⟨member, different⟩), different⟩
  case claims => exact final.claims

theorem registerGeneric_ok
    (done : registerGeneric environment before providerId subject row = .ok after) :
    emailAvailable before row.email 0 = true ∧ before.users.find? environment.id = none ∧
      Written before after (preparedRow environment row) := by
  rcases bind_ok done with ⟨inserted, insertion, rest⟩
  rcases insertWithTx_ok insertion with ⟨available, fresh, written, -⟩
  iterate 4
    split at rest
    · cases rest
  cases rest
  exact ⟨available, fresh, written.users, written.claims⟩

theorem createOAuthUser_effect {oauthUser : OAuthUser} {provider : OAuthProvider}
    (done : createOAuthUser environment before provider oauthUser = .ok after) :
    Effect environment before (.findOrCreateOAuthUser provider oauthUser) after := by
  cases known : provider.builtIn? with
  | some builtIn =>
    have shape : registerBuiltIn environment before builtIn oauthUser.providerUserId
        (oauthRow before provider oauthUser) = .ok after := by
      cases provider <;> cases known <;> exact done
    rcases registerBuiltIn_ok shape with ⟨claims, available, fresh, claimed, written⟩
    exact .registered known available fresh claimed written
  | none =>
    cases provider with
    | generic id name slug =>
      rcases registerGeneric_ok done with ⟨available, fresh, written⟩
      apply Effect.created _ _ _ _ _ available fresh written
      · rfl
      · rfl
      · exact .inr rfl
      · exact identity_unbound _
      · rfl
    | _ => cases known

theorem updateGitHubId_ok (done : updateGitHubId before userId newGitHubId = .ok after) :
    ∃ claims, replaceExternalIdentityWithTx before.claims .github (trimSpace newGitHubId) userId =
        .ok claims ∧
      ((∃ row, findLive before userId = .ok row ∧ Written { before with claims } after
          (row.withIdentity (trimSpace newGitHubId) .github)) ∨
        ((∀ row, before.users.find? userId = some row → row.deleted = true) ∧
          after = { before with claims })) := by
  unfold updateGitHubId at done
  iterate 3
    split at done
    · cases done
  rename_i claims claimed
  apply Exists.intro claims
  apply And.intro claimed
  split at done
  · rename_i failed
    cases done
    exact .inr ⟨fun row found => findLive_error failed found, rfl⟩
  · rename_i row loaded
    have found := (findLive_ok loaded).1
    have same := (withIdentity_id (trimSpace newGitHubId) .github).trans (find?_id found)
    exact .inl ⟨row, loaded, saveRow_ok same found done⟩

theorem updateGitHubId_effect (found : before.users.find? row.id = some row)
    (live : row.deleted = false) (done : updateGitHubId before row.id newGitHubId = .ok after) :
    Effect environment before call after := by
  rcases updateGitHubId_ok done with ⟨claims, claimed, ⟨stored, loaded, written⟩ | ⟨absent, -⟩⟩
  · rcases findLive_ok loaded with ⟨present, -⟩
    rw [found] at present
    cases present
    exact .identified found live (.inl rfl) (trimSpace_trimSpace _) claimed written
  · exact absurd ((absent row found).symm.trans live) (by decide)

theorem updateGitHubId_call (done : updateGitHubId before userId newGitHubId = .ok after) :
    Effect environment before (.updateGitHubId userId newGitHubId) after := by
  cases loaded : findLive before userId with
  | ok row =>
    rcases findLive_ok loaded with ⟨found, live⟩
    have owner := find?_id found
    subst owner
    exact updateGitHubId_effect found live done
  | error cause =>
    rcases updateGitHubId_ok done with ⟨claims, -, ⟨row, found, -⟩ | ⟨absent, rfl⟩⟩
    · rw [loaded] at found
      cases found
    · exact .orphaned absent

theorem foldl_earlier_mem (rest : List Account) (head : Account) :
    rest.foldl earlier head ∈ head :: rest := by
  induction rest generalizing head with
  | nil => exact mem_singleton_self head
  | cons next rest ih =>
    have member := ih (earlier head next)
    rw [foldl_cons]
    rcases mem_cons.mp member with same | later
    · rw [same]
      unfold earlier
      split <;> simp
    · exact mem_cons_of_mem head (mem_cons_of_mem next later)

theorem first?_some {selected : Account → Bool} (found : first? before selected = some row) :
    row ∈ before.users.rows ∧ selected row = true := by
  unfold first? at found
  split at found
  · cases found
  rename_i head rest chosen
  cases found
  have member := foldl_earlier_mem rest head
  rw [← chosen, mem_filter] at member
  exact member

theorem find?_of_mem (member : row ∈ before.users.rows) : before.users.find? row.id = some row := by
  have stored := mem_find? member
  exact stored

theorem liveHolder_some {provider : Provider}
    (found : liveHolder before provider subject = some row) :
    before.users.find? row.id = some row ∧ row.deleted = false := by
  rcases first?_some found with ⟨member, selected⟩
  simp only [Bool.and_eq_true, Bool.not_eq_true'] at selected
  exact ⟨find?_of_mem member, selected.1⟩

theorem fillUserByProviderId_some {provider : OAuthProvider}
    (filled : fillUserByProviderId before provider subject = .ok (some row)) :
    before.users.find? row.id = some row ∧ row.deleted = false := by
  unfold fillUserByProviderId at filled
  split at filled
  case h_4 =>
    split at filled
    · cases filled
    split at filled
    · cases filled
    rename_i found
    cases filled
    exact liveHolder_some found
  case h_5 =>
    split at filled
    · cases filled
    rename_i binding _
    cases loaded : findLive before binding.userId with
    | error cause =>
      rw [loaded] at filled
      cases filled
    | ok stored =>
      rw [loaded] at filled
      cases filled
      rcases findLive_ok loaded with ⟨found, live⟩
      rw [find?_id found]
      exact ⟨found, live⟩
  all_goals
    split at filled
    · cases filled
    · exact liveHolder_some (Except.ok.inj filled)

theorem findOrCreateOAuthUser_effect (provider : OAuthProvider) (oauthUser : OAuthUser) :
    Effect environment before (.findOrCreateOAuthUser provider oauthUser)
      (findOrCreateOAuthUser environment before provider oauthUser).1 := by
  unfold findOrCreateOAuthUser
  split
  · split <;> exact .refused
  split
  · exact .refused
  · rename_i row legacy
    have stored : before.users.find? row.id = some row ∧ row.deleted = false := by
      unfold legacyHolder at legacy
      split at legacy
      · exact fillUserByProviderId_some legacy
      · cases legacy
    split
    · exact .refused
    rename_i migrated
    exact updateGitHubId_effect stored.1 stored.2 migrated
  · unfold registerOAuthUser
    split
    · exact .refused
    split
    · exact .refused
    split
    · rename_i made
      exact createOAuthUser_effect made
    · split <;> exact .refused

theorem editWithTx_ok {request : EditRequest} (done : editWithTx before request = .ok after) :
    ∃ stored, before.users.find? request.id = some stored ∧ stored.deleted = false ∧
      Written before after { stored with toUser := editedRow stored.toUser request } := by
  unfold editWithTx at done
  split at done
  · cases done
  rename_i stored loaded
  split at done
  · cases done
  rcases findLive_ok loaded with ⟨found, live⟩
  have owner := find?_id found
  exact ⟨stored, found, live, saveRow_ok owner found done⟩

theorem updateUser_effect (done : updateUser environment before myRole form = .ok after) :
    Effect environment before (.updateUser myRole form) after := by
  unfold updateUser updateForm at done
  iterate 5
    split at done
    · cases done
  rcases editWithTx_ok done with ⟨stored, found, live, written⟩
  have owner := find?_id found
  rw [← owner] at found
  apply Effect.renamed found live _ _ _ _ _ written
  · rfl
  · exact live
  · exact identity_toUser stored _
  · rfl
  · exact .inr ⟨rfl, congrArg some owner.symm⟩

theorem updateWithTx_ok {user : Account} {hash : Option String}
    (done : updateWithTx before user hash = .ok after) :
    ∃ stored, before.users.find? user.id = some stored ∧ stored.deleted = false ∧
      Written before after (updatedAccount stored user hash) := by
  unfold updateWithTx at done
  split at done
  · cases done
  rename_i stored loaded
  split at done
  · cases done
  rcases findLive_ok loaded with ⟨found, live⟩
  have owner := find?_id found
  exact ⟨stored, found, live, saveRow_ok owner found done⟩

theorem updateSelf_effect (done : updateSelf environment before userId form = .ok after) :
    Effect environment before (.updateSelf userId form) after := by
  unfold updateSelf at done
  split at done
  · cases done
  split at done
  · cases done
  rename_i hash _
  rcases updateWithTx_ok done with ⟨stored, found, live, written⟩
  have owner : stored.id = userId := find?_id found
  have named : (updatedAccount stored (selfRow userId form) hash).username =
      textOr form.username stored.username := by
    cases hash <;> rfl
  apply Effect.renamed (find?_of_mem (find?_mem found).1) live _ _ _ _ _ written
  · rfl
  · exact live
  · intro provider
    cases provider <;> rfl
  · cases hash <;> rfl
  · rw [named, textOr]
    by_cases blank : form.username = ""
    · exact .inl (if_pos blank)
    · rw [if_neg blank, owner]
      exact .inr ⟨if_neg blank, rfl⟩

theorem bindEmail_effect {email : String}
    (done : bindEmailToUserWithVerification environment before userId email token = .ok after) :
    Effect environment before (.bindEmail userId email token) after := by
  unfold bindEmailToUserWithVerification at done
  split at done
  · cases done
  rename_i positive
  split at done
  · cases done
  split at done
  · cases done
  rename_i available
  rcases bind_ok done with ⟨middle, updated, rest⟩
  rcases bind_ok rest with ⟨row, loaded, last⟩
  cases last
  rcases updateWithVersion_live updated loaded (fun row => withEmail_id row) with
    ⟨stored, found, live, written⟩
  rw [Bool.not_eq_true, Bool.not_eq_false'] at available
  exact .addressed found live (not_le.mp positive) available written

theorem bindIdentity_effect {provider : String}
    (done : bindBuiltInExternalIdentityWithAuthVersion before userId provider subject = .ok after) :
    Effect environment before (.bindIdentity userId provider subject) after := by
  unfold bindBuiltInExternalIdentityWithAuthVersion at done
  split at done
  · cases done
  rename_i builtIn _
  split at done
  · cases done
  rcases bind_ok done with ⟨claims, claimed, rest⟩
  rcases bind_ok rest with ⟨middle, updated, last⟩
  rcases bind_ok last with ⟨row, loaded, same⟩
  cases same
  rcases updateWithVersion_live updated loaded (fun row => withIdentity_id _ _) with
    ⟨stored, found, live, written⟩
  have owner := find?_id found
  rw [← owner] at found claimed
  exact .identified found live (.inr rfl) (trimSpace_trimSpace _) claimed written

theorem clearBinding_effect (done : clearBinding before userId bindingType = .ok after) :
    Effect environment before (.clearBinding userId bindingType) after := by
  unfold clearBinding at done
  split at done
  · cases done
  split at done
  · rcases updateWithVersion_ok done (fun _ => rfl) with ⟨stored, found, written⟩
    exact .clearedEmail found written
  · split at done
    · cases done
    rename_i provider _
    rcases updateWithVersion_ok done (fun row => withIdentity_id _ _) with
      ⟨stored, found, written⟩
    exact .clearedIdentity found written

theorem delete_effect (done : delete before userId = .ok after) :
    Effect environment before (.delete userId) after := by
  unfold delete at done
  split at done
  · cases done
  rcases updateWithVersion_ok done (fun _ => rfl) with ⟨stored, found, written⟩
  exact .deleted found written

theorem hardDelete_effect (done : hardDelete before userId = .ok after) :
    Effect environment before (.hardDelete userId) after := by
  unfold hardDelete at done
  split at done
  · cases done
  split at done
  · cases done
  rename_i middle updated
  cases done
  rcases updateWithVersion_ok updated (fun _ => rfl) with ⟨stored, found, written⟩
  have owner := find?_id found
  have same : (versionedRow id stored).id = userId :=
    (versionedRow_id (fun _ => rfl) stored).trans owner
  apply Effect.hardDeleted
  · intro row
    rw [IndexedTable.remove, mem_remove, decide_eq_false_iff_not, written.users, same]
    constructor
    · rintro ⟨rfl | ⟨member, -⟩, different⟩
      · exact absurd same different
      · exact ⟨member, different⟩
    · rintro ⟨member, different⟩
      exact ⟨.inr ⟨member, different⟩, different⟩
  · exact written.claims

theorem initialize_effect (done : initializeExternalIdentityClaims before = .ok after) :
    Effect environment before .initializeExternalIdentityClaims after := by
  unfold initializeExternalIdentityClaims at done
  split at done
  · cases done
  rename_i claims imported
  cases done
  exact .imported imported

theorem perform_effect (directory : Directory) (entry : Environment × Call) :
    Effect entry.1 directory entry.2 (perform directory entry) := by
  rcases entry with ⟨environment, call⟩
  cases call <;> simp only [perform]
  case findOrCreateOAuthUser => apply findOrCreateOAuthUser_effect
  all_goals
    apply effect_committed
    intro after done
  case register => exact register_effect done
  case createUser => exact createUser_effect done
  case updateUser => exact updateUser_effect done
  case updateSelf => exact updateSelf_effect done
  case bindEmail => exact bindEmail_effect done
  case bindIdentity => exact bindIdentity_effect done
  case updateGitHubId => exact updateGitHubId_call done
  case clearBinding => exact clearBinding_effect done
  case delete => exact delete_effect done
  case hardDelete => exact hardDelete_effect done
  case initializeExternalIdentityClaims => exact initialize_effect done

end NewApi.Accounts
