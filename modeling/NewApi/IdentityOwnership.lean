import NewApi.AccountEffects

/-!
Who owns an external identity. Ownership is stored twice: in a claim, and in an identity
column of the account. The claims and the columns of the accounts that are not deleted
say the same, and importing the columns again, as every start-up does, finds nothing to
do, as long as only accounts without identities are deleted: deletion releases the claims
of an account and leaves its columns behind for the next start-up.
-/

namespace NewApi.IdentityOwnership

open Accounts Runs Table

structure Consistent (directory : Directory) : Prop where
  claimed : ∀ provider subject userId,
    (⟨provider, subject, userId⟩ : ExternalIdentityClaim) ∈ directory.claims.rows ↔
      subject ≠ "" ∧ ∃ row ∈ directory.users.rows,
        row.id = userId ∧ row.deleted = false ∧ row.identity provider = subject
  single : ∀ provider, ∀ row ∈ directory.users.rows, ∀ other ∈ directory.users.rows,
    row.deleted = false → other.deleted = false → row.identity provider ≠ "" →
      row.identity provider = other.identity provider → row = other
  restarts : (initializeExternalIdentityClaims directory).map (fun after => after.claims.rows) =
    .ok directory.claims.rows

/-- What keeps the two records together: an account is deleted when no identity is bound to it,
a GitHub migration finds its account, and a built-in provider sends identifiers without
surrounding blanks. -/
def Tidy (directory : Directory) (entry : Environment × Call) : Prop :=
  match entry.2 with
  | .findOrCreateOAuthUser provider oauthUser =>
    provider.builtIn? ≠ none → trimSpace oauthUser.providerUserId = oauthUser.providerUserId
  | .updateGitHubId userId _ =>
    ∃ row ∈ directory.users.rows, row.id = userId ∧ row.deleted = false
  | .delete userId =>
    ∀ row ∈ directory.users.rows, row.id = userId → row.deleted = false →
      ∀ provider ∈ builtInExternalIdentityProviders, row.identity provider = ""
  | _ => True

instance (directory : Directory) (entry : Environment × Call) :
    Decidable (Tidy directory entry) := by
  unfold Tidy
  split <;> infer_instance

/-- Start-up finds nothing to claim for this column. -/
def Imported (claims : Claims) (entry : ExternalIdentityClaim) : Prop :=
  trimSpace entry.subject = "" ∨
    (validClaim (trimSpace entry.subject) entry.userId = true ∧
      (⟨entry.provider, trimSpace entry.subject, entry.userId⟩ : ExternalIdentityClaim) ∈
        claims.rows)

structure RowSound (claims : Claims) (row : Account) : Prop where
  owned : ∀ provider subject,
    (⟨provider, subject, row.id⟩ : ExternalIdentityClaim) ∈ claims.rows ↔
      subject ≠ "" ∧ row.deleted = false ∧ row.identity provider = subject
  imported : ∀ provider, Imported claims ⟨provider, row.identity provider, row.id⟩

structure Sound (directory : Directory) : Prop where
  rows : ∀ row ∈ directory.users.rows, RowSound directory.claims row
  owners : ∀ claim ∈ directory.claims.rows, ∃ row ∈ directory.users.rows, row.id = claim.userId

theorem trimSpace_empty : trimSpace "" = "" := by simp [trimSpace]

variable {other row stored base : Account} {after claims : Claims} {provider : Provider}
  {subject : String} {entries : List ExternalIdentityClaim} {directory before : Directory}
  {userId : Int}

theorem RowSound.congr (sound : RowSound claims row) (same : other.id = row.id)
    (deleted : other.deleted = row.deleted) (identities : SameIdentities other row)
    (kept : ∀ claim : ExternalIdentityClaim, claim.userId = row.id →
      (claim ∈ after.rows ↔ claim ∈ claims.rows)) : RowSound after other := by
  constructor
  case owned =>
    intro provider subject
    rw [same, deleted, identities provider, kept _ rfl]
    exact sound.owned provider subject
  case imported =>
    intro provider
    rw [same, identities provider]
    rcases sound.imported provider with blank | ⟨valid, member⟩
    · exact .inl blank
    · exact .inr ⟨valid, (kept _ rfl).mpr member⟩

theorem rowSound_unbound (unbound : ∀ provider, row.identity provider = "")
    (unclaimed : ∀ claim ∈ claims.rows, claim.userId ≠ row.id) : RowSound claims row := by
  constructor
  case owned =>
    intro provider subject
    constructor
    · intro member
      exact absurd rfl (unclaimed _ member)
    · rintro ⟨nonempty, -, same⟩
      exact absurd (same.symm.trans (unbound provider)) nonempty
  case imported =>
    intro provider
    rw [unbound provider]
    exact .inl trimSpace_empty

section

variable (sound : RowSound claims row)

include sound

/-- A column and its claim are written, the other claims of the user stay. -/
theorem RowSound.withIdentity
    (own : ∀ text, (⟨provider, text, row.id⟩ : ExternalIdentityClaim) ∈ after.rows ↔
      text ≠ "" ∧ row.deleted = false ∧ subject = text)
    (imported : Imported after ⟨provider, subject, row.id⟩)
    (others : ∀ claim : ExternalIdentityClaim, claim.provider ≠ provider →
      (claim ∈ after.rows ↔ claim ∈ claims.rows)) :
    RowSound after (row.withIdentity subject provider) := by
  constructor
  case owned =>
    intro other text
    rw [toUser_withIdentity]
    by_cases here : other = provider
    · subst here
      rw [identity_withIdentity_self]
      exact own text
    · rw [identity_withIdentity_other row subject here, others _ here]
      exact sound.owned other text
  case imported =>
    intro other
    rw [toUser_withIdentity]
    by_cases here : other = provider
    · subst here
      rw [identity_withIdentity_self]
      exact imported
    · rw [identity_withIdentity_other row subject here]
      exact (sound.imported other).imp_right fun ⟨valid, member⟩ =>
        ⟨valid, (others _ here).mpr member⟩

theorem RowSound.replaced (live : row.deleted = false) (trimmed : trimSpace subject = subject)
    (replaced : replaceExternalIdentityWithTx claims provider subject row.id = .ok after) :
    RowSound after (row.withIdentity subject provider) := by
  rcases replaceExternalIdentityWithTx_ok replaced with ⟨valid, members⟩
  rw [trimmed] at valid members
  apply sound.withIdentity
  · intro text
    rw [members]
    constructor
    · rintro (same | ⟨-, elsewhere⟩)
      · cases same
        refine ⟨?_, live, rfl⟩
        rintro rfl
        simp [validClaim] at valid
      · exact absurd ⟨rfl, rfl⟩ elsewhere
    · rintro ⟨-, -, rfl⟩
      exact .inl rfl
  · apply Or.inr
    simp only [trimmed]
    exact ⟨valid, (members _).mpr (.inl rfl)⟩
  · intro claim different
    rw [members]
    constructor
    · rintro (rfl | ⟨member, -⟩)
      · exact absurd rfl different
      · exact member
    · exact fun member => .inr ⟨member, fun slot => different slot.1⟩

theorem RowSound.blank (gone : row.deleted = true) (provider : Provider) :
    trimSpace (row.identity provider) = "" := by
  rcases sound.imported provider with blank | ⟨-, member⟩
  · exact blank
  · have live := ((sound.owned _ _).mp member).2.1
    rw [gone] at live
    cases live

theorem RowSound.cleared (provider : Provider) :
    RowSound (releaseExternalIdentityWithTx claims provider row.id)
      (row.withIdentity "" provider) := by
  apply sound.withIdentity
  · intro text
    rw [mem_releaseExternalIdentity]
    constructor
    · rintro ⟨-, elsewhere⟩
      exact absurd ⟨rfl, rfl⟩ elsewhere
    · rintro ⟨nonempty, -, rfl⟩
      exact absurd rfl nonempty
  · exact .inl trimSpace_empty
  · intro claim different
    rw [mem_releaseExternalIdentity]
    exact ⟨And.left, fun member => ⟨member, fun slot => different slot.1⟩⟩

end

theorem rowSound_deleted (row : Account) (gone : row.deleted = true)
    (blank : ∀ provider, trimSpace (row.identity provider) = "") :
    RowSound (releaseAllExternalIdentitiesWithTx claims row.id) row := by
  constructor
  case owned =>
    intro provider subject
    rw [mem_releaseAllExternalIdentities, gone]
    constructor
    · rintro ⟨-, different⟩
      exact absurd rfl different
    · rintro ⟨-, live, -⟩
      cases live
  case imported =>
    intro provider
    exact .inl (blank provider)

theorem importIdentities_owned (all : ∀ entry ∈ entries, Imported claims entry) :
    importIdentities claims entries = .ok claims := by
  induction entries with
  | nil => rfl
  | cons entry rest ih =>
    rw [List.forall_mem_cons] at all
    rw [importIdentities]
    rcases all.1 with blank | ⟨valid, member⟩
    · rw [if_pos blank]
      exact ih all.2
    · have again : claimExternalIdentityWithTx claims entry.provider entry.subject entry.userId =
          .ok claims := by
        rw [claimExternalIdentityWithTx, if_pos valid]
        exact claimTrimmed_owned member
      rw [again]
      split
      · exact ih all.2
      · exact ih all.2

theorem importIdentities_ok (done : importIdentities claims entries = .ok after) :
    (∀ claim ∈ claims.rows, claim ∈ after.rows) ∧
      ∀ entry ∈ entries, Imported after entry := by
  induction entries generalizing claims with
  | nil =>
    cases done
    exact ⟨fun _ => id, by simp⟩
  | cons entry rest ih =>
    rw [importIdentities] at done
    rw [List.forall_mem_cons]
    split at done
    · rename_i blank
      exact ⟨(ih done).1, .inl blank, (ih done).2⟩
    · split at done
      · cases done
      rename_i middle claimed
      rcases claimExternalIdentityWithTx_ok claimed with ⟨valid, members⟩
      rcases ih done with ⟨kept, others⟩
      constructor
      · intro claim member
        exact kept claim ((members claim).mpr (.inl member))
      · exact ⟨.inr ⟨valid, kept _ ((members _).mpr (.inr rfl))⟩, others⟩

theorem mem_builtIn (provider : Provider) : provider ∈ builtInExternalIdentityProviders := by
  cases provider <;> decide

theorem Sound.imports (sound : Sound directory) :
    importIdentities directory.claims (boundIdentities directory.users) =
      .ok directory.claims := by
  apply importIdentities_owned
  intro entry listed
  rcases List.mem_flatMap.mp listed with ⟨row, member, listing⟩
  rcases List.mem_map.mp listing with ⟨provider, -, rfl⟩
  exact (sound.rows row member).imported provider

theorem Sound.consistent (sound : Sound directory) : Consistent directory := by
  constructor
  case claimed =>
    intro provider subject userId
    constructor
    · intro claim
      rcases sound.owners _ claim with ⟨row, member, owner⟩
      subst owner
      rcases ((sound.rows row member).owned provider subject).mp claim with
        ⟨nonempty, live, same⟩
      exact ⟨nonempty, row, member, rfl, live, same⟩
    · rintro ⟨nonempty, row, member, rfl, live, same⟩
      exact ((sound.rows row member).owned provider subject).mpr ⟨nonempty, live, same⟩
  case single =>
    -- The claims of two holders would share the unique subject.
    intro provider row member other present live alive nonempty same
    have first := ((sound.rows row member).owned provider _).mpr ⟨nonempty, live, rfl⟩
    have second := ((sound.rows other present).owned provider _).mpr ⟨nonempty, alive, same.symm⟩
    have one := eq_of_key first second rfl
    have owner : row.id = other.id := congrArg ExternalIdentityClaim.userId one
    exact eq_of_key member present owner
  case restarts =>
    rw [initializeExternalIdentityClaims, sound.imports]
    rfl

theorem Consistent.sound (consistent : Consistent directory) : Sound directory := by
  have unchanged := consistent.restarts
  unfold initializeExternalIdentityClaims at unchanged
  split at unchanged
  · cases unchanged
  rename_i claims done
  have same : claims.rows = directory.claims.rows := Except.ok.inj unchanged
  constructor
  case rows =>
    intro row member
    constructor
    case owned =>
      intro provider subject
      rw [consistent.claimed]
      apply and_congr_right
      intro _
      constructor
      · rintro ⟨other, present, owner, live, bound⟩
        have one : other = row := eq_of_key present member owner
        rw [← one]
        exact ⟨live, bound⟩
      · rintro ⟨live, bound⟩
        exact ⟨row, member, rfl, live, bound⟩
    case imported =>
      intro provider
      have listed := (importIdentities_ok done).2 ⟨provider, row.identity provider, row.id⟩
        (List.mem_flatMap.mpr ⟨row, member, List.mem_map.mpr ⟨provider, mem_builtIn provider, rfl⟩⟩)
      unfold Imported at listed ⊢
      rwa [same] at listed
  case owners =>
    rintro ⟨provider, subject, userId⟩ claim
    rcases ((consistent.claimed provider subject userId).mp claim).2 with
      ⟨row, member, owner, -⟩
    exact ⟨row, member, owner⟩

/-! Calls. -/

theorem Sound.written {after : Directory} (sound : Sound before)
    (users : Stored before after row)
    (claims : ∀ claim : ExternalIdentityClaim, claim.userId ≠ row.id →
      (claim ∈ after.claims.rows ↔ claim ∈ before.claims.rows)) (own : RowSound after.claims row) :
    Sound after := by
  constructor
  case rows =>
    intro other member
    rcases (users other).mp member with rfl | ⟨old, different⟩
    · exact own
    · apply (sound.rows other old).congr rfl rfl fun _ => rfl
      intro claim owner
      exact claims claim (owner ▸ different)
  case owners =>
    intro claim member
    by_cases here : claim.userId = row.id
    · exact ⟨row, (users row).mpr (.inl rfl), here.symm⟩
    · rcases sound.owners claim ((claims claim here).mp member) with ⟨other, old, owner⟩
      exact ⟨other, (users other).mpr (.inr ⟨old, fun same => here (owner.symm.trans same)⟩), owner⟩

theorem Sound.unclaimed (sound : Sound directory) (fresh : directory.users.find? userId = none)
    (claim : ExternalIdentityClaim) (member : claim ∈ directory.claims.rows) :
    claim.userId ≠ userId := by
  rintro rfl
  rcases sound.owners claim member with ⟨row, present, owner⟩
  rw [← owner, find?_of_mem present] at fresh
  cases fresh

theorem replaced_others
    (replaced : replaceExternalIdentityWithTx claims provider subject userId = .ok after)
    (claim : ExternalIdentityClaim) (other : claim.userId ≠ userId) :
    claim ∈ after.rows ↔ claim ∈ claims.rows := by
  rw [(replaceExternalIdentityWithTx_ok replaced).2]
  constructor
  · rintro (rfl | ⟨member, -⟩)
    · exact absurd rfl other
    · exact member
  · intro member
    exact .inr ⟨member, fun slot => other slot.2⟩

theorem sameIdentities_withEmail (row : Account) (email : String) :
    SameIdentities (row.withEmail email) row := by
  intro provider
  cases provider <;> rfl

theorem Sound.rewritten {after : Directory} (sound : Sound before)
    (found : before.users.find? userId = some stored) (written : Written before after row)
    (same : row.id = stored.id) (deleted : row.deleted = stored.deleted)
    (identities : SameIdentities row stored) : Sound after := by
  apply sound.written written.users
  · intro claim _
    rw [written.claims]
  · apply (sound.rows stored (find?_mem found).1).congr same deleted identities
    intro claim _
    rw [written.claims]

theorem Sound.identified {after : Directory} (sound : Sound before)
    (own : RowSound before.claims base) (live : base.deleted = false)
    (trimmed : trimSpace subject = subject)
    (claimed : replaceExternalIdentityWithTx before.claims provider subject base.id = .ok claims)
    (written : Written { before with claims } after (base.withIdentity subject provider)) :
    Sound after := by
  apply sound.written written.users
  · intro claim other
    rw [written.claims]
    rw [toUser_withIdentity] at other
    exact replaced_others claimed claim other
  · rw [written.claims]
    exact own.replaced live trimmed claimed

section

variable (sound : RowSound claims row)

include sound

theorem RowSound.advanced : RowSound claims row.advanced :=
  sound.congr rfl rfl (sameIdentities_advanced row) fun _ _ => Iff.rfl

theorem RowSound.clearedVersion (provider : Provider) :
    RowSound (releaseExternalIdentityWithTx claims provider row.id)
      (versionedRow (fun row => row.withIdentity "" provider) row) := by
  by_cases gone : row.deleted = true
  · rw [versionedRow, if_pos gone]
    apply sound.advanced.congr rfl rfl fun _ => rfl
    -- There is no claim to release.
    intro claim owner
    rw [mem_releaseExternalIdentity]
    constructor
    · exact And.left
    · rcases claim with ⟨held, subject, userId⟩
      subst owner
      intro member
      have live := ((sound.owned held subject).mp member).2.1
      rw [gone] at live
      cases live
  · rw [versionedRow, if_neg gone]
    exact sound.advanced.cleared provider

theorem rowSound_removed (empty : row.deleted = false → ∀ provider, row.identity provider = "") :
    RowSound (releaseAllExternalIdentitiesWithTx claims row.id)
      (versionedRow Account.removed row) := by
  by_cases gone : row.deleted = true
  · rw [versionedRow, if_pos gone]
    apply rowSound_deleted row.advanced gone
    intro provider
    exact sound.blank gone provider
  · rw [versionedRow, if_neg gone]
    apply rowSound_deleted row.advanced.removed rfl
    intro provider
    have blank := empty (by simpa using gone) provider
    have same : row.advanced.removed.identity provider = row.identity provider := by
      cases provider <;> rfl
    rw [same, blank]
    exact trimSpace_empty

end

section Calls

variable {after : Directory} (sound : Sound before)

include sound

theorem Sound.created (written : Written before after row)
    (unbound : ∀ provider, row.identity provider = "") (fresh : before.users.find? row.id = none) :
    Sound after := by
  apply sound.written written.users
  · intro claim _
    rw [written.claims]
  · rw [written.claims]
    exact rowSound_unbound unbound (sound.unclaimed fresh)

theorem Sound.clearedIdentity (found : before.users.find? stored.id = some stored)
    (written : Written
      { before with claims := releaseExternalIdentityWithTx before.claims provider stored.id } after
      (versionedRow (fun row => row.withIdentity "" provider) stored)) : Sound after := by
  apply sound.written written.users
  · intro claim other
    rw [versionedRow_id fun row => withIdentity_id _ _] at other
    rw [written.claims, mem_releaseExternalIdentity]
    exact ⟨And.left, fun member => ⟨member, fun slot => other slot.2⟩⟩
  · rw [written.claims]
    exact (sound.rows stored (find?_mem found).1).clearedVersion provider

theorem Sound.deleted (found : before.users.find? stored.id = some stored)
    (empty : stored.deleted = false → ∀ provider, stored.identity provider = "")
    (written : Written (deleteUserAuthenticationData before stored.id) after
      (versionedRow Account.removed stored)) : Sound after := by
  apply sound.written written.users
  · intro claim other
    rw [versionedRow_id fun row => (rfl : row.removed.id = row.id)] at other
    rw [written.claims, deleteUserAuthenticationData, mem_releaseAllExternalIdentities]
    exact ⟨And.left, fun old => ⟨old, other⟩⟩
  · rw [written.claims]
    exact rowSound_removed (sound.rows stored (find?_mem found).1) empty

theorem Sound.hardDeleted
    (users : ∀ row, row ∈ after.users.rows ↔ row ∈ before.users.rows ∧ row.id ≠ userId)
    (claims : after.claims = releaseAllExternalIdentitiesWithTx before.claims userId) :
    Sound after where
  rows row member := by
    rcases (users row).mp member with ⟨old, different⟩
    apply (sound.rows row old).congr rfl rfl fun _ => rfl
    intro claim owner
    rw [claims, mem_releaseAllExternalIdentities]
    exact ⟨And.left, fun kept => ⟨kept, owner ▸ different⟩⟩
  owners claim member := by
    rw [claims, mem_releaseAllExternalIdentities] at member
    rcases sound.owners claim member.1 with ⟨row, old, owner⟩
    exact ⟨row, (users row).mpr ⟨old, owner ▸ member.2⟩, owner⟩

end Calls

theorem Sound.perform {entry : Accounts.Environment × Call} (tidy : Tidy directory entry)
    (sound : Sound directory) : Sound (perform directory entry) := by
  have effect := perform_effect directory entry
  rcases entry with ⟨environment, call⟩
  generalize Accounts.perform directory (environment, call) = after at effect
  cases effect with
  | refused => exact sound
  | created anew username email unbound live available fresh written =>
    exact sound.created written unbound fresh
  | @registered provider oauthUser builtIn claims after known available fresh claimed written =>
    have own : RowSound directory.claims
        (preparedRow environment (oauthRow directory provider oauthUser)) :=
      rowSound_unbound (identity_unbound _) (sound.unclaimed fresh)
    have trimmed := tidy (by rw [known]; exact Option.some_ne_none _)
    exact sound.identified own rfl trimmed claimed written
  | identified found live kept trimmed claimed written =>
    have own := sound.rows _ (find?_mem found).1
    rcases kept with rfl | rfl
    · exact sound.identified own live trimmed claimed written
    · exact sound.identified own.advanced live trimmed claimed written
  | orphaned absent =>
    rcases tidy with ⟨row, member, rfl, live⟩
    have gone := absent row (find?_of_mem member)
    rw [live] at gone
    cases gone
  | renamed found live same alive identities email username written =>
    exact sound.rewritten found written same (alive.trans live.symm) identities
  | @addressed userId email token stored after found live positive available written =>
    exact sound.rewritten found written (withEmail_id stored.advanced)
      (withEmail_deleted stored.advanced) (sameIdentities_withEmail stored.advanced _)
  | clearedEmail found written =>
    unfold versionedRow at written
    split at written
    · exact sound.rewritten found written rfl rfl (sameIdentities_advanced _)
    · exact sound.rewritten found written rfl rfl (sameIdentities_withEmail _ _)
  | clearedIdentity found written =>
    obtain rfl := find?_id found
    exact sound.clearedIdentity found written
  | @deleted userId stored after found written =>
    obtain rfl := find?_id found
    exact sound.deleted found (fun live provider =>
      tidy stored (find?_mem found).1 rfl live provider (mem_builtIn provider)) written
  | hardDeleted users claims => exact sound.hardDeleted users claims
  | imported imported =>
    rw [sound.imports] at imported
    cases imported
    exact sound

theorem consistent_noAccounts : Consistent noAccounts where
  claimed := by
    intro provider subject userId
    simp [noAccounts, IndexedTable.empty, Table.empty]
  single := by
    intro provider row member
    cases member
  restarts := rfl

/-- In every run that deletes only accounts without identities, the claims are the identities of
the accounts that are not deleted, no identity has two of them, and a start-up changes nothing. -/
theorem identity_ownership_consistent (start : Directory) (calls : List (Environment × Call))
    (consistent : Consistent start) (tidy : AllSteps perform Tidy start calls) :
    Consistent (run perform start calls) := by
  have sound : Sound (run perform start calls) :=
    run_invariant (fun _ _ => Sound.perform) start calls tidy consistent.sound
  exact sound.consistent

def sampleUser : OAuthUser := { providerUserId := "sub-1" }

def signIn (id : Int) : Environment × Call :=
  ({ id }, .findOrCreateOAuthUser .oidc sampleUser)

def call (call : Call) : Environment × Call := ({}, call)

def unboundFirst : List (Environment × Call) :=
  [signIn 1, call (.clearBinding 1 "oidc"), call (.delete 1),
    call .initializeExternalIdentityClaims, signIn 2, call (.bindIdentity 2 " GitHub " " 77 "),
    call (.updateGitHubId 2 "78"), call .initializeExternalIdentityClaims]

theorem identity_ownership_consistent_returning :
    Consistent (run perform noAccounts unboundFirst) ∧
      (run perform noAccounts unboundFirst).claims.rows =
        [⟨.oidc, "sub-1", 2⟩, ⟨.github, "78", 2⟩] :=
  ⟨identity_ownership_consistent noAccounts unboundFirst consistent_noAccounts
    (by decide +kernel), by decide +kernel⟩

def deletedBound : List (Environment × Call) := [signIn 1, call (.delete 1), signIn 2]

/-- The identity of a deleted account is registered again, and the next start-up fails on the
column that the deletion left. -/
theorem deleted_identity_stops_start_up :
    Consistent noAccounts ∧
      (run perform noAccounts deletedBound).claims.rows = [⟨.oidc, "sub-1", 2⟩] ∧
      (initializeExternalIdentityClaims (run perform noAccounts deletedBound)).map
          (fun after => after.claims.rows) =
        .error "backfill oidc identity for user 1: external identity is already claimed" ∧
      ¬Consistent (run perform noAccounts deletedBound) := by
  have failed : (initializeExternalIdentityClaims (run perform noAccounts deletedBound)).map
      (fun after => after.claims.rows) =
        .error "backfill oidc identity for user 1: external identity is already claimed" := by
    decide +kernel
  refine ⟨consistent_noAccounts, by decide +kernel, failed, ?_⟩
  intro consistent
  have restarted := consistent.restarts
  cases restarted

end NewApi.IdentityOwnership
