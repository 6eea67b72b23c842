import NewApi.AccountEffects
import NewApi.TextCase

/-!
Which account a login identifier names (`ValidateAndFill`, model/user.go). Login looks an
identifier up among the usernames and among the addresses in one query. Usernames are
kept apart by an index and addresses by a check of every writer, but no writer compares a
username with an address; an identifier names at most one account as long as the requests
keep these two apart as well.
-/

namespace NewApi.LoginIdentifiers

open Accounts Payments Runs

/-- The account is found by this identifier. An empty address is no address. -/
def Names (identifier : String) (row : Account) : Prop :=
  row.deleted = false ∧ (row.username = identifier ∨
    (row.email ≠ "" ∧ normalizeEmail row.email = normalizeEmail identifier))

instance (identifier : String) (row : Account) : Decidable (Names identifier row) :=
  inferInstanceAs (Decidable (_ ∧ _))

/-- The query of `ValidateAndFill` for a trimmed identifier. -/
def loginAccount (directory : Directory) (identifier : String) : Option Account :=
  first? directory fun row => !row.deleted &&
    (row.username == identifier || lower row.email == normalizeEmail identifier)

def validateAndFill (environment : Environment) (directory : Directory)
    (identifier password : String) : Except String Account :=
  if trimSpace identifier = "" ∨ password = "" then .error "empty credentials"
  else match loginAccount directory (trimSpace identifier) with
    | none => .error "invalid credentials"
    | some row =>
      if row.password = "" then .error "invalid credentials"
      else if environment.validatePasswordAndHash password row.password = false ∨
          row.status ≠ AccountRestrictions.userStatusEnabled then .error "invalid credentials"
      else .ok row

structure Determined (directory : Directory) : Prop where
  single : ∀ identifier, ∀ row ∈ directory.users.rows, ∀ other ∈ directory.users.rows,
    Names identifier row → Names identifier other → row = other
  checked : ∀ identifier, trimSpace identifier ≠ "" → ∀ row,
    loginAccount directory (trimSpace identifier) = some row ↔
      row ∈ directory.users.rows ∧ Names (trimSpace identifier) row

/-- Every writer of an address normalises it. -/
def Normalized (directory : Directory) : Prop :=
  ∀ row ∈ directory.users.rows, normalizeEmail row.email = row.email

/-- The request writes no username that another account has as its address, and no address
that another account has as its username. -/
def Separate (directory : Directory) (entry : Environment × Call) : Prop :=
  ∀ row ∈ directory.users.rows, row.deleted = false → entry.2.target? ≠ some row.id →
    (row.email ≠ "" → ∀ username ∈ entry.2.username? directory,
      normalizeEmail username ≠ row.email) ∧
    ∀ email ∈ entry.2.email?, email ≠ "" → normalizeEmail row.username ≠ email

instance (directory : Directory) (entry : Environment × Call) :
    Decidable (Separate directory entry) :=
  inferInstanceAs (Decidable (∀ row ∈ directory.users.rows, _))

theorem normalizeEmail_normalizeEmail (email : String) :
    normalizeEmail (normalizeEmail email) = normalizeEmail email := by
  simp only [normalizeEmail, trimSpace_lower, trimSpace_trimSpace, lower_lower]

theorem lower_normalizeEmail (email : String) :
    lower (normalizeEmail email) = normalizeEmail email :=
  lower_lower _

theorem lower_eq_empty {text : String} (empty : lower text = "") : text = "" := by
  have letters : text.toList.map toLower = [] := by
    rw [← String.toList_ofList (l := text.toList.map toLower)]
    exact congrArg String.toList empty
  rw [List.map_eq_nil_iff] at letters
  exact String.toList_eq_nil_iff.mp letters

variable {email identifier : String} {other row stored final : Account}
  {before after directory : Directory} {userId excludeUser : Int} {call : Call}
  {environment : Accounts.Environment}

theorem lower_of_normal (normal : normalizeEmail email = email) :
    lower email = normalizeEmail email := by
  rw [← lower_normalizeEmail email, normal]

structure UsernameFree (row other : Account) : Prop where
  email : other.email ≠ "" → normalizeEmail other.email ≠ normalizeEmail row.username

structure EmailFree (row other : Account) : Prop where
  username : row.email ≠ "" → normalizeEmail row.email ≠ normalizeEmail other.username
  email : row.email ≠ "" → other.email ≠ "" → normalizeEmail row.email ≠ normalizeEmail other.email

theorem Names.separated (first : Names identifier row) (second : Names identifier other)
    (usernames : row.username ≠ other.username) (username : UsernameFree row other)
    (email : EmailFree row other) : False := by
  rcases first with ⟨-, rfl | ⟨filled, same⟩⟩
  · rcases second with ⟨-, same | ⟨filled, same⟩⟩
    · exact usernames same.symm
    · exact username.email filled same
  · rcases second with ⟨-, rfl | ⟨any, alike⟩⟩
    · exact email.username filled same
    · exact email.email filled any (same.trans alike.symm)

structure Sound (directory : Directory) : Prop where
  normal : Normalized directory
  single : ∀ identifier, ∀ row ∈ directory.users.rows, ∀ other ∈ directory.users.rows,
    Names identifier row → Names identifier other → row = other

def Others (directory : Directory) (id : Int) (other : Account) : Prop :=
  other ∈ directory.users.rows ∧ other.id ≠ id ∧ other.deleted = false

theorem Sound.written (sound : Sound before)
    (users : Stored before after row) (normal : normalizeEmail row.email = row.email)
    (username : row.deleted = false → ∀ other, Others before row.id other → UsernameFree row other)
    (email : row.deleted = false → ∀ other, Others before row.id other → EmailFree row other) :
    Sound after := by
  have apart : ∀ identifier, ∀ other ∈ before.users.rows, other.id ≠ row.id →
      Names identifier row → Names identifier other → False := by
    intro identifier other member different first second
    have others : Others before row.id other := ⟨member, different, second.1⟩
    apply first.separated second _ (username first.1 other others) (email first.1 other others)
    intro same
    have one := IndexedTable.eq_of_index ((users row).mpr (.inl rfl))
      ((users other).mpr (.inr ⟨member, different⟩)) same
    exact different (congrArg (fun account : Account => account.id) one.symm)
  constructor
  case normal =>
    intro other member
    rcases (users other).mp member with rfl | ⟨old, -⟩
    · exact normal
    · exact sound.normal other old
  case single =>
    intro identifier left leftAt right rightAt first second
    rcases (users left).mp leftAt with rfl | ⟨oldLeft, differentLeft⟩
    · rcases (users right).mp rightAt with rfl | ⟨oldRight, differentRight⟩
      · rfl
      · exact (apart identifier right oldRight differentRight first second).elim
    · rcases (users right).mp rightAt with rfl | ⟨oldRight, differentRight⟩
      · exact (apart identifier left oldLeft differentLeft second first).elim
      · exact sound.single identifier left oldLeft right oldRight first second

theorem Sound.free (sound : Sound before) (member : stored ∈ before.users.rows)
    (live : stored.deleted = false) (others : Others before stored.id other) :
    UsernameFree stored other ∧ EmailFree stored other := by
  rcases others with ⟨present, different, alive⟩
  have never : ∀ identifier, Names identifier stored → Names identifier other → False := by
    intro identifier first second
    have one := sound.single identifier stored member other present first second
    exact different (congrArg (fun account : Account => account.id) one.symm)
  constructor
  · constructor
    intro filled same
    exact never stored.username ⟨live, .inl rfl⟩ ⟨alive, .inr ⟨filled, same⟩⟩
  · constructor
    case username =>
      intro filled same
      exact never other.username ⟨live, .inr ⟨filled, same⟩⟩ ⟨alive, .inl rfl⟩
    case email =>
      intro filled any same
      exact never stored.email ⟨live, .inr ⟨filled, rfl⟩⟩ ⟨alive, .inr ⟨any, same.symm⟩⟩

theorem UsernameFree.congr (free : UsernameFree stored other)
    (same : row.username = stored.username) : UsernameFree row other := by
  constructor
  rw [same]
  exact free.email

theorem EmailFree.congr (free : EmailFree stored other) (same : row.email = stored.email) :
    EmailFree row other := by
  constructor
  case username =>
    rw [same]
    exact free.username
  case email =>
    rw [same]
    exact free.email

/-- A stored account whose username and address are its own or free. -/
theorem Sound.rewritten (sound : Sound before) (found : before.users.find? userId = some stored)
    (users : Stored before after row) (same : row.id = stored.id)
    (live : row.deleted = false → stored.deleted = false)
    (username : row.username = stored.username ∨
      ∀ other, Others before row.id other → UsernameFree row other)
    (email : row.email = stored.email ∨ normalizeEmail row.email = row.email ∧
      ∀ other, Others before row.id other → EmailFree row other) : Sound after := by
  have member := (Table.find?_mem found).1
  have own (alive : row.deleted = false) (other : Account) (others : Others before row.id other) :
      UsernameFree stored other ∧ EmailFree stored other :=
    sound.free member (live alive) (same ▸ others)
  apply sound.written users
  · rcases email with kept | free
    · rw [kept]
      exact sound.normal stored member
    · exact free.1
  · intro alive other others
    rcases username with kept | free
    · exact (own alive other others).1.congr kept
    · exact free other others
  · intro alive other others
    rcases email with kept | free
    · exact (own alive other others).2.congr kept
    · exact free.2 other others

theorem Sound.versioned {change : Account → Account} (sound : Sound before)
    (found : before.users.find? userId = some stored)
    (users : Stored before after (versionedRow change stored))
    (changed : Stored before after (change stored.advanced) → Sound after) : Sound after := by
  unfold versionedRow at users
  split at users
  · exact sound.rewritten found users rfl id (.inl rfl) (.inl rfl)
  · exact changed users

theorem emailAvailable_spec (available : emailAvailable before email excludeUser = true)
    (filled : normalizeEmail email ≠ "") (member : other ∈ before.users.rows)
    (different : 0 < excludeUser → other.id ≠ excludeUser) :
    lower other.email ≠ normalizeEmail email := by
  intro same
  unfold emailAvailable at available
  rw [Bool.or_eq_true, beq_iff_eq, Bool.not_eq_true', List.any_eq_false] at available
  rcases available with empty | taken
  · exact filled empty
  · exact taken other member (decide_eq_true ⟨same, different⟩)

theorem email?_normal (given : call.email? = some email) : normalizeEmail email = email := by
  cases call <;> simp only [Call.email?, Option.some.injEq, reduceCtorEq] at given
  all_goals
    rw [← given]
    exact normalizeEmail_normalizeEmail _

theorem Separate.usernameFree {id : Int} (separate : Separate before (environment, call))
    (normal : Normalized before) (given : call.username? before = some row.username)
    (others : Others before id other) (target : call.target? ≠ some other.id) :
    UsernameFree row other := by
  rcases others with ⟨member, -, alive⟩
  constructor
  intro filled same
  rw [normal other member] at same
  exact (separate other member alive target).1 filled row.username given same.symm

theorem emailFree_empty (empty : row.email = "") (other : Account) : EmailFree row other where
  username filled := absurd empty filled
  email filled := absurd empty filled

section

variable (separate : Separate before (environment, call))

include separate

theorem Separate.emailFree {id : Int} (normal : Normalized before)
    (given : row.email = "" ∨ call.email? = some row.email) (others : Others before id other)
    (target : call.target? ≠ some other.id)
    (available : emailAvailable before row.email excludeUser = true)
    (different : 0 < excludeUser → other.id ≠ excludeUser) : EmailFree row other := by
  rcases others with ⟨member, -, alive⟩
  rcases given with empty | given
  · exact emailFree_empty empty other
  · have form := email?_normal given
    constructor
    case username =>
      intro filled same
      rw [form] at same
      exact (separate other member alive target).2 row.email given filled same.symm
    case email =>
      intro filled _ same
      rw [← form] at filled
      apply emailAvailable_spec available filled member different
      rw [lower_of_normal (normal other member), same]

theorem Sound.registered (sound : Sound before) (anew : call.target? = none)
    (username : call.username? before = some row.username)
    (email : row.email = "" ∨ call.email? = some row.email)
    (available : emailAvailable before row.email 0 = true) (users : Stored before after final)
    (named : final.username = row.username) (addressed : final.email = normalizeEmail row.email) :
    Sound after := by
  have form : normalizeEmail row.email = row.email := by
    rcases email with empty | given
    · rw [empty]
      simp [normalizeEmail, trimSpace, lower]
    · exact email?_normal given
  have target : ∀ other : Account, call.target? ≠ some other.id := by
    intro other
    rw [anew]
    exact (Option.some_ne_none _).symm
  apply sound.written users
  · rw [addressed, normalizeEmail_normalizeEmail]
  · intro _ other others
    have free : UsernameFree row other :=
      separate.usernameFree sound.normal username others (target other)
    exact free.congr named
  · intro _ other others
    have free : EmailFree row other :=
      separate.emailFree sound.normal email others (target other) available fun zero =>
        absurd zero (lt_irrefl 0)
    exact free.congr (addressed.trans form)

theorem Sound.addressed (sound : Sound before) (found : before.users.find? userId = some stored)
    (live : stored.deleted = false) (target : call.target? = some userId)
    (given : call.email? = some row.email)
    (available : emailAvailable before row.email userId = true) (users : Stored before after row)
    (same : row.id = stored.id) (username : row.username = stored.username) : Sound after := by
  have owner := find?_id found
  apply sound.rewritten found users same (fun _ => live) (.inl username)
  refine .inr ⟨email?_normal given, fun other others => ?_⟩
  have different : other.id ≠ userId := by
    rw [← owner, ← same]
    exact others.2.1
  apply separate.emailFree sound.normal (.inr given) others _ available fun _ => different
  rw [target]
  exact fun one => different (Option.some.inj one).symm

end

/-! Calls. -/

theorem Sound.perform {entry : Accounts.Environment × Call} (separate : Separate directory entry)
    (sound : Sound directory) : Sound (perform directory entry) := by
  have effect := perform_effect directory entry
  rcases entry with ⟨environment, call⟩
  generalize Accounts.perform directory (environment, call) = after at effect
  cases effect with
  | refused => exact sound
  | @created call row after anew username email unbound live available fresh written =>
    exact sound.registered separate anew username email available written.users rfl rfl
  | @registered provider oauthUser builtIn claims after known available fresh claimed written =>
    have username : (Call.findOrCreateOAuthUser provider oauthUser).username? directory =
        some (oauthRow directory provider oauthUser).username := rfl
    have email : (Call.findOrCreateOAuthUser provider oauthUser).email? =
        some (oauthRow directory provider oauthUser).email := rfl
    apply sound.registered separate rfl username (.inr email) available written.users
    · rw [toUser_withIdentity, preparedRow]
    · rw [toUser_withIdentity, preparedRow]
  | @identified call stored base provider subject claims after found live kept trimmed claimed
      written =>
      have alike : base.id = stored.id ∧ base.username = stored.username ∧
          base.email = stored.email := by
        rcases kept with rfl | rfl <;> exact ⟨rfl, rfl, rfl⟩
      apply sound.rewritten found written.users <;> rw [toUser_withIdentity]
      · exact alike.1
      · exact fun _ => live
      · exact .inl alike.2.1
      · exact .inl alike.2.2
  | orphaned absent | imported imported => exact ⟨sound.normal, sound.single⟩
  | @renamed call stored row after found live same alive identities email username written =>
    apply sound.rewritten found written.users same (fun _ => live) _ (.inl email)
    refine username.imp_right fun ⟨given, target⟩ other others => ?_
    apply separate.usernameFree sound.normal given others
    rw [target, ← same]
    exact fun one => others.2.1 (Option.some.inj one).symm
  | @addressed userId email token stored after found live positive available written =>
    have free : emailAvailable directory (stored.advanced.withEmail (normalizeEmail email)).email
        userId = true := by
      rw [withEmail_email, emailAvailable, normalizeEmail_normalizeEmail]
      exact available
    apply sound.addressed separate found live rfl _ free written.users
    · exact withEmail_id stored.advanced
    · exact withEmail_username stored.advanced
    · rfl
  | clearedEmail found written =>
    refine sound.versioned found written.users fun users => ?_
    apply sound.rewritten found users rfl id (.inl rfl)
    exact .inr ⟨by simp [normalizeEmail, trimSpace, lower],
      fun other _ => emailFree_empty rfl other⟩
  | clearedIdentity found written =>
    refine sound.versioned found written.users fun users => ?_
    apply sound.rewritten found users <;> rw [toUser_withIdentity]
    · rfl
    · exact id
    · exact .inl rfl
    · exact .inl rfl
  | deleted found written =>
    refine sound.versioned found written.users fun users => ?_
    exact sound.rewritten found users rfl (by rintro ⟨⟩) (.inl rfl) (.inl rfl)
  | @hardDeleted userId after users claims =>
    constructor
    case normal =>
      intro row member
      exact sound.normal row ((users row).mp member).1
    case single =>
      intro identifier row member other present
      exact sound.single identifier row ((users row).mp member).1 other
        ((users other).mp present).1

theorem normalizeEmail_trimSpace_ne (nonblank : trimSpace identifier ≠ "") :
    normalizeEmail (trimSpace identifier) ≠ "" := by
  intro empty
  apply nonblank
  rw [← trimSpace_trimSpace]
  exact lower_eq_empty empty

theorem names_iff_selected (normal : normalizeEmail row.email = row.email)
    (filled : normalizeEmail identifier ≠ "") :
    Names identifier row ↔ (!row.deleted &&
      (row.username == identifier || lower row.email == normalizeEmail identifier)) = true := by
  rw [Names, Bool.and_eq_true, Bool.or_eq_true, Bool.not_eq_true', beq_iff_eq, beq_iff_eq,
    lower_of_normal normal]
  apply and_congr_right
  intro _
  apply or_congr_right
  constructor
  · exact And.right
  · intro same
    apply And.intro _ same
    intro empty
    rw [normal, empty] at same
    exact filled same.symm

theorem Sound.determined (sound : Sound directory) :
    Determined directory := by
  constructor
  case single => exact sound.single
  case checked =>
    intro identifier nonblank row
    have known := normalizeEmail_trimSpace_ne nonblank
    constructor
    · intro found
      rcases first?_some found with ⟨member, selected⟩
      exact ⟨member, (names_iff_selected (sound.normal row member) known).mpr selected⟩
    · rintro ⟨member, names⟩
      have selected := (names_iff_selected (sound.normal row member) known).mp names
      cases found : loginAccount directory (trimSpace identifier) with
      | none =>
        unfold loginAccount first? at found
        split at found
        · rename_i nothing
          exact absurd selected (List.filter_eq_nil_iff.mp nothing row member)
        · cases found
      | some other =>
        rcases first?_some found with ⟨present, chosen⟩
        have also := (names_iff_selected (sound.normal other present) known).mpr chosen
        rw [sound.single _ other present row member also names]

/-- In every run whose requests keep usernames and addresses apart, an identifier names at most
one account, and it is the account whose password a login checks. -/
theorem login_identifier_determined (start : Directory) (calls : List (Environment × Call))
    (normalized : Normalized start) (determined : Determined start)
    (separate : AllSteps perform Separate start calls) :
    Determined (run perform start calls) := by
  have sound : Sound (run perform start calls) :=
    run_invariant (fun _ _ => Sound.perform) start calls separate
      ⟨normalized, determined.single⟩
  exact sound.determined

theorem determined_noAccounts : Determined noAccounts where
  single := by
    intro identifier row member
    cases member
  checked := by
    intro identifier _ row
    constructor
    · intro found
      cases found
    · rintro ⟨member, -⟩
      cases member

def signUp (id : Int) (username email password : String) : Environment × Call :=
  ({ id }, .register { username, email, password, verificationCode := "code" })

def apartCalls : List (Environment × Call) :=
  [signUp 1 "ops" " Ops@x.io " "first-secret", signUp 2 "ops@y.io" "" "other-secret",
    ({ id := 3 }, .findOrCreateOAuthUser .github
      { providerUserId := "77", username := "ops", email := "dev@x.io" }),
    ({}, .updateSelf 2 { username := "second" }), ({}, .bindEmail 2 "ops@y.io" "code"),
    ({}, .clearBinding 3 "email")]

theorem login_identifier_determined_apart :
    Determined (run perform noAccounts apartCalls) ∧
      (run perform noAccounts apartCalls).users.rows.map
          (fun row => (row.id, row.username, row.email)) =
        [(1, "ops", "ops@x.io"), (2, "second", "ops@y.io"), (3, "github_3", "")] :=
  ⟨login_identifier_determined noAccounts apartCalls (by simp [Normalized, noAccounts,
    IndexedTable.empty, Table.empty]) determined_noAccounts (by decide +kernel),
    by decide +kernel⟩

def mixedCalls : List (Environment × Call) :=
  [signUp 1 "ops@x.io" "" "first-secret", signUp 2 "ops" "ops@x.io" "other-secret"]

/-- A username that is somebody's address: the identifier names both accounts, and the owner of
the address cannot log in with it. -/
theorem username_takes_address :
    (∃ row ∈ (run perform noAccounts mixedCalls).users.rows,
      ∃ other ∈ (run perform noAccounts mixedCalls).users.rows,
        Names "ops@x.io" row ∧ Names "ops@x.io" other ∧ row.id ≠ other.id) ∧
      validateAndFill {} (run perform noAccounts mixedCalls) "ops@x.io" "other-secret" =
        .error "invalid credentials" ∧
      ¬Determined (run perform noAccounts mixedCalls) := by
  have both : ∃ row ∈ (run perform noAccounts mixedCalls).users.rows,
      ∃ other ∈ (run perform noAccounts mixedCalls).users.rows,
        Names "ops@x.io" row ∧ Names "ops@x.io" other ∧ row.id ≠ other.id := by
    decide +kernel
  refine ⟨both, by decide +kernel, ?_⟩
  intro determined
  rcases both with ⟨row, member, other, present, first, second, different⟩
  rw [determined.single _ row member other present first second] at different
  exact different rfl

end NewApi.LoginIdentifiers
