import NewApi.AccountRestrictions
import NewApi.IndexedTable

/-!
Accounts with the names and external identities they are found by: registration
(controller/user.go, controller/oauth.go), the writers of usernames, addresses and
identity columns (model/user.go), and the claims that record who owns an identity
(model/external_identity_claim.go). The username is a unique index of the users, a
claim is unique by subject and by user. A call is one transaction; what a call does
after its commit (caches, sessions, logs, gifts, the sidebar setting that rewrites the
new row as it was read) stores nothing that is modelled here.
-/

namespace NewApi.Accounts

open Payments UserRows

/-- The built-in providers, in the order in which start-up imports them. -/
inductive Provider where
  | github
  | discord
  | oidc
  | wechat
  | telegram
  | linuxdo
  deriving DecidableEq

def Provider.name : Provider → String
  | .github => "github"
  | .discord => "discord"
  | .oidc => "oidc"
  | .wechat => "wechat"
  | .telegram => "telegram"
  | .linuxdo => "linuxdo"

def builtInExternalIdentityProviders : List Provider :=
  [.github, .discord, .oidc, .wechat, .telegram, .linuxdo]

/-- The lookup in `builtInAuthenticationBindingColumns`. -/
def Provider.ofName? (name : String) : Option Provider :=
  builtInExternalIdentityProviders.find? fun provider => provider.name = name

/-- A user's row with its identity columns; an empty column is no identity. -/
structure Account extends User where
  githubId : String := ""
  discordId : String := ""
  oidcId : String := ""
  wechatId : String := ""
  telegramId : String := ""
  linuxDoId : String := ""
  deriving DecidableEq

def Account.identity (row : Account) : Provider → String
  | .github => row.githubId
  | .discord => row.discordId
  | .oidc => row.oidcId
  | .wechat => row.wechatId
  | .telegram => row.telegramId
  | .linuxdo => row.linuxDoId

def Account.withIdentity (row : Account) (subject : String) : Provider → Account
  | .github => { row with githubId := subject }
  | .discord => { row with discordId := subject }
  | .oidc => { row with oidcId := subject }
  | .wechat => { row with wechatId := subject }
  | .telegram => { row with telegramId := subject }
  | .linuxdo => { row with linuxDoId := subject }

structure ExternalIdentityClaim where
  provider : Provider
  subject : String
  userId : Int
  deriving DecidableEq

structure UserOAuthBinding where
  userId : Int
  providerId : Int
  providerUserId : String
  deriving DecidableEq

abbrev Users := IndexedTable (fun row : Account => row.id) (fun row : Account => row.username)

abbrev Claims :=
  IndexedTable (fun claim : ExternalIdentityClaim => (claim.provider, claim.subject))
    (fun claim : ExternalIdentityClaim => (claim.provider, claim.userId))

abbrev Bindings :=
  IndexedTable (fun binding : UserOAuthBinding => (binding.providerId, binding.providerUserId))
    (fun binding : UserOAuthBinding => (binding.userId, binding.providerId))

structure Directory where
  users : Users
  claims : Claims
  bindings : Bindings

def noAccounts : Directory := ⟨.empty, .empty, .empty⟩

/-- What a call finds around the database: the switches, the generated values and the
packages for passwords and e-mail codes. -/
structure Environment where
  registerEnabled : Bool := true
  passwordRegisterEnabled : Bool := true
  emailVerificationEnabled : Bool := false
  quotaForNewUser : Int := 0
  -- What the auto-increment column assigns, and the generated invitation code.
  id : Int := 0
  affCode : String := ""
  -- Whether a verification code is open and was issued for this address.
  verified : String → String → Bool := fun _ _ => true
  hash : String → String := fun password => password
  validatePasswordAndHash : String → String → Bool := fun password hash => password == hash

variable (environment : Environment) (directory : Directory) (subject : String) (row : Account)
  (userId : Int) (email : String) (claims : Claims) (myRole : Int)

def Environment.accepts (token email : String) : Bool :=
  trimSpace token != "" && normalizeEmail email != "" &&
    environment.verified (trimSpace token) (normalizeEmail email)

def recordNotFound : String := "record not found"

def duplicatedKey : String := "duplicated key not allowed"

def errEmailAlreadyTaken : String := "email already taken"

def externalIdentitySubjectMaxLength : Nat := 256

def errExternalIdentityAlreadyClaimed : String := "external identity is already claimed"

/-- The provider's name is one of the constants, so only the subject and the user can be
refused. -/
def validClaim : Bool :=
  subject != "" && decide (subject.utf8ByteSize ≤ externalIdentitySubjectMaxLength) && userId != 0

/-- The insert skips a conflicting row; who owns the subject and the slot is read back. -/
def claimTrimmed (provider : Provider) (subject : String) (userId : Int) : Except String Claims :=
  let after := (claims.insert? ⟨provider, subject, userId⟩).getD claims
  match after.find? (provider, subject) with
  | none => .error errExternalIdentityAlreadyClaimed
  | some owner =>
    if owner.userId ≠ userId then .error errExternalIdentityAlreadyClaimed
    else match after.byIndex.find? (provider, userId) with
      | none => .error recordNotFound
      | some slot =>
        if slot.subject ≠ subject then .error errExternalIdentityAlreadyClaimed
        else .ok after

def claimExternalIdentityWithTx (provider : Provider) (subject : String) (userId : Int) :
    Except String Claims :=
  if validClaim (trimSpace subject) userId then
    claimTrimmed claims provider (trimSpace subject) userId
  else .error "external identity claim is invalid"

def replaceExternalIdentityWithTx (provider : Provider) (subject : String) (userId : Int) :
    Except String Claims :=
  if validClaim (trimSpace subject) userId then
    match claims.byIndex.find? (provider, userId) with
    | none => claimExternalIdentityWithTx claims provider (trimSpace subject) userId
    | some current =>
      if current.subject = trimSpace subject then .ok claims
      else claimExternalIdentityWithTx (claims.remove fun claim => claim = current) provider
        (trimSpace subject) userId
  else .error "external identity claim is invalid"

def releaseExternalIdentityWithTx (provider : Provider) (userId : Int) : Claims :=
  claims.remove fun claim => claim.provider = provider ∧ claim.userId = userId

def releaseAllExternalIdentitiesWithTx (userId : Int) : Claims :=
  claims.remove fun claim => claim.userId = userId

/-- One entry for every column of every row, deleted rows included. -/
def boundIdentities (users : Users) : List ExternalIdentityClaim :=
  users.rows.flatMap fun row =>
    builtInExternalIdentityProviders.map fun provider => ⟨provider, row.identity provider, row.id⟩

def importIdentities (claims : Claims) : List ExternalIdentityClaim → Except String Claims
  | [] => .ok claims
  | entry :: rest =>
    if trimSpace entry.subject = "" then importIdentities claims rest
    else match claimExternalIdentityWithTx claims entry.provider entry.subject entry.userId with
      | .error cause => .error ("backfill " ++ entry.provider.name ++ " identity for user " ++
          toString entry.userId ++ ": " ++ cause)
      | .ok after => importIdentities after rest

def initializeExternalIdentityClaims : Except String Directory :=
  match importIdentities directory.claims (boundIdentities directory.users) with
  | .error cause => .error cause
  | .ok claims => .ok { directory with claims }

def earlier (other : Account) : Account := if other.id < row.id then other else row

def later (other : Account) : Account := if row.id < other.id then other else row

/-- `First` orders by the primary key. -/
def first? (selected : Account → Bool) : Option Account :=
  match directory.users.rows.filter selected with
  | [] => none
  | row :: rest => some (rest.foldl earlier row)

def saveRow : Except String Directory :=
  match directory.users.save? row with
  | none => .error duplicatedKey
  | some users => .ok { directory with users }

def createRow : Except String Directory :=
  match directory.users.insert? row with
  | none => .error duplicatedKey
  | some users => .ok { directory with users }

def findLive : Except String Account :=
  match directory.users.find? userId with
  | none => .error recordNotFound
  | some row => if row.deleted then .error recordNotFound else .ok row

def Account.withEmail : Account := { row with email }

def Account.removed : Account := { row with deleted := true }

def Account.advanced : Account :=
  { row with authVersion := nextAuthVersion row.authVersion }

/-- `IncrementUserAuthVersionWithTx`, which reaches deleted rows, and an `Update` of columns,
which does not. -/
def versionedRow (change : Account → Account) (stored : Account) : Account :=
  if stored.deleted then stored.advanced else change stored.advanced

def updateWithVersion (change : Account → Account) : Except String Directory :=
  if userId ≤ 0 then .error "invalid user auth version update"
  else match directory.users.find? userId with
    | none => .error recordNotFound
    | some stored => saveRow directory (versionedRow change stored)

def userNameMaxLength : Nat := 20

/-- `ensureEmailAvailableWithTx`; deleted rows keep their address. -/
def emailAvailable (excludeUser : Int) : Bool :=
  normalizeEmail email == "" || !directory.users.rows.any fun row =>
    lower row.email = normalizeEmail email ∧ (0 < excludeUser → row.id ≠ excludeUser)

def checkUserExistOrDeleted (username email : String) : Bool :=
  directory.users.rows.any fun row => row.username = username ∨
    (normalizeEmail email ≠ "" ∧ lower row.email = normalizeEmail email)

def getMaxUserId : Int :=
  match directory.users.rows with
  | [] => 0
  | row :: rest => (rest.foldl later row).id

def getUserIdByAffCode (affCode : String) : Int :=
  if affCode = "" then 0
  else ((first? directory fun row => !row.deleted && row.affCode == affCode).map (·.id)).getD 0

def preparedRow : Account :=
  { row with
    id := environment.id
    email := normalizeEmail row.email
    password := if row.password = "" then "" else environment.hash row.password
    quota := environment.quotaForNewUser
    affCode := environment.affCode }

def insertWithTx : Except String Directory :=
  if emailAvailable directory row.email 0 then
    createRow directory (preparedRow environment row)
  else .error errEmailAlreadyTaken

structure Form where
  id : Int := 0
  username : String := ""
  password : String := ""
  originalPassword : String := ""
  displayName : String := ""
  role : Int := 0
  email : String := ""
  verificationCode : String := ""
  affCode : String := ""
  group : String := ""
  remark : String := ""

variable (form : Form)

/-- The `validate` tags of the user. -/
def Form.valid : Bool :=
  decide (form.username.length ≤ 20 ∧ 8 ≤ form.password.length ∧ form.password.length ≤ 20 ∧
    form.displayName.length ≤ 20 ∧ form.email.length ≤ 50 ∧ form.remark.length ≤ 255)

def registeredRow : Account :=
  { id := 0
    username := form.username
    password := form.password
    displayName := form.username
    inviterId := getUserIdByAffCode directory form.affCode
    email := form.email }

/-- `Register` once the username is trimmed and the address normalised. -/
def registerForm : Except String Directory :=
  let registerWithEmail := environment.emailVerificationEnabled || form.email != ""
  if form.username = "" then .error "common.invalid_params"
  else if !form.valid then .error "user.input_invalid"
  else if registerWithEmail && (form.email == "" || form.verificationCode == "") then
    .error "user.email_verification_required"
  else if registerWithEmail && !environment.accepts form.verificationCode form.email then
    .error "user.verification_code_error"
  else if registerWithEmail && !emailAvailable directory form.email 0 then
    .error "user.email_already_taken"
  else if checkUserExistOrDeleted directory form.username form.email then .error "user.exists"
  else match insertWithTx environment directory (registeredRow directory form) with
    | .error cause => .error (if cause = errEmailAlreadyTaken then "user.email_already_taken"
        else "user.register_failed")
    | .ok after => .ok after

def register : Except String Directory :=
  if !environment.registerEnabled then .error "user.register_disabled"
  else if !environment.passwordRegisterEnabled then .error "user.password_register_disabled"
  else registerForm environment directory
    { form with username := trimSpace form.username, email := normalizeEmail form.email }

/-- A role of zero takes the column's default. -/
def createdRow : Account :=
  { id := 0
    username := form.username
    password := form.password
    displayName := textOr form.displayName form.username
    role := numberOr form.role 1 }

def createForm : Except String Directory :=
  if form.username = "" ∨ form.password = "" then .error "common.invalid_params"
  else if !form.valid then .error "user.input_invalid"
  else if myRole ≤ form.role then .error "user.cannot_create_higher_level"
  else insertWithTx environment directory (createdRow form)

def createUser : Except String Directory :=
  createForm environment directory myRole { form with username := trimSpace form.username }

/-! Registration through an external provider. -/

inductive OAuthProvider where
  | github
  | discord
  | oidc
  | linuxdo
  -- `GenericOAuthProvider`.
  | generic (id : Int) (name slug : String)
  deriving DecidableEq

def OAuthProvider.builtIn? : OAuthProvider → Option Provider
  | .github => some .github
  | .discord => some .discord
  | .oidc => some .oidc
  | .linuxdo => some .linuxdo
  | .generic .. => none

def OAuthProvider.getName : OAuthProvider → String
  | .github => "GitHub"
  | .discord => "Discord"
  | .oidc => "OIDC"
  | .linuxdo => "Linux DO"
  | .generic _ name _ => name

def OAuthProvider.getProviderPrefix : OAuthProvider → String
  | .github => "github_"
  | .discord => "discord_"
  | .oidc => "oidc_"
  | .linuxdo => "linuxdo_"
  | .generic _ _ slug => slug ++ "_"

/-- What the provider tells about its user; `legacyId` is empty when there is none. -/
structure OAuthUser where
  providerUserId : String
  username : String := ""
  displayName : String := ""
  email : String := ""
  legacyId : String := ""

variable (provider : OAuthProvider) (oauthUser : OAuthUser)

def holders (provider : Provider) (subject : String) : List Account :=
  directory.users.rows.filter fun row => row.identity provider = subject

/-- Deleted rows count for every built-in provider but OIDC. -/
def isUserIdTaken (subject : String) : Bool :=
  match provider with
  | .github => (holders directory .github subject).length == 1
  | .discord => (holders directory .discord subject).length == 1
  | .oidc => ((holders directory .oidc subject).filter fun row => !row.deleted).length == 1
  | .linuxdo => (holders directory .linuxdo subject).length != 0
  | .generic id .. => (directory.bindings.find? (id, subject)).isSome

def liveHolder (provider : Provider) (subject : String) : Option Account :=
  first? directory fun row => !row.deleted && row.identity provider == subject

/-- `none` is the empty user that a lookup without result leaves. -/
def fillUserByProviderId (subject : String) : Except String (Option Account) :=
  match provider with
  | .github =>
    if subject = "" then .error "GitHub id 为空！"
    else .ok (liveHolder directory .github subject)
  | .discord =>
    if subject = "" then .error "discord id 为空！"
    else .ok (liveHolder directory .discord subject)
  | .oidc =>
    if subject = "" then .error "oidc id 为空！" else .ok (liveHolder directory .oidc subject)
  | .linuxdo =>
    if subject = "" then .error "linux do id is empty"
    else match liveHolder directory .linuxdo subject with
      | none => .error recordNotFound
      | some row => .ok (some row)
  | .generic id .. =>
    match directory.bindings.find? (id, subject) with
    | none => .error recordNotFound
    | some binding => (findLive directory binding.userId).map some

/-- `UpdateGitHubId` on a user object that was read earlier: the claim is replaced even when
the row is gone or deleted by now, the column is then not written. -/
def updateGitHubId (newGitHubId : String) : Except String Directory :=
  if userId = 0 then .error "user id is empty"
  else if trimSpace newGitHubId = "" then .error "GitHub id is empty"
  else match replaceExternalIdentityWithTx directory.claims .github (trimSpace newGitHubId)
      userId with
    | .error cause => .error cause
    | .ok claims =>
      match findLive directory userId with
      | .error _ => .ok { directory with claims }
      | .ok row =>
        saveRow { directory with claims } (row.withIdentity (trimSpace newGitHubId) .github)

def legacyHolder : Except String (Option Account) :=
  if oauthUser.legacyId ≠ "" ∧ isUserIdTaken directory provider oauthUser.legacyId then
    fillUserByProviderId directory provider oauthUser.legacyId
  else .ok none

def oauthUsername : String :=
  if oauthUser.username ≠ "" ∧ checkUserExistOrDeleted directory oauthUser.username "" = false ∧
      oauthUser.username.utf8ByteSize ≤ userNameMaxLength then oauthUser.username
  else provider.getProviderPrefix ++ toString (getMaxUserId directory + 1)

def oauthRow : Account :=
  { id := 0
    username := oauthUsername directory provider oauthUser
    displayName := textOr oauthUser.displayName
      (textOr oauthUser.username (provider.getName ++ " User"))
    email := normalizeEmail oauthUser.email }

/-- The columns get the identifier as the provider sent it, the claim gets it trimmed. -/
def registerBuiltIn (provider : Provider) (subject : String) (row : Account) :
    Except String Directory := do
  let inserted ← insertWithTx environment directory row
  let claims ← replaceExternalIdentityWithTx inserted.claims provider subject environment.id
  saveRow { inserted with claims } ((preparedRow environment row).withIdentity subject provider)

def registerGeneric (providerId : Int) (subject : String) (row : Account) :
    Except String Directory := do
  let inserted ← insertWithTx environment directory row
  if environment.id = 0 then .error "user ID is required"
  else if providerId = 0 then .error "provider ID is required"
  else if subject = "" then .error "provider user ID is required"
  else match inserted.bindings.insert? ⟨environment.id, providerId, subject⟩ with
    | none => .error "this OAuth account is already bound to another user"
    | some bindings => .ok { inserted with bindings }

def createOAuthUser : Except String Directory :=
  match provider with
  | .github => registerBuiltIn environment directory .github oauthUser.providerUserId
      (oauthRow directory provider oauthUser)
  | .discord => registerBuiltIn environment directory .discord oauthUser.providerUserId
      (oauthRow directory provider oauthUser)
  | .oidc => registerBuiltIn environment directory .oidc oauthUser.providerUserId
      (oauthRow directory provider oauthUser)
  | .linuxdo => registerBuiltIn environment directory .linuxdo oauthUser.providerUserId
      (oauthRow directory provider oauthUser)
  | .generic id .. => registerGeneric environment directory id oauthUser.providerUserId
      (oauthRow directory provider oauthUser)

/-- A lost race for a built-in identity ends in the account that won it. -/
def registerOAuthUser : Directory × Except String Account :=
  if !environment.registerEnabled then (directory, .error "registration is disabled")
  else if !emailAvailable directory oauthUser.email 0 then
    (directory, .error "email is already in use")
  else match createOAuthUser environment directory provider oauthUser with
    | .ok after => (after, findLive after environment.id)
    | .error cause =>
      match provider.builtIn?,
          fillUserByProviderId directory provider oauthUser.providerUserId with
      | some _, .ok (some existing) =>
        (directory, if 0 < existing.id then .ok existing else .error cause)
      | _, _ => (directory, .error cause)

def findOrCreateOAuthUser : Directory × Except String Account :=
  if isUserIdTaken directory provider oauthUser.providerUserId then
    match fillUserByProviderId directory provider oauthUser.providerUserId with
    | .error cause => (directory, .error cause)
    | .ok none => (directory, .error "user has been deleted")
    | .ok (some row) => (directory, .ok row)
  else match legacyHolder directory provider oauthUser with
    | .error cause => (directory, .error cause)
    | .ok (some row) =>
      -- A failed migration is logged and the login goes on.
      match updateGitHubId directory row.id oauthUser.providerUserId with
      | .error _ => (directory, .ok row)
      | .ok after =>
        (after, .ok (row.withIdentity (trimSpace oauthUser.providerUserId) .github))
    | .ok none => registerOAuthUser environment directory provider oauthUser

def placeholderPassword : String := "$I_LOVE_U"

/-- The password a form stands for; the placeholder satisfies the validator. -/
def Form.filled : Form :=
  { form with password := textOr form.password placeholderPassword }

def Form.newPassword : String :=
  if form.filled.password = placeholderPassword then "" else form.password

def editWithTx (request : EditRequest) : Except String Directory :=
  match findLive directory request.id with
  | .error cause => .error cause
  | .ok stored =>
    if editChanged stored.toUser request ∧ request.id ≤ 0 then
      .error "invalid user auth version update"
    else saveRow directory { stored with toUser := editedRow stored.toUser request }

def Form.edit : EditRequest where
  id := form.id
  username := form.username
  displayName := form.displayName
  group := form.group
  remark := form.remark
  hash := if form.newPassword = "" then none else some (environment.hash form.newPassword)

def updateForm : Except String Directory :=
  if form.id = 0 ∨ form.username = "" then .error "common.invalid_params"
  else if !form.filled.valid then .error "user.input_invalid"
  else match findLive directory form.id with
    | .error cause => .error cause
    | .ok origin =>
      if form.role ≠ 0 ∧ form.role ≠ origin.role then .error "common.invalid_params"
      else if !AccountRestrictions.canManageTargetRole myRole origin.role then
        .error "user.no_permission_higher_level"
      else editWithTx directory (form.edit environment)

def updateUser : Except String Directory :=
  updateForm environment directory myRole { form with username := trimSpace form.username }

/-- The row after `UpdateWithTx`: every column of the written user that is not zero. -/
def updatedAccount (stored user : Account) (hash : Option String) : Account where
  toUser := updatedRow stored.toUser user.toUser hash
  githubId := textOr user.githubId stored.githubId
  discordId := textOr user.discordId stored.discordId
  oidcId := textOr user.oidcId stored.oidcId
  wechatId := textOr user.wechatId stored.wechatId
  telegramId := textOr user.telegramId stored.telegramId
  linuxDoId := textOr user.linuxDoId stored.linuxDoId

def updateWithTx (user : Account) (hash : Option String) : Except String Directory :=
  match findLive directory user.id with
  | .error cause => .error cause
  | .ok stored =>
    if authChanged stored.toUser (withHash user.toUser hash) hash.isSome ∧ user.id ≤ 0 then
      .error "invalid user auth version update"
    else saveRow directory (updatedAccount stored user hash)

def checkUpdatePassword : Except String (Option String) :=
  if form.newPassword = "" then .ok none
  else match findLive directory userId with
    | .error cause => .error cause
    | .ok current =>
      if current.password = "" then .error "user.password_unset"
      else if !environment.validatePasswordAndHash form.originalPassword current.password then
        .error "user.original_password_error"
      else .ok (some (environment.hash form.newPassword))

def selfRow : Account where
  toUser := { blankUser userId with username := form.username, displayName := form.displayName }

/-- The username is written as it was sent, an empty one not at all. -/
def updateSelf : Except String Directory :=
  if !form.filled.valid then .error "common.invalid_input"
  else match checkUpdatePassword environment directory userId form with
    | .error cause => .error cause
    | .ok hash => updateWithTx directory (selfRow userId form) hash

def bindEmailToUserWithVerification (token : String) : Except String Directory :=
  if userId ≤ 0 then .error "unsupported data"
  else if !environment.accepts token email then .error "auth flow is invalid"
  else if !emailAvailable directory email userId then .error errEmailAlreadyTaken
  else do
    let after ← updateWithVersion directory userId fun row => row.withEmail (normalizeEmail email)
    let _ ← findLive after userId
    .ok after

def bindBuiltInExternalIdentityWithAuthVersion (provider subject : String) :
    Except String Directory :=
  match Provider.ofName? (lower (trimSpace provider)) with
  | none => .error "invalid external identity binding"
  | some provider =>
    if userId ≤ 0 ∨ trimSpace subject = "" then .error "invalid external identity binding"
    else do
      let claims ← replaceExternalIdentityWithTx directory.claims provider (trimSpace subject)
        userId
      let after ← updateWithVersion { directory with claims } userId fun row =>
        row.withIdentity (trimSpace subject) provider
      let _ ← findLive after userId
      .ok after

/-- A deleted account keeps its columns; the claim is released in any case. -/
def clearBinding (bindingType : String) : Except String Directory :=
  if userId = 0 then .error "user id is empty"
  else if bindingType = "email" then
    updateWithVersion directory userId fun row => row.withEmail ""
  else match Provider.ofName? bindingType with
    | none => .error "invalid binding type"
    | some provider =>
      let claims := releaseExternalIdentityWithTx directory.claims provider userId
      updateWithVersion { directory with claims } userId fun row => row.withIdentity "" provider

/-- The part of `deleteUserAuthenticationData` that concerns external identities. -/
def deleteUserAuthenticationData : Directory :=
  { directory with
    claims := releaseAllExternalIdentitiesWithTx directory.claims userId
    bindings := directory.bindings.remove fun binding => binding.userId = userId }

/-- `User.Delete`; the identity columns stay on the row. -/
def delete : Except String Directory :=
  if userId = 0 then .error "id 为空！"
  else updateWithVersion (deleteUserAuthenticationData directory userId) userId Account.removed

def hardDelete : Except String Directory :=
  if userId = 0 then .error "id 为空！"
  else match updateWithVersion (deleteUserAuthenticationData directory userId) userId id with
    | .error cause => .error cause
    | .ok after => .ok { after with users := after.users.remove fun row => row.id = userId }

inductive Call where
  | register (form : Form)
  | createUser (myRole : Int) (form : Form)
  | findOrCreateOAuthUser (provider : OAuthProvider) (oauthUser : OAuthUser)
  | updateUser (myRole : Int) (form : Form)
  | updateSelf (userId : Int) (form : Form)
  | bindEmail (userId : Int) (email token : String)
  | bindIdentity (userId : Int) (provider subject : String)
  | updateGitHubId (userId : Int) (newGitHubId : String)
  | clearBinding (userId : Int) (bindingType : String)
  | delete (userId : Int)
  | hardDelete (userId : Int)
  -- Every start-up.
  | initializeExternalIdentityClaims

def committed : Except String Directory → Directory
  | .error _ => directory
  | .ok after => after

def perform (entry : Environment × Call) : Directory :=
  match entry.2 with
  | .register form => committed directory (register entry.1 directory form)
  | .createUser myRole form => committed directory (createUser entry.1 directory myRole form)
  | .findOrCreateOAuthUser provider oauthUser =>
    (findOrCreateOAuthUser entry.1 directory provider oauthUser).1
  | .updateUser myRole form => committed directory (updateUser entry.1 directory myRole form)
  | .updateSelf userId form => committed directory (updateSelf entry.1 directory userId form)
  | .bindEmail userId email token =>
    committed directory (bindEmailToUserWithVerification entry.1 directory userId email token)
  | .bindIdentity userId provider subject =>
    committed directory
      (bindBuiltInExternalIdentityWithAuthVersion directory userId provider subject)
  | .updateGitHubId userId newGitHubId =>
    committed directory (updateGitHubId directory userId newGitHubId)
  | .clearBinding userId bindingType =>
    committed directory (clearBinding directory userId bindingType)
  | .delete userId => committed directory (delete directory userId)
  | .hardDelete userId => committed directory (hardDelete directory userId)
  | .initializeExternalIdentityClaims =>
    committed directory (initializeExternalIdentityClaims directory)

end NewApi.Accounts
