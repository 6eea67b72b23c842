import NewApi.FetchDestinations

/-!
Denied domains under other spellings. Letter case and surrounding white space do not matter
to the domain filter, and `*.` entries cover the name itself and every name below it. The
dot that may end a fully qualified name does matter to it: with or without the dot the
resolver looks up the same name, but the filter compares the texts. A denied name is out of
reach exactly where an entry covers its text as well.
-/

namespace NewApi.DeniedDomains

open Runs Interleaving Addresses FetchPolicy ProtectedFetch

def dropDot (text : String) : String :=
  if text.toList.getLast? = some '.' then String.ofList text.toList.dropLast else text

/-- A host or an entry read as a DNS name: letter case and one trailing dot do not matter. -/
def dnsName (net : Net) (text : String) : String := net.toLower (dropDot (net.trimSpace text))

/-- The entry is the name, or a `*.` entry for it. -/
def Covers (entry name : String) : Prop :=
  entry ≠ "" ∧ (name = entry ∨ ∃ suffix, entry.toList = '*' :: '.' :: suffix ∧
    (name.toList = suffix ∨ '.' :: suffix <:+ name.toList))

/-- The list covers this host, which is a name and no address. -/
def Denied (net : Net) (list : List String) (host : String) : Prop :=
  net.trimSpace host ≠ "" ∧ net.parseIP (net.trimSpace host) = none ∧
    ∃ entry ∈ list, Covers (dnsName net entry) (dnsName net host)

/-- An entry covers the host letter by letter, a trailing dot of either one included. -/
def CoveredAsWritten (net : Net) (list : List String) (host : String) : Prop :=
  ∃ entry ∈ list, Covers (net.toLower (net.trimSpace entry)) (net.toLower (net.trimSpace host))

theorem matchesWildcard_iff (name item : List Char) :
    matchesWildcard name item = true ↔
      ∃ suffix, item = '*' :: '.' :: suffix ∧ (name = suffix ∨ '.' :: suffix <:+ name) := by
  simp only [matchesWildcard, Bool.and_eq_true, Bool.or_eq_true, beq_iff_eq,
    List.isPrefixOf_iff_prefix, List.isSuffixOf_iff_suffix]
  constructor
  · rintro ⟨⟨suffix, rfl⟩, below⟩
    exact ⟨suffix, rfl, below.symm⟩
  · rintro ⟨suffix, rfl, below⟩
    exact ⟨⟨suffix, rfl⟩, below.symm⟩

theorem isDomainListed_iff (net : Net) (list : List String) (host : String) :
    isDomainListed net (net.trimSpace host) list = true ↔ CoveredAsWritten net list host := by
  simp only [isDomainListed, List.any_eq_true, Bool.and_eq_true, Bool.or_eq_true, beq_iff_eq,
    decide_eq_true_eq, matchesWildcard_iff, CoveredAsWritten, Covers]

variable {host scheme : String} {policy : SSRFProtection}

theorem validateNetworkTarget_covered {net : Net} (denying : policy.domainFilterMode = false)
    (name : net.parseIP (net.trimSpace host) = none)
    (covered : CoveredAsWritten net policy.domainList host) (port : Int) :
    validateNetworkTarget net policy host port ≠ .ok () := by
  intro passed
  have target := (validateNetworkTarget_ok passed).2
  rw [name] at target
  simp only [isDomainAllowed, denying, (isDomainListed_iff ..).2 covered] at target
  cases target

theorem urlTarget_host (url : ParsedURL) : (urlTarget url.toURL).1 = url.hostname := by
  simp only [urlTarget]
  cases split : splitHostPort url.host.toList with
  | none => rfl
  | some parts =>
    simp only [URL.hostname, splitUrlHost_of_splitHostPort split]

theorem validateURL_covered {net : Net} {text : String} {url : ParsedURL}
    (denying : policy.domainFilterMode = false)
    (name : net.parseIP (net.trimSpace url.hostname) = none)
    (covered : CoveredAsWritten net policy.domainList url.hostname)
    (parsed : net.parseURL text = some url) (lookup : String → Except String (List IP)) :
    ∃ cause, validateURL net policy lookup text = .error cause := by
  cases result : validateURL net policy lookup text with
  | error cause => exact ⟨cause, rfl⟩
  | ok done =>
    simp only [validateURL, parsed] at result
    split at result
    · cases result
    split at result
    · cases result
    rename_i port number
    rcases bind_ok result with ⟨_, passed, -⟩
    rw [urlTarget_host] at passed
    exact absurd passed (validateNetworkTarget_covered denying name covered port)

/-- A policy that filters nothing but the denied names. -/
def onlyDenying (list : List String) : SSRFProtection where
  domainFilterMode := false
  domainList := list

theorem validateURL_uncovered {net : Net} {list : List String} {text : String}
    {url : ParsedURL} (parsed : net.parseURL text = some url)
    (web : url.scheme = "http" ∨ url.scheme = "https")
    (portless : splitHostPort url.host.toList = none)
    (named : net.trimSpace url.hostname ≠ "")
    (name : net.parseIP (net.trimSpace url.hostname) = none)
    (uncovered : ¬CoveredAsWritten net list url.hostname)
    (lookup : String → Except String (List IP)) :
    validateURL net (onlyDenying list) lookup text = .ok () := by
  have unlisted : isDomainListed net (net.trimSpace url.hostname) list = false := by
    rw [← Bool.not_eq_true, isDomainListed_iff]
    exact uncovered
  have target (port : Int) (valid : validPort port = true) :
      validateNetworkTarget net (onlyDenying list) url.hostname port = .ok () := by
    simp [validateNetworkTarget, named, valid, name, isAllowedPort, isDomainAllowed, onlyDenying,
      unlisted]
  have port : ∃ port, atoi (defaultPort url.scheme) = some port ∧ validPort port = true := by
    rcases web with scheme | scheme
    · exact ⟨80, by rw [scheme]; decide +kernel⟩
    · exact ⟨443, by rw [scheme]; decide +kernel⟩
  obtain ⟨port, number, valid⟩ := port
  simp only [validateURL, parsed, urlTarget, portless, number, target port valid]
  rw [if_neg (by rcases web with scheme | scheme <;> simp [scheme])]
  simp [bind, Except.bind, onlyDenying]

section Client

variable {Digest : Type} {client : Client Digest}

def Checked (client : Client Digest) (shared : Shared Digest) : Prop :=
  ∀ sent ∈ shared.sent, ∀ policy, sent.policy = some policy →
    validateProtectedFetchTargetURL client.net policy sent.url = .ok ()

def Passed (client : Client Digest) (_ : Shared Digest) : Fetch → Prop
  | .roundTrip .. | .unprotected .. | .read .. | .checkRedirect .. => True
  | .transportForPolicy policy url .. | .waiting policy url .. | .lookup policy url ..
  | .dial policy url .. | .send policy url .. =>
    validateProtectedFetchTargetURL client.net policy url = .ok ()

variable {fetch next : Fetch} {other shared : Shared Digest} {url : URL}

theorem passed_shared (passed : Passed client shared fetch) : Passed client other fetch := by
  cases fetch <;> exact passed

variable [DecidableEq Digest]

theorem transportForPolicy_sent :
    (transportForPolicy client shared policy).1.sent = shared.sent := by
  simp only [transportForPolicy, transportForPolicy.replace, Shared.closeIdle]
  repeat' split
  all_goals rfl

theorem roundTrip_sent (url : URL) (via : Nat) :
    (roundTrip client shared url via).1.sent = shared.sent := by
  simp only [roundTrip, observeDisabledPolicy, Shared.closeIdle]
  repeat' split
  all_goals rfl

theorem checked_resume (checked : Checked client shared) (passed : Passed client shared fetch) :
    Checked client (resume client shared fetch).1 := by
  have same {after : Shared Digest} (unsent : after.sent = shared.sent) : Checked client after := by
    simp only [Checked, unsent]
    exact checked
  cases fetch with
  | roundTrip url via => exact same (roundTrip_sent url via)
  | transportForPolicy policy url via => exact same transportForPolicy_sent
  | read | checkRedirect => exact same rfl
  | waiting =>
    apply same
    simp only [resume, obtain]
    repeat' split
    all_goals rfl
  | lookup | dial =>
    apply same
    simp only [resume]
    repeat' split
    all_goals rfl
  | unprotected url =>
    exact List.forall_mem_cons.mpr ⟨by rintro policy ⟨⟩, checked⟩
  | send used url via connection =>
    refine List.forall_mem_cons.mpr ⟨?_, checked⟩
    intro policy snapshot
    cases snapshot
    exact passed

theorem passed_roundTrip {via : Nat} (present : (roundTrip client shared url via).2 = some next) :
    Passed client shared next := by
  simp only [roundTrip] at present
  split at present
  · split at present
    · cases present
    split at present
    · cases present
    split at present
    · cases present
    rename_i valid
    cases present
    exact valid
  · cases present
    trivial

theorem passed_resume (passed : Passed client shared fetch)
    (present : (resume client shared fetch).2 = some next) : Passed client shared next := by
  cases fetch with
  | roundTrip url via => exact passed_roundTrip present
  | unprotected => cases present
  | transportForPolicy | send =>
    cases present
    first
      | exact passed
      | trivial
  | waiting policy url via transport =>
    simp only [resume, obtain] at present
    split at present
    · cases present
      exact passed
    · split at present
      · cases present
      split at present
      · cases present
      all_goals
        cases present
        exact passed
  | lookup policy url via transport target port =>
    simp only [resume] at present
    iterate 3
      split at present
      · cases present
    cases present
    exact passed
  | dial policy url via transport ips port =>
    simp only [resume] at present
    split at present
    · cases present
    split at present
    all_goals
      cases present
      exact passed
  | read via connection =>
    simp only [resume, Option.map_eq_some_iff] at present
    rcases present with ⟨target, -, rfl⟩
    trivial
  | checkRedirect url via =>
    cases redirect_roundTrip present
    trivial

theorem preserved :
    Preserved (program client) (fun _ _ => True) (Checked client) (Passed client) where
  resume_good := fun _ checked passed => checked_resume checked passed
  resume_self := fun _ _ passed present => passed_shared (passed_resume passed present)
  resume_other := fun _ _ _ passed => passed_shared passed
  environment_good := by
    intro shared move _ checked
    cases move <;> exact checked
  environment_new := by
    intro shared move fetch _ _ started
    cases move with
    | configure | change | close => cases started
    | request url =>
      rw [List.mem_singleton.mp started]
      trivial
  environment_other := fun _ _ passed => passed_shared passed

theorem requests_checked (setting : FetchSetting) (network : Network)
    (events : List (Event Fetch Move)) :
    Checked client (run (step (program client)) (begin Digest setting network) events).shared := by
  have initial : Holds (Checked client) (Passed client) (begin Digest setting network) := by
    constructor
    · intro sent member
      cases member
    · intro fetch member
      cases member
  have steps : AllSteps (step (program client)) (fun _ _ => True)
      (begin Digest setting network) events :=
    .of_forall fun _ _ => trivial
  exact (preserved.holds_run _ events steps initial).1

theorem validateProtectedFetchTargetURL_covered {net : Net}
    (denying : policy.domainFilterMode = false)
    (name : net.parseIP (net.trimSpace url.hostname) = none)
    (covered : CoveredAsWritten net policy.domainList url.hostname) :
    validateProtectedFetchTargetURL net policy url ≠ .ok () := by
  intro passed
  simp only [validateProtectedFetchTargetURL] at passed
  split at passed
  · cases passed
  split at passed
  · cases passed
  · exact validateNetworkTarget_covered denying name covered _ passed

/-- `ValidateURL` rejects every URL with this host, and whatever settings, network and other
requests do, the client sends no request to one under this policy. -/
def Unreachable (client : Client Digest) (policy : SSRFProtection) (host : String) : Prop :=
  (∀ text url lookup, client.net.parseURL text = some url → url.hostname = host →
    ∃ cause, validateURL client.net policy lookup text = .error cause) ∧
    ∀ setting network events,
      ∀ sent ∈ (run (step (program client)) (begin Digest setting network) events).shared.sent,
        sent.policy = some policy → sent.url.hostname ≠ host

end Client

/-- A denied name that URLs can spell is unreachable under every policy with this deny list
exactly when the list covers it as it is written. -/
theorem denied_domain_unreachable_iff {Digest : Type} [DecidableEq Digest] (client : Client Digest)
    (list : List String) (text : String) (url : ParsedURL)
    (parsed : client.net.parseURL text = some url)
    (web : url.scheme = "http" ∨ url.scheme = "https")
    (portless : splitHostPort url.host.toList = none)
    (denied : Denied client.net list url.hostname) :
    (∀ policy : SSRFProtection, policy.domainFilterMode = false → policy.domainList = list →
      Unreachable client policy url.hostname) ↔ CoveredAsWritten client.net list url.hostname := by
  obtain ⟨named, name, -⟩ := denied
  constructor
  · intro unreachable
    by_contra uncovered
    obtain ⟨cause, rejected⟩ :=
      (unreachable (onlyDenying list) rfl rfl).1 text url (fun _ => .ok []) parsed rfl
    rw [validateURL_uncovered parsed web portless named name uncovered] at rejected
    cases rejected
  · rintro covered policy denying rfl
    constructor
    · intro text url lookup parsed same
      rw [← same] at name covered
      exact validateURL_covered denying name covered parsed lookup
    · intro setting network events sent member snapshot same
      rw [← same] at name covered
      exact validateProtectedFetchTargetURL_covered denying name covered
        (requests_checked setting network events sent member policy snapshot)

theorem plain_portValid (plain : splitLast ':' host.toList = none) :
    URL.PortValid ⟨scheme, host⟩ := by
  intro before port split
  rw [plain] at split
  cases split

theorem mixedCase_portValid : URL.PortValid ⟨"https", "Files.EXAMPLE.com"⟩ :=
  plain_portValid (by decide +kernel)

theorem dotted_portValid : URL.PortValid ⟨"https", "example.com."⟩ :=
  plain_portValid (by decide +kernel)

def mixedCaseURL : ParsedURL := ⟨⟨"https", "Files.EXAMPLE.com"⟩, mixedCase_portValid⟩

def dottedURL : ParsedURL := ⟨⟨"https", "example.com."⟩, dotted_portValid⟩

def namingNet : Net :=
  { FetchDestinations.sampleNet with
    parseURL := fun text =>
      if text = "https://Files.EXAMPLE.com/" then some mixedCaseURL
      else if text = "https://example.com./" then some dottedURL
      else none }

def namingClient : Client (Option SSRFProtection) where
  net := namingNet
  fingerprint := id

def publicNetwork : Network where
  lookupIPAddr := fun _ => .ok [some (IP.ofV4 (v4 93 184 216 34))]

def denying (entry : String) : FetchSetting := { domainList := [entry] }

def denyingPolicy (entry : String) : SSRFProtection where
  domainFilterMode := false
  domainList := [entry]
  ipFilterMode := false
  allowedPorts := [⟨80, 80⟩, ⟨443, 443⟩, ⟨8080, 8080⟩, ⟨8443, 8443⟩]
  applyIPFilterForDomain := true

def fetchEvents (entry : String) (url : URL) : List (Event Fetch Move) :=
  schedule (program namingClient) (begin _ (denying entry) publicNetwork)
    [.inr (.request url), .inl 0, .inl 0, .inl 0, .inl 0, .inl 0, .inl 0, .inl 0]

theorem mixedCase_denied : Denied namingNet ["*.example.com"] mixedCaseURL.hostname := by
  refine ⟨by decide +kernel, by decide +kernel, "*.example.com", List.mem_singleton_self _,
    by decide +kernel, ?_⟩
  right
  exact ⟨"example.com".toList, by decide +kernel, .inr ⟨"files".toList, by decide +kernel⟩⟩

/-- The wildcard covers a name below it in capital letters as it is written. -/
theorem mixedCase_unreachable :
    newSSRFProtectionFromFetchSetting namingNet (denying "*.example.com") =
        .ok (denyingPolicy "*.example.com") ∧
      Unreachable namingClient (denyingPolicy "*.example.com") "Files.EXAMPLE.com" := by
  have covered : CoveredAsWritten namingNet ["*.example.com"] mixedCaseURL.hostname := by
    rw [← isDomainListed_iff]
    decide +kernel
  have unreachable := (denied_domain_unreachable_iff namingClient ["*.example.com"]
    "https://Files.EXAMPLE.com/" mixedCaseURL rfl (.inr rfl) (by decide +kernel)
    mixedCase_denied).2 covered (denyingPolicy "*.example.com") rfl rfl
  have host : mixedCaseURL.hostname = "Files.EXAMPLE.com" := by decide +kernel
  exact ⟨by decide +kernel, host ▸ unreachable⟩

/-- The dot hides `example.com` from the filter, and the client fetches from it. -/
theorem trailing_dot_reaches_denied_domain :
    Denied namingNet ["example.com"] dottedURL.hostname ∧
      namingNet.parseURL "https://example.com./" = some dottedURL ∧
      validateURL namingNet (denyingPolicy "example.com")
        (fun _ => .ok [IP.ofV4 (v4 93 184 216 34)]) "https://example.com./" = .ok () ∧
      (run (step (program namingClient)) (begin _ (denying "example.com") publicNetwork)
        (fetchEvents "example.com" dottedURL.toURL)).shared.sent =
        [{ policy := some (denyingPolicy "example.com"), url := dottedURL.toURL, route := .direct,
           remote := some ⟨IP.ofV4 (v4 93 184 216 34), 443⟩ }] := by
  have denied : Denied namingNet ["example.com"] dottedURL.hostname := by
    refine ⟨by decide +kernel, by decide +kernel, "example.com", List.mem_singleton_self _,
      by decide +kernel, ?_⟩
    left
    decide +kernel
  refine ⟨denied, rfl, ?_, ?_⟩
  · decide +kernel
  · decide +kernel

end NewApi.DeniedDomains
