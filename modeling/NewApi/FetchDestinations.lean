import NewApi.ProtectedFetch
import NewApi.Schema

/-!
Where protected fetches connect to. A connection belongs to a transport, and a transport to
one policy: its dialer has checked the port and the address of every connection against it.
A request uses the transport that carries the fingerprint of its own snapshot. As long as no
two policies of a run share a fingerprint, the policy of the transport is the snapshot, also
when the setting changes back and forth between the steps of the requests.
-/

namespace NewApi.FetchDestinations

open Runs Interleaving Addresses FetchPolicy ProtectedFetch List

/-- Protection is on, resolved addresses are filtered, and the policy is one of `policies`. -/
structure Guarded (net : Net) (policies : Set SSRFProtection) (setting : FetchSetting) : Prop where
  enabled : setting.enableSSRFProtection = true
  filtered : setting.applyIPFilterForDomain = true
  known : ∀ policy, newSSRFProtectionFromFetchSetting net setting = .ok policy → policy ∈ policies

variable (net : Net)

/-- The policy lets requests go to this address and port. -/
def Permits (policy : SSRFProtection) (remote : Remote) : Prop :=
  isIPAccessAllowed net policy remote.ip = true ∧ isAllowedPort policy remote.port = true

/-- The request went to an address that its own policy snapshot permits, and through no
forward proxy. -/
def Permitted (sent : Sent) : Prop :=
  ∃ policy remote, sent.policy = some policy ∧ sent.remote = some remote ∧
    Permits net policy remote ∧ sent.route ≠ .unprotected

/-- Settings change to guarded ones only. -/
def Allowed (policies : Set SSRFProtection) : Event Fetch Move → Prop
  | .environment (.configure setting) => Guarded net policies setting
  | _ => True

variable {Digest : Type}

def Held (shared : Shared Digest) (connection : Connection) : Prop :=
  ∃ policy, shared.transports[connection.transport]? = some policy ∧
    Permits net policy connection.remote

structure Good (client : Client Digest) (policies : Set SSRFProtection)
    (shared : Shared Digest) : Prop where
  setting : Guarded client.net policies shared.setting
  transports : ∀ policy ∈ shared.transports,
    policy.applyIPFilterForDomain = true ∧ policy ∈ policies
  current : ∀ transport, shared.transport = some transport →
    ∃ policy, shared.transports[transport]? = some policy ∧
      shared.policyFingerprint = some (client.fingerprint (some policy))
  pool : ∀ connection ∈ shared.pool, Held client.net shared connection
  sent : ∀ sent ∈ shared.sent, Permitted client.net sent

def Fits (client : Client Digest) (policies : Set SSRFProtection) (shared : Shared Digest) :
    Fetch → Prop
  | .roundTrip .. | .checkRedirect .. => True
  | .unprotected .. => False
  | .transportForPolicy policy .. => policy.applyIPFilterForDomain = true ∧ policy ∈ policies
  | .waiting policy _ _ transport => shared.transports[transport]? = some policy
  | .lookup policy _ _ transport _ port =>
    shared.transports[transport]? = some policy ∧ isAllowedPort policy port = true
  | .dial policy _ _ transport ips port =>
    shared.transports[transport]? = some policy ∧
      ∀ ip ∈ ips, Permits client.net policy ⟨ip, port⟩
  | .send policy _ _ connection =>
    shared.transports[connection.transport]? = some policy ∧
      Permits client.net policy connection.remote
  | .read _ connection => Held client.net shared connection

def Later (before after : Shared Digest) : Prop :=
  ∀ (transport : Nat) (policy : SSRFProtection), before.transports[transport]? = some policy →
    after.transports[transport]? = some policy

variable {net} {after before shared : Shared Digest} {fetch next : Fetch}
  {policies : Set SSRFProtection} {policy : SSRFProtection} {host network addr : String} {url : URL}
  {transport via : Nat}

theorem Later.held {connection : Connection} (later : Later before after)
    (held : Held net before connection) : Held net after connection := by
  rcases held with ⟨policy, found, permits⟩
  exact ⟨policy, later _ _ found, permits⟩

variable {client : Client Digest}

theorem Later.fits (later : Later before after) (fits : Fits client policies before fetch) :
    Fits client policies after fetch := by
  cases fetch with
  | roundTrip | checkRedirect => trivial
  | unprotected => exact fits
  | transportForPolicy => exact fits
  | waiting => exact later _ _ fits
  | lookup | dial | send => exact ⟨later _ _ fits.1, fits.2⟩
  | read => exact later.held fits

theorem later_append (appended : after.transports = before.transports ++ [policy]) :
    Later before after := by
  intro transport found present
  have bound : transport < before.transports.length :=
    List.getElem?_eq_some_iff.mp present |>.choose
  rw [appended, getElem?_append_left bound]
  exact present

theorem later_same (same : after.transports = before.transports) : Later before after := by
  intro transport policy found
  rw [same]
  exact found

theorem Good.of_pool (good : Good client policies shared) {pool : List Connection}
    (held : ∀ connection ∈ pool, Held client.net shared connection) :
    Good client policies { shared with pool } :=
  { good with pool := held }

/-! One step. -/

theorem good_closeIdle (good : Good client policies shared) (transport : Option Nat) :
    Good client policies (shared.closeIdle transport) := by
  apply good.of_pool
  intro connection member
  exact good.pool connection (mem_of_mem_filter member)

theorem candidateIPs_allowed {answer : List (Option IP)} {ips : List IP}
    (usable : candidateIPs net policy network host answer = .ok ips) :
    ∀ ip ∈ ips, isIPAccessAllowed net policy ip = true := by
  induction answer generalizing ips with
  | nil =>
    cases usable
    intro ip member
    cases member
  | cons first rest ih =>
    cases first with
    | none => exact ih usable
    | some ip =>
      simp only [candidateIPs] at usable
      split at usable
      · rcases bind_ok usable with ⟨_, valid, usable⟩
        rcases bind_ok usable with ⟨more, tail, usable⟩
        cases usable
        have allowed : isIPAccessAllowed net policy ip = true := by
          simp only [validateResolvedIP] at valid
          by_contra denied
          rw [if_neg denied] at valid
          cases valid
        exact forall_mem_cons.mpr ⟨allowed, ih tail⟩
      · exact ih usable

theorem dialPlan_permits {plan : Plan} (filtered : policy.applyIPFilterForDomain = true)
    (planned : dialPlan net policy addr = .ok plan) :
    match plan with
    | .literal ip port => Permits net policy ⟨ip, port⟩
    | .resolve _ port => isAllowedPort policy port = true
    | .unfiltered .. => False := by
  simp only [dialPlan] at planned
  cases parts : splitHostPort addr.toList with
  | none => simp [parts] at planned
  | some pair =>
    rcases pair with ⟨host, digits⟩
    simp only [parts] at planned
    cases number : atoi (String.ofList digits) with
    | none => simp [number] at planned
    | some port =>
      simp only [number] at planned
      cases checked : validateNetworkTarget net policy (String.ofList host) port with
      | error cause => simp [checked] at planned
      | ok done =>
        have port_allowed := (validateNetworkTarget_ok checked).1
        simp only [checked] at planned
        cases literal : net.parseIP (String.ofList host) with
        | some ip =>
          simp only [literal] at planned
          cases planned
          exact ⟨allowed_of_literal checked literal, port_allowed⟩
        | none =>
          simp only [literal, filtered, if_true] at planned
          cases planned
          exact port_allowed

theorem later_obtain (via transport : Nat) :
    Later shared (obtain client shared policy url via transport).1 := by
  apply later_same
  simp only [obtain]
  repeat' split
  all_goals rfl

theorem obtain_good (good : Good client policies shared) (via transport : Nat) :
    Good client policies (obtain client shared policy url via transport).1 := by
  simp only [obtain]
  split
  · apply good.of_pool
    intro connection member
    split at member
    · exact good.pool connection member
    · exact good.pool connection (mem_of_mem_erase member)
  · split
    · exact good
    · split <;> exact good

theorem obtain_fits (good : Good client policies shared)
    (found : shared.transports[transport]? = some policy)
    (present : (obtain client shared policy url via transport).2 = some next) :
    Fits client policies shared next := by
  simp only [obtain] at present
  split at present
  · rename_i connection taken
    cases present
    have member := mem_of_getElem? taken
    rw [mem_filter] at member
    have own : connection.transport = transport := by
      have fields := member.2
      simp only [decide_eq_true_eq] at fields
      exact fields.1
    rcases good.pool connection member.1 with ⟨held, carried, permits⟩
    rw [own, found] at carried
    cases carried
    exact ⟨own ▸ found, permits⟩
  · rw [found] at present
    have filtered := (good.transports policy (mem_of_getElem? found)).1
    simp only at present
    split at present
    · cases present
    · rename_i planned
      cases present
      refine ⟨found, ?_⟩
      intro ip member
      rw [mem_singleton] at member
      rw [member]
      exact dialPlan_permits filtered planned
    · rename_i planned
      cases present
      exact ⟨found, dialPlan_permits filtered planned⟩
    · rename_i planned
      exact (dialPlan_permits filtered planned).elim

variable [DecidableEq Digest]

theorem later_transportForPolicy :
    Later shared (transportForPolicy client shared policy).1 := by
  have replaced : Later shared (transportForPolicy.replace client shared policy).1 :=
    later_append rfl
  simp only [transportForPolicy]
  split
  · split
    · exact later_same rfl
    · exact replaced
  · exact replaced

theorem later_roundTrip (via : Nat) :
    Later shared (roundTrip client shared url via).1 := by
  apply later_same
  simp only [roundTrip, observeDisabledPolicy, Shared.closeIdle]
  repeat' split
  all_goals rfl

theorem later_resume (fetch : Fetch) : Later shared (resume client shared fetch).1 := by
  cases fetch with
  | roundTrip url via => exact later_roundTrip via
  | transportForPolicy policy url via => exact later_transportForPolicy
  | waiting policy url via transport => exact later_obtain via transport
  | unprotected | send | read | checkRedirect => exact later_same rfl
  | lookup | dial =>
    apply later_same
    simp only [resume]
    repeat' split
    all_goals rfl

section

variable (good : Good client policies shared)

include good

theorem transportForPolicy_carries
    (distinct : Set.InjOn (fun policy => client.fingerprint (some policy)) policies)
    (known : policy ∈ policies) :
    (transportForPolicy client shared policy).1.transports[
      (transportForPolicy client shared policy).2]? = some policy := by
  have replaced : (transportForPolicy.replace client shared policy).1.transports[
      (transportForPolicy.replace client shared policy).2]? = some policy := by
    simp [transportForPolicy.replace]
  simp only [transportForPolicy]
  split
  · rename_i transport present
    split
    · rename_i same
      rcases good.current transport present with ⟨held, found, carried⟩
      have agree : held = policy := by
        apply distinct (good.transports held (mem_of_getElem? found)).2 known
        exact Option.some.inj (carried.symm.trans same)
      rw [← agree]
      exact found
    · exact replaced
  · exact replaced

theorem good_transportForPolicy (filtered : policy.applyIPFilterForDomain = true)
    (known : policy ∈ policies) :
    Good client policies (transportForPolicy client shared policy).1 := by
  have replaced : Good client policies (transportForPolicy.replace client shared policy).1 := by
    have closed := good_closeIdle good shared.transport
    constructor
    · exact closed.setting
    · refine forall_mem_append.mpr ⟨good.transports, ?_⟩
      rw [forall_mem_singleton]
      exact ⟨filtered, known⟩
    · intro transport present
      cases present
      exact ⟨policy, by simp [transportForPolicy.replace], rfl⟩
    · intro connection member
      exact Later.held (later_append rfl) (closed.pool connection member)
    · exact closed.sent
  simp only [transportForPolicy]
  split
  · split
    · exact good
    · exact replaced
  · exact replaced

theorem roundTrip_guarded (url : URL) (via : Nat) :
    (roundTrip client shared url via).1 = shared ∧
      ∀ next ∈ (roundTrip client shared url via).2, Fits client policies shared next := by
  simp only [roundTrip, good.setting.enabled, if_true]
  cases parsed : newSSRFProtectionFromFetchSetting client.net shared.setting with
  | error cause => simp
  | ok policy =>
    have filtered : policy.applyIPFilterForDomain = true := by
      simp only [newSSRFProtectionFromFetchSetting] at parsed
      split at parsed
      · cases parsed
      cases parsed
      exact good.setting.filtered
    have known := good.setting.known policy parsed
    by_cases rejected : client.rejectForwardProxy = true
    · simp [rejected]
    · simp only [rejected]
      cases validateProtectedFetchTargetURL client.net policy url with
      | error cause => simp
      | ok done =>
        refine ⟨rfl, ?_⟩
        intro next present
        cases present
        exact ⟨filtered, known⟩

theorem good_resume (fits : Fits client policies shared fetch) :
    Good client policies (resume client shared fetch).1 := by
  cases fetch with
  | roundTrip url via =>
    simp only [resume, (roundTrip_guarded good url via).1]
    exact good
  | unprotected => exact fits.elim
  | transportForPolicy policy url via => exact good_transportForPolicy good fits.1 fits.2
  | waiting policy url via transport => exact obtain_good good via transport
  | lookup policy url via transport host port =>
    simp only [resume]
    repeat' split
    all_goals exact good
  | dial policy url via transport ips port =>
    simp only [resume]
    split
    · exact good
    rename_i ip rest
    split
    · have first := (forall_mem_cons.mp fits.2).1
      exact good.of_pool (forall_mem_cons.mpr ⟨⟨policy, fits.1, first⟩, good.pool⟩)
    · exact good
  | send policy url via connection =>
    refine { good with sent := forall_mem_cons.mpr ⟨?_, good.sent⟩ }
    refine ⟨policy, connection.remote, rfl, rfl, fits.2, ?_⟩
    simp only [Client.route]
    split <;> simp
  | read via connection =>
    apply good.of_pool
    split
    · exact forall_mem_cons.mpr ⟨fits, good.pool⟩
    · exact good.pool
  | checkRedirect => exact good

theorem fits_resume (distinct : Set.InjOn (fun policy => client.fingerprint (some policy)) policies)
    (fits : Fits client policies shared fetch)
    (present : (resume client shared fetch).2 = some next) :
    Fits client policies (resume client shared fetch).1 next := by
  cases fetch with
  | roundTrip url via =>
    rcases roundTrip_guarded good url via with ⟨same, ready⟩
    simp only [resume] at present ⊢
    rw [same]
    exact ready next present
  | unprotected => exact fits.elim
  | transportForPolicy policy url via =>
    cases present
    exact transportForPolicy_carries good distinct fits.2
  | waiting policy url via transport =>
    exact (later_obtain via transport).fits (obtain_fits good fits present)
  | lookup policy url via transport host port =>
    have rest : Fits client policies shared next := by
      simp only [resume, fits.1] at present
      split at present
      · cases present
      split at present
      · cases present
      rename_i usable
      cases present
      refine ⟨fits.1, ?_⟩
      intro ip member
      exact ⟨candidateIPs_allowed usable ip member, fits.2⟩
    exact (later_resume _).fits rest
  | dial policy url via transport ips port =>
    have rest : Fits client policies shared next := by
      simp only [resume] at present
      split at present
      · cases present
      split at present
      · cases present
        exact fits.1
      · cases present
        exact ⟨fits.1, (forall_mem_cons.mp fits.2).2⟩
    exact (later_resume _).fits rest
  | send policy url via connection =>
    cases present
    exact ⟨policy, fits.1, fits.2⟩
  | read via connection =>
    simp only [resume, Option.map_eq_some_iff] at present
    rcases present with ⟨target, -, rfl⟩
    trivial
  | checkRedirect url via =>
    cases redirect_roundTrip present
    trivial

end

theorem preserved
    (distinct : Set.InjOn (fun policy => client.fingerprint (some policy)) policies) :
    Preserved (program client) (fun _ event => Allowed client.net policies event)
      (Good client policies) (Fits client policies) where
  resume_good := fun _ good fits => good_resume good fits
  resume_self := fun _ good fits present => fits_resume good distinct fits present
  resume_other := fun _ _ _ fits => (later_resume _).fits fits
  environment_good := by
    intro shared move allowed good
    cases move with
    | configure setting => exact { good with setting := allowed }
    | change | request => exact { good with }
    | close place =>
      apply good.of_pool
      intro connection member
      exact good.pool connection (mem_of_mem_eraseIdx member)
  environment_new := by
    intro shared move fetch _ _ started
    cases move with
    | configure | change | close => cases started
    | request url =>
      rw [mem_singleton.mp started]
      trivial
  environment_other := by
    intro shared move fetch _ _ fits
    cases move <;> exact (later_same rfl).fits fits

/-- Every request of a protected client was sent to an address and a port that the policy
snapshot of its own round trip permits, and never through a forward proxy. -/
theorem requests_reach_permitted_addresses (client : Client Digest)
    (policies : Set SSRFProtection)
    (distinct : Set.InjOn (fun policy => client.fingerprint (some policy)) policies)
    (setting : FetchSetting) (guarded : Guarded client.net policies setting) (network : Network)
    (events : List (Event Fetch Move))
    (changes : ∀ event ∈ events, Allowed client.net policies event) :
    ∀ sent ∈ (run (step (program client)) (begin Digest setting network) events).shared.sent,
      Permitted client.net sent := by
  have initial : Holds (Good client policies) (Fits client policies)
      (begin Digest setting network) := by
    constructor
    · refine ⟨guarded, ?_, ?_, ?_, ?_⟩
      · intro policy member
        cases member
      · intro transport present
        cases present
      · intro connection member
        cases member
      · intro sent member
        cases member
    · intro fetch member
      cases member
  have steps : AllSteps (step (program client))
      (fun _ event => Allowed client.net policies event) (begin Digest setting network) events :=
    .of_forall changes
  exact ((preserved distinct).holds_run _ events steps initial).1.sent

def sampleParseIP (text : String) : Option IP :=
  if text = "127.0.0.1" then some (IP.ofV4 (v4 127 0 0 1)) else none

theorem sampleParseIP_trimmed {ip : IP} (parsed : sampleParseIP host = some ip) :
    trimSpace host = host := by
  simp only [sampleParseIP] at parsed
  split at parsed
  · rename_i same
    rw [same]
    decide +kernel
  · cases parsed

def sampleNet : Net where
  parseIP := sampleParseIP
  parseCIDR := fun text =>
    if text = "93.184.216.0/24" then some (.v4 (v4 93 184 216 0) 24) else none
  showIP := fun ip => toString ip.toNat
  parseURL := fun _ => none
  showURL := fun url => url.scheme ++ "://" ++ url.host
  toASCII := id
  toLower := lower
  trimSpace := trimSpace
  parseIP_trimmed := sampleParseIP_trimmed

def sampleClient : Client (Option SSRFProtection) where
  net := sampleNet
  fingerprint := id

def sampleNetwork : Network where
  lookupIPAddr := fun host =>
    if host = "files.example" then .ok [none, some (IP.ofV4 (v4 93 184 216 34))]
    else .ok [some (IP.ofV4 (v4 10 0 0 1))]

def denyingSetting : FetchSetting := { ipList := ["93.184.216.0/24"] }

/-- Two requests reach the file host, the second on the connection of the first one; one is
refused while the address is denied; one goes to a name with a private address. -/
def sampleEvents : List (Event Fetch Move) :=
  let files := .inr (.request ⟨"https", "files.example"⟩)
  let first := [files, .inl 0, .inl 0, .inl 0, .inl 0, .inl 0, .inl 0, .inl 0, .inl 0]
  schedule (program sampleClient) (begin _ {} sampleNetwork)
    (first ++ [files, .inl 0, .inl 0, .inl 0, .inr (.configure denyingSetting), files,
        .inl 0, .inl 0, .inl 0, .inl 0, .inr (.configure {}), .inl 0, .inl 0] ++
      [.inr (.request ⟨"http", "intranet.example:8080"⟩), .inl 0, .inl 0, .inl 0, .inl 0])

def protective : Event Fetch Move → Bool
  | .environment (.configure setting) =>
    setting.enableSSRFProtection && setting.applyIPFilterForDomain
  | _ => true

theorem allowed_of_protective {event : Event Fetch Move} (guarded : protective event = true) :
    Allowed net Set.univ event := by
  cases event with
  | resume => trivial
  | environment move =>
    cases move with
    | configure setting =>
      simp only [protective, Bool.and_eq_true] at guarded
      exact ⟨guarded.1, guarded.2, fun _ _ => trivial⟩
    | change | request | close => trivial

theorem requests_reach_permitted_addresses_changing :
    ((run (step (program sampleClient)) (begin _ {} sampleNetwork) sampleEvents).shared.sent.map
        Sent.remote) =
      [some ⟨IP.ofV4 (v4 93 184 216 34), 443⟩, some ⟨IP.ofV4 (v4 93 184 216 34), 443⟩] ∧
      ∀ sent ∈ (run (step (program sampleClient)) (begin _ {} sampleNetwork)
        sampleEvents).shared.sent, Permitted sampleNet sent := by
  constructor
  · decide +kernel
  · apply requests_reach_permitted_addresses sampleClient Set.univ (fun _ _ _ _ => Option.some.inj)
      {} ⟨rfl, rfl, fun _ _ => trivial⟩ sampleNetwork sampleEvents
    have guarded : ∀ event ∈ sampleEvents, protective event = true := by decide +kernel
    intro event member
    exact allowed_of_protective (guarded event member)

end NewApi.FetchDestinations
