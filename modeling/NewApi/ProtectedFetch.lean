import NewApi.FetchPolicy
import NewApi.Interleaving
import Mathlib.Data.Set.Function

/-!
The protected fetch client (service/protected_fetch_client.go). A round trip takes a
snapshot of the policy, checks the URL against it and sends the request on a connection of
the transport that belongs to the policy's fingerprint; the transport's dialer checks the
target and every resolved address again. A transport is a pool of connections that its own
dialer made, reused for the same scheme and address. The network (answers of the resolver,
reachable addresses, which connection is free) changes between any two steps, and so does
the setting. `fingerprint` is the hash of the encoded policy.
-/

namespace NewApi.ProtectedFetch

open Runs Interleaving Addresses FetchPolicy

inductive Route where
  | direct
  | socks
  -- The transport for disabled protection, which may use a forward proxy.
  | unprotected
  deriving DecidableEq

structure Client (Digest : Type) where
  net : Net
  fingerprint : Option SSRFProtection → Digest
  socks : Bool := false
  rejectForwardProxy : Bool := false

def Client.route {Digest : Type} (client : Client Digest) : Route :=
  if client.socks then .socks else .direct

structure Remote where
  ip : IP
  port : Int
  deriving DecidableEq

structure Connection where
  transport : Nat
  scheme : String
  address : String
  remote : Remote
  deriving DecidableEq

/-- A request that was sent, with the policy snapshot of its round trip. -/
structure Sent where
  policy : Option SSRFProtection
  url : URL
  route : Route
  remote : Option Remote
  deriving DecidableEq

structure Network where
  lookupIPAddr : String → Except String (List (Option IP)) := fun _ => .error "no such host"
  -- Where a dialer that resolves the name itself connects to.
  resolves : String → Option IP := fun _ => none
  connects : Remote → Bool := fun _ => true
  -- The place of the pooled connection that is free, and whether it stays in the pool in use.
  free : Nat := 0
  shared : Bool := false
  busy : Connection → Bool := fun _ => false
  keepAlive : Bool := true
  -- The target of a redirect.
  location : Option URL := none

variable {Digest : Type}

structure Shared (Digest : Type) where
  setting : FetchSetting
  network : Network
  -- `transport`, by its place among the transports, and `policyFingerprint`.
  transport : Option Nat := none
  policyFingerprint : Option Digest := none
  -- The policy each transport's dialer holds.
  transports : List SSRFProtection := []
  pool : List Connection := []
  sent : List Sent := []

/-- A fetch between two steps; `via` counts the requests before it. -/
inductive Fetch where
  | roundTrip (url : URL) (via : Nat)
  | unprotected (url : URL)
  | transportForPolicy (policy : SSRFProtection) (url : URL) (via : Nat)
  | waiting (policy : SSRFProtection) (url : URL) (via transport : Nat)
  | lookup (policy : SSRFProtection) (url : URL) (via transport : Nat) (host : String) (port : Int)
  | dial (policy : SSRFProtection) (url : URL) (via transport : Nat) (ips : List IP) (port : Int)
  | send (policy : SSRFProtection) (url : URL) (via : Nat) (connection : Connection)
  | read (via : Nat) (connection : Connection)
  | checkRedirect (url : URL) (via : Nat)
  deriving DecidableEq

def portText (url : URL) : String := if url.port = "" then defaultPort url.scheme else url.port

/-- The check with the policy of the round trip, which is enabled. -/
def validateProtectedFetchTargetURL (net : Net) (protection : SSRFProtection) (url : URL) :
    Except String Unit :=
  if url.scheme ≠ "http" ∧ url.scheme ≠ "https" then .error (unsupportedProtocol url.scheme)
  else match atoi (portText url) with
    | none => .error s!"invalid port: {portText url}"
    | some port => validateNetworkTarget net protection url.hostname port

/-- The address `http.Transport` dials and pools connections by. -/
def canonicalAddr (net : Net) (url : URL) : String :=
  String.ofList (joinHostPort (net.toASCII url.hostname).toList (portText url).toList)

/-- What `DialContext` does after its checks. -/
inductive Plan where
  | literal (ip : IP) (port : Int)
  | unfiltered (host : String) (port : Int)
  | resolve (host : String) (port : Int)

def dialPlan (net : Net) (protection : SSRFProtection) (addr : String) : Except String Plan :=
  match splitHostPort addr.toList with
  | none => .error s!"invalid dial address {addr}"
  | some (host, port) =>
    match atoi (String.ofList port) with
    | none => .error s!"invalid port: {String.ofList port}"
    | some port =>
      let host := String.ofList host
      match validateNetworkTarget net protection host port with
      | .error cause => .error cause
      | .ok () =>
        match net.parseIP host with
        | some ip => .ok (.literal ip port)
        | none =>
          if protection.applyIPFilterForDomain then .ok (.resolve host port)
          else .ok (.unfiltered host port)

def networkAllowsIP (network : String) (ip : IP) : Bool :=
  if network = "tcp4" then ip.to4.isSome
  else if network = "tcp6" then ip.to4.isNone
  else true

/-- The usable addresses of an answer; one that is not allowed fails the dial. -/
def candidateIPs (net : Net) (protection : SSRFProtection) (network host : String) :
    List (Option IP) → Except String (List IP)
  | [] => .ok []
  | none :: rest => candidateIPs net protection network host rest
  | some ip :: rest =>
    if networkAllowsIP network ip then do
      validateResolvedIP net protection host ip
      let more ← candidateIPs net protection network host rest
      .ok (ip :: more)
    else candidateIPs net protection network host rest

/-- `CloseIdleConnections` of one transport. -/
def Shared.closeIdle (shared : Shared Digest) (transport : Option Nat) : Shared Digest :=
  { shared with
    pool := shared.pool.filter fun connection =>
      some connection.transport ≠ transport || shared.network.busy connection }

variable [DecidableEq Digest]

def transportForPolicy (client : Client Digest) (shared : Shared Digest)
    (policy : SSRFProtection) : Shared Digest × Nat :=
  match shared.transport with
  | some transport =>
    if shared.policyFingerprint = some (client.fingerprint (some policy)) then
      (shared, transport)
    else replace
  | none => replace
where
  replace : Shared Digest × Nat :=
    ({ shared.closeIdle shared.transport with
        policyFingerprint := some (client.fingerprint (some policy))
        transport := some shared.transports.length
        transports := shared.transports ++ [policy] },
      shared.transports.length)

def observeDisabledPolicy (client : Client Digest) (shared : Shared Digest) : Shared Digest :=
  if shared.policyFingerprint = some (client.fingerprint none) then shared
  else
    { shared.closeIdle shared.transport with
      policyFingerprint := some (client.fingerprint none)
      transport := none }

/-- `RoundTrip` up to the choice of the transport. -/
def roundTrip (client : Client Digest) (shared : Shared Digest) (url : URL) (via : Nat) :
    Shared Digest × Option Fetch :=
  if shared.setting.enableSSRFProtection then
    match newSSRFProtectionFromFetchSetting client.net shared.setting with
    | .error _ => (shared, none)
    | .ok policy =>
      if client.rejectForwardProxy then (shared, none)
      else match validateProtectedFetchTargetURL client.net policy url with
        | .error _ => (shared, none)
        | .ok () => (shared, some (.transportForPolicy policy url via))
  else (observeDisabledPolicy client shared, some (.unprotected url))

/-- A pooled connection of the transport for the URL, or the dialer's plan. -/
def obtain (client : Client Digest) (shared : Shared Digest) (policy : SSRFProtection) (url : URL)
    (via transport : Nat) : Shared Digest × Option Fetch :=
  let address := canonicalAddr client.net url
  match (shared.pool.filter fun connection =>
      connection.transport = transport ∧ connection.scheme = url.scheme ∧
        connection.address = address)[shared.network.free]? with
  | some connection =>
    ({ shared with
        pool := if shared.network.shared then shared.pool else shared.pool.erase connection },
      some (.send policy url via connection))
  | none =>
    match shared.transports[transport]? with
    | none => (shared, none)
    | some protection =>
      match dialPlan client.net protection address with
      | .error _ => (shared, none)
      | .ok (.literal ip port) => (shared, some (.dial policy url via transport [ip] port))
      | .ok (.resolve host port) => (shared, some (.lookup policy url via transport host port))
      | .ok (.unfiltered host port) =>
        (shared, some (.dial policy url via transport
          (shared.network.resolves host).toList port))

/-- The answer of the resolver as `net.LookupIP` returns it. -/
def Network.lookupIP (network : Network) (host : String) : Except String (List IP) :=
  (network.lookupIPAddr host).map (List.filterMap id)

def checkProtectedFetchRedirect (client : Client Digest) (shared : Shared Digest) (url : URL)
    (via : Nat) : Option Fetch :=
  if shared.setting.enableSSRFProtection then
    match newSSRFProtectionFromFetchSetting client.net shared.setting with
    | .error _ => none
    | .ok policy =>
      match validateURL client.net policy shared.network.lookupIP (client.net.showURL url) with
      | .error _ => none
      | .ok () => follow
  else follow
where
  follow : Option Fetch := if 10 ≤ via then none else some (.roundTrip url via)

omit [DecidableEq Digest] in
theorem redirect_roundTrip {client : Client Digest} {shared : Shared Digest} {url : URL} {via : Nat}
    {next : Fetch} (present : checkProtectedFetchRedirect client shared url via = some next) :
    next = .roundTrip url via := by
  have followed (present : checkProtectedFetchRedirect.follow url via = some next) :
      next = .roundTrip url via := by
    simp only [checkProtectedFetchRedirect.follow] at present
    split at present
    · cases present
    · exact (Option.some.inj present).symm
  simp only [checkProtectedFetchRedirect] at present
  split at present
  · split at present
    · cases present
    split at present
    · cases present
    · exact followed present
  · exact followed present

def resume (client : Client Digest) (shared : Shared Digest) : Fetch → Shared Digest × Option Fetch
  | .roundTrip url via => roundTrip client shared url via
  | .unprotected url =>
    ({ shared with
        sent := { policy := none, url, route := .unprotected, remote := none } :: shared.sent },
      none)
  | .transportForPolicy policy url via =>
    let (shared, transport) := transportForPolicy client shared policy
    (shared, some (.waiting policy url via transport))
  | .waiting policy url via transport => obtain client shared policy url via transport
  | .lookup policy url via transport host port =>
    match shared.transports[transport]? with
    | none => (shared, none)
    | some protection =>
      match shared.network.lookupIPAddr host with
      | .error _ => (shared, none)
      | .ok answer =>
        match candidateIPs client.net protection "tcp" host answer with
        | .error _ => (shared, none)
        | .ok ips => (shared, some (.dial policy url via transport ips port))
  | .dial policy url via transport ips port =>
    match ips with
    | [] => (shared, none)
    | ip :: rest =>
      if shared.network.connects ⟨ip, port⟩ then
        -- The new connection joins the pool; the request that waited may take another one.
        ({ shared with
            pool := { transport, scheme := url.scheme, address := canonicalAddr client.net url,
                      remote := ⟨ip, port⟩ } :: shared.pool },
          some (.waiting policy url via transport))
      else (shared, some (.dial policy url via transport rest port))
  | .send policy url via connection =>
    ({ shared with
        sent := { policy := some policy, url, route := client.route,
                  remote := some connection.remote } :: shared.sent },
      some (.read via connection))
  | .read via connection =>
    ({ shared with
        pool := if shared.network.keepAlive then connection :: shared.pool else shared.pool },
      shared.network.location.map fun url => .checkRedirect url (via + 1))
  | .checkRedirect url via => (shared, checkProtectedFetchRedirect client shared url via)

inductive Move where
  | configure (setting : FetchSetting)
  | change (network : Network)
  | request (url : URL)
  -- The peer or a timeout closes a pooled connection.
  | close (place : Nat)

def environment (shared : Shared Digest) : Move → Shared Digest × List Fetch
  | .configure setting => ({ shared with setting }, [])
  | .change network => ({ shared with network }, [])
  | .request url => (shared, [.roundTrip url 0])
  | .close place => ({ shared with pool := shared.pool.eraseIdx place }, [])

def program (client : Client Digest) : Program (Shared Digest) Fetch Move where
  resume := resume client
  environment := environment

def begin (Digest : Type) (setting : FetchSetting) (network : Network) :
    State (Shared Digest) Fetch where
  shared := { setting, network }
  running := []

end NewApi.ProtectedFetch
