import NewApi.Addresses

/-!
The policy of protected fetches (common/ssrf_protection.go, common/ip.go). A target passes
when its port is allowed and, for an address, the address filter or, for a name, the domain
filter lets it through. Parsing and printing of addresses, URLs and letters belong to Go's
standard library and are parameters. The cause that `%v` appends to the text of an error is
left out.
-/

namespace NewApi.FetchPolicy

open Addresses

structure Net where
  parseIP : String → Option IP
  parseCIDR : String → Option IPNet
  showIP : IP → String
  parseURL : String → Option ParsedURL
  showURL : URL → String
  -- The ASCII form of a host (idna), which `http.Transport` dials.
  toASCII : String → String
  toLower : String → String
  trimSpace : String → String
  -- `net.ParseIP` accepts no white space.
  parseIP_trimmed : ∀ {host ip}, parseIP host = some ip → trimSpace host = host

structure PortRange where
  start : Int
  last : Int
  deriving DecidableEq

structure SSRFProtection where
  allowPrivateIp : Bool := false
  -- `true` makes the list an allow list, `false` a deny list.
  domainFilterMode : Bool := true
  domainList : List String := []
  ipFilterMode : Bool := true
  ipList : List String := []
  allowedPorts : List PortRange := []
  applyIPFilterForDomain : Bool := false
  deriving DecidableEq

structure FetchSetting where
  enableSSRFProtection : Bool := true
  allowPrivateIp : Bool := false
  domainFilterMode : Bool := false
  ipFilterMode : Bool := false
  domainList : List String := []
  ipList : List String := []
  allowedPorts : List String := ["80", "443", "8080", "8443"]
  applyIPFilterForDomain : Bool := true
  deriving DecidableEq

def privateIPv4Nets : List IPNet :=
  [.v4 (v4 0 0 0 0) 8, .v4 (v4 10 0 0 0) 8, .v4 (v4 100 64 0 0) 10, .v4 (v4 127 0 0 0) 8,
    .v4 (v4 169 254 0 0) 16, .v4 (v4 172 16 0 0) 12, .v4 (v4 192 0 0 0) 24,
    .v4 (v4 192 0 2 0) 24, .v4 (v4 192 168 0 0) 16, .v4 (v4 198 18 0 0) 15,
    .v4 (v4 198 51 100 0) 24, .v4 (v4 203 0 113 0) 24, .v4 (v4 224 0 0 0) 4,
    .v4 (v4 240 0 0 0) 4, .v4 (v4 255 255 255 255) 32]

def privateIPv6Nets : List IPNet :=
  [.v6 0#128 128, .v6 1#128 128,
    -- `::ffff:0:0/96` is kept as the IPv4 network 0.0.0.0/0.
    .v4 0#32 0,
    .v6 (0x64ff9b#128 <<< 96) 96, .v6 (0x100#128 <<< 112) 64, .v6 (0x2001#128 <<< 112) 23,
    .v6 (0x20010db8#128 <<< 96) 32, .v6 (0xfc#128 <<< 120) 7, .v6 (0xfe80#128 <<< 112) 10,
    .v6 (0xff#128 <<< 120) 8]

variable (net : Net) (p : SSRFProtection) (ip : IP)

def isPrivateIP : Bool :=
  if ip.isUnspecified || ip.isLoopback || ip.isLinkLocalUnicast || ip.isLinkLocalMulticast ||
      ip.isInterfaceLocalMulticast then true
  else match ip.to4 with
    | some _ => privateIPv4Nets.any fun net => net.contains ip
    | none => (privateIPv6Nets.any fun net => net.contains ip) || ip.isPrivate

def validPort (port : Int) : Bool := 1 ≤ port ∧ port ≤ 65535

/-- One entry of the configured ports, trimmed and not empty. -/
def parsePortRange (config : String) : Except String PortRange :=
  if '-' ∈ config.toList then
    match config.toList.splitOn '-' with
    | [first, second] =>
      match atoi (net.trimSpace (String.ofList first)) with
      | none => .error s!"invalid start port in range {config}"
      | some start =>
        match atoi (net.trimSpace (String.ofList second)) with
        | none => .error s!"invalid end port in range {config}"
        | some last =>
          if last < start then
            .error
              s!"invalid port range {config}: start port cannot be greater than end port"
          else if validPort start && validPort last then .ok ⟨start, last⟩
          else .error s!"port range {config} contains invalid port numbers (must be 1-65535)"
    | _ => .error s!"invalid port range format: {config}"
  else match atoi config with
    | none => .error s!"invalid port number: {config}"
    | some port =>
      if validPort port then .ok ⟨port, port⟩
      else .error s!"invalid port number {port} (must be 1-65535)"

def parsePortRanges (net : Net) : List String → Except String (List PortRange)
  | [] => .ok []
  | config :: rest =>
    if net.trimSpace config = "" then parsePortRanges net rest
    else do
      let range ← parsePortRange net (net.trimSpace config)
      let ranges ← parsePortRanges net rest
      .ok (range :: ranges)

def newSSRFProtectionFromFetchSetting (setting : FetchSetting) : Except String SSRFProtection :=
  match parsePortRanges net setting.allowedPorts with
  | .error cause => .error s!"request reject - invalid port configuration: {cause}"
  | .ok allowedPorts =>
    .ok {
      allowPrivateIp := setting.allowPrivateIp
      domainFilterMode := setting.domainFilterMode
      domainList := setting.domainList
      ipFilterMode := setting.ipFilterMode
      ipList := setting.ipList
      allowedPorts
      applyIPFilterForDomain := setting.applyIPFilterForDomain }

/-- No configured port allows all of them. -/
def isAllowedPort (port : Int) : Bool :=
  p.allowedPorts.isEmpty ||
    p.allowedPorts.any fun range => range.start ≤ port ∧ port ≤ range.last

/-- `*.suffix` stands for the suffix and every name below it. -/
def matchesWildcard (domain item : List Char) : Bool :=
  ['*', '.'].isPrefixOf item &&
    (('.' :: item.drop 2).isSuffixOf domain || domain == item.drop 2)

def isDomainListed (domain : String) (list : List String) : Bool :=
  list.any fun entry =>
    let item := net.toLower (net.trimSpace entry)
    item ≠ "" &&
      (net.toLower domain == item || matchesWildcard (net.toLower domain).toList item.toList)

def isDomainAllowed (domain : String) : Bool :=
  if p.domainFilterMode then isDomainListed net domain p.domainList
  else !isDomainListed net domain p.domainList

def isIpInCIDRList (list : List String) : Bool :=
  list.any fun entry =>
    match net.parseCIDR entry with
    | some network => network.contains ip
    | none => net.parseIP entry == some ip

def isIPAccessAllowed : Bool :=
  if isPrivateIP ip && !p.allowPrivateIp then false
  else if p.ipFilterMode then isIpInCIDRList net ip p.ipList
  else !isIpInCIDRList net ip p.ipList

variable (host : String)

def ipAccessError (ip : IP) : String :=
  let target := if host ≠ "" then s!"{host} resolves to {net.showIP ip}" else net.showIP ip
  if isPrivateIP ip && !p.allowPrivateIp then s!"private IP address not allowed: {target}"
  else if p.ipFilterMode then s!"ip not in whitelist: {target}"
  else s!"ip in blacklist: {target}"

def validateNetworkTarget (port : Int) : Except String Unit :=
  let host := net.trimSpace host
  if host = "" then .error "invalid host"
  else if !validPort port then .error s!"invalid port: {port}"
  else if !isAllowedPort p port then .error s!"port {port} is not allowed"
  else match net.parseIP host with
    | some ip => if isIPAccessAllowed net p ip then .ok () else .error (ipAccessError net p "" ip)
    | none =>
      if isDomainAllowed net p host then .ok ()
      else if p.domainFilterMode then .error s!"domain not in whitelist: {host}"
      else .error s!"domain in blacklist: {host}"

def validateResolvedIP (ip : IP) : Except String Unit :=
  if isIPAccessAllowed net p ip then .ok () else .error (ipAccessError net p host ip)

def validateResolvedIPs (net : Net) (p : SSRFProtection) (host : String) :
    List IP → Except String Unit
  | [] => .ok ()
  | ip :: rest => do
    validateResolvedIP net p host ip
    validateResolvedIPs net p host rest

def defaultPort (scheme : String) : String := if scheme = "https" then "443" else "80"

def unsupportedProtocol (scheme : String) : String :=
  s!"unsupported protocol: {scheme} (only http/https allowed)"

/-- The host and the port as `ValidateURL` takes them from a URL. -/
def urlTarget (url : URL) : String × String :=
  match splitHostPort url.host.toList with
  | some (host, port) => (String.ofList host, String.ofList port)
  | none => (url.hostname, defaultPort url.scheme)

/-- `lookup` is the answer of the resolver at the time of the call. -/
def validateURL (lookup : String → Except String (List IP)) (text : String) : Except String Unit :=
  match net.parseURL text with
  | none => .error "invalid URL format"
  | some url =>
    if url.scheme ≠ "http" ∧ url.scheme ≠ "https" then .error (unsupportedProtocol url.scheme)
    else match atoi (urlTarget url.toURL).2 with
      | none => .error s!"invalid port: {(urlTarget url.toURL).2}"
      | some port => do
        let host := (urlTarget url.toURL).1
        validateNetworkTarget net p host port
        if (net.parseIP host).isSome || !p.applyIPFilterForDomain then .ok ()
        else match lookup host with
          | .error cause => .error s!"DNS resolution failed for {host}: {cause}"
          | .ok ips => validateResolvedIPs net p host ips

variable {host} {port : Int}

theorem validateNetworkTarget_ok {net : Net} {p : SSRFProtection}
    (passed : validateNetworkTarget net p host port = .ok ()) :
    isAllowedPort p port = true ∧
      match net.parseIP (net.trimSpace host) with
      | some ip => isIPAccessAllowed net p ip = true
      | none => isDomainAllowed net p (net.trimSpace host) = true := by
  simp only [validateNetworkTarget] at passed
  iterate 3
    split at passed
    · cases passed
  rename_i allowed
  rw [Bool.not_eq_true, Bool.not_eq_false'] at allowed
  refine ⟨allowed, ?_⟩
  cases literal : net.parseIP (net.trimSpace host) with
  | some ip =>
    simp only [literal] at passed ⊢
    by_contra denied
    rw [if_neg denied] at passed
    cases passed
  | none =>
    simp only [literal] at passed ⊢
    by_contra denied
    rw [if_neg denied] at passed
    split at passed <;> cases passed

theorem allowed_of_literal {net : Net} {p : SSRFProtection} {ip : IP}
    (passed : validateNetworkTarget net p host port = .ok ())
    (literal : net.parseIP host = some ip) : isIPAccessAllowed net p ip = true := by
  have target := (validateNetworkTarget_ok passed).2
  rw [net.parseIP_trimmed literal, literal] at target
  exact target

end NewApi.FetchPolicy
