import NewApi.ChannelSelect

/-!
The relay loop of controller/relay.go with the channel selection of
service/channel_select.go and the group ratio of relay/helper/price.go. The first
attempt uses the channel that the distributor put into the request context; every
later one selects again, and an "auto" token may then move to another group. What
the upstream answers is an input: a run takes one `Attempt` for each pass through
the loop. The relay formats' handlers enter as that outcome only, and a request
pinned to one channel by an administrator's token is not modelled.
-/

namespace NewApi

structure GroupRatioInfo where
  groupRatio : Rat := 1
  groupSpecialRatio : Rat := -1
  hasSpecialRatio : Bool := false
  deriving DecidableEq

/-- The fields of the tiered snapshot that turn an expression's cost into quota. -/
structure BillingSnapshot where
  groupRatio : Rat
  quotaPerUnit : Rat
  deriving DecidableEq

/-- An upstream or channel error, as far as the retry decision reads it. -/
structure RelayError where
  channelError : Bool := false
  skipRetry : Bool := false
  statusCode : Int := 500
  -- `IsAlwaysSkipRetryCode` of its error code.
  alwaysSkip : Bool := false
  deriving DecidableEq

structure RelayConfig where
  autoGroups : List String := []
  -- The keys of `GetUserUsableGroups(userGroup)`.
  usableGroups : String → List String
  groupRatio : String → Option Rat
  groupGroupRatio : String → String → Option Rat
  retryTimes : Nat := 0
  quotaPerUnit : Rat := 500000
  shouldRetryByStatusCode : Int → Bool := fun _ => true
  -- `GetRandomSatisfiedChannel` for the request's model and path: group, retry, draw.
  select : String → Nat → Nat → Except String (Option Channel)

/-- A channel remembered by the affinity cache, with the groups it is enabled for. -/
structure Preferred where
  channel : Channel
  enabledFor : String → Bool

structure RelayRequest where
  userGroup : String
  -- Empty when the token has no group of its own.
  tokenGroup : String := ""
  crossGroupRetry : Bool := false
  tiered : Bool := false
  affinity : Option Preferred := none
  -- `ShouldSkipRetryAfterChannelAffinityFailure`
  skipRetryAfterAffinity : Bool := false

/-- The keys "auto_group" and "auto_group_index" of the request context. -/
structure RequestContext where
  autoGroup : Option String := none
  autoGroupIndex : Option Nat := none
  deriving DecidableEq

structure RetryParam where
  retry : Nat := 0
  resetNextTry : Bool := false
  deriving DecidableEq

structure RelayInfo where
  userGroup : String
  usingGroup : String
  -- `PriceData.GroupRatioInfo`
  groupRatioInfo : GroupRatioInfo := {}
  tieredBillingSnapshot : Option BillingSnapshot := none
  -- `ChannelMeta != nil`, set when the first handler starts.
  started : Bool := false
  deriving DecidableEq

namespace RelayLoop

structure Selection where
  chosen : Option (Channel × String)
  context : RequestContext
  param : RetryParam

def increaseRetry (param : RetryParam) : RetryParam :=
  if param.resetNextTry then { param with resetNextTry := false }
  else { param with retry := param.retry + 1 }

variable (config : RelayConfig)

def getUserAutoGroup (userGroup : String) : List String :=
  config.autoGroups.filter fun group => group ∈ config.usableGroups userGroup

/-- The loop over the auto groups from `index` on; `moved` once a group was passed by. -/
def selectAuto (config : RelayConfig) (crossGroupRetry : Bool) (draw : String → Nat) :
    List String → Nat → Bool → RequestContext → RetryParam → Selection
  | [], _, _, context, param => ⟨none, context, param⟩
  | group :: rest, index, moved, context, param =>
    let priorityRetry := if moved then 0 else param.retry
    match config.select group priorityRetry (draw group) with
    | .ok (some channel) =>
      if crossGroupRetry ∧ config.retryTimes ≤ priorityRetry then
        -- This attempt still uses the group; the next one starts behind it.
        ⟨some (channel, group), ⟨some group, some (index + 1)⟩, ⟨0, true⟩⟩
      else ⟨some (channel, group), ⟨some group, some index⟩, param⟩
    | _ =>
      selectAuto config crossGroupRetry draw rest (index + 1) true
        { context with autoGroupIndex := some (index + 1) } { param with retry := 0 }

variable (request : RelayRequest)

def cacheGetRandomSatisfiedChannel (tokenGroup : String) (context : RequestContext)
    (param : RetryParam) (draw : String → Nat) : Except String Selection :=
  if tokenGroup = "auto" then
    if config.autoGroups = [] then .error "auto groups is not enabled"
    else
      let startGroupIndex := context.autoGroupIndex.getD 0
      .ok (selectAuto config request.crossGroupRetry draw
        ((getUserAutoGroup config request.userGroup).drop startGroupIndex) startGroupIndex false
        context param)
  else match config.select tokenGroup param.retry (draw tokenGroup) with
    | .error cause => .error cause
    | .ok none => .ok ⟨none, context, param⟩
    | .ok (some channel) => .ok ⟨some (channel, tokenGroup), context, param⟩

/-- `ContextKeyUsingGroup`, which is also the token group of the retries. -/
def usingGroup : String :=
  if request.tokenGroup = "" then request.userGroup else request.tokenGroup

structure Routed where
  channel : Channel
  group : String
  context : RequestContext

/-- The affinity cache's channel, when it is enabled for a group the request may use. -/
def preferredRoute : Option Routed :=
  match request.affinity with
  | none => none
  | some preferred =>
    if usingGroup request = "auto" then
      match (getUserAutoGroup config request.userGroup).find? preferred.enabledFor with
      | none => none
      | some group => some ⟨preferred.channel, group, { autoGroup := some group }⟩
    else if preferred.enabledFor (usingGroup request) then
      some ⟨preferred.channel, usingGroup request, {}⟩
    else none

def distribute (draw : String → Nat) : Option Routed :=
  match preferredRoute config request with
  | some routed => some routed
  | none =>
    match cacheGetRandomSatisfiedChannel config request (usingGroup request) {} {} draw with
    | .error _ => none
    | .ok selection =>
      match selection.chosen with
      | none => none
      | some (channel, group) => some ⟨channel, group, selection.context⟩

def getGroupRatio (group : String) : Rat :=
  (config.groupRatio group).getD 1

/-- The ratio that `HandleGroupRatio` yields for a user's group and the group in use. -/
def groupRatioOf (userGroup group : String) : GroupRatioInfo :=
  match config.groupGroupRatio userGroup group with
  | some ratio => { groupRatio := ratio, groupSpecialRatio := ratio, hasSpecialRatio := true }
  | none => { groupRatio := getGroupRatio config group }

def handleGroupRatio (context : RequestContext) (info : RelayInfo) : GroupRatioInfo × RelayInfo :=
  let info := { info with usingGroup := context.autoGroup.getD info.usingGroup }
  (groupRatioOf config info.userGroup info.usingGroup, info)

def refreshGroupRatio (context : RequestContext) (info : RelayInfo) : RelayInfo :=
  { (handleGroupRatio config context info).2 with
    groupRatioInfo := (handleGroupRatio config context info).1 }

/-- Pricing before the first attempt; tiered billing also freezes the ratio. -/
def modelPriceHelper (context : RequestContext) (info : RelayInfo) : RelayInfo :=
  let priced := refreshGroupRatio config context info
  let snapshot : BillingSnapshot := ⟨priced.groupRatioInfo.groupRatio, config.quotaPerUnit⟩
  { priced with tieredBillingSnapshot := if request.tiered then some snapshot else none }

inductive Outcome where
  | success
  | failure (cause : RelayError)
  -- The body or the channel's key could not be prepared: the loop ends.
  | aborted
  deriving DecidableEq

structure Attempt where
  draw : String → Nat := fun _ => 0
  outcome : Outcome

structure LoopState where
  context : RequestContext
  param : RetryParam
  info : RelayInfo
  channel : Channel
  group : String

inductive Verdict where
  | served (channel : Channel) (group : String) (info : RelayInfo)
  | failed
  | unfinished
  deriving DecidableEq

def getChannel (draw : String → Nat) (state : LoopState) : Option LoopState :=
  if state.info.started then
    match cacheGetRandomSatisfiedChannel config request (usingGroup request) state.context
        state.param draw with
    | .error _ => none
    | .ok selection =>
      match selection.chosen with
      | none => none
      | some (channel, group) =>
        some ⟨selection.context, selection.param,
          refreshGroupRatio config selection.context state.info, channel, group⟩
  else some { state with info := { state.info with started := true } }

def shouldRetry (cause : RelayError) (retryTimes : Int) : Bool :=
  if request.skipRetryAfterAffinity then false
  else if cause.channelError then true
  else if cause.skipRetry then false
  else if retryTimes ≤ 0 then false
  else if 200 ≤ cause.statusCode ∧ cause.statusCode < 300 then false
  else if cause.statusCode < 100 ∨ 599 < cause.statusCode then true
  else if cause.alwaysSkip then false
  else config.shouldRetryByStatusCode cause.statusCode

def relayLoop (config : RelayConfig) (request : RelayRequest) : List Attempt → LoopState → Verdict
  | [], _ => .unfinished
  | attempt :: rest, state =>
    if state.param.retry ≤ config.retryTimes then
      match getChannel config request attempt.draw state with
      | none => .failed
      | some state =>
        match attempt.outcome with
        | .success => .served state.channel state.group state.info
        | .aborted => .failed
        | .failure cause =>
          if shouldRetry config request cause (config.retryTimes - state.param.retry) then
            relayLoop config request rest
              { state with param := increaseRetry state.param }
          else .failed
    else .failed

def initialInfo : RelayInfo where
  userGroup := request.userGroup
  usingGroup := usingGroup request

def initialState (routed : Routed) : LoopState where
  context := routed.context
  param := {}
  info := modelPriceHelper config request routed.context (initialInfo request)
  channel := routed.channel
  group := routed.group

def relay (draw : String → Nat) (attempts : List Attempt) : Verdict :=
  match distribute config request draw with
  | none => .failed
  | some routed => relayLoop config request attempts (initialState config request routed)

end RelayLoop

end NewApi
