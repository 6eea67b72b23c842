import NewApi.RelayLoop
import NewApi.Wallet

/-!
The group ratio at settlement. Ratio billing reads the price data, which every
selection refreshes; tiered billing reads the snapshot, which is frozen before the
first attempt. Which groups can serve a request is a function of the
configuration: the group routed first, and the groups a retry can move to.
-/

namespace NewApi.GroupBilling

open RelayLoop List Option

/-- `QuotaRound`: half away from zero, saturated at the column width. -/
def quotaRound (value : Rat) : Int :=
  max Wallet.minQuota (min maxQuota (Wallet.roundDecimal value))

/-- `ComputeTieredQuota` for the cost that the expression evaluates to. -/
def computeTieredQuota (snapshot : BillingSnapshot) (cost : Rat) : Int :=
  quotaRound (cost / 1000000 * snapshot.quotaPerUnit * snapshot.groupRatio)

/-- The ratio that `calculateTextQuotaSummary` and `calculateAudioQuota` are given or, with a
tiered snapshot, the one `ComputeTieredQuota` multiplies by. -/
def settledRatio (info : RelayInfo) : Rat :=
  match info.tieredBillingSnapshot with
  | none => info.groupRatioInfo.groupRatio
  | some snapshot => snapshot.groupRatio

variable (config : RelayConfig) (request : RelayRequest)

def ratioFor (group : String) : Rat :=
  (groupRatioOf config request.userGroup group).groupRatio

def offered (group : String) : Bool :=
  match config.select group 0 0 with
  | .ok (some _) => true
  | _ => false

/-- The routing table does not change during the request: whether a group has a channel does
not depend on the retry number or on the draw. -/
def Steady : Prop :=
  ∀ group retry draw,
    (∃ channel, config.select group retry draw = .ok (some channel)) ↔ offered config group = true

def offeredGroups : List String :=
  (getUserAutoGroup config request.userGroup).filter (offered config)

def firstGroup : Option String :=
  match preferredRoute config request with
  | some routed => some routed.group
  | none =>
    if usingGroup request = "auto" then (offeredGroups config request).head?
    else if offered config (usingGroup request) then some (usingGroup request)
    else none

/-- The groups that the retries of a request can reach. -/
def retryGroups : List String :=
  if config.retryTimes = 0 ∨ request.skipRetryAfterAffinity ∨ usingGroup request ≠ "auto" then []
  else if request.crossGroupRetry then offeredGroups config request
  else (offeredGroups config request).take 1

variable {config} {requestPath model group front : String} {draw : String → Nat}
  {rest passed : List String} {index width left retry right retry' : Nat}

theorem steady_of_cache {cache : ChannelCache} (bounded : ChannelSelect.Bounded cache)
    (table : config.select =
      fun group => ChannelSelect.getRandomSatisfiedChannel cache group model requestPath) :
    Steady config := by
  have each : ∀ group retry draw,
      (∃ channel, config.select group retry draw = .ok (some channel)) ↔
        ChannelSelect.offers cache group model requestPath = true := by
    intro group retry draw
    rw [table]
    exact ChannelSelect.getRandomSatisfiedChannel_iff_offers bounded retry draw
  have now : ∀ group, offered config group = true ↔
      ∃ channel, config.select group 0 0 = .ok (some channel) := by
    intro group
    unfold offered
    split
    · rename_i channel found
      simp [found]
    · rename_i missing
      simp only [Bool.false_eq_true, false_iff, not_exists]
      exact fun channel => missing channel
  intro group retry draw
  rw [each, now, each]

theorem selectAuto_cases (steady : Steady config) (cross : Bool) (groups : List String)
    (index : Nat) (moved : Bool) (context : RequestContext) (param : RetryParam)
    (coherent : moved = true → param.retry = 0) :
    ((∀ group ∈ groups, offered config group = false) ∧
        (selectAuto config cross draw groups index moved context param).chosen = none) ∨
      ∃ passed group rest channel, groups = passed ++ group :: rest ∧
        (∀ other ∈ passed, offered config other = false) ∧ offered config group = true ∧
        selectAuto config cross draw groups index moved context param =
          let priorityRetry := if passed = [] then param.retry else 0
          if cross ∧ config.retryTimes ≤ priorityRetry then
            ⟨some (channel, group), ⟨some group, some (index + passed.length + 1)⟩, ⟨0, true⟩⟩
          else
            ⟨some (channel, group), ⟨some group, some (index + passed.length)⟩,
              ⟨priorityRetry, param.resetNextTry⟩⟩ := by
  induction groups generalizing index moved context param with
  | nil => exact .inl ⟨by simp, rfl⟩
  | cons group rest ih =>
    have level : (if moved then 0 else param.retry) = param.retry := by
      cases moved with
      | false => rfl
      | true => exact (coherent rfl).symm
    simp only [selectAuto, level]
    cases available : offered config group with
    | true =>
      obtain ⟨channel, found⟩ := (steady group param.retry (draw group)).mpr available
      right
      refine ⟨[], group, rest, channel, rfl, by simp, available, ?_⟩
      simp only [found, length_nil, Nat.add_zero, if_true]
    | false =>
      split
      · rename_i channel found
        have serves := (steady group param.retry (draw group)).mp ⟨channel, found⟩
        simp [available] at serves
      rcases ih (index + 1) true { context with autoGroupIndex := some (index + 1) }
        { param with retry := 0 } (fun _ => rfl) with
        ⟨none, nothing⟩ | ⟨passed, served, later, channel, rfl, empty, serves, same⟩
      · exact .inl ⟨forall_mem_cons.mpr ⟨available, none⟩, nothing⟩
      · right
        refine ⟨group :: passed, served, later, channel, rfl,
          forall_mem_cons.mpr ⟨available, empty⟩, serves, ?_⟩
        simp only [same, ite_self, length_cons, reduceCtorEq, if_false, Nat.add_assoc,
          Nat.add_comm 1]

theorem filter_split (empty : ∀ other ∈ passed, offered config other = false)
    (available : offered config group = true) :
    (passed ++ group :: rest).filter (offered config) = group :: rest.filter (offered config) := by
  have none : passed.filter (offered config) = [] := by
    rw [filter_eq_nil_iff]
    intro other member
    simp [empty other member]
  rw [filter_append, none, nil_append, filter_cons_of_pos available]

def startIndex (context : RequestContext) : Nat := context.autoGroupIndex.getD 0

/-- The groups with a channel from the context's index on. -/
def groupsAhead (config : RelayConfig) (request : RelayRequest) (context : RequestContext) :
    List String :=
  ((getUserAutoGroup config request.userGroup).drop (startIndex context)).filter (offered config)

/-- What holds of the state of every attempt of a request whose first group is `first`. -/
structure Tracked (config : RelayConfig) (request : RelayRequest) (first : String)
    (state : LoopState) : Prop where
  user : state.info.userGroup = request.userGroup
  ratio : state.info.groupRatioInfo = groupRatioOf config request.userGroup state.group
  snapshot : state.info.tieredBillingSnapshot =
    if request.tiered then some ⟨ratioFor config request first, config.quotaPerUnit⟩ else none
  reached : state.group = first ∨ state.group ∈ retryGroups config request
  fixed : usingGroup request ≠ "auto" → state.group = first ∧
    first = usingGroup request ∧ state.info.usingGroup = usingGroup request ∧
    state.context.autoGroup = none
  -- Without cross-group retries the index passes groups by only when they have no channel.
  ahead : usingGroup request = "auto" → request.crossGroupRetry = false →
    groupsAhead config request state.context = offeredGroups config request

section Loop

variable {selection : Selection}

theorem drop_split {groups : List String} (split : groups.drop index = passed ++ group :: rest) :
    groups.drop (index + passed.length) = group :: rest ∧
      groups.drop (index + passed.length + 1) = rest ∧ index + passed.length < groups.length := by
  have front : groups.drop (index + passed.length) = group :: rest := by
    rw [← drop_drop, split, drop_left]
  refine ⟨front, ?_, ?_⟩
  · rw [← drop_drop, front]
    rfl
  · have length := congrArg List.length front
    simp only [length_drop, length_cons] at length
    omega

/-- One round of the automatic selection: no group is left, the chosen group is used for the
last time, or the index rests on it. -/
inductive Round (config : RelayConfig) (request : RelayRequest) (context : RequestContext)
    (param : RetryParam) (selection : Selection) : Prop where
  | exhausted (empty : groupsAhead config request context = []) (chosen : selection.chosen = none)
  | switched (channel : Channel) (group : String) (later : List String)
      (ahead : groupsAhead config request context = group :: later)
      (chosen : selection.chosen = some (channel, group))
      (auto : selection.context.autoGroup = some group)
      (cross : request.crossGroupRetry = true) (spent : config.retryTimes ≤ param.retry)
      (next : selection.param = ⟨0, true⟩)
      (rest : groupsAhead config request selection.context = later)
      (forward : startIndex context < startIndex selection.context)
      (inside : startIndex context < (getUserAutoGroup config request.userGroup).length)
  | stayed (channel : Channel) (group : String) (later : List String) (retry : Nat)
      (ahead : groupsAhead config request context = group :: later)
      (chosen : selection.chosen = some (channel, group))
      (auto : selection.context.autoGroup = some group)
      (next : selection.param = ⟨retry, param.resetNextTry⟩)
      (rest : groupsAhead config request selection.context = group :: later)
      (forward : startIndex context ≤ startIndex selection.context)
      (inside : startIndex selection.context < (getUserAutoGroup config request.userGroup).length)
      (level : retry = param.retry ∨ retry = 0 ∧
        startIndex context < startIndex selection.context)
      (below : request.crossGroupRetry = true → retry < config.retryTimes)

variable {request} {param : RetryParam} {context : RequestContext} {routed : Routed}
  {later : List String} {channel : Channel} {first : String} {state : LoopState} {info : RelayInfo}
  {attempts : List Attempt}

theorem selectAuto_round (steady : Steady config) :
    Round config request context param
      (selectAuto config request.crossGroupRetry draw
        ((getUserAutoGroup config request.userGroup).drop (startIndex context))
        (startIndex context) false context param) := by
  rcases selectAuto_cases steady request.crossGroupRetry
      ((getUserAutoGroup config request.userGroup).drop (startIndex context)) (startIndex context)
      false context param nofun with
    ⟨empty, nothing⟩ | ⟨passed, group, rest, channel, split, empty, available, found⟩
  · apply Round.exhausted _ nothing
    rw [groupsAhead, filter_eq_nil_iff]
    intro group member
    simp [empty group member]
  · obtain ⟨front, behind, inside⟩ := drop_split split
    have ahead : groupsAhead config request context = group :: rest.filter (offered config) := by
      rw [groupsAhead, split, filter_split empty available]
    rw [found]
    by_cases last : request.crossGroupRetry ∧
        config.retryTimes ≤ if passed = [] then param.retry else 0
    · rw [if_pos last]
      have spent : config.retryTimes ≤ param.retry := by
        have := last.2
        split at this <;> omega
      apply Round.switched channel group (rest.filter (offered config)) ahead rfl rfl last.1 spent
        rfl
      · simp only [groupsAhead, startIndex, getD_some]
        rw [← startIndex, behind]
      · simp only [startIndex, getD_some]
        omega
      · omega
    · rw [if_neg last]
      apply Round.stayed channel group (rest.filter (offered config))
        (if passed = [] then param.retry else 0) ahead rfl rfl rfl
      · simp only [groupsAhead, startIndex, getD_some]
        rw [← startIndex, front, filter_cons_of_pos available]
      · simp only [startIndex, getD_some]
        omega
      · simpa only [startIndex, getD_some] using inside
      · by_cases here : passed = []
        · exact .inl (if_pos here)
        · right
          refine ⟨if_neg here, ?_⟩
          have := length_pos_iff.mpr here
          simp only [startIndex, getD_some]
          omega
      · intro cross
        simpa [cross] using last

theorem offeredGroups_eq_ahead (unset : context.autoGroupIndex = none) :
    groupsAhead config request context = offeredGroups config request := by
  simp [groupsAhead, offeredGroups, startIndex, unset]

structure Routes (config : RelayConfig) (request : RelayRequest) (routed : Routed) : Prop where
  first : firstGroup config request = some routed.group
  fixed : usingGroup request ≠ "auto" →
    routed.group = usingGroup request ∧ routed.context.autoGroup = none
  auto : usingGroup request = "auto" → routed.context.autoGroup = some routed.group
  ahead : usingGroup request = "auto" → request.crossGroupRetry = false ∨ 0 < config.retryTimes →
    groupsAhead config request routed.context = offeredGroups config request

theorem preferredRoute_routes (preferred : preferredRoute config request = some routed) :
    Routes config request routed := by
  have first : firstGroup config request = some routed.group := by
    simp [firstGroup, preferred]
  unfold preferredRoute at preferred
  split at preferred
  · cases preferred
  split at preferred
  · rename_i auto
    split at preferred <;> cases preferred
    exact ⟨first, fun other => absurd auto other, fun _ => rfl,
      fun _ _ => offeredGroups_eq_ahead rfl⟩
  · rename_i other
    split at preferred <;> cases preferred
    exact ⟨first, fun _ => ⟨rfl, rfl⟩, fun auto => absurd auto other,
      fun auto => absurd auto other⟩

theorem cacheGet_auto (steady : Steady config) (auto : usingGroup request = "auto")
    (done : cacheGetRandomSatisfiedChannel config request (usingGroup request) context param draw =
      .ok selection) : Round config request context param selection := by
  unfold cacheGetRandomSatisfiedChannel at done
  rw [if_pos auto] at done
  split at done
  · cases done
  cases done
  exact selectAuto_round steady

theorem cacheGet_fixed (steady : Steady config) (other : usingGroup request ≠ "auto")
    (done : cacheGetRandomSatisfiedChannel config request (usingGroup request) context param draw =
      .ok selection) :
    selection.context = context ∧ ∀ channel group, selection.chosen = some (channel, group) →
      group = usingGroup request ∧ offered config group = true := by
  unfold cacheGetRandomSatisfiedChannel at done
  rw [if_neg other] at done
  split at done
  · cases done
  · cases done
    simp
  · rename_i channel found
    cases done
    refine ⟨rfl, ?_⟩
    rintro _ _ ⟨⟩
    exact ⟨rfl, (steady _ _ _).mp ⟨channel, found⟩⟩

theorem distribute_routes (steady : Steady config)
    (done : distribute config request draw = some routed) : Routes config request routed := by
  unfold distribute at done
  split at done
  · rename_i preferred
    cases done
    exact preferredRoute_routes preferred
  · rename_i unpreferred
    split at done
    · cases done
    rename_i selection selected
    split at done
    · cases done
    rename_i channel group chosen
    cases done
    by_cases auto : usingGroup request = "auto"
    · have unset : groupsAhead config request {} = offeredGroups config request :=
        offeredGroups_eq_ahead rfl
      cases cacheGet_auto steady auto selected with
      | exhausted _ missing => simp [chosen] at missing
      | switched channel' group' later ahead found routed cross spent next rest =>
        cases chosen.symm.trans found
        refine ⟨?_, fun other => absurd auto other, fun _ => routed, ?_⟩
        · simp [firstGroup, unpreferred, auto, ← unset, ahead]
        · rintro _ (single | retries)
          · simp [cross] at single
          · have : config.retryTimes ≤ 0 := spent
            omega
      | stayed channel' group' later retry ahead found routed next rest =>
        cases chosen.symm.trans found
        refine ⟨?_, fun other => absurd auto other, fun _ => routed, fun _ _ => ?_⟩
        · simp [firstGroup, unpreferred, auto, ← unset, ahead]
        · rw [rest, ← ahead, unset]
    · obtain ⟨context, group_eq⟩ := cacheGet_fixed steady auto selected
      obtain ⟨rfl, available⟩ := group_eq channel group chosen
      refine ⟨?_, fun _ => ⟨rfl, ?_⟩, fun same => absurd same auto,
        fun same => absurd same auto⟩
      · simp [firstGroup, unpreferred, auto, available]
      · rw [context]

theorem initial_tracked (routes : Routes config request routed) :
    Tracked config request routed.group (initialState config request routed) := by
  have priced : (routed.context.autoGroup).getD (usingGroup request) = routed.group := by
    by_cases auto : usingGroup request = "auto"
    · simp [routes.auto auto]
    · obtain ⟨group, unset⟩ := routes.fixed auto
      simp [unset, group]
  refine ⟨rfl, ?_, ?_, .inl rfl, ?_, ?_⟩
  · simp [initialState, modelPriceHelper, refreshGroupRatio, handleGroupRatio, initialInfo, priced]
  · simp [initialState, modelPriceHelper, refreshGroupRatio, handleGroupRatio, initialInfo, priced,
      ratioFor]
  · intro other
    obtain ⟨group, unset⟩ := routes.fixed other
    refine ⟨rfl, group, ?_, unset⟩
    simp [initialState, modelPriceHelper, refreshGroupRatio, handleGroupRatio, initialInfo, unset]
  · intro auto single
    exact routes.ahead auto (.inl single)

theorem mem_retryGroups (auto : usingGroup request = "auto")
    (retried : request.skipRetryAfterAffinity = false) (retries : 0 < config.retryTimes)
    (ahead : groupsAhead config request context = group :: later)
    (single : request.crossGroupRetry = false →
      groupsAhead config request context = offeredGroups config request) :
    group ∈ retryGroups config request := by
  have allowed : ¬(config.retryTimes = 0 ∨ request.skipRetryAfterAffinity ∨
      usingGroup request ≠ "auto") := by
    simp only [retried, auto, ne_eq, not_true_eq_false, Bool.false_eq_true, or_false]
    omega
  unfold retryGroups
  rw [if_neg allowed]
  by_cases cross : request.crossGroupRetry = true
  · rw [if_pos cross]
    have member : group ∈ groupsAhead config request context := by simp [ahead]
    obtain ⟨listed, available⟩ := mem_filter.mp member
    exact mem_filter.mpr ⟨mem_of_mem_drop listed, available⟩
  · rw [if_neg cross, ← single (by simpa using cross), ahead]
    simp

theorem tracked_of_selection (tracked : Tracked config request first state)
    (priced : selection.context.autoGroup.getD state.info.usingGroup = group)
    (reached : group = first ∨ group ∈ retryGroups config request)
    (fixed : usingGroup request ≠ "auto" → group = first ∧ selection.context.autoGroup = none)
    (ahead : usingGroup request = "auto" → request.crossGroupRetry = false →
      groupsAhead config request selection.context = offeredGroups config request) :
    Tracked config request first
      ⟨selection.context, selection.param,
        refreshGroupRatio config selection.context state.info, channel, group⟩ where
  user := tracked.user
  ratio := by
    change groupRatioOf config state.info.userGroup _ = _
    rw [tracked.user, priced]
  snapshot := tracked.snapshot
  reached := reached
  fixed other := by
    obtain ⟨same, unset⟩ := fixed other
    obtain ⟨-, named, held, -⟩ := tracked.fixed other
    refine ⟨same, named, ?_, unset⟩
    simp [refreshGroupRatio, handleGroupRatio, unset, held]
  ahead := ahead

theorem getChannel_tracked {next : LoopState} (steady : Steady config)
    (tracked : Tracked config request first state)
    (retries : state.info.started = true →
      request.skipRetryAfterAffinity = false ∧ 0 < config.retryTimes)
    (selected : getChannel config request draw state = some next) :
    Tracked config request first next ∧ next.info.started = true ∧
      (state.info.started = false → next.param = state.param) := by
  unfold getChannel at selected
  by_cases started : state.info.started = true
  · rw [if_pos started] at selected
    obtain ⟨retried, positive⟩ := retries started
    split at selected
    · cases selected
    rename_i selection done
    split at selected
    · cases selected
    rename_i channel group chosen
    cases selected
    refine ⟨?_, started, by simp [started]⟩
    by_cases auto : usingGroup request = "auto"
    · cases cacheGet_auto steady auto done with
      | exhausted _ missing => simp [chosen] at missing
      | switched channel' group' later ahead found routed cross =>
        cases chosen.symm.trans found
        apply tracked_of_selection tracked (by simp [routed])
        · exact .inr (mem_retryGroups auto retried positive ahead (by simp [cross]))
        · exact fun other => absurd auto other
        · simp [cross]
      | stayed channel' group' later retry ahead found routed next rest =>
        cases chosen.symm.trans found
        apply tracked_of_selection tracked (by simp [routed])
        · exact .inr (mem_retryGroups auto retried positive ahead (tracked.ahead auto))
        · exact fun other => absurd auto other
        · intro _ single
          rw [rest, ← ahead]
          exact tracked.ahead auto single
    · obtain ⟨context, group_eq⟩ := cacheGet_fixed steady auto done
      obtain ⟨rfl, -⟩ := group_eq channel group chosen
      obtain ⟨-, named, held, unset⟩ := tracked.fixed auto
      apply tracked_of_selection tracked
      · rw [context, unset]
        exact held
      · exact .inl named.symm
      · exact fun _ => ⟨named.symm, by rw [context]; exact unset⟩
      · exact fun same => absurd same auto
  · rw [if_neg started] at selected
    cases selected
    exact ⟨{ tracked with }, rfl, fun _ => rfl⟩

/-- The states at the top of the loop: the first pass, or a pass that a retry allowed. -/
def Ready (config : RelayConfig) (request : RelayRequest) (state : LoopState) : Prop :=
  (state.info.started = false ∧ state.param = {}) ∨
    (state.info.started = true ∧ request.skipRetryAfterAffinity = false ∧
      (state.param.retry ≤ config.retryTimes → 0 < config.retryTimes))

theorem relayLoop_served (steady : Steady config) (state : LoopState)
    (tracked : Tracked config request first state) (ready : Ready config request state)
    (served : relayLoop config request attempts state = .served channel group info) :
    ∃ final, Tracked config request first final ∧ final.group = group ∧ final.info = info := by
  induction attempts generalizing state with
  | nil => simp [relayLoop] at served
  | cons attempt rest ih =>
    rw [relayLoop] at served
    by_cases within : state.param.retry ≤ config.retryTimes
    · rw [if_pos within] at served
      split at served
      · cases served
      rename_i next selected
      have retries : state.info.started = true →
          request.skipRetryAfterAffinity = false ∧ 0 < config.retryTimes := by
        intro started
        rcases ready with ⟨fresh, -⟩ | ⟨-, allowed, positive⟩
        · simp [started] at fresh
        · exact ⟨allowed, positive within⟩
      obtain ⟨trackedNext, started, kept⟩ := getChannel_tracked steady tracked retries selected
      split at served
      · cases served
        exact ⟨next, trackedNext, rfl, rfl⟩
      · cases served
      · rename_i cause _
        by_cases again : shouldRetry config request cause
            (config.retryTimes - next.param.retry) = true
        · rw [if_pos again] at served
          refine ih { next with param := increaseRetry next.param } ?_ ?_ served
          · exact { trackedNext with }
          · right
            refine ⟨started, ?_, ?_⟩
            · by_contra skip
              simp [shouldRetry, skip] at again
            · rcases ready with ⟨fresh, initial⟩ | ⟨_, -, positive⟩
              · rw [kept fresh, initial]
                exact id
              · exact fun _ => positive within
        · rw [if_neg again] at served
          cases served
    · rw [if_neg within] at served
      cases served

/-! Every group of `retryGroups` does serve, after enough failures. -/

def channelFailure : Attempt where
  outcome := .failure { channelError := true }

def serving : Attempt where
  outcome := .success

theorem relayLoop_fails {next : LoopState} (retried : request.skipRetryAfterAffinity = false)
    (within : state.param.retry ≤ config.retryTimes)
    (selected : getChannel config request channelFailure.draw state = some next) :
    relayLoop config request (channelFailure :: attempts) state =
      relayLoop config request attempts { next with param := increaseRetry next.param } := by
  rw [relayLoop, if_pos within, selected]
  simp [channelFailure, shouldRetry, retried]

theorem cacheGet_ahead (steady : Steady config) (param : RetryParam) (draw : String → Nat)
    (auto : usingGroup request = "auto")
    (ahead : groupsAhead config request context = group :: later) :
    ∃ selection channel,
      cacheGetRandomSatisfiedChannel config request (usingGroup request) context param draw =
        .ok selection ∧
      Round config request context param selection ∧
      selection.chosen = some (channel, group) := by
  have enabled : config.autoGroups ≠ [] := by
    intro disabled
    simp [groupsAhead, getUserAutoGroup, disabled] at ahead
  obtain ⟨selection, done⟩ : ∃ selection,
      cacheGetRandomSatisfiedChannel config request (usingGroup request) context param draw =
        .ok selection := by
    simp [cacheGetRandomSatisfiedChannel, auto, enabled]
  have round := cacheGet_auto steady auto done
  cases cacheGet_auto steady auto done with
  | exhausted empty => simp [ahead] at empty
  | switched channel group' later' ahead' chosen | stayed channel group' later' _ ahead' chosen =>
    cases ahead.symm.trans ahead'
    exact ⟨selection, channel, done, round, chosen⟩

theorem packed_lt (bound : retry' ≤ width) (less : left < right ∨ left ≤ right ∧ retry' < retry) :
    left * (width + 1) + retry' < right * (width + 1) + retry := by
  rcases less with shorter | ⟨same, lower⟩
  · have : (left + 1) * (width + 1) ≤ right * (width + 1) := Nat.mul_le_mul_right _ shorter
    have : (left + 1) * (width + 1) = left * (width + 1) + (width + 1) := by ring
    omega
  · have : left * (width + 1) ≤ right * (width + 1) := Nat.mul_le_mul_right _ same
    omega

/-- A bound on the rounds of the loop: the groups from the index on, each with its retries. -/
def roundsLeft (config : RelayConfig) (request : RelayRequest) (context : RequestContext)
    (retry : Nat) : Nat :=
  ((getUserAutoGroup config request.userGroup).length - startIndex context) *
    (config.retryTimes + 1) + (config.retryTimes - retry)

theorem Round.advances (round : Round config request context param selection)
    (ahead : groupsAhead config request context = front :: later)
    (cross : request.crossGroupRetry = true) (settled : param.resetNextTry = false)
    (member : group ∈ later) :
    ∃ retry, increaseRetry selection.param = ⟨retry, false⟩ ∧ retry ≤ config.retryTimes ∧
      group ∈ groupsAhead config request selection.context ∧
      roundsLeft config request selection.context retry <
        roundsLeft config request context param.retry := by
  cases round with
  | exhausted empty => simp [ahead] at empty
  | switched channel' group' later' ahead' chosen routed _ spent next rest forward inside =>
    cases ahead.symm.trans ahead'
    refine ⟨0, by rw [next]; rfl, Nat.zero_le _, rest ▸ member, ?_⟩
    apply packed_lt (Nat.sub_le _ _)
    left
    omega
  | stayed channel' group' later' retry ahead' chosen routed next rest forward inside level
      below =>
      cases ahead.symm.trans ahead'
      have short := below cross
      refine ⟨retry + 1, by rw [next, settled]; rfl, by omega, ?_, ?_⟩
      · rw [rest]
        exact mem_cons_of_mem _ member
      · apply packed_lt (Nat.sub_le _ _)
        rcases level with same | ⟨-, moved⟩
        · right
          omega
        · left
          omega

theorem ahead_serves (steady : Steady config) (auto : usingGroup request = "auto")
    (retried : request.skipRetryAfterAffinity = false) (steps : Nat) (state : LoopState)
    (measured : roundsLeft config request state.context state.param.retry = steps)
    (started : state.info.started = true) (settled : state.param.resetNextTry = false)
    (within : state.param.retry ≤ config.retryTimes)
    (member : group ∈ if request.crossGroupRetry then groupsAhead config request state.context
      else (groupsAhead config request state.context).take 1) :
    ∃ attempts channel info,
      relayLoop config request attempts state = .served channel group info := by
  induction steps using Nat.strong_induction_on generalizing state with
  | _ steps ih =>
    obtain ⟨front, later, ahead⟩ : ∃ front later,
        groupsAhead config request state.context = front :: later := by
      cases ahead : groupsAhead config request state.context with
      | nil => simp [ahead] at member
      | cons front later => exact ⟨front, later, rfl⟩
    obtain ⟨selection, channel, done, round, chosen⟩ :=
      cacheGet_ahead steady state.param serving.draw auto ahead
    have selected : getChannel config request serving.draw state =
        some ⟨selection.context, selection.param,
          refreshGroupRatio config selection.context state.info, channel, front⟩ := by
      simp [getChannel, started, done, chosen]
    by_cases here : group = front
    · subst here
      refine ⟨[serving], channel, refreshGroupRatio config selection.context state.info, ?_⟩
      rw [relayLoop, if_pos within, selected]
      rfl
    · have cross : request.crossGroupRetry = true := by
        by_contra single
        simp [single, ahead] at member
        exact here member
      simp only [cross, if_true, ahead, mem_cons, here, false_or] at member
      obtain ⟨retry, next, bounded, still, fewer⟩ :=
        round.advances ahead cross settled member
      -- One more failure brings the state nearer to the group.
      obtain ⟨attempts, winner, info, done⟩ := ih _ (measured ▸ fewer)
        ⟨selection.context, ⟨retry, false⟩,
          refreshGroupRatio config selection.context state.info, channel, front⟩
        rfl started rfl bounded (by rw [if_pos cross]; exact still)
      refine ⟨channelFailure :: attempts, winner, info, ?_⟩
      rw [← done, ← next]
      exact relayLoop_fails retried within selected

theorem distribute_of_firstGroup (steady : Steady config) (draw : String → Nat)
    (auto : usingGroup request = "auto") (some : firstGroup config request = .some first) :
    ∃ routed, distribute config request draw = .some routed := by
  unfold distribute
  cases preferred : preferredRoute config request with
  | some routed => exact ⟨routed, rfl⟩
  | none =>
    simp only [firstGroup, preferred, auto, if_true] at some
    obtain ⟨later, offers⟩ := head?_eq_some_iff.mp some
    have ahead : groupsAhead config request {} = first :: later :=
      (offeredGroups_eq_ahead rfl).trans offers
    obtain ⟨selection, channel, done, -, chosen⟩ := cacheGet_ahead steady {} draw auto ahead
    simp [done, chosen]

theorem relay_tracked (steady : Steady config)
    (served : relay config request draw attempts = .served channel group info) :
    ∃ first final, firstGroup config request = some first ∧
      Tracked config request first final ∧ final.group = group ∧ final.info = info := by
  unfold relay at served
  split at served
  · cases served
  rename_i routed distributed
  have routes := distribute_routes steady distributed
  obtain ⟨final, tracked, same, held⟩ := relayLoop_served steady _
    (initial_tracked routes) (.inl ⟨rfl, rfl⟩) served
  exact ⟨routed.group, final, routes.first, tracked, same, held⟩

theorem Tracked.settledRatio_eq (tracked : Tracked config request first state) :
    settledRatio state.info =
      ratioFor config request (if request.tiered then first else state.group) := by
  unfold settledRatio
  rw [tracked.snapshot]
  by_cases tiered : request.tiered = true
  · simp [tiered]
  · simp [tiered, tracked.ratio, ratioFor]

theorem retryGroup_serves (steady : Steady config)
    (routed : firstGroup config request = some first)
    (member : group ∈ retryGroups config request) :
    ∃ attempts channel info,
      relay config request draw attempts = .served channel group info := by
  unfold retryGroups at member
  split at member
  · simp at member
  rename_i allowed
  simp only [not_or, Bool.not_eq_true, ne_eq, Decidable.not_not] at allowed
  obtain ⟨positive, retried, auto⟩ := allowed
  obtain ⟨route, distributed⟩ := distribute_of_firstGroup steady draw auto routed
  have routes := distribute_routes steady distributed
  have ahead := routes.ahead auto (.inr (Nat.pos_of_ne_zero positive))
  have started :
      getChannel config request channelFailure.draw (initialState config request route) =
      some { initialState config request route with
        info := { (initialState config request route).info with started := true } } := rfl
  obtain ⟨attempts, channel, info, served⟩ := ahead_serves steady auto retried _
    { initialState config request route with
      param := ⟨1, false⟩
      info := { (initialState config request route).info with started := true } }
    rfl rfl rfl (Nat.pos_of_ne_zero positive) (by
      show group ∈ if _ then groupsAhead config request route.context
        else (groupsAhead config request route.context).take 1
      rw [ahead]
      exact member)
  refine ⟨channelFailure :: attempts, channel, info, ?_⟩
  simp only [relay, distributed]
  rw [relayLoop_fails retried (Nat.zero_le _) started]
  exact served

end Loop

/-- Two auto groups with one channel each; the second costs twice the first. -/
def sampleCache : ChannelCache where
  candidates group model :=
    if model ≠ "m" then [] else if group = "plain" then [1] else if group = "plus" then [2] else []
  channel id := if id = 1 ∨ id = 2 then some { id } else none

def sampleConfig : RelayConfig where
  autoGroups := ["plain", "plus"]
  usableGroups _ := ["plain", "plus"]
  groupRatio group := if group = "plus" then some 2 else some 1
  groupGroupRatio _ _ := none
  retryTimes := 1
  select group := ChannelSelect.getRandomSatisfiedChannel sampleCache group "m" ""

def sampleRequest (tiered : Bool) : RelayRequest where
  userGroup := "plain"
  tokenGroup := "auto"
  crossGroupRetry := true
  tiered := tiered

def sampleAttempts : List Attempt := [channelFailure, channelFailure, serving]

def servedInfo : RelayInfo where
  userGroup := "plain"
  usingGroup := "plus"
  groupRatioInfo := { groupRatio := 2 }
  started := true

theorem sampleCache_bounded : ChannelSelect.Bounded sampleCache := by
  intro group model
  simp only [sampleCache]
  split_ifs <;> decide

end NewApi.GroupBilling
