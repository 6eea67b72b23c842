import NewApi.Schema

/-!
Token usage of a Claude response. A stream reports it in pieces, in message_start and
message_delta; relaykit/relayconvert keeps the last counts and, beside them, a snapshot
in Claude's own terms, from which settlement reads (service/billing_usage.go). When
a stream ends without a usable report, relay/channel/claude/relay-claude.go estimates
the tokens of the text it delivered. The estimator is a parameter. Snapshots of other
adaptors, and what is sent to the client, are not modelled.
-/

namespace NewApi

structure CacheCreation where
  ephemeral5mInputTokens : Int := 0
  ephemeral1hInputTokens : Int := 0
  deriving DecidableEq

structure ClaudeUsage where
  inputTokens : Int := 0
  cacheCreationInputTokens : Int := 0
  cacheReadInputTokens : Int := 0
  outputTokens : Int := 0
  cacheCreation : Option CacheCreation := none
  claudeCacheCreation5mTokens : Int := 0
  claudeCacheCreation1hTokens : Int := 0
  deriving DecidableEq

structure InputTokenDetails where
  cachedTokens : Int := 0
  cachedCreationTokens : Int := 0
  cacheWriteTokens : Int := 0
  imageTokens : Int := 0
  audioTokens : Int := 0
  deriving DecidableEq

structure OutputTokenDetails where
  imageTokens : Int := 0
  audioTokens : Int := 0
  deriving DecidableEq

inductive UsageSemantic where
  | unset
  | openai
  | anthropic
  deriving DecidableEq

structure Usage where
  promptTokens : Int := 0
  completionTokens : Int := 0
  totalTokens : Int := 0
  usageSemantic : UsageSemantic := .unset
  usageSource : String := ""
  -- `BillingUsage.ClaudeUsage`
  billingUsage : Option ClaudeUsage := none
  promptTokensDetails : InputTokenDetails := {}
  completionTokenDetails : OutputTokenDetails := {}
  claudeCacheCreation5mTokens : Int := 0
  claudeCacheCreation1hTokens : Int := 0
  cost : Option Rat := none
  deriving DecidableEq

namespace ClaudeStream

variable (usage : ClaudeUsage)

def getCacheCreation5mTokens : Int :=
  (usage.cacheCreation.map (·.ephemeral5mInputTokens)).getD 0

def getCacheCreation1hTokens : Int :=
  (usage.cacheCreation.map (·.ephemeral1hInputTokens)).getD 0

def normalizeCacheCreationSplit (totalTokens tokens5m tokens1h : Int) : Int × Int :=
  (tokens5m + max (totalTokens - tokens5m - tokens1h) 0, tokens1h)

def hasClaudeUsageTokens : Bool :=
  usage.inputTokens ≠ 0 || usage.outputTokens ≠ 0 || usage.cacheCreationInputTokens ≠ 0 ||
    usage.cacheReadInputTokens ≠ 0 || usage.claudeCacheCreation5mTokens ≠ 0 ||
    usage.claudeCacheCreation1hTokens ≠ 0 ||
    getCacheCreation5mTokens usage ≠ 0 || getCacheCreation1hTokens usage ≠ 0

/-- No snapshot is made of a usage without tokens. -/
def newClaudeMessagesBillingUsage : Option ClaudeUsage :=
  if hasClaudeUsageTokens usage then some usage else none

variable (usage : Usage)

/-- The split of a usage, with the cache writes outside it counted as 5m ones. -/
def normalizedSplit : Int × Int :=
  normalizeCacheCreationSplit usage.promptTokensDetails.cachedCreationTokens
    usage.claudeCacheCreation5mTokens usage.claudeCacheCreation1hTokens

def claudeUsageOf : ClaudeUsage where
  inputTokens := usage.promptTokens
  cacheCreationInputTokens := usage.promptTokensDetails.cachedCreationTokens
  cacheReadInputTokens := usage.promptTokensDetails.cachedTokens
  outputTokens := usage.completionTokens
  cacheCreation :=
    if 0 < (normalizedSplit usage).1 ∨ 0 < (normalizedSplit usage).2
    then some ⟨(normalizedSplit usage).1, (normalizedSplit usage).2⟩
    else none

def claudeBillingUsageFromSemanticUsage : Option ClaudeUsage :=
  newClaudeMessagesBillingUsage (claudeUsageOf usage)

def buildMessageDeltaPatchUsage (response : Option ClaudeUsage) (usage : Usage) : ClaudeUsage :=
  let reported := response.getD {}
  let creation :=
    if reported.cacheCreationInputTokens = 0 ∧ 0 < usage.promptTokensDetails.cachedCreationTokens
    then usage.promptTokensDetails.cachedCreationTokens
    else reported.cacheCreationInputTokens
  let split := reported.cacheCreation.getD
    ⟨usage.claudeCacheCreation5mTokens, usage.claudeCacheCreation1hTokens⟩
  let (tokens5m, tokens1h) := normalizeCacheCreationSplit creation
    split.ephemeral5mInputTokens split.ephemeral1hInputTokens
  { reported with
    inputTokens :=
      if reported.inputTokens = 0 ∧ 0 < usage.promptTokens then usage.promptTokens
      else reported.inputTokens
    cacheReadInputTokens :=
      if reported.cacheReadInputTokens = 0 ∧ 0 < usage.promptTokensDetails.cachedTokens
      then usage.promptTokensDetails.cachedTokens
      else reported.cacheReadInputTokens
    cacheCreationInputTokens := creation
    cacheCreation :=
      if reported.cacheCreation.isSome ∨ 0 < tokens5m ∨ 0 < tokens1h
      then some ⟨tokens5m, tokens1h⟩
      else none }

inductive ClaudeEvent where
  -- The model and the usage of its message, if it has them.
  | messageStart (message : Option (String × Option ClaudeUsage))
  | contentBlockStart
  | contentBlockDelta (text thinking : Option String)
  | messageDelta (usage : Option ClaudeUsage)
  -- ping, content_block_stop, message_stop
  | other
  -- Not JSON, an upstream error, or not convertible for the client: the stream is stopped.
  | failed
  deriving DecidableEq

inductive RelayFormat where
  | claude
  | openAI
  deriving DecidableEq

/-- `ClaudeResponseInfo` together with `info.UpstreamModelName`. -/
structure ClaudeResponseInfo where
  usage : Usage := {}
  responseText : String := ""
  done : Bool := false
  upstreamModelName : String
  deriving DecidableEq

def startUsage (before : Usage) (reported : ClaudeUsage) : Usage :=
  let usage := { before with
    promptTokens := reported.inputTokens
    usageSemantic := .anthropic
    promptTokensDetails := { before.promptTokensDetails with
      cachedTokens := reported.cacheReadInputTokens
      cachedCreationTokens := reported.cacheCreationInputTokens }
    claudeCacheCreation5mTokens := getCacheCreation5mTokens reported
    claudeCacheCreation1hTokens := getCacheCreation1hTokens reported
    completionTokens := reported.outputTokens }
  { usage with billingUsage := claudeBillingUsageFromSemanticUsage usage }

/-- A count of message_delta replaces the one held only when it is positive. -/
def overwrite (held reported : Int) : Int :=
  if 0 < reported then reported else held

def deltaUsage (before : Usage) (reported : ClaudeUsage) : Usage :=
  let promptTokens := overwrite before.promptTokens reported.inputTokens
  let completionTokens := overwrite before.completionTokens reported.outputTokens
  let usage := { before with
    usageSemantic := .anthropic
    promptTokens
    promptTokensDetails := { before.promptTokensDetails with
      cachedTokens :=
        overwrite before.promptTokensDetails.cachedTokens reported.cacheReadInputTokens
      cachedCreationTokens :=
        overwrite before.promptTokensDetails.cachedCreationTokens
          reported.cacheCreationInputTokens }
    claudeCacheCreation5mTokens :=
      overwrite before.claudeCacheCreation5mTokens (getCacheCreation5mTokens reported)
    claudeCacheCreation1hTokens :=
      overwrite before.claudeCacheCreation1hTokens (getCacheCreation1hTokens reported)
    completionTokens
    totalTokens := promptTokens + completionTokens }
  { usage with billingUsage := claudeBillingUsageFromSemanticUsage usage }

def formatClaudeResponseInfo (info : ClaudeResponseInfo) : ClaudeEvent → ClaudeResponseInfo
  | .messageStart (some (_, some reported)) =>
    { info with usage := startUsage info.usage reported }
  | .contentBlockDelta text thinking =>
    { info with responseText := info.responseText ++ text.getD "" ++ thinking.getD "" }
  | .messageDelta (some reported) =>
    { info with usage := deltaUsage info.usage reported, done := true }
  | .messageDelta none => { info with done := true }
  | _ => info

variable (format : RelayFormat)

/-- Only a Claude client's stream takes the model's name from message_start. -/
def upstreamModelAfter (model : String) : ClaudeEvent → String
  | .messageStart (some (name, _)) => if format = .claude then name else model
  | _ => model

def handleStreamResponseData (info : ClaudeResponseInfo) (event : ClaudeEvent) :
    Option ClaudeResponseInfo :=
  match event with
  | .failed => none
  | event =>
    some { formatClaudeResponseInfo info event with
      upstreamModelName := upstreamModelAfter format info.upstreamModelName event }

def handleStreamEvents (format : RelayFormat) :
    List ClaudeEvent → ClaudeResponseInfo → Option ClaudeResponseInfo
  | [], info => some info
  | event :: rest, info =>
    match handleStreamResponseData format info event with
    | none => none
    | some next => handleStreamEvents format rest next

/-- What the handler asks outside: `EstimateTokenByModel` and the request's estimated prompt. -/
structure TokenEstimates where
  estimateTokenByModel : String → String → Int
  estimatePromptTokens : Int

variable (estimates : TokenEstimates)

/-- Missing counts only are filled in; the snapshot is made here when no event made one. -/
def handleStreamFinalResponse (info : ClaudeResponseInfo) : Usage :=
  let completion := estimates.estimateTokenByModel info.upstreamModelName info.responseText
  let usage := info.usage
  let patched :=
    if usage.completionTokens = 0 ∨ info.done = false then
      let completionTokens :=
        if usage.completionTokens = 0 ∨ (info.done = false ∧ usage.completionTokens < completion)
        then completion
        else usage.completionTokens
      let promptTokens :=
        if usage.promptTokens = 0 then estimates.estimatePromptTokens else usage.promptTokens
      { usage with completionTokens, promptTokens, totalTokens := promptTokens + completionTokens }
    else usage
  let patched := { patched with usageSemantic := .anthropic }
  match patched.billingUsage with
  | some _ => patched
  | none =>
    { patched with
      billingUsage := newClaudeMessagesBillingUsage (buildMessageDeltaPatchUsage none patched) }

/-- `none` when an event stopped the stream with an error: no usage is returned then. -/
def claudeStreamHandler (estimates : TokenEstimates) (model : String) (events : List ClaudeEvent) :
    Option Usage :=
  (handleStreamEvents format events { upstreamModelName := model }).map
    (handleStreamFinalResponse estimates)

def usageFromClaudeBillingUsage (claude : ClaudeUsage) : Usage where
  promptTokens := claude.inputTokens
  completionTokens := claude.outputTokens
  totalTokens := claude.inputTokens + claude.outputTokens
  usageSemantic := .anthropic
  usageSource := "claude_messages"
  billingUsage := some claude
  claudeCacheCreation5mTokens :=
    if getCacheCreation5mTokens claude = 0 then claude.claudeCacheCreation5mTokens
    else getCacheCreation5mTokens claude
  claudeCacheCreation1hTokens :=
    if getCacheCreation1hTokens claude = 0 then claude.claudeCacheCreation1hTokens
    else getCacheCreation1hTokens claude
  promptTokensDetails :=
    { cachedTokens := claude.cacheReadInputTokens
      cachedCreationTokens := claude.cacheCreationInputTokens }

/-- The snapshot, where there is one, takes precedence over the counts around it. -/
def effectiveBillingUsage : Usage :=
  match usage.billingUsage with
  | some claude => usageFromClaudeBillingUsage claude
  | none => usage

/-! ### What a stream said -/

/-- A count as the events of a stream report it: the last message_start sets it, a later
message_delta replaces it with a positive one. -/
def reportedCount (count : ClaudeUsage → Int) (held : Int) : List ClaudeEvent → Int
  | [] => held
  | .messageStart (some (_, some reported)) :: rest => reportedCount count (count reported) rest
  | .messageDelta (some reported) :: rest =>
    reportedCount count (overwrite held (count reported)) rest
  | _ :: rest => reportedCount count held rest

def finished : List ClaudeEvent → Bool
  | [] => false
  | .messageDelta _ :: _ => true
  | _ :: rest => finished rest

def deliveredText : List ClaudeEvent → String
  | [] => ""
  | .contentBlockDelta text thinking :: rest =>
    text.getD "" ++ thinking.getD "" ++ deliveredText rest
  | _ :: rest => deliveredText rest

def servedModel (model : String) (events : List ClaudeEvent) : String :=
  events.foldl (upstreamModelAfter format) model

def TokensReported (events : List ClaudeEvent) : Prop :=
  reportedCount (·.inputTokens) 0 events ≠ 0 ∨ reportedCount (·.outputTokens) 0 events ≠ 0 ∨
    reportedCount (·.cacheCreationInputTokens) 0 events ≠ 0 ∨
    reportedCount (·.cacheReadInputTokens) 0 events ≠ 0 ∨
    0 < (normalizeCacheCreationSplit (reportedCount (·.cacheCreationInputTokens) 0 events)
      (reportedCount getCacheCreation5mTokens 0 events)
      (reportedCount getCacheCreation1hTokens 0 events)).1 ∨
    0 < (normalizeCacheCreationSplit (reportedCount (·.cacheCreationInputTokens) 0 events)
      (reportedCount getCacheCreation5mTokens 0 events)
      (reportedCount getCacheCreation1hTokens 0 events)).2

variable {event : ClaudeEvent} {rest events : List ClaudeEvent}
  {after before middle info : ClaudeResponseInfo} {format}

theorem reportedCount_cons (count : ClaudeUsage → Int) (held : Int) :
    reportedCount count held (event :: rest) =
      reportedCount count (reportedCount count held [event]) rest := by
  cases event with
  | messageStart message =>
    rcases message with _ | ⟨name, _ | reported⟩ <;> rfl
  | messageDelta reported => cases reported <;> rfl
  | contentBlockStart | contentBlockDelta _ _ | other | failed => rfl

theorem finished_cons (rest : List ClaudeEvent) :
    finished (event :: rest) = (finished [event] || finished rest) := by
  cases event <;> rfl

theorem deliveredText_cons (rest : List ClaudeEvent) :
    deliveredText (event :: rest) = deliveredText [event] ++ deliveredText rest := by
  cases event <;> simp [deliveredText]

structure Accumulates (format : RelayFormat) (before : ClaudeResponseInfo)
    (events : List ClaudeEvent) (after : ClaudeResponseInfo) : Prop where
  promptTokens : after.usage.promptTokens =
    reportedCount (·.inputTokens) before.usage.promptTokens events
  completionTokens : after.usage.completionTokens =
    reportedCount (·.outputTokens) before.usage.completionTokens events
  cachedTokens : after.usage.promptTokensDetails.cachedTokens =
    reportedCount (·.cacheReadInputTokens) before.usage.promptTokensDetails.cachedTokens events
  cachedCreationTokens : after.usage.promptTokensDetails.cachedCreationTokens =
    reportedCount (·.cacheCreationInputTokens)
      before.usage.promptTokensDetails.cachedCreationTokens events
  creation5m : after.usage.claudeCacheCreation5mTokens =
    reportedCount getCacheCreation5mTokens before.usage.claudeCacheCreation5mTokens events
  creation1h : after.usage.claudeCacheCreation1hTokens =
    reportedCount getCacheCreation1hTokens before.usage.claudeCacheCreation1hTokens events
  snapshot : before.usage.billingUsage = claudeBillingUsageFromSemanticUsage before.usage →
    after.usage.billingUsage = claudeBillingUsageFromSemanticUsage after.usage
  done : after.done = (before.done || finished events)
  responseText : after.responseText = before.responseText ++ deliveredText events
  model : after.upstreamModelName = servedModel format before.upstreamModelName events

theorem handleStreamResponseData_accumulates
    (handled : handleStreamResponseData format before event = some after) :
    Accumulates format before [event] after := by
  cases event with
  | failed => cases handled
  | messageStart message =>
    cases handled
    rcases message with _ | ⟨name, _ | reported⟩
    · constructor <;> simp [formatClaudeResponseInfo, reportedCount, finished, deliveredText,
        servedModel, imp_self]
    · constructor <;> simp [formatClaudeResponseInfo, reportedCount, finished, deliveredText,
        servedModel, imp_self]
    · constructor
      case snapshot => exact fun _ => rfl
      all_goals simp [formatClaudeResponseInfo, reportedCount, finished, deliveredText,
        servedModel, startUsage]
  | messageDelta reported =>
    cases handled
    cases reported with
    | none =>
      constructor <;> simp [formatClaudeResponseInfo, reportedCount, finished, deliveredText,
        servedModel, imp_self]
    | some reported =>
      constructor
      case snapshot => exact fun _ => rfl
      all_goals simp [formatClaudeResponseInfo, reportedCount, finished, deliveredText,
        servedModel, deltaUsage]
  | contentBlockDelta text thinking =>
    cases handled
    constructor <;> simp [formatClaudeResponseInfo, reportedCount, finished, deliveredText,
      servedModel, String.append_assoc, imp_self]
  | contentBlockStart | other =>
    cases handled
    constructor <;> simp [formatClaudeResponseInfo, reportedCount, finished, deliveredText,
      servedModel, imp_self]

theorem Accumulates.cons (first : Accumulates format before [event] middle)
    (later : Accumulates format middle rest after) :
    Accumulates format before (event :: rest) after where
  promptTokens := by rw [later.promptTokens, first.promptTokens, ← reportedCount_cons]
  completionTokens := by
    rw [later.completionTokens, first.completionTokens, ← reportedCount_cons]
  cachedTokens := by rw [later.cachedTokens, first.cachedTokens, ← reportedCount_cons]
  cachedCreationTokens := by
    rw [later.cachedCreationTokens, first.cachedCreationTokens, ← reportedCount_cons]
  creation5m := by rw [later.creation5m, first.creation5m, ← reportedCount_cons]
  creation1h := by rw [later.creation1h, first.creation1h, ← reportedCount_cons]
  snapshot := fun kept => later.snapshot (first.snapshot kept)
  done := by rw [later.done, first.done, finished_cons rest, Bool.or_assoc]
  responseText := by
    rw [later.responseText, first.responseText, deliveredText_cons rest, String.append_assoc]
  model := by rw [later.model, first.model]; rfl

theorem handleStreamEvents_accumulates
    (handled : handleStreamEvents format events before = some after) :
    Accumulates format before events after := by
  induction events generalizing before with
  | nil =>
    cases handled
    constructor <;> simp [reportedCount, finished, deliveredText, servedModel, imp_self]
  | cons event rest ih =>
    simp only [handleStreamEvents] at handled
    split at handled
    · cases handled
    rename_i next here
    exact (handleStreamResponseData_accumulates here).cons (ih handled)

theorem final_completionTokens (info : ClaudeResponseInfo) :
    (handleStreamFinalResponse estimates info).completionTokens =
      if info.usage.completionTokens = 0 ∨ (info.done = false ∧
          info.usage.completionTokens <
            estimates.estimateTokenByModel info.upstreamModelName info.responseText)
      then estimates.estimateTokenByModel info.upstreamModelName info.responseText
      else info.usage.completionTokens := by
  simp only [handleStreamFinalResponse]
  cases info.done <;> by_cases none_reported : info.usage.completionTokens = 0 <;>
    simp [none_reported] <;> split <;> simp_all

theorem claudeUsageOf_5m :
    getCacheCreation5mTokens (claudeUsageOf usage) =
      if 0 < (normalizedSplit usage).1 ∨ 0 < (normalizedSplit usage).2
      then (normalizedSplit usage).1 else 0 := by
  simp only [getCacheCreation5mTokens, claudeUsageOf]
  split <;> rfl

theorem claudeUsageOf_1h :
    getCacheCreation1hTokens (claudeUsageOf usage) =
      if 0 < (normalizedSplit usage).1 ∨ 0 < (normalizedSplit usage).2
      then (normalizedSplit usage).2 else 0 := by
  simp only [getCacheCreation1hTokens, claudeUsageOf]
  split <;> rfl

def HasCounts : Prop :=
  usage.promptTokens ≠ 0 ∨ usage.completionTokens ≠ 0 ∨
    usage.promptTokensDetails.cachedCreationTokens ≠ 0 ∨
    usage.promptTokensDetails.cachedTokens ≠ 0 ∨
    0 < (normalizedSplit usage).1 ∨ 0 < (normalizedSplit usage).2

theorem semantic_snapshot_some {usage : Usage} (counted : HasCounts usage) :
    claudeBillingUsageFromSemanticUsage usage = some (claudeUsageOf usage) := by
  apply if_pos
  rcases counted with prompt | completion | creation | cached | positive | positive
  · simp [hasClaudeUsageTokens, claudeUsageOf, prompt]
  · simp [hasClaudeUsageTokens, claudeUsageOf, completion]
  · simp [hasClaudeUsageTokens, claudeUsageOf, creation]
  · simp [hasClaudeUsageTokens, claudeUsageOf, cached]
  · simp [hasClaudeUsageTokens, claudeUsageOf_5m, positive, positive.ne']
  · simp [hasClaudeUsageTokens, claudeUsageOf_1h, positive, positive.ne']

theorem semantic_snapshot_none {usage : Usage} (counted : ¬HasCounts usage) :
    claudeBillingUsageFromSemanticUsage usage = none := by
  apply if_neg
  simp only [HasCounts, not_or, not_not] at counted
  rcases counted with ⟨prompt, completion, creation, cached, none5m, none1h⟩
  simp only [hasClaudeUsageTokens, claudeUsageOf_5m, claudeUsageOf_1h, none5m, none1h]
  simp [claudeUsageOf, prompt, completion, creation, cached]

theorem final_settled_reported
    (kept : info.usage.billingUsage = claudeBillingUsageFromSemanticUsage info.usage)
    (counted : HasCounts info.usage) :
    (effectiveBillingUsage (handleStreamFinalResponse estimates info)).completionTokens =
      info.usage.completionTokens := by
  rw [semantic_snapshot_some counted] at kept
  have still : (handleStreamFinalResponse estimates info).billingUsage =
      some (claudeUsageOf info.usage) := by
    simp only [handleStreamFinalResponse]
    split_ifs <;> simp [kept]
  rw [effectiveBillingUsage, still]
  rfl

theorem final_settled_unreported
    (kept : info.usage.billingUsage = claudeBillingUsageFromSemanticUsage info.usage)
    (empty : ¬HasCounts info.usage) :
    (effectiveBillingUsage (handleStreamFinalResponse estimates info)).completionTokens =
      if 0 < estimates.estimatePromptTokens then 0
      else (handleStreamFinalResponse estimates info).completionTokens := by
  rw [semantic_snapshot_none empty] at kept
  simp only [HasCounts, not_or, not_not, not_lt] at empty
  rcases empty with ⟨prompt, completion, creation, cached, none5m, none1h⟩
  have made : (handleStreamFinalResponse estimates info).billingUsage =
      if 0 < estimates.estimatePromptTokens
      then some { inputTokens := estimates.estimatePromptTokens }
      else none := by
    rw [normalizedSplit, creation] at none5m none1h
    by_cases positive : 0 < estimates.estimatePromptTokens
    · simp [handleStreamFinalResponse, kept, prompt, completion, creation, cached,
        buildMessageDeltaPatchUsage, newClaudeMessagesBillingUsage, hasClaudeUsageTokens,
        not_lt.mpr none5m, not_lt.mpr none1h, positive, positive.ne']
    · simp [handleStreamFinalResponse, kept, prompt, completion, creation, cached,
        buildMessageDeltaPatchUsage, newClaudeMessagesBillingUsage, hasClaudeUsageTokens,
        getCacheCreation5mTokens, getCacheCreation1hTokens, not_lt.mpr none5m,
        not_lt.mpr none1h, positive]
  rw [effectiveBillingUsage, made]
  by_cases positive : 0 < estimates.estimatePromptTokens <;>
    simp [positive, usageFromClaudeBillingUsage]

/-- When the tokens of the delivered text are the ones that are settled: with a report, when the
reported completion is final or not below the estimate; without one, when there is nothing to
settle or no prompt estimate to hide it. -/
def BilledAsDelivered (format : RelayFormat) (estimates : TokenEstimates) (model : String)
    (events : List ClaudeEvent) : Prop :=
  let reported := reportedCount (·.outputTokens) 0 events
  let estimated :=
    estimates.estimateTokenByModel (servedModel format model events) (deliveredText events)
  (TokensReported events ∧
      (estimated = reported ∨
        (reported ≠ 0 ∧ (finished events = true ∨ estimated ≤ reported)))) ∨
    (¬TokensReported events ∧ (estimated = 0 ∨ estimates.estimatePromptTokens ≤ 0))

/-- **Interrupted streams**: settlement charges the completion tokens that the end of the stream
computed exactly when the reports of the stream cover the delivered text. -/
theorem stream_billed_as_delivered_iff (format : RelayFormat) (estimates : TokenEstimates)
    (model : String) (events : List ClaudeEvent) (usage : Usage)
    (relayed : claudeStreamHandler format estimates model events = some usage) :
    (effectiveBillingUsage usage).completionTokens = usage.completionTokens ↔
      BilledAsDelivered format estimates model events := by
  rcases Option.map_eq_some_iff.mp relayed with ⟨info, handled, rfl⟩
  have sum := handleStreamEvents_accumulates handled
  have kept := sum.snapshot rfl
  have counts : HasCounts info.usage ↔ TokensReported events := by
    simp only [HasCounts, TokensReported, normalizedSplit, sum.promptTokens, sum.completionTokens,
      sum.cachedTokens, sum.cachedCreationTokens, sum.creation5m, sum.creation1h]
  have completion := sum.completionTokens
  have done : info.done = finished events := by simpa using sum.done
  have text : info.responseText = deliveredText events := by simpa using sum.responseText
  have served : info.upstreamModelName = servedModel format model events := sum.model
  by_cases reported : TokensReported events
  · rw [final_settled_reported estimates kept (counts.mpr reported), final_completionTokens,
      done, text, served, completion]
    simp only [BilledAsDelivered, reported, true_and, not_true_eq_false, false_and, or_false]
    cases finished events <;> split <;> grind
  · have empty := mt counts.mp reported
    rw [final_settled_unreported estimates kept empty, final_completionTokens, done, text, served]
    simp only [HasCounts, not_or, not_not] at empty
    simp only [BilledAsDelivered, reported, false_and, not_false_eq_true, true_and, false_or,
      empty.2.1, true_or, if_true]
    split <;> grind

def characterEstimates : TokenEstimates where
  estimateTokenByModel := fun _ text => text.toList.length
  estimatePromptTokens := 25

def interruptedStream : List ClaudeEvent :=
  [.messageStart (some ("claude", some { inputTokens := 25, outputTokens := 1 })),
    .contentBlockStart, .contentBlockDelta (some "Hello") none,
    .contentBlockDelta (some " world") none]

theorem stream_billed_as_delivered_iff_sample :
    ∃ usage,
      claudeStreamHandler .claude characterEstimates "claude" interruptedStream = some usage ∧
      ((effectiveBillingUsage usage).completionTokens = usage.completionTokens ↔
        BilledAsDelivered .claude characterEstimates "claude" interruptedStream) := by
  have relayed :
      (claudeStreamHandler .claude characterEstimates "claude" interruptedStream).isSome := by
    decide +kernel
  exact ⟨_, (Option.some_get relayed).symm,
    stream_billed_as_delivered_iff .claude characterEstimates "claude" interruptedStream _
      (Option.some_get relayed).symm⟩

/-- Eleven tokens were delivered and computed; the snapshot of message_start settles one. -/
theorem interrupted_stream_settled_by_snapshot :
    (claudeStreamHandler .claude characterEstimates "claude" interruptedStream).map
        (fun usage => (usage.completionTokens, (effectiveBillingUsage usage).completionTokens)) =
      some (11, 1) := by
  decide +kernel

end ClaudeStream

end NewApi
