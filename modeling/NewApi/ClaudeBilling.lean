import Mathlib.Algebra.Order.Field.Rat
import Mathlib.Data.List.AList
import Mathlib.Tactic.Linarith
import NewApi.ClaudeUsage
import NewApi.GroupBilling

/-!
The price of a Claude response, by ratio (`calculateTextQuotaSummary` of
service/text_quota.go) or by a tiered expression (`BuildTieredTokenParams` and
`TryTieredSettle` of service/tiered_settle.go). Both read the effective usage. A body
that arrives at once stores the report as it came; a stream stores it with the cache
writes that the 5m/1h split leaves out counted as 5m ones. The surcharge for tool calls
and the audio price of the model are inputs.
-/

namespace NewApi.ClaudeBilling

open ClaudeStream GroupBilling Wallet List

/-- `types.PriceData`. -/
structure PriceData where
  modelPrice : Rat := 0
  modelRatio : Rat := 0
  completionRatio : Rat := 0
  cacheRatio : Rat := 0
  cacheCreationRatio : Rat := 0
  cacheCreation5mRatio : Rat := 0
  cacheCreation1hRatio : Rat := 0
  imageRatio : Rat := 0
  otherRatios : AList fun _ : String => Rat := ∅
  usePrice : Bool := false
  groupRatioInfo : GroupRatioInfo := {}

/-- `isValidOtherRatio`; a rational is never infinite. -/
def isValidOtherRatio (ratio : Rat) : Bool := decide (0 < ratio)

/-- The factor of `ApplyOtherRatiosToDecimal`. -/
def otherRatioMultiplier (data : PriceData) : Rat :=
  data.otherRatios.entries.foldl
    (fun multiplier entry =>
      if isValidOtherRatio entry.2 ∧ entry.2 ≠ 1 then multiplier * entry.2 else multiplier) 1

/-- The request's side of `calculateTextQuotaSummary`. -/
structure TextBilling where
  priceData : PriceData := {}
  quotaPerUnit : Rat := 500000
  -- `ChannelMeta != nil && ChannelType == ChannelTypeOpenRouter`
  openRouter : Bool := false
  -- `hasCustomModelRatio` of the model at the price data's ratio.
  customModelRatio : Bool := true
  -- `GetFinalRequestRelayFormat() == RelayFormatClaude`
  claudeFormat : Bool := true
  estimatePromptTokens : Int := 0
  toolCallSurchargeQuota : Rat := 0
  -- `GetGeminiInputAudioPricePerMillionTokens` of the model.
  audioInputPrice : Rat := 0

structure TextTokens where
  promptTokens : Int
  completionTokens : Int
  totalTokens : Int
  cacheTokens : Int
  cacheCreationTokens : Int
  cacheCreationTokens5m : Int
  cacheCreationTokens1h : Int
  imageTokens : Int
  audioTokens : Int

def cacheCreationTokensTotal (details : InputTokenDetails) : Int :=
  max (max details.cachedCreationTokens details.cacheWriteTokens) 0

variable (billing : TextBilling)

def usageSemanticFromUsage (usage : Usage) : UsageSemantic :=
  if usage.usageSemantic ≠ .unset then usage.usageSemantic
  else if billing.claudeFormat then .anthropic
  else .openai

def isClaudeUsageSemantic (usage : Usage) : Bool :=
  usageSemanticFromUsage billing usage = .anthropic

def isLegacyClaudeDerivedOpenAIUsage (usage : Usage) : Bool :=
  !billing.claudeFormat && usage.usageSource = "" && usage.usageSemantic = .unset &&
    (0 < usage.claudeCacheCreation5mTokens || 0 < usage.claudeCacheCreation1hTokens)

def countTokens (usage : Usage) : TextTokens where
  promptTokens := usage.promptTokens
  completionTokens := usage.completionTokens
  totalTokens := int64 (usage.promptTokens + usage.completionTokens)
  cacheTokens := usage.promptTokensDetails.cachedTokens
  cacheCreationTokens := cacheCreationTokensTotal usage.promptTokensDetails
  cacheCreationTokens5m := usage.claudeCacheCreation5mTokens
  cacheCreationTokens1h := usage.claudeCacheCreation1hTokens
  imageTokens := usage.promptTokensDetails.imageTokens
  audioTokens := usage.promptTokensDetails.audioTokens

/-- The cache writes that explain the reported cost; -1 when the division is not a number or out
of range. -/
def calcOpenRouterCacheCreateTokens (usage : Usage) : Int :=
  let data := billing.priceData
  if data.cacheCreationRatio = 1 then 0
  else
    let quotaPrice := data.modelRatio / billing.quotaPerUnit
    let divisor := quotaPrice * data.cacheCreationRatio - quotaPrice
    let calculated :=
      (usage.cost.getD 0 - usage.promptTokens * quotaPrice +
        usage.promptTokensDetails.cachedTokens * (quotaPrice - quotaPrice * data.cacheRatio) -
        usage.completionTokens * (quotaPrice * data.completionRatio)) / divisor
    if divisor = 0 ∨ maxQuota ≤ roundDecimal calculated ∨ roundDecimal calculated ≤ minQuota
    then -1
    else roundDecimal calculated

/-- OpenRouter's prompt count includes the cached tokens. `usage.Cost != 0` compares an interface
with an integer and holds for every decoded cost. -/
def openRouterTokens (usage : Usage) (tokens : TextTokens) : TextTokens :=
  let promptTokens := tokens.promptTokens - tokens.cacheTokens
  let custom := billing.priceData.usePrice || billing.customModelRatio
  let maybe := calcOpenRouterCacheCreateTokens billing usage
  let cacheCreationTokens :=
    if tokens.cacheCreationTokens = 0 ∧ billing.priceData.cacheCreationRatio ≠ 1 ∧ custom = false ∧
        0 ≤ maybe ∧ maybe ≤ promptTokens
    then maybe
    else tokens.cacheCreationTokens
  { tokens with
    cacheCreationTokens
    promptTokens := promptTokens - cacheCreationTokens }

def billedTokens (usage : Usage) : TextTokens :=
  if billing.openRouter ∧ isClaudeUsageSemantic billing usage then
    openRouterTokens billing usage (countTokens usage)
  else countTokens usage

def groupedRatio : Rat :=
  billing.priceData.modelRatio * billing.priceData.groupRatioInfo.groupRatio

/-- The charge for cache writes; the split, when there is one, has ratios of its own. -/
def cacheCreationCharge (data : PriceData) (separate : Bool) (tokens : TextTokens) : Rat :=
  if tokens.cacheCreationTokens ≠ 0 ∨ 0 < tokens.cacheCreationTokens5m ∨
      0 < tokens.cacheCreationTokens1h then
    if separate then
      let remaining := max (tokens.cacheCreationTokens - tokens.cacheCreationTokens5m -
        tokens.cacheCreationTokens1h) 0
      remaining * data.cacheCreationRatio +
        tokens.cacheCreationTokens5m * data.cacheCreation5mRatio +
        tokens.cacheCreationTokens1h * data.cacheCreation1hRatio
    else tokens.cacheCreationTokens * data.cacheCreationRatio
  else 0

def baseTokens (separate : Bool) (tokens : TextTokens) : Int :=
  let hasCreation := tokens.cacheCreationTokens ≠ 0 ∨ 0 < tokens.cacheCreationTokens5m ∨
    0 < tokens.cacheCreationTokens1h
  max (tokens.promptTokens - (if separate then 0 else tokens.cacheTokens) -
    (if hasCreation ∧ separate = false then tokens.cacheCreationTokens else 0) -
    tokens.imageTokens - (if 0 < billing.audioInputPrice then tokens.audioTokens else 0)) 0

def ratioCharge (separate : Bool) (tokens : TextTokens) : Rat :=
  let data := billing.priceData
  let audio :=
    if 0 < billing.audioInputPrice then
      billing.audioInputPrice / 1000000 * tokens.audioTokens * data.groupRatioInfo.groupRatio *
        billing.quotaPerUnit
    else 0
  let charge :=
    ((baseTokens billing separate tokens + tokens.cacheTokens * data.cacheRatio +
        tokens.imageTokens * data.imageRatio + cacheCreationCharge data separate tokens +
        tokens.completionTokens * data.completionRatio) * groupedRatio billing + audio) *
      otherRatioMultiplier data + billing.toolCallSurchargeQuota
  if groupedRatio billing ≠ 0 ∧ charge ≤ 0 then 1 else charge

def priceCharge : Rat :=
  let data := billing.priceData
  data.modelPrice * billing.quotaPerUnit * data.groupRatioInfo.groupRatio *
    otherRatioMultiplier data + billing.toolCallSurchargeQuota

/-- The quota of `calculateTextQuotaSummary`. Without a usage the estimated prompt is billed. -/
def calculateTextQuota (usage : Option Usage) : Int :=
  let usage := usage.getD
    { promptTokens := billing.estimatePromptTokens
      totalTokens := billing.estimatePromptTokens }
  let tokens := billedTokens billing usage
  let separate :=
    isClaudeUsageSemantic billing usage || isLegacyClaudeDerivedOpenAIUsage billing usage
  let quota :=
    quotaRound (if billing.priceData.usePrice then priceCharge billing
      else ratioCharge billing separate tokens)
  if tokens.totalTokens ≤ 0 ∧ billing.toolCallSurchargeQuota = 0 then 0
  else if groupedRatio billing ≠ 0 ∧ quota = 0 then 1
  else quota

structure TokenParams where
  p : Int
  c : Int
  len : Int
  cr : Int
  cc : Int
  cc1h : Int
  img : Int
  imgO : Int
  ai : Int
  ao : Int
  deriving DecidableEq

def buildTieredTokenParams (usage : Usage) (isClaude : Bool) (usedVars : String → Bool) :
    TokenParams :=
  let cr := usage.promptTokensDetails.cachedTokens
  let anthropic := usage.usageSemantic = .anthropic
  let cc5m :=
    if anthropic then usage.claudeCacheCreation5mTokens
    else cacheCreationTokensTotal usage.promptTokensDetails
  let cc1h := if anthropic then usage.claudeCacheCreation1hTokens else 0
  let img := usage.promptTokensDetails.imageTokens
  let ai := usage.promptTokensDetails.audioTokens
  let imgO := usage.completionTokenDetails.imageTokens
  let ao := usage.completionTokenDetails.audioTokens
  let priced := fun (name : String) (count : Int) => if !isClaude ∧ usedVars name then count else 0
  { p := max (usage.promptTokens - priced "cr" cr - priced "cc" cc5m - priced "cc1h" cc1h -
      priced "img" img - priced "ai" ai) 0
    c := max (usage.completionTokens - priced "img_o" imgO - priced "ao" ao) 0
    len := if isClaude then usage.promptTokens + cr + cc5m + cc1h else usage.promptTokens
    cr, cc := cc5m, cc1h, img, imgO, ai, ao }

/-- A tiered expression with its frozen snapshot: `run` evaluates it, or fails. -/
structure TieredBilling where
  snapshot : BillingSnapshot
  usedVars : String → Bool := fun _ => false
  run : TokenParams → Option Rat
  finalPreConsumedQuota : Int := 0
  estimatedQuotaAfterGroup : Int := 0

/-- The settled quota and, unless the expression failed, the quota before the group ratio. -/
def tryTieredSettle (tiered : TieredBilling) (params : TokenParams) : Int × Option Rat :=
  match tiered.run params with
  | some cost =>
    (computeTieredQuota tiered.snapshot cost,
      some (cost / 1000000 * tiered.snapshot.quotaPerUnit))
  | none =>
    (if tiered.finalPreConsumedQuota ≤ 0 then tiered.estimatedQuotaAfterGroup
      else tiered.finalPreConsumedQuota, none)

def composeTieredTextQuota (tiered : TieredBilling) (settled : Int × Option Rat) : Int :=
  if billing.toolCallSurchargeQuota = 0 then settled.1
  else
    match settled.2 with
    | some beforeGroup =>
      quotaRound (beforeGroup * tiered.snapshot.groupRatio + billing.toolCallSurchargeQuota)
    | none => quotaRound (settled.1 + billing.toolCallSurchargeQuota)

/-- The quota that `PostTextConsumeQuota` settles for a usage. -/
def postTextConsumeQuota (tiered : Option TieredBilling) (usage : Usage) : Int :=
  let billed := effectiveBillingUsage usage
  match tiered with
  | none => calculateTextQuota billing (some billed)
  | some tiered =>
    composeTieredTextQuota billing tiered
      (tryTieredSettle tiered
        (buildTieredTokenParams billed (isClaudeUsageSemantic billing billed) tiered.usedVars))

def handleClaudeResponseData (reported : ClaudeUsage) : Usage where
  promptTokens := reported.inputTokens
  completionTokens := reported.outputTokens
  totalTokens := reported.inputTokens + reported.outputTokens
  usageSemantic := .anthropic
  billingUsage := newClaudeMessagesBillingUsage reported
  promptTokensDetails :=
    { cachedTokens := reported.cacheReadInputTokens
      cachedCreationTokens := reported.cacheCreationInputTokens }
  claudeCacheCreation5mTokens := getCacheCreation5mTokens reported
  claudeCacheCreation1hTokens := getCacheCreation1hTokens reported

/-! ### One report on two ways -/

/-- A usage report: token counts, with or without the split of the cache writes. -/
structure ClaudeReport where
  input : Nat := 0
  output : Nat := 0
  cacheRead : Nat := 0
  cacheCreation : Nat := 0
  split : Option (Nat × Nat) := none
  deriving DecidableEq

variable (report : ClaudeReport)

def ClaudeReport.tokens5m : Nat := (report.split.map (·.1)).getD 0

def ClaudeReport.tokens1h : Nat := (report.split.map (·.2)).getD 0

def ClaudeReport.usage : ClaudeUsage where
  inputTokens := report.input
  outputTokens := report.output
  cacheReadInputTokens := report.cacheRead
  cacheCreationInputTokens := report.cacheCreation
  cacheCreation := report.split.map fun split => ⟨split.1, split.2⟩

/-- A message_start and a message_delta carry the report between them: each count is the one of
message_delta, or that of message_start where message_delta has none. -/
def Delivers (start delta : ClaudeUsage) : Prop :=
  overwrite start.inputTokens delta.inputTokens = report.input ∧
    overwrite start.outputTokens delta.outputTokens = report.output ∧
    overwrite start.cacheReadInputTokens delta.cacheReadInputTokens = report.cacheRead ∧
    overwrite start.cacheCreationInputTokens delta.cacheCreationInputTokens =
      report.cacheCreation ∧
    overwrite (getCacheCreation5mTokens start) (getCacheCreation5mTokens delta) =
      report.tokens5m ∧
    overwrite (getCacheCreation1hTokens start) (getCacheCreation1hTokens delta) = report.tokens1h

def isContent : ClaudeEvent → Bool
  | .contentBlockStart | .contentBlockDelta _ _ | .other => true
  | _ => false

def streamOf (start : ClaudeUsage) (contents : List ClaudeEvent) (delta : ClaudeUsage)
    (model : String) : List ClaudeEvent :=
  .messageStart (some (model, some start)) :: (contents ++ [.messageDelta (some delta)])

def streamedUsage (events : List ClaudeEvent) : Usage :=
  (events.foldl formatClaudeResponseInfo { upstreamModelName := "" }).usage

/-- However a report is streamed and however it is priced, it costs what it costs in one body. -/
def CostsTheSame : Prop :=
  ∀ (start delta : ClaudeUsage) (contents : List ClaudeEvent) (model : String)
    (billing : TextBilling) (tiered : Option TieredBilling),
    Delivers report start delta → (∀ event ∈ contents, isContent event = true) →
    postTextConsumeQuota billing tiered (streamedUsage (streamOf start contents delta model)) =
      postTextConsumeQuota billing tiered (handleClaudeResponseData report.usage)

variable {contents events : List ClaudeEvent} {info : ClaudeResponseInfo}
  {creation cacheRead tokens5m input tokens1h output : Int} {claude start delta : ClaudeUsage}
  {usage : Usage}

theorem reportedCount_contents (count : ClaudeUsage → Int) (held : Int) (rest : List ClaudeEvent)
    (content : ∀ event ∈ contents, isContent event = true) :
    reportedCount count held (contents ++ rest) = reportedCount count held rest := by
  induction contents with
  | nil => rfl
  | cons event later ih =>
    have here := content event (by simp)
    have tail := ih fun event member => content event (by simp [member])
    cases event with
    | contentBlockStart | contentBlockDelta _ _ | other => exact tail
    | messageStart _ | messageDelta _ | failed => cases here

theorem reportedCount_streamOf (count : ClaudeUsage → Int) (start delta : ClaudeUsage)
    (model : String) (content : ∀ event ∈ contents, isContent event = true) :
    reportedCount count 0 (streamOf start contents delta model) =
      overwrite (count start) (count delta) :=
  reportedCount_contents count (count start) [.messageDelta (some delta)] content

theorem handleStreamEvents_openAI (clean : ∀ event ∈ events, event ≠ .failed)
    (info : ClaudeResponseInfo) :
    handleStreamEvents .openAI events info = some (events.foldl formatClaudeResponseInfo info) := by
  induction events generalizing info with
  | nil => rfl
  | cons event rest ih =>
    have step : handleStreamResponseData .openAI info event =
        some (formatClaudeResponseInfo info event) := by
      cases event with
      | failed => exact absurd rfl (clean .failed (by simp))
      | messageStart message => rcases message with _ | ⟨name, _ | reported⟩ <;> rfl
      | messageDelta reported => cases reported <;> rfl
      | contentBlockStart | contentBlockDelta _ _ | other => rfl
    simp only [handleStreamEvents, step, foldl_cons]
    exact ih (fun event member => clean event (by simp [member])) _

/-- The fields of a usage that no Claude report sets. -/
def Plain (usage : Usage) : Prop :=
  usage.promptTokensDetails.cacheWriteTokens = 0 ∧ usage.promptTokensDetails.imageTokens = 0 ∧
    usage.promptTokensDetails.audioTokens = 0 ∧ usage.completionTokenDetails = {} ∧
    usage.cost = none

theorem formatClaudeResponseInfo_plain (plain : Plain info.usage) (event : ClaudeEvent) :
    Plain (formatClaudeResponseInfo info event).usage := by
  cases event with
  | messageStart message => rcases message with _ | ⟨name, _ | reported⟩ <;> exact plain
  | messageDelta reported => cases reported <;> exact plain
  | contentBlockStart | contentBlockDelta _ _ | other | failed => exact plain

theorem formatClaudeResponseInfo_foldl_plain (events : List ClaudeEvent)
    (plain : Plain info.usage) :
    Plain (events.foldl formatClaudeResponseInfo info).usage := by
  induction events generalizing info with
  | nil => exact plain
  | cons event rest ih => exact ih (formatClaudeResponseInfo_plain plain event)

structure BillsAs (usage : Usage) (input output cacheRead creation tokens5m tokens1h : Int) :
    Prop where
  semantic : usage.usageSemantic = .anthropic
  input : usage.promptTokens = input
  output : usage.completionTokens = output
  details : usage.promptTokensDetails =
    { cachedTokens := cacheRead, cachedCreationTokens := creation }
  outputDetails : usage.completionTokenDetails = {}
  tokens5m : usage.claudeCacheCreation5mTokens = tokens5m
  tokens1h : usage.claudeCacheCreation1hTokens = tokens1h
  cost : usage.cost = none

section

variable {first second : Usage}
  (left : BillsAs first input output cacheRead creation tokens5m tokens1h)

include left

theorem BillsAs.semantic_same (billing : TextBilling) :
    isClaudeUsageSemantic billing first = true := by
  simp [isClaudeUsageSemantic, usageSemanticFromUsage, left.semantic]

theorem BillsAs.billedTokens_same
    (right : BillsAs second input output cacheRead creation tokens5m tokens1h)
    (billing : TextBilling) : billedTokens billing first = billedTokens billing second := by
  have counted : countTokens first = countTokens second := by
    simp [countTokens, left.input, left.output, left.details, left.tokens5m, left.tokens1h,
      right.input, right.output, right.details, right.tokens5m, right.tokens1h]
  have created : calcOpenRouterCacheCreateTokens billing first =
      calcOpenRouterCacheCreateTokens billing second := by
    simp [calcOpenRouterCacheCreateTokens, left.input, left.output, left.details, left.cost,
      right.input, right.output, right.details, right.cost]
  simp only [billedTokens, left.semantic_same, right.semantic_same, counted, openRouterTokens,
    created]

theorem BillsAs.quota_same
    (right : BillsAs second input output cacheRead creation tokens5m tokens1h)
    (billing : TextBilling) :
    calculateTextQuota billing (some first) = calculateTextQuota billing (some second) ∧
      ∀ usedVars, buildTieredTokenParams first (isClaudeUsageSemantic billing first) usedVars =
        buildTieredTokenParams second (isClaudeUsageSemantic billing second) usedVars := by
  constructor
  · simp only [calculateTextQuota, Option.getD_some, left.billedTokens_same right billing,
      left.semantic_same, right.semantic_same, Bool.true_or]
  · intro usedVars
    simp only [buildTieredTokenParams, left.semantic_same, right.semantic_same, left.semantic,
      right.semantic, left.input, left.output, left.details, left.outputDetails, left.tokens5m,
      left.tokens1h, right.input, right.output, right.details, right.outputDetails,
      right.tokens5m, right.tokens1h]

end

theorem report_tokens5m : getCacheCreation5mTokens report.usage = report.tokens5m := by
  simp only [getCacheCreation5mTokens, ClaudeReport.usage, ClaudeReport.tokens5m]
  cases report.split <;> rfl

theorem report_tokens1h : getCacheCreation1hTokens report.usage = report.tokens1h := by
  simp only [getCacheCreation1hTokens, ClaudeReport.usage, ClaudeReport.tokens1h]
  cases report.split <;> rfl

theorem snapshot_bills_as (no5m : claude.claudeCacheCreation5mTokens = 0)
    (no1h : claude.claudeCacheCreation1hTokens = 0) :
    BillsAs (usageFromClaudeBillingUsage claude) claude.inputTokens claude.outputTokens
      claude.cacheReadInputTokens claude.cacheCreationInputTokens
      (getCacheCreation5mTokens claude) (getCacheCreation1hTokens claude) where
  semantic := rfl
  input := rfl
  output := rfl
  details := rfl
  outputDetails := rfl
  tokens5m := by
    simp only [usageFromClaudeBillingUsage, no5m]
    split
    · rename_i zero
      exact zero.symm
    · rfl
  tokens1h := by
    simp only [usageFromClaudeBillingUsage, no1h]
    split
    · rename_i zero
      exact zero.symm
    · rfl
  cost := rfl

theorem body_bills_as :
    BillsAs (effectiveBillingUsage (handleClaudeResponseData report.usage)) report.input
      report.output report.cacheRead report.cacheCreation report.tokens5m report.tokens1h := by
  simp only [effectiveBillingUsage, handleClaudeResponseData, newClaudeMessagesBillingUsage,
    report_tokens5m, report_tokens1h]
  cases hasClaudeUsageTokens report.usage with
  | true =>
    rw [← report_tokens5m, ← report_tokens1h]
    exact snapshot_bills_as rfl rfl
  | false => constructor <;> rfl

theorem semantic_bills_as (anthropic : usage.usageSemantic = .anthropic) (plain : Plain usage)
    (snapshot : usage.billingUsage = claudeBillingUsageFromSemanticUsage usage)
    (nonneg5m : 0 ≤ usage.claudeCacheCreation5mTokens)
    (nonneg1h : 0 ≤ usage.claudeCacheCreation1hTokens) :
    BillsAs (effectiveBillingUsage usage) usage.promptTokens usage.completionTokens
      usage.promptTokensDetails.cachedTokens usage.promptTokensDetails.cachedCreationTokens
      (normalizedSplit usage).1 usage.claudeCacheCreation1hTokens := by
  rcases plain with ⟨noWrite, noImage, noAudio, noOutput, noCost⟩
  have no5m : (claudeUsageOf usage).claudeCacheCreation5mTokens = 0 := rfl
  have bills := snapshot_bills_as no5m rfl
  have nonneg : 0 ≤ (normalizedSplit usage).1 := by
    simp only [normalizedSplit, normalizeCacheCreationSplit]
    omega
  have same1h : (normalizedSplit usage).2 = usage.claudeCacheCreation1hTokens := rfl
  have tokens5m : getCacheCreation5mTokens (claudeUsageOf usage) = (normalizedSplit usage).1 := by
    rw [claudeUsageOf_5m]
    split <;> omega
  have tokens1h : getCacheCreation1hTokens (claudeUsageOf usage) =
      usage.claudeCacheCreation1hTokens := by
    rw [claudeUsageOf_1h]
    split <;> omega
  by_cases counted : HasCounts usage
  · rw [effectiveBillingUsage, snapshot, semantic_snapshot_some counted, ← tokens5m, ← tokens1h]
    exact bills
  · rw [effectiveBillingUsage, snapshot, semantic_snapshot_none counted]
    simp only [HasCounts, not_or, not_not] at counted
    rcases counted with ⟨-, -, creation, -, none5m, none1h⟩
    constructor
    · exact anthropic
    · rfl
    · rfl
    · cases details : usage.promptTokensDetails
      simp_all
    · exact noOutput
    · simp only [normalizedSplit, normalizeCacheCreationSplit, creation] at none5m none1h ⊢
      omega
    · rfl
    · exact noCost

theorem stream_bills_as {report : ClaudeReport} (model : String)
    (delivers : Delivers report start delta)
    (content : ∀ event ∈ contents, isContent event = true) :
    BillsAs (effectiveBillingUsage (streamedUsage (streamOf start contents delta model)))
      report.input report.output report.cacheRead report.cacheCreation
      (normalizeCacheCreationSplit report.cacheCreation report.tokens5m report.tokens1h).1
      report.tokens1h := by
  have clean : ∀ event ∈ streamOf start contents delta model, event ≠ .failed := by
    intro event member
    simp only [streamOf, mem_cons, mem_append, not_mem_nil, or_false] at member
    rcases member with rfl | inside | rfl
    · simp
    · rintro rfl
      cases content _ inside
    · simp
  have sum := handleStreamEvents_accumulates
    (handleStreamEvents_openAI clean { upstreamModelName := "" })
  have plain : Plain (streamedUsage (streamOf start contents delta model)) :=
    formatClaudeResponseInfo_foldl_plain _ ⟨rfl, rfl, rfl, rfl, rfl⟩
  have snapshot : (streamedUsage (streamOf start contents delta model)).billingUsage =
      claudeBillingUsageFromSemanticUsage (streamedUsage (streamOf start contents delta model)) :=
    sum.snapshot rfl
  have semantic : (streamedUsage (streamOf start contents delta model)).usageSemantic =
      .anthropic := by
    simp [streamedUsage, streamOf, foldl_append, formatClaudeResponseInfo, deltaUsage]
  have counts := fun count => reportedCount_streamOf count start delta model content
  have anthropic := semantic_bills_as semantic plain snapshot
  rcases delivers with ⟨input, output, cacheRead, creation, tokens5m, tokens1h⟩
  rw [normalizedSplit,
    show (streamedUsage (streamOf start contents delta model)).promptTokens = report.input from
      sum.promptTokens.trans ((counts _).trans input),
    show (streamedUsage (streamOf start contents delta model)).completionTokens = report.output
      from sum.completionTokens.trans ((counts _).trans output),
    show (streamedUsage (streamOf start contents delta model)).promptTokensDetails.cachedTokens =
      report.cacheRead from sum.cachedTokens.trans ((counts _).trans cacheRead),
    show (streamedUsage
      (streamOf start contents delta model)).promptTokensDetails.cachedCreationTokens =
      report.cacheCreation from sum.cachedCreationTokens.trans ((counts _).trans creation),
    show (streamedUsage (streamOf start contents delta model)).claudeCacheCreation5mTokens =
      report.tokens5m from sum.creation5m.trans ((counts _).trans tokens5m),
    show (streamedUsage (streamOf start contents delta model)).claudeCacheCreation1hTokens =
      report.tokens1h from sum.creation1h.trans ((counts _).trans tokens1h)] at anthropic
  exact anthropic (Int.natCast_nonneg _) (Int.natCast_nonneg _)

theorem quotaRound_pos {value : Rat} (least : 1 ≤ value) : 0 < quotaRound value := by
  have rounded : 1 ≤ roundDecimal value := by
    rw [roundDecimal, if_pos (by linarith)]
    exact Rat.le_floor_iff.mpr (by push_cast; linarith)
  simp only [quotaRound, maxQuota, minQuota]
  omega

def cacheWriteTiers (allowance : Int) : TieredBilling where
  snapshot := ⟨1, 1⟩
  run := fun params => some ((params.cc - allowance) * 1000000)

theorem postTextConsumeQuota_cacheWriteTiers
    (bills : BillsAs (effectiveBillingUsage usage) input output cacheRead creation tokens5m
      tokens1h) (allowance : Int) :
    postTextConsumeQuota {} (some (cacheWriteTiers allowance)) usage =
      quotaRound (tokens5m - allowance) := by
  simp [postTextConsumeQuota, composeTieredTextQuota, tryTieredSettle, cacheWriteTiers,
    buildTieredTokenParams, bills.semantic, bills.tokens5m, computeTieredQuota]

/-- **Streaming costs what one body costs** exactly when the split covers the cache writes. -/
theorem costs_the_same_iff (report : ClaudeReport) :
    CostsTheSame report ↔ report.cacheCreation ≤ report.tokens5m + report.tokens1h := by
  constructor
  · intro same
    by_contra uncovered
    have delivers : Delivers report report.usage report.usage := by
      have keep : ∀ count : Int, overwrite count count = count := by
        intro count
        simp [overwrite]
      simp only [Delivers, keep, report_tokens5m, report_tokens1h]
      exact ⟨rfl, rfl, rfl, rfl, trivial, trivial⟩
    have cost := same report.usage report.usage [] "" {} (some (cacheWriteTiers report.tokens5m))
      delivers (by simp)
    rw [postTextConsumeQuota_cacheWriteTiers (stream_bills_as "" delivers (by simp)),
      postTextConsumeQuota_cacheWriteTiers (body_bills_as report), sub_self] at cost
    have positive : 0 < quotaRound
        (((normalizeCacheCreationSplit report.cacheCreation report.tokens5m
          report.tokens1h).1 : Rat) - ((report.tokens5m : Int) : Rat)) := by
      apply quotaRound_pos
      have more : (report.tokens5m : Int) + 1 ≤ (normalizeCacheCreationSplit report.cacheCreation
          report.tokens5m report.tokens1h).1 := by
        simp only [normalizeCacheCreationSplit]
        omega
      have := (Int.cast_le (R := Rat)).mpr more
      push_cast at this ⊢
      linarith
    rw [cost] at positive
    exact absurd positive (by decide +kernel)
  · intro covered start delta contents model billing tiered delivers content
    have stream := stream_bills_as model delivers content
    have normal : (normalizeCacheCreationSplit report.cacheCreation report.tokens5m
        report.tokens1h).1 = report.tokens5m := by
      simp only [normalizeCacheCreationSplit]
      omega
    rw [normal] at stream
    rcases stream.quota_same (body_bills_as report) billing with ⟨byRatio, byTiers⟩
    cases tiered with
    | none => exact byRatio
    | some tiered => simp only [postTextConsumeQuota, byTiers]

/-- Cache writes without a split cost 3.75 a million; a body leaves them unpaid. -/
theorem unsplit_cache_writes_unpaid_in_body :
    let report : ClaudeReport := { input := 100, output := 10, cacheCreation := 100000 }
    let tiered : TieredBilling :=
      { snapshot := ⟨1, 500000⟩, run := fun params => some (3 * params.p + 15 * params.c +
          3 / 10 * params.cr + 15 / 4 * params.cc + 6 * params.cc1h) }
    postTextConsumeQuota {} (some tiered)
        (streamedUsage (streamOf report.usage [] report.usage "claude")) = 187725 ∧
      postTextConsumeQuota {} (some tiered) (handleClaudeResponseData report.usage) = 225 := by
  decide +kernel

end NewApi.ClaudeBilling
