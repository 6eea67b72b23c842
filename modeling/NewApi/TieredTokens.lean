import NewApi.ClaudeBilling

/-!
The token counts that a tiered expression is evaluated on (`BuildTieredTokenParams`,
service/tiered_settle.go), for one use of tokens reported in OpenAI's form, where the
prompt is the sum, and in Claude's, where the input is text only. A Claude report that
does not split its cache writes into 5m and 1h ones loses them: the counts are read from
the split alone.
-/

namespace NewApi.TieredTokens

open ClaudeBilling ClaudeStream

structure RealUsage where
  text : Nat
  cacheRead : Nat := 0
  create5m : Nat := 0
  create1h : Nat := 0
  image : Nat := 0
  audio : Nat := 0
  output : Nat := 0

def RealUsage.input (real : RealUsage) : Int :=
  real.text + real.cacheRead + real.create5m + real.create1h + real.image + real.audio

/-- OpenAI's form. Cache writes are found in either of the two counts. -/
structure OpenAIForm (real : RealUsage) (usage : Usage) : Prop where
  prompt : usage.promptTokens = real.input
  completion : usage.completionTokens = real.output
  cached : usage.promptTokensDetails.cachedTokens = real.cacheRead
  creation : cacheCreationTokensTotal usage.promptTokensDetails = real.create5m + real.create1h
  image : usage.promptTokensDetails.imageTokens = real.image
  audio : usage.promptTokensDetails.audioTokens = real.audio
  textOutput : usage.completionTokenDetails = {}
  semantic : usage.usageSemantic ≠ .anthropic

/-- Claude's form, with or without the split of the cache writes. -/
structure ClaudeForm (real : RealUsage) (claude : ClaudeUsage) : Prop where
  input : claude.inputTokens = real.text
  output : claude.outputTokens = real.output
  cached : claude.cacheReadInputTokens = real.cacheRead
  creation : claude.cacheCreationInputTokens = real.create5m + real.create1h
  split : claude.cacheCreation = some ⟨real.create5m, real.create1h⟩ ∨ claude.cacheCreation = none
  unset5m : claude.claudeCacheCreation5mTokens = 0
  unset1h : claude.claudeCacheCreation1hTokens = 0

variable {billing : TextBilling} {real : RealUsage} {usage : Usage} {claude : ClaudeUsage}

/-- The input tokens of the counts, each priced once: those of a category without a variable of
its own are in `p`. -/
def pricedInput (usedVars : String → Bool) (params : TokenParams) : Int :=
  params.p + params.cr + params.cc + params.cc1h + (if usedVars "img" then params.img else 0) +
    (if usedVars "ai" then params.ai else 0)

def PricesCache (usedVars : String → Bool) : Prop :=
  usedVars "p" = true ∧ usedVars "cr" = true ∧ usedVars "cc" = true ∧ usedVars "cc1h" = true

variable {usedVars : String → Bool}

theorem openai_params (form : OpenAIForm real usage) (prices : PricesCache usedVars) :
    let params := buildTieredTokenParams usage false usedVars
    pricedInput usedVars params = real.input ∧ params.len = real.input ∧
      params.c = real.output ∧ params.cr = real.cacheRead ∧
      params.cc + params.cc1h = real.create5m + real.create1h := by
  obtain ⟨_, cr, cc, cc1h⟩ := prices
  simp only [buildTieredTokenParams, pricedInput, form.prompt, form.completion, form.cached,
    form.creation, form.image, form.audio, form.textOutput, form.semantic, cr, cc, cc1h,
    RealUsage.input]
  refine ⟨?_, ?_, ?_, ?_, ?_⟩ <;> cases usedVars "img" <;> cases usedVars "ai" <;> simp <;> omega

theorem claude_params (form : ClaudeForm real claude)
    (split : claude.cacheCreation.isSome = true ∨ claude.cacheCreationInputTokens = 0) :
    let params := buildTieredTokenParams (usageFromClaudeBillingUsage claude) true usedVars
    params.p = real.text ∧ params.c = real.output ∧ params.cr = real.cacheRead ∧
      params.cc = real.create5m ∧ params.cc1h = real.create1h ∧ params.img = 0 ∧ params.ai = 0 ∧
      params.len = params.p + params.cr + params.cc + params.cc1h := by
  have creation := form.creation
  rcases form.split with reported | unreported
  · simp [buildTieredTokenParams, usageFromClaudeBillingUsage, form.input, form.output, form.cached,
      getCacheCreation5mTokens, getCacheCreation1hTokens, reported, form.unset5m, form.unset1h]
    omega
  · have none5m : real.create5m = 0 ∧ real.create1h = 0 := by
      rcases split with present | empty
      · simp [unreported] at present
      · omega
    simp [buildTieredTokenParams, usageFromClaudeBillingUsage, form.input, form.output, form.cached,
      getCacheCreation5mTokens, getCacheCreation1hTokens, unreported, form.unset5m, form.unset1h,
      none5m]

theorem claude_len (form : ClaudeForm real claude) (usedVars : String → Bool) :
    (buildTieredTokenParams (usageFromClaudeBillingUsage claude) true usedVars).len =
      real.text + real.cacheRead +
        if claude.cacheCreation.isSome then real.create5m + real.create1h else 0 := by
  rcases form.split with reported | unreported
  · simp [buildTieredTokenParams, usageFromClaudeBillingUsage, form.input, form.cached,
      getCacheCreation5mTokens, getCacheCreation1hTokens, reported, form.unset5m, form.unset1h]
    omega
  · simp [buildTieredTokenParams, usageFromClaudeBillingUsage, form.input, form.cached,
      getCacheCreation5mTokens, getCacheCreation1hTokens, unreported, form.unset5m, form.unset1h]

/-- A request with ten cache writes, reported without the split. -/
def cacheWriter : RealUsage := { text := 5, create5m := 10 }

end NewApi.TieredTokens
