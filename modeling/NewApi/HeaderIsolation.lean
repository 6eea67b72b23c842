import NewApi.HeaderOverride

/-!
The header overrides of one request over all its attempts. The relay loop keeps
one `RelayInfo` for the request; an attempt replaces its channel, retry index and
last error. `attemptAfter` is what an attempt sends after the attempts before it,
and the main result says for which histories this is a function of the attempt
and the client's request alone.
-/

namespace NewApi.HeaderIsolation

open HeaderOverride Runs

structure ClientRequest where
  originModelName : String := ""
  requestURLPath : String := ""
  headers : HeaderMap := []
  isChannelTest : Bool := false

def cloneRequestHeaders (headers : HeaderMap) : HeaderMap :=
  headers.filterMap fun entry =>
    let value := trimSpace (headerGet headers entry.1)
    if value = "" then none else some (entry.1, value)

def genBaseRelayInfo (client : ClientRequest) : RelayHeaderInfo where
  originModelName := client.originModelName
  requestURLPath := client.requestURLPath
  requestHeaders := cloneRequestHeaders client.headers
  isChannelTest := client.isChannelTest

/-- One turn of the relay loop: the channel it runs on, the loop's retry index and last error,
and the body converted for the channel. -/
structure Attempt (Body : Type) where
  channel : ChannelMeta
  retryIndex : Nat := 0
  lastError : Option LastError := none
  body : Body

structure AttemptHeaders where
  effective : HeaderMap
  sent : Except OverrideError HeaderMap
  deriving DecidableEq

section

variable {Body : Type}

def beginAttempt (info : RelayHeaderInfo) (attempt : Attempt Body) : RelayHeaderInfo :=
  initChannelMeta
    { info with retryIndex := attempt.retryIndex, lastError := attempt.lastError } attempt.channel

variable (Body) in
/-- No attempt can tell `info` from the request's first `RelayHeaderInfo`. -/
def Untouched (client : ClientRequest) (info : RelayHeaderInfo) : Prop :=
  ∀ attempt : Attempt Body,
    beginAttempt info attempt = beginAttempt (genBaseRelayInfo client) attempt

variable (prims : Primitives Body) (client : ClientRequest) (info : RelayHeaderInfo)

/-- The override applied to the request and the headers sent, or the error that ends the attempt. -/
def relayAttempt (attempt : Attempt Body) : RelayHeaderInfo × Except OverrideError AttemptHeaders :=
  match applyParamOverrideWithRelayInfo prims attempt.body (beginAttempt info attempt) with
  | (next, .error cause) => (next, .error cause)
  | (next, .ok _) =>
    (next, .ok
      { effective := getEffectiveHeaderOverride prims next
        sent := processHeaderOverride prims client.headers next })

def nextInfo (attempt : Attempt Body) : RelayHeaderInfo :=
  (relayAttempt prims client info attempt).1

def infoAfter (history : List (Attempt Body)) : RelayHeaderInfo :=
  run (nextInfo prims client) (genBaseRelayInfo client) history

/-- The headers of an attempt made after the attempts of `history`. -/
def attemptAfter (history : List (Attempt Body)) (attempt : Attempt Body) :
    Except OverrideError AttemptHeaders :=
  (relayAttempt prims client (infoAfter prims client history) attempt).2

/-- The channel has a parameter override, and it applies to the client's request without an
error when the channel is the first one tried. -/
def OverrideApplies (attempt : Attempt Body) : Prop :=
  attempt.channel.paramOverride.isEmpty = false ∧
    (applyParamOverride prims attempt.body attempt.channel.paramOverride
      (buildParamOverrideContext prims (beginAttempt (genBaseRelayInfo client) attempt))).isOk =
    true

variable {prims client}

theorem nextInfo_eq (attempt : Attempt Body) :
    nextInfo prims client info attempt =
      (applyParamOverrideWithRelayInfo prims attempt.body (beginAttempt info attempt)).1 := by
  unfold nextInfo relayAttempt
  split <;> rename_i applied <;> rw [applied]

theorem applyParamOverrideWithRelayInfo_runtime (body : Body) (info : RelayHeaderInfo)
    (inUse : info.useRuntimeHeadersOverride = true) :
    (applyParamOverrideWithRelayInfo prims body info).1.useRuntimeHeadersOverride = true := by
  unfold applyParamOverrideWithRelayInfo
  split
  · exact inUse
  split
  · exact inUse
  · rfl

theorem run_runtime (history : List (Attempt Body))
    (inUse : info.useRuntimeHeadersOverride = true) :
    (run (nextInfo prims client) info history).useRuntimeHeadersOverride = true := by
  have kept : ∀ (info : RelayHeaderInfo) (attempt : Attempt Body),
      info.useRuntimeHeadersOverride = true →
        (nextInfo prims client info attempt).useRuntimeHeadersOverride = true := by
    intro info attempt inUse
    rw [nextInfo_eq]
    exact applyParamOverrideWithRelayInfo_runtime attempt.body (beginAttempt info attempt) inUse
  exact run_keeps kept info history inUse

variable {info} {attempt : Attempt Body} {history : List (Attempt Body)}

theorem nextInfo_untouched (skipped : ¬ OverrideApplies prims client attempt)
    (untouched : Untouched Body client info) :
    Untouched Body client (nextInfo prims client info attempt) := by
  have unchanged : nextInfo prims client info attempt = beginAttempt info attempt := by
    rw [nextInfo_eq, untouched attempt]
    unfold applyParamOverrideWithRelayInfo
    split
    · rfl
    rename_i nonempty
    split
    · rfl
    rename_i applied
    exfalso
    apply skipped
    constructor
    · simpa [beginAttempt, initChannelMeta] using nonempty
    · exact applied ▸ rfl
  intro next
  rw [unchanged]
  exact untouched next

theorem nextInfo_applies (applies : OverrideApplies prims client attempt)
    (untouched : Untouched Body client info) :
    (nextInfo prims client info attempt).useRuntimeHeadersOverride = true := by
  rw [nextInfo_eq, untouched attempt]
  obtain ⟨nonempty, succeeds⟩ := applies
  unfold applyParamOverrideWithRelayInfo
  rw [if_neg (by simpa [beginAttempt, initChannelMeta] using nonempty)]
  split
  · rename_i failed
    change applyParamOverride prims attempt.body attempt.channel.paramOverride _ = _ at failed
    rw [failed] at succeeds
    cases succeeds
  · rfl

theorem infoAfter_untouched
    (skipped : ∀ attempt ∈ history, ¬ OverrideApplies prims client attempt) :
    Untouched Body client (infoAfter prims client history) := by
  have steps : AllSteps (nextInfo prims client)
      (fun _ attempt => ¬ OverrideApplies prims client attempt)
      (genBaseRelayInfo client) history := AllSteps.of_forall skipped
  apply run_invariant (fun _ _ skipped untouched => nextInfo_untouched skipped untouched) _ _ steps
  intro attempt
  rfl

theorem runtime_after_applied (member : attempt ∈ history)
    (applies : OverrideApplies prims client attempt) (untouched : Untouched Body client info) :
    (run (nextInfo prims client) info history).useRuntimeHeadersOverride = true := by
  induction history generalizing info with
  | nil => cases member
  | cons first rest ih =>
    by_cases here : OverrideApplies prims client first
    · exact run_runtime _ rest (nextInfo_applies here untouched)
    · rcases List.mem_cons.mp member with same | later
      · exact absurd (same ▸ applies) here
      · exact ih later (nextInfo_untouched here untouched)

/-- A channel with one header override and no parameter override, tried by `attempt`. -/
def plainAttempt (attempt : Attempt Body) (headersOverride : List (String × JsonValue)) :
    Attempt Body :=
  { attempt with channel := { headersOverride } }

theorem relayAttempt_plain (headersOverride : List (String × JsonValue)) :
    ((relayAttempt prims client info (plainAttempt attempt headersOverride)).2.map
      AttemptHeaders.effective) =
      .ok (if info.useRuntimeHeadersOverride then
          sanitizeHeaderOverrideMap info.runtimeHeadersOverride
        else sanitizeHeaderOverrideMap
          (headersOverride.map fun entry => (entry.1, formatValue prims.printNested entry.2))) := by
  rfl

theorem exists_leak (attempt : Attempt Body) (inUse : info.useRuntimeHeadersOverride = true) :
    ∃ next, (relayAttempt prims client info next).2 ≠
      (relayAttempt prims client (genBaseRelayInfo client) next).2 := by
  have differs : ∀ headersOverride : List (String × JsonValue),
      sanitizeHeaderOverrideMap info.runtimeHeadersOverride ≠ sanitizeHeaderOverrideMap
        (headersOverride.map fun entry => (entry.1, formatValue prims.printNested entry.2)) →
      ∃ next, (relayAttempt prims client info next).2 ≠
        (relayAttempt prims client (genBaseRelayInfo client) next).2 := by
    intro headersOverride different
    refine ⟨plainAttempt attempt headersOverride, fun same => different ?_⟩
    have effective := congrArg (Except.map AttemptHeaders.effective) same
    rw [relayAttempt_plain, relayAttempt_plain, if_pos inUse] at effective
    exact Except.ok.inj effective
  by_cases empty : sanitizeHeaderOverrideMap info.runtimeHeadersOverride = []
  · apply differs [("x", .string "1")]
    rw [empty]
    change [] ≠ sanitizeHeaderOverrideMap [("x", "1")]
    decide
  · exact differs [] empty

/-- Attempts are isolated from the history exactly when no parameter override of the history
took effect. -/
theorem attempts_isolated_iff (prims : Primitives Body) (client : ClientRequest)
    (history : List (Attempt Body)) :
    (∀ attempt, attemptAfter prims client history attempt = attemptAfter prims client [] attempt) ↔
      ∀ attempt ∈ history, ¬ OverrideApplies prims client attempt := by
  constructor
  · intro isolated attempt member applies
    have inUse : (infoAfter prims client history).useRuntimeHeadersOverride = true :=
      runtime_after_applied member applies fun _ => rfl
    obtain ⟨next, leak⟩ := exists_leak attempt inUse
    exact leak (isolated next)
  · intro skipped attempt
    have untouched := infoAfter_untouched skipped
    unfold attemptAfter relayAttempt
    rw [untouched attempt]
    rfl

end

def plainPrimitives : Primitives Unit where
  checkConditions _ _ _ _ := .ok true
  editBody body _ _ := .ok body
  applyOperationsLegacy body _ := .ok body
  readBody _ _ := none
  setBody body _ _ := .ok body
  printNested _ := ""
  parseJson _ := none
  compile _ := .error (.message "unsupported")

def tenantAttempt : Attempt Unit where
  channel :=
    { paramOverride :=
        { operations := some
            [{ mode := .setHeader, path := "X-Tenant", value := .string "a-secret" }] } }
  body := ()

def bareAttempt : Attempt Unit where
  channel := { apiKey := "key-b" }
  retryIndex := 1
  body := ()

/-- A channel without any override sends the header that the channel tried before it sets. -/
theorem earlier_channel_header_sent :
    attemptAfter plainPrimitives {} [tenantAttempt] bareAttempt =
        .ok { effective := [("x-tenant", "a-secret")], sent := .ok [("x-tenant", "a-secret")] } ∧
      attemptAfter plainPrimitives {} [] bareAttempt = .ok { effective := [], sent := .ok [] } :=
  ⟨rfl, rfl⟩

end NewApi.HeaderIsolation
