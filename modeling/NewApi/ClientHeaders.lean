import NewApi.HeaderIsolation
import NewApi.TextCase

/-!
Sensitive headers of the client (`IsSensitiveClientHeader`) have no influence on the
upstream request: every reader of the client's headers sees the same when they change.
-/

namespace NewApi.ClientHeaders

open HeaderOverride HeaderIsolation List

def publicHeaders (headers : HeaderMap) : HeaderMap :=
  headers.filter fun entry => !isSensitiveClientHeader entry.1

/-- A request of the client, as the override code sees it in one attempt. -/
def ofClient (info : RelayHeaderInfo) (client : HeaderMap) : RelayHeaderInfo :=
  { info with requestHeaders := cloneRequestHeaders client }

theorem isSensitive_congr {left right : String}
    (same : lower (trimSpace left) = lower (trimSpace right)) :
    isSensitiveClientHeader left = isSensitiveClientHeader right := by
  unfold isSensitiveClientHeader
  rw [same]

theorem isSensitive_normalize (name : String) :
    isSensitiveClientHeader (normalizeHeaderContextKey name) = isSensitiveClientHeader name := by
  apply isSensitive_congr
  rw [normalizeHeaderContextKey, trimSpace_trimSpace, trimSpace_lower, lower_lower]

theorem isSensitive_trimSpace (name : String) :
    isSensitiveClientHeader (trimSpace name) = isSensitiveClientHeader name :=
  isSensitive_congr (by rw [trimSpace_trimSpace])

variable {first second : HeaderMap}
variable {client : HeaderMap}

theorem headerGet_public {name : String} (visible : isSensitiveClientHeader name = false) :
    headerGet (publicHeaders client) name = headerGet client name := by
  have same : ∀ entry : String × String,
      ((!isSensitiveClientHeader entry.1) = true ∧ decide (lower entry.1 = lower name) = true) ↔
        lower entry.1 = lower name := by
    intro entry
    rw [decide_eq_true_iff, and_iff_right_iff_imp]
    intro named
    have alike : lower (trimSpace entry.1) = lower (trimSpace name) := by
      rw [← trimSpace_lower, named, trimSpace_lower]
    rw [isSensitive_congr alike, visible, Bool.not_false]
  simp only [headerGet, publicHeaders, find?_filter, same]

theorem filterMap_public {Entry : Type} {pick : String × String → Option Entry}
    (skips : ∀ entry, isSensitiveClientHeader entry.1 = true → pick entry = none) :
    (publicHeaders client).filterMap pick = client.filterMap pick := by
  rw [publicHeaders, filterMap_filter]
  apply filterMap_congr
  intro entry _
  by_cases sensitive : isSensitiveClientHeader entry.1 = true
  · simp [skips entry sensitive]
  · simp [sensitive]

theorem buildRequestHeadersContext_public :
    buildRequestHeadersContext (publicHeaders client) = buildRequestHeadersContext client := by
  unfold buildRequestHeadersContext
  rw [filterMap_public]
  intro entry sensitive
  simp [requestHeaderEntry, isSensitive_normalize, sensitive]

theorem cloneRequestHeaders_public :
    publicHeaders (cloneRequestHeaders client) = cloneRequestHeaders (publicHeaders client) := by
  unfold cloneRequestHeaders
  generalize read : publicHeaders client = visible
  rw [publicHeaders, filter_filterMap]
  nth_rewrite 2 [← read]
  rw [publicHeaders, filterMap_filter, ← read]
  apply filterMap_congr
  intro entry _
  by_cases sensitive : isSensitiveClientHeader entry.1 = true
  · by_cases blank : trimSpace (headerGet client entry.1) = "" <;> simp [blank, sensitive]
  · rw [headerGet_public (Bool.of_not_eq_true sensitive)]
    by_cases blank : trimSpace (headerGet client entry.1) = "" <;> simp [blank, sensitive]

theorem passedHeaders_public (rules : PassthroughRules) :
    passedHeaders rules (publicHeaders client) = passedHeaders rules client := by
  refine congrArg (List.foldl _ []) ?_
  rw [filterMap_public]
  · apply filterMap_congr
    intro entry _
    by_cases sensitive : isSensitiveClientHeader entry.1 = true
    · simp [shouldSkipPassthroughHeader, isSensitive_trimSpace, sensitive]
    · rw [headerGet_public (Bool.of_not_eq_true sensitive)]
  · intro entry sensitive
    simp [shouldSkipPassthroughHeader, isSensitive_trimSpace, sensitive]

theorem clientHeaderValue_public (template : String) (letters : List Char) :
    clientHeaderValue (publicHeaders client) template letters =
      clientHeaderValue client template letters := by
  unfold clientHeaderValue
  by_cases sensitive : isSensitiveClientHeader (trimSpace (String.ofList letters)) = true
  · simp only [if_pos sensitive]
  · simp only [headerGet_public (Bool.of_not_eq_true sensitive)]

section

attribute [local irreducible] trimSpace lower

variable (info : RelayHeaderInfo)

theorem overrideEntries_public (headers entries : HeaderMap) :
    overrideEntries (publicHeaders client) info headers entries =
      overrideEntries client info headers entries := by
  have placeholders : applyHeaderOverridePlaceholders (publicHeaders client) =
      applyHeaderOverridePlaceholders client := by
    funext apiKey template
    simp only [applyHeaderOverridePlaceholders, clientHeaderValue_public]
  induction entries generalizing headers with
  | nil => rfl
  | cons entry rest ih => simp only [overrideEntries, ih, placeholders]

theorem overrideEntries_ofClient (headers entries : HeaderMap) :
    overrideEntries client (ofClient info first) headers entries =
      overrideEntries client info headers entries := by
  induction entries generalizing headers with
  | nil => rfl
  | cons entry rest ih =>
    simp only [overrideEntries, ih]
    rfl

variable {Body : Type} (prims : Primitives Body)

theorem processHeaderOverride_public :
    processHeaderOverride prims client (ofClient info client) =
      processHeaderOverride prims (publicHeaders client) info := by
  simp only [processHeaderOverride, passedHeaders_public, overrideEntries_public,
    overrideEntries_ofClient]
  rfl

theorem buildParamOverrideContext_public :
    buildParamOverrideContext prims (ofClient info (publicHeaders client)) =
      buildParamOverrideContext prims (ofClient info client) := by
  have headers : buildRequestHeadersContext (cloneRequestHeaders (publicHeaders client)) =
      buildRequestHeadersContext (cloneRequestHeaders client) := by
    rw [← cloneRequestHeaders_public, buildRequestHeadersContext_public]
  unfold buildParamOverrideContext ofClient
  rw [headers]
  rfl

theorem applyParamOverrideWithRelayInfo_public (body : Body) (info : RelayHeaderInfo)
    (client : HeaderMap) :
    applyParamOverrideWithRelayInfo prims body (ofClient info client) =
      ((applyParamOverrideWithRelayInfo prims body
          (ofClient info (publicHeaders client))).map (ofClient · client) id) := by
  unfold applyParamOverrideWithRelayInfo
  rw [buildParamOverrideContext_public]
  have same : (ofClient info (publicHeaders client)).channelMeta =
      (ofClient info client).channelMeta := rfl
  rw [same]
  split
  · rfl
  · cases applyParamOverride prims body (ofClient info client).channelMeta.paramOverride
      (buildParamOverrideContext prims (ofClient info client)) <;> rfl

/-- Two requests whose headers differ in sensitive headers only, in their values or in which of
them are present, have the same body after the parameter override and the same headers sent. -/
theorem sensitive_headers_without_influence (body : Body) (info : RelayHeaderInfo)
    (same : publicHeaders first = publicHeaders second) :
    let firstRun := applyParamOverrideWithRelayInfo prims body (ofClient info first)
    let secondRun := applyParamOverrideWithRelayInfo prims body (ofClient info second)
    firstRun.2 = secondRun.2 ∧
      processHeaderOverride prims first firstRun.1 =
        processHeaderOverride prims second secondRun.1 := by
  simp only [applyParamOverrideWithRelayInfo_public prims body info first, same,
    applyParamOverrideWithRelayInfo_public prims body info second]
  simp only [Prod.map_fst, Prod.map_snd, processHeaderOverride_public, same, and_self]

end

/-- A channel that passes client headers on, by an operation and by its header override. -/
def passingInfo : RelayHeaderInfo :=
  initChannelMeta (genBaseRelayInfo {})
    { headersOverride := [("*", .string ""), ("x-agent", .string "\x7bclient_header:x-trace\x7d")]
      paramOverride :=
        { operations := some
            [{ mode := .passHeaders, value := .string "authorization,x-trace" }] } }

def traced (name token : String) : HeaderMap := [(name, token), ("X-Trace", "t1")]

/-- The bearer token of the client leaves the request as it is. -/
theorem token_without_influence :
    let first := traced "Authorization" "Bearer a"
    let second := traced "authorization" "Bearer b"
    let run (client : HeaderMap) :=
      applyParamOverrideWithRelayInfo plainPrimitives () (ofClient passingInfo client)
    publicHeaders first = publicHeaders second ∧ (run first).2 = (run second).2 ∧
      processHeaderOverride plainPrimitives first (run first).1 =
        processHeaderOverride plainPrimitives second (run second).1 := by
  have same : publicHeaders (traced "Authorization" "Bearer a") =
      publicHeaders (traced "authorization" "Bearer b") := by decide +kernel
  exact ⟨same, sensitive_headers_without_influence plainPrimitives () passingInfo same⟩

end NewApi.ClientHeaders
