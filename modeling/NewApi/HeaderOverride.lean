import NewApi.Runs
import NewApi.Schema

/-!
Header overrides of a relay attempt: the channel's own overrides, the header
operations of its parameter override (relay/common/override.go) and the headers
finally sent (relay/channel/api_request.go). Maps are lists in the order the map
is ranged over. The edits of the JSON body, the conditions of an operation, the
JSON parser and regular expressions are parameters (`Primitives`): they read the
body and the override context and write the body only.
-/

namespace NewApi

inductive JsonValue where
  | null
  | bool (value : Bool)
  -- With the text that "%v" prints, and its value when it is whole.
  | number (text : String) (whole : Option Int)
  | string (text : String)
  | array (items : List JsonValue)
  | object (fields : List (String × JsonValue))

namespace HeaderOverride

open Runs

abbrev HeaderMap := List (String × String)

variable (headers : HeaderMap)

def assign (key value : String) : HeaderMap :=
  if (headers.lookup key).isSome then
    headers.map fun entry => if entry.1 = key then (key, value) else entry
  else headers ++ [(key, value)]

def remove (key : String) : HeaderMap :=
  headers.filter fun entry => entry.1 ≠ key

/-- `fmt.Sprintf("%v", value)`; the parameter prints arrays and objects. -/
def formatValue (nested : JsonValue → String) : JsonValue → String
  | .null => "<nil>"
  | .bool true => "true"
  | .bool false => "false"
  | .number text _ => text
  | .string text => text
  | value => nested value

variable (key : String)

def normalizeHeaderContextKey : String := trimSpace (lower key)

def startsWith (text start : String) : Bool := start.toList.isPrefixOf text.toList

def isHeaderPassthroughRuleKey : Bool :=
  let key := trimSpace (lower key)
  key = "*" || startsWith key "re:" || startsWith key "regex:"

def sanitizeEntry (target : HeaderMap) (entry : String × String) : HeaderMap :=
  let key := normalizeHeaderContextKey entry.1
  let value := trimSpace entry.2
  if key = "" then target
  else if value = "" then
    if isHeaderPassthroughRuleKey key then assign target key "" else target
  else assign target key value

def sanitizeHeaderOverrideMap (source : HeaderMap) : HeaderMap := source.foldl sanitizeEntry []

def sensitiveClientHeaderNames : List String :=
  ["api-key", "authorization", "cookie", "mj-api-secret", "proxy-authorization",
    "sec-websocket-key", "sec-websocket-protocol", "x-api-key", "x-auth-session",
    "x-goog-api-key", "x-security-proof", "x-turnstile-token"]

def isSensitiveClientHeader (name : String) : Bool :=
  let dashed := (lower (trimSpace name)).toList.map fun letter =>
    if letter = '_' then '-' else letter
  String.ofList dashed ∈ sensitiveClientHeaderNames

structure LastError where
  statusCode : Int
  message : String
  errorCode : String
  errorType : String
  skipRetry : Bool
  deriving DecidableEq

structure OverrideContext where
  upstreamModel : String
  originalModel : String
  requestPath : String
  requestHeaders : HeaderMap
  headerOverride : HeaderMap
  retryIndex : Nat
  lastError : Option LastError
  isChannelTest : Bool
  deriving DecidableEq

variable (context : OverrideContext)

structure ReturnedError where
  message : String := ""
  statusCode : Int := 400
  code : String := "invalid_request"
  errorType : String := "invalid_request_error"
  skipRetry : Bool := true
  deriving DecidableEq

inductive OverrideError where
  | sourceHeaderNotFound (header : String)
  | returned (error : ReturnedError)
  | message (text : String)
  deriving DecidableEq

def OverrideError.text : OverrideError → String
  | .sourceHeaderNotFound header => "source header does not exist: " ++ header
  | .returned error => error.message
  | .message text => text

inductive OperationMode where
  | setHeader
  | deleteHeader
  | copyHeader
  | moveHeader
  | passHeaders
  | syncFields
  | returnError
  -- The modes that edit the JSON body.
  | body (name : String)
  | unknown (name : String)
  deriving DecidableEq

structure ConditionOperation where
  path : String
  mode : String
  value : JsonValue
  invert : Bool := false
  passMissingKey : Bool := false

structure ParamOperation where
  mode : OperationMode
  path : String := ""
  value : JsonValue := .null
  keepOrigin : Bool := false
  -- The fields "from" and "to".
  source : String := ""
  target : String := ""
  conditions : List ConditionOperation := []
  logic : String := "OR"

/-- A parameter override after `tryParseOperations` and `buildLegacyParamOverride`: its
operations, if they parse, and the entries set directly in the body. -/
structure ParamOverride where
  operations : Option (List ParamOperation) := none
  legacy : List (String × JsonValue) := []

def ParamOverride.isEmpty (override : ParamOverride) : Bool :=
  override.operations.isNone && override.legacy.isEmpty

structure Primitives (Body : Type) where
  checkConditions :
    Body → OverrideContext → List ConditionOperation → String → Except OverrideError Bool
  editBody : Body → OverrideContext → ParamOperation → Except OverrideError Body
  applyOperationsLegacy : Body → List (String × JsonValue) → Except OverrideError Body
  readBody : Body → String → Option JsonValue
  setBody : Body → String → JsonValue → Except OverrideError Body
  printNested : JsonValue → String
  parseJson : String → Option JsonValue
  compile : String → Except OverrideError (String → Bool)

/-- The value of a header as the operations see it: an override, or a client header that is
not sensitive. -/
def getHeaderValueFromContext (headerName : String) : Option String :=
  let name := normalizeHeaderContextKey headerName
  let found (headers : HeaderMap) : Option String :=
    match headers.lookup name with
    | none => none
    | some raw => if trimSpace raw = "" then none else some (trimSpace raw)
  if name = "" then none
  else match found context.headerOverride with
    | some value => some value
    | none => if isSensitiveClientHeader name then none else found context.requestHeaders

def splitComma : List Char → List Char → List (List Char)
  | [], current => [current.reverse]
  | ',' :: rest, current => current.reverse :: splitComma rest []
  | letter :: rest, current => splitComma rest (letter :: current)

def splitHeaderListValue (raw : String) : List String :=
  ((splitComma raw.toList []).map fun item => trimSpace (String.ofList item)).filter (· ≠ "")

def uniq (items : List String) : List String :=
  items.foldl (fun seen item => if item ∈ seen then seen else seen ++ [item]) []

mutual

def parseHeaderReplacementTokens (print : JsonValue → String) :
    JsonValue → Except OverrideError (List String)
  | .null => .ok []
  | .string text => .ok (splitHeaderListValue text)
  | .array items => do
    let tokens ← parseReplacementItems print items
    .ok (uniq tokens)
  | .object _ => .error (.message "header replacement value must be string, array or null")
  | value =>
    let token := trimSpace (formatValue print value)
    .ok (if token = "" then [] else [token])

def parseReplacementItems (print : JsonValue → String) :
    List JsonValue → Except OverrideError (List String)
  | [] => .ok []
  | item :: rest => do
    let tokens ← parseHeaderReplacementTokens print item
    let others ← parseReplacementItems print rest
    .ok (tokens ++ others)

end

variable (print : JsonValue → String)

def parseHeaderKeepOnlyDeclared (mapping : List (String × JsonValue)) : Bool :=
  match mapping.lookup "$keep_only_declared" with
  | some (.bool value) => value
  | _ => false

def replaceToken (mapping : List (String × JsonValue)) (token : String) :
    Except OverrideError (List String) :=
  let declared :=
    match mapping.lookup token with
    | some replacement => some replacement
    | none => if parseHeaderKeepOnlyDeclared mapping then none else mapping.lookup "*"
  match declared with
  | some replacement => parseHeaderReplacementTokens print replacement
  | none => .ok (if parseHeaderKeepOnlyDeclared mapping then [] else [token])

def replaceTokens (print : JsonValue → String) (mapping : List (String × JsonValue)) :
    List String → Except OverrideError (List String)
  | [] => .ok []
  | token :: rest => do
    let replaced ← replaceToken print mapping token
    let others ← replaceTokens print mapping rest
    .ok (replaced ++ others)

/-- `none` removes the header. -/
def resolveHeaderOverrideValueByMapping (context : OverrideContext) (headerName : String)
    (mapping : List (String × JsonValue)) : Except OverrideError (Option String) :=
  if mapping = [] then .error (.message "header value mapping cannot be empty")
  else do
    let appended ← parseHeaderReplacementTokens print ((mapping.lookup "$append").getD .null)
    let present := ((getHeaderValueFromContext context headerName).map splitHeaderListValue).getD []
    let replaced ← replaceTokens print mapping present
    let tokens := uniq (replaced ++ appended)
    .ok (if tokens = [] then none else some (",".intercalate tokens))

def resolveHeaderOverrideValue (context : OverrideContext) (headerName : String) :
    JsonValue → Except OverrideError (Option String)
  | .null => .error (.message "header value is required")
  | .object mapping => resolveHeaderOverrideValueByMapping print context headerName mapping
  | value =>
    let text := trimSpace (formatValue print value)
    .ok (if text = "" then none else some text)

def keepsOrigin (name : String) (keepOrigin : Bool) : Bool :=
  keepOrigin && ((context.headerOverride.lookup name).map trimSpace).getD "" != ""

def setHeaderOverrideInContext (context : OverrideContext) (headerName : String) (value : JsonValue)
    (keepOrigin : Bool) : Except OverrideError OverrideContext :=
  let name := normalizeHeaderContextKey headerName
  if name = "" then .error (.message "header name is required")
  else if keepsOrigin context name keepOrigin then .ok context
  else do
    match ← resolveHeaderOverrideValue print context name value with
    | none => .ok { context with headerOverride := remove context.headerOverride name }
    | some text => .ok { context with headerOverride := assign context.headerOverride name text }

def deleteHeaderOverrideInContext (headerName : String) : Except OverrideError OverrideContext :=
  let name := normalizeHeaderContextKey headerName
  if name = "" then .error (.message "header name is required")
  else .ok { context with headerOverride := remove context.headerOverride name }

def copyHeaderInContext (context : OverrideContext) (fromHeader toHeader : String)
    (keepOrigin : Bool) : Except OverrideError OverrideContext :=
  let source := normalizeHeaderContextKey fromHeader
  let target := normalizeHeaderContextKey toHeader
  if source = "" ∨ target = "" then .error (.message "copy_header from/to is required")
  else match getHeaderValueFromContext context source with
    | none => .error (.sourceHeaderNotFound source)
    | some value => setHeaderOverrideInContext print context target (.string value) keepOrigin

def moveHeaderInContext (context : OverrideContext) (fromHeader toHeader : String)
    (keepOrigin : Bool) : Except OverrideError OverrideContext :=
  let source := normalizeHeaderContextKey fromHeader
  let target := normalizeHeaderContextKey toHeader
  if source = "" ∨ target = "" then .error (.message "move_header from/to is required")
  else do
    let copied ← copyHeaderInContext print context source target keepOrigin
    if source = target then .ok copied else deleteHeaderOverrideInContext copied source

/-- A missing source header is no error of the operations that copy one. -/
def ignoreMissing :
    Except OverrideError OverrideContext → Except OverrideError OverrideContext
  | .error (.sourceHeaderNotFound _) => .ok context
  | result => result

def passHeaders (print : JsonValue → String) (keepOrigin : Bool) :
    OverrideContext → List String → Except OverrideError OverrideContext
  | context, [] => .ok context
  | context, name :: rest => do
    let copied ← ignoreMissing context (copyHeaderInContext print context name name keepOrigin)
    passHeaders print keepOrigin copied rest

def normalizeNames (names : List String) : List String :=
  uniq ((names.map normalizeHeaderContextKey).filter (· ≠ ""))

def validNames (names : List String) : Except OverrideError (List String) :=
  if normalizeNames names = [] then .error (.message "pass_headers value is invalid")
  else .ok (normalizeNames names)

mutual

/-- At least the number of nested values and texts a value can be parsed into. -/
def valueSize : JsonValue → Nat
  | .null => 1
  | .bool _ => 1
  | .number _ _ => 1
  | .string text => text.length + 1
  | .array items => itemsSize items + 1
  | .object fields => fieldsSize fields + 1

def itemsSize : List JsonValue → Nat
  | [] => 0
  | item :: rest => valueSize item + itemsSize rest

def fieldsSize : List (String × JsonValue) → Nat
  | [] => 0
  | field :: rest => valueSize field.2 + fieldsSize rest

end

/-- The recursion follows objects and JSON inside texts; `depth` bounds it by the value's size. -/
def parsePassThroughNames (print : JsonValue → String) (parseJson : String → Option JsonValue) :
    Nat → JsonValue → Except OverrideError (List String)
  | 0, _ => .error (.message "pass_headers value is invalid")
  | _ + 1, .null => .error (.message "pass_headers value is required")
  | depth + 1, .string raw =>
    let trimmed := trimSpace raw
    if trimmed = "" then .error (.message "pass_headers value is required")
    else
      let parsed :=
        if startsWith trimmed "[" || startsWith trimmed "\x7b" then parseJson trimmed else none
      match parsed with
      | some value => parsePassThroughNames print parseJson depth value
      | none => validNames ((splitComma trimmed.toList []).map String.ofList)
  | _ + 1, .array items => validNames (items.map (formatValue print))
  | depth + 1, .object fields =>
    let named (key : String) : List String :=
      match fields.lookup key with
      | none => []
      | some value => (parsePassThroughNames print parseJson depth value).toOption.getD []
    validNames (named "headers" ++ named "names" ++ named "header")
  | _ + 1, _ => .error (.message "pass_headers value must be string, array or object")

def parseHeaderPassThroughNames (parseJson : String → Option JsonValue) (value : JsonValue) :
    Except OverrideError (List String) :=
  parsePassThroughNames print parseJson (valueSize value) value

inductive SyncTarget where
  | json (key : String)
  | header (key : String)
  deriving DecidableEq

def splitColon : List Char → List Char → Option (List Char × List Char)
  | [], _ => none
  | ':' :: rest, before => some (before.reverse, rest)
  | letter :: rest, before => splitColon rest (letter :: before)

def syncTargetOf (raw : String) (start rest : List Char) : Except OverrideError SyncTarget :=
  let kind := lower (trimSpace (String.ofList start))
  let key := trimSpace (String.ofList rest)
  if key = "" then .error (.message ("sync_fields target key is required: " ++ raw))
  else if kind = "json" ∨ kind = "body" then .ok (.json key)
  else if kind = "header" then .ok (.header key)
  else .error (.message ("sync_fields target prefix is invalid: " ++ raw))

def parseSyncTarget (spec : String) : Except OverrideError SyncTarget :=
  let raw := trimSpace spec
  if raw = "" then .error (.message "sync_fields target is required")
  else match splitColon raw.toList [] with
    | none => .ok (.json raw)
    | some (start, rest) => syncTargetOf raw start rest

section

variable {Body : Type} (prims : Primitives Body)

variable (body : Body) (context : OverrideContext)

def readSyncTargetValue : SyncTarget → Option JsonValue
  | .json key =>
    match prims.readBody body key with
    | some (.string text) => if trimSpace text = "" then none else some (.string text)
    | some .null => none
    | found => found
  | .header key => (getHeaderValueFromContext context key).map .string

def writeSyncTargetValue (value : JsonValue) :
    SyncTarget → Except OverrideError (Body × OverrideContext)
  | .json key => do
    let next ← prims.setBody body key value
    .ok (next, context)
  | .header key => do
    let next ← setHeaderOverrideInContext prims.printNested context key value false
    .ok (body, next)

def syncFieldsBetweenTargets (fromSpec toSpec : String) :
    Except OverrideError (Body × OverrideContext) := do
  let source ← parseSyncTarget fromSpec
  let target ← parseSyncTarget toSpec
  match readSyncTargetValue prims body context source,
      readSyncTargetValue prims body context target with
  | some value, none => writeSyncTargetValue prims body context value target
  | none, some value => writeSyncTargetValue prims body context value source
  | _, _ => .ok (body, context)

def parseOverrideInt : JsonValue → Option Int
  | .number _ whole => whole
  | _ => none

variable (fields : List (String × JsonValue))

def returnedStatus : Except OverrideError Int :=
  match fields.lookup "status_code", fields.lookup "status" with
  | some raw, _ =>
    match parseOverrideInt raw with
    | some status => .ok status
    | none => .error (.message "return_error status_code must be an integer")
  | none, some raw =>
    match parseOverrideInt raw with
    | some status => .ok status
    | none => .error (.message "return_error status must be an integer")
  | none, none => .ok 400

def textField (key : String) : String :=
  match fields.lookup key with
  | some (.string text) => trimSpace text
  | _ => ""

def returnedFields : Except OverrideError ReturnedError := do
  let status ← returnedStatus fields
  let message := textField fields "message"
  let code := ((fields.lookup "code").map (formatValue prims.printNested)).getD ""
  let skip := match fields.lookup "skip_retry" with
    | some (.bool value) => value
    | _ => true
  .ok
    { message := if message = "" then textField fields "msg" else message
      statusCode := status
      code := if trimSpace code = "" then "invalid_request" else trimSpace code
      errorType :=
        if textField fields "type" = "" then "invalid_request_error" else textField fields "type"
      skipRetry := skip }

def checkReturned (error : ReturnedError) : OverrideError :=
  if error.message = "" then .message "return_error message is required"
  else if error.statusCode < 100 ∨ 511 < error.statusCode then
    .message ("return_error status code out of range: " ++ toString error.statusCode)
  else .returned error

/-- `parseParamOverrideReturnError`: the operation fails either way. -/
def parseParamOverrideReturnError : JsonValue → OverrideError
  | .null => .message "return_error value is required"
  | .string text => checkReturned { message := trimSpace text }
  | .object fields =>
    match returnedFields prims fields with
    | .ok error => checkReturned error
    | .error cause => cause
  | _ => .message "return_error value must be string or object"

def operationFailed (mode : String) {Value : Type} :
    Except OverrideError Value → Except OverrideError Value
  | .ok value => .ok value
  | .error cause => .error (.message ("operation " ++ mode ++ " failed: " ++ cause.text))

variable (op : ParamOperation)

def sourceHeader : String :=
  if trimSpace op.source = "" then trimSpace op.path else trimSpace op.source

def targetHeader : String :=
  if trimSpace op.target = "" then trimSpace op.path else trimSpace op.target

def onContext (result : Except OverrideError OverrideContext) :
    Except OverrideError (Body × OverrideContext) :=
  result.map fun context => (body, context)

def applyMode : Except OverrideError (Body × OverrideContext) :=
  let print := prims.printNested
  match op.mode with
  | .setHeader => onContext body (operationFailed "set_header"
      (setHeaderOverrideInContext print context op.path op.value op.keepOrigin))
  | .deleteHeader => onContext body (operationFailed "delete_header"
      (deleteHeaderOverrideInContext context op.path))
  | .copyHeader => onContext body (operationFailed "copy_header" (ignoreMissing context
      (copyHeaderInContext print context (sourceHeader op) (targetHeader op) op.keepOrigin)))
  | .moveHeader => onContext body (operationFailed "move_header" (ignoreMissing context
      (moveHeaderInContext print context (sourceHeader op) (targetHeader op) op.keepOrigin)))
  | .passHeaders => do
    -- A value that does not parse is reported without the wrapper.
    let names ← parseHeaderPassThroughNames print prims.parseJson op.value
    onContext body
      (operationFailed "pass_headers" (passHeaders print op.keepOrigin context names))
  | .syncFields => operationFailed "sync_fields"
      (syncFieldsBetweenTargets prims body context op.source op.target)
  | .returnError => .error (parseParamOverrideReturnError prims op.value)
  | .body _ => (prims.editBody body context op).map fun next => (next, context)
  | .unknown name => .error (.message ("unknown operation: " ++ name))

def applyEach : Body → OverrideContext → List ParamOperation →
    Except OverrideError (Body × OverrideContext)
  | body, context, [] => .ok (body, context)
  | body, context, op :: rest => do
    let holds ← prims.checkConditions body context op.conditions op.logic
    let (body, context) ← if holds then applyMode prims body context op else .ok (body, context)
    applyEach body context rest

def requestHeaderEntry (entry : String × String) : Option (String × String) :=
  let name := normalizeHeaderContextKey entry.1
  let value := trimSpace entry.2
  if name = "" ∨ value = "" ∨ isSensitiveClientHeader name then none else some (name, value)

def buildRequestHeadersContext : HeaderMap :=
  (headers.filterMap requestHeaderEntry).foldl
    (fun context entry => assign context entry.1 entry.2) []

def applyOperations (operations : List ParamOperation) (context : OverrideContext) :
    Except OverrideError (Body × OverrideContext) :=
  applyEach prims body
    { context with requestHeaders := buildRequestHeadersContext context.requestHeaders } operations

def applyLegacy (legacy : List (String × JsonValue)) : Except OverrideError Body :=
  if legacy.isEmpty then .ok body else prims.applyOperationsLegacy body legacy

def applyParamOverride (override : ParamOverride) (context : OverrideContext) :
    Except OverrideError (Body × OverrideContext) := do
  let body ← applyLegacy prims body override.legacy
  match override.operations with
  | none => .ok (body, context)
  | some operations => applyOperations prims body operations context

structure ChannelMeta where
  headersOverride : List (String × JsonValue) := []
  paramOverride : ParamOverride := {}
  upstreamModelName : String := ""
  apiKey : String := ""

/-- The fields of `RelayInfo` that the override code reads; one value lives as long as the
request. -/
structure RelayHeaderInfo where
  originModelName : String
  requestURLPath : String
  requestHeaders : HeaderMap
  isChannelTest : Bool
  retryIndex : Nat := 0
  lastError : Option LastError := none
  runtimeHeadersOverride : HeaderMap := []
  useRuntimeHeadersOverride : Bool := false
  channelMeta : ChannelMeta := {}

variable (info : RelayHeaderInfo)

/-- `InitChannelMeta`: the channel's data is replaced, the runtime override is not. -/
def initChannelMeta (channel : ChannelMeta) : RelayHeaderInfo :=
  { info with channelMeta := channel }

def getHeaderOverrideMap : HeaderMap :=
  info.channelMeta.headersOverride.map fun entry => (entry.1, formatValue prims.printNested entry.2)

def getEffectiveHeaderOverride : HeaderMap :=
  if info.useRuntimeHeadersOverride then sanitizeHeaderOverrideMap info.runtimeHeadersOverride
  else sanitizeHeaderOverrideMap (getHeaderOverrideMap prims info)

def buildParamOverrideContext : OverrideContext where
  upstreamModel := info.channelMeta.upstreamModelName
  originalModel := info.originModelName
  requestPath := info.requestURLPath
  requestHeaders := buildRequestHeadersContext info.requestHeaders
  headerOverride := sanitizeHeaderOverrideMap (getEffectiveHeaderOverride prims info)
  retryIndex := info.retryIndex
  lastError := info.lastError
  isChannelTest := info.isChannelTest

def syncRuntimeHeaderOverrideFromContext (context : OverrideContext) : RelayHeaderInfo :=
  { info with
    runtimeHeadersOverride := sanitizeHeaderOverrideMap context.headerOverride
    useRuntimeHeadersOverride := true }

def applyParamOverrideWithRelayInfo : RelayHeaderInfo × Except OverrideError Body :=
  if info.channelMeta.paramOverride.isEmpty then (info, .ok body)
  else match applyParamOverride prims body info.channelMeta.paramOverride
      (buildParamOverrideContext prims info) with
    | .error cause => (info, .error cause)
    | .ok (result, context) => (syncRuntimeHeaderOverrideFromContext info context, .ok result)

def headerGet (name : String) : String :=
  ((headers.find? fun entry => lower entry.1 = lower name).map (·.2)).getD ""

def passthroughSkipHeaderNamesLower : List String :=
  ["connection", "keep-alive", "proxy-authenticate", "te", "trailer", "transfer-encoding",
    "upgrade", "host", "content-length", "accept-encoding", "sec-websocket-version",
    "sec-websocket-extensions"]

def shouldSkipPassthroughHeader (name : String) : Bool :=
  let name := trimSpace name
  name = "" || isSensitiveClientHeader name || lower name ∈ passthroughSkipHeaderNamesLower

/-- What the rule keys of an override let through. -/
structure PassthroughRules where
  passAll : Bool := false
  patterns : List (String → Bool) := []

variable (rules : PassthroughRules) (client : HeaderMap)

def quoted (text : String) : String := "\"" ++ text ++ "\""

def addPattern (key pattern : String) : Except OverrideError PassthroughRules :=
  if pattern = "" then
    .error (.message ("header passthrough regex pattern is empty: " ++ quoted key))
  else do
    let compiled ← prims.compile pattern
    .ok { rules with patterns := rules.patterns ++ [compiled] }

def afterStart (text start : String) : String :=
  trimSpace (String.ofList (text.toList.drop start.length))

def addRule (rawKey : String) : Except OverrideError PassthroughRules :=
  let key := trimSpace (lower rawKey)
  if key = "" then .ok rules
  else if key = "*" then .ok { rules with passAll := true }
  else if startsWith key "re:" then addPattern prims rules rawKey (afterStart key "re:")
  else if startsWith key "regex:" then addPattern prims rules rawKey (afterStart key "regex:")
  else .ok rules

def collectRules : PassthroughRules → List String → Except OverrideError PassthroughRules
  | rules, [] => .ok rules
  | rules, key :: rest => do
    let next ← addRule prims rules key
    collectRules next rest

def PassthroughRules.lets (name : String) : Bool :=
  rules.passAll || rules.patterns.any fun isMatch => isMatch name

def passedHeaders : HeaderMap :=
  (client.filterMap fun entry =>
    let value := trimSpace (headerGet client entry.1)
    if shouldSkipPassthroughHeader entry.1 || !rules.lets entry.1 || value = "" then none
    else some (lower (trimSpace entry.1), value)).foldl
      (fun headers entry => assign headers entry.1 entry.2) []

def clientHeaderPlaceholderPrefix : String := "\x7bclient_header:"

def replaceAll (pattern replacement : List Char) : Nat → List Char → List Char
  | _, [] => []
  | skip + 1, _ :: rest => replaceAll pattern replacement skip rest
  | 0, letter :: rest =>
    if pattern.isPrefixOf (letter :: rest) then
      replacement ++ replaceAll pattern replacement (pattern.length - 1) rest
    else letter :: replaceAll pattern replacement 0 rest

def clientHeaderValue (template : String) (name : List Char) :
    Except OverrideError (Option String) :=
  let name := trimSpace (String.ofList name)
  if name = "" then
    .error (.message ("client_header placeholder name is empty: " ++ quoted template))
  else if isSensitiveClientHeader name then
    .error (.message ("client_header placeholder cannot read protected header " ++ quoted name))
  else .ok (if trimSpace (headerGet client name) = "" then none else some (headerGet client name))

/-- `none` leaves the header out. -/
def applyHeaderOverridePlaceholders (apiKey template : String) :
    Except OverrideError (Option String) :=
  let trimmed := trimSpace template
  if startsWith trimmed clientHeaderPlaceholderPrefix then
    let rest := trimmed.toList.drop clientHeaderPlaceholderPrefix.length
    let name := rest.takeWhile (· ≠ '\x7d')
    if rest ≠ name ++ ['\x7d'] then
      .error (.message ("client_header placeholder must be the full value: " ++ quoted template))
    else clientHeaderValue client template name
  else
    let value := String.ofList (replaceAll "\x7bapi_key\x7d".toList apiKey.toList 0 template.toList)
    .ok (if trimSpace value = "" then none else some value)

def overrideEntries (client : HeaderMap) (info : RelayHeaderInfo) :
    HeaderMap → HeaderMap → Except OverrideError HeaderMap
  | headers, [] => .ok headers
  | headers, (rawKey, value) :: rest =>
    let key := trimSpace (lower rawKey)
    let placeholder := startsWith (trimSpace value) clientHeaderPlaceholderPrefix
    if isHeaderPassthroughRuleKey rawKey || key = "" || (info.isChannelTest && placeholder) then
      overrideEntries client info headers rest
    else do
      match ← applyHeaderOverridePlaceholders client info.channelMeta.apiKey value with
      | none => overrideEntries client info headers rest
      | some text => overrideEntries client info (assign headers key text) rest

/-- The headers set on the upstream request; `client` are the headers of the client's request. -/
def processHeaderOverride (info : RelayHeaderInfo) :
    Except OverrideError HeaderMap := do
  let source := getEffectiveHeaderOverride prims info
  let rules ← if info.isChannelTest then .ok {} else collectRules prims {} (source.map (·.1))
  overrideEntries client info (passedHeaders rules client) source

end

end HeaderOverride

end NewApi
