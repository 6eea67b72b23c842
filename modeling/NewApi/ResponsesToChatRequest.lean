import NewApi.ChatRequests
import NewApi.Runs
import NewApi.Schema

/-!
The messages of `ResponsesRequestToChatCompletionsRequest`
(relayconvert/internal/oai_responses/to_oai_chat_req.go). The items of the input are folded into
a growing list of chat messages: a call goes into the last message if that is the assistant's,
an output becomes a tool message, and every other item a message with its role. The tools, the
response format and the other fields of the request are left out.
-/

namespace NewApi.ResponsesToChatRequest

open Runs List

/-- A decoded JSON value. A number is what `strconv.FormatFloat` prints. -/
inductive Json where
  | null
  | bool (value : Bool)
  | number (text : String)
  | string (text : String)
  | array (items : List Json)
  | object (fields : List (String × Json))

abbrev Fields := List (String × Json)

structure Host where
  -- `kitutil.Marshal`, and `fmt.Sprintf` with `%v`.
  marshal : Json → Except String String
  print : Json → String
  -- What the decoder says of an array whose elements are not all objects.
  unmarshalError : List Json → String
  -- The bytes a value was decoded from.
  raw : Json → String

def field (fields : Fields) (key : String) : Json := (fields.lookup key).getD .null

variable (host : Host)

def interface2String : Json → String
  | .string text => text
  | .number text => text
  | .bool true => "true"
  | .bool false => "false"
  | .null => ""
  | value => host.print value

def getJsonType : Json → String
  | .null => "null"
  | .bool _ => "boolean"
  | .number _ => "number"
  | .string _ => "string"
  | .array _ => "array"
  | .object _ => "object"

def responsesJSONString : Json → String
  | .string text => text
  | value => host.raw value

/-- An absent value and null. -/
def rawJSONPresent : Option Json → Option Json
  | some .null | none => none
  | some value => some value

structure ChatMessage where
  role : String
  content : Json := .null
  toolCalls : List ToolCallRequest := []
  toolCallId : String := ""

inductive ConversionError where
  | missingName
  | marshal (cause : String)
  | invalidInputArray (cause : String)
  | unsupportedInput (type : String)
  deriving DecidableEq

def ConversionError.message : ConversionError → String
  | .missingName => "function_call item is missing name"
  | .marshal cause => cause
  | .invalidInputArray cause => s!"invalid input array: {cause}"
  | .unsupportedInput type => s!"unsupported responses input type \"{type}\""

variable (part : Fields)

def pickFields (keys : List String) : Fields :=
  keys.filterMap fun key => (part.lookup key).map fun value => (key, value)

def responsesPartPayload (key : String) : Json :=
  match part.lookup key with
  | some value => value
  | none => .object (part.filter fun entry => entry.1 ≠ "type")

/-- A field of the part, or the fields it is made of, or the part itself. -/
def wholeOrPicked (key : String) (keys : List String) : Json :=
  match part.lookup key with
  | some value => value
  | none =>
    match pickFields part keys with
    | [] => .object part
    | picked => .object picked

def responsesImagePartToChatImageURL : Json :=
  wholeOrPicked part "image_url" ["url", "file_id", "detail"]

def responsesFilePartToChatFile : Json :=
  wholeOrPicked part "file" ["file_id", "file_data", "filename", "file_url"]

def responsesVideoPartToChatVideoURL : Json :=
  match part.lookup "video_url" with
  | some (.object fields) =>
    if interface2String host (field fields "url") ≠ "" then
      .string (interface2String host (field fields "url"))
    else .object fields
  | some value => value
  | none =>
    if interface2String host (field part "url") ≠ "" then
      .string (interface2String host (field part "url"))
    else responsesPartPayload part "video_url"

structure PartsState where
  chatParts : List Json := []
  textOnly : String := ""
  onlyText : Bool := true

def PartsState.pass (state : PartsState) (part : Json) : PartsState :=
  { state with onlyText := false, chatParts := state.chatParts ++ [part] }

def partType : String :=
  trimSpace (interface2String host (field part "type"))

def isTextType (type : String) : Bool :=
  type = "input_text" || type = "output_text" || type = "text"

def mediaPart : Json :=
  let type := partType host part
  if type = "input_image" then
    .object [("type", .string "image_url"), ("image_url", responsesImagePartToChatImageURL part)]
  else if type = "input_file" then
    .object [("type", .string "file"), ("file", responsesFilePartToChatFile part)]
  else if type = "input_audio" then
    .object [("type", .string "input_audio"),
      ("input_audio", responsesPartPayload part "input_audio")]
  else if type = "input_video" then
    .object [("type", .string "video_url"),
      ("video_url", responsesVideoPartToChatVideoURL host part)]
  else .object part

def addPart (state : PartsState) (rawPart : Json) : PartsState :=
  match rawPart with
  | .object part =>
    if isTextType (partType host part) then
      let text := interface2String host (field part "text")
      { state with
        textOnly := state.textOnly ++ text
        chatParts := state.chatParts ++
          [.object [("type", .string "text"), ("text", .string text)]] }
    else state.pass (mediaPart host part)
  | part => state.pass part

def responsesContentPartsToChatContent (parts : List Json) : Json :=
  let state := parts.foldl (addPart host) {}
  if state.onlyText then .string state.textOnly else .array state.chatParts

def responsesInputContentToChatContent : Json → Json
  | .null => .string ""
  | .string text => .string text
  | .array parts => responsesContentPartsToChatContent host parts
  | content => content

variable (item : Fields)

def responsesCallID : String :=
  let callId := trimSpace (interface2String host (field item "call_id"))
  if callId ≠ "" then callId else trimSpace (interface2String host (field item "id"))

def responsesArgumentsString : Json → String
  | .null => ""
  | .string text => text
  | value => (host.marshal value).toOption.getD (interface2String host value)

def responseToolOutputToChatContent : Json → String
  | .null => ""
  | .string text => text
  | value => (host.marshal value).toOption.getD (host.print value)

def itemName : String :=
  trimSpace (interface2String host (field item "name"))

def responsesFunctionCallItemToChatToolCall : Except ConversionError ToolCallRequest :=
  if itemName host item = "" then .error .missingName
  else .ok
    { id := responsesCallID host item
      type := "function"
      name := itemName host item
      arguments := responsesArgumentsString host (field item "arguments") }

def responsesCustomToolCallItemToChatToolCall : Except ConversionError ToolCallRequest :=
  match host.marshal (.object item) with
  | .error cause => .error (.marshal cause)
  | .ok raw => .ok
      { id := responsesCallID host item
        type := "custom"
        name := itemName host item
        arguments := responsesArgumentsString host (field item "input")
        custom := raw }

def endsWithAssistant (messages : List ChatMessage) : Bool :=
  messages.getLast?.any fun last => last.role = "assistant"

def appendToolCallToLastAssistant (messages : List ChatMessage) (toolCall : ToolCallRequest) :
    List ChatMessage :=
  let messages :=
    if endsWithAssistant messages then messages else messages ++ [{ role := "assistant" }]
  messages.dropLast ++ messages.getLast?.toList.map fun last =>
    { last with toolCalls := last.toolCalls ++ [toolCall] }

def itemType : String :=
  trimSpace (interface2String host (field item "type"))

def itemRole : String :=
  let role := trimSpace (interface2String host (field item "role"))
  if role = "" then "user" else role

def outputCallId : String :=
  trimSpace (interface2String host (field item "call_id"))

def responsesInputItemToChatMessages (messages : List ChatMessage) :
    Except ConversionError (List ChatMessage) :=
  if itemType host item = "function_call" then
    (responsesFunctionCallItemToChatToolCall host item).map
      (appendToolCallToLastAssistant messages)
  else if itemType host item = "custom_tool_call" then
    (responsesCustomToolCallItemToChatToolCall host item).map
      (appendToolCallToLastAssistant messages)
  else if itemType host item = "function_call_output" then
    .ok (messages ++
      [{ role := "tool"
         toolCallId := outputCallId host item
         content := .string (responseToolOutputToChatContent host (field item "output")) }])
  else
    .ok (messages ++
      [{ role := itemRole host item
         content := responsesInputContentToChatContent host (field item "content") }])

def convertItems (host : Host) :
    List ChatMessage → List Fields → Except ConversionError (List ChatMessage)
  | messages, [] => .ok messages
  | messages, item :: rest =>
    (responsesInputItemToChatMessages host item messages).bind fun next =>
      convertItems host next rest

def systemMessages (instructions : Option Json) : List ChatMessage :=
  match rawJSONPresent instructions with
  | none => []
  | some instructions =>
    let text := responsesJSONString host instructions
    if trimSpace text = "" then [] else [{ role := "system", content := .string text }]

/-- An element of the input array as a map; null is an empty one. -/
def asItem : Json → Option Fields
  | .object fields => some fields
  | .null => some []
  | _ => none

def responsesRequestMessagesToChat (instructions input : Option Json) :
    Except ConversionError (List ChatMessage) :=
  let messages := systemMessages host instructions
  match rawJSONPresent input with
  | none => .ok messages
  | some (.string text) => .ok (messages ++ [{ role := "user", content := .string text }])
  | some (.array values) =>
    match values.mapM asItem with
    | none => .error (.invalidInputArray (host.unmarshalError values))
    | some items => convertItems host messages items
  | some value => .error (.unsupportedInput (getJsonType value))

inductive Entry where
  | message (role text : String)
  | call (id name arguments : String)
  | output (callId text : String)
  deriving DecidableEq

def partText : Json → String
  | .object part =>
    if isTextType (partType host part) then interface2String host (field part "text") else ""
  | _ => ""

def contentText : Json → String
  | .string text => text
  | .array parts => concat (parts.map (partText host))
  | _ => ""

/-- What an item contributes to the conversation. Reasoning contributes nothing. -/
def entriesIn : List Entry :=
  let type := itemType host item
  if type = "function_call" then
    [.call (responsesCallID host item) (itemName host item)
      (responsesArgumentsString host (field item "arguments"))]
  else if type = "custom_tool_call" then
    [.call (responsesCallID host item) (itemName host item)
      (responsesArgumentsString host (field item "input"))]
  else if type = "function_call_output" ∨ type = "custom_tool_call_output" then
    [.output (outputCallId host item) (responseToolOutputToChatContent host (field item "output"))]
  else if type = "reasoning" then []
  else [.message (itemRole host item) (contentText host (field item "content"))]

def chatPartText : Json → String
  | .object part =>
    match part.lookup "type", part.lookup "text" with
    | some (.string "text"), some (.string text) => text
    | _, _ => ""
  | _ => ""

def chatText : Json → String
  | .string text => text
  | .array parts => concat (parts.map chatPartText)
  | _ => ""

/-- A message made for calls only has no content. -/
def saidIn (message : ChatMessage) : List Entry :=
  match message.content with
  | .null => []
  | content => [.message message.role (chatText content)]

def entriesOf (message : ChatMessage) : List Entry :=
  if message.role = "tool" then [.output message.toolCallId (chatText message.content)]
  else saidIn message ++
    message.toolCalls.map fun call => .call call.id call.name call.arguments

/-- After the system message the messages hold these entries and nothing else, and only an
assistant has tool calls. -/
structure Holds (system messages : List ChatMessage) (entries : List Entry) : Prop where
  held : ∃ rest, messages = system ++ rest ∧ rest.flatMap entriesOf = entries ∧
    (∀ message ∈ rest, entriesOf message ≠ []) ∧
    ∀ message ∈ rest, message.toolCalls ≠ [] → message.role = "assistant"

/-- Every item is kept, in order, and no message stands for none. -/
def KeepsItems (system : List ChatMessage) (items : List Fields) (messages : List ChatMessage) :
    Prop :=
  Holds system messages (items.flatMap (entriesIn host))

/-! ### Texts of contents -/

theorem isTextType_text : isTextType (trimSpace "text") = true := by decide +kernel

variable {host} {item} {part} {state : PartsState} {text : String}
  {system messages before final : List ChatMessage} {message last : ChatMessage}
  {entries more : List Entry}

theorem mediaPart_text (other : isTextType (partType host part) = false) :
    chatPartText (mediaPart host part) = "" := by
  have passed : chatPartText (.object part) = "" := by
    cases type : part.lookup "type" with
    | none => simp [chatPartText, type]
    | some value =>
      have notText : value ≠ .string "text" := by
        rintro rfl
        simp [partType, field, type, interface2String, isTextType_text] at other
      cases value with
      | string text =>
        have different : text ≠ "text" := fun same => notText (same ▸ rfl)
        simp [chatPartText, type, different]
      | _ => simp [chatPartText, type]
  unfold mediaPart
  simp only
  split_ifs
  all_goals first | exact passed | simp [chatPartText]

structure Reads (state : PartsState) (text : String) : Prop where
  parts : concat (state.chatParts.map chatPartText) = text
  only : state.onlyText = true → state.textOnly = text

theorem concat_single (texts : List String) (text : String) :
    concat (texts ++ [text]) = concat texts ++ text := by
  rw [concat_append]
  simp [concat]

theorem Reads.pass {part : Json} (reads : Reads state text) (silent : chatPartText part = "") :
    Reads (state.pass part) text := by
  constructor
  · rw [PartsState.pass, map_append, map_singleton, concat_single, reads.parts, silent,
      String.append_empty]
  · exact fun never => absurd never Bool.false_ne_true

theorem addPart_reads (host : Host) (reads : Reads state text) (part : Json) :
    Reads (addPart host state part) (text ++ partText host part) := by
  cases part with
  | object fields =>
    by_cases isText : isTextType (partType host fields) = true
    · simp only [addPart, partText, isText, if_true]
      constructor
      · rw [map_append, map_singleton, concat_single, reads.parts]
        rfl
      · intro only
        simp [reads.only only]
    · simp only [addPart, partText, isText]
      simpa using reads.pass (mediaPart_text (by simpa using isText))
  | _ => simpa [addPart, partText] using reads.pass rfl

theorem foldl_addPart_reads (host : Host) (parts : List Json) (reads : Reads state text) :
    Reads (parts.foldl (addPart host) state) (text ++ concat (parts.map (partText host))) := by
  induction parts generalizing state text with
  | nil => simpa [concat] using reads
  | cons part rest ih =>
    have next := ih (addPart_reads host reads part)
    simpa [concat, String.append_assoc] using next

theorem contentText_kept (host : Host) (content : Json) :
    chatText (responsesInputContentToChatContent host content) = contentText host content := by
  cases content with
  | array parts =>
    have reads : Reads (parts.foldl (addPart host) {})
        ("" ++ concat (parts.map (partText host))) :=
      foldl_addPart_reads host parts ⟨rfl, fun _ => rfl⟩
    simp only [responsesInputContentToChatContent, responsesContentPartsToChatContent]
    split
    · next only => exact reads.only only
    · exact reads.parts
  | _ => rfl

theorem content_ne_null (host : Host) (content : Json) :
    responsesInputContentToChatContent host content ≠ .null := by
  cases content with
  | array parts =>
    simp only [responsesInputContentToChatContent, responsesContentPartsToChatContent]
    split <;> exact Json.noConfusion
  | _ => exact Json.noConfusion

theorem Holds.append (holds : Holds system messages entries) (some : entriesOf message ≠ [])
    (caller : message.toolCalls ≠ [] → message.role = "assistant") :
    Holds system (messages ++ [message]) (entries ++ entriesOf message) := by
  obtain ⟨rest, rfl, same, full, callers⟩ := holds.held
  refine ⟨rest ++ [message], by rw [append_assoc], ?_, ?_, ?_⟩
  · rw [flatMap_append, same, flatMap_singleton]
  · rw [forall_mem_append, forall_mem_singleton]
    exact ⟨full, some⟩
  · rw [forall_mem_append, forall_mem_singleton]
    exact ⟨callers, caller⟩

theorem Holds.replaceLast {next : ChatMessage} (holds : Holds system (before ++ [last]) entries)
    (outside : last ∉ system) (grown : entriesOf next = entriesOf last ++ more)
    (caller : next.toolCalls ≠ [] → next.role = "assistant") :
    Holds system (before ++ [next]) (entries ++ more) := by
  obtain ⟨rest, whole, same, full, callers⟩ := holds.held
  rcases eq_nil_or_concat rest with rfl | ⟨front, final, rfl⟩
  · rw [append_nil] at whole
    exact absurd (whole ▸ mem_append_right before mem_cons_self) outside
  · rw [concat_eq_append] at whole same full callers
    rw [← append_assoc] at whole
    obtain ⟨rfl, ends⟩ := append_inj' whole rfl
    obtain rfl : last = final := singleton_inj.mp ends
    rw [forall_mem_append, forall_mem_singleton] at full callers
    refine ⟨front ++ [next], by rw [append_assoc], ?_, ?_, ?_⟩
    · rw [← same]
      simp [grown]
    · rw [forall_mem_append, forall_mem_singleton, grown]
      exact ⟨full.1, fun none => full.2 (append_eq_nil_iff.mp none).1⟩
    · rw [forall_mem_append, forall_mem_singleton]
      exact ⟨callers.1, caller⟩

theorem entriesOf_call (message : ChatMessage) (call : ToolCallRequest)
    (assistant : message.role = "assistant") :
    entriesOf { message with toolCalls := message.toolCalls ++ [call] } =
      entriesOf message ++ [.call call.id call.name call.arguments] := by
  simp [entriesOf, saidIn, assistant]

theorem appendToolCall_holds (holds : Holds system messages entries)
    (roles : ∀ message ∈ system, message.role ≠ "assistant") (call : ToolCallRequest) :
    Holds system (appendToolCallToLastAssistant messages call)
      (entries ++ [.call call.id call.name call.arguments]) := by
  have fresh : Holds system (messages ++ [{ role := "assistant", toolCalls := [call] }])
      (entries ++ [.call call.id call.name call.arguments]) :=
    holds.append (by simp [entriesOf, saidIn]) fun _ => rfl
  cases found : messages.getLast? with
  | none => simpa [appendToolCallToLastAssistant, endsWithAssistant, found] using fresh
  | some last =>
    by_cases assistant : last.role = "assistant"
    · obtain ⟨before, rfl⟩ := getLast?_eq_some_iff.mp found
      have outside : last ∉ system := fun member => roles last member assistant
      have grown := holds.replaceLast outside (entriesOf_call last call assistant)
        fun _ => assistant
      simpa [appendToolCallToLastAssistant, endsWithAssistant, assistant] using grown
    · simpa [appendToolCallToLastAssistant, endsWithAssistant, found, assistant] using fresh

/-- What the message or call that the converter makes of an item says. -/
def written (host : Host) (item : Fields) : List Entry :=
  let type := itemType host item
  if type = "function_call" then
    [.call (responsesCallID host item) (itemName host item)
      (responsesArgumentsString host (field item "arguments"))]
  else if type = "custom_tool_call" then
    [.call (responsesCallID host item) (itemName host item)
      (responsesArgumentsString host (field item "input"))]
  else if type = "function_call_output" then
    [.output (outputCallId host item) (responseToolOutputToChatContent host (field item "output"))]
  else if itemRole host item = "tool" then
    [.output "" (contentText host (field item "content"))]
  else [.message (itemRole host item) (contentText host (field item "content"))]

theorem message_entry (host : Host) (role : String) (content : Json) :
    entriesOf { role, content := responsesInputContentToChatContent host content } =
      if role = "tool" then [.output "" (contentText host content)]
      else [.message role (contentText host content)] := by
  have filled := content_ne_null host content
  have same := contentText_kept host content
  rw [← same]
  simp only [entriesOf, saidIn]
  split
  · rfl
  generalize responsesInputContentToChatContent host content = made at filled
  cases made with
  | null => exact absurd rfl filled
  | _ => rfl

section Folded

-- Texts stay as they are read when entries are compared.
attribute [local irreducible] trimSpace

theorem item_holds {next : List ChatMessage}
    (roles : ∀ message ∈ system, message.role ≠ "assistant") (holds : Holds system messages entries)
    (converted : responsesInputItemToChatMessages host item messages = .ok next) :
    Holds system next (entries ++ written host item) := by
  unfold responsesInputItemToChatMessages at converted
  unfold written
  by_cases functionCall : itemType host item = "function_call"
  · rw [if_pos functionCall] at converted ⊢
    obtain ⟨call, built, rfl⟩ := map_ok converted
    unfold responsesFunctionCallItemToChatToolCall at built
    split at built
    · cases built
    cases built
    exact appendToolCall_holds holds roles _
  · rw [if_neg functionCall] at converted ⊢
    by_cases customCall : itemType host item = "custom_tool_call"
    · rw [if_pos customCall] at converted ⊢
      obtain ⟨call, built, rfl⟩ := map_ok converted
      unfold responsesCustomToolCallItemToChatToolCall at built
      split at built
      · cases built
      cases built
      exact appendToolCall_holds holds roles _
    · rw [if_neg customCall] at converted ⊢
      by_cases output : itemType host item = "function_call_output"
      · rw [if_pos output] at converted ⊢
        cases converted
        exact holds.append (cons_ne_nil _ _) fun none => absurd rfl none
      · rw [if_neg output] at converted ⊢
        cases converted
        rw [← message_entry host]
        refine holds.append ?_ fun none => absurd rfl none
        rw [message_entry host]
        split <;> exact cons_ne_nil _ _

theorem convertItems_holds (items : List Fields)
    (roles : ∀ message ∈ system, message.role ≠ "assistant") (holds : Holds system messages entries)
    (converted : convertItems host messages items = .ok final) :
    Holds system final (entries ++ items.flatMap (written host)) := by
  induction items generalizing messages entries with
  | nil =>
    cases converted
    simpa using holds
  | cons item rest ih =>
    obtain ⟨next, here, later⟩ := bind_ok converted
    have both := ih (item_holds roles holds here) later
    rwa [append_assoc, ← flatMap_cons] at both

end Folded

/-- An item that the converter keeps. The output of a custom tool call becomes a message; it is
the tool message of a call without an id if it has that role, no id and its output as content. -/
structure Kept (host : Host) (item : Fields) : Prop where
  reasoning : itemType host item ≠ "reasoning"
  customOutput : itemType host item = "custom_tool_call_output" →
    itemRole host item = "tool" ∧ outputCallId host item = "" ∧
      contentText host (field item "content") =
        responseToolOutputToChatContent host (field item "output")
  role : itemType host item ∉ ["function_call", "custom_tool_call", "function_call_output",
    "custom_tool_call_output"] → itemRole host item ≠ "tool"

theorem kept_iff (host : Host) (item : Fields) :
    entriesIn host item = written host item ↔ Kept host item := by
  have unfolded : Kept host item ↔ itemType host item ≠ "reasoning" ∧
      (itemType host item = "custom_tool_call_output" →
        itemRole host item = "tool" ∧ outputCallId host item = "" ∧
          contentText host (field item "content") =
            responseToolOutputToChatContent host (field item "output")) ∧
      (itemType host item ∉ ["function_call", "custom_tool_call", "function_call_output",
        "custom_tool_call_output"] → itemRole host item ≠ "tool") :=
    ⟨fun ⟨reasoning, output, role⟩ => ⟨reasoning, output, role⟩,
      fun ⟨reasoning, output, role⟩ => ⟨reasoning, output, role⟩⟩
  rw [unfolded]
  unfold entriesIn written
  generalize itemType host item = type
  by_cases functionCall : type = "function_call"
  · subst functionCall
    simp
  by_cases customCall : type = "custom_tool_call"
  · subst customCall
    simp
  by_cases output : type = "function_call_output"
  · subst output
    simp
  by_cases customOutput : type = "custom_tool_call_output"
  · subst customOutput
    by_cases tool : itemRole host item = "tool"
    · simp [tool, @eq_comm _ (contentText host (field item "content"))]
    · simp [tool]
  by_cases reasoning : type = "reasoning"
  · subst reasoning
    by_cases tool : itemRole host item = "tool" <;> simp [tool]
  · by_cases tool : itemRole host item = "tool" <;>
      simp [functionCall, customCall, output, customOutput, reasoning, tool]

theorem entriesIn_shorter (host : Host) (item : Fields) :
    (entriesIn host item).length ≤ (written host item).length := by
  have one : (written host item).length = 1 := by
    simp only [written]
    repeat' split
    all_goals rfl
  rw [one]
  simp only [entriesIn]
  repeat' split
  all_goals simp

theorem systemMessages_role (host : Host) (instructions : Option Json) :
    ∀ message ∈ systemMessages host instructions, message.role = "system" := by
  intro message member
  unfold systemMessages at member
  split at member
  · exact absurd member not_mem_nil
  simp only at member
  split at member
  · exact absurd member not_mem_nil
  · rw [mem_singleton.mp member]

theorem mapM_asItem (items : List Fields) : (items.map Json.object).mapM asItem = some items := by
  induction items with
  | nil => rfl
  | cons item rest ih => simp [asItem, ih]

/-- Every item is kept exactly when none is a reasoning item, no output of a custom tool call
differs from the message it becomes, and no message has the role of a tool. -/
theorem responsesRequestMessagesToChat_keeps_iff (host : Host) (instructions : Option Json)
    (items : List Fields) {messages : List ChatMessage}
    (done : responsesRequestMessagesToChat host instructions
      (some (.array (items.map .object))) = .ok messages) :
    KeepsItems host (systemMessages host instructions) items messages ↔
      ∀ item ∈ items, Kept host item := by
  have roles : ∀ message ∈ systemMessages host instructions, message.role ≠ "assistant" := by
    intro message member assistant
    simp [systemMessages_role host instructions message member] at assistant
  have start : Holds (systemMessages host instructions) (systemMessages host instructions) [] :=
    ⟨[], (append_nil _).symm, rfl, by simp, by simp⟩
  have run : convertItems host (systemMessages host instructions) items = .ok messages := by
    simpa only [responsesRequestMessagesToChat, rawJSONPresent, mapM_asItem] using done
  have holds := convertItems_holds items roles start run
  rw [nil_append] at holds
  constructor
  · rintro ⟨rest, whole, same, -⟩ item member
    obtain ⟨others, parts, said, -⟩ := holds.held
    rw [append_cancel_left (whole.symm.trans parts), said] at same
    exact (kept_iff host item).1
      (eq_of_flatMap_eq (fun item _ => entriesIn_shorter host item) same.symm item member)
  · intro kept
    have same : items.flatMap (entriesIn host) = items.flatMap (written host) :=
      flatMap_congr fun item member => (kept_iff host item).2 (kept item member)
    rw [KeepsItems, same]
    exact holds

def plainHost : Host where
  marshal _ := .ok "\x7b\x7d"
  print _ := ""
  unmarshalError _ := ""
  raw _ := ""

def messageItem (role text : String) : Fields :=
  [("type", .string "message"), ("role", .string role),
   ("content", .array [.object [("type", .string "input_text"), ("text", .string text)]])]

def customCallItem : Fields :=
  [("type", .string "custom_tool_call"), ("call_id", .string "call_2"), ("name", .string "run"),
   ("input", .string "ls")]

def toolItems : List Fields :=
  [messageItem "user" "Is it raining?",
   messageItem "assistant" "Let me look.",
   [("type", .string "function_call"), ("call_id", .string "call_1"),
    ("name", .string "get_weather"), ("arguments", .string "\x7b\x7d")],
   [("type", .string "function_call_output"), ("call_id", .string "call_1"),
    ("output", .string "yes")],
   customCallItem]

instance (host : Host) (item : Fields) : Decidable (Kept host item) :=
  decidable_of_iff (entriesIn host item = written host item) (kept_iff host item)

theorem toolItems_kept : ∃ messages,
    responsesRequestMessagesToChat plainHost (some (.string "Be brief."))
      (some (.array (toolItems.map .object))) = .ok messages ∧
    messages.length = 5 ∧
    KeepsItems plainHost (systemMessages plainHost (some (.string "Be brief."))) toolItems
      messages :=
  ⟨_, rfl, by decide +kernel, (responsesRequestMessagesToChat_keeps_iff plainHost
    (some (.string "Be brief.")) toolItems rfl).2 (by decide +kernel)⟩

def customOutputItem : Fields :=
  [("type", .string "custom_tool_call_output"), ("call_id", .string "call_2"),
   ("output", .string "a.txt")]

def reasoningItem : Fields :=
  [("type", .string "reasoning"), ("summary", .array [])]

/-- Both items fall through to the generic message. -/
theorem customOutput_and_reasoning_not_kept : ∃ messages,
    responsesRequestMessagesToChat plainHost none
      (some (.array ([reasoningItem, customCallItem, customOutputItem].map .object))) =
        .ok messages ∧
    messages.flatMap entriesOf =
      [.message "user" "", .call "call_2" "run" "ls", .message "user" ""] ∧
    ¬ KeepsItems plainHost [] [reasoningItem, customCallItem, customOutputItem] messages := by
  refine ⟨_, rfl, by decide +kernel, fun keeps => ?_⟩
  obtain ⟨rest, whole, same, _⟩ := keeps.held
  rw [nil_append] at whole
  rw [← whole] at same
  exact absurd same (by decide +kernel)

end NewApi.ResponsesToChatRequest
