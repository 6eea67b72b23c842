import Mathlib.Data.List.Forall2
import NewApi.ChatRequests
import NewApi.Runs

/-!
The messages of `ClaudeMessagesRequestToOpenAIChat`
(relayconvert/internal/claude_messages/to_oai_chat_req.go). The blocks of a message are collected
in three lists: tool results go out at once as messages of their own, tool calls and media wait
for the message itself. JSON encoding is a parameter. The other fields of the request and the
cache control of blocks are left out.
-/

namespace NewApi.ClaudeToChatRequest

open Runs
open List hiding after

structure Host (Value : Type) where
  -- `kitutil.Marshal` of a tool call's input.
  marshal : Option Value → Option String
  -- The JSON of a tool result's blocks.
  marshalBlocks : MessageContent → String

variable {Value : Type}

inductive ConversionError where
  | imageSourceRequired (messageIndex contentIndex : Nat)
  deriving DecidableEq

def ConversionError.message : ConversionError → String
  | .imageSourceRequired messageIndex contentIndex =>
    s!"claude message {messageIndex} content {contentIndex} image source is required"

inductive ClaudeSystem (Value : Type) where
  | absent
  | text (text : String)
  | blocks (blocks : List (ClaudeMediaMessage Value))

/-- The system message; OpenRouter's Claude models get the blocks one by one. -/
def systemMessages (isOpenRouterClaude : Bool) : ClaudeSystem Value → List Message
  | .absent => []
  | .text text => if text = "" then [] else [{ role := "system", content := .text text }]
  | .blocks [] => []
  | .blocks blocks =>
    let texts := blocks.map ClaudeMediaMessage.getText
    [{ role := "system"
       content := if isOpenRouterClaude then .parts (texts.map .text)
         else .text (concat texts) }]

/-- `fmt.Sprintf` prints absent data as an error. -/
def imageData (source : ClaudeMessageSource) : String :=
  "data:" ++ source.mediaType ++ ";base64," ++ source.data.getD "%!s(<nil>)"

variable (host : Host Value)

def requestToJSONString (input : Option Value) : String :=
  (host.marshal input).getD "\x7b\x7d"

def parseContent (message : ClaudeMessage Value) : List (ClaudeMediaMessage Value) :=
  match message.content with
  | .text _ => []
  | .blocks blocks => blocks

/-- The first block with the id names the tool, whatever its type. -/
def searchToolNameByToolCallId (messages : List (ClaudeMessage Value)) (toolCallId : String) :
    String :=
  match (messages.flatMap parseContent).find? fun block => block.id = toolCallId with
  | some block => block.name
  | none => ""

def toolCall (block : ClaudeMediaMessage Value) : ToolCallRequest :=
  { id := block.id
    type := "function"
    name := block.name
    arguments := requestToJSONString host block.input }

def resultText (block : ClaudeMediaMessage Value) : String :=
  match block.content with
  | .text text => text
  | content => host.marshalBlocks content

variable (request : List (ClaudeMessage Value))

def toolMessage (block : ClaudeMediaMessage Value) : Message :=
  { role := "tool"
    content := .text (resultText host block)
    name := some (if block.name = "" then searchToolNameByToolCallId request block.toolUseId
      else block.name)
    toolCallId := block.toolUseId }

structure Collected where
  openAIMessages : List Message
  toolCalls : List ToolCallRequest := []
  mediaMessages : List ContentPart := []

def Collected.addMedia (collected : Collected) (part : ContentPart) : Collected :=
  { collected with mediaMessages := collected.mediaMessages ++ [part] }

def collectBlock (messageIndex contentIndex : Nat) (collected : Collected)
    (block : ClaudeMediaMessage Value) : Except ConversionError Collected :=
  match block.type with
  | .text | .inputText => .ok (collected.addMedia (.text block.getText))
  | .image =>
    match block.source with
    | none => .error (.imageSourceRequired messageIndex contentIndex)
    | some source => .ok (collected.addMedia (.imageUrl (imageData source)))
  | .toolUse => .ok { collected with toolCalls := collected.toolCalls ++ [toolCall host block] }
  | .toolResult => .ok { collected with
      openAIMessages := collected.openAIMessages ++ [toolMessage host request block] }
  | _ => .ok collected

def collectBlocks (host : Host Value) (request : List (ClaudeMessage Value)) (messageIndex : Nat) :
    Nat → Collected → List (ClaudeMediaMessage Value) → Except ConversionError Collected
  | _, collected, [] => .ok collected
  | contentIndex, collected, block :: rest =>
    (collectBlock host request messageIndex contentIndex collected block).bind fun next =>
      collectBlocks host request messageIndex (contentIndex + 1) next rest

/-- The message itself. Media are set only when there are no tool calls. -/
def ownMessage (role : String) (collected : Collected) : Message :=
  { role
    content := if collected.mediaMessages ≠ [] ∧ collected.toolCalls = [] then
        .parts collected.mediaMessages
      else .null
    toolCalls := if collected.toolCalls = [] then none else some collected.toolCalls }

def appendMessage (messages : List Message) (message : Message) : List Message :=
  if message.parseContent ≠ [] ∨ message.parseToolCalls ≠ [] then messages ++ [message]
  else messages

def convertMessage (messageIndex : Nat) (openAIMessages : List Message)
    (message : ClaudeMessage Value) : Except ConversionError (List Message) :=
  match message.content with
  | .text text =>
    .ok (appendMessage openAIMessages { role := message.role, content := .text text })
  | .blocks blocks =>
    (collectBlocks host request messageIndex 0 { openAIMessages } blocks).map fun collected =>
      appendMessage collected.openAIMessages (ownMessage message.role collected)

def convertMessages (host : Host Value) (request : List (ClaudeMessage Value)) :
    Nat → List Message → List (ClaudeMessage Value) → Except ConversionError (List Message)
  | _, openAIMessages, [] => .ok openAIMessages
  | messageIndex, openAIMessages, message :: rest =>
    (convertMessage host request messageIndex openAIMessages message).bind fun next =>
      convertMessages host request (messageIndex + 1) next rest

variable (isOpenRouterClaude : Bool)

def claudeMessagesRequestToOpenAIChat (system : ClaudeSystem Value)
    (messages : List (ClaudeMessage Value)) : Except ConversionError (List Message) :=
  convertMessages host messages 0 (systemMessages isOpenRouterClaude system) messages

def imageAddress (source : ClaudeMessageSource) : String :=
  if source.type = "url" then source.url
  else "data:" ++ source.mediaType ++ ";base64," ++ source.data.getD ""

def mediumOf (block : ClaudeMediaMessage Value) : Option ContentPart :=
  match block.type with
  | .text | .inputText => some (.text block.getText)
  | .image => block.source.map fun source => .imageUrl (imageAddress source)
  | _ => none

/-- Texts and images, with the role of their message. -/
def contentsIn (message : ClaudeMessage Value) : List (String × ContentPart) :=
  match message.content with
  | .text text => [(message.role, .text text)]
  | .blocks blocks => (blocks.filterMap mediumOf).map fun part => (message.role, part)

def usesIn (message : ClaudeMessage Value) : List (ClaudeMediaMessage Value) :=
  (parseContent message).filter fun block => block.type = .toolUse

def resultsIn (message : ClaudeMessage Value) : List (ClaudeMediaMessage Value) :=
  (parseContent message).filter fun block => block.type = .toolResult

variable (message : Message)

def contentsOf : List (String × ContentPart) :=
  if message.role = "tool" then []
  else message.parseContent.map fun part => (message.role, part)

def callsOf : List (String × String × String) :=
  if message.role = "assistant" then
    message.parseToolCalls.map fun call => (call.id, call.name, call.arguments)
  else []

def resultsOf : List (String × MessageContent) :=
  if message.role = "tool" then [(message.toolCallId, message.content)] else []

/-- The chat messages that stand for one Claude message. -/
structure Renders (host : Host Value) (message : ClaudeMessage Value) (segment : List Message) :
    Prop where
  contents : segment.flatMap contentsOf = contentsIn message
  calls : (segment.flatMap callsOf).map (fun call => (call.1, call.2.1, some call.2.2)) =
    (usesIn message).map fun block => (block.id, block.name, host.marshal block.input)
  results : segment.flatMap resultsOf =
    (resultsIn message).map fun block => (block.toolUseId, .text (resultText host block))
  callers : ∀ sent ∈ segment, sent.parseToolCalls ≠ [] → sent.role = "assistant"
  resultsFirst : ∃ results others, segment = results ++ others ∧
    (∀ sent ∈ results, sent.role = "tool") ∧ ∀ sent ∈ others, sent.role ≠ "tool"

/-- Every tool message comes after the assistant message that holds its call. -/
def AnswersAfter (called : List String) : List Message → Prop
  | [] => True
  | message :: rest => (message.role = "tool" → message.toolCallId ∈ called) ∧
      AnswersAfter (called ++ (callsOf message).map (·.1)) rest

/-- Every tool result comes after the message that holds its call. -/
def AnswersIn (called : List String) : List (ClaudeMessage Value) → Prop
  | [] => True
  | message :: rest => (∀ block ∈ resultsIn message, block.toolUseId ∈ called) ∧
      AnswersIn (called ++ (usesIn message).map (·.id)) rest

instance AnswersIn.decidable : (called : List String) → (messages : List (ClaudeMessage Value)) →
    Decidable (AnswersIn called messages)
  | _, [] => .isTrue trivial
  | called, message :: rest =>
    have := AnswersIn.decidable (called ++ (usesIn message).map (·.id)) rest
    inferInstanceAs (Decidable (_ ∧ _))

structure KeepsConversation (host : Host Value) (system : List Message)
    (messages : List (ClaudeMessage Value)) (converted : List Message) : Prop where
  segments : ∃ segments, converted = system ++ segments.flatten ∧
    List.Forall₂ (Renders host) messages segments
  answered : AnswersAfter [] converted

variable {blocks : List (ClaudeMediaMessage Value)}
variable {converted system after before second first : List Message}
  {messages : List (ClaudeMessage Value)} {block : ClaudeMediaMessage Value} {messageIndex : Nat}
  {called : List String}

theorem KeepsConversation.contents {host : Host Value}
    (kept : KeepsConversation host system messages converted) :
    converted.flatMap contentsOf = system.flatMap contentsOf ++ messages.flatMap contentsIn := by
  obtain ⟨segments, rfl, renders⟩ := kept.segments
  rw [flatMap_append]
  congr 1
  clear kept
  induction renders with
  | nil => rfl
  | cons here _ ih =>
    rw [flatten_cons, flatMap_append, here.contents, ih, flatMap_cons]

def medium (block : ClaudeMediaMessage Value) : Option ContentPart :=
  match block.type with
  | .text | .inputText => some (.text block.getText)
  | .image => block.source.map fun source => .imageUrl (imageData source)
  | _ => none

def mediaIn (blocks : List (ClaudeMediaMessage Value)) : List ContentPart :=
  blocks.filterMap medium

structure Collects (host : Host Value) (request : List (ClaudeMessage Value))
    (blocks : List (ClaudeMediaMessage Value)) (before after : Collected) : Prop where
  messages : after.openAIMessages = before.openAIMessages ++
    (blocks.filter fun block => block.type = .toolResult).map (toolMessage host request)
  calls : after.toolCalls = before.toolCalls ++
    (blocks.filter fun block => block.type = .toolUse).map (toolCall host)
  media : after.mediaMessages = before.mediaMessages ++ mediaIn blocks

variable {host} {request}

theorem collectBlock_collects {after : Collected} (contentIndex : Nat) {before : Collected}
    (collected : collectBlock host request messageIndex contentIndex before block = .ok after) :
    Collects host request [block] before after := by
  unfold collectBlock at collected
  cases type : block.type with
  | image =>
    rw [type] at collected
    cases source : block.source with
    | none => simp [source] at collected
    | some found =>
      simp only [source, Except.ok.injEq] at collected
      subst collected
      constructor <;> simp [mediaIn, medium, type, source, Collected.addMedia]
  | _ =>
    simp only [type, Except.ok.injEq] at collected
    subst collected
    constructor <;> simp [mediaIn, medium, type, Collected.addMedia]

theorem Collects.trans {first second : Collected} {rest : List (ClaudeMediaMessage Value)}
    {third : Collected} (here : Collects host request [block] first second)
    (later : Collects host request rest second third) :
    Collects host request (block :: rest) first third where
  messages := by
    rw [later.messages, here.messages, append_assoc, ← map_append,
      ← filter_append, singleton_append]
  calls := by
    rw [later.calls, here.calls, append_assoc, ← map_append, ← filter_append,
      singleton_append]
  media := by
    have both : mediaIn ([block] ++ rest) = mediaIn [block] ++ mediaIn rest :=
      filterMap_append
    rw [later.media, here.media, append_assoc, ← both, singleton_append]

theorem collectBlocks_collects {after : Collected} (contentIndex : Nat) {before : Collected}
    (collected : collectBlocks host request messageIndex contentIndex before blocks = .ok after) :
    Collects host request blocks before after := by
  induction blocks generalizing contentIndex before with
  | nil =>
    cases collected
    exact ⟨by simp, by simp, by simp [mediaIn]⟩
  | cons block rest ih =>
    obtain ⟨next, here, later⟩ := bind_ok collected
    exact (collectBlock_collects contentIndex here).trans
      (ih (contentIndex + 1) later)

/-! ### One message -/

/-- A message whose blocks the converter keeps. -/
structure Straight (host : Host Value) (message : ClaudeMessage Value) : Prop where
  role : contentsIn message ≠ [] → message.role ≠ "tool"
  callers : usesIn message ≠ [] → message.role = "assistant"
  apart : usesIn message ≠ [] → contentsIn message = []
  images : ∀ block ∈ parseContent message, block.type = .image →
    ∀ source ∈ block.source, imageData source = imageAddress source
  inputs : ∀ block ∈ usesIn message, (host.marshal block.input).isSome

instance (host : Host Value) (message : ClaudeMessage Value) :
    Decidable (Straight host message) :=
  decidable_of_iff ((contentsIn message ≠ [] → message.role ≠ "tool") ∧
      (usesIn message ≠ [] → message.role = "assistant") ∧
      (usesIn message ≠ [] → contentsIn message = []) ∧
      (∀ block ∈ parseContent message, block.type = .image →
        ∀ source ∈ block.source, imageData source = imageAddress source) ∧
      ∀ block ∈ usesIn message, (host.marshal block.input).isSome)
    ⟨fun ⟨role, callers, apart, images, inputs⟩ => ⟨role, callers, apart, images, inputs⟩,
      fun straight =>
        ⟨straight.role, straight.callers, straight.apart, straight.images, straight.inputs⟩⟩

theorem toolMessages_views :
    (blocks.map (toolMessage host request)).flatMap contentsOf = [] ∧
      (blocks.map (toolMessage host request)).flatMap callsOf = [] ∧
      (blocks.map (toolMessage host request)).flatMap resultsOf =
        blocks.map fun block => (block.toolUseId, .text (resultText host block)) := by
  induction blocks with
  | nil => exact ⟨rfl, rfl, rfl⟩
  | cons block rest ih =>
    obtain ⟨contents, calls, results⟩ := ih
    rw [map_cons, flatMap_cons, flatMap_cons, flatMap_cons, contents, calls,
      results]
    simp [contentsOf, callsOf, resultsOf, toolMessage]

def ownSegment : List Message :=
  if message.parseContent ≠ [] ∨ message.parseToolCalls ≠ [] then [message] else []

theorem appendMessage_eq (messages : List Message) (message : Message) :
    appendMessage messages message = messages ++ ownSegment message := by
  unfold appendMessage ownSegment
  split
  · rfl
  · rw [append_nil]

theorem ownSegment_mem {sent message : Message} (member : sent ∈ ownSegment message) :
    sent = message ∧ (message.parseContent ≠ [] ∨ message.parseToolCalls ≠ []) := by
  unfold ownSegment at member
  split at member
  · exact ⟨mem_singleton.mp member, ‹_›⟩
  · exact absurd member not_mem_nil

theorem ownSegment_views :
    (ownSegment message).flatMap contentsOf = contentsOf message ∧
      (ownSegment message).flatMap callsOf = callsOf message := by
  unfold ownSegment
  split
  · simp
  next nothing =>
  rw [not_or, not_not, not_not] at nothing
  simp [contentsOf, callsOf, nothing.1, nothing.2]

/-- What the converter has collected at the end of a message. -/
def collected (host : Host Value) (message : ClaudeMessage Value) : Collected where
  openAIMessages := []
  toolCalls := (usesIn message).map (toolCall host)
  mediaMessages := mediaIn (parseContent message)

def itself (host : Host Value) (message : ClaudeMessage Value) : Message :=
  match message.content with
  | .text text => { role := message.role, content := .text text }
  | .blocks _ => ownMessage message.role (collected host message)

/-- The chat messages that the converter writes for a message. -/
def segmentOf (host : Host Value) (request : List (ClaudeMessage Value))
    (message : ClaudeMessage Value) : List Message :=
  (resultsIn message).map (toolMessage host request) ++ ownSegment (itself host message)

variable {message : ClaudeMessage Value}

theorem convertMessage_eq
    (converted : convertMessage host request messageIndex before message = .ok after) :
    after = before ++ segmentOf host request message := by
  obtain ⟨role, content⟩ := message
  cases content with
  | text text =>
    cases converted
    exact appendMessage_eq before _
  | blocks blocks =>
    obtain ⟨found, done, rfl⟩ := map_ok converted
    have collects := collectBlocks_collects 0 done
    have same : ownMessage role found =
        ownMessage role (collected host ⟨role, .blocks blocks⟩) := by
      have calls : found.toolCalls = (collected host ⟨role, .blocks blocks⟩).toolCalls :=
        collects.calls
      have media : found.mediaMessages = (collected host ⟨role, .blocks blocks⟩).mediaMessages :=
        collects.media
      rw [ownMessage, calls, media]
      rfl
    rw [appendMessage_eq, collects.messages, append_assoc, same]
    rfl

theorem convertMessages_eq (messages : List (ClaudeMessage Value))
    (converted : convertMessages host request messageIndex before messages = .ok after) :
    after = before ++ messages.flatMap (segmentOf host request) := by
  induction messages generalizing messageIndex before with
  | nil =>
    cases converted
    simp
  | cons message rest ih =>
    obtain ⟨next, here, later⟩ := bind_ok converted
    rw [ih later, convertMessage_eq here, append_assoc, flatMap_cons]

theorem itself_role : (itself host message).role = message.role := by
  unfold itself
  split <;> rfl

theorem segmentOf_views (host : Host Value) (request : List (ClaudeMessage Value))
    (message : ClaudeMessage Value) :
    (segmentOf host request message).flatMap contentsOf = contentsOf (itself host message) ∧
      (segmentOf host request message).flatMap callsOf = callsOf (itself host message) := by
  obtain ⟨noContents, noCalls, -⟩ := toolMessages_views
  obtain ⟨contents, calls⟩ := ownSegment_views (itself host message)
  rw [segmentOf, flatMap_append, flatMap_append, noContents, noCalls, contents, calls]
  exact ⟨rfl, rfl⟩

theorem itself_parts (blocks : List (ClaudeMediaMessage Value)) (role : String) :
    (itself host ⟨role, .blocks blocks⟩).parseContent =
        (if usesIn (ClaudeMessage.mk role (.blocks blocks)) = [] then mediaIn blocks else []) ∧
      (itself host ⟨role, .blocks blocks⟩).parseToolCalls =
        (usesIn (ClaudeMessage.mk role (.blocks blocks))).map (toolCall host) := by
  by_cases called : usesIn (ClaudeMessage.mk role (.blocks blocks)) = []
  · by_cases media : mediaIn blocks = [] <;>
      simp [itself, ownMessage, collected, Message.parseContent, Message.parseToolCalls,
        NewApi.ClaudeToChatRequest.parseContent, called, media]
  · simp [itself, ownMessage, collected, Message.parseContent, Message.parseToolCalls, called]

theorem mediaIn_length (blocks : List (ClaudeMediaMessage Value)) :
    (mediaIn blocks).length = (blocks.filterMap mediumOf).length := by
  have same (block : ClaudeMediaMessage Value) :
      (medium block).isSome = (mediumOf block).isSome := by
    unfold medium mediumOf
    split <;> simp
  rw [mediaIn, length_filterMap_eq_countP, length_filterMap_eq_countP]
  simp only [same]

theorem contents_shorter (host : Host Value) (message : ClaudeMessage Value) :
    (contentsOf (itself host message)).length ≤ (contentsIn message).length := by
  obtain ⟨role, content⟩ := message
  unfold contentsOf
  split
  · exact Nat.zero_le _
  cases content with
  | text text => simp [itself, Message.parseContent, contentsIn]
  | blocks blocks =>
    rw [(itself_parts blocks role).1, length_map]
    simp only [contentsIn, length_map, ← mediaIn_length]
    split <;> simp

theorem calls_shorter (host : Host Value) (message : ClaudeMessage Value) :
    (callsOf (itself host message)).length ≤ (usesIn message).length := by
  obtain ⟨role, content⟩ := message
  unfold callsOf
  split
  · cases content with
    | text text => simp [itself, Message.parseToolCalls]
    | blocks blocks => simp [(itself_parts blocks role).2]
  · exact Nat.zero_le _

theorem media_iff (blocks : List (ClaudeMediaMessage Value)) :
    mediaIn blocks = blocks.filterMap mediumOf ↔ ∀ block ∈ blocks, block.type = .image →
      ∀ source ∈ block.source, imageData source = imageAddress source := by
  constructor
  · intro same block member type source found
    rw [mediaIn, filterMap_eq_flatMap_toList, filterMap_eq_flatMap_toList] at same
    have shorter : ∀ block ∈ blocks,
        (medium block).toList.length ≤ (mediumOf block).toList.length := by
      intro block _
      unfold medium mediumOf
      split
      · exact le_rfl
      · exact le_rfl
      · cases block.source <;> exact le_rfl
      · exact le_rfl
    have here := eq_of_flatMap_eq shorter same block member
    have found : block.source = some source := found
    simpa [medium, mediumOf, type, found] using here
  · intro images
    apply filterMap_congr
    intro block member
    cases type : block.type with
    | image =>
      cases found : block.source with
      | none => simp [medium, mediumOf, type, found]
      | some source => simp [medium, mediumOf, type, found, images block member type source found]
    | _ => simp [medium, mediumOf, type]

theorem images_of_contentless {blocks : List (ClaudeMediaMessage Value)}
    (none : blocks.filterMap mediumOf = []) : ∀ block ∈ blocks, block.type = .image →
      ∀ source ∈ block.source, imageData source = imageAddress source := by
  intro block member type source found
  have found : block.source = some source := found
  have here := filterMap_eq_nil_iff.1 none block member
  simp [mediumOf, type, found] at here

theorem contents_iff (host : Host Value) (message : ClaudeMessage Value) :
    contentsOf (itself host message) = contentsIn message ↔
      (contentsIn message ≠ [] → message.role ≠ "tool") ∧
      (usesIn message ≠ [] → contentsIn message = []) ∧
      ∀ block ∈ parseContent message, block.type = .image →
        ∀ source ∈ block.source, imageData source = imageAddress source := by
  obtain ⟨role, content⟩ := message
  cases content with
  | text text =>
    by_cases tool : role = "tool" <;>
      simp [contentsOf, itself, contentsIn, usesIn, parseContent, Message.parseContent, tool]
  | blocks blocks =>
    have injective : Function.Injective fun part : ContentPart => (role, part) :=
      fun _ _ same => (Prod.mk.inj same).2
    unfold contentsOf
    rw [itself_role, (itself_parts blocks role).1]
    simp only [contentsIn, map_eq_nil_iff, ne_eq, parseContent]
    by_cases tool : role = "tool"
    · rw [if_pos tool, eq_comm, map_eq_nil_iff]
      constructor
      · intro none
        exact ⟨fun some => absurd none some, fun _ => none, images_of_contentless none⟩
      · intro kept
        by_contra some
        exact kept.1 some tool
    · rw [if_neg tool]
      by_cases called : usesIn (ClaudeMessage.mk role (.blocks blocks)) = []
      · rw [if_pos called, injective.list_map.eq_iff, media_iff]
        simp [called, tool]
      · rw [if_neg called, map_nil, eq_comm, map_eq_nil_iff]
        constructor
        · intro none
          exact ⟨fun _ => tool, fun _ => none, images_of_contentless none⟩
        · exact fun kept => kept.2.1 called

theorem calls_iff (host : Host Value) (message : ClaudeMessage Value) :
    (callsOf (itself host message)).map (fun call => (call.1, call.2.1, some call.2.2)) =
        (usesIn message).map (fun block => (block.id, block.name, host.marshal block.input)) ↔
      (usesIn message ≠ [] → message.role = "assistant") ∧
        ∀ block ∈ usesIn message, (host.marshal block.input).isSome := by
  obtain ⟨role, content⟩ := message
  cases content with
  | text text => simp [callsOf, itself, usesIn, parseContent, Message.parseToolCalls]
  | blocks blocks =>
    unfold callsOf
    rw [itself_role, (itself_parts blocks role).2]
    by_cases assistant : role = "assistant"
    · rw [if_pos assistant, map_map, map_map, map_inj_left]
      simp only [assistant, implies_true, true_and]
      refine forall₂_congr fun block _ => ?_
      cases encoded : host.marshal block.input <;> simp [toolCall, requestToJSONString, encoded]
    · rw [if_neg assistant, map_nil, eq_comm, map_eq_nil_iff]
      constructor
      · intro none
        simp [none]
      · intro kept
        by_contra some
        exact assistant (kept.1 some)

theorem straight_iff (host : Host Value) (message : ClaudeMessage Value) :
    Straight host message ↔ contentsOf (itself host message) = contentsIn message ∧
      (callsOf (itself host message)).map (fun call => (call.1, call.2.1, some call.2.2)) =
        (usesIn message).map fun block => (block.id, block.name, host.marshal block.input) := by
  rw [contents_iff, calls_iff]
  constructor
  · intro straight
    exact ⟨⟨straight.role, straight.apart, straight.images⟩, straight.callers, straight.inputs⟩
  · rintro ⟨⟨role, apart, images⟩, callers, inputs⟩
    exact ⟨role, callers, apart, images, inputs⟩

theorem Straight.itself_other {sent : Message} (straight : Straight host message)
    (member : sent ∈ ownSegment (itself host message)) : sent.role ≠ "tool" := by
  obtain ⟨rfl, written⟩ := ownSegment_mem member
  rw [itself_role]
  intro tool
  obtain ⟨contents, calls⟩ := (straight_iff host message).1 straight
  have silent : contentsIn message = [] := by
    by_contra some
    exact straight.role some tool
  have uncalled : usesIn message = [] := by
    by_contra some
    rw [straight.callers some] at tool
    exact absurd tool (by decide)
  obtain ⟨role, content⟩ := message
  cases content with
  | text text => cases silent
  | blocks blocks =>
    rw [(itself_parts blocks role).1, (itself_parts blocks role).2, uncalled, if_pos rfl] at written
    have media := mediaIn_length blocks
    rw [map_eq_nil_iff.1 silent] at media
    rcases written with some | some
    · exact some (length_eq_zero_iff.1 media)
    · exact some rfl

theorem Straight.renders (straight : Straight host message)
    (request : List (ClaudeMessage Value)) :
    Renders host message (segmentOf host request message) := by
  obtain ⟨contents, calls⟩ := (straight_iff host message).1 straight
  obtain ⟨views, called⟩ := segmentOf_views host request message
  refine ⟨views.trans contents, by rw [called, calls], ?_, ?_, _, _, rfl, ?_,
    fun sent own => straight.itself_other own⟩
  · have noResults : (ownSegment (itself host message)).flatMap resultsOf = [] := by
      refine flatMap_eq_nil_iff.2 fun sent member => ?_
      simp [resultsOf, straight.itself_other member]
    rw [segmentOf, flatMap_append, noResults, append_nil]
    exact toolMessages_views.2.2
  · intro sent member calling
    rcases mem_append.mp member with tool | own
    · obtain ⟨block, _, rfl⟩ := mem_map.mp tool
      simp [toolMessage, Message.parseToolCalls] at calling
    · obtain ⟨rfl, -⟩ := ownSegment_mem own
      rw [itself_role]
      apply straight.callers
      intro none
      obtain ⟨role, content⟩ := message
      cases content with
      | text text => simp [itself, Message.parseToolCalls] at calling
      | blocks blocks => simp [(itself_parts blocks role).2, none] at calling
  · intro sent tool
    obtain ⟨block, _, rfl⟩ := mem_map.mp tool
    rfl

theorem answersAfter_append :
    AnswersAfter called (first ++ second) ↔ AnswersAfter called first ∧
      AnswersAfter (called ++ (first.flatMap callsOf).map (·.1)) second := by
  induction first generalizing called with
  | nil => simp [AnswersAfter]
  | cons message rest ih =>
    simp only [cons_append, AnswersAfter, ih, flatMap_cons, map_append,
      append_assoc, and_assoc]

theorem answersAfter_of_forall {messages : List Message}
    (answered : ∀ message ∈ messages, message.role = "tool" → message.toolCallId ∈ called) :
    AnswersAfter called messages := by
  induction messages generalizing called with
  | nil => trivial
  | cons message rest ih =>
    rw [forall_mem_cons] at answered
    refine ⟨answered.1, ih fun other member tool => ?_⟩
    exact mem_append_left _ (answered.2 other member tool)

theorem systemMessages_role (system : ClaudeSystem Value) :
    ∀ message ∈ systemMessages isOpenRouterClaude system, message.role = "system" := by
  intro message member
  unfold systemMessages at member
  split at member
  · simp at member
  · split at member
    · simp at member
    · rw [mem_singleton.mp member]
  · simp at member
  · rw [mem_singleton.mp member]

theorem segment_answered (straight : Straight host message) (request : List (ClaudeMessage Value)) :
    AnswersAfter called (segmentOf host request message) ↔
      ∀ block ∈ resultsIn message, block.toolUseId ∈ called := by
  have own (called : List String) : AnswersAfter called (ownSegment (itself host message)) :=
    answersAfter_of_forall fun sent member tool => absurd tool (straight.itself_other member)
  have tools (blocks : List (ClaudeMediaMessage Value)) :
      AnswersAfter called (blocks.map (toolMessage host request)) ↔
        ∀ block ∈ blocks, block.toolUseId ∈ called := by
    induction blocks with
    | nil => simp [AnswersAfter]
    | cons block rest ih =>
      simp [AnswersAfter, toolMessage, callsOf, ← ih]
  rw [segmentOf, answersAfter_append, tools]
  exact and_iff_left (own _)

theorem segments_answered (straight : ∀ message ∈ messages, Straight host message)
    (request : List (ClaudeMessage Value)) :
    AnswersAfter called (messages.flatMap (segmentOf host request)) ↔
      AnswersIn called messages := by
  induction messages generalizing called with
  | nil => simp [AnswersAfter, AnswersIn]
  | cons message rest ih =>
    rw [forall_mem_cons] at straight
    have ids : ((segmentOf host request message).flatMap callsOf).map (·.1) =
        (usesIn message).map (·.id) := by
      have both := congrArg (List.map Prod.fst) (straight.1.renders request).calls
      rwa [map_map, map_map] at both
    rw [flatMap_cons, answersAfter_append, segment_answered straight.1, ids, ih straight.2,
      AnswersIn]

theorem system_answered (system : ClaudeSystem Value) (rest : List Message) :
    AnswersAfter [] (systemMessages isOpenRouterClaude system ++ rest) ↔ AnswersAfter [] rest := by
  have roles := systemMessages_role isOpenRouterClaude system
  have noCalls : (systemMessages isOpenRouterClaude system).flatMap callsOf = [] := by
    apply flatMap_eq_nil_iff.mpr
    intro message member
    simp [callsOf, roles message member]
  rw [answersAfter_append, noCalls]
  refine and_iff_right (answersAfter_of_forall fun message member tool => ?_)
  simp [roles message member] at tool

theorem straight_of_segments {segments : List (List Message)}
    (renders : List.Forall₂ (Renders host) messages segments)
    (same : segments.flatten = messages.flatMap (segmentOf host request)) :
    ∀ message ∈ messages, Straight host message := by
  have views : segments.flatten.flatMap contentsOf = messages.flatMap contentsIn ∧
      (segments.flatten.flatMap callsOf).map (fun call => (call.1, call.2.1, some call.2.2)) =
        messages.flatMap fun message => (usesIn message).map fun block =>
          (block.id, block.name, host.marshal block.input) := by
    clear same
    induction renders with
    | nil => exact ⟨rfl, rfl⟩
    | cons here _ ih =>
      rw [flatten_cons, flatMap_append, flatMap_append, map_append, here.contents, here.calls,
        ih.1, ih.2]
      exact ⟨rfl, rfl⟩
  rw [same, flatMap_assoc, flatMap_assoc, map_flatMap] at views
  simp only [segmentOf_views] at views
  intro message member
  refine (straight_iff host message).2 ⟨?_, ?_⟩
  · exact eq_of_flatMap_eq (fun message _ => contents_shorter host message) views.1 message member
  · exact eq_of_flatMap_eq (fun message _ => by simpa using calls_shorter host message) views.2
      message member

/-- The conversation is kept exactly when no message mixes tool calls with texts or images, tool
calls are the assistant's, images are given by their data, and every result comes after its
call. -/
theorem claudeMessagesRequestToOpenAIChat_keeps_iff (host : Host Value)
    (isOpenRouterClaude : Bool) (system : ClaudeSystem Value)
    (messages : List (ClaudeMessage Value)) {converted : List Message}
    (done : claudeMessagesRequestToOpenAIChat host isOpenRouterClaude system messages =
      .ok converted) :
    KeepsConversation host (systemMessages isOpenRouterClaude system) messages converted ↔
      (∀ message ∈ messages, Straight host message) ∧ AnswersIn [] messages := by
  have shape := convertMessages_eq messages done
  constructor
  · rintro ⟨⟨segments, parts, renders⟩, answered⟩
    have straight := straight_of_segments renders (append_cancel_left (parts.symm.trans shape))
    rw [shape, system_answered, segments_answered straight] at answered
    exact ⟨straight, answered⟩
  · rintro ⟨straight, answered⟩
    rw [shape]
    refine ⟨⟨messages.map (segmentOf host messages), by rw [flatMap_def], ?_⟩, ?_⟩
    · clear answered shape done
      have all (request : List (ClaudeMessage Value)) :
          List.Forall₂ (Renders host) messages (messages.map (segmentOf host request)) := by
        rw [forall₂_map_right_iff, forall₂_same]
        exact fun message member => (straight message member).renders request
      exact all messages
    · rw [system_answered, segments_answered straight]
      exact answered

def textHost : Host String where
  marshal input := some (input.getD "null")
  marshalBlocks _ := "null"

def question : ClaudeMessage String :=
  { role := "user"
    content := .blocks
      [{ type := .text, text := some "Where is this?" },
       { type := .image
         source := some { type := "base64", mediaType := "image/png", data := some "aGk=" } }] }

def lookup : ClaudeMediaMessage String :=
  { type := .toolUse, id := "toolu_1", name := "look_up", input := some "\x7b\x7d" }

def answer : ClaudeMessage String :=
  { role := "user"
    content := .blocks
      [{ type := .text, text := some "Well?" },
       { type := .toolResult, toolUseId := "toolu_1", content := .text "Oslo" }] }

def imageTalk : List (ClaudeMessage String) :=
  [question, { role := "assistant", content := .blocks [lookup] }, answer,
   { role := "assistant", content := .text "In Oslo." }]

theorem imageTalk_kept : ∃ converted,
    claudeMessagesRequestToOpenAIChat textHost false (.text "Be brief.") imageTalk =
      .ok converted ∧
    KeepsConversation textHost [{ role := "system", content := .text "Be brief." }] imageTalk
      converted :=
  ⟨_, rfl, (claudeMessagesRequestToOpenAIChat_keeps_iff textHost false (.text "Be brief.")
    imageTalk rfl).2 ⟨by decide +kernel, by decide +kernel⟩⟩

/-- The text stands beside a tool call. -/
def textAndCall : List (ClaudeMessage String) :=
  [{ role := "assistant"
     content := .blocks [{ type := .text, text := some "Let me look." }, lookup] }]

def imageAtUrl : List (ClaudeMessage String) :=
  [{ role := "user"
     content := .blocks [{ type := .image, source := some { type := "url", url := "u" } }] }]

theorem textBesideCall_and_imageUrl_not_kept :
    (∃ converted, claudeMessagesRequestToOpenAIChat textHost false .absent textAndCall =
        .ok converted ∧
      converted.flatMap contentsOf = [] ∧
      ¬ KeepsConversation textHost [] textAndCall converted) ∧
    (∃ converted, claudeMessagesRequestToOpenAIChat textHost false .absent imageAtUrl =
        .ok converted ∧
      converted.flatMap contentsOf = [("user", .imageUrl "data:;base64,%!s(<nil>)")] ∧
      ¬ KeepsConversation textHost [] imageAtUrl converted) := by
  refine ⟨⟨_, rfl, by decide +kernel, fun kept => ?_⟩, ⟨_, rfl, by decide +kernel, fun kept => ?_⟩⟩
  · exact absurd kept.contents (by decide +kernel)
  · exact absurd kept.contents (by decide +kernel)

end NewApi.ClaudeToChatRequest
