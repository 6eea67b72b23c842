import NewApi.ChatRequests

/-!
The messages of `OpenAIChatRequestToClaudeMessages`
(relayconvert/internal/oai_chat/to_claude_messages_req.go). A first pass joins neighbouring
string messages of one role and fills empty ones, a second pass emits Claude messages and puts
tool results into the last user message. JSON decoding and the download of media are
parameters. The other fields of the request are left out.
-/

namespace NewApi.ChatToClaudeRequest

open List Option

structure Host (Value : Type) where
  -- `kitutil.Unmarshal` into a map, and the empty map.
  unmarshal : String → Option Value
  emptyMap : Value
  toFileSource : ContentPart → Option String
  -- The data and MIME type of a file, unless it cannot be fetched.
  resolveBase64Data : String → Option (String × String)

variable {Value : Type}

/-- `strings.Trim(text, "\"")` -/
def trimQuotes (text : String) : String :=
  String.ofList
    ((text.toList.dropWhile (· = '"')).reverse.dropWhile (· = '"')).reverse

def placeholder : String := "..."

def fillEmpty (message : Message) : Message :=
  if message.content = .null ∨ message.content = .text "" then
    { message with content := .text placeholder }
  else message

def formatted (message : Message) : Message :=
  { role := message.role
    content := message.content
    toolCallId := if message.role = "tool" then message.toolCallId else ""
    toolCalls := if message.role = "assistant" then message.toolCalls else none }

def joins (last message : Message) : Bool :=
  last.role = message.role && last.role ≠ "tool" &&
    (last.isStringContent && message.isStringContent)

def joined (last message : Message) : Message :=
  { formatted message with
    content := .text (trimQuotes (last.stringContent ++ " " ++ message.stringContent)) }

def formatStep (state : List Message × Message) (message : Message) : List Message × Message :=
  let (messages, last) := state
  let next := fillEmpty (if joins last message then joined last message else formatted message)
  ((if joins last message then messages.dropLast else messages) ++ [next], next)

variable (host : Host Value) (messages : List Message) (role : String)

def formatMessages : List Message :=
  (messages.foldl formatStep ([], { role := "tool" })).1

def textBlock (text : String) : ClaudeMediaMessage Value :=
  { type := .text, text := some text }

def toolResultBlock (message : Message) : ClaudeMediaMessage Value :=
  { type := .toolResult, toolUseId := message.toolCallId, content := message.content }

def systemBlocks (message : Message) : List (ClaudeMediaMessage Value) :=
  if message.isStringContent then
    if message.stringContent = "" then [] else [textBlock message.stringContent]
  else
    message.parseContent.filterMap fun part =>
      match part with
      | .text text => if text = "" then none else some (textBlock text)
      | _ => none

def isPdf (mimeType : String) : Bool := "application/pdf".toList.isPrefixOf mimeType.toList

def mediaBlock (mimeType data : String) : ClaudeMediaMessage Value :=
  { type := if isPdf mimeType then .document else .image
    source := some { type := "base64", mediaType := mimeType, data := some data } }

/-- The blocks of one part; `none` when its file cannot be fetched. -/
def partBlocks (part : ContentPart) : Option (List (ClaudeMediaMessage Value)) :=
  match part with
  | .text text => some (if text = "" then [] else [textBlock text])
  | part =>
    match host.toFileSource part with
    | none => some []
    | some source => (host.resolveBase64Data source).map fun (data, mimeType) =>
      [mediaBlock mimeType data]

def toolUseBlock (call : ToolCallRequest) : ClaudeMediaMessage Value :=
  { type := .toolUse, id := call.id, name := call.name
    input := some (if call.arguments = "" then host.emptyMap
      else (host.unmarshal call.arguments).getD host.emptyMap) }

def partsBlocks (host : Host Value) :
    List ContentPart → Option (List (ClaudeMediaMessage Value))
  | [] => some []
  | part :: rest =>
    (partBlocks host part).bind fun first => (partsBlocks host rest).map fun others =>
      first ++ others

def mediaBlocks (message : Message) : Option (List (ClaudeMediaMessage Value)) :=
  (partsBlocks host message.parseContent).map fun blocks =>
    blocks ++ message.parseToolCalls.map (toolUseBlock host)

structure Emitted (Value : Type) where
  messages : List (ClaudeMessage Value) := []
  isFirstMessage : Bool := true
  system : List (ClaudeMediaMessage Value) := []

def openingMessage : ClaudeMessage Value :=
  { role := "user", content := .blocks [textBlock placeholder] }

def contentBlocks : ClaudeContent Value → List (ClaudeMediaMessage Value)
  | .text text => [textBlock text]
  | .blocks blocks => blocks

/-- A tool message goes into the last message if that is the user's. -/
def emitToolResult (message : Message) (messages : List (ClaudeMessage Value)) :
    List (ClaudeMessage Value) :=
  match messages.getLast? with
  | some last =>
    if last.role = "user" then
      messages.dropLast ++
        [{ last with
            content := .blocks (contentBlocks last.content ++ [toolResultBlock message]) }]
    else messages ++ [{ role := "user", content := .blocks [toolResultBlock message] }]
  | none => messages ++ [{ role := "user", content := .blocks [toolResultBlock message] }]

/-- A conversation that does not start with the user is opened for it. -/
def openedFor (message : Message) (state : Emitted Value) : List (ClaudeMessage Value) :=
  if state.isFirstMessage ∧ message.role ≠ "user" then state.messages ++ [openingMessage]
  else state.messages

def emitMessage (state : Emitted Value) (message : Message) : Option (Emitted Value) :=
  if message.role = "system" then
    some { state with system := state.system ++ systemBlocks message }
  else
    let messages := openedFor message state
    let state := { state with isFirstMessage := false }
    if message.role = "tool" then
      some { state with messages := emitToolResult message messages }
    else if message.isStringContent ∧ message.toolCalls = none then
      let text := if message.stringContent = "" then placeholder else message.stringContent
      some { state with messages := messages ++ [{ role := message.role, content := .text text }] }
    else
      (mediaBlocks host message).map fun blocks =>
        { state with messages := messages ++ [{ role := message.role, content := .blocks blocks }] }

def emitMessages (host : Host Value) : Emitted Value → List Message → Option (Emitted Value)
  | state, [] => some state
  | state, message :: rest =>
    (emitMessage host state message).bind fun next => emitMessages host next rest

/-- The messages and the system prompt; `none` when a file cannot be fetched. -/
def openAIChatRequestToClaudeMessages : Option (Emitted Value) :=
  emitMessages host {} (formatMessages messages)

def saidBy : ContentPart → Option (String × String)
  | .text text => some (role, text)
  | _ => none

def Spoken : Prop := role = "user" ∨ role = "assistant"

instance : Decidable (Spoken role) := inferInstanceAs (Decidable (_ ∨ _))

/-- The texts of user and assistant messages, with their roles. -/
def textsIn (message : Message) : List (String × String) :=
  if Spoken message.role then
    match message.content with
    | .null => [(message.role, "")]
    | .text text => [(message.role, text)]
    | .parts parts => parts.filterMap (saidBy message.role)
    | .other _ => []
  else []

def callsIn (message : Message) : List ToolCallRequest :=
  if message.role = "assistant" then message.parseToolCalls else []

def resultsIn (message : Message) : List (String × MessageContent) :=
  if message.role = "tool" then [(message.toolCallId, message.content)] else []

variable (block : ClaudeMediaMessage Value)

def ClaudeMediaMessage.asText : Option (String × String) :=
  if block.type = .text then block.text.map fun text => (role, text) else none

variable (message : ClaudeMessage Value)

def textsOf : List (String × String) :=
  (contentBlocks message.content).filterMap (ClaudeMediaMessage.asText message.role)

def ClaudeMediaMessage.asToolUse : Option (String × String × Option Value) :=
  if block.type = .toolUse then some (block.id, block.name, block.input) else none

def usesOf : List (String × String × Option Value) :=
  (contentBlocks message.content).filterMap ClaudeMediaMessage.asToolUse

def ClaudeMediaMessage.asToolResult : Option (String × MessageContent) :=
  if block.type = .toolResult then some (block.toolUseId, block.content) else none

def resultsOf : List (String × MessageContent) :=
  (contentBlocks message.content).filterMap ClaudeMediaMessage.asToolResult

/-- Texts in order and unaltered, except that neighbours of one role may be joined with a space
and an empty text be filled or left out. -/
inductive Conveys : List (String × String) → List (String × String) → Prop
  | nothing : Conveys [] []
  | same {said : String × String} {texts sent : List (String × String)}
      (rest : Conveys texts sent) : Conveys (said :: texts) (said :: sent)
  | joined {role first second : String} {texts sent : List (String × String)}
      (rest : Conveys ((role, first ++ " " ++ second) :: texts) sent) :
      Conveys ((role, first) :: (role, second) :: texts) sent
  | filled {role : String} {texts sent : List (String × String)}
      (rest : Conveys ((role, placeholder) :: texts) sent) : Conveys ((role, "") :: texts) sent
  | dropped {role : String} {texts sent : List (String × String)} (rest : Conveys texts sent) :
      Conveys ((role, "") :: texts) sent

def formatFrom (last : Message) : List Message → List Message
  | [] => [last]
  | message :: rest =>
    if joins last message then formatFrom (fillEmpty (joined last message)) rest
    else last :: formatFrom (fillEmpty (formatted message)) rest

variable {rest : List Message} {last message : Message} {allowed : String → Prop}
  {moreUses : List (String × String × Option Value)} {moreTexts opening' : List (String × String)}
  {third first : List (ClaudeMessage Value)} {blocks more : List (ClaudeMediaMessage Value)}
  {state final : Emitted Value}

theorem foldl_formatStep (front : List Message) (last : Message) :
    (rest.foldl formatStep (front ++ [last], last)).1 = front ++ formatFrom last rest := by
  induction rest generalizing front last with
  | nil => rfl
  | cons message rest ih =>
    by_cases same : joins last message = true
    · simp [formatStep, formatFrom, same, ih]
    · simp only [foldl_cons, formatStep, formatFrom, same]
      simpa using ih (front ++ [last]) (fillEmpty (formatted message))

theorem formatMessages_cons (message : Message) :
    formatMessages (message :: rest) = formatFrom (fillEmpty (formatted message)) rest := by
  have apart : joins { role := "tool" } message = false := by simp [joins]
  simpa [formatMessages, formatStep, apart] using
    foldl_formatStep [] (fillEmpty (formatted message))

def opensQuoted (text : String) : Bool := text.toList.head? = some '"'

def closesQuoted (text : String) : Bool := text.toList.getLast? = some '"'

theorem dropWhile_quotes (chars : List Char) :
    chars.head? = some '"' ∧ (chars.dropWhile (· = '"')).count '"' < chars.count '"' ∨
      chars.head? ≠ some '"' ∧ chars.dropWhile (· = '"') = chars := by
  cases chars with
  | nil => exact .inr ⟨by simp, rfl⟩
  | cons char rest =>
    by_cases quote : char = '"'
    · subst quote
      have fewer := (dropWhile_sublist (l := rest) (· = '"')).count_le '"'
      refine .inl ⟨rfl, ?_⟩
      simp only [dropWhile_cons, decide_true, if_true, count_cons_self]
      omega
    · exact .inr ⟨by simpa using quote, by simp [quote]⟩

/-- The space between two texts stops the trimming from either end. -/
theorem trimQuotes_spaced (first second : String) :
    trimQuotes (first ++ " " ++ second) = String.ofList (first.toList.dropWhile (· = '"') ++
      ' ' :: (second.toList.reverse.dropWhile (· = '"')).reverse) := by
  have stops (before after : List Char) : (before ++ ' ' :: after).dropWhile (· = '"') =
      before.dropWhile (· = '"') ++ ' ' :: after := by
    induction before with
    | nil => simp
    | cons char rest ih => by_cases quote : char = '"' <;> simp [quote, ih]
  rw [trimQuotes, String.toList_append, String.toList_append, append_assoc]
  have space : " ".toList ++ second.toList = ' ' :: second.toList := rfl
  rw [space, stops, reverse_append, reverse_cons, append_assoc, singleton_append, stops]
  simp

theorem trimQuotes_ne_empty (first second : String) : trimQuotes (first ++ " " ++ second) ≠ "" := by
  rw [trimQuotes_spaced]
  simp

def quotes (text : String) : ℕ := text.toList.count '"'

theorem opensQuoted_iff (text : String) :
    opensQuoted text = true ↔ text.toList.head? = some '"' := decide_eq_true_iff

theorem closesQuoted_iff (text : String) :
    closesQuoted text = true ↔ text.toList.reverse.head? = some '"' := by
  rw [head?_reverse]
  exact decide_eq_true_iff

/-- Joining two texts keeps them as they are, or takes a quotation mark away. -/
theorem quotes_joined (first second : String) :
    quotes (trimQuotes (first ++ " " ++ second)) ≤ quotes first + quotes second ∧
      (quotes (trimQuotes (first ++ " " ++ second)) = quotes first + quotes second →
        opensQuoted first = false ∧ closesQuoted second = false) ∧
      (opensQuoted first = false → closesQuoted second = false →
        trimQuotes (first ++ " " ++ second) = first ++ " " ++ second) := by
  have total : quotes (trimQuotes (first ++ " " ++ second)) =
      (first.toList.dropWhile (· = '"')).count '"' +
        (second.toList.reverse.dropWhile (· = '"')).count '"' := by
    rw [trimQuotes_spaced, quotes, String.toList_ofList, count_append,
      count_cons_of_ne (by decide), count_reverse]
  have back : second.toList.reverse.count '"' = quotes second := count_reverse
  rw [total, ← Bool.not_eq_true, ← Bool.not_eq_true, opensQuoted_iff, closesQuoted_iff, ← back,
    quotes, trimQuotes_spaced]
  rcases dropWhile_quotes first.toList with ⟨opens, fewer⟩ | ⟨plain, same⟩
  · rcases dropWhile_quotes second.toList.reverse with ⟨closes, less⟩ | ⟨_, kept⟩
    · exact ⟨by omega, fun even => by omega, fun calm => absurd opens calm⟩
    · rw [kept]
      exact ⟨by omega, fun even => by omega, fun calm => absurd opens calm⟩
  · rw [same]
    rcases dropWhile_quotes second.toList.reverse with ⟨closes, less⟩ | ⟨ends, kept⟩
    · exact ⟨by omega, fun even => by omega, fun _ calm => absurd closes calm⟩
    · rw [kept]
      refine ⟨le_rfl, fun _ => ⟨plain, ends⟩, fun _ _ => ?_⟩
      rw [reverse_reverse, String.ofList_append, String.ofList_toList]
      simp [String.append_assoc, String.ofList_cons]

theorem opensQuoted_append {first : String} (written : first ≠ "") (second : String) :
    opensQuoted (first ++ second) = opensQuoted first := by
  have chars : first.toList ≠ [] := by simpa using written
  obtain ⟨char, rest, listed⟩ := exists_cons_of_ne_nil chars
  simp [opensQuoted, listed]

/-- A message whose content is a string once it is filled. -/
def writesString (message : Message) : Bool :=
  match message.content with
  | .null | .text _ => true
  | _ => false

/-- Neighbours that the merge pass joins. -/
def follows (first second : Message) : Bool :=
  first.role = second.role && first.role ≠ "tool" &&
    (writesString first && second.isStringContent)

/-- Neighbours that lose nothing when they are joined; a first one that was itself joined to its
predecessor no longer stands at the start of the text. -/
def Joinable (within : Bool) (first second : Message) : Prop :=
  follows first second = true → Spoken first.role → callsIn first = [] ∧
    (within = false → opensQuoted first.stringContent = false) ∧
    closesQuoted second.stringContent = false

instance (within : Bool) (first second : Message) : Decidable (Joinable within first second) :=
  inferInstanceAs (Decidable (_ → _))

def JoinableFrom (within : Bool) (previous : Message) : List Message → Prop
  | [] => True
  | message :: rest =>
    Joinable within previous message ∧ JoinableFrom (follows previous message) message rest

instance decideJoinableFrom : (within : Bool) → (previous : Message) → (rest : List Message) →
    Decidable (JoinableFrom within previous rest)
  | _, _, [] => .isTrue trivial
  | within, previous, message :: rest =>
    have := decideJoinableFrom (follows previous message) message rest
    inferInstanceAs (Decidable (Joinable within previous message ∧ _))

/-- Every message that is joined to the one before it is joined without loss. -/
def JoinsWithoutLoss : List Message → Prop
  | [] => True
  | first :: rest => JoinableFrom false first rest

instance : (messages : List Message) → Decidable (JoinsWithoutLoss messages)
  | [] => .isTrue trivial
  | first :: rest => decideJoinableFrom false first rest

structure Stands (last previous : Message) : Prop where
  role : last.role = previous.role
  string : last.isStringContent = writesString previous
  calls : callsIn last = callsIn previous
  written : last.content ≠ .null ∧ last.content ≠ .text ""

variable {previous : Message} {others sent texts : List (String × String)} {within : Bool}
  {next : Emitted Value}

theorem Stands.joins_eq (stands : Stands last previous) (message : Message) :
    joins last message = follows previous message := by
  rw [joins, follows, stands.role, stands.string]

theorem formatted_stands (message : Message) : Stands (fillEmpty (formatted message)) message := by
  have calls : callsIn (formatted message) = callsIn message := by
    by_cases assistant : message.role = "assistant" <;>
      simp [callsIn, formatted, Message.parseToolCalls, assistant]
  unfold fillEmpty
  split
  · next empty =>
    refine ⟨rfl, ?_, calls, by simp, by simp [placeholder]⟩
    rcases empty with null | none
    · simp [Message.isStringContent, writesString, show message.content = .null from null]
    · simp [Message.isStringContent, writesString, show message.content = .text "" from none]
  · next written =>
    refine ⟨rfl, ?_, calls, ?_⟩
    · cases shape : message.content <;>
        simp_all [Message.isStringContent, writesString, formatted]
    · exact not_or.mp written

theorem Stands.text (stands : Stands last previous) (string : last.isStringContent = true) :
    last.content = .text last.stringContent ∧ last.stringContent ≠ "" := by
  have content := Message.content_eq string
  refine ⟨content, fun empty => stands.written.2 ?_⟩
  rw [content, empty]

theorem fillEmpty_joined (last message : Message) :
    fillEmpty (joined last message) = joined last message := by
  rw [fillEmpty, if_neg]
  simpa [joined] using trimQuotes_ne_empty last.stringContent message.stringContent

theorem joined_stands (last : Message) (string : message.isStringContent = true) :
    Stands (joined last message) message := by
  refine ⟨rfl, ?_, ?_, by simp [joined], ?_⟩
  · cases shape : message.content <;>
      simp_all [joined, Message.isStringContent, writesString]
  · by_cases assistant : message.role = "assistant" <;>
      simp [callsIn, joined, formatted, Message.parseToolCalls, assistant]
  · simpa [joined] using trimQuotes_ne_empty last.stringContent message.stringContent

/-! ### The merge pass keeps the conversation -/

def emittedTexts (message : Message) : List (String × String) :=
  (textsIn message).filter fun said => said.2 ≠ ""

theorem Conveys.append (texts : List (String × String)) (rest : Conveys others sent) :
    Conveys (texts ++ others) (texts.filter (fun said => said.2 ≠ "") ++ sent) := by
  induction texts with
  | nil => exact rest
  | cons said texts ih =>
    obtain ⟨role, text⟩ := said
    by_cases empty : text = ""
    · subst empty
      simpa using Conveys.dropped ih
    · simpa [empty] using Conveys.same ih

theorem textsIn_silent (silent : ¬ Spoken message.role) : textsIn message = [] := if_neg silent

theorem textsIn_string (spoken : Spoken message.role)
    (string : message.content = .text message.stringContent) :
    textsIn message = [(message.role, message.stringContent)] := by
  rw [textsIn, string]
  exact if_pos spoken

/-- The texts of a message once it is filled. -/
theorem textsIn_filled (message : Message) :
    textsIn (fillEmpty (formatted message)) = textsIn message ∨
      textsIn message = [(message.role, "")] ∧
        textsIn (fillEmpty (formatted message)) = [(message.role, placeholder)] := by
  by_cases empty : message.content = .null ∨ message.content = .text ""
  · by_cases spoken : Spoken message.role
    · refine .inr ⟨?_, by simp [textsIn, fillEmpty, formatted, empty, spoken]⟩
      rcases empty with null | none <;> simp [textsIn, *]
    · refine .inl ((textsIn_silent ?_).trans (textsIn_silent spoken).symm)
      exact (formatted_stands message).role ▸ spoken
  · exact .inl (by simp [textsIn, fillEmpty, formatted, empty])

/-- An empty message may stand for its placeholder. -/
theorem Conveys.fill (rest : Conveys (textsIn (fillEmpty (formatted message)) ++ others) sent) :
    Conveys (textsIn message ++ others) sent := by
  rcases textsIn_filled message with same | ⟨blank, filled⟩
  · rwa [same] at rest
  · rw [filled] at rest
    rw [blank]
    exact .filled rest

/-- Whether the text so far begins with a quotation mark. -/
def Begins (within : Bool) (last previous : Message) : Prop :=
  Spoken previous.role → writesString previous = true →
    opensQuoted last.stringContent = (!within && opensQuoted previous.stringContent)

theorem formatted_begins (message : Message) :
    Begins false (fillEmpty (formatted message)) message := by
  intro _ string
  unfold fillEmpty
  split
  · next empty =>
    have none : message.stringContent = "" := by
      rcases empty with null | none
      · simp [Message.stringContent, show message.content = .null from null]
      · simp [Message.stringContent, show message.content = .text "" from none]
    rw [none]
    exact show opensQuoted placeholder = false by decide +kernel
  · rfl

structure Together (last previous message : Message) : Prop where
  role : previous.role = message.role
  lastString : last.isStringContent = true
  string : message.isStringContent = true
  writes : writesString previous = true

theorem Stands.together (stands : Stands last previous) (same : joins last message = true) :
    Together last previous message := by
  rw [stands.joins_eq] at same
  simp only [follows, Bool.and_eq_true, decide_eq_true_eq] at same
  exact ⟨same.1.1, stands.string.trans same.2.1, same.2.2, same.2.1⟩

section Join

variable (stands : Stands last previous) (begins : Begins within last previous)
  (same : joins last message = true) (pair : Joinable within previous message)

include stands begins same pair

theorem joined_content (spoken : Spoken message.role) :
    (joined last message).content =
        .text (last.stringContent ++ " " ++ message.stringContent) ∧
      opensQuoted (last.stringContent ++ " " ++ message.stringContent) = false := by
  have together := stands.together same
  have said : Spoken previous.role := together.role ▸ spoken
  obtain ⟨_, opens, closes⟩ := pair (stands.joins_eq message ▸ same) said
  have calm : opensQuoted last.stringContent = false := by
    rw [begins said together.writes]
    cases within
    · simpa using opens rfl
    · rfl
  refine ⟨congrArg MessageContent.text ((quotes_joined _ _).2.2 calm closes), ?_⟩
  rw [String.append_assoc, opensQuoted_append (stands.text together.lastString).2, calm]

theorem joined_begins : Begins true (joined last message) message := by
  intro spoken _
  obtain ⟨content, beginning⟩ := joined_content stands begins same pair spoken
  rw [Message.stringContent, content]
  exact beginning

/-- Joining conveys both texts if it is without loss. -/
theorem conveys_joined (rest : Conveys (textsIn (joined last message) ++ others) sent) :
    Conveys (textsIn last ++ (textsIn message ++ others)) sent := by
  have together := stands.together same
  have role : last.role = message.role := stands.role.trans together.role
  by_cases spoken : Spoken message.role
  · have content := (joined_content stands begins same pair spoken).1
    have texts : textsIn (joined last message) =
        [(message.role, last.stringContent ++ " " ++ message.stringContent)] := by
      rw [textsIn, content]
      exact if_pos spoken
    rw [texts] at rest
    rw [textsIn_string (role ▸ spoken) (stands.text together.lastString).1, role,
      textsIn_string spoken (Message.content_eq together.string)]
    exact .joined rest
  · rw [textsIn_silent (role ▸ spoken), textsIn_silent spoken]
    rwa [textsIn_silent (show ¬ Spoken (joined last message).role from spoken)] at rest

end Join

theorem calls_of_joinable (stands : Stands last previous) (same : joins last message = true)
    (pair : Joinable within previous message) : callsIn last = [] := by
  rw [stands.calls]
  by_cases spoken : Spoken previous.role
  · exact (pair (stands.joins_eq message ▸ same) spoken).1
  · exact if_neg fun assistant => spoken (.inr assistant)

theorem formatFrom_conveys (stands : Stands last previous) (begins : Begins within last previous)
    (pairs : JoinableFrom within previous rest) :
    Conveys (textsIn last ++ rest.flatMap textsIn)
        ((formatFrom last rest).flatMap emittedTexts) ∧
      (formatFrom last rest).flatMap callsIn = callsIn last ++ rest.flatMap callsIn := by
  induction rest generalizing within last previous with
  | nil =>
    constructor
    · simpa [formatFrom, emittedTexts] using Conveys.append (textsIn last) .nothing
    · simp [formatFrom]
  | cons message rest ih =>
    obtain ⟨pair, pairs⟩ := pairs
    rw [flatMap_cons, flatMap_cons, formatFrom]
    by_cases same : joins last message = true
    · have standing := joined_stands last (stands.together same).string
      rw [← stands.joins_eq, same] at pairs
      obtain ⟨conveys, calls⟩ :=
        ih standing (joined_begins stands begins same pair) pairs
      rw [if_pos same, fillEmpty_joined]
      constructor
      · exact conveys_joined stands begins same pair conveys
      · rw [calls, standing.calls, calls_of_joinable stands same pair, nil_append]
    · rw [if_neg same]
      rw [stands.joins_eq, Bool.not_eq_true] at same
      rw [same] at pairs
      obtain ⟨conveys, calls⟩ := ih (formatted_stands message) (formatted_begins message) pairs
      constructor
      · exact Conveys.append (textsIn last) conveys.fill
      · rw [flatMap_cons, calls, (formatted_stands message).calls]

def textQuotes (texts : List (String × String)) : ℕ := (texts.map fun said => quotes said.2).sum

theorem textQuotes_cons (said : String × String) (texts : List (String × String)) :
    textQuotes (said :: texts) = quotes said.2 + textQuotes texts := by
  rw [textQuotes, map_cons, sum_cons, textQuotes]

theorem textQuotes_append (texts more : List (String × String)) :
    textQuotes (texts ++ more) = textQuotes texts + textQuotes more := by
  rw [textQuotes, map_append, sum_append, textQuotes, textQuotes]

/-- The quotation marks in the texts of a message and its tool calls. -/
def weight (message : Message) : ℕ := textQuotes (textsIn message) + (callsIn message).length

theorem weight_silent (silent : ¬ Spoken message.role) : weight message = 0 := by
  have noCalls : callsIn message = [] := if_neg fun assistant => silent (.inr assistant)
  rw [weight, textsIn_silent silent, noCalls]
  rfl

theorem weight_string (spoken : Spoken message.role)
    (string : message.content = .text message.stringContent) :
    weight message = quotes message.stringContent + (callsIn message).length := by
  rw [weight, textsIn_string spoken string]
  simp [textQuotes]

theorem weight_filled (message : Message) :
    weight (fillEmpty (formatted message)) = weight message := by
  rw [weight, (formatted_stands message).calls, weight]
  rcases textsIn_filled message with same | ⟨blank, filled⟩
  · rw [same]
  · have none : quotes placeholder = quotes "" := by decide +kernel
    simp [blank, filled, textQuotes, none]

theorem weight_joined (stands : Stands last previous) (same : joins last message = true) :
    weight (joined last message) ≤ weight last + weight message ∧
      (weight (joined last message) = weight last + weight message → Spoken message.role →
        callsIn last = [] ∧ opensQuoted last.stringContent = false ∧
          closesQuoted message.stringContent = false) := by
  have together := stands.together same
  have role : last.role = message.role := stands.role.trans together.role
  have standing := joined_stands last together.string
  by_cases spoken : Spoken message.role
  · have content := (stands.text together.lastString).1
    have whole : weight (joined last message) =
        quotes (trimQuotes (last.stringContent ++ " " ++ message.stringContent)) +
          (callsIn message).length := by
      rw [← standing.calls]
      exact @weight_string (joined last message) spoken rfl
    have first := weight_string (role ▸ spoken : Spoken last.role) content
    have second := weight_string spoken (Message.content_eq together.string)
    obtain ⟨least, plain, _⟩ := quotes_joined last.stringContent message.stringContent
    exact ⟨by omega, fun total _ => ⟨length_eq_zero_iff.mp (by omega), plain (by omega)⟩⟩
  · refine ⟨?_, fun _ said => absurd said spoken⟩
    rw [weight_silent (show ¬ Spoken (joined last message).role from spoken)]
    exact Nat.zero_le _

theorem formatFrom_weight (stands : Stands last previous) :
    ((formatFrom last rest).map weight).sum ≤ weight last + (rest.map weight).sum := by
  induction rest generalizing last previous with
  | nil => simp [formatFrom]
  | cons message rest ih =>
    rw [formatFrom, map_cons, sum_cons]
    by_cases same : joins last message = true
    · rw [if_pos same, fillEmpty_joined]
      have later := ih (joined_stands last (stands.together same).string)
      have here := (weight_joined stands same).1
      omega
    · rw [if_neg same, map_cons, sum_cons]
      have later := ih (formatted_stands message)
      rw [weight_filled] at later
      omega

theorem joinable_of_weight (stands : Stands last previous) (begins : Begins within last previous)
    (total : ((formatFrom last rest).map weight).sum = weight last + (rest.map weight).sum) :
    JoinableFrom within previous rest := by
  induction rest generalizing within last previous with
  | nil => trivial
  | cons message rest ih =>
    rw [formatFrom, map_cons, sum_cons] at total
    by_cases same : joins last message = true
    · have together := stands.together same
      have standing := joined_stands last together.string
      obtain ⟨least, exact⟩ := weight_joined stands same
      have later := @formatFrom_weight rest _ _ standing
      rw [if_pos same, fillEmpty_joined] at total
      have pair : Joinable within previous message := by
        intro _ spoken
        obtain ⟨noCalls, opens, closes⟩ := exact (by omega) (together.role ▸ spoken)
        refine ⟨stands.calls ▸ noCalls, fun start => ?_, closes⟩
        rw [begins spoken together.writes, start] at opens
        simpa using opens
      refine ⟨pair, ?_⟩
      rw [← stands.joins_eq, same]
      exact ih standing (joined_begins stands begins same pair) (by omega)
    · rw [if_neg same, map_cons, sum_cons] at total
      rw [stands.joins_eq, Bool.not_eq_true] at same
      refine ⟨fun joined => by simp [same] at joined, ?_⟩
      rw [same]
      exact ih (formatted_stands message) (formatted_begins message)
        (by rw [weight_filled]; omega)

theorem Conveys.quotes_eq (conveys : Conveys texts sent) : textQuotes sent = textQuotes texts := by
  induction conveys with
  | nothing => rfl
  | same _ ih => simp [textQuotes_cons, ih]
  | joined _ ih =>
    rw [ih]
    simp [textQuotes_cons, quotes, Nat.add_assoc]
  | filled _ ih =>
    have none : quotes placeholder = quotes "" := by decide +kernel
    simpa [textQuotes_cons, none] using ih
  | dropped _ ih => simpa [textQuotes_cons, quotes] using ih

@[simp] theorem fillEmpty_role : (fillEmpty message).role = message.role := by
  unfold fillEmpty
  split <;> rfl

@[simp] theorem joined_role :
    (joined last message).role = message.role := rfl

@[simp] theorem formatted_role : (formatted message).role = message.role := rfl

theorem resultsIn_other (other : message.role ≠ "tool") : resultsIn message = [] := by
  rw [resultsIn, if_neg other]

/-- The content of a tool message that has one stays. -/
def Written (message : Message) : Prop :=
  message.role = "tool" → message.content ≠ .null ∧ message.content ≠ .text ""

instance (message : Message) : Decidable (Written message) := inferInstanceAs (Decidable (_ → _))

theorem resultsIn_filled_iff (message : Message) :
    resultsIn (fillEmpty (formatted message)) = resultsIn message ↔ Written message := by
  by_cases tool : message.role = "tool"
  · have here : resultsIn (fillEmpty (formatted message)) =
        [(message.toolCallId, (fillEmpty (formatted message)).content)] := by
      rw [resultsIn, if_pos (by simpa using tool), fillEmpty]
      split <;> simp [formatted, tool]
    rw [here, resultsIn, if_pos tool]
    by_cases empty : message.content = .null ∨ message.content = .text ""
    · have filled : (fillEmpty (formatted message)).content = .text placeholder := by
        exact congrArg Message.content (if_pos empty)
      rw [filled]
      rcases empty with null | none <;> simp [Written, placeholder, *]
    · have same : (fillEmpty (formatted message)).content = message.content := by
        rw [fillEmpty, if_neg]
        · rfl
        · exact empty
      rw [same]
      exact iff_of_true rfl fun _ => not_or.mp empty
  · rw [resultsIn_other tool, resultsIn_other (by simpa using tool)]
    exact iff_of_true rfl fun role => absurd role tool

theorem formatFrom_results (last : Message) (rest : List Message) :
    (formatFrom last rest).flatMap resultsIn =
      resultsIn last ++ rest.flatMap fun message => resultsIn (fillEmpty (formatted message)) := by
  induction rest generalizing last with
  | nil => simp [formatFrom]
  | cons message rest ih =>
    rw [formatFrom]
    split
    · next same =>
      simp only [joins, Bool.and_eq_true, decide_eq_true_eq] at same
      obtain ⟨⟨role, notTool⟩, _⟩ := same
      have otherTool : message.role ≠ "tool" := role ▸ notTool
      rw [ih, flatMap_cons, resultsIn_other notTool, resultsIn_other (by simpa using otherTool),
        resultsIn_other (by simpa using otherTool)]
      rfl
    · rw [flatMap_cons, ih, flatMap_cons]

theorem formatMessages_results (messages : List Message) :
    (formatMessages messages).flatMap resultsIn =
      messages.flatMap fun message => resultsIn (fillEmpty (formatted message)) := by
  cases messages with
  | nil => rfl
  | cons message rest => rw [formatMessages_cons, formatFrom_results, flatMap_cons]

theorem results_kept_iff (messages : List Message) :
    (formatMessages messages).flatMap resultsIn = messages.flatMap resultsIn ↔
      ∀ message ∈ messages, Written message := by
  rw [formatMessages_results]
  constructor
  · intro same message member
    refine (resultsIn_filled_iff message).mp (eq_of_flatMap_eq ?_ same message member)
    intro message _
    by_cases tool : message.role = "tool" <;> simp [resultsIn, tool]
  · intro written
    exact flatMap_congr fun message member => (resultsIn_filled_iff message).mpr
      (written message member)

/-- A formatted message: only an assistant has tool calls, and no text is empty. -/
structure Formed (allowed : String → Prop) (message : Message) : Prop where
  role : allowed message.role
  written : message.content ≠ .text ""
  calls : message.role ≠ "assistant" → message.parseToolCalls = []

theorem fillEmpty_formed (role : allowed message.role)
    (calls : message.role ≠ "assistant" → message.parseToolCalls = []) :
    Formed allowed (fillEmpty message) := by
  unfold fillEmpty
  split
  · exact ⟨role, by simp [placeholder], calls⟩
  · next written => exact ⟨role, (not_or.mp written).2, calls⟩

theorem formatted_calls (message : Message) (other : message.role ≠ "assistant") :
    (formatted message).parseToolCalls = [] := by
  simp [formatted, Message.parseToolCalls, other]

theorem formatFrom_formed (last : Message) (first : Formed allowed last)
    (others : ∀ message ∈ rest, allowed message.role) :
    ∀ message ∈ formatFrom last rest, Formed allowed message := by
  induction rest generalizing last with
  | nil => simpa [formatFrom] using first
  | cons message rest ih =>
    obtain ⟨here, others⟩ := forall_mem_cons.mp others
    have together : Formed allowed (fillEmpty (joined last message)) :=
      fillEmpty_formed here (formatted_calls message)
    have apart : Formed allowed (fillEmpty (formatted message)) :=
      fillEmpty_formed here (formatted_calls message)
    rw [formatFrom]
    split
    · exact ih _ together others
    · exact forall_mem_cons.mpr ⟨first, ih _ apart others⟩

structure Adds (before after : List (ClaudeMessage Value)) (texts : List (String × String))
    (uses : List (String × String × Option Value)) (results : List (String × MessageContent)) :
    Prop where
  texts : after.flatMap textsOf = before.flatMap textsOf ++ texts
  uses : after.flatMap usesOf = before.flatMap usesOf ++ uses
  results : after.flatMap resultsOf = before.flatMap resultsOf ++ results

theorem Adds.refl (messages : List (ClaudeMessage Value)) : Adds messages messages [] [] [] :=
  ⟨by simp, by simp, by simp⟩

theorem Adds.trans {moreResults : List (String × MessageContent)}
    {second : List (ClaudeMessage Value)} {uses : List (String × String × Option Value)}
    {results : List (String × MessageContent)} (earlier : Adds first second texts uses results)
    (later : Adds second third moreTexts moreUses moreResults) :
    Adds first third (texts ++ moreTexts) (uses ++ moreUses) (results ++ moreResults) where
  texts := by rw [later.texts, earlier.texts, append_assoc]
  uses := by rw [later.uses, earlier.uses, append_assoc]
  results := by rw [later.results, earlier.results, append_assoc]

theorem append_adds (messages : List (ClaudeMessage Value)) (message : ClaudeMessage Value) :
    Adds messages (messages ++ [message]) (textsOf message) (usesOf message)
      (resultsOf message) :=
  ⟨by simp, by simp, by simp⟩

theorem emitToolResult_adds (message : Message) (messages : List (ClaudeMessage Value)) :
    Adds messages (emitToolResult message messages) [] []
      [(message.toolCallId, message.content)] := by
  have alone : Adds messages (messages ++ [{ role := "user"
                                             content := .blocks [toolResultBlock message] }]) [] []
      [(message.toolCallId, message.content)] := append_adds messages _
  unfold emitToolResult
  split
  · next last found =>
    obtain ⟨before, rfl⟩ := getLast?_eq_some_iff.mp found
    split
    · refine ⟨?_, ?_, ?_⟩
      · simp [textsOf, contentBlocks, ClaudeMediaMessage.asText, toolResultBlock]
      · simp [usesOf, contentBlocks, ClaudeMediaMessage.asToolUse, toolResultBlock]
      · simp [resultsOf, contentBlocks, ClaudeMediaMessage.asToolResult, toolResultBlock]
    · exact alone
  · exact alone

structure Views (role : String) (blocks : List (ClaudeMediaMessage Value))
    (texts : List (String × String)) (uses : List (String × String × Option Value)) : Prop where
  texts : blocks.filterMap (ClaudeMediaMessage.asText role) =
    texts.filter fun said => said.2 ≠ ""
  uses : blocks.filterMap ClaudeMediaMessage.asToolUse = uses
  results : blocks.filterMap ClaudeMediaMessage.asToolResult = []

variable {role} in
theorem Views.append {uses : List (String × String × Option Value)}
    (first : Views role blocks texts uses) (second : Views role more moreTexts moreUses) :
    Views role (blocks ++ more) (texts ++ moreTexts) (uses ++ moreUses) where
  texts := by rw [filterMap_append, first.texts, second.texts, filter_append]
  uses := by rw [filterMap_append, first.uses, second.uses]
  results := by rw [filterMap_append, first.results, second.results, nil_append]

theorem partBlocks_views (part : ContentPart) (built : partBlocks host part = some blocks) :
    Views role blocks (saidBy role part).toList [] := by
  have medium (resolved : (match host.toFileSource part with
        | none => some []
        | some source => (host.resolveBase64Data source).map fun (data, mimeType) =>
          [mediaBlock mimeType data]) = some blocks) :
      Views role blocks [] [] := by
    split at resolved
    · cases resolved
      exact ⟨rfl, rfl, rfl⟩
    · obtain ⟨⟨data, mimeType⟩, _, rfl⟩ := map_eq_some_iff.mp resolved
      cases document : isPdf mimeType <;> constructor <;>
        simp [mediaBlock, document, ClaudeMediaMessage.asText, ClaudeMediaMessage.asToolUse,
          ClaudeMediaMessage.asToolResult]
  cases part with
  | text text =>
    by_cases empty : text = ""
    · obtain rfl : [] = blocks := by simpa [partBlocks, empty] using built
      exact ⟨by simp [saidBy, empty], rfl, rfl⟩
    · obtain rfl : [textBlock text] = blocks := by simpa [partBlocks, empty] using built
      exact ⟨by simp [saidBy, empty, textBlock, ClaudeMediaMessage.asText], rfl, rfl⟩
  | imageUrl url | other type payload => exact medium built

theorem partsBlocks_views (host : Host Value) (role : String) (parts : List ContentPart)
    (built : partsBlocks host parts = some blocks) :
    Views role blocks (parts.filterMap (saidBy role)) [] := by
  induction parts generalizing blocks with
  | nil =>
    cases built
    exact ⟨rfl, rfl, rfl⟩
  | cons part rest ih =>
    obtain ⟨first, here, later⟩ := bind_eq_some_iff.mp built
    obtain ⟨others, there, rfl⟩ := map_eq_some_iff.mp later
    have both := (partBlocks_views host role part here).append (ih there)
    cases said : saidBy role part <;> simpa [said] using both

def useOf (call : ToolCallRequest) : String × String × Option Value :=
  (call.id, call.name, (toolUseBlock host call).input)

theorem mediaBlocks_views (built : mediaBlocks host message = some blocks) :
    Views message.role blocks (message.parseContent.filterMap (saidBy message.role))
      (message.parseToolCalls.map (useOf host)) := by
  obtain ⟨parts, there, rfl⟩ := map_eq_some_iff.mp built
  have calls : Views message.role (message.parseToolCalls.map (toolUseBlock host)) []
      (message.parseToolCalls.map (useOf host)) := by
    induction message.parseToolCalls with
    | nil => exact ⟨rfl, rfl, rfl⟩
    | cons call rest ih =>
      have here : Views message.role [toolUseBlock host call] [] [useOf host call] :=
        ⟨rfl, rfl, rfl⟩
      exact here.append ih
  simpa using (partsBlocks_views host message.role _ there).append calls

/-- What the converter may say before its first message. -/
def Opens (state : Emitted Value) (opening : List (String × String)) : Prop :=
  opening = [] ∨ state.isFirstMessage = true ∧ opening = [("user", placeholder)]

theorem openedFor_adds (message : Message) (state : Emitted Value) :
    ∃ opening, Opens state opening ∧
      Adds state.messages (openedFor message state) opening [] [] := by
  unfold openedFor
  split
  · next first =>
    exact ⟨[("user", placeholder)], .inr ⟨first.1, rfl⟩, append_adds _ openingMessage⟩
  · exact ⟨[], .inl rfl, .refl _⟩

theorem emittedTexts_parts (spoken : Spoken message.role) :
    emittedTexts message =
      (message.parseContent.filterMap (saidBy message.role)).filter fun said => said.2 ≠ "" := by
  rw [emittedTexts, textsIn, if_pos spoken, Message.parseContent]
  cases message.content <;> simp [saidBy]

theorem emitMessage_spoken (formed : Formed allowed message) (spoken : Spoken message.role)
    (emitted : emitMessage host state message = some next) :
    next.isFirstMessage = false ∧ ∃ sent, sent.role = message.role ∧
      next.messages = openedFor message state ++ [sent] ∧ textsOf sent = emittedTexts message ∧
      usesOf sent = (callsIn message).map (useOf host) ∧ resultsOf sent = [] := by
  have notSystem : message.role ≠ "system" := by rcases spoken with role | role <;> simp [role]
  have notTool : message.role ≠ "tool" := by rcases spoken with role | role <;> simp [role]
  rw [emitMessage, if_neg notSystem, if_neg notTool] at emitted
  split at emitted
  · next string =>
    cases emitted
    refine ⟨rfl, _, rfl, rfl, ?_, ?_, ?_⟩
    · have content := Message.content_eq string.1
      have written : message.stringContent ≠ "" := fun empty =>
        formed.written (by rw [content, empty])
      rw [emittedTexts_parts spoken, Message.parseContent, content]
      simp [textsOf, contentBlocks, textBlock, ClaudeMediaMessage.asText, saidBy, written]
    · simp [usesOf, contentBlocks, textBlock, ClaudeMediaMessage.asToolUse, callsIn,
        Message.parseToolCalls, string.2]
    · simp [resultsOf, contentBlocks, textBlock, ClaudeMediaMessage.asToolResult]
  · obtain ⟨blocks, built, rfl⟩ := map_eq_some_iff.mp emitted
    obtain ⟨texts, uses, results⟩ := mediaBlocks_views host built
    refine ⟨rfl, _, rfl, rfl, texts.trans (emittedTexts_parts spoken).symm, ?_, results⟩
    rw [usesOf, contentBlocks, uses, callsIn]
    split
    · rfl
    · next other => rw [formed.calls other]

theorem silent_other (message : Message) (other : ¬ Spoken message.role) :
    emittedTexts message = [] ∧ callsIn message = [] := by
  constructor
  · rw [emittedTexts, textsIn_silent other, filter_nil]
  · exact if_neg fun role => other (.inr role)

theorem emitMessage_adds (formed : Formed allowed message)
    (spoken : message.role = "user" ∨ message.role = "assistant" ∨ message.role = "tool")
    (emitted : emitMessage host state message = some next) :
    next.isFirstMessage = false ∧
      ∃ opening, Opens state opening ∧
      Adds state.messages next.messages (opening ++ emittedTexts message)
        ((callsIn message).map (useOf host)) (resultsIn message) := by
  obtain ⟨opening, first, opened⟩ := openedFor_adds message state
  by_cases tool : message.role = "tool"
  · have others := silent_other message (by simp [Spoken, tool])
    rw [emitMessage, if_neg (by simp [tool]), if_pos tool] at emitted
    cases emitted
    refine ⟨rfl, opening, first, ?_⟩
    have added := opened.trans (emitToolResult_adds message (openedFor message state))
    simpa [others.1, others.2, resultsIn, tool] using added
  · have said : Spoken message.role := (or_assoc.mpr spoken).resolve_right tool
    obtain ⟨started, sent, _, messages, texts, uses, results⟩ :=
      emitMessage_spoken host formed said emitted
    refine ⟨started, opening, first, ?_⟩
    have added := opened.trans (append_adds (openedFor message state) sent)
    rw [texts, uses, results] at added
    rw [messages, resultsIn_other tool]
    simpa using added

def Known : Prop :=
  role = "system" ∨ role = "user" ∨ role = "assistant" ∨ role = "tool"

instance (role : String) : Decidable (Known role) := inferInstanceAs (Decidable (_ ∨ _))

/-! ### The roles of the emitted messages -/

def rolesOf (messages : List (ClaudeMessage Value)) : List String := messages.map (·.role)

structure Led (roles : List String) : Prop where
  first : roles.head? = some "user"
  only : ∀ role ∈ roles, Spoken role

theorem Led.append {roles : List String} (led : Led roles) {role : String} (spoken : Spoken role) :
    Led (roles ++ [role]) where
  first := by rw [head?_append, led.first, some_or]
  only := by
    intro other member
    rcases mem_append.mp member with earlier | last
    · exact led.only other earlier
    · exact mem_singleton.mp last ▸ spoken

theorem led_user : Led ["user"] := ⟨rfl, by simp [Spoken]⟩

/-- Before the first message that is not a system message nothing is emitted. -/
def Begun (state : Emitted Value) : Prop :=
  if state.isFirstMessage then state.messages = [] else Led (rolesOf state.messages)

theorem openedFor_led (message : Message) (begun : Begun state) :
    message.role = "user" ∧ openedFor message state = [] ∨
      Led (rolesOf (openedFor message state)) := by
  unfold Begun at begun
  unfold openedFor
  split at begun
  · next first =>
    by_cases user : message.role = "user"
    · exact .inl ⟨user, by simpa [user] using begun⟩
    · right
      rw [if_pos ⟨first, user⟩, begun]
      exact led_user
  · next later =>
    right
    rw [if_neg fun first => later first.1]
    exact begun

theorem emitToolResult_roles (message : Message) (messages : List (ClaudeMessage Value)) :
    rolesOf (emitToolResult message messages) = rolesOf messages ∨
      rolesOf (emitToolResult message messages) = rolesOf messages ++ ["user"] := by
  unfold emitToolResult
  split
  · next last found =>
    obtain ⟨before, rfl⟩ := getLast?_eq_some_iff.mp found
    split
    · exact .inl (by simp [rolesOf])
    · exact .inr map_append
  · exact .inr map_append

theorem emitToolResult_led (message : Message) {messages : List (ClaudeMessage Value)}
    (led : Led (rolesOf messages)) : Led (rolesOf (emitToolResult message messages)) := by
  rcases emitToolResult_roles message messages with same | added
  · rwa [same]
  · rw [added]
    exact led.append (.inl rfl)

theorem emitMessage_begun (formed : Formed Known message)
    (emitted : emitMessage host state message = some next) (begun : Begun state) : Begun next := by
  have opened := openedFor_led message begun
  have spokenLed (spoken : Spoken message.role) : Begun next := by
    obtain ⟨started, sent, role, messages, _⟩ := emitMessage_spoken host formed spoken emitted
    rw [Begun, if_neg (by simp [started]), messages, rolesOf, map_append]
    rcases opened with ⟨user, none⟩ | led
    · rw [none]
      exact show Led [sent.role] from (role.trans user) ▸ led_user
    · exact led.append (show Spoken sent.role from role ▸ spoken)
  rcases formed.role with system | user | assistant | tool
  · rw [emitMessage, if_pos system] at emitted
    cases emitted
    exact begun
  · exact spokenLed (.inl user)
  · exact spokenLed (.inr assistant)
  · rw [emitMessage, if_neg (by simp [tool]), if_pos tool] at emitted
    cases emitted
    rcases opened with ⟨user, _⟩ | led
    · simp [tool] at user
    · exact emitToolResult_led message led

theorem emitMessages_adds (formed : ∀ message ∈ messages, Formed Known message)
    (emitted : emitMessages host state messages = some final) :
    (∃ opening, Opens state opening ∧
      Adds state.messages final.messages (opening ++ messages.flatMap emittedTexts)
        ((messages.flatMap callsIn).map (useOf host)) (messages.flatMap resultsIn)) ∧
      (Begun state → Begun final) := by
  induction messages generalizing state with
  | nil =>
    cases emitted
    exact ⟨⟨[], .inl rfl, by simpa using Adds.refl _⟩, id⟩
  | cons message rest ih =>
    obtain ⟨next, here, later⟩ := bind_eq_some_iff.mp emitted
    obtain ⟨shape, others⟩ := forall_mem_cons.mp formed
    obtain ⟨⟨opening, first, added⟩, begins⟩ := ih others later
    refine ⟨?_, fun begun => begins (emitMessage_begun host shape here begun)⟩
    rcases shape.role with system | spoken
    · rw [emitMessage, if_pos system] at here
      cases here
      have silent := silent_other message (by simp [Spoken, system])
      have noResult : resultsIn message = [] := resultsIn_other (by simp [system])
      refine ⟨opening, first, ?_⟩
      simpa [silent.1, silent.2, noResult] using added
    · obtain ⟨started, opening', first', added'⟩ := emitMessage_adds host shape spoken here
      have none : opening = [] := first.resolve_right fun again => by simp [started] at again
      refine ⟨opening', first', ?_⟩
      have both := added'.trans added
      rw [none] at both
      simpa [append_assoc] using both

/-- A chat request's messages, with JSON objects as the arguments of calls. -/
structure Conversation (host : Host Value) (messages : List Message) : Prop where
  roles : ∀ message ∈ messages, message.role = "" ∨ Known message.role
  arguments : ∀ message ∈ messages, ∀ call ∈ callsIn message,
    call.arguments ≠ "" ∧ (host.unmarshal call.arguments).isSome
  distinct : ((messages.flatMap callsIn).map (·.id)).Nodup

structure KeepsConversation (host : Host Value) (messages : List Message)
    (emitted : List (ClaudeMessage Value)) : Prop where
  roles : ∀ message ∈ emitted, Spoken message.role
  first : ∀ message, emitted.head? = some message → message.role = "user"
  -- The converter may open the conversation for the user.
  texts : ∃ opening sent, (opening = [] ∨ opening = [("user", placeholder)]) ∧
    emitted.flatMap textsOf = opening ++ sent ∧ Conveys (messages.flatMap textsIn) sent
  uses : emitted.flatMap usesOf = (messages.flatMap callsIn).map fun call =>
    (call.id, call.name, host.unmarshal call.arguments)
  results : emitted.flatMap resultsOf = messages.flatMap resultsIn

theorem formatMessages_conveys {messages : List Message} (pairs : JoinsWithoutLoss messages) :
    Conveys (messages.flatMap textsIn) ((formatMessages messages).flatMap emittedTexts) ∧
      (formatMessages messages).flatMap callsIn = messages.flatMap callsIn := by
  cases messages with
  | nil => exact ⟨.nothing, rfl⟩
  | cons message rest =>
    rw [formatMessages_cons]
    obtain ⟨conveys, calls⟩ :=
      formatFrom_conveys (formatted_stands message) (formatted_begins message) pairs
    exact ⟨conveys.fill, by rw [calls, (formatted_stands message).calls, flatMap_cons]⟩

theorem sum_weight (messages : List Message) : (messages.map weight).sum =
    textQuotes (messages.flatMap textsIn) + (messages.flatMap callsIn).length := by
  induction messages with
  | nil => rfl
  | cons message rest ih =>
    simp only [map_cons, sum_cons, flatMap_cons, textQuotes_append, length_append, ih, weight]
    omega

/-- Empty texts have no quotation marks. -/
theorem quotes_emittedTexts (messages : List Message) :
    textQuotes (messages.flatMap emittedTexts) = textQuotes (messages.flatMap textsIn) := by
  have dropped (texts : List (String × String)) :
      textQuotes (texts.filter fun said => said.2 ≠ "") = textQuotes texts := by
    induction texts with
    | nil => rfl
    | cons said texts ih =>
      by_cases empty : said.2 = ""
      · simpa [textQuotes_cons, empty, quotes] using ih
      · simpa [textQuotes_cons, empty] using ih
  induction messages with
  | nil => rfl
  | cons message rest ih =>
    rw [flatMap_cons, flatMap_cons, textQuotes_append, textQuotes_append, ih, emittedTexts, dropped]

theorem joinsWithoutLoss_of_conveys {messages : List Message} {opening : List (String × String)}
    (start : textQuotes opening = 0) (first : textQuotes opening' = 0)
    (texts : opening' ++ (formatMessages messages).flatMap emittedTexts = opening ++ sent)
    (conveys : Conveys (messages.flatMap textsIn) sent)
    (calls : ((formatMessages messages).flatMap callsIn).length =
      (messages.flatMap callsIn).length) : JoinsWithoutLoss messages := by
  have total := congrArg textQuotes texts
  rw [textQuotes_append, textQuotes_append, start, first, quotes_emittedTexts,
    conveys.quotes_eq] at total
  have weights : ((formatMessages messages).map weight).sum = (messages.map weight).sum := by
    rw [sum_weight, sum_weight]
    omega
  cases messages with
  | nil => trivial
  | cons message rest =>
    rw [formatMessages_cons, map_cons, sum_cons, ← weight_filled] at weights
    exact joinable_of_weight (formatted_stands message) (formatted_begins message) weights

theorem formatMessages_formed (roles : ∀ message ∈ messages, allowed message.role) :
    ∀ message ∈ formatMessages messages, Formed allowed message := by
  cases messages with
  | nil => exact fun message member => absurd member not_mem_nil
  | cons message rest =>
    obtain ⟨here, others⟩ := forall_mem_cons.mp roles
    rw [formatMessages_cons]
    exact formatFrom_formed _ (fillEmpty_formed here (formatted_calls message)) others

theorem formatFrom_roles (last : Message) (rest : List Message) :
    ∀ message ∈ last :: rest, ∃ kept ∈ formatFrom last rest, kept.role = message.role := by
  induction rest generalizing last with
  | nil => simp [formatFrom]
  | cons next rest ih =>
    rw [forall_mem_cons, formatFrom]
    split
    · next same =>
      simp only [joins, Bool.and_eq_true, decide_eq_true_eq] at same
      have found := ih (fillEmpty (joined last next))
      rw [forall_mem_cons, fillEmpty_role, joined_role] at found
      rw [same.1.1]
      exact ⟨found.1, forall_mem_cons.mpr found⟩
    · have found := ih (fillEmpty (formatted next))
      rw [forall_mem_cons, fillEmpty_role, formatted_role] at found
      refine ⟨⟨last, by simp, rfl⟩, fun message member => ?_⟩
      rcases mem_cons.mp member with rfl | later
      · exact found.1.imp fun kept => And.imp_left (mem_cons_of_mem last)
      · exact (found.2 message later).imp fun kept => And.imp_left (mem_cons_of_mem last)

theorem emitMessage_roles {host : Host Value}
    (emitted : emitMessage host state message = some next) :
    rolesOf state.messages ⊆ rolesOf next.messages ∧
      (message.role = "" → "" ∈ rolesOf next.messages) := by
  have opened : rolesOf state.messages ⊆ rolesOf (openedFor message state) := by
    unfold openedFor
    split
    · exact map_subset _ (subset_append_left _ _)
    · exact Subset.refl _
  have appended (sent : ClaudeMessage Value) (role : sent.role = message.role) :
      rolesOf state.messages ⊆ rolesOf (openedFor message state ++ [sent]) ∧
        (message.role = "" → "" ∈ rolesOf (openedFor message state ++ [sent])) := by
    have roles : rolesOf (openedFor message state ++ [sent]) =
        rolesOf (openedFor message state) ++ [sent.role] := map_append
    rw [roles]
    exact ⟨Subset.trans opened (subset_append_left _ _), fun empty => by simp [role, empty]⟩
  unfold emitMessage at emitted
  split at emitted
  · next system =>
    cases emitted
    exact ⟨Subset.refl _, fun empty => by simp [empty] at system⟩
  split at emitted
  · next tool =>
    cases emitted
    refine ⟨?_, fun empty => by simp [empty] at tool⟩
    rcases emitToolResult_roles message (openedFor message state) with same | added
    · exact same ▸ opened
    · exact added ▸ Subset.trans opened (subset_append_left _ _)
  split at emitted
  · cases emitted
    exact appended _ rfl
  · obtain ⟨blocks, _, rfl⟩ := map_eq_some_iff.mp emitted
    exact appended _ rfl

theorem emitMessages_roles {host : Host Value} {messages : List Message}
    (emitted : emitMessages host state messages = some final) :
    rolesOf state.messages ⊆ rolesOf final.messages ∧
      ∀ message ∈ messages, message.role = "" → "" ∈ rolesOf final.messages := by
  induction messages generalizing state with
  | nil =>
    cases emitted
    exact ⟨Subset.refl _, by simp⟩
  | cons message rest ih =>
    obtain ⟨next, here, later⟩ := bind_eq_some_iff.mp emitted
    obtain ⟨kept, empty⟩ := emitMessage_roles here
    obtain ⟨onward, others⟩ := ih later
    exact ⟨Subset.trans kept onward, forall_mem_cons.mpr ⟨fun none => onward (empty none), others⟩⟩

/-- A message with an empty role is emitted with it. -/
theorem emptyRole_emitted {host : Host Value} {messages : List Message}
    (converted : openAIChatRequestToClaudeMessages host messages = some final)
    (member : message ∈ messages) (empty : message.role = "") : "" ∈ rolesOf final.messages := by
  cases messages with
  | nil => exact absurd member not_mem_nil
  | cons first rest =>
    have found : ∃ kept ∈ formatMessages (first :: rest), kept.role = message.role := by
      have roles := formatFrom_roles (fillEmpty (formatted first)) rest
      rw [forall_mem_cons, fillEmpty_role, formatted_role] at roles
      rw [formatMessages_cons]
      rcases mem_cons.mp member with rfl | later
      · exact roles.1
      · exact roles.2 message later
    obtain ⟨kept, listed, role⟩ := found
    exact (emitMessages_roles converted).2 kept listed (role.trans empty)

theorem Begun.led (begun : Begun state) : state.messages = [] ∨ Led (rolesOf state.messages) := by
  unfold Begun at begun
  split at begun
  · exact .inl begun
  · exact .inr begun

/-- The emitted tool calls are the formatted messages' calls with their decoded arguments. -/
theorem uses_decoded {host : Host Value} {messages : List Message}
    (conversation : Conversation host messages) :
    (messages.flatMap callsIn).map (useOf host) = (messages.flatMap callsIn).map fun call =>
      (call.id, call.name, host.unmarshal call.arguments) := by
  apply map_congr_left
  intro call member
  obtain ⟨message, listed, called⟩ := mem_flatMap.mp member
  obtain ⟨filled, object⟩ := conversation.arguments message listed call called
  obtain ⟨value, decoded⟩ := isSome_iff_exists.mp object
  simp [useOf, toolUseBlock, filled, decoded]

def textHost : Host String where
  unmarshal text := some text
  emptyMap := ""
  toFileSource _ := none
  resolveBase64Data _ := none

def weatherCall : ToolCallRequest :=
  { id := "call_1", name := "get_weather", arguments := "\x7b\"city\":\"Oslo\"\x7d" }

def weatherTalk : List Message :=
  [{ role := "system", content := .text "Be brief." },
   { role := "user", content := .text "Hello." },
   { role := "user", content := .text "Is it raining?" },
   { role := "assistant", content := .parts [.text "Let me look.", .text ""],
     toolCalls := some [weatherCall] },
   { role := "tool", content := .text "yes", toolCallId := "call_1" },
   { role := "assistant", content := .text "It is." },
   { role := "user", content := .null }]

/-- The role of the range copy stays empty. -/
def unnamedTalk : List Message := [{ content := .text "Hello." }]

/-- The placeholder of a message with tool calls is joined with the next text. -/
def callThenText : List Message :=
  [{ role := "user", content := .text "Is it raining?" },
   { role := "assistant", toolCalls := some [weatherCall] },
   { role := "assistant", content := .text "I asked for it." },
   { role := "tool", content := .text "yes", toolCallId := "call_1" }]

end NewApi.ChatToClaudeRequest
