import Mathlib.Algebra.Order.BigOperators.Group.List
import Mathlib.Algebra.Order.Ring.Nat

/-!
Request messages of the chat-completion and Claude formats (relaykit/dto/openai_request.go,
relaykit/dto/claude.go), with the fields the request converters read or write. Decoded JSON
values that are only passed on or encoded again are of an arbitrary type.
-/

namespace NewApi

/-- Texts one after another, as a reader who concatenates them gets them. -/
def concat : List String → String
  | [] => ""
  | text :: rest => text ++ concat rest

theorem concat_append (left right : List String) :
    concat (left ++ right) = concat left ++ concat right := by
  induction left with
  | nil => simp [concat]
  | cons text rest ih => simp [concat, ih, String.append_assoc]

/-- Two maps of a list into lists, the first never longer, agree when their results do. -/
theorem eq_of_flatMap_eq {Item Image : Type} {first second : Item → List Image}
    {items : List Item} (shorter : ∀ item ∈ items, (first item).length ≤ (second item).length)
    (same : items.flatMap first = items.flatMap second) :
    ∀ item ∈ items, first item = second item := by
  induction items with
  | nil => simp
  | cons head rest ih =>
    rw [List.forall_mem_cons] at shorter ⊢
    have total := congrArg List.length same
    have below : (rest.flatMap first).length ≤ (rest.flatMap second).length := by
      rw [List.length_flatMap, List.length_flatMap]
      exact List.sum_le_sum shorter.2
    simp only [List.flatMap_cons, List.length_append] at total
    obtain ⟨here, later⟩ := List.append_inj same (by omega)
    exact ⟨here, ih shorter.2 later⟩

/-- `dto.MediaContent`. Image parts have their URL, the others what they carry. -/
inductive ContentPart where
  | text (text : String)
  | imageUrl (url : String)
  | other (type payload : String)
  deriving DecidableEq

/-- The `Content` of a message: null, a string, an array, or another JSON value. -/
inductive MessageContent where
  | null
  | text (text : String)
  | parts (parts : List ContentPart)
  | other (payload : String)
  deriving DecidableEq

structure ToolCallRequest where
  id : String := ""
  type : String := "function"
  name : String := ""
  arguments : String := ""
  -- The JSON of a custom tool call.
  custom : String := ""
  deriving DecidableEq

/-- `dto.Message`. `toolCalls` is `none` when the field is absent. -/
structure Message where
  role : String := ""
  content : MessageContent := .null
  name : Option String := none
  toolCalls : Option (List ToolCallRequest) := none
  toolCallId : String := ""
  deriving DecidableEq

def ContentPart.asText : ContentPart → String
  | .text written => written
  | _ => ""

namespace Message

variable (message : Message)

def isStringContent : Bool :=
  match message.content with
  | .text _ => true
  | _ => false

def stringContent : String :=
  match message.content with
  | .text text => text
  | .parts parts => concat (parts.map ContentPart.asText)
  | _ => ""

def parseContent : List ContentPart :=
  match message.content with
  | .text text => [.text text]
  | .parts parts => parts
  | _ => []

theorem content_eq {message : Message} (string : message.isStringContent = true) :
    message.content = .text message.stringContent := by
  cases shape : message.content with
  | text text => simp [stringContent, shape]
  | _ => simp [isStringContent, shape] at string

def parseToolCalls : List ToolCallRequest := message.toolCalls.getD []

end Message

inductive ClaudeBlockType where
  | text
  | inputText
  | image
  | document
  | toolUse
  | toolResult
  | other (name : String)
  deriving DecidableEq

structure ClaudeMessageSource where
  type : String := ""
  mediaType : String := ""
  data : Option String := none
  url : String := ""
  deriving DecidableEq

/-- `dto.ClaudeMediaMessage`, a content block. -/
structure ClaudeMediaMessage (Value : Type) where
  type : ClaudeBlockType
  text : Option String := none
  source : Option ClaudeMessageSource := none
  id : String := ""
  name : String := ""
  input : Option Value := none
  content : MessageContent := .null
  toolUseId : String := ""
  deriving DecidableEq

def ClaudeMediaMessage.getText {Value : Type} (block : ClaudeMediaMessage Value) : String :=
  block.text.getD ""

inductive ClaudeContent (Value : Type) where
  | text (text : String)
  | blocks (blocks : List (ClaudeMediaMessage Value))
  deriving DecidableEq

structure ClaudeMessage (Value : Type) where
  role : String
  content : ClaudeContent Value
  deriving DecidableEq

end NewApi
