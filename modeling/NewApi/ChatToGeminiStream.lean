import NewApi.ChatRequests

/-!
Chat-completion chunks as Gemini chunks (`StreamResponseOpenAI2Gemini`,
relaykit/relayconvert/internal/oai_chat/to_gemini_chat_resp.go). The converter keeps no
state: every tool-call delta becomes a functionCall part of its own, so calls arrive whole
only if each comes in one delta. The JSON decoder is a parameter, and the usage counts of
a chunk are left out.
-/

namespace NewApi.ChatToGeminiStream

open List

structure ToolCallDelta where
  index : Option Int := none
  id : String := ""
  name : String := ""
  arguments : String := ""
  deriving DecidableEq

/-- A delta of a chunk's choice; `toolCalls` is `none` when the field is absent. -/
structure StreamDelta where
  content : Option String := none
  toolCalls : Option (List ToolCallDelta) := none
  deriving DecidableEq

structure StreamChoice where
  index : Int := 0
  delta : StreamDelta := {}
  finishReason : Option String := none
  deriving DecidableEq

abbrev StreamChunk := List StreamChoice

/-- `dto.GeminiPart` of a response; the arguments are decoded. -/
inductive GeminiPart (Args : Type) where
  | text (text : String)
  | functionCall (name : String) (args : Args)
  deriving DecidableEq

structure GeminiCandidate (Args : Type) where
  index : Int
  parts : List (GeminiPart Args)
  finishReason : Option String
  deriving DecidableEq

structure ArgumentDecoder (Args : Type) where
  /-- `kitutil.Unmarshal` into a map; `none` is an error. -/
  unmarshal : String → Option Args
  /-- The map without entries. -/
  empty : Args
  /-- The map of the key arguments to a text. -/
  raw : String → Args

def geminiFinishReason (reason : String) : String :=
  if reason = "length" then "MAX_TOKENS" else if reason = "content_filter" then "SAFETY" else "STOP"

section

variable {Args : Type} (decoder : ArgumentDecoder Args)

def decodeArguments (arguments : String) : Args :=
  if arguments = "" then decoder.empty
  else (decoder.unmarshal arguments).getD (decoder.raw arguments)

def callPart (call : ToolCallDelta) : GeminiPart Args :=
  .functionCall call.name (decodeArguments decoder call.arguments)

def choiceParts (delta : StreamDelta) : List (GeminiPart Args) :=
  match delta.toolCalls with
  | some calls => calls.map (callPart decoder)
  | none => if delta.content.getD "" = "" then [] else [.text (delta.content.getD "")]

def StreamChoice.hasContent (choice : StreamChoice) : Bool :=
  choice.delta.content.getD "" ≠ "" || choice.delta.toolCalls.getD [] ≠ []

def candidateOf (choice : StreamChoice) : GeminiCandidate Args where
  index := choice.index
  parts := choiceParts decoder choice.delta
  finishReason := choice.finishReason.map geminiFinishReason

/-- `none` skips the chunk. -/
def streamResponseOpenAI2Gemini (chunk : StreamChunk) : Option (List (GeminiCandidate Args)) :=
  if chunk.any StreamChoice.hasContent || chunk.any (·.finishReason.isSome) then
    some (chunk.map (candidateOf decoder))
  else none

def convertStream (chunks : List StreamChunk) : List (List (GeminiCandidate Args)) :=
  chunks.filterMap (streamResponseOpenAI2Gemini decoder)

def partsOf (chunks : List (List (GeminiCandidate Args))) : List (GeminiPart Args) :=
  chunks.flatten.flatMap (·.parts)

def GeminiPart.asText : GeminiPart Args → Option String
  | .text written => some written
  | .functionCall _ _ => none

def GeminiPart.asCall : GeminiPart Args → Option (String × Args)
  | .text _ => none
  | .functionCall name args => some (name, args)

end

def callDeltas (chunks : List StreamChunk) : List ToolCallDelta :=
  chunks.flatten.flatMap fun choice => choice.delta.toolCalls.getD []

/-- The tool calls of a stream: deltas of one index are one call, whose name and arguments are
theirs one after the other. A delta without an index is a call of its own. -/
def assemble : List ToolCallDelta → List ToolCallDelta
  | [] => []
  | first :: rest =>
    let calls := assemble rest
    match calls.find? fun call => call.index = first.index && call.index.isSome with
    | none => first :: calls
    | some later =>
      { first with
        name := first.name ++ later.name
        arguments := first.arguments ++ later.arguments } ::
        calls.filter (·.index ≠ first.index)

/-- Every call comes in one delta, and no delta has both content and a list of tool calls. -/
def WholeCalls (chunks : List StreamChunk) : Prop :=
  ((callDeltas chunks).filterMap (·.index)).Nodup ∧
    ∀ choice ∈ chunks.flatten, choice.delta.toolCalls = none ∨ choice.delta.content.getD "" = ""

theorem mem_index_assemble (deltas : List ToolCallDelta) (index : Int) :
    index ∈ (assemble deltas).filterMap (·.index) ↔ index ∈ deltas.filterMap (·.index) := by
  induction deltas with
  | nil => rfl
  | cons first rest ih =>
    rw [assemble]
    simp only [mem_filterMap] at ih ⊢
    split
    · simp only [mem_cons, exists_eq_or_imp, ih]
    · rename_i later found
      simp only [mem_cons, exists_eq_or_imp, mem_filter, decide_eq_true_eq, ← ih]
      refine or_congr_right' fun other => ⟨?_, ?_⟩
      · rintro ⟨call, ⟨member, -⟩, same⟩
        exact ⟨call, member, same⟩
      · rintro ⟨call, member, same⟩
        exact ⟨call, ⟨member, by rw [same]; exact Ne.symm other⟩, same⟩

theorem length_assemble_le (deltas : List ToolCallDelta) :
    (assemble deltas).length ≤ deltas.length := by
  induction deltas with
  | nil => exact le_rfl
  | cons first rest ih =>
    rw [assemble]
    split
    · simpa using ih
    · have := length_filter_le (·.index ≠ first.index) (assemble rest)
      simp only [length_cons]
      omega

variable (first : ToolCallDelta)

/-- The first delta of a stream belongs to no later call. -/
def Single (rest : List ToolCallDelta) : Prop :=
  ∀ index ∈ first.index, index ∉ rest.filterMap (·.index)

theorem find?_eq_none_iff_single (rest : List ToolCallDelta) :
    ((assemble rest).find? fun call => call.index = first.index && call.index.isSome) = none ↔
      Single first rest := by
  have same := mem_index_assemble rest
  simp only [mem_filterMap] at same
  simp only [find?_eq_none, Single, mem_filterMap, ← same, Bool.and_eq_true, decide_eq_true_eq,
    not_and, not_exists, Option.mem_def]
  constructor
  · intro none index own call member same
    exact none call member (same.trans own.symm) (by rw [same]; rfl)
  · intro none call member same some
    obtain ⟨index, found⟩ := Option.isSome_iff_exists.1 some
    exact none index (same.symm.trans found) call member found

theorem nodup_index_cons (rest : List ToolCallDelta) :
    ((first :: rest).filterMap (·.index)).Nodup ↔
      Single first rest ∧ (rest.filterMap (·.index)).Nodup := by
  cases own : first.index <;> simp [own, Single]

theorem assemble_whole {deltas : List ToolCallDelta}
    (distinct : (deltas.filterMap (·.index)).Nodup) : assemble deltas = deltas := by
  induction deltas with
  | nil => rfl
  | cons first rest ih =>
    obtain ⟨single, distinct⟩ := (nodup_index_cons first rest).1 distinct
    rw [assemble, (find?_eq_none_iff_single first rest).2 single, ih distinct]

/-- Calls that come in several deltas are fewer than the deltas. -/
theorem nodup_of_length_assemble {deltas : List ToolCallDelta}
    (length : (assemble deltas).length = deltas.length) :
    (deltas.filterMap (·.index)).Nodup := by
  induction deltas with
  | nil => simp
  | cons first rest ih =>
    have shorter := length_assemble_le rest
    rw [assemble] at length
    split at length
    · rename_i absent
      rw [nodup_index_cons, ← find?_eq_none_iff_single]
      exact ⟨absent, ih (by simpa using length)⟩
    · rename_i later found
      have removed : ((assemble rest).filter (·.index ≠ first.index)).length <
          (assemble rest).length := by
        rw [length_filter_lt_length_iff_exists]
        refine ⟨later, mem_of_find?_eq_some found, ?_⟩
        have same := find?_some found
        simp only [Bool.and_eq_true, decide_eq_true_eq] at same
        simp [same.1]
      simp only [length_cons] at length
      omega

variable {Args : Type} (decoder : ArgumentDecoder Args)

theorem collect_converted {Item : Type} (collect : GeminiCandidate Args → List Item)
    (nothing : ∀ choice : StreamChoice, choice.hasContent = false → choice.finishReason = none →
      collect (candidateOf decoder choice) = []) (chunks : List StreamChunk) :
    (convertStream decoder chunks).flatten.flatMap collect =
      chunks.flatten.flatMap fun choice => collect (candidateOf decoder choice) := by
  induction chunks with
  | nil => rfl
  | cons chunk rest ih =>
    have first : ((streamResponseOpenAI2Gemini decoder chunk).getD []).flatMap collect =
        chunk.flatMap fun choice => collect (candidateOf decoder choice) := by
      unfold streamResponseOpenAI2Gemini
      split
      · simp [flatMap_map]
      · rename_i skipped
        simp only [Bool.or_eq_true, any_eq_true, not_or, not_exists, not_and] at skipped
        symm
        simp only [Option.getD_none, flatMap_nil, flatMap_eq_nil_iff]
        exact fun choice member => nothing choice (Bool.of_not_eq_true (skipped.1 choice member))
          (by simpa using skipped.2 choice member)
    rw [flatten_cons, flatMap_append, ← ih, ← first]
    unfold convertStream
    rw [filterMap_cons]
    cases streamResponseOpenAI2Gemini decoder chunk <;> simp

variable (chunks : List StreamChunk)

theorem partsOf_converted :
    partsOf (convertStream decoder chunks) =
      chunks.flatten.flatMap fun choice => choiceParts decoder choice.delta := by
  refine collect_converted decoder _ (fun choice empty _ => ?_) chunks
  simp only [StreamChoice.hasContent, Bool.or_eq_false_iff, decide_eq_false_iff_not, not_not]
    at empty
  unfold candidateOf choiceParts
  cases calls : choice.delta.toolCalls <;> simp_all

theorem choiceParts_calls (delta : StreamDelta) :
    (choiceParts decoder delta).filterMap GeminiPart.asCall =
      (delta.toolCalls.getD []).map
        fun call => (call.name, decodeArguments decoder call.arguments) := by
  unfold choiceParts
  cases delta.toolCalls with
  | none => by_cases empty : delta.content.getD "" = "" <;> simp [empty, GeminiPart.asCall]
  | some listed => simp [filterMap_map, Function.comp_def, callPart, GeminiPart.asCall]

theorem choiceParts_text (delta : StreamDelta) :
    concat ((choiceParts decoder delta).filterMap GeminiPart.asText) =
      if delta.toolCalls = none then delta.content.getD "" else "" := by
  unfold choiceParts
  cases delta.toolCalls with
  | none => by_cases empty : delta.content.getD "" = "" <;> simp [empty, concat, GeminiPart.asText]
  | some listed =>
    have noText : (listed.map (callPart decoder)).filterMap GeminiPart.asText = [] := by
      simp [filterMap_map, Function.comp_def, callPart, GeminiPart.asText]
    simp [noText, concat]

theorem calls_converted :
    (partsOf (convertStream decoder chunks)).filterMap GeminiPart.asCall =
      (callDeltas chunks).map fun call => (call.name, decodeArguments decoder call.arguments) := by
  rw [partsOf_converted, filterMap_flatMap, callDeltas, map_flatMap]
  simp only [choiceParts_calls]

theorem text_converted :
    concat ((partsOf (convertStream decoder chunks)).filterMap GeminiPart.asText) =
      concat (chunks.flatten.map fun choice =>
        if choice.delta.toolCalls = none then choice.delta.content.getD "" else "") := by
  rw [partsOf_converted, filterMap_flatMap]
  induction chunks.flatten with
  | nil => rfl
  | cons choice rest ih =>
    rw [flatMap_cons, concat_append, ih, choiceParts_text, map_cons, concat]

/-- Texts that are left out are missed unless they are empty. -/
theorem concat_masked_eq_iff {Item : Type} (kept : Item → Prop) [DecidablePred kept]
    (text : Item → String) (items : List Item) :
    concat (items.map fun item => if kept item then text item else "") =
        concat (items.map text) ↔ ∀ item ∈ items, kept item ∨ text item = "" := by
  have shorter (item : Item) :
      (if kept item then text item else "").length ≤ (text item).length := by
    split <;> simp
  have sum (items : List Item) :
      (concat (items.map fun item => if kept item then text item else "")).length ≤
        (concat (items.map text)).length := by
    induction items with
    | nil => exact le_rfl
    | cons item rest ih =>
      simp only [map_cons, concat, String.length_append]
      exact Nat.add_le_add (shorter item) ih
  constructor
  · intro same
    have length := congrArg String.length same
    clear same
    induction items with
    | nil => simp
    | cons item rest ih =>
      have here := shorter item
      have later := sum rest
      simp only [map_cons, concat, String.length_append] at length
      refine forall_mem_cons.2 ⟨?_, ih (by omega)⟩
      by_cases keep : kept item
      · exact .inl keep
      · rw [if_neg keep] at here length
        exact .inr (String.length_eq_zero_iff.1 (by simp at length; omega))
  · intro empty
    congr 1
    apply map_congr_left
    intro item member
    rcases empty item member with keep | none
    · rw [if_pos keep]
    · rw [none, ite_self]

/-- The text parts concatenate to the content, there is one functionCall part for each call with
its name and arguments, and the finish reasons are those of the stream. -/
def Delivers : Prop :=
  let converted := convertStream decoder chunks
  concat ((partsOf converted).filterMap GeminiPart.asText) =
      concat (chunks.flatten.map (·.delta.content.getD "")) ∧
    ((partsOf converted).filterMap GeminiPart.asCall).map (fun call => (call.1, some call.2)) =
      (assemble (callDeltas chunks)).map
        (fun call => (call.name, decoder.unmarshal call.arguments)) ∧
    converted.flatten.filterMap (·.finishReason) =
      (chunks.flatten.filterMap (·.finishReason)).map geminiFinishReason

def sampleDecoder : ArgumentDecoder String where
  unmarshal text := if text = "\x7b\"a\":1\x7d" then some text else none
  empty := "\x7b\x7d"
  raw text := text

def callChunk (name arguments : String) : StreamChunk :=
  [{ delta := { toolCalls := some [{ index := some 0, name, arguments }] } }]

end NewApi.ChatToGeminiStream
