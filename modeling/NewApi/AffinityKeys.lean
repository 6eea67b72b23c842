import NewApi.Schema

/-!
The keys of channel affinity (service/channel_affinity.go, pkg/cachex): the entry from which a
request reads its channel and the one it writes. Regular expressions, SHA-256 and the values that
the sources of a rule find in a request are parameters.
-/

namespace NewApi.AffinityKeys

open List
open String (ofList ofList_append ofList_toList toList_ofList toList_inj)

structure KeySource where
  type : String
  key : String := ""
  path : String := ""
  deriving DecidableEq

structure ChannelAffinityRule where
  name : String := ""
  modelRegex : List String
  pathRegex : List String := []
  userAgentInclude : List String := []
  keySources : List KeySource
  valueRegex : String := ""
  includeRuleName : Bool := false
  includeModelName : Bool := false
  includeUsingGroup : Bool := false
  deriving DecidableEq

structure Request where
  modelName : String
  usingGroup : String := ""
  path : String := ""
  userAgent : String := ""
  extractChannelAffinityValue : KeySource → String
  -- Every source trims what it finds, or prints a positive number.
  trimmed : ∀ source,
    trimSpace (extractChannelAffinityValue source) = extractChannelAffinityValue source

structure Host where
  -- False for a pattern that does not compile.
  matchString : String → String → Bool
  -- `.*`
  anything : String
  anything_ne : anything ≠ ""
  matchString_anything : ∀ text, matchString anything text = true
  containsFold : String → String → Bool
  sha256Hex : String → String
  sha256Hex_size : ∀ text, (sha256Hex text).utf8ByteSize = 64
  sha256Hex_digits : ∀ text, ∀ letter ∈ (sha256Hex text).toList,
    letter ≠ ':' ∧ isSpace letter = false

def matchAny (test : String → String → Bool) (patterns : List String) (text : String) : Bool :=
  text ≠ "" && patterns.any fun pattern => pattern ≠ "" && test pattern text

def matchAnyRegexCached (host : Host) : List String → String → Bool :=
  matchAny host.matchString

def matchAnyIncludeFold (host : Host) (patterns : List String) : String → Bool :=
  matchAny host.containsFold (patterns.map trimSpace)

variable (host : Host) (request : Request) (rule : ChannelAffinityRule)

def affinityValue : String :=
  ((rule.keySources.map request.extractChannelAffinityValue).find? (· ≠ "")).getD ""

def applies : Bool :=
  matchAnyRegexCached host rule.modelRegex request.modelName &&
  (rule.pathRegex.isEmpty || matchAnyRegexCached host rule.pathRegex request.path) &&
  (rule.userAgentInclude.isEmpty ||
    matchAnyIncludeFold host rule.userAgentInclude request.userAgent) &&
  affinityValue request rule ≠ "" &&
  (rule.valueRegex = "" || matchAnyRegexCached host [rule.valueRegex] (affinityValue request rule))

def normalizeAffinityValueForKey (affinityValue : String) : String :=
  if affinityValue.utf8ByteSize ≤ 64 then affinityValue else "h256:" ++ host.sha256Hex affinityValue

inductive Component where
  | ruleName
  | modelName
  | usingGroup
  deriving DecidableEq

abbrev Parts := List (Component × String)

/-- The parts of the key before the value. -/
def components (modelName usingGroup : String) : Parts :=
  (if rule.includeRuleName && rule.name ≠ "" then [(.ruleName, rule.name)] else []) ++
  (if rule.includeModelName && modelName ≠ "" then [(.modelName, modelName)] else []) ++
  if rule.includeUsingGroup && usingGroup ≠ "" then [(.usingGroup, usingGroup)] else []

def joinParts (parts : Parts) (affinityValue : String) : String :=
  ":".intercalate (parts.map Prod.snd ++ [normalizeAffinityValueForKey host affinityValue])

def buildChannelAffinityCacheKeySuffix (modelName usingGroup affinityValue : String) : String :=
  joinParts host (components rule modelName usingGroup) affinityValue

def channelAffinityCacheNamespace : String := "new-api:channel_affinity:v1"

def trimLeftColons (text : String) : String :=
  ofList (text.toList.dropWhile (· = ':'))

/-- `Namespace.prefix`. -/
def keyPrefix (space : String) : String :=
  let space := ofList ((trimSpace space).toList.rdropWhile (· = ':'))
  if space = "" then "" else space ++ ":"

/-- `Namespace.FullKey`, through which every `Get` and `SetWithTTL` goes. -/
def fullKey (space key : String) : String :=
  let key := trimSpace key
  if key = "" then ""
  else if keyPrefix space = "" then trimLeftColons key
  else if (keyPrefix space).toList.isPrefixOf key.toList then key
  else keyPrefix space ++ trimLeftColons key

/-- The entry that `GetPreferredChannelByAffinity` reads and the one that
`RecordChannelAffinity` writes for a key suffix. -/
def entries (suffix : String) : List String :=
  [fullKey channelAffinityCacheNamespace suffix,
    fullKey channelAffinityCacheNamespace (channelAffinityCacheNamespace ++ ":" ++ suffix)]

/-- A request and the rule that `GetPreferredChannelByAffinity` picks for it, the first that
applies. -/
structure Asked where
  rules : List ChannelAffinityRule
  request : Request
  rule : ChannelAffinityRule
  picked : rules.find? (applies host request) = some rule

variable (asked : Asked host)

namespace Asked

variable {host}

def parts : Parts :=
  components asked.rule asked.request.modelName asked.request.usingGroup

def value : String := affinityValue asked.request asked.rule

def keys : List String :=
  entries (buildChannelAffinityCacheKeySuffix host asked.rule asked.request.modelName
    asked.request.usingGroup asked.value)

end Asked

/-- Equal values, or long values with the same digest. -/
def SameValue (first second : String) : Prop :=
  first = second ∨ 64 < first.utf8ByteSize ∧ 64 < second.utf8ByteSize ∧
    host.sha256Hex first = host.sha256Hex second

/-- What a request contributes to its key besides the value. -/
structure Context where
  rule : ChannelAffinityRule
  modelName : String
  usingGroup : String

def Context.parts (context : Context) : Parts :=
  components context.rule context.modelName context.usingGroup

/-- Requests with the parts of these contexts touch a common entry only when they agree. -/
def NeverMix (contexts : List Context) : Prop :=
  ∀ first second : Asked host, first.parts ∈ contexts.map Context.parts →
    second.parts ∈ contexts.map Context.parts → ∀ key ∈ first.keys, key ∈ second.keys →
      first.parts = second.parts ∧ SameValue host first.value second.value

/-! ### Entries as texts -/

/-- The parts of a key as they stand before the value, each with its colon. -/
def keyText (parts : Parts) : List Char := parts.flatMap fun part => part.2.toList ++ [':']

def spaceText : List Char := "new-api:channel_affinity:v1:".toList

/-- What `FullKey` puts behind the namespace. -/
def stripKey (letters : List Char) : List Char :=
  let text := letters.dropWhile isSpace
  if spaceText <+: text then text.drop spaceText.length else text.dropWhile (· = ':')

theorem spaceText_clear : ∀ letter ∈ spaceText, isSpace letter = false := by
  have all : spaceText.all (fun letter => !isSpace letter) = true := by decide +kernel
  intro letter member
  simpa using all_eq_true.1 all letter member

theorem spaceText_ends : spaceText.head? = some 'n' ∧ spaceText.getLast? = some ':' ∧
    (ofList spaceText).utf8ByteSize ≤ 63 := by
  decide +kernel

theorem spaceText_ne_nil : spaceText ≠ [] := by
  intro empty
  simpa [empty] using spaceText_ends.1

variable {letters rest : List Char} {value : String} {parts : Parts}

theorem head_clear {letter : Char} (clear : isSpace letter = false) :
    ∀ other ∈ (letter :: letters).head?, isSpace other = false := by
  intro other first
  cases first
  exact clear

/-- `FullKey` removes nothing of the value. -/
def Settled (parts : Parts) : Prop :=
  let text := (keyText parts).dropWhile isSpace
  spaceText <+: text ∨ ¬ text <+: spaceText ∧ text.dropWhile (· = ':') ≠ []

/-- The texts before the value in the entry that is written and in the one that is read. -/
def texts (parts : Parts) : List (List Char) := [keyText parts, stripKey (keyText parts)]

/-- A value can begin with this text. -/
def Short (rest : List Char) : Prop :=
  rest ≠ [] ∧ (ofList rest).utf8ByteSize ≤ 63 ∧ ∀ letter ∈ rest.head?, isSpace letter = false

instance (rest : List Char) : Decidable (Short rest) :=
  @instDecidableAnd _ _ _ (@instDecidableAnd _ _ _ (Option.decidableForallMem _))

def Apart (one two : Parts) : Prop :=
  ∀ left ∈ texts one, ∀ right ∈ texts two,
    (left = right → one = two) ∧ (left <+: right → ¬ Short (right.drop left.length))

instance (parts : Parts) : Decidable (Settled parts) := inferInstanceAs (Decidable (_ ∨ _))

instance (one two : Parts) : Decidable (Apart one two) :=
  inferInstanceAs (Decidable (∀ left ∈ texts one, ∀ right ∈ texts two, _))

/-- No text before a value is the text of other parts, or the beginning of another one that a
value could complete. -/
def PrefixCode (contexts : List Context) : Prop :=
  (∀ context ∈ contexts, Settled context.parts) ∧
    ∀ one ∈ contexts, ∀ two ∈ contexts, Apart one.parts two.parts

instance (contexts : List Context) : Decidable (PrefixCode contexts) :=
  inferInstanceAs (Decidable (_ ∧ _))

theorem joinParts_toList (parts : Parts) (value : String) : (joinParts host parts value).toList =
    keyText parts ++ (normalizeAffinityValueForKey host value).toList := by
  unfold joinParts
  induction parts with
  | nil => simp [keyText]
  | cons part rest ih =>
      rw [map_cons, cons_append, String.intercalate_cons_of_ne_nil (by simp)]
      simp [keyText] at ih ⊢
      exact ih

/-- A text without blanks at its ends. -/
structure Tight (letters : List Char) : Prop where
  nonempty : letters ≠ []
  head : ∀ letter ∈ letters.head?, isSpace letter = false
  last : ∀ letter ∈ letters.getLast?, isSpace letter = false

theorem dropWhile_eq_of_head (head : ∀ letter ∈ letters.head?, isSpace letter = false) :
    letters.dropWhile isSpace = letters := by
  cases letters with
  | nil => rfl
  | cons letter rest => exact dropWhile_cons_of_neg (by simp [head letter (by simp)])

theorem trimSpace_ofList_of_last (last : ∀ letter ∈ letters.getLast?, isSpace letter = false) :
    trimSpace (ofList letters) = ofList (letters.dropWhile isSpace) := by
  rw [trimSpace_ofList]
  congr 1
  rw [rdropWhile_eq_self_iff]
  intro nonempty
  have same := (dropWhile_suffix isSpace (l := letters)).getLast nonempty
  rw [same, last _ (getLast?_eq_getLast_of_ne_nil _)]
  simp

theorem tight_of_trimmed {text : String} (trimmed : trimSpace text = text) (some : text ≠ "") :
    Tight text.toList := by
  have shape : (text.toList.dropWhile isSpace).rdropWhile isSpace = text.toList := by
    rw [← ofList_toList (s := text), trimSpace_ofList] at trimmed
    simpa using congrArg String.toList trimmed
  refine ⟨fun empty => some (String.toList_eq_nil_iff.1 empty), ?_, ?_⟩
  · have start := dropWhile_rdropWhile text.toList
    rw [shape] at start
    intro letter first
    rw [← start] at first
    have := head?_dropWhile_not isSpace text.toList
    rw [first] at this
    exact this
  · intro letter final
    rw [← shape, rdropWhile, getLast?_reverse] at final
    have := head?_dropWhile_not isSpace (text.toList.dropWhile isSpace).reverse
    rw [final] at this
    exact this

theorem Tight.trimmed (tight : Tight letters) :
    trimSpace (ofList letters) = ofList letters := by
  rw [trimSpace_ofList_of_last tight.last, dropWhile_eq_of_head tight.head]

theorem normalize_tight (tight : Tight value.toList) :
    Tight (normalizeAffinityValueForKey host value).toList := by
  unfold normalizeAffinityValueForKey
  split
  · exact tight
  · have some : (host.sha256Hex value).toList ≠ [] := by
      intro empty
      have size := host.sha256Hex_size value
      rw [String.toList_eq_nil_iff.1 empty] at size
      cases size
    rw [String.toList_append]
    refine ⟨by simp, by simp [isSpace, spacePoints], fun letter last => ?_⟩
    rw [getLast?_append_of_ne_nil _ some] at last
    exact (host.sha256Hex_digits value letter (mem_of_getLast? last)).2

theorem fullKey_read (some : letters ≠ [])
    (last : ∀ letter ∈ letters.getLast?, isSpace letter = false) :
    fullKey channelAffinityCacheNamespace (ofList letters) =
      ofList (spaceText ++ stripKey letters) := by
  have space : keyPrefix channelAffinityCacheNamespace = ofList spaceText := by
    decide +kernel
  have rest : letters.dropWhile isSpace ≠ [] := by
    rw [Ne, dropWhile_eq_nil_iff]
    intro blank
    have final := getLast?_eq_getLast_of_ne_nil some
    have := blank _ (getLast_mem some)
    simp [last _ final] at this
  unfold fullKey stripKey
  rw [trimSpace_ofList_of_last last, space]
  simp only [toList_ofList, isPrefixOf_iff_prefix]
  rw [if_neg (by simpa using rest), if_neg (by decide +kernel)]
  split
  · rename_i found
    rw [prefix_iff_eq_append.1 found]
  · rw [trimLeftColons, toList_ofList, ofList_append]

theorem fullKey_written (some : letters ≠ [])
    (last : ∀ letter ∈ letters.getLast?, isSpace letter = false) :
    fullKey channelAffinityCacheNamespace
        (channelAffinityCacheNamespace ++ ":" ++ ofList letters) =
      ofList (spaceText ++ letters) := by
  have space : channelAffinityCacheNamespace ++ ":" = ofList spaceText := by
    decide +kernel
  have blank : ∀ letter ∈ (spaceText ++ letters).getLast?, isSpace letter = false := by
    rw [getLast?_append_of_ne_nil _ some]
    exact last
  have kept : (spaceText ++ letters).dropWhile isSpace = spaceText ++ letters := by
    have start : ∀ letter ∈ spaceText.head?, isSpace letter = false :=
      fun letter first => spaceText_clear letter (mem_of_head? first)
    apply dropWhile_eq_of_head
    rwa [head?_append_of_ne_nil _ spaceText_ne_nil]
  rw [space, ← ofList_append, fullKey_read (append_ne_nil_of_right_ne_nil _ some) blank,
    stripKey, kept, if_pos (prefix_append _ _), drop_left]

theorem stripKey_append (settled : Settled parts) (letters : List Char) :
    stripKey (keyText parts ++ letters) = stripKey (keyText parts) ++ letters := by
  unfold Settled at settled
  unfold stripKey
  generalize keyText parts = whole at settled ⊢
  dsimp only at settled ⊢
  have some : whole.dropWhile isSpace ≠ [] := by
    intro empty
    simp [empty, spaceText_ne_nil] at settled
  have split : (whole ++ letters).dropWhile isSpace = whole.dropWhile isSpace ++ letters := by
    rw [dropWhile_append, if_neg (by simpa using some)]
  rw [split]
  generalize whole.dropWhile isSpace = text at settled some ⊢
  by_cases inside : spaceText <+: text
  · rw [if_pos inside, if_pos (inside.trans (prefix_append _ _)),
      drop_append_of_le_length inside.length_le]
  · obtain ⟨beyond, rest⟩ := settled.resolve_left inside
    have outside : ¬ spaceText <+: text ++ letters := fun found =>
      ( prefix_or_prefix_of_prefix found (prefix_append text letters)).elim inside beyond
    rw [if_neg inside, if_neg outside, dropWhile_append, if_neg (by simpa using rest)]

theorem entries_eq (parts : Parts) (tight : Tight value.toList) :
    entries (joinParts host parts value) =
      [ofList (spaceText ++
          stripKey (keyText parts ++ (normalizeAffinityValueForKey host value).toList)),
        ofList (spaceText ++
          (keyText parts ++ (normalizeAffinityValueForKey host value).toList))] := by
  have tight := normalize_tight host tight
  have shape := joinParts_toList host parts value
  generalize (normalizeAffinityValueForKey host value).toList = letters at tight shape ⊢
  have some : keyText parts ++ letters ≠ [] := append_ne_nil_of_right_ne_nil _ tight.nonempty
  have last : ∀ letter ∈ (keyText parts ++ letters).getLast?, isSpace letter = false := by
    rw [getLast?_append_of_ne_nil _ tight.nonempty]
    exact tight.last
  rw [entries, ← ofList_toList (s := joinParts host parts value), shape,
    fullKey_read some last, fullKey_written some last]

theorem mem_entries_iff (settled : Settled parts) (tight : Tight value.toList) (key : String) :
    key ∈ entries (joinParts host parts value) ↔ ∃ text ∈ texts parts, key =
      ofList
        (spaceText ++ (text ++ (normalizeAffinityValueForKey host value).toList)) := by
  rw [entries_eq host parts tight, stripKey_append settled]
  simp [texts, or_comm]

theorem normalize_eq_iff (first second : String) :
    normalizeAffinityValueForKey host first = normalizeAffinityValueForKey host second ↔
      SameValue host first second := by
  have short (text : String) :
      (normalizeAffinityValueForKey host text).utf8ByteSize ≤ 64 ↔ text.utf8ByteSize ≤ 64 := by
    unfold normalizeAffinityValueForKey
    split
    · rfl
    · rename_i long
      rw [String.utf8ByteSize_append, host.sha256Hex_size]
      exact iff_of_false (by decide) long
  have prefixed : ∀ text other : String, "h256:" ++ text = "h256:" ++ other ↔ text = other := by
    simp [← toList_inj]
  constructor
  · intro same
    have both := (short first).symm.trans (same ▸ short second)
    unfold normalizeAffinityValueForKey at same
    by_cases long : first.utf8ByteSize ≤ 64
    · rw [if_pos long, if_pos (both.mp long)] at same
      exact .inl same
    · rw [if_neg long, if_neg (both.not.mp long), prefixed] at same
      exact .inr ⟨not_le.mp long, not_le.mp (both.not.mp long), same⟩
  · rintro (rfl | ⟨long, other, same⟩)
    · rfl
    · simp only [normalizeAffinityValueForKey, long.not_ge, other.not_ge, if_false, same]

theorem getLast?_keyText (part : rest <:+ keyText parts) (nonempty : rest ≠ []) :
    rest.getLast? = some ':' := by
  have colon (parts : Parts) : keyText parts ≠ [] → (keyText parts).getLast? = some ':' := by
    induction parts using reverseRecOn with
    | nil => simp [keyText]
    | append_singleton parts last _ =>
        intro _
        rw [keyText, flatMap_append, flatMap_cons, flatMap_nil, append_nil, ← append_assoc,
          getLast?_append_of_ne_nil _ (by simp)]
        rfl
  have whole : keyText parts ≠ [] := part.ne_nil nonempty
  rw [← colon parts whole, getLast?_eq_getLast_of_ne_nil nonempty,
    getLast?_eq_getLast_of_ne_nil whole, part.getLast nonempty]

theorem suffix_of_mem_texts {text : List Char} (member : text ∈ texts parts) :
    text <:+ keyText parts := by
  simp only [texts, mem_cons, not_mem_nil, or_false] at member
  rcases member with rfl | rfl
  · exact suffix_rfl
  · unfold stripKey
    dsimp only
    split
    · exact (drop_suffix _ _).trans (dropWhile_suffix _)
    · exact (dropWhile_suffix _).trans (dropWhile_suffix _)

/-- What a value begins with in front of a longer key text is short: the colon at its end is none
of a digest. -/
theorem short_of_normalize (tight : Tight value.toList)
    (split : (normalizeAffinityValueForKey host value).toList = rest ++ letters)
    (nonempty : rest ≠ []) (more : letters ≠ []) (colon : rest.getLast? = some ':') :
    Short rest := by
  refine ⟨nonempty, ?_, ?_⟩
  · unfold normalizeAffinityValueForKey at split
    split_ifs at split with size
    · have whole : value = ofList rest ++ ofList letters := by
        rw [← ofList_append, ← split, ofList_toList]
      have some : (ofList letters).utf8ByteSize ≠ 0 := by
        simpa [String.utf8ByteSize_eq_zero_iff] using more
      rw [whole, String.utf8ByteSize_append] at size
      omega
    · rw [String.toList_append] at split
      rcases append_eq_append_iff.1 split with ⟨digest, found, tail⟩ | ⟨_, found, -⟩
      · rcases eq_or_ne digest [] with rfl | some
        · rw [found]
          decide +kernel
        · -- The last letter of `rest` would be one of the digest.
          rw [found, getLast?_append_of_ne_nil _ some] at colon
          have member : ':' ∈ (host.sha256Hex value).toList := by
            rw [tail]
            exact mem_append_left _ (mem_of_getLast? colon)
          exact absurd rfl (host.sha256Hex_digits value _ member).1
      · have shorter : (ofList rest).utf8ByteSize ≤ "h256:".utf8ByteSize := by
          rw [← ofList_toList (s := "h256:"), found, ofList_append,
            String.utf8ByteSize_append]
          omega
        exact shorter.trans (by decide +kernel)
  · intro letter first
    apply (normalize_tight host tight).head
    rw [split, head?_append_of_ne_nil _ nonempty]
    exact first

theorem agree_of_shared {one two : Parts} {first second : String} {left right : List Char}
    (forth : Apart one two) (back : Apart two one) (tight : Tight first.toList)
    (other : Tight second.toList) (here : left ∈ texts one) (there : right ∈ texts two)
    (same : left ++ (normalizeAffinityValueForKey host first).toList =
      right ++ (normalizeAffinityValueForKey host second).toList) :
    one = two ∧ SameValue host first second := by
  have own := (normalize_tight host tight).nonempty
  have others := (normalize_tight host other).nonempty
  rcases append_eq_append_iff.1 same with ⟨rest, longer, value⟩ | ⟨rest, longer, value⟩
  all_goals rcases eq_or_ne rest [] with rfl | some
  · rw [append_nil] at longer
    refine ⟨(forth left here right there).1 longer.symm, (normalize_eq_iff host _ _).1 ?_⟩
    exact toList_inj.1 value
  · have part : rest <:+ keyText two :=
      (longer ▸ suffix_append left rest).trans (suffix_of_mem_texts there)
    have short := short_of_normalize host tight value some others (getLast?_keyText part some)
    have tail : right.drop left.length = rest := by rw [longer, drop_left]
    exact absurd (tail ▸ short) ((forth left here right there).2 (longer ▸ prefix_append left rest))
  · rw [append_nil] at longer
    refine ⟨(forth left here right there).1 longer, (normalize_eq_iff host _ _).1 ?_⟩
    exact (toList_inj.1 value).symm
  · have part : rest <:+ keyText one :=
      (longer ▸ suffix_append right rest).trans (suffix_of_mem_texts here)
    have short := short_of_normalize host other value some own (getLast?_keyText part some)
    have tail : left.drop right.length = rest := by rw [longer, drop_left]
    exact absurd (tail ▸ short) ((back right there left here).2 (longer ▸ prefix_append right rest))

theorem Asked.tight : Tight asked.value.toList := by
  have applied := find?_some asked.picked
  simp only [applies, Bool.and_eq_true, decide_eq_true_eq] at applied
  refine tight_of_trimmed ?_ applied.1.2
  unfold value affinityValue
  cases found : (asked.rule.keySources.map asked.request.extractChannelAffinityValue).find?
      (· ≠ "") with
  | none => rfl
  | some text =>
      obtain ⟨source, -, rfl⟩ := mem_map.1 (mem_of_find?_eq_some found)
      exact asked.request.trimmed source

/-- Every value without blanks at its ends can be asked for in every context. -/
theorem exists_asked (context : Context) (tight : Tight value.toList) :
    ∃ asked : Asked host, asked.parts = context.parts ∧ asked.value = value := by
  have trimmed : trimSpace value = value := by
    rw [← ofList_toList (s := value), tight.trimmed]
  have some : value ≠ "" := fun empty => tight.nonempty (by simp [empty])
  let rule : ChannelAffinityRule := { context.rule with
    modelRegex := [host.anything]
    pathRegex := []
    userAgentInclude := []
    keySources := [⟨"gjson", "", "id"⟩]
    valueRegex := ""
    includeModelName := context.rule.includeModelName && context.modelName ≠ "" }
  let request : Request := {
    modelName := if context.modelName = "" then "m" else context.modelName
    usingGroup := context.usingGroup
    extractChannelAffinityValue := fun _ => value
    trimmed := fun _ => trimmed }
  have found : affinityValue request rule = value := by
    simp [affinityValue, rule, request, some]
  have named : request.modelName ≠ "" := by
    by_cases empty : context.modelName = "" <;> simp [request, empty]
  have applied : applies host request rule = true := by
    rw [applies, found]
    simp [some, named, rule, matchAnyRegexCached, matchAny, host.anything_ne,
      host.matchString_anything]
  refine ⟨⟨[rule], request, rule, by simp [applied]⟩, ?_, found⟩
  simp only [Asked.parts, Context.parts, components, rule, request]
  by_cases empty : context.modelName = "" <;> simp [empty]

/-- The value `y` behind a text that a value can begin with. -/
theorem tight_snoc (head : ∀ letter ∈ rest.head?, isSpace letter = false) :
    Tight (ofList (rest ++ ['y'])).toList := by
  rw [toList_ofList]
  refine ⟨by simp, ?_, by simp [isSpace, spacePoints]⟩
  cases rest with
  | nil => simp [isSpace, spacePoints]
  | cons first rest => simpa using head

theorem normalize_snoc (size : (ofList rest).utf8ByteSize ≤ 63) :
    (normalizeAffinityValueForKey host (ofList (rest ++ ['y']))).toList = rest ++ ['y'] := by
  have fits : (ofList (rest ++ ['y'])).utf8ByteSize ≤ 64 := by
    have letter : (ofList ['y']).utf8ByteSize = 1 := by decide +kernel
    rw [ofList_append, String.utf8ByteSize_append, letter]
    omega
  rw [normalizeAffinityValueForKey, if_pos fits, toList_ofList]

/-- Two short values are the same only if they are equal. -/
theorem not_sameValue_snoc (nonempty : rest ≠ []) :
    ¬ SameValue host (ofList (rest ++ ['y'])) (ofList ['y']) := by
  rintro (same | ⟨-, long, -⟩)
  · have letters := congrArg String.toList same
    simp [nonempty] at letters
  · revert long
    decide +kernel

theorem dropWhile_space_append (whole letters : List Char)
    (head : ∀ letter ∈ letters.head?, isSpace letter = false) :
    (whole ++ letters).dropWhile isSpace = whole.dropWhile isSpace ++ letters := by
  rw [dropWhile_append]
  split
  · rename_i empty
    rw [isEmpty_iff.1 empty, nil_append, dropWhile_eq_of_head head]
  · rfl

theorem y_clear : ∀ letter ∈ ['y'].head?, isSpace letter = false := head_clear (by decide)

/-- A value that completes the namespace: the key is taken to have it already. -/
theorem shares_of_completed {whole : List Char} (inside : ¬ spaceText <+: whole.dropWhile isSpace)
    (cut : whole.dropWhile isSpace <+: spaceText) :
    ∃ rest, Short rest ∧ stripKey (whole ++ (rest ++ ['y'])) = stripKey (whole ++ ['y']) := by
  have opened := dropWhile_space_append whole
  unfold stripKey
  rw [opened _ y_clear]
  generalize whole.dropWhile isSpace = text at inside cut opened ⊢
  obtain ⟨rest, split⟩ := cut
  have nonempty : rest ≠ [] := by
    rintro rfl
    have same : text = spaceText := (append_nil text).symm.trans split
    exact inside (same ▸ prefix_rfl)
  have blank : ∀ letter ∈ (rest ++ text ++ ['y']).head?, isSpace letter = false := by
    rw [append_assoc, head?_append_of_ne_nil _ nonempty]
    intro letter first
    exact spaceText_clear letter (split ▸ mem_append_right _ (mem_of_head? first))
  have outside : ¬ spaceText <+: text ++ ['y'] := by
    intro found
    have colon := spaceText_ends.2.1
    rw [← split, prefix_append_right_inj] at found
    obtain ⟨tail, single⟩ := found
    rcases append_eq_singleton_iff.1 single with ⟨none, -⟩ | ⟨rfl, -⟩
    · exact nonempty none
    · rw [← split, getLast?_concat] at colon
      cases colon
  have kept : (text ++ ['y']).dropWhile (· = ':') = text ++ ['y'] := by
    cases text with
    | nil => decide
    | cons first others =>
        have start := spaceText_ends.1
        rw [← split, cons_append, head?_cons, Option.some.injEq] at start
        simp [start]
  have complete : text ++ (rest ++ text ++ ['y']) = spaceText ++ (text ++ ['y']) := by
    simp [← split]
  refine ⟨rest ++ text, ⟨by simp [nonempty], ?_, fun letter first => blank letter ?_⟩, ?_⟩
  · have size := spaceText_ends.2.2
    rw [← split, ofList_append, String.utf8ByteSize_append] at size
    rw [ofList_append, String.utf8ByteSize_append]
    omega
  · rw [head?_append_of_ne_nil _ (by simp [nonempty])]
    exact first
  · rw [opened _ blank, if_neg outside, kept, complete, if_pos (prefix_append _ _), drop_left]

/-- Behind a text of colons, one more in front of the value goes with them. -/
theorem shares_of_colons {whole : List Char}
    (eaten : (whole.dropWhile isSpace).dropWhile (· = ':') = []) :
    ∃ rest, Short rest ∧ stripKey (whole ++ (rest ++ ['y'])) = stripKey (whole ++ ['y']) := by
  have opened := dropWhile_space_append whole
  unfold stripKey
  rw [opened _ y_clear]
  generalize whole.dropWhile isSpace = text at eaten opened ⊢
  have outside (letters : List Char) (head : letters.head? ≠ some 'n') :
      ¬ spaceText <+: text ++ letters := by
    rintro ⟨tail, same⟩
    have first := congrArg List.head? same
    rw [head?_append_of_ne_nil _ spaceText_ne_nil, spaceText_ends.1] at first
    cases text with
    | nil => exact head first.symm
    | cons other others =>
        rw [cons_append, head?_cons, Option.some.injEq] at first
        subst first
        simp at eaten
  have eat (letters : List Char) :
      (text ++ letters).dropWhile (· = ':') = letters.dropWhile (· = ':') := by
    rw [dropWhile_append, eaten]
    rfl
  refine ⟨[':'], by decide +kernel, ?_⟩
  rw [opened ([':'] ++ ['y']) (head_clear (by decide)), if_neg (outside _ (by decide)),
    if_neg (outside _ (by decide)), eat, eat]
  rfl

/-- Where `FullKey` reaches into the value, two values read one entry. -/
theorem unsettled_shares (unsettled : ¬ Settled parts) : ∃ rest, Short rest ∧
    stripKey (keyText parts ++ (rest ++ ['y'])) = stripKey (keyText parts ++ ['y']) := by
  unfold Settled at unsettled
  rw [not_or, not_and_or, not_not, not_not] at unsettled
  obtain ⟨inside, cut | eaten⟩ := unsettled
  · exact shares_of_completed inside cut
  · exact shares_of_colons eaten

/-- Values that share an entry in contexts that never mix are one value of one context. -/
theorem agree_of_neverMix {contexts : List Context} (never : NeverMix host contexts)
    {one two : Context} (here : one ∈ contexts) (there : two ∈ contexts) {first second key : String}
    (tight : Tight first.toList) (other : Tight second.toList)
    (read : key ∈ entries (joinParts host one.parts first))
    (again : key ∈ entries (joinParts host two.parts second)) :
    one.parts = two.parts ∧ SameValue host first second := by
  obtain ⟨asked, parts, value⟩ := exists_asked host one tight
  obtain ⟨rival, others, chosen⟩ := exists_asked host two other
  rw [← parts, ← value] at read
  rw [← others, ← chosen] at again
  have agreed := never asked rival (parts ▸ mem_map_of_mem here) (others ▸ mem_map_of_mem there)
    key read again
  rwa [parts, others, value, chosen] at agreed

/-- Requests of the given contexts never mix their entries exactly when the texts that stand before
the values form a prefix code, as written and as read. -/
theorem affinity_entries_separate_iff (contexts : List Context) :
    NeverMix host contexts ↔ PrefixCode contexts := by
  constructor
  · intro never
    have plain : Tight (ofList ['y']).toList := @tight_snoc [] (by simp)
    have last : (normalizeAffinityValueForKey host (ofList ['y'])).toList = ['y'] :=
      @normalize_snoc host [] (by decide +kernel)
    have settled : ∀ context ∈ contexts, Settled context.parts := by
      intro context member
      by_contra unsettled
      obtain ⟨rest, ⟨nonempty, size, head⟩, same⟩ := unsettled_shares unsettled
      have read : ofList (spaceText ++ stripKey (keyText context.parts ++ ['y'])) ∈
          entries (joinParts host context.parts (ofList (rest ++ ['y']))) := by
        rw [entries_eq host _ (tight_snoc head), normalize_snoc host size, same]
        exact mem_cons_self
      refine not_sameValue_snoc host nonempty
        (agree_of_neverMix host never member member (tight_snoc head) plain read ?_).2
      rw [entries_eq host _ plain, last]
      exact mem_cons_self
    refine ⟨settled, fun one here two there left mine right yours => ⟨fun same => ?_, ?_⟩⟩
    · exact (agree_of_neverMix host never here there plain plain
        ((mem_entries_iff host (settled one here) plain _).2 ⟨left, mine, rfl⟩)
        ((mem_entries_iff host (settled two there) plain _).2 ⟨right, yours, by rw [same]⟩)).1
    · rintro ⟨rest, longer⟩
      rw [← longer, drop_left]
      rintro ⟨nonempty, size, head⟩
      refine not_sameValue_snoc host nonempty
        (agree_of_neverMix host never here there (tight_snoc head) plain
        ((mem_entries_iff host (settled one here) (tight_snoc head) _).2 ⟨left, mine, rfl⟩)
        ((mem_entries_iff host (settled two there) plain _).2 ⟨right, yours, ?_⟩)).2
      rw [last, normalize_snoc host size, ← longer, append_assoc]
  · rintro ⟨settled, apart⟩ first second here there key read again
    obtain ⟨one, mine, parts⟩ := mem_map.1 here
    obtain ⟨two, yours, others⟩ := mem_map.1 there
    have forth := apart one mine two yours
    have back := apart two yours one mine
    have known := settled one mine
    have known' := settled two yours
    rw [parts] at forth back known
    rw [others] at forth back known'
    obtain ⟨left, among, rfl⟩ := (mem_entries_iff host known first.tight key).1 read
    obtain ⟨right, within, same⟩ := (mem_entries_iff host known' second.tight _).1 again
    exact agree_of_shared host forth back first.tight second.tight among within
      (append_cancel_left (String.ofList_inj.1 same))

def sampleHost : Host where
  matchString pattern text := pattern = ".*" || pattern = text
  anything := ".*"
  anything_ne := by decide
  matchString_anything _ := rfl
  containsFold _ _ := false
  sha256Hex _ := "0123456789abcdef0123456789abcdef0123456789abcdef0123456789abcdef"
  sha256Hex_size _ := by decide +kernel
  sha256Hex_digits _ := List.forall_iff_forall_mem.1 (by decide +kernel)

def namedRule (name modelName : String) : ChannelAffinityRule where
  name := name
  modelRegex := [modelName]
  keySources := [⟨"request_header", "Session", ""⟩]
  includeRuleName := true

def plainRule : ChannelAffinityRule where
  modelRegex := ["n"]
  keySources := [⟨"request_header", "Session", ""⟩]

example : PrefixCode [⟨namedRule "a" "m", "m", ""⟩, ⟨namedRule "b" "n", "n", ""⟩] := by
  decide +kernel

def asks (modelName value : String) (trimmed : trimSpace value = value) : Request where
  modelName := modelName
  extractChannelAffinityValue _ := value
  trimmed _ := trimmed

/-- A client of the rule without a name in its keys reads the entry of the other rule. -/
theorem chosen_value_reads_other_rule :
    [namedRule "a" "m", plainRule].find? (applies sampleHost (asks "m" "x" (by decide +kernel))) =
        some (namedRule "a" "m") ∧
      [namedRule "a" "m", plainRule].find?
        (applies sampleHost (asks "n" "a:x" (by decide +kernel))) = some plainRule ∧
      entries (buildChannelAffinityCacheKeySuffix sampleHost (namedRule "a" "m") "m" "" "x") =
        entries (buildChannelAffinityCacheKeySuffix sampleHost plainRule "n" "" "a:x") ∧
      components (namedRule "a" "m") "m" "" ≠ components plainRule "n" "" := by
  decide +kernel

end NewApi.AffinityKeys
