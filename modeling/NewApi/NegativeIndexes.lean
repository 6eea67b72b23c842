import Mathlib.Data.List.Infix
import NewApi.HeaderOverride

/-!
Negative indexes in the paths of a parameter override (`processNegativeIndex`,
relay/common/override.go). The code finds the array of an index by searching the text of
the index in the path as it was written. For a path with one index, whose text does not
occur before it, this is the left to right resolution; for every other path with an index
some document shows the difference. A path is the list of its letters. `gjson.GetBytes` of
the document is a parameter that is fixed on plain paths only: keys of objects and places
in arrays.
-/

namespace NewApi.NegativeIndexes

open HeaderOverride
open List hiding head tail

abbrev Lookup := List Char → Option JsonValue

/-- The submatches of `\.(-\d+)` in a path, after `skip` letters of an earlier match. -/
def negativeIndexes : Nat → List Char → List (List Char)
  | skip + 1, _ :: rest => negativeIndexes skip rest
  | 0, '.' :: '-' :: rest =>
    let digits := rest.takeWhile Char.isDigit
    if digits = [] then negativeIndexes 0 ('-' :: rest)
    else ('-' :: digits) :: negativeIndexes (digits.length + 1) ('-' :: rest)
  | 0, _ :: rest => negativeIndexes 0 rest
  | _, [] => []

/-- `strings.Split(text, pattern)[0]`. -/
def beforeFirst (pattern : List Char) : List Char → List Char
  | [] => []
  | letter :: rest =>
    if pattern.isPrefixOf (letter :: rest) then [] else letter :: beforeFirst pattern rest

/-- `strings.Replace(text, pattern, replacement, 1)`. -/
def replaceFirst (pattern replacement : List Char) : List Char → List Char
  | [] => []
  | letter :: rest =>
    if pattern.isPrefixOf (letter :: rest) then replacement ++ (letter :: rest).drop pattern.length
    else letter :: replaceFirst pattern replacement rest

def number (digits : List Char) : Nat :=
  digits.foldl (fun value digit => 10 * value + (digit.toNat - '0'.toNat)) 0

def trimDot (path : List Char) : List Char :=
  if path.getLast? = some '.' then path.dropLast else path

variable (value : Option JsonValue)

/-- The index that `-count` stands for in the array, if the value is one and long enough. -/
def actualIndex (count : Nat) : Option Nat :=
  match value with
  | some (.array items) =>
    if count ≤ items.length ∧ 0 < count then some (items.length - count) else none
  | _ => none

def replaceIndex (lookup : Lookup) (path result negIndex : List Char) : List Char :=
  match actualIndex (lookup (trimDot (beforeFirst negIndex path))) (number negIndex.tail) with
  | some index => replaceFirst ('.' :: negIndex) ('.' :: (toString index).toList) result
  | none => result

def processNegativeIndex (lookup : Lookup) (path : List Char) : List Char :=
  (negativeIndexes 0 path).foldl (replaceIndex lookup path) path

variable (segment : List Char)

def isIndex : Bool :=
  match segment with
  | '-' :: digits => digits ≠ [] && digits.all Char.isDigit
  | _ => false

def resolveSegment (denoted : Option JsonValue) (segment : List Char) : List Char :=
  if isIndex segment then
    match actualIndex denoted (number segment.tail) with
    | some index => (toString index).toList
    | none => segment
  else segment

/-- The segments of a path after its first one, each with its dot. -/
def joined (segments : List (List Char)) : List Char := segments.flatMap ('.' :: ·)

def resolveFrom (lookup : Lookup) (start : List Char) : List (List Char) → List Char
  | [] => start
  | segment :: rest =>
    resolveFrom lookup (start ++ '.' :: resolveSegment (lookup start) segment) rest

variable (document : JsonValue)

/-- The path with every index resolved; what stands before the first segment is the document. -/
def resolved (lookup : Lookup) (first : List Char) (rest : List (List Char)) : List Char :=
  resolveFrom lookup (resolveSegment (some document) first) rest

/-- The value under plain keys and places. -/
def get : JsonValue → List (List Char) → Option JsonValue
  | value, [] => some value
  | .object fields, key :: rest =>
    match fields.lookup (String.ofList key) with
    | some value => get value rest
    | none => none
  | .array items, place :: rest =>
    if place ≠ [] ∧ place.all Char.isDigit then
      match items[number place]? with
      | some value => get value rest
      | none => none
    else none
  | _, _ :: _ => none

def plain (letter : Char) : Bool := letter.isAlphanum || letter ∈ ['.', '-', '_']

/-- The lookup finds plain paths of the document as `gjson` does. -/
def Reads (lookup : Lookup) : Prop :=
  ∀ path, path.all plain = true → lookup path = get document (path.splitOn '.')

/-- The index with which a segment begins, as the pattern finds it. -/
def matched : List Char → Option (List Char)
  | '-' :: rest =>
    let digits := rest.takeWhile Char.isDigit
    if digits = [] then none else some ('-' :: digits)
  | _ => none

/-- The segment begins with the index of a place that an array can have. -/
def beginsIndex : Bool :=
  match matched segment with
  | some index => 0 < number index.tail
  | none => false

/-- The first segment is no index, and at most one later segment begins with one: the whole
segment is this index then, and its text does not occur before it. -/
def OneIndex (first : List Char) (rest : List (List Char)) : Prop :=
  (isIndex first = true → number first.tail = 0) ∧
    ((∀ segment ∈ rest, beginsIndex segment = false) ∨
      ∃ before index after, rest = before ++ index :: after ∧ isIndex index = true ∧
        (∀ segment ∈ before ++ after, beginsIndex segment = false) ∧
        ¬ index <:+: first ++ joined before)

abbrev Dotless (segments : List (List Char)) : Prop := ∀ segment ∈ segments, '.' ∉ segment

theorem joined_append (before after : List (List Char)) :
    joined (before ++ after) = joined before ++ joined after :=
  flatMap_append

theorem joined_cons (rest : List (List Char)) :
    joined (segment :: rest) = '.' :: (segment ++ joined rest) := by
  simp [joined]

theorem joined_start (rest : List (List Char)) :
    joined rest = [] ∨ ∃ more, joined rest = '.' :: more := by
  cases rest with
  | nil => exact .inl rfl
  | cons segment more => exact .inr ⟨_, joined_cons ..⟩

theorem intercalate_eq_joined (first : List Char) (rest : List (List Char)) :
    ['.'].intercalate (first :: rest) = first ++ joined rest := by
  induction rest generalizing first with
  | nil => simp [joined]
  | cons segment rest ih =>
    rw [joined_cons, ← ih segment]
    simp [intercalate, intersperse]

variable {rest : List (List Char)} {segment} {first digits index text : List Char}
  {items : List JsonValue} {count : Nat}

theorem splitOn_joined (dotless : Dotless (first :: rest)) :
    (first ++ joined rest).splitOn '.' = first :: rest := by
  rw [← intercalate_eq_joined]
  exact splitOn_intercalate '.' dotless (cons_ne_nil _ _)

theorem takeWhile_stops {rest : List Char} (ended : rest = [] ∨ ∃ more, rest = '.' :: more) :
    (digits ++ rest).takeWhile Char.isDigit = digits.takeWhile Char.isDigit := by
  induction digits with
  | nil => rcases ended with rfl | ⟨more, rfl⟩ <;> simp
  | cons digit digits ih =>
    rw [cons_append, takeWhile_cons, takeWhile_cons, ih]

theorem matched_some (found : matched segment = some index) :
    ∃ digits junk, index = '-' :: digits ∧ digits ≠ [] ∧ digits.all Char.isDigit = true ∧
      segment = index ++ junk := by
  unfold matched at found
  split at found
  · rename_i rest
    simp only at found
    split at found
    · cases found
    rename_i nonempty
    cases found
    refine ⟨_, rest.dropWhile Char.isDigit, rfl, nonempty, ?_, ?_⟩
    · exact all_takeWhile
    · rw [cons_append, takeWhile_append_dropWhile]
  · cases found

theorem isIndex_iff : isIndex segment = true ↔
    ∃ digits, segment = '-' :: digits ∧ digits ≠ [] ∧ digits.all Char.isDigit = true := by
  unfold isIndex
  split
  · simp
  · rename_i other
    simp only [Bool.false_eq_true, false_iff]
    rintro ⟨digits, rfl, -⟩
    exact other digits rfl

theorem matched_index (index : isIndex segment = true) : matched segment = some segment := by
  obtain ⟨digits, rfl, nonempty, digital⟩ := isIndex_iff.1 index
  have taken : digits.takeWhile Char.isDigit = digits :=
    takeWhile_eq_self_iff.2 (by simpa using digital)
  simp [matched, taken, nonempty]

theorem negativeIndexes_skip (skipped rest : List Char) :
    negativeIndexes skipped.length (skipped ++ rest) = negativeIndexes 0 rest := by
  induction skipped with
  | nil => rfl
  | cons letter more ih => simpa [negativeIndexes] using ih

theorem negativeIndexes_dotless (dotless : '.' ∉ text) (rest : List Char) :
    negativeIndexes 0 (text ++ rest) = negativeIndexes 0 rest := by
  induction text with
  | nil => rfl
  | cons letter text ih =>
    rw [mem_cons, not_or] at dotless
    rw [cons_append, negativeIndexes, ih dotless.2]
    intro more dot
    exact absurd dot.symm dotless.1

theorem negativeIndexes_segment {rest : List Char} (dotless : '.' ∉ segment)
    (ended : rest = [] ∨ ∃ more, rest = '.' :: more) :
    negativeIndexes 0 ('.' :: (segment ++ rest)) =
      (matched segment).toList ++ negativeIndexes 0 rest := by
  cases found : matched segment with
  | none =>
    rw [Option.toList_none, nil_append, ← negativeIndexes_dotless dotless rest]
    cases segment with
    | nil =>
      rcases ended with rfl | ⟨more, rfl⟩ <;> simp [negativeIndexes]
    | cons letter segment =>
      by_cases hyphen : letter = '-'
      · subst hyphen
        have none : segment.takeWhile Char.isDigit = [] := by
          by_contra some
          simp [matched, some] at found
        rw [cons_append, negativeIndexes, takeWhile_stops ended, if_pos none]
      · rw [cons_append, negativeIndexes]
        rintro more - same
        exact hyphen (cons.inj same).1
  | some index =>
    obtain ⟨digits, junk, rfl, nonempty, digital, rfl⟩ := matched_some found
    have taken : (digits ++ junk).takeWhile Char.isDigit = digits := by
      by_contra other
      simp only [matched, cons_append] at found
      split at found
      · cases found
      · exact other (cons.inj (Option.some.inj found)).2
    have free : '.' ∉ junk := fun member => dotless (mem_append_right _ member)
    rw [cons_append, cons_append, negativeIndexes, takeWhile_stops ended, taken, if_neg nonempty,
      Option.toList_some, singleton_append, append_assoc]
    have skipped := negativeIndexes_skip ('-' :: digits) (junk ++ rest)
    rw [length_cons, cons_append] at skipped
    rw [skipped, negativeIndexes_dotless free]

theorem negativeIndexes_joined (dotless : Dotless (first :: rest)) :
    negativeIndexes 0 (first ++ joined rest) = rest.filterMap matched := by
  obtain ⟨start, later⟩ := forall_mem_cons.1 dotless
  rw [negativeIndexes_dotless start]
  clear start dotless
  induction rest with
  | nil => rfl
  | cons segment rest ih =>
    obtain ⟨here, later⟩ := forall_mem_cons.1 later
    rw [joined_cons, negativeIndexes_segment here (joined_start rest), ih later, filterMap_cons]
    cases matched segment <;> rfl

def hyphens (text : List Char) : Nat := text.count '-'

theorem hyphens_append (first second : List Char) :
    hyphens (first ++ second) = hyphens first + hyphens second :=
  count_append ..

theorem hyphens_dot (text : List Char) : hyphens ('.' :: text) = hyphens text := by
  simp [hyphens]

theorem hyphens_number (index : Nat) : hyphens (toString index).toList = 0 := by
  apply count_eq_zero.2
  intro member
  have digit : Char.isDigit '-' = true :=
    @Nat.isDigit_of_mem_toDigits 10 index '-' (by decide) (by decide) (by simpa using member)
  cases digit

theorem hyphens_index (digital : digits.all Char.isDigit = true) : hyphens ('-' :: digits) = 1 := by
  have none : digits.count '-' = 0 := by
    apply count_eq_zero.2
    intro member
    have digit := all_eq_true.1 digital _ member
    cases digit
  simp [hyphens, none]

theorem replaceFirst_here {pattern : List Char} (replacement rest : List Char)
    (nonempty : pattern ≠ []) (same : text = pattern ++ rest) :
    replaceFirst pattern replacement text = replacement ++ rest := by
  obtain ⟨letter, more, rfl⟩ := exists_cons_of_ne_nil nonempty
  subst same
  rw [cons_append, replaceFirst, if_pos, ← cons_append, drop_left]
  rw [ isPrefixOf_iff_prefix, ← cons_append]
  exact prefix_append ..

/-- Where the pattern stands, only text up to its end changes. -/
theorem replaceFirst_append {pattern : List Char} (nonempty : pattern ≠ [])
    (replacement head rest : List Char) :
    ∃ start, replaceFirst pattern replacement (head ++ (pattern ++ rest)) = start ++ rest ∧
      hyphens start + hyphens pattern = hyphens (head ++ pattern) + hyphens replacement := by
  induction head with
  | nil =>
    exact ⟨replacement, replaceFirst_here _ _ nonempty rfl, by rw [nil_append, Nat.add_comm]⟩
  | cons letter head ih =>
    by_cases early : pattern <+: letter :: head ++ pattern
    · obtain ⟨more, same⟩ := early
      refine ⟨replacement ++ more, ?_, ?_⟩
      · rw [append_assoc]
        apply replaceFirst_here _ _ nonempty
        rw [← append_assoc, ← same, append_assoc]
      · rw [← same, hyphens_append, hyphens_append]
        omega
    · have absent : ¬ pattern.isPrefixOf (letter :: (head ++ (pattern ++ rest))) = true := by
        rw [ isPrefixOf_iff_prefix]
        intro start
        apply early
        refine prefix_of_prefix_length_le start ?_ (by simp; omega)
        rw [← append_assoc, ← cons_append]
        exact prefix_append ..
      obtain ⟨start, replaced, same⟩ := ih
      refine ⟨letter :: start, by rw [cons_append, replaceFirst, if_neg absent, replaced]; rfl, ?_⟩
      have one (text : List Char) : hyphens (letter :: text) = hyphens [letter] + hyphens text :=
        hyphens_append [letter] text
      rw [cons_append, one, one (head ++ pattern)]
      omega

/-- The array whose place the code takes for an index. -/
def arrayPath (path index : List Char) : List Char := trimDot (beforeFirst index path)

def fires (lookup : Lookup) (path index : List Char) : Bool :=
  (actualIndex (lookup (arrayPath path index)) (number index.tail)).isSome

theorem hyphens_replaceIndex (lookup : Lookup) (path : List Char)
    (digital : digits.all Char.isDigit = true) (head rest : List Char) :
    ∃ start, replaceIndex lookup path (head ++ '.' :: ('-' :: digits ++ rest)) ('-' :: digits) =
        start ++ rest ∧
      hyphens start + (if fires lookup path ('-' :: digits) then 1 else 0) = hyphens head + 1 := by
  have own : hyphens ('.' :: '-' :: digits) = 1 := by
    rw [hyphens_dot, hyphens_index digital]
  unfold replaceIndex fires arrayPath
  cases actualIndex (lookup (trimDot (beforeFirst ('-' :: digits) path)))
      (number ('-' :: digits).tail) with
  | none =>
    refine ⟨head ++ '.' :: '-' :: digits, by simp, ?_⟩
    rw [hyphens_append, own]
    rfl
  | some index =>
    obtain ⟨start, replaced, same⟩ := replaceFirst_append (cons_ne_nil '.' ('-' :: digits))
      ('.' :: (toString index).toList) head rest
    refine ⟨start, replaced, ?_⟩
    have written : hyphens ('.' :: (toString index).toList) = 0 := by
      rw [hyphens_dot, hyphens_number]
    rw [own, written, hyphens_append, own] at same
    exact same

theorem hyphens_fold (lookup : Lookup) (path head : List Char) (rest : List (List Char)) :
    hyphens ((rest.filterMap matched).foldl (replaceIndex lookup path) (head ++ joined rest)) +
        (rest.filterMap matched).countP (fires lookup path) =
      hyphens (head ++ joined rest) := by
  induction rest generalizing head with
  | nil => rfl
  | cons segment rest ih =>
    rw [joined_cons, filterMap_cons]
    cases found : matched segment with
    | none => simpa using ih (head ++ '.' :: segment)
    | some index =>
      obtain ⟨digits, junk, rfl, -, digital, rfl⟩ := matched_some found
      obtain ⟨start, replaced, same⟩ :=
        hyphens_replaceIndex lookup path digital head (junk ++ joined rest)
      have later := ih (start ++ junk)
      rw [append_assoc] at later
      rw [foldl_cons, countP_cons, append_assoc, replaced]
      have own := hyphens_index digital
      simp only [hyphens_append, hyphens_dot] at later ⊢
      omega

theorem hyphens_processNegativeIndex (lookup : Lookup)
    (dotless : Dotless (first :: rest)) :
    hyphens (processNegativeIndex lookup (first ++ joined rest)) +
        (rest.filterMap matched).countP (fires lookup (first ++ joined rest)) =
      hyphens (first ++ joined rest) := by
  rw [processNegativeIndex, negativeIndexes_joined dotless]
  exact hyphens_fold ..

theorem hyphens_resolveSegment (segment : List Char) :
    hyphens (resolveSegment value segment) ≤ hyphens segment := by
  unfold resolveSegment
  split
  · split
    · rw [hyphens_number]
      exact Nat.zero_le _
    · exact le_rfl
  · exact le_rfl

theorem hyphens_resolveFrom (lookup : Lookup) (start : List Char) (rest : List (List Char)) :
    hyphens (resolveFrom lookup start rest) ≤ hyphens (start ++ joined rest) := by
  induction rest generalizing start with
  | nil => simp [resolveFrom, joined]
  | cons segment rest ih =>
    have here := hyphens_resolveSegment (lookup start) segment
    have later := ih (start ++ '.' :: resolveSegment (lookup start) segment)
    rw [resolveFrom, joined_cons]
    simp only [hyphens_append, hyphens_dot] at later ⊢
    omega

theorem resolveFrom_append (lookup : Lookup) (start : List Char)
    (before after : List (List Char)) :
    resolveFrom lookup start (before ++ after) =
      resolveFrom lookup (resolveFrom lookup start before) after := by
  induction before generalizing start with
  | nil => rfl
  | cons segment before ih => exact ih _

theorem resolveSegment_kept {value : Option JsonValue} (segment : List Char)
    (other : ∀ items, value ≠ some (.array items)) : resolveSegment value segment = segment := by
  have none : actualIndex value (number segment.tail) = none := by
    unfold actualIndex
    split
    · exact absurd rfl (other _)
    · rfl
  simp [resolveSegment, none]

theorem resolveFrom_kept {lookup : Lookup} {start : List Char}
    (kept : ∀ before segment after, rest = before ++ segment :: after →
      resolveSegment (lookup (start ++ joined before)) segment = segment) :
    resolveFrom lookup start rest = start ++ joined rest := by
  induction rest generalizing start with
  | nil => simp [resolveFrom, joined]
  | cons segment rest ih =>
    have here := kept [] segment rest rfl
    rw [show start ++ joined [] = start from append_nil _] at here
    rw [resolveFrom, here, ih, joined_cons, append_assoc, cons_append]
    intro before later after same
    have own := kept (segment :: before) later after (by rw [same, cons_append])
    rw [joined_cons] at own
    simpa using own

theorem resolveSegment_idle (idle : isIndex segment = true → number segment.tail = 0) :
    resolveSegment value segment = segment := by
  unfold resolveSegment
  split
  · rename_i index
    have none : actualIndex value (number segment.tail) = none := by
      rw [idle index]
      unfold actualIndex
      split <;> simp
    rw [none]
  · rfl

/-! One index that occurs first at its place. -/

section Enough

theorem prefix_of_dotless {more : List Char} (dotless : '.' ∉ index)
    (start : index <+: text ++ '.' :: more) : index <+: text := by
  rcases prefix_or_prefix_of_prefix start (prefix_append text ('.' :: more)) with
    inside | ⟨rest, rfl⟩
  · exact inside
  · cases rest with
    | nil => exact prefix_rfl.trans (by rw [append_nil])
    | cons letter rest =>
      rw [prefix_append_right_inj, cons_prefix_cons] at start
      rw [start.1] at dotless
      exact absurd (mem_append_right text mem_cons_self) dotless

theorem dotless_index (digital : digits.all Char.isDigit = true) : '.' ∉ '-' :: digits := by
  intro member
  rcases mem_cons.1 member with same | inside
  · cases same
  · cases all_eq_true.1 digital _ inside

variable {head : List Char} (rest : List Char) (digital : digits.all Char.isDigit = true)
  (absent : ¬ '-' :: digits <:+: head)

include digital absent

theorem beforeFirst_absent :
    beforeFirst ('-' :: digits) (head ++ '.' :: ('-' :: digits ++ rest)) = head ++ ['.'] := by
  induction head with
  | nil => simp [beforeFirst]
  | cons letter head ih =>
    have later : ¬ '-' :: digits <:+: head := fun inside => absent (infix_cons inside)
    have here : ¬ '-' :: digits <+: letter :: (head ++ '.' :: ('-' :: digits ++ rest)) :=
      fun start => absent (prefix_of_dotless (dotless_index digital) start).isInfix
    rw [cons_append, beforeFirst, if_neg (by simpa using here), ih later, cons_append]

theorem replaceFirst_absent (replacement : List Char) :
    replaceFirst ('.' :: '-' :: digits) replacement (head ++ '.' :: ('-' :: digits ++ rest)) =
      head ++ (replacement ++ rest) := by
  induction head with
  | nil => exact replaceFirst_here replacement rest (cons_ne_nil _ _) rfl
  | cons letter head ih =>
    have later : ¬ '-' :: digits <:+: head := fun inside => absent (infix_cons inside)
    have here : ¬ '.' :: '-' :: digits <+: letter :: (head ++ '.' :: ('-' :: digits ++ rest)) := by
      intro start
      exact later (prefix_of_dotless (dotless_index digital) (cons_prefix_cons.1 start).2).isInfix
    rw [cons_append, replaceFirst, if_neg (by simpa using here), ih later, cons_append]

theorem replaceIndex_absent (lookup : Lookup) (rest : List Char) :
    replaceIndex lookup (head ++ '.' :: ('-' :: digits ++ rest))
        (head ++ '.' :: ('-' :: digits ++ rest)) ('-' :: digits) =
      head ++ '.' :: (match actualIndex (lookup head) (number digits) with
        | some index => (toString index).toList
        | none => '-' :: digits) ++ rest := by
  have trimmed : trimDot (head ++ ['.']) = head := by simp [trimDot]
  rw [replaceIndex, beforeFirst_absent rest digital absent, trimmed, tail_cons]
  cases actualIndex (lookup head) (number digits) with
  | none => simp
  | some index =>
    dsimp only
    rw [replaceFirst_absent rest digital absent]
    simp

end Enough

theorem foldl_idle (lookup : Lookup) (path result : List Char) {indexes : List (List Char)}
    (idle : ∀ index ∈ indexes, number index.tail = 0) :
    indexes.foldl (replaceIndex lookup path) result = result := by
  induction indexes generalizing result with
  | nil => rfl
  | cons index indexes ih =>
    obtain ⟨here, later⟩ := forall_mem_cons.1 idle
    have none : actualIndex (lookup (trimDot (beforeFirst index path))) (number index.tail) =
        none := by
      rw [here]
      unfold actualIndex
      split <;> simp
    rw [foldl_cons, ih _ later, replaceIndex, none]

theorem idle_of_beginsIndex {segments : List (List Char)}
    (none : ∀ segment ∈ segments, beginsIndex segment = false) :
    ∀ index ∈ segments.filterMap matched, number index.tail = 0 := by
  intro index member
  obtain ⟨segment, inside, found⟩ := mem_filterMap.1 member
  have begins := none segment inside
  simp only [beginsIndex, found, decide_eq_false_iff_not] at begins
  omega

theorem number_of_beginsIndex (none : beginsIndex segment = false)
    (index : isIndex segment = true) : number segment.tail = 0 := by
  have idle := @idle_of_beginsIndex [segment] (by simpa using none)
  exact idle segment (by simp [matched_index index])

theorem resolves_of_oneIndex (dotless : Dotless (first :: rest))
    (one : OneIndex first rest) (document : JsonValue) (lookup : Lookup) :
    processNegativeIndex lookup (first ++ joined rest) = resolved document lookup first rest := by
  obtain ⟨start, later⟩ := one
  rw [resolved, resolveSegment_idle _ start, processNegativeIndex, negativeIndexes_joined dotless]
  rcases later with none | ⟨before, index, after, rfl, whole, none, absent⟩
  · rw [foldl_idle lookup _ _ (idle_of_beginsIndex none), resolveFrom_kept]
    rintro before segment after rfl
    exact resolveSegment_idle _ (number_of_beginsIndex (none segment (by simp)))
  · have kept {segments : List (List Char)} (part : segments ⊆ before ++ after)
        (start : List Char) : resolveFrom lookup start segments = start ++ joined segments := by
      apply resolveFrom_kept
      rintro earlier segment more rfl
      exact resolveSegment_idle _ (number_of_beginsIndex (none segment (part (by simp))))
    obtain ⟨digits, rfl, -, digital⟩ := isIndex_iff.1 whole
    have idle := idle_of_beginsIndex none
    rw [filterMap_append] at idle
    rw [filterMap_append, filterMap_cons, matched_index whole, foldl_append, foldl_cons,
      foldl_idle _ _ _ fun index member => idle index (mem_append_left _ member),
      foldl_idle _ _ _ fun index member => idle index (mem_append_right _ member),
      resolveFrom_append, kept (subset_append_left ..), resolveFrom, kept (subset_append_right ..),
      joined_append, joined_cons, ← append_assoc, replaceIndex_absent digital absent lookup,
      resolveSegment, if_pos whole]
    rfl

variable (keys : List (List Char))

def nest (inner : JsonValue) : JsonValue :=
  keys.foldr (fun key value => .object [(String.ofList key, value)]) inner

def arrayOf (count : Nat) (item : JsonValue) : JsonValue := .array (replicate count item)

def reading : Lookup := fun path => get document (path.splitOn '.')

theorem get_nest (more : List (List Char)) (inner : JsonValue) :
    get (nest keys inner) (keys ++ more) = get inner more := by
  induction keys with
  | nil => rfl
  | cons key keys ih => simpa [nest, get, lookup_cons] using ih

theorem get_nest_array {keys path : List (List Char)} {inner : JsonValue}
    (found : get (nest keys inner) path = some (.array items)) :
    ∃ more, path = keys ++ more ∧ get inner more = some (.array items) := by
  induction keys generalizing path with
  | nil => exact ⟨path, rfl, found⟩
  | cons key keys ih =>
    cases path with
    | nil => cases found
    | cons segment path =>
      by_cases same : segment = key
      · subst same
        have found : get (nest keys inner) path = some (.array items) := by
          simpa [nest, get, lookup_cons] using found
        obtain ⟨more, rfl, inside⟩ := ih found
        exact ⟨more, rfl, inside⟩
      · have other : (String.ofList segment == String.ofList key) = false :=
          beq_false_of_ne fun equal => same (String.ofList_injective equal)
        simp [nest, get, lookup_cons, other] at found

theorem get_arrayOf_array {item : JsonValue} {path : List (List Char)}
    (found : get (arrayOf count item) path = some (.array items)) :
    (path = [] ∧ items.length = count) ∨ ∃ place more, path = place :: more ∧
      place ≠ [] ∧ place.all Char.isDigit = true ∧ get item more = some (.array items) := by
  cases path with
  | nil =>
    cases found
    exact .inl ⟨rfl, length_replicate⟩
  | cons place more =>
    simp only [arrayOf, get] at found
    split at found
    · rename_i digital
      split at found
      · rename_i value here
        rw [getElem?_replicate] at here
        split at here
        · cases here
          exact .inr ⟨place, more, rfl, digital.1, digital.2, found⟩
        · cases here
      · cases found
    · cases found

theorem get_null (path : List (List Char)) (items : List JsonValue) :
    get .null path ≠ some (.array items) := by
  cases path <;> simp [get]

/-- An array without arrays in it under the keys. -/
def single (count : Nat) : JsonValue := nest keys (arrayOf count .null)

theorem get_single (count : Nat) :
    get (single keys count) keys = some (.array (replicate count .null)) := by
  have found := get_nest keys [] (arrayOf count .null)
  rw [append_nil] at found
  exact found

theorem reading_single {keys : List (List Char)} {path : List Char}
    (found : reading (single keys count) path = some (.array items)) : path.splitOn '.' = keys := by
  obtain ⟨more, split, inside⟩ := get_nest_array found
  rcases get_arrayOf_array inside with ⟨rfl, -⟩ | ⟨place, more, -, -, -, inside⟩
  · rw [split, append_nil]
  · exact absurd inside (get_null _ _)

theorem fires_iff {lookup : Lookup} {path : List Char} :
    fires lookup path index = true ↔ ∃ items, lookup (arrayPath path index) = some (.array items) ∧
      number index.tail ≤ items.length ∧ 0 < number index.tail := by
  unfold fires actualIndex
  split
  · rename_i items found
    simp [found]
  · rename_i other
    simp only [Option.isSome_none, Bool.false_eq_true, false_iff]
    rintro ⟨items, found, -⟩
    exact other items found

theorem resolveSegment_array (index : isIndex segment = true) (positive : 0 < number segment.tail)
    (long : number segment.tail ≤ items.length) :
    resolveSegment (some (.array items)) segment =
      (toString (items.length - number segment.tail)).toList := by
  simp [resolveSegment, index, actualIndex, positive, long]

theorem object_kept (key : List Char) (inner : JsonValue) (segment : List Char) :
    resolveSegment (some (nest (key :: keys) inner)) segment = segment :=
  resolveSegment_kept segment fun _ same => nomatch same

theorem Dotless.mono {few many : List (List Char)} (dotless : Dotless many) (part : few ⊆ many) :
    Dotless few :=
  fun segment member => dotless segment (part member)

theorem reading_nest {before more : List (List Char)} {inner : JsonValue}
    (dotless : Dotless (first :: (before ++ more))) :
    reading (nest (first :: before) inner) (first ++ joined (before ++ more)) = get inner more := by
  rw [reading, splitOn_joined dotless]
  exact get_nest (first :: before) more inner

theorem reading_inner {before : List (List Char)} {inner : JsonValue}
    (dotless : Dotless (first :: before)) :
    reading (nest (first :: before) inner) (first ++ joined before) = some inner := by
  have found := @reading_nest first before [] inner (by rwa [append_nil])
  rwa [append_nil, get] at found

/-- Above the value that the keys lead to no value is an array. -/
theorem resolveFrom_nest {lookup : Lookup} {start : List Char} {keys : List (List Char)}
    {inner : JsonValue}
    (within : ∀ more, Dotless more → lookup (start ++ joined more) = get (nest keys inner) more)
    (dotless : Dotless keys) : resolveFrom lookup start keys = start ++ joined keys := by
  apply resolveFrom_kept
  rintro earlier segment later rfl
  rw [within earlier (dotless.mono (subset_append_left ..))]
  refine resolveSegment_kept segment fun items array => ?_
  obtain ⟨more, split, -⟩ := get_nest_array array
  have length := congrArg List.length split
  simp at length

theorem resolved_nest {before after : List (List Char)} {inner : JsonValue}
    (dotless : Dotless (first :: before)) :
    resolved (nest (first :: before) inner) (reading (nest (first :: before) inner)) first
        (before ++ after) =
      resolveFrom (reading (nest (first :: before) inner)) (first ++ joined before) after := by
  obtain ⟨start, later⟩ := forall_mem_cons.1 dotless
  have passed : resolveFrom (reading (nest (first :: before) inner)) first before =
      first ++ joined before :=
    resolveFrom_nest (fun more free => @reading_nest first [] more (nest before inner)
      (forall_mem_cons.2 ⟨start, free⟩)) later
  rw [resolved, object_kept, resolveFrom_append, passed]

/-- The code resolves the path in every document as the resolution from left to right does. -/
def Agrees (first : List Char) (rest : List (List Char)) : Prop :=
  ∀ document, processNegativeIndex (reading document) (first ++ joined rest) =
    resolved document (reading document) first rest

/-- How many segments the code replaces. -/
def replaced (first : List Char) (rest : List (List Char)) : Nat :=
  (rest.filterMap matched).countP (fires (reading document) (first ++ joined rest))

section Needed

variable {before after : List (List Char)}

theorem Agrees.hyphens (agrees : Agrees first rest)
    (dotless : Dotless (first :: rest)) (document : JsonValue) :
    hyphens (resolved document (reading document) first rest) + replaced document first rest =
      hyphens (first ++ joined rest) := by
  rw [← agrees]
  exact hyphens_processNegativeIndex _ dotless

theorem first_no_index (dotless : Dotless (first :: rest))
    (agrees : Agrees first rest) : isIndex first = true → number first.tail = 0 := by
  intro whole
  by_contra nonzero
  have positive := Nat.pos_of_ne_zero nonzero
  have counted := agrees.hyphens dotless (single [] (number first.tail))
  have idle : replaced (single [] (number first.tail)) first rest = 0 := by
    rw [replaced, countP_eq_zero]
    intro index _ fired
    obtain ⟨items, found, -⟩ := fires_iff.1 fired
    exact splitOn_ne_nil _ _ (reading_single found)
  have fewer := hyphens_resolveFrom (reading (single [] (number first.tail)))
    (toString (number first.tail - number first.tail)).toList rest
  have resolution : resolveSegment (some (single [] (number first.tail))) first = _ :=
    resolveSegment_array whole positive (length_replicate.ge)
  rw [length_replicate] at resolution
  rw [idle, resolved, resolution, hyphens_append] at counted
  rw [hyphens_append, hyphens_number] at fewer
  obtain ⟨digits, rfl, -, digital⟩ := isIndex_iff.1 whole
  rw [hyphens_index digital] at counted
  omega

theorem index_at_arrayPath (dotless : Dotless (first :: rest))
    (agrees : Agrees first rest) (member : index ∈ rest.filterMap matched)
    (positive : 0 < number index.tail) :
    ∃ before segment after, rest = before ++ segment :: after ∧ isIndex segment = true ∧
      0 < number segment.tail ∧
      arrayPath (first ++ joined rest) index = first ++ joined before := by
  by_contra none
  obtain ⟨key, keys, split⟩ : ∃ key keys,
      (arrayPath (first ++ joined rest) index).splitOn '.' = key :: keys :=
    exists_cons_of_ne_nil (splitOn_ne_nil _ _)
  let document := single (key :: keys) (number index.tail)
  have unresolved : resolved document (reading document) first rest = first ++ joined rest := by
    have own : resolveSegment (some document) first = first := object_kept ..
    rw [resolved, own, resolveFrom_kept]
    intro before segment after parts
    by_cases place : arrayPath (first ++ joined rest) index = first ++ joined before
    · apply resolveSegment_idle
      intro whole
      by_contra nonzero
      exact none ⟨before, segment, after, parts, whole, Nat.pos_of_ne_zero nonzero, place⟩
    · apply resolveSegment_kept
      intro items found
      apply place
      rw [← @intercalate_splitOn _ (arrayPath (first ++ joined rest) index) _ _ '.', split,
        ← reading_single found, intercalate_splitOn]
  have fired : fires (reading document) (first ++ joined rest) index = true := by
    refine fires_iff.2 ⟨replicate (number index.tail) .null, ?_, length_replicate.ge, positive⟩
    rw [reading, split]
    exact get_single ..
  have some : 0 < replaced document first rest := countP_pos_iff.2 ⟨index, member, fired⟩
  have counted := agrees.hyphens dotless document
  rw [unresolved] at counted
  omega

theorem replaced_le_one (dotless : Dotless (first :: (before ++ index :: after)))
    (agrees : Agrees first (before ++ index :: after)) (whole : isIndex index = true)
    (positive : 0 < number index.tail) (long : number index.tail ≤ count) :
    replaced (single (first :: before) count) first (before ++ index :: after) ≤ 1 := by
  have counted := agrees.hyphens dotless (single (first :: before) count)
  have above : Dotless (first :: before) :=
    dotless.mono (cons_subset_cons _ (subset_append_left ..))
  have resolution : resolved (single (first :: before) count)
      (reading (single (first :: before) count)) first (before ++ index :: after) =
        first ++ joined before ++ '.' :: (toString (count - number index.tail)).toList ++
          joined after := by
    rw [single, resolved_nest above, resolveFrom, reading_inner above, arrayOf,
      resolveSegment_array whole positive (by rwa [length_replicate]), length_replicate,
      resolveFrom_kept]
    intro earlier segment later _
    refine resolveSegment_kept segment fun items found => ?_
    have split := congrArg (['.'].intercalate ·) (reading_single found)
    simp only [intercalate_splitOn, intercalate_eq_joined] at split
    have length := congrArg List.length split
    simp at length
  obtain ⟨digits, rfl, -, digital⟩ := isIndex_iff.1 whole
  rw [resolution, joined_append, joined_cons] at counted
  simp only [hyphens_append, hyphens_dot, hyphens_number, hyphens_index digital] at counted
  omega

theorem arrayPath_prefix (path index : List Char) : arrayPath path index <+: path := by
  have cut : beforeFirst index path <+: path := by
    induction path with
    | nil => exact prefix_rfl
    | cons letter path ih =>
      rw [beforeFirst]
      split
      · exact nil_prefix
      · exact cons_prefix_cons.2 ⟨rfl, ih⟩
  unfold arrayPath trimDot
  split
  · exact ( dropLast_prefix _).trans cut
  · exact cut

/-- The code reads the outer array only: what follows it in the path begins with a hyphen. -/
theorem replaced_items (whole : isIndex index = true) (item : JsonValue) :
    replaced (nest (first :: before) (arrayOf count item)) first (before ++ index :: after) ≤
      replaced (single (first :: before) count) first (before ++ index :: after) := by
  refine countP_mono_left fun other _ fired => ?_
  obtain ⟨items, array, long, least⟩ := fires_iff.1 fired
  obtain ⟨more, split, array⟩ := get_nest_array array
  rcases get_arrayOf_array array with ⟨rfl, length⟩ | ⟨place, more, rfl, nonempty, digital, -⟩
  · refine fires_iff.2 ⟨replicate count .null, ?_, by simp; omega, least⟩
    rw [reading, split, append_nil]
    exact get_single ..
  · obtain ⟨digit, digits, rfl⟩ := exists_cons_of_ne_nil nonempty
    obtain ⟨own, rfl, -⟩ := isIndex_iff.1 whole
    have start := arrayPath_prefix (first ++ joined (before ++ ('-' :: own) :: after)) other
    rw [← @intercalate_splitOn _ (arrayPath _ other) _ _ '.', split, cons_append,
      intercalate_eq_joined, joined_append, joined_append, prefix_append_right_inj,
      prefix_append_right_inj, joined_cons, joined_cons, cons_prefix_cons, cons_append,
      cons_append, cons_prefix_cons] at start
    obtain ⟨-, rfl, -⟩ := start
    cases all_eq_true.1 digital _ mem_cons_self

theorem reading_items (dotless : Dotless (first :: before)) (positive : 0 < count)
    (item : JsonValue) {more : List (List Char)} (free : Dotless more) :
    reading (nest (first :: before) (arrayOf count item))
        (first ++ joined before ++ ['.', '0'] ++ joined more) = get item more := by
  have here : (replicate count item)[number ['0']]? = some item :=
    getElem?_replicate_of_lt positive
  have path : first ++ joined before ++ ['.', '0'] ++ joined more =
      first ++ joined (before ++ ['0'] :: more) := by
    rw [joined_append, joined_cons]
    simp
  rw [path, reading_nest, arrayOf, get, if_pos (by decide), here]
  rw [← cons_append]
  exact forall_mem_append.2 ⟨dotless, forall_mem_cons.2 ⟨by decide, free⟩⟩

/-- With a second index in the array of the first, two segments change, but the code looks the
second one up under the first as it is written. -/
theorem two_indexes {middle : List (List Char)} {second : List Char}
    (dotless : Dotless (first :: (before ++ index :: (middle ++ second :: after))))
    (agrees : Agrees first (before ++ index :: (middle ++ second :: after)))
    (whole : isIndex index = true) (positive : 0 < number index.tail)
    (also : isIndex second = true) : number second.tail = 0 := by
  by_contra nonzero
  have inside := Nat.pos_of_ne_zero nonzero
  let document := nest (first :: before) (arrayOf (number index.tail)
    (single middle (number second.tail)))
  let start := first ++ joined before ++ ['.', '0']
  have above : Dotless (first :: before) :=
    dotless.mono (cons_subset_cons _ (subset_append_left ..))
  have between : Dotless middle := fun segment member => dotless segment (by simp [member])
  have within (more : List (List Char)) (free : Dotless more) :
      reading document (start ++ joined more) = get (single middle (number second.tail)) more :=
    reading_items above positive _ free
  have zero : (toString (0 : Nat)).toList = ['0'] := by decide
  have resolution : resolved document (reading document) first
      (before ++ index :: (middle ++ second :: after)) =
        resolveFrom (reading document) (start ++ joined middle ++ ['.', '0']) after := by
    have outer : reading document (first ++ joined before) = some (.array (replicate _ _)) :=
      reading_inner above
    refine (resolved_nest above).trans ?_
    rw [resolveFrom, outer, resolveSegment_array whole positive length_replicate.ge,
      length_replicate, Nat.sub_self, zero, resolveFrom_append, resolveFrom_nest within between,
      resolveFrom, within middle between, get_single,
      resolveSegment_array also inside length_replicate.ge, length_replicate, Nat.sub_self, zero]
  have counted := agrees.hyphens dotless document
  have fired : replaced document first _ ≤ 1 := (replaced_items whole _).trans
    (replaced_le_one dotless agrees whole positive le_rfl)
  have fewer := hyphens_resolveFrom (reading document) (start ++ joined middle ++ ['.', '0']) after
  obtain ⟨digits, rfl, -, digital⟩ := isIndex_iff.1 whole
  obtain ⟨others, rfl, -, numeral⟩ := isIndex_iff.1 also
  rw [resolution] at counted
  simp only [start, joined_append, joined_cons, hyphens_append, hyphens_dot, hyphens_index digital,
    hyphens_index numeral, show hyphens ['.', '0'] = 0 from rfl] at counted fewer
  omega

theorem length_beforeFirst {head : List Char} (inside : index <:+: head) (more : List Char) :
    (beforeFirst index (head ++ more)).length + index.length ≤ head.length := by
  induction head with
  | nil =>
    rw [infix_nil.1 inside]
    cases more <;> simp [beforeFirst]
  | cons letter head ih =>
    rw [cons_append, beforeFirst]
    split
    · simpa using inside.length_le
    · rename_i other
      rcases infix_cons_iff.1 inside with start | later
      · rw [ isPrefixOf_iff_prefix] at other
        exact absurd (start.trans (prefix_append (letter :: head) more)) other
      · have shorter := ih later
        simp only [length_cons]
        omega

theorem matched_of_beginsIndex (found : beginsIndex segment = true) :
    ∃ index, matched segment = some index ∧ 0 < number index.tail := by
  unfold beginsIndex at found
  split at found
  · rename_i index same
    exact ⟨index, same, of_decide_eq_true found⟩
  · cases found

theorem own_matched (whole : isIndex index = true) :
    index ∈ (before ++ index :: after).filterMap matched :=
  mem_filterMap.2 ⟨index, by simp, matched_index whole⟩

section Single

variable (dotless : Dotless (first :: (before ++ index :: after)))
  (agrees : Agrees first (before ++ index :: after)) (whole : isIndex index = true)
  (positive : 0 < number index.tail)

include dotless agrees whole positive

/-- Every index of the path is looked up where this one stands. -/
theorem arrayPath_eq {other : List Char}
    (member : other ∈ (before ++ index :: after).filterMap matched)
    (least : 0 < number other.tail) :
    arrayPath (first ++ joined (before ++ index :: after)) other = first ++ joined before := by
  obtain ⟨earlier, segment, later, parts, also, least, place⟩ :=
    index_at_arrayPath dotless agrees member least
  rw [place]
  rcases append_eq_append_iff.1 parts with ⟨middle, rfl, split⟩ | ⟨middle, rfl, split⟩
  · cases middle with
    | nil => rw [append_nil]
    | cons head middle =>
      obtain ⟨rfl, rfl⟩ := cons.inj split
      exact absurd (two_indexes dotless agrees whole positive also) (by omega)
  · cases middle with
    | nil => rw [append_nil]
    | cons head middle =>
      obtain ⟨rfl, rfl⟩ := cons.inj split
      rw [append_assoc, cons_append] at dotless agrees
      exact absurd (two_indexes dotless agrees also least whole) (by omega)

theorem no_other_index : ∀ segment ∈ before ++ after, beginsIndex segment = false := by
  intro segment member
  by_contra found
  obtain ⟨other, same, least⟩ := matched_of_beginsIndex (by simpa using found)
  have most := replaced_le_one dotless agrees whole positive
    (Nat.le_add_right (number index.tail) (number other.tail))
  have fired {another : List Char}
      (member : another ∈ (before ++ index :: after).filterMap matched)
      (least : 0 < number another.tail)
      (long : number another.tail ≤ number index.tail + number other.tail) :
      fires (reading (single (first :: before) (number index.tail + number other.tail)))
        (first ++ joined (before ++ index :: after)) another = true := by
    refine fires_iff.2 ⟨replicate (number index.tail + number other.tail) .null, ?_, ?_, least⟩
    · rw [arrayPath_eq dotless agrees whole positive member least]
      exact reading_inner (dotless.mono (cons_subset_cons _ (subset_append_left ..)))
    · rwa [length_replicate]
  rw [replaced, filterMap_append, filterMap_cons, matched_index whole, countP_append, countP_cons,
    if_pos (fired (own_matched whole) positive (Nat.le_add_right ..))] at most
  have inside {part : List (List Char)} (member : segment ∈ part)
      (within : part ⊆ before ++ index :: after) : 0 < (part.filterMap matched).countP
        (fires (reading (single (first :: before) (number index.tail + number other.tail)))
          (first ++ joined (before ++ index :: after))) :=
    countP_pos_iff.2 ⟨other, mem_filterMap.2 ⟨segment, member, same⟩,
      fired (mem_filterMap.2 ⟨segment, within member, same⟩) least (Nat.le_add_left ..)⟩
  rcases mem_append.1 member with member | member
  · have more := inside member (subset_append_left ..)
    omega
  · have more := inside member fun _ later => mem_append_right _ (mem_cons_of_mem _ later)
    omega

theorem not_earlier : ¬ index <:+: first ++ joined before := by
  intro earlier
  have shorter := length_beforeFirst earlier (joined (index :: after))
  have length := congrArg List.length
    (arrayPath_eq dotless agrees whole positive (own_matched whole) positive)
  rw [joined_append, ← append_assoc] at length
  have trimmed : (arrayPath (first ++ joined before ++ joined (index :: after)) index).length ≤
      (beforeFirst index (first ++ joined before ++ joined (index :: after))).length := by
    unfold arrayPath trimDot
    split
    · simp
    · exact le_rfl
  obtain ⟨digits, rfl, -⟩ := isIndex_iff.1 whole
  rw [length_cons] at shorter
  omega

end Single

theorem oneIndex_of_agrees (dotless : Dotless (first :: rest)) (agrees : Agrees first rest) :
    OneIndex first rest := by
  refine ⟨first_no_index dotless agrees, ?_⟩
  by_cases none : ∀ segment ∈ rest, beginsIndex segment = false
  · exact .inl none
  push Not at none
  obtain ⟨segment, member, found⟩ := none
  obtain ⟨index, same, positive⟩ := matched_of_beginsIndex (by simpa using found)
  obtain ⟨before, index, after, rfl, whole, positive, -⟩ := index_at_arrayPath dotless agrees
    (mem_filterMap.2 ⟨segment, member, same⟩) positive
  exact .inr ⟨before, index, after, rfl, whole, no_other_index dotless agrees whole positive,
    not_earlier dotless agrees whole positive⟩

end Needed

/-- The code resolves a path in every document from left to right exactly when the path has no
index, or one later segment only that is an index and whose text does not occur before it. -/
theorem processNegativeIndex_resolves_iff (first : List Char) (rest : List (List Char))
    (dotless : Dotless (first :: rest)) :
    (∀ document lookup, Reads document lookup →
      processNegativeIndex lookup (first ++ joined rest) = resolved document lookup first rest) ↔
        OneIndex first rest := by
  constructor
  · intro agrees
    exact oneIndex_of_agrees dotless fun document => agrees document _ fun _ _ => rfl
  · intro one document lookup _
    exact resolves_of_oneIndex dotless one document lookup

def rows : JsonValue := .object [("a", .array [.array [.null], .array [.null, .null, .null]])]

/-- The second index is looked for in the array of the first. -/
theorem second_index_in_first_array :
    processNegativeIndex (reading rows) "a.-1.-1".toList = "a.1.1".toList ∧
      resolved rows (reading rows) ['a'] ["-1".toList, "-1".toList] = "a.1.2".toList := by
  decide +kernel

/-- An earlier segment may end in the same letters as long as they are no index. -/
theorem named_model_resolved :
    OneIndex "gpt-4".toList ["items".toList, "-1".toList] ∧
      ∀ document lookup, Reads document lookup →
        processNegativeIndex lookup "gpt-4.items.-1".toList =
          resolved document lookup "gpt-4".toList ["items".toList, "-1".toList] := by
  have one : OneIndex "gpt-4".toList ["items".toList, "-1".toList] := by
    refine ⟨by decide +kernel, .inr ⟨["items".toList], "-1".toList, [], rfl, ?_, ?_, ?_⟩⟩
    all_goals decide +kernel
  exact ⟨one, (processNegativeIndex_resolves_iff _ _ (by decide +kernel)).2 one⟩

end NewApi.NegativeIndexes
