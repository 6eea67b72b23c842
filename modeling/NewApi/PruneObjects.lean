import NewApi.NegativeIndexes

/-!
The mode prune_objects of a parameter override (relay/common/override.go): the objects
below the root that meet the conditions are removed. The conditions are checked by the
checker of the operations, which looks a missing field up in the request context, so the
removal is one by the object's own fields exactly when the context changes no answer on an
object that the removal comes to. An object has the address of its map, which tells it from
another one with the same fields. Values read by gjson and their comparison are parameters.
`withPruning` puts the mode into the operations of an override.
-/

namespace NewApi.PruneObjects

open Runs HeaderOverride List

abbrev Fields := List (String × JsonValue)

/-- A decoded value. -/
inductive Node where
  | null
  | bool (value : Bool)
  | number (text : String) (whole : Option Int)
  | string (text : String)
  | array (items : List Node)
  | object (address : Nat) (fields : List (String × Node))

mutual

/-- `common.Marshal`. -/
def Node.json : Node → JsonValue
  | .null => .null
  | .bool value => .bool value
  | .number text whole => .number text whole
  | .string text => .string text
  | .array items => .array (jsonItems items)
  | .object _ fields => .object (jsonFields fields)

def jsonItems : List Node → List JsonValue
  | [] => []
  | item :: rest => item.json :: jsonItems rest

def jsonFields : List (String × Node) → Fields
  | [] => []
  | field :: rest => (field.1, field.2.json) :: jsonFields rest

end

structure Checker where
  /-- `gjson.GetBytes` of the object's JSON. -/
  lookup : Fields → NegativeIndexes.Lookup
  /-- `gjson.Get` of the context JSON; nothing without a context. -/
  contextGet : String → Option JsonValue
  compareGjsonValues : JsonValue → JsonValue → String → Except OverrideError Bool

structure PruneObjectsOptions where
  conditions : List ConditionOperation
  logic : String := "AND"
  recursive : Bool := true

variable (checker : Checker) (node : Fields)

def Checker.get (path : String) : Option JsonValue :=
  let lookup := checker.lookup node
  lookup (NegativeIndexes.processNegativeIndex lookup path.toList)

def checkSingleCondition (condition : ConditionOperation) : Except OverrideError Bool :=
  match (checker.get node condition.path).or (checker.contextGet condition.path) with
  | none => .ok condition.passMissingKey
  | some value =>
    match checker.compareGjsonValues value condition.value (lower condition.mode) with
    | .error cause => .error
        (.message ("comparison failed for path " ++ condition.path ++ ": " ++ cause.text))
    | .ok result => .ok (result != condition.invert)

def checkEach (node : Fields) : List ConditionOperation → Except OverrideError (List Bool)
  | [] => .ok []
  | condition :: rest => do
    let result ← checkSingleCondition checker node condition
    let results ← checkEach node rest
    .ok (result :: results)

def checkConditions (conditions : List ConditionOperation) (logic : String) :
    Except OverrideError Bool :=
  if conditions = [] then .ok true
  else do
    let results ← checkEach checker node conditions
    .ok (if lower logic = "and" then results.all id else results.any id)

def shouldPruneObject (options : PruneObjectsOptions) (node : Fields) :
    Except OverrideError Bool :=
  checkConditions checker node options.conditions options.logic

mutual

/-- `none` drops the node. -/
def pruneObjectsNode (options : PruneObjectsOptions) (isRoot : Bool) :
    Node → Except OverrideError (Option Node)
  | .array items => do
    let kept ← pruneItems options items
    .ok (some (.array kept))
  | .object address fields => do
    let shouldDrop ← shouldPruneObject checker options (jsonFields fields)
    if shouldDrop && !isRoot then .ok none
    else if !options.recursive then .ok (some (.object address fields))
    else do
      let kept ← pruneFields options fields
      .ok (some (.object address kept))
  | value => .ok (some value)

def pruneItems (options : PruneObjectsOptions) : List Node → Except OverrideError (List Node)
  | [] => .ok []
  | item :: rest => do
    let next ← pruneObjectsNode options false item
    let others ← pruneItems options rest
    .ok (next.toList ++ others)

def pruneFields (options : PruneObjectsOptions) :
    List (String × Node) → Except OverrideError (List (String × Node))
  | [] => .ok []
  | field :: rest => do
    let next ← pruneObjectsNode options false field.2
    let others ← pruneFields options rest
    .ok ((next.map (field.1, ·)).toList ++ others)

end

/-- A condition that a field of an object asks for: its value under its key. -/
def fullCondition (field : String × JsonValue) : Option ConditionOperation :=
  if trimSpace field.1 = "" then none
  else some { path := trimSpace field.1, mode := "full", value := field.2 }

def parseConditionItem : JsonValue → Except OverrideError ConditionOperation
  | .object fields =>
    let text (key : String) := match fields.lookup key with
      | some (.string text) => text
      | _ => ""
    let flag (key : String) := match fields.lookup key with
      | some (.bool value) => value
      | _ => false
    if trimSpace (text "path") = "" ∨ trimSpace (text "mode") = "" then
      .error (.message "condition path/mode is required")
    else .ok
      { path := text "path", mode := text "mode", value := (fields.lookup "value").getD .null
        invert := flag "invert", passMissingKey := flag "pass_missing_key" }
  | _ => .error (.message "condition must be object")

def parseConditionOperations : JsonValue → Except OverrideError (List ConditionOperation)
  | .object fields =>
    match fields.filterMap fullCondition with
    | [] => .error (.message "conditions object must contain at least one key")
    | conditions => .ok conditions
  | .array items => items.mapM parseConditionItem
  | _ => .error (.message "conditions must be an array or object")

def listedConditions (fields : Fields) : Except OverrideError (List ConditionOperation) :=
  match fields.lookup "conditions" with
  | some raw => parseConditionOperations raw
  | none => .ok []

def whereConditions (fields : Fields) : Except OverrideError (List ConditionOperation) :=
  match fields.lookup "where" with
  | none => .ok []
  | some (.object entries) => .ok (entries.filterMap fullCondition)
  | some _ => .error (.message "prune_objects where must be object")

def typeCondition (value : JsonValue) : ConditionOperation :=
  { path := "type", mode := "full", value }

def parsePruneObjectsOptions : JsonValue → Except OverrideError PruneObjectsOptions
  | .null => .error (.message "prune_objects value is required")
  | .string raw =>
    if trimSpace raw = "" then .error (.message "prune_objects value is required")
    else .ok { conditions := [typeCondition (.string (trimSpace raw))] }
  | .object fields => do
    let listed ← listedConditions fields
    let placed ← whereConditions fields
    let conditions := listed ++ placed ++ ((fields.lookup "type").map typeCondition).toList
    let logic := match fields.lookup "logic" with
      | some (.string logic) => if trimSpace logic = "" then "AND" else logic
      | _ => "AND"
    let recursive := match fields.lookup "recursive" with
      | some (.bool value) => value
      | _ => true
    if conditions = [] then .error (.message "prune_objects conditions are required")
    else .ok { conditions, logic, recursive }
  | _ => .error (.message "prune_objects value must be string or object")

/-- The operations of an override over a decoded body: they check conditions and prune the whole
body as above, and edit it in the other ways as `others` does. -/
def withPruning (others : Primitives Node) (checkerIn : OverrideContext → Checker) :
    Primitives Node :=
  { others with
    checkConditions := fun body context conditions logic =>
      let fields := match body with
        | .object _ fields => jsonFields fields
        | _ => []
      checkConditions (checkerIn context) fields conditions logic
    editBody := fun body context op =>
      if op.mode = .body "prune_objects" ∧ op.path = "" then do
        let options ← parsePruneObjectsOptions op.value
        let cleaned ← pruneObjectsNode (checkerIn context) options true body
        .ok (cleaned.getD .null)
      else others.editBody body context op }

/-- The checker without the request context. -/
def Checker.ownFields : Checker := { checker with contextGet := fun _ => none }

/-- The object's own fields meet the conditions. -/
def meets (options : PruneObjectsOptions) (fields : Fields) : Bool :=
  match shouldPruneObject checker.ownFields options fields with
  | .ok met => met
  | .error _ => false

/-- An object: the address of its map and its fields. -/
abbrev Object := Nat × List (String × Node)

def ownObject : Node → List Object
  | .object address fields => [(address, fields)]
  | _ => []

section

variable (isMatch : Fields → Bool)

def dropped : Node → Bool
  | .object _ fields => isMatch (jsonFields fields)
  | _ => false

mutual

def pruned : Node → Node
  | .array items => .array (prunedItems items)
  | .object address fields => .object address (prunedFields fields)
  | value => value

def prunedItems : List Node → List Node
  | [] => []
  | item :: rest =>
    (if dropped isMatch item then none else some (pruned item)).toList ++ prunedItems rest

def prunedFields : List (String × Node) → List (String × Node)
  | [] => []
  | field :: rest =>
    (if dropped isMatch field.2 then none else some (field.1, pruned field.2)).toList ++
      prunedFields rest

end

mutual

/-- The objects below a node that the removal comes to: all but those in a removed one. -/
def reached : Node → List Object
  | .array items => reachedItems items
  | .object _ fields => reachedFields fields
  | _ => []

def reachedItems : List Node → List Object
  | [] => []
  | item :: rest =>
    ownObject item ++ (if dropped isMatch item then [] else reached item) ++ reachedItems rest

def reachedFields : List (String × Node) → List Object
  | [] => []
  | field :: rest =>
    ownObject field.2 ++ (if dropped isMatch field.2 then [] else reached field.2) ++
      reachedFields rest

end

end

def innerObjects : Node → List Object := reached fun _ => false

/-- No map stands twice below the node, as in a decoded value. -/
def Distinct (node : Node) : Prop := ((innerObjects node).map Prod.fst).Nodup

/-- The conditions have an answer on the object, and it is the one for its own fields. -/
def Unswayed (options : PruneObjectsOptions) (object : Object) : Prop :=
  shouldPruneObject checker options (jsonFields object.2) =
    .ok (meets checker options (jsonFields object.2))

/-- The object is what is left of one that does not match. -/
def KeptFrom (isMatch : Fields → Bool) (objects : List Object) (object : Object) : Prop :=
  ∃ fields, (object.1, fields) ∈ objects ∧ isMatch (jsonFields fields) = false ∧
    object.2 = prunedFields isMatch fields

variable {item : Node}

section Kept

variable {checker} {options : PruneObjectsOptions} {isMatch : Fields → Bool}

theorem dropped_none (node : Node) : dropped (fun _ => false) node = false := by
  cases node <;> rfl

theorem ownObject_prune {isRoot : Bool} {node next : Node}
    (done : pruneObjectsNode checker options isRoot node = .ok (some next)) :
    (ownObject next).map Prod.fst = (ownObject node).map Prod.fst := by
  cases node with
  | array items =>
    obtain ⟨kept, -, done⟩ := bind_ok done
    cases done
    rfl
  | object address fields =>
    obtain ⟨shouldDrop, -, done⟩ := bind_ok done
    split at done
    · cases done
    split at done
    · cases done
      rfl
    · obtain ⟨kept, -, done⟩ := bind_ok done
      cases done
      rfl
  | _ =>
    cases done
    rfl

theorem ownObject_pruned (node : Node) :
    (ownObject (pruned isMatch node)).map Prod.fst = (ownObject node).map Prod.fst := by
  cases node <;> rfl

theorem object_of_dropped (drop : dropped isMatch item = true) :
    ∃ address fields, item = .object address fields := by
  cases item with
  | object address fields => exact ⟨address, fields, rfl⟩
  | _ => cases drop

theorem object_of_none {isRoot : Bool}
    (done : pruneObjectsNode checker options isRoot item = .ok none) :
    ∃ address fields, item = .object address fields := by
  cases item with
  | object address fields => exact ⟨address, fields, rfl⟩
  | array items =>
    obtain ⟨kept, -, done⟩ := bind_ok done
    cases done
  | _ => cases done

variable {items : List Node} {field : String × Node} {fields : List (String × Node)}

theorem own_mem_innerItems (member : item ∈ items) :
    ownObject item ⊆ reachedItems (fun _ => false) items := by
  induction items with
  | nil => cases member
  | cons head rest ih =>
    rw [reachedItems]
    rcases mem_cons.1 member with rfl | later
    · intro object own
      simp [own]
    · exact fun object own => mem_append_right _ (ih later own)

theorem own_mem_innerFields (member : field ∈ fields) :
    ownObject field.2 ⊆ reachedFields (fun _ => false) fields := by
  induction fields with
  | nil => cases member
  | cons head rest ih =>
    rw [reachedFields]
    rcases mem_cons.1 member with rfl | later
    · intro object own
      simp [own]
    · exact fun object own => mem_append_right _ (ih later own)

theorem pruneItems_from {kept : List Node} (done : pruneItems checker options items = .ok kept)
    (member : item ∈ kept) :
    ∃ source ∈ items, (ownObject item).map Prod.fst = (ownObject source).map Prod.fst := by
  induction items generalizing kept with
  | nil =>
    cases done
    cases member
  | cons head rest ih =>
    obtain ⟨next, here, done⟩ := bind_ok done
    obtain ⟨others, later, done⟩ := bind_ok done
    cases done
    rcases mem_append.1 member with own | other
    · rw [Option.mem_toList] at own
      cases own
      exact ⟨head, mem_cons_self, ownObject_prune here⟩
    · obtain ⟨source, inside, same⟩ := ih later other
      exact ⟨source, mem_cons_of_mem _ inside, same⟩

theorem pruneFields_from {kept : List (String × Node)}
    (done : pruneFields checker options fields = .ok kept) (member : field ∈ kept) :
    ∃ source ∈ fields, (ownObject field.2).map Prod.fst = (ownObject source.2).map Prod.fst := by
  induction fields generalizing kept with
  | nil =>
    cases done
    cases member
  | cons head rest ih =>
    obtain ⟨next, here, done⟩ := bind_ok done
    obtain ⟨others, later, done⟩ := bind_ok done
    cases done
    rcases mem_append.1 member with own | other
    · rw [Option.mem_toList, Option.map_eq_some_iff] at own
      obtain ⟨node, rfl, rfl⟩ := own
      exact ⟨head, mem_cons_self, ownObject_prune here⟩
    · obtain ⟨source, inside, same⟩ := ih later other
      exact ⟨source, mem_cons_of_mem _ inside, same⟩

theorem prunedItems_from (member : item ∈ prunedItems isMatch items) :
    ∃ source ∈ items, item = pruned isMatch source := by
  induction items with
  | nil => cases member
  | cons head rest ih =>
    rw [prunedItems, mem_append, Option.mem_toList] at member
    rcases member with own | other
    · split at own
      · cases own
      · cases own
        exact ⟨head, mem_cons_self, rfl⟩
    · obtain ⟨source, inside, same⟩ := ih other
      exact ⟨source, mem_cons_of_mem _ inside, same⟩

theorem prunedFields_from (member : field ∈ prunedFields isMatch fields) :
    ∃ source ∈ fields, field = (source.1, pruned isMatch source.2) := by
  induction fields with
  | nil => cases member
  | cons head rest ih =>
    rw [prunedFields, mem_append, Option.mem_toList] at member
    rcases member with own | other
    · split at own
      · cases own
      · cases own
        exact ⟨head, mem_cons_self, rfl⟩
    · obtain ⟨source, inside, same⟩ := ih other
      exact ⟨source, mem_cons_of_mem _ inside, same⟩

end Kept

/-! The code's answers and its result. -/

section Exact

variable {checker} {options : PruneObjectsOptions}

/-- An entry of a list that only one of the two removals keeps would stand there twice. -/
theorem kept_together {Entry : Type} (node : Entry → Node) (put : Node → Entry)
    (put_node : ∀ value, node (put value) = value) {next : Option Node} {others rest : List Entry}
    (first : pruneObjectsNode checker options false item = .ok next)
    (same : (next.map put).toList ++ others =
      (if dropped (meets checker options) item then none
        else some (put (pruned (meets checker options) item))).toList ++ rest)
    (absent : ∀ address ∈ (ownObject item).map Prod.fst, ∀ value ∈ others ++ rest,
      address ∉ (ownObject (node value)).map Prod.fst) :
    next = (if dropped (meets checker options) item then none
        else some (pruned (meets checker options) item)) ∧ others = rest := by
  have twice {value : Node} (own : (ownObject value).map Prod.fst =
      (ownObject item).map Prod.fst) (object : ∃ address fields, item = .object address fields)
      (inside : put value ∈ others ++ rest) : False := by
    obtain ⟨address, fields, rfl⟩ := object
    refine absent address (mem_singleton_self _) (put value) inside ?_
    rw [put_node, own]
    exact mem_singleton_self _
  cases next with
  | none =>
    split at same
    · exact ⟨by rw [if_pos ‹_›], same⟩
    · have same : others = _ :: rest := same
      exact (twice (ownObject_pruned item) (object_of_none first)
        (mem_append_left _ (same ▸ mem_cons_self))).elim
  | some value =>
    split at same
    · rename_i drop
      have same : _ :: others = rest := same
      exact (twice (ownObject_prune first) (object_of_dropped drop)
        (mem_append_right _ (same ▸ mem_cons_self))).elim
    · obtain ⟨equal, rest⟩ := cons.inj same
      have equal := congrArg node equal
      rw [put_node, put_node] at equal
      exact ⟨by rw [if_neg ‹_›, equal], rest⟩

mutual

theorem pruneObjectsNode_iff (recursive : options.recursive = true) : ∀ node, Distinct node →
    (pruneObjectsNode checker options false node =
        .ok (if dropped (meets checker options) node then none
          else some (pruned (meets checker options) node)) ↔
      ∀ object ∈ ownObject node ++ (if dropped (meets checker options) node then []
        else reached (meets checker options) node), Unswayed checker options object)
  | .array items, distinct => by
    rw [pruneObjectsNode]
    simp only [dropped, ownObject, pruned, reached, nil_append, Bool.false_eq_true, if_false]
    rw [← pruneItems_iff recursive items distinct]
    cases pruneItems checker options items <;> simp [bind, Except.bind]
  | .object address fields, distinct => by
    have below := pruneFields_iff recursive fields distinct
    rw [pruneObjectsNode]
    cases answer : shouldPruneObject checker options (jsonFields fields) with
    | error cause => simp [bind, Except.bind, ownObject, Unswayed, answer]
    | ok shouldDrop =>
      cases met : meets checker options (jsonFields fields) with
      | false =>
        cases shouldDrop with
        | false =>
          have own : Unswayed checker options (address, fields) := answer.trans (by rw [met])
          simp only [ownObject, dropped, met, pruned, reached, forall_mem_append,
            forall_mem_singleton, own, true_and, Bool.false_eq_true, if_false]
          rw [← below]
          cases pruneFields checker options fields <;> simp [bind, Except.bind, recursive]
        | true => simp [bind, Except.bind, ownObject, Unswayed, answer, met, dropped]
      | true =>
        cases shouldDrop with
        | false =>
          cases pruneFields checker options fields <;>
            simp [bind, Except.bind, ownObject, Unswayed, answer, met, dropped, recursive]
        | true => simp [bind, Except.bind, ownObject, Unswayed, answer, met, dropped]
  | .null, _ => by simp [pruneObjectsNode, dropped, pruned, ownObject, reached]
  | .bool _, _ => by simp [pruneObjectsNode, dropped, pruned, ownObject, reached]
  | .number _ _, _ => by simp [pruneObjectsNode, dropped, pruned, ownObject, reached]
  | .string _, _ => by simp [pruneObjectsNode, dropped, pruned, ownObject, reached]

theorem pruneItems_iff (recursive : options.recursive = true) :
    ∀ items, ((reachedItems (fun _ => false) items).map Prod.fst).Nodup →
      (pruneItems checker options items = .ok (prunedItems (meets checker options) items) ↔
        ∀ object ∈ reachedItems (meets checker options) items, Unswayed checker options object)
  | [], _ => by simp [pruneItems, prunedItems, reachedItems]
  | item :: rest, distinct => by
    simp only [reachedItems, dropped_none, Bool.false_eq_true, if_false, map_append,
      nodup_append] at distinct
    obtain ⟨⟨-, inner, -⟩, outer, apart⟩ := distinct
    have here := pruneObjectsNode_iff recursive item inner
    have later := pruneItems_iff recursive rest outer
    rw [pruneItems, prunedItems, reachedItems, forall_mem_append, ← here, ← later]
    constructor
    · intro done
      obtain ⟨next, first, done⟩ := bind_ok done
      obtain ⟨others, second, done⟩ := bind_ok done
      rw [first, second]
      have split := kept_together id id (fun _ => rfl) first (by simpa using Except.ok.inj done) ?_
      · exact ⟨congrArg _ split.1, congrArg _ split.2⟩
      intro address here value member twice
      have absent {source : Node} (inside : source ∈ rest)
          (same : (ownObject value).map Prod.fst = (ownObject source).map Prod.fst) : False := by
        rw [id, same] at twice
        obtain ⟨object, own, same⟩ := mem_map.1 twice
        exact apart address (mem_append_left _ here) address
          (mem_map.2 ⟨object, own_mem_innerItems inside own, same⟩) rfl
      rcases mem_append.1 member with member | member
      · obtain ⟨source, inside, same⟩ := pruneItems_from second member
        exact absent inside same
      · obtain ⟨source, inside, rfl⟩ := prunedItems_from member
        exact absent inside (ownObject_pruned source)
    · rintro ⟨first, second⟩
      rw [first, second]
      rfl

theorem pruneFields_iff (recursive : options.recursive = true) :
    ∀ fields, ((reachedFields (fun _ => false) fields).map Prod.fst).Nodup →
      (pruneFields checker options fields = .ok (prunedFields (meets checker options) fields) ↔
        ∀ object ∈ reachedFields (meets checker options) fields, Unswayed checker options object)
  | [], _ => by simp [pruneFields, prunedFields, reachedFields]
  | field :: rest, distinct => by
    simp only [reachedFields, dropped_none, Bool.false_eq_true, if_false, map_append,
      nodup_append] at distinct
    obtain ⟨⟨-, inner, -⟩, outer, apart⟩ := distinct
    have here := pruneObjectsNode_iff recursive field.2 inner
    have later := pruneFields_iff recursive rest outer
    rw [pruneFields, prunedFields, reachedFields, forall_mem_append, ← here, ← later]
    constructor
    · intro done
      obtain ⟨next, first, done⟩ := bind_ok done
      obtain ⟨others, second, done⟩ := bind_ok done
      rw [first, second]
      have split := kept_together Prod.snd (field.1, ·) (fun _ => rfl) first
        (Except.ok.inj done) ?_
      · exact ⟨congrArg _ split.1, congrArg _ split.2⟩
      intro address here value member twice
      have absent {source : String × Node} (inside : source ∈ rest)
          (same : (ownObject value.2).map Prod.fst = (ownObject source.2).map Prod.fst) :
          False := by
        rw [same] at twice
        obtain ⟨object, own, same⟩ := mem_map.1 twice
        exact apart address (mem_append_left _ here) address
          (mem_map.2 ⟨object, own_mem_innerFields inside own, same⟩) rfl
      rcases mem_append.1 member with member | member
      · obtain ⟨source, inside, same⟩ := pruneFields_from second member
        exact absent inside same
      · obtain ⟨source, inside, rfl⟩ := prunedFields_from member
        exact absent inside (ownObject_pruned source.2)
    · rintro ⟨first, second⟩
      rw [first, second]
      cases drop : dropped (meets checker options) field.2 <;> rfl

end

end Exact

section Left

variable {isMatch : Fields → Bool}

theorem KeptFrom.mono {first second : List Object} {object : Object} (part : first ⊆ second)
    (kept : KeptFrom isMatch first object) : KeptFrom isMatch second object := by
  obtain ⟨fields, member, found⟩ := kept
  exact ⟨fields, part member, found⟩

theorem ownObject_kept {node : Node} {object : Object} (stays : dropped isMatch node = false)
    (member : object ∈ ownObject (pruned isMatch node)) :
    KeptFrom isMatch (ownObject node) object := by
  cases node with
  | object address fields =>
    cases mem_singleton.1 member
    exact ⟨fields, mem_singleton_self _, stays, rfl⟩
  | _ => cases member

mutual

theorem innerObjects_kept : ∀ node, ∀ object ∈ innerObjects (pruned isMatch node),
    KeptFrom isMatch (innerObjects node) object
  | .array items, object, member => itemObjects_kept items object member
  | .object _ fields, object, member => fieldObjects_kept fields object member
  | .null, _, member => by cases member
  | .bool _, _, member => by cases member
  | .number _ _, _, member => by cases member
  | .string _, _, member => by cases member

theorem itemObjects_kept : ∀ items,
    ∀ object ∈ reachedItems (fun _ => false) (prunedItems isMatch items),
      KeptFrom isMatch (reachedItems (fun _ => false) items) object
  | [], _, member => by cases member
  | item :: rest, object, member => by
    rw [prunedItems] at member
    split at member
    · exact (itemObjects_kept rest object member).mono (by simp [reachedItems])
    rename_i stays
    simp only [Option.toList_some, singleton_append, reachedItems, dropped_none, mem_append,
      Bool.false_eq_true, if_false] at member
    rcases member with (own | inner) | later
    · exact (ownObject_kept (Bool.of_not_eq_true stays) own).mono (by simp [reachedItems])
    · exact (innerObjects_kept item object inner).mono (by
        simp [reachedItems, dropped_none, innerObjects])
    · exact (itemObjects_kept rest object later).mono (by simp [reachedItems])

theorem fieldObjects_kept : ∀ fields,
    ∀ object ∈ reachedFields (fun _ => false) (prunedFields isMatch fields),
      KeptFrom isMatch (reachedFields (fun _ => false) fields) object
  | [], _, member => by cases member
  | field :: rest, object, member => by
    rw [prunedFields] at member
    split at member
    · exact (fieldObjects_kept rest object member).mono (by simp [reachedFields])
    rename_i stays
    simp only [Option.toList_some, singleton_append, reachedFields, dropped_none, mem_append,
      Bool.false_eq_true, if_false] at member
    rcases member with (own | inner) | later
    · exact (ownObject_kept (Bool.of_not_eq_true stays) own).mono (by simp [reachedFields])
    · exact (innerObjects_kept field.2 object inner).mono (by
        simp [reachedFields, dropped_none, innerObjects])
    · exact (fieldObjects_kept rest object later).mono (by simp [reachedFields])

end

end Left

theorem pruneObjectsNode_root_iff (checker : Checker) (options : PruneObjectsOptions)
    (recursive : options.recursive = true) (node : Node) (distinct : Distinct node) :
    pruneObjectsNode checker options true node =
        .ok (some (pruned (meets checker options) node)) ↔
      (∀ root ∈ ownObject node, ∃ answer,
        shouldPruneObject checker options (jsonFields root.2) = .ok answer) ∧
      ∀ object ∈ reached (meets checker options) node, Unswayed checker options object := by
  cases node with
  | array items =>
    rw [pruneObjectsNode]
    simp only [ownObject, pruned, reached, not_mem_nil, false_imp_iff, implies_true, true_and]
    rw [← pruneItems_iff recursive items distinct]
    cases pruneItems checker options items <;> simp [bind, Except.bind]
  | object address fields =>
    simp only [ownObject, pruned, reached, forall_mem_singleton]
    rw [← pruneFields_iff recursive fields distinct, pruneObjectsNode]
    cases shouldPruneObject checker options (jsonFields fields) with
    | error cause => simp [bind, Except.bind]
    | ok answer =>
      cases pruneFields checker options fields <;> simp [bind, Except.bind, recursive]
  | _ => simp [pruneObjectsNode, pruned, ownObject, reached]

/-- An override that only prunes the body, by conditions that the context does not sway, leaves
the objects that do not match by their own fields, and the headers as they were. -/
theorem prune_operation_removes (others : Primitives Node)
    (checkerIn : OverrideContext → Checker) (context : OverrideContext) (node : Node)
    (distinct : Distinct node) {op : ParamOperation} (mode : op.mode = .body "prune_objects")
    (whole : op.path = "") (always : op.conditions = []) {options : PruneObjectsOptions}
    (parsed : parsePruneObjectsOptions op.value = .ok options)
    (recursive : options.recursive = true)
    (answered : ∀ root ∈ ownObject node, ∃ answer,
      shouldPruneObject (checkerIn context) options (jsonFields root.2) = .ok answer)
    (unswayed : ∀ object ∈ reached (meets (checkerIn context) options) node,
      Unswayed (checkerIn context) options object) :
    applyEach (withPruning others checkerIn) node context [op] =
      .ok (pruned (meets (checkerIn context) options) node, context) := by
  have removed := (pruneObjectsNode_root_iff (checkerIn context) options recursive node distinct).2
    ⟨answered, unswayed⟩
  simp [applyEach, applyMode, withPruning, checkConditions, always, mode, whole, parsed, removed,
    bind, Except.bind, Except.map]

/-- gjson for paths that are single keys, and equality of texts. -/
def plainChecker (context : Fields) : Checker where
  lookup node path := node.lookup (String.ofList path)
  contextGet path := context.lookup path
  compareGjsonValues value target _ :=
    match value, target with
    | .string text, .string expected => .ok (text = expected)
    | _, _ => .error (.message "compare for different types")

def byModel : PruneObjectsOptions :=
  { conditions := [{ path := "model", mode := "full", value := .string "gpt-4" }] }

def hello : Node := .array [.object 1 [("role", .string "user")]]

/-- Models of their own: the first is removed, whatever the context has. -/
def named : Node :=
  .array [.object 1 [("model", .string "gpt-4")], .object 2 [("model", .string "other")]]

end NewApi.PruneObjects
