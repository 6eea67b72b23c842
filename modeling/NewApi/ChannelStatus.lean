import NewApi.Runs
import Mathlib.Logic.Function.Basic

/-!
The status of a channel and of its keys (model/channel.go). The key text is the list of keys
that `GetKeys` reads from it. Reasons and times of a change, which nothing here reads, are left
out.
-/

namespace NewApi.ChannelStatus

open Runs

inductive Status where
  | enabled
  | manuallyDisabled
  | autoDisabled
  deriving DecidableEq

structure Channel where
  keys : List String
  isMultiKey : Bool := true
  status : Status := .enabled
  -- `MultiKeyStatusList`; a key without an entry is enabled.
  statusList : Nat → Option Status := fun _ => none

def keyEnabled (statusList : Nat → Option Status) (index : Nat) : Bool :=
  match statusList index with
  | none | some .enabled => true
  | _ => false

def hasEnabledMultiKey (keys : List String) (statusList : Nat → Option Status) : Bool :=
  (List.range keys.length).any (keyEnabled statusList)

/-- An enabled key has no entry. -/
def entry (status : Status) : Option Status := if status = .enabled then none else some status

def setKey (statusList : Nat → Option Status) (index : Nat) (status : Status) :
    Nat → Option Status :=
  Function.update statusList index (entry status)

def handlerMultiKeyUpdate (channel : Channel) (usingKey : String) (status : Status) : Channel :=
  if channel.keys = [] then { channel with status }
  else match channel.keys.idxOf? usingKey with
    | none => if usingKey ≠ "" then channel else { channel with status }
    | some index =>
      let statusList := setKey channel.statusList index status
      if !hasEnabledMultiKey channel.keys statusList then
        { channel with statusList, status := .autoDisabled }
      else if status = .enabled then { channel with statusList, status := .enabled }
      else { channel with statusList }

/-- The channel of either kind after a call. -/
def withStatus (channel : Channel) (usingKey : String) (status : Status) : Channel :=
  if channel.isMultiKey then handlerMultiKeyUpdate channel usingKey status
  else { channel with status }

structure Node where
  cached : Option Channel
  row : Option Channel
  -- Whether the ability rows of the channel are enabled.
  abilities : Bool

variable (node : Node)

/-- `UpdateChannelStatus` with the memory cache; the result is what it reports. -/
def updateChannelStatus (usingKey : String) (status : Status) : Node × Bool :=
  match node.cached with
  | none => (node, false)
  | some cached =>
    if cached.isMultiKey = false ∧ cached.status = status then (node, false)
    else
      let node := { node with cached := some (withStatus cached usingKey status) }
      match node.row with
      | none => (node, false)
      | some row =>
        if row.status = status then (node, false)
        else
          let changed := withStatus row usingKey status
          ({ node with
              row := some changed
              abilities := if row.isMultiKey ∧ row.status = changed.status then node.abilities
                else status = .enabled }, true)

structure Call where
  usingKey : String
  status : Status

def step (call : Call) : Node :=
  (updateChannelStatus node call.usingKey call.status).1

/-- A multi-key channel that is auto-disabled when no key is enabled. -/
structure Kept (channel : Channel) : Prop where
  multi : channel.isMultiKey = true
  hasKey : channel.keys ≠ []
  status : channel.status = .autoDisabled ↔
    hasEnabledMultiKey channel.keys channel.statusList = false

/-- Both copies are the same, and the ability rows follow them. -/
def Agree : Prop :=
  ∃ channel, Kept channel ∧ node.cached = some channel ∧ node.row = some channel ∧
    (node.abilities = true ↔ channel.status = .enabled)

/-- A key is named, and a call for the status that the channel has does not change it. -/
def Plain (call : Call) : Prop :=
  call.usingKey ≠ "" ∧ ∀ channel ∈ node.row, channel.status = call.status →
    ∀ index ∈ channel.keys.idxOf? call.usingKey, channel.statusList index = entry call.status

instance (node : Node) (call : Call) : Decidable (Plain node call) :=
  inferInstanceAs (Decidable (_ ∧ _))

variable {status : Status}
variable {statusList : Nat → Option Status} {index : Nat} {keys : List String} {usingKey : String}
  {channel : Channel}

theorem keyEnabled_setKey (index : Nat) (other : Nat) :
    keyEnabled (setKey statusList index status) other =
      if other = index then decide (status = .enabled) else keyEnabled statusList other := by
  by_cases same : other = index
  · subst same
    cases status <;> simp [keyEnabled, setKey, entry]
  · simp [keyEnabled, setKey, same]

theorem hasEnabledMultiKey_setKey
    (left : hasEnabledMultiKey keys (setKey statusList index status) = true)
    (disables : status ≠ .enabled) : hasEnabledMultiKey keys statusList = true := by
  obtain ⟨other, member, enabled⟩ := List.any_eq_true.mp left
  rw [keyEnabled_setKey] at enabled
  split at enabled
  · exact absurd (of_decide_eq_true enabled) disables
  · exact List.any_eq_true.mpr ⟨other, member, enabled⟩

theorem hasEnabledMultiKey_enabled (found : keys.idxOf? usingKey = some index) :
    hasEnabledMultiKey keys (setKey statusList index .enabled) = true := by
  apply List.any_eq_true.mpr
  have inside : index < keys.length := (List.findIdx?_eq_some_iff_getElem.mp found).1
  exact ⟨index, List.mem_range.mpr inside, by simp [keyEnabled_setKey]⟩

/-- The channel after the key at a position has got a status. -/
def withKey (channel : Channel) (index : Nat) (status : Status) : Channel :=
  { channel with
    statusList := setKey channel.statusList index status
    status :=
      if hasEnabledMultiKey channel.keys (setKey channel.statusList index status) then
        if status = .enabled then .enabled else channel.status
      else .autoDisabled }

/-- Without such a key at most the status of the channel changes. -/
theorem handler_cases :
    (channel.keys.idxOf? usingKey = none ∧ ∃ other,
      handlerMultiKeyUpdate channel usingKey status = { channel with status := other } ∧
        (channel.keys ≠ [] → usingKey ≠ "" → other = channel.status)) ∨
      ∃ index, channel.keys.idxOf? usingKey = some index ∧
        handlerMultiKeyUpdate channel usingKey status = withKey channel index status := by
  unfold handlerMultiKeyUpdate withKey
  split
  next empty => exact .inl ⟨by rw [empty]; rfl, status, rfl, absurd empty⟩
  split
  next absent =>
    split
    · exact .inl ⟨absent, channel.status, rfl, fun _ _ => rfl⟩
    next unnamed => exact .inl ⟨absent, status, rfl, fun _ named => absurd named unnamed⟩
  next index found =>
    refine .inr ⟨index, found, ?_⟩
    dsimp only
    cases hasEnabledMultiKey channel.keys (setKey channel.statusList index status)
    · rfl
    · by_cases enables : status = .enabled <;> simp [enables]

section

variable (kept : Kept channel) (named : usingKey ≠ "")

include kept named

theorem Kept.handler :
    handlerMultiKeyUpdate channel usingKey status = channel ∨
      ∃ index, channel.keys.idxOf? usingKey = some index ∧
        handlerMultiKeyUpdate channel usingKey status = withKey channel index status := by
  refine handler_cases.imp_left ?_
  rintro ⟨-, other, changed, same⟩
  rw [changed, same kept.hasKey named]

theorem handler_kept :
    Kept (handlerMultiKeyUpdate channel usingKey status) := by
  rcases kept.handler named with same | ⟨index, found, changed⟩
  · rw [same]
    exact kept
  · rw [changed]
    refine ⟨kept.multi, kept.hasKey, ?_⟩
    unfold withKey
    by_cases left : hasEnabledMultiKey channel.keys (setKey channel.statusList index status)
    · by_cases enables : status = .enabled
      · simp [enables]
      · have before := hasEnabledMultiKey_setKey left enables
        simp [left, enables, kept.status, before]
    · simp [left]

theorem handler_same
    (plain : ∀ index ∈ channel.keys.idxOf? usingKey,
      channel.statusList index = entry channel.status) :
    handlerMultiKeyUpdate channel usingKey channel.status = channel := by
  rcases kept.handler named with same | ⟨index, found, changed⟩
  · exact same
  · have unchanged : setKey channel.statusList index channel.status = channel.statusList := by
      rw [setKey, ← plain index found, Function.update_eq_self]
    rw [changed, withKey, unchanged]
    have status := kept.status
    cases left : hasEnabledMultiKey channel.keys channel.statusList
    · rw [left] at status
      simp [← status.mpr rfl]
    · by_cases enables : channel.status = .enabled <;> simp [enables]
      simp [← enables]

theorem handler_moved
    (moved : channel.status ≠ (handlerMultiKeyUpdate channel usingKey status).status) :
    status = .enabled ↔ (handlerMultiKeyUpdate channel usingKey status).status = .enabled := by
  rcases kept.handler named with same | ⟨index, found, changed⟩
  · rw [same] at moved
    exact absurd rfl moved
  · rw [changed] at moved ⊢
    unfold withKey at moved ⊢
    by_cases enables : status = .enabled
    · subst enables
      simp [hasEnabledMultiKey_enabled found]
    · cases left : hasEnabledMultiKey channel.keys (setKey channel.statusList index status)
      · simp [enables]
      · simp [left, enables] at moved

end

theorem Agree.step {node : Node} {call : Call} (plain : Plain node call) (agree : Agree node) :
    Agree (step node call) := by
  obtain ⟨channel, kept, cached, row, abilities⟩ := agree
  obtain ⟨named, plain⟩ := plain
  have multi := kept.multi
  unfold ChannelStatus.step updateChannelStatus withStatus
  simp only [cached, row, multi]
  by_cases asked : channel.status = call.status
  · have same := handler_same kept named (fun index found => by
      rw [asked]; exact plain channel row asked index found)
    rw [asked] at same
    simp [asked, same]
    exact ⟨channel, kept, rfl, rfl, abilities⟩
  · simp [asked]
    refine ⟨_, handler_kept kept named, rfl, rfl, ?_⟩
    split
    next unmoved => rw [abilities, unmoved]
    next moved => simpa using handler_moved kept named moved

/-- The copies agree in every run in which each call names a key and none asks for the status that
the channel has but the key has not. -/
theorem statuses_agree (start : Node) (calls : List Call) (agree : Agree start)
    (plain : AllSteps step Plain start calls) : Agree (run step start calls) :=
  run_invariant (fun _ _ => Agree.step) start calls plain agree

def twoKeys : Node :=
  { cached := some { keys := ["a", "b"] }, row := some { keys := ["a", "b"] }, abilities := true }

theorem agree_twoKeys : Agree twoKeys :=
  ⟨_, ⟨rfl, by decide, by decide⟩, rfl, rfl, by decide⟩

def bothDown : List Call :=
  [⟨"a", .autoDisabled⟩, ⟨"b", .autoDisabled⟩, ⟨"b", .enabled⟩]

theorem statuses_agree_bothDown : Agree (run step twoKeys bothDown) :=
  statuses_agree twoKeys bothDown agree_twoKeys (by decide)

def downAndUp : List Call := [⟨"a", .autoDisabled⟩, ⟨"a", .enabled⟩]

/-- The cache enables the key again, and the row, whose channel is enabled, does not. -/
theorem enabled_key_stays_down : Agree twoKeys ∧ ¬Agree (run step twoKeys downAndUp) := by
  have apart : (run step twoKeys downAndUp).cached.map (fun channel => channel.statusList 0) ≠
      (run step twoKeys downAndUp).row.map (fun channel => channel.statusList 0) := by
    decide
  refine ⟨agree_twoKeys, ?_⟩
  rintro ⟨channel, -, cached, row, -⟩
  rw [cached, row] at apart
  exact apart rfl

end NewApi.ChannelStatus
