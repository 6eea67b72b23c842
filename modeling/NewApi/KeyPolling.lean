import NewApi.ChannelStatus
import Mathlib.Data.List.Rotate

/-!
The choice of a key (`GetNextEnabledKey` in model/channel.go). The lock of the channel makes each
call one step; the random number is an argument, and the result is the position of the key.
-/

namespace NewApi.KeyPolling

open ChannelStatus Runs List

inductive MultiKeyMode where
  | random
  | polling
  | unknown

structure State where
  channel : ChannelStatus.Channel
  mode : MultiKeyMode
  multiKeyPollingIndex : Int := 0
  -- The entry of the channel in `channelPollingCursors`.
  cursor : Option Nat := none

def enabledIdx (channel : ChannelStatus.Channel) : List Nat :=
  (range channel.keys.length).filter (keyEnabled channel.statusList)

def start (state : State) : Nat :=
  let start : Int := match state.cursor with
    | some cursor => cursor
    | none => state.multiKeyPollingIndex
  if start < 0 ∨ start ≥ state.channel.keys.length then 0 else start.toNat

/-- The positions in the order in which polling looks at them. -/
def order (count start : Nat) : List Nat :=
  (range count).map fun index => (start + index) % count

variable (state : State)

/-- The position, or the message of the error, and the cursor afterwards. -/
def getNextEnabledKey (draw : Nat) : Except String Nat × Option Nat :=
  let keys := state.channel.keys
  if !state.channel.isMultiKey then (.ok 0, state.cursor)
  else if keys.length = 0 then (.error "no keys available", state.cursor)
  else match enabledIdx state.channel with
    | [] => (.error "no enabled keys", state.cursor)
    | first :: more =>
      match state.mode with
      | .random =>
        let selected := ⟨draw % (more.length + 1), Nat.mod_lt _ (Nat.succ_pos _)⟩
        (.ok ((first :: more).get selected), state.cursor)
      | .polling =>
        match (order keys.length (start state)).find? (keyEnabled state.channel.statusList) with
        | some index => (.ok index, some ((index + 1) % keys.length))
        | none => (.ok first, state.cursor)
      | .unknown => (.ok first, state.cursor)

inductive Event where
  | status (usingKey : String) (status : Status)
  | next (draw : Nat)

def step : Event → State
  | .status usingKey status => { state with channel := withStatus state.channel usingKey status }
  | .next draw => { state with cursor := (getNextEnabledKey state draw).2 }

/-- The positions of consecutive calls. -/
def positions (state : State) : List Nat → List (Except String Nat)
  | [] => []
  | draw :: rest => (getNextEnabledKey state draw).1 :: positions (step state (.next draw)) rest

theorem order_eq_rotate (count start : Nat) :
    order count start = (range count).rotate start := by
  apply ext_getElem
  · simp [order]
  · intro index low high
    simp [order, getElem_rotate, Nat.add_comm]

/-- The enabled positions in the order in which polling meets them. -/
def ahead : List Nat :=
  (order state.channel.keys.length (start state)).filter (keyEnabled state.channel.statusList)

theorem ahead_perm : (ahead state).Perm (enabledIdx state.channel) := by
  rw [ahead, order_eq_rotate]
  exact (rotate_perm _ _).filter _

variable {count first : Nat} {after before more : List Nat}

/-- Polling that goes on behind a position looks at it last. -/
theorem order_behind {start : Nat} (split : order count start = before ++ first :: after) :
    order count ((first + 1) % count) = after ++ (before ++ [first]) := by
  have position : first = (start + before.length) % count := by
    have here : (order count start)[before.length]? = some first := by simp [split]
    obtain ⟨inside, found⟩ := List.getElem?_eq_some_iff.mp here
    simpa [order] using found.symm
  have next : (first + 1) % count = (start + (before ++ [first]).length) % count := by
    rw [position, Nat.mod_add_mod, length_append, Nat.add_assoc]
    rfl
  have turned := rotate_append_length_eq (before ++ [first]) after
  rw [append_assoc, singleton_append, ← split, order_eq_rotate, rotate_rotate,
    ← rotate_mod, length_range, ← next] at turned
  rw [order_eq_rotate, turned]

section
variable (state : State) (draw : Nat) (multi : state.channel.isMultiKey = true)
include multi

/-- A call returns the first enabled position ahead, which is then the last. -/
theorem next_polling (mode : state.mode = .polling) (next : ahead state = first :: more) :
    (getNextEnabledKey state draw).1 = .ok first ∧
      ahead (step state (.next draw)) = more ++ [first] := by
  obtain ⟨before, after, split, skipped, enabled, rfl⟩ := filter_eq_cons_iff.mp next
  have member := (ahead_perm state).subset (next ▸ mem_cons_self)
  have some : 0 < state.channel.keys.length := by grind [enabledIdx]
  have called : getNextEnabledKey state draw =
      (.ok first, .some ((first + 1) % state.channel.keys.length)) := by
    have found := find?_eq_some_iff_append.mpr
      ⟨enabled, before, after, split, by simpa using skipped⟩
    obtain ⟨other, rest, listed⟩ := exists_cons_of_ne_nil (ne_nil_of_mem member)
    simp [getNextEnabledKey, multi, mode, listed, found, some.ne']
  have moved : start (step state (.next draw)) = (first + 1) % state.channel.keys.length := by
    have := Nat.mod_lt (first + 1) some
    simp only [start, step, called]
    rw [if_neg (by omega), Int.toNat_natCast]
  refine ⟨congrArg Prod.fst called, ?_⟩
  have none := filter_eq_nil_iff.mpr skipped
  rw [ahead, moved]
  dsimp only [step]
  rw [order_behind split, filter_append, filter_append, none, nil_append,
    filter_cons_of_pos enabled, filter_nil]

theorem positions_polling (mode : state.mode = .polling) (front back draws : List Nat)
    (calls : draws.length = front.length) (next : ahead state = front ++ back) :
    positions state draws = front.map .ok := by
  induction front generalizing state draws back with
  | nil => rw [eq_nil_of_length_eq_zero calls]; rfl
  | cons first more ih =>
    obtain ⟨draw, draws, rfl⟩ := exists_cons_of_length_eq_add_one calls
    obtain ⟨returned, turned⟩ := next_polling state draw multi mode next
    rw [positions, returned, map_cons, ih (step state (.next draw)) multi mode
      (back ++ [first]) draws (Nat.succ.inj calls) (turned.trans (append_assoc ..))]

/-- A call of a channel with an enabled key returns an enabled position. -/
theorem next_enabled
    (some : hasEnabledMultiKey state.channel.keys state.channel.statusList = true) :
    ∃ position ∈ enabledIdx state.channel,
      (getNextEnabledKey state draw).1 = .ok position := by
  obtain ⟨index, listed, enabled⟩ := any_eq_true.mp some
  have inside := (Nat.zero_le _).trans_lt (mem_range.mp listed)
  obtain ⟨first, more, found⟩ : ∃ first more, enabledIdx state.channel = first :: more :=
    exists_cons_of_ne_nil (ne_nil_of_mem (mem_filter.mpr ⟨listed, enabled⟩))
  cases mode : state.mode with
  | random =>
    let selected : Fin (first :: more).length :=
      ⟨draw % (more.length + 1), Nat.mod_lt _ (Nat.succ_pos _)⟩
    refine ⟨(first :: more).get selected, ?_, ?_⟩
    · rw [found]
      exact get_mem _ _
    · simp [getNextEnabledKey, multi, inside.ne', found, mode, selected]
  | polling =>
    have perm := ahead_perm state
    have member : first ∈ ahead state := perm.mem_iff.mpr (found ▸ mem_cons_self)
    obtain ⟨next, rest, turn⟩ := exists_cons_of_ne_nil (ne_nil_of_mem member)
    exact ⟨next, perm.subset (turn ▸ mem_cons_self),
      (next_polling state draw multi mode turn).1⟩
  | unknown =>
    exact ⟨first, found ▸ mem_cons_self,
      by simp [getNextEnabledKey, multi, inside.ne', found, mode]⟩

end

/-- As many polling calls as there are enabled keys return each of their positions once, and no
call in any mode returns another position after any status changes and calls. -/
theorem keys_polled_fairly_and_enabled :
    (∀ (state : State) (draws : List Nat), state.channel.isMultiKey = true →
      state.mode = .polling → draws.length = (enabledIdx state.channel).length →
      (positions state draws).Perm ((enabledIdx state.channel).map .ok)) ∧
    ∀ (start : State) (events : List Event) (draw : Nat), let state := run step start events
      state.channel.isMultiKey = true →
      hasEnabledMultiKey state.channel.keys state.channel.statusList = true →
      ∃ position < state.channel.keys.length,
        (getNextEnabledKey state draw).1 = .ok position ∧
        keyEnabled state.channel.statusList position = true := by
  refine ⟨fun state draws multi mode calls => ?_, fun start events draw multi some => ?_⟩
  · have perm := ahead_perm state
    rw [positions_polling state multi mode (ahead state) [] draws
      (calls.trans perm.length_eq.symm) (append_nil _).symm]
    exact perm.map _
  · obtain ⟨position, member, returned⟩ := next_enabled _ draw multi some
    obtain ⟨inside, enabled⟩ := mem_filter.mp member
    exact ⟨position, mem_range.mp inside, returned, enabled⟩

/-- Three keys, the second of which is disabled. -/
def threeKeys : State where
  channel := { keys := ["a", "b", "c"], statusList := setKey (fun _ => none) 1 .autoDisabled }
  mode := .polling
  multiKeyPollingIndex := 1

theorem threeKeys_polled :
    (positions threeKeys [0, 0]).Perm ((enabledIdx threeKeys.channel).map .ok) ∧
      let state := run step threeKeys [.next 0, .status "c" .autoDisabled]
      ∃ position < state.channel.keys.length, (getNextEnabledKey state 0).1 = .ok position ∧
        keyEnabled state.channel.statusList position = true :=
  ⟨keys_polled_fairly_and_enabled.1 threeKeys [0, 0] rfl rfl rfl,
    keys_polled_fairly_and_enabled.2 threeKeys [.next 0, .status "c" .autoDisabled] 0 rfl rfl⟩

end NewApi.KeyPolling
