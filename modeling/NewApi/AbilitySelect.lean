import NewApi.ChannelSelect
import NewApi.Schema

/-!
Channel selection from the abilities table (`GetChannel` in model/ability.go), the path that is
taken without the memory cache. Rows of equal weight come in the order of the table. A failed
query is left out; the random number is an argument.
-/

namespace NewApi.AbilitySelect

open List

structure Ability where
  group : String
  model : String
  channelId : Int
  enabled : Bool := true
  priority : Int := 0
  weight : Nat := 0
  deriving DecidableEq

structure Store where
  abilities : Table fun row : Ability => (row.group, row.model, row.channelId)
  channel : Int → Option Channel
  -- The advanced custom configs with their `SupportsPathForModel`.
  routes : Int → Option (String → String → Bool) := fun _ => none

variable (store : Store) (group model requestPath : String) (retry : Nat)

def enabledRows : List Ability :=
  store.abilities.rows.filter fun row => row.group = group && row.model = model && row.enabled

def priorities : List Int :=
  ((enabledRows store group model).map Ability.priority).dedup.insertionSort (· ≥ ·)

def getPriority : Except String Int :=
  match (priorities store group model)[min retry ((priorities store group model).length - 1)]? with
  | none => .error "数据库一致性被破坏"
  | some priority => .ok priority

/-- The rows of one priority, heaviest first. -/
def rowsAt (priority : Int) : List Ability :=
  ((enabledRows store group model).filter (·.priority = priority)).insertionSort
    (fun one two => one.weight ≥ two.weight)

/-- The rows of the query. The first try takes `MAX(priority)`. -/
def getChannelQuery : Except String (List Ability) :=
  if retry = 0 then
    .ok (((priorities store group model).head?.map (rowsAt store group model)).getD [])
  else do
    let priority ← getPriority store group model retry
    .ok (rowsAt store group model priority)

variable (rows : List Ability)

def filterAbilitiesByRequestPathAndModel : List Ability :=
  if requestPath = "" then rows
  else rows.filter fun row =>
    match store.channel row.channelId with
    | none => true
    | some channel => !channel.advancedCustom ||
      match store.routes row.channelId with
      | none => false
      | some supports => supports requestPath model

def smoothedWeight (row : Ability) : Nat := row.weight + 10

def weightSum : Int := int64 (WeightedDraw.total smoothedWeight rows)

/-- The channel id of the walk, 0 if it selects none. -/
def drawChannelId (draw : Nat) : Except String Int :=
  if weightSum rows ≤ 0 then .error "invalid argument to Intn"
  else
    let chosen := WeightedDraw.walk (fun row => int64 (smoothedWeight row)) 1 rows
      (draw % weightSum rows)
    .ok ((chosen.map Ability.channelId).getD 0)

def candidates : Except String (List Ability) := do
  let rows ← getChannelQuery store group model retry
  .ok (filterAbilitiesByRequestPathAndModel store model requestPath rows)

def firstChannel (id : Int) : Except String (Option Channel) :=
  match store.channel id with
  | none => .error "record not found"
  | some channel => .ok (some channel)

def getChannel (draw : Nat) : Except String (Option Channel) := do
  let rows ← candidates store group model requestPath retry
  if rows = [] then .ok none
  else do
    let id ← drawChannelId rows draw
    firstChannel store id

variable {store group model requestPath retry} {rows}

theorem rowsAt_distinct (priority : Int) :
    ((rowsAt store group model priority).map Ability.channelId).Nodup := by
  have keys : ((enabledRows store group model).map
      fun row : Ability => (row.group, row.model, row.channelId)).Nodup :=
    (filter_sublist.map _).nodup store.abilities.unique
  have same : (enabledRows store group model).map
      (fun row : Ability => (row.group, row.model, row.channelId)) =
        ((enabledRows store group model).map Ability.channelId).map
          fun id => (group, model, id) := by
    rw [map_map]
    apply map_congr_left
    intro row member
    simp only [enabledRows, mem_filter, Bool.and_eq_true, decide_eq_true_eq] at member
    rw [member.2.1.1, member.2.1.2]
    rfl
  have distinct : ((enabledRows store group model).map Ability.channelId).Nodup :=
    Nodup.of_map _ (same ▸ keys)
  rw [rowsAt, ((perm_insertionSort _ _).map Ability.channelId).nodup_iff]
  exact (filter_sublist.map Ability.channelId).nodup distinct

/-- The primary key of the table separates the candidates by their channels. -/
theorem candidates_distinct (found : candidates store group model requestPath retry = .ok rows) :
    (rows.map Ability.channelId).Nodup := by
  have kept (queried : List Ability) (distinct : (queried.map Ability.channelId).Nodup) :
      ((filterAbilitiesByRequestPathAndModel store model requestPath queried).map
        Ability.channelId).Nodup := by
    unfold filterAbilitiesByRequestPathAndModel
    split
    · exact distinct
    · exact (filter_sublist.map Ability.channelId).nodup distinct
  unfold candidates getChannelQuery at found
  split at found
  · cases found
    apply kept
    cases (priorities store group model).head? with
    | none => exact nodup_nil
    | some priority => exact rowsAt_distinct priority
  · cases level : getPriority store group model retry with
    | error message =>
        rw [level] at found
        cases found
    | ok priority =>
        rw [level] at found
        cases found
        exact kept _ (rowsAt_distinct priority)

theorem getChannel_eq (found : candidates store group model requestPath retry = .ok rows)
    (some : rows ≠ []) (draw : Nat) : getChannel store group model requestPath retry draw =
      (drawChannelId rows draw).bind (firstChannel store) := by
  rw [getChannel, found]
  exact if_neg some

theorem drawChannelId_of_fits (some : rows ≠ [])
    (fits : WeightedDraw.total smoothedWeight rows ≤ maxInt64) (draw : Nat) :
    ∃ row ∈ rows, drawChannelId rows draw = .ok row.channelId ∧
      WeightedDraw.walk (fun row => smoothedWeight row) 1 rows
        ((draw % WeightedDraw.total smoothedWeight rows : Nat) : Int) = .some row := by
  have sum : weightSum rows = WeightedDraw.total smoothedWeight rows :=
    int64_of_mem (by omega) fits
  have positive : 0 < WeightedDraw.total smoothedWeight rows := by
    obtain ⟨row, rest, rfl⟩ := exists_cons_of_ne_nil some
    rw [WeightedDraw.total_cons, smoothedWeight]
    omega
  have below : ((draw % WeightedDraw.total smoothedWeight rows : Nat) : Int) <
      WeightedDraw.total smoothedWeight rows := by
    exact_mod_cast Nat.mod_lt draw positive
  have stops : (0 : Int) ≤ 1 := by decide
  obtain ⟨row, member, reached⟩ :=
    WeightedDraw.walk_found rows _ stops (Int.natCast_nonneg _) below fits
  have exact : WeightedDraw.walk (fun row => int64 (smoothedWeight row)) 1 rows
      ((draw % WeightedDraw.total smoothedWeight rows : Nat) : Int) = .some row := by
    rw [← reached]
    apply WeightedDraw.walk_congr
    intro row member
    have : smoothedWeight row ≤ _ := WeightedDraw.weight_le_total member
    exact int64_of_mem (by omega) (by omega)
  refine ⟨row, member, ?_, reached⟩
  rw [drawChannelId, sum, if_neg (by omega), ← Int.natCast_mod, exact]
  rfl

/-- Every draw gives the channel of a candidate, and a candidate's channel is given by as many
draws as its weight and ten. -/
def Exact (store : Store) (group model requestPath : String) (retry : Nat) (rows : List Ability) :
    Prop :=
  (∀ draw, ∃ row ∈ rows,
    getChannel store group model requestPath retry draw = firstChannel store row.channelId) ∧
  ∀ row ∈ rows, (List.range (weightSum rows).toNat).countP (fun draw =>
    getChannel store group model requestPath retry draw =
      firstChannel store row.channelId) = row.weight + 10

theorem firstChannel_inj {one two : Int} {channel : Channel}
    (held : store.channel one = some channel) (named : channel.id = one)
    (stored : ∃ channel, store.channel two = some channel ∧ channel.id = two)
    (same : firstChannel store one = firstChannel store two) : one = two := by
  obtain ⟨other, there, own⟩ := stored
  simp only [firstChannel, held, there, Except.ok.injEq, Option.some.injEq] at same
  rw [← named, ← own, same]

/-- The shares of exact draws do not exceed the draws, so the weights have not wrapped around. -/
theorem Exact.fits (exact : Exact store group model requestPath retry rows)
    (distinct : (rows.map fun row => firstChannel store row.channelId).Nodup) :
    WeightedDraw.total smoothedWeight rows ≤ maxInt64 := by
  have shares := WeightedDraw.sum_count_le_length distinct
    ((List.range (weightSum rows).toNat).map (getChannel store group model requestPath retry))
  rw [map_map, map_congr_left (g := smoothedWeight), length_map, length_range] at shares
  · have := int64_le (WeightedDraw.total smoothedWeight rows)
    have : weightSum rows ≤ maxInt64 := this
    have : (0 : Int) ≤ maxInt64 := by decide
    unfold WeightedDraw.total
    omega
  · intro row member
    rw [Function.comp_apply, count_eq_countP, countP_map]
    refine Eq.trans (countP_congr ?_) (exact.2 row member)
    simp

/-- The draw is exact for a single candidate whose weight and ten are an int64, and in no other
case: of two candidates or more the first one is given by a draw too many, since the walk stops
at 0. -/
theorem getChannel_exact_iff (found : candidates store group model requestPath retry = .ok rows)
    (some : rows ≠ [])
    (stored : ∀ row ∈ rows, ∃ channel, store.channel row.channelId = .some channel ∧
      channel.id = row.channelId) :
    Exact store group model requestPath retry rows ↔
      ∃ row, rows = [row] ∧ (row.weight + 10 : Nat) ≤ maxInt64 := by
  have ids := candidates_distinct found
  have apart : ∀ one ∈ rows, ∀ two ∈ rows,
      firstChannel store one.channelId = firstChannel store two.channelId → one = two := by
    intro one here two there same
    obtain ⟨channel, held, named⟩ := stored one here
    exact inj_on_of_nodup_map ids here there
      (firstChannel_inj held named (stored two there) same)
  constructor
  · intro exact
    have fits := exact.fits (ids.of_map.map_on apart)
    obtain ⟨first, rest, rfl⟩ := exists_cons_of_ne_nil some
    rcases eq_or_ne rest [] with rfl | more
    · exact ⟨first, rfl, by simpa [WeightedDraw.total, smoothedWeight] using fits⟩
    · -- The walk gives the first of several candidates one draw more than its share.
      have sum : weightSum (first :: rest) = WeightedDraw.total smoothedWeight (first :: rest) :=
        int64_of_mem (by omega) fits
      have room : 0 < WeightedDraw.total smoothedWeight rest := by
        obtain ⟨second, others, rfl⟩ := exists_cons_of_ne_nil more
        rw [WeightedDraw.total_cons, smoothedWeight]
        omega
      have share := exact.2 first mem_cons_self
      have count := WeightedDraw.countP_walk_first (nodup_cons.1 ids.of_map).1 room fits
      rw [sum, Int.toNat_natCast, countP_congr (q := fun draw =>
        WeightedDraw.walk (fun row => smoothedWeight row) 1 (first :: rest) (draw : Nat) =
          .some first), count] at share
      · unfold smoothedWeight at share
        omega
      · intro draw below
        obtain ⟨row, member, drawn, walked⟩ := drawChannelId_of_fits some fits draw
        rw [Nat.mod_eq_of_lt (mem_range.1 below)] at walked
        rw [getChannel_eq found some, drawn, walked, decide_eq_true_eq, decide_eq_true_eq,
          Option.some.injEq]
        exact ⟨apart row member first mem_cons_self, fun same => by rw [same]; rfl⟩
  · rintro ⟨row, rfl, fits⟩
    have single : WeightedDraw.total smoothedWeight [row] = row.weight + 10 := by
      simp [WeightedDraw.total, smoothedWeight]
    have every (draw : Nat) : getChannel store group model requestPath retry draw =
        firstChannel store row.channelId := by
      obtain ⟨other, member, drawn, -⟩ := drawChannelId_of_fits some (single ▸ fits) draw
      rw [getChannel_eq found some, drawn, mem_singleton.1 member]
      rfl
    refine ⟨fun draw => ⟨row, mem_cons_self, every draw⟩, ?_⟩
    intro other member
    rw [mem_singleton.1 member, countP_eq_length.2 (by simp [every]), length_range, weightSum,
      int64_of_mem (by omega) (single ▸ fits), single, Int.toNat_natCast]

def ability (channelId : Int) (weight : Nat) : Ability :=
  { group := "default", model := "gpt-4", channelId, weight }

def storing (rows : List Ability) : Store where
  abilities := .ofRows rows
  channel id := some { id }

theorem single_ability_exact :
    Exact (storing [ability 1 5]) "default" "gpt-4" "" 0 [ability 1 5] :=
  (@getChannel_exact_iff (storing [ability 1 5]) _ _ _ _ _ (by decide +kernel) (cons_ne_nil _ _)
    (by simp [storing, ability])).2 ⟨_, rfl, by decide⟩

theorem two_abilities_uneven :
    candidates (storing [ability 1 0, ability 2 0]) "default" "gpt-4" "" 0 =
        .ok [ability 1 0, ability 2 0] ∧
      weightSum [ability 1 0, ability 2 0] = 20 ∧
      ([1, 2].map fun id => (List.range 20).countP fun draw =>
        getChannel (storing [ability 1 0, ability 2 0]) "default" "gpt-4" "" 0 draw =
          .ok (some { id })) = [11, 9] := by
  decide +kernel

end NewApi.AbilitySelect
