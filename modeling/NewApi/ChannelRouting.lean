import NewApi.ChannelSelect
import NewApi.ChannelStatus
import NewApi.Table

/-!
The routing table of the channel cache (model/channel_cache.go). `InitChannelCache` builds it
from the channels of the database, a status change takes a channel out of it. The parts of a
comma-separated list are a list here. What a rebuild finds in the database is a parameter of it,
so nothing is said here about when a status change reaches the stored row.
-/

namespace NewApi.ChannelRouting

open ChannelSelect ChannelStatus Runs
open List hiding after

structure Entry extends ChannelStatus.Channel where
  route : NewApi.Channel
  groups : List String
  models : List String

def Entry.id (entry : Entry) : Int := entry.route.id

structure Cache where
  -- `group2model2channels`
  candidates : String → String → List Int := fun _ _ => []
  -- `channelsIDM`
  entries : Int → Option Entry := fun _ => none

def empty : Cache := {}

variable (cache : Cache)

/-- The table as channel selection reads it. -/
def Cache.routing (routes : Int → Option (String → String → Bool))
    (formatMatchingModelName : String → String) : ChannelCache where
  candidates := cache.candidates
  channel id := (cache.entries id).map Entry.route
  routes
  formatMatchingModelName

/-- A channel once for every place its two lists give it under a group and model. -/
def listed (group model : String) (entry : Entry) : List Entry :=
  if entry.status = .enabled then
    ((entry.groups.product entry.models).filter (· = (group, model))).map fun _ => entry
  else []

/-- A group that no ability row has is a write to a nil map: the rebuild panics and publishes
nothing. -/
def initChannelCache (channels : Table Entry.id) (abilityGroups : List String) : Cache :=
  if ∀ entry ∈ channels.rows, entry.status = .enabled → ∀ group ∈ entry.groups,
      group ∈ abilityGroups then
    { candidates := fun group model => ((channels.rows.flatMap (listed group model)).insertionSort
        fun left right => right.route.priority ≤ left.route.priority).map Entry.id
      entries := channels.find? }
  else cache

/-- Only the first place of the channel in each list is removed. -/
def cacheUpdateChannelStatus (id : Int) (status : Status) : Cache where
  entries other := (cache.entries other).map fun entry =>
    if other = id then { entry with status } else entry
  candidates group model :=
    if status = .enabled then cache.candidates group model
    else (cache.candidates group model).erase id

def cacheMutateChannel (id : Int) (mutate : Entry → Entry) : Cache :=
  { cache with entries := fun other => (cache.entries other).map fun entry =>
      if other = id then mutate entry else entry }

/-- The part of `UpdateChannelStatus` that works on the cache. -/
def updateChannelStatus (id : Int) (usingKey : String) (status : Status) : Cache :=
  match cache.entries id with
  | none => cache
  | some entry =>
    if entry.isMultiKey = false ∧ entry.status = status then cache
    else
      let changed := withStatus entry.toChannel usingKey status
      let cache := cacheMutateChannel cache id fun entry => { entry with toChannel := changed }
      if entry.status = changed.status then cache
      else cacheUpdateChannelStatus cache id changed.status

inductive Call where
  | initChannelCache (channels : Table Entry.id) (abilityGroups : List String)
  | cacheUpdateChannelStatus (id : Int) (status : Status)
  | cacheMutateChannel (id : Int) (mutate : Entry → Entry)
  | updateChannelStatus (id : Int) (usingKey : String) (status : Status)

def step : Call → Cache
  | .initChannelCache channels abilityGroups => initChannelCache cache channels abilityGroups
  | .cacheUpdateChannelStatus id status => cacheUpdateChannelStatus cache id status
  | .cacheMutateChannel id mutate => cacheMutateChannel cache id mutate
  | .updateChannelStatus id usingKey status => updateChannelStatus cache id usingKey status

/-- No list of a channel repeats an entry, and a mutation leaves identifier and status alone. -/
def Tidy : Call → Prop
  | .initChannelCache channels _ =>
    ∀ entry ∈ channels.rows, entry.status = .enabled → entry.groups.Nodup ∧ entry.models.Nodup
  | .cacheMutateChannel _ mutate =>
    ∀ entry, (mutate entry).id = entry.id ∧ (mutate entry).status = entry.status
  | _ => True

structure Sound (cache : Cache) : Prop where
  own : ∀ id, ∀ entry ∈ cache.entries id, entry.id = id
  single : ∀ group model, (cache.candidates group model).Nodup
  enabled : ∀ id, ∀ entry ∈ cache.entries id, entry.status ≠ .enabled →
    ∀ group model, id ∉ cache.candidates group model

theorem listed_sublist {group model : String} {entry : Entry}
    (distinct : entry.status = .enabled → entry.groups.Nodup ∧ entry.models.Nodup) :
    (listed group model entry).Sublist [entry] := by
  unfold listed
  split
  next up =>
    obtain ⟨groups, models⟩ := distinct up
    have once := nodup_iff_count_le_one.mp (groups.product models) (group, model)
    rw [filter_eq, map_replicate]
    exact (replicate_sublist_replicate entry).mpr once
  · exact nil_sublist _

theorem flatMap_sublist {f : Entry → List Entry} {rows : List Entry}
    (each : ∀ entry ∈ rows, (f entry).Sublist [entry]) : (rows.flatMap f).Sublist rows := by
  induction rows with
  | nil => exact List.Sublist.refl _
  | cons entry rest ih =>
    rw [forall_mem_cons] at each
    exact each.1.append (ih each.2)

variable {cache} {after : Cache}

theorem Sound.init {channels : Table Entry.id} {abilityGroups : List String} (sound : Sound cache)
    (tidy : Tidy (.initChannelCache channels abilityGroups)) :
    Sound (initChannelCache cache channels abilityGroups) := by
  unfold initChannelCache
  split
  · constructor
    case own => exact fun id entry found => (Table.find?_mem found).2
    case single =>
      intro group model
      have part : (channels.rows.flatMap (listed group model)).Sublist channels.rows :=
        flatMap_sublist fun entry member => listed_sublist (tidy entry member)
      exact (((perm_insertionSort _ _).map Entry.id).nodup_iff).mpr
        (channels.unique.sublist (part.map Entry.id))
    case enabled =>
      rintro id entry found down group model present
      obtain ⟨other, sorted, rfl⟩ := mem_map.mp present
      obtain ⟨row, member, place⟩ := mem_flatMap.mp ((mem_insertionSort _).mp sorted)
      unfold listed at place
      split at place
      next up =>
        obtain ⟨_, _, rfl⟩ := mem_map.mp place
        have same := Table.eq_of_key member (Table.find?_mem found).1 (Table.find?_mem found).2.symm
        exact down (same ▸ up)
      · cases place
  · exact sound

/-- A step that changes the entry of one channel and takes it out of the lists when it is not
enabled. -/
theorem Sound.changed (sound : Sound cache) (id : Int) (change : Entry → Entry)
    (entries : ∀ other, after.entries other =
      (cache.entries other).map fun entry => if other = id then change entry else entry)
    (keeps : ∀ entry, (change entry).id = entry.id)
    (lists : ∀ group model, (after.candidates group model).Sublist (cache.candidates group model))
    (off : ∀ entry ∈ cache.entries id, (change entry).status ≠ .enabled →
      ∀ group model, id ∉ after.candidates group model) : Sound after := by
  constructor
  case own =>
    intro other entry found
    rw [entries] at found
    obtain ⟨before, held, rfl⟩ := Option.mem_map.mp found
    split
    · exact (keeps before).trans (sound.own other before held)
    · exact sound.own other before held
  case single => exact fun group model => (sound.single group model).sublist (lists group model)
  case enabled =>
    intro other entry found down group model
    rw [entries] at found
    obtain ⟨before, held, rfl⟩ := Option.mem_map.mp found
    split at down
    next same => exact same ▸ off before (same ▸ held) down group model
    · exact fun present =>
        sound.enabled other before held down group model ((lists group model).subset present)

theorem erased (cache : Cache) (id : Int) (status : Status) (group model : String) :
    ((cacheUpdateChannelStatus cache id status).candidates group model).Sublist
      (cache.candidates group model) := by
  unfold cacheUpdateChannelStatus
  split
  · exact List.Sublist.refl _
  · exact erase_sublist

theorem Sound.erased_off {status : Status} (sound : Sound cache) (id : Int)
    (down : status ≠ .enabled) (group model : String) :
    id ∉ (cacheUpdateChannelStatus cache id status).candidates group model := by
  simp only [cacheUpdateChannelStatus, if_neg down]
  exact (sound.single group model).not_mem_erase

theorem Sound.step {call : Call} (tidy : Tidy call) (sound : Sound cache) :
    Sound (step cache call) := by
  cases call with
  | initChannelCache channels abilityGroups => exact sound.init tidy
  | cacheUpdateChannelStatus id status =>
    exact sound.changed id _ (fun _ => rfl) (fun _ => rfl) (erased cache id status)
      fun _ _ down => sound.erased_off id down
  | cacheMutateChannel id mutate =>
    refine sound.changed id _ (fun _ => rfl) (fun entry => (tidy entry).1)
      (fun _ _ => List.Sublist.refl _) ?_
    intro entry found down
    rw [(tidy entry).2] at down
    exact sound.enabled id entry found down
  | updateChannelStatus id usingKey status =>
    simp only [ChannelRouting.step, updateChannelStatus]
    split
    · exact sound
    next entry found =>
      split
      · exact sound
      split
      next kept =>
        refine sound.changed id _ (fun _ => rfl) (fun _ => rfl) (fun _ _ => List.Sublist.refl _) ?_
        intro _ _ down
        exact sound.enabled id entry found (kept ▸ down)
      · apply sound.changed id fun before =>
          { before with toChannel := withStatus entry.toChannel usingKey status }
        · intro other
          simp only [cacheUpdateChannelStatus, cacheMutateChannel, Option.map_map]
          congr
          funext before
          by_cases same : other = id <;> simp [same]
        · exact fun _ => rfl
        · exact erased cache id _
        · exact fun _ _ down => sound.erased_off id down

/-- A channel that is not enabled is not selected, in every run in which no channel repeats a
group or a model. -/
theorem disabled_not_selected (calls : List Call) (tidy : ∀ call ∈ calls, Tidy call)
    (routes : Int → Option (String → String → Bool)) (formatMatchingModelName : String → String)
    (group model requestPath : String) (retry draw : Nat) (channel : NewApi.Channel)
    (selected : getRandomSatisfiedChannel
      ((run step empty calls).routing routes formatMatchingModelName) group model requestPath retry
        draw = .ok (some channel)) :
    ∃ entry, (run step empty calls).entries channel.id = some entry ∧ entry.status = .enabled := by
  have initial : Sound empty := ⟨fun _ _ => nofun, fun _ _ => nodup_nil, fun _ _ => nofun⟩
  have sound : Sound (run step empty calls) :=
    run_invariant (fun _ _ => Sound.step) empty calls (AllSteps.of_forall tidy) initial
  obtain ⟨id, member, found⟩ := getRandomSatisfiedChannel_mem selected
  obtain ⟨name, part⟩ := eligible_sublist _ group model requestPath
  obtain ⟨entry, held, rfl⟩ := Option.map_eq_some_iff.mp found
  obtain rfl : entry.id = id := sound.own id entry held
  refine ⟨entry, held, ?_⟩
  by_contra down
  exact sound.enabled _ entry held down group name (part.subset member)

def sampleEntry (models : List String) : Entry :=
  { keys := ["k"], isMultiKey := false, route := { id := 1 }, groups := ["default"], models }

def disableAfterStart (models : List String) : List Call :=
  [.initChannelCache ⟨[sampleEntry models], nodup_singleton _⟩ ["default"],
    .updateChannelStatus 1 "k" .autoDisabled]

theorem disabled_not_selected_enabled :
    ∃ entry, (run step empty (disableAfterStart ["m", "n"] ++
      [.initChannelCache ⟨[sampleEntry ["m"]], nodup_singleton _⟩ ["default"]])).entries 1 =
        some entry ∧ entry.status = .enabled :=
  disabled_not_selected _ (by simp [disableAfterStart, Tidy, sampleEntry]) (fun _ => none) id
    "default" "m" "" 0 0 { id := 1 } rfl

/-- A model that is listed twice is taken out once. -/
theorem repeated_model_selected :
    getRandomSatisfiedChannel
        ((run step empty (disableAfterStart ["m", "m"])).routing (fun _ => none) id)
        "default" "m" "" 0 0 = .ok (some { id := 1 }) ∧
      ((run step empty (disableAfterStart ["m", "m"])).entries 1).map (fun entry => entry.status) =
        some .autoDisabled := by
  decide

end NewApi.ChannelRouting
