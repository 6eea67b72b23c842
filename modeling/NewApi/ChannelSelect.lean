import Mathlib.Data.List.Dedup
import Mathlib.Data.List.Sort
import NewApi.MachineInt

/-!
Channel selection from the in-memory routing table (model/channel_cache.go): the
candidates of a group and model, the priority level of a retry, and the weighted
draw inside that level. The random number is an argument. Model-name
normalisation and the route match of advanced custom channels are parameters.
Sums and products of weights are int64, and `rand.Intn` fails without a positive range.
-/

namespace NewApi

open List

structure Channel where
  id : Int
  priority : Int := 0
  weight : Nat := 0
  -- Type 58, the only type whose candidates are checked against the request path.
  advancedCustom : Bool := false
  deriving DecidableEq

structure ChannelCache where
  -- `group2model2channels`
  candidates : String → String → List Int
  -- `channelsIDM`
  channel : Int → Option Channel
  -- `channel2advancedCustomConfig` with its `SupportsPathForModel`
  routes : Int → Option (String → String → Bool) := fun _ => none
  formatMatchingModelName : String → String := id

namespace ChannelSelect

variable (cache : ChannelCache) (channels : List Channel) (group model requestPath : String)
  (retry : Nat)

def servesPath (model : String) (id : Int) : Bool :=
  match cache.channel id with
  -- Kept, so that the consistency error below is raised.
  | none => true
  | some channel =>
    !channel.advancedCustom ||
      match cache.routes id with
      | none => false
      | some supports => supports requestPath model

def filterChannelsByRequestPathAndModel (ids : List Int) (requestPath model : String) : List Int :=
  if requestPath = "" then ids else ids.filter (servesPath cache requestPath model)

/-- The candidates under the exact model name or, when there is none, its normal form. -/
def eligible : List Int :=
  let exactly :=
    filterChannelsByRequestPathAndModel cache (cache.candidates group model) requestPath model
  if exactly = [] then
    filterChannelsByRequestPathAndModel cache
      (cache.candidates group (cache.formatMatchingModelName model)) requestPath model
  else exactly

def missingChannel (id : Int) : String :=
  s!"数据库一致性错误，渠道# {id} 不存在，请联系管理员修复"

def loadChannels (cache : ChannelCache) : List Int → Except String (List Channel)
  | [] => .ok []
  | id :: rest =>
    match cache.channel id with
    | none => .error (missingChannel id)
    | some channel => do
      let loaded ← loadChannels cache rest
      .ok (channel :: loaded)

def sortedUniquePriorities : List Int :=
  (channels.map Channel.priority).dedup.insertionSort (· ≥ ·)

/-- A retry past the last level stays on the last level. -/
def targetPriority : Option Int :=
  let priorities := sortedUniquePriorities channels
  priorities[min retry (priorities.length - 1)]?

variable (channel : Channel)

/-- `GetWeight`: the unsigned column read as an `int`. -/
def getWeight : Int := int64 channel.weight

def sumWeight : Int := int64 (channels.map getWeight).sum

/-- The smoothing factor and the adjustment added to every weight. -/
def smoothing : Int × Int :=
  if sumWeight channels = 0 then (1, 100)
  else if (sumWeight channels).tdiv channels.length < 10 then (100, 0)
  else (1, 0)

def totalWeight : Int :=
  let sum := if sumWeight channels = 0 then int64 (channels.length * 100) else sumWeight channels
  int64 (sum * (smoothing channels).1)

def pickByWeight : Int → Option Channel :=
  WeightedDraw.walk
    (fun channel => int64 (getWeight channel * (smoothing channels).1 + (smoothing channels).2)) 0
    channels

/-- The draw among the candidates of the target priority. -/
def drawTarget (draw : Nat) : Except String (Option Channel) :=
  if totalWeight channels ≤ 0 then .error "invalid argument to Intn"
  else
    match pickByWeight channels (draw % totalWeight channels) with
    | none => .error "channel not found"
    | some channel => .ok (some channel)

def atPriority (priority : Int) : List Channel :=
  channels.filter fun channel => channel.priority = priority

/-- The choice among two or more candidates; `draw` stands for the random source. -/
def choose (draw : Nat) : Except String (Option Channel) :=
  match targetPriority channels retry with
  | none => .error "no channel found"
  | some target =>
    if atPriority channels target = [] then
      .error s!"no channel found, group: {group}, model: {model}, priority: {target}"
    else drawTarget (atPriority channels target) draw

def getRandomSatisfiedChannel (draw : Nat) : Except String (Option Channel) :=
  match eligible cache group model requestPath with
  | [] => .ok none
  | [id] =>
    match cache.channel id with
    | none => .error (missingChannel id)
    | some channel => .ok (some channel)
  | ids => do
    let channels ← loadChannels cache ids
    choose channels group model retry draw

/-- A group can serve the model: it has a candidate and every candidate is loaded. -/
def offers : Bool :=
  let ids := eligible cache group model requestPath
  !ids.isEmpty && ids.all fun id => (cache.channel id).isSome

/-- The smoothing of weights without a bound. -/
def exactSmoothing : Nat × Nat :=
  let sum := WeightedDraw.total Channel.weight channels
  if sum = 0 then (1, 100) else if sum / channels.length < 10 then (100, 0) else (1, 0)

/-- The weight of a channel in the draw among the candidates of its priority. -/
def effectiveWeight : Nat :=
  channel.weight * (exactSmoothing channels).1 + (exactSmoothing channels).2

def exactTotal : Nat := WeightedDraw.total (effectiveWeight channels) channels

variable {channels}

theorem exactTotal_eq : exactTotal channels =
    WeightedDraw.total Channel.weight channels * (exactSmoothing channels).1 +
      channels.length * (exactSmoothing channels).2 := by
  have sum (factor adjustment : Nat) (items : List Channel) :
      WeightedDraw.total (fun channel => channel.weight * factor + adjustment) items =
        WeightedDraw.total Channel.weight items * factor + items.length * adjustment := by
    induction items with
    | nil => simp [WeightedDraw.total]
    | cons channel rest ih =>
        rw [WeightedDraw.total_cons, WeightedDraw.total_cons, length_cons, ih]
        ring
  exact sum _ _ _

theorem exactSmoothing_pos : 0 < (exactSmoothing channels).1 := by
  unfold exactSmoothing
  dsimp only
  split_ifs <;> decide

theorem exactTotal_pos (some : channels ≠ []) : 0 < exactTotal channels := by
  have length : 0 < channels.length := length_pos_iff.2 some
  rw [exactTotal_eq, exactSmoothing]
  split_ifs <;> omega

theorem effectiveWeight_eq_zero_iff :
    effectiveWeight channels channel = 0 ↔
      channel.weight = 0 ∧ ∃ other ∈ channels, 0 < other.weight := by
  have zero : WeightedDraw.total Channel.weight channels = 0 ↔
      ¬ ∃ other ∈ channels, 0 < other.weight := by
    simp [WeightedDraw.total, List.sum_eq_zero_iff, Nat.pos_iff_ne_zero]
  by_cases weightless : WeightedDraw.total Channel.weight channels = 0
  · rw [effectiveWeight, exactSmoothing, if_pos weightless]
    exact iff_of_false (by simp) fun both => zero.1 weightless both.2
  · have heavier := not_not.1 (zero.not.1 weightless)
    have positive := (@exactSmoothing_pos channels).ne'
    have plain : (exactSmoothing channels).2 = 0 := by
      rw [exactSmoothing, if_neg weightless]
      split_ifs <;> rfl
    simp [effectiveWeight, plain, positive, heavier]

variable {channel} {ids : List Int}

section Fits

variable (fits : exactTotal channels ≤ maxInt64)
include fits

theorem total_le_of_fits : WeightedDraw.total Channel.weight channels ≤ maxInt64 := by
  have scaled := Nat.le_mul_of_pos_right (WeightedDraw.total Channel.weight channels)
    (@exactSmoothing_pos channels)
  have below : WeightedDraw.total Channel.weight channels ≤ exactTotal channels := by
    rw [exactTotal_eq]
    omega
  omega

theorem getWeight_of_fits (member : channel ∈ channels) : getWeight channel = channel.weight := by
  have : channel.weight ≤ _ := WeightedDraw.weight_le_total member
  have := total_le_of_fits fits
  exact int64_of_mem (by omega) (by omega)

theorem sumWeight_of_fits :
    sumWeight channels = WeightedDraw.total Channel.weight channels := by
  rw [sumWeight, WeightedDraw.sum_eq_total fun channel member => getWeight_of_fits fits member]
  exact int64_of_mem (by omega) (total_le_of_fits fits)

theorem smoothing_of_fits : smoothing channels =
    (((exactSmoothing channels).1 : Int), ((exactSmoothing channels).2 : Int)) := by
  rw [smoothing, exactSmoothing, sumWeight_of_fits fits, Int.tdiv_eq_ediv_of_nonneg (by omega)]
  by_cases weightless : WeightedDraw.total Channel.weight channels = 0
  · simp [weightless]
  · by_cases light : WeightedDraw.total Channel.weight channels / channels.length < 10
    · rw [if_neg (by exact_mod_cast weightless), if_pos (by exact_mod_cast light),
        if_neg weightless, if_pos light]
      rfl
    · rw [if_neg (by exact_mod_cast weightless), if_neg (by exact_mod_cast light),
        if_neg weightless, if_neg light]
      rfl

theorem totalWeight_of_fits : totalWeight channels = exactTotal channels := by
  have shape := @exactTotal_eq channels
  rw [totalWeight, smoothing_of_fits fits, sumWeight_of_fits fits]
  dsimp only
  by_cases weightless : WeightedDraw.total Channel.weight channels = 0
  · have plain : exactSmoothing channels = (1, 100) := by simp [exactSmoothing, weightless]
    rw [weightless, plain, zero_mul, zero_add] at shape
    rw [shape] at fits
    push_cast at fits
    rw [weightless, plain, shape, Nat.cast_zero, if_pos rfl, Nat.cast_one, mul_one,
      @int64_of_mem (channels.length * 100) (by omega) fits]
    push_cast
    exact int64_of_mem (by omega) fits
  · have plain : (exactSmoothing channels).2 = 0 := by
      rw [exactSmoothing, if_neg weightless]
      split_ifs <;> rfl
    rw [plain, mul_zero, add_zero] at shape
    rw [if_neg (by exact_mod_cast weightless), shape]
    rw [shape] at fits
    rw [← Nat.cast_mul]
    exact int64_of_mem (by omega) fits

theorem pickByWeight_of_fits (randomWeight : Int) : pickByWeight channels randomWeight =
    WeightedDraw.walk (fun channel => effectiveWeight channels channel) 0 channels
      randomWeight := by
  apply WeightedDraw.walk_congr
  intro channel member
  have below : effectiveWeight channels channel ≤ exactTotal channels :=
    WeightedDraw.weight_le_total member
  rw [smoothing_of_fits fits, getWeight_of_fits fits member]
  dsimp only
  rw [← Nat.cast_mul, ← Nat.cast_add]
  exact int64_of_mem (by omega) (by unfold effectiveWeight at below; omega)

theorem drawTarget_of_fits (some : channels ≠ []) (draw : Nat) :
    ∃ channel ∈ channels, drawTarget channels draw = .ok (.some channel) ∧
      WeightedDraw.walk (fun channel => effectiveWeight channels channel) 0 channels
        ((draw % exactTotal channels : Nat) : Int) = .some channel := by
  have positive := exactTotal_pos some
  have below : ((draw % exactTotal channels : Nat) : Int) < exactTotal channels := by
    exact_mod_cast Nat.mod_lt draw positive
  obtain ⟨channel, member, found⟩ :=
    WeightedDraw.walk_found channels _ le_rfl (Int.natCast_nonneg _) below fits
  refine ⟨channel, member, ?_, found⟩
  rw [drawTarget, totalWeight_of_fits fits, if_neg (by omega), pickByWeight_of_fits fits,
    ← Int.natCast_mod, found]

theorem countP_drawTarget (some : channels ≠ []) (channel : Channel) :
    (List.range (exactTotal channels)).countP
        (fun draw => drawTarget channels draw = .ok (.some channel)) =
      channels.count channel * effectiveWeight channels channel := by
  rw [← WeightedDraw.countP_walk channels channel fits]
  apply countP_congr
  intro draw below
  obtain ⟨winner, _, drawn, walked⟩ := drawTarget_of_fits fits some draw
  rw [Nat.mod_eq_of_lt (mem_range.1 below)] at walked
  simp [drawn, walked]

end Fits

theorem drawTarget_mem {draw : Nat} {result : Option Channel}
    (drawn : drawTarget channels draw = .ok result) :
    ∃ channel ∈ channels, result = some channel := by
  unfold drawTarget at drawn
  split at drawn
  · cases drawn
  · split at drawn
    · cases drawn
    · rename_i channel picked
      cases drawn
      exact ⟨channel, WeightedDraw.mem_of_walk picked, rfl⟩

theorem mem_sortedUniquePriorities (priority : Int) :
    priority ∈ sortedUniquePriorities channels ↔
      ∃ channel ∈ channels, channel.priority = priority := by
  simp [sortedUniquePriorities]

theorem mem_atPriority {priority : Int} :
    channel ∈ atPriority channels priority ↔ channel ∈ channels ∧ channel.priority = priority := by
  simp [atPriority]

/-- The draw is made among the candidates of the target level, of which there is one. -/
theorem choose_eq (some : channels ≠ []) (group model : String) (retry : Nat) :
    ∃ target, targetPriority channels retry = .some target ∧ atPriority channels target ≠ [] ∧
      ∀ draw, choose channels group model retry draw =
        drawTarget (atPriority channels target) draw := by
  obtain ⟨first, rest, rfl⟩ := exists_cons_of_ne_nil some
  generalize held : first :: rest = channels
  have present : first.priority ∈ sortedUniquePriorities channels := by
    rw [mem_sortedUniquePriorities]
    exact ⟨first, by simp [← held], rfl⟩
  have level : min retry ((sortedUniquePriorities channels).length - 1) <
      (sortedUniquePriorities channels).length := by
    have := length_pos_of_mem present
    omega
  obtain ⟨target, chosen⟩ : ∃ target, targetPriority channels retry = .some target :=
    ⟨_, getElem?_eq_getElem level⟩
  obtain ⟨channel, listed, here⟩ := (mem_sortedUniquePriorities target).1 (mem_of_getElem? chosen)
  have nonempty : atPriority channels target ≠ [] := ne_nil_of_mem (mem_atPriority.2 ⟨listed, here⟩)
  refine ⟨target, chosen, nonempty, fun draw => ?_⟩
  simp only [choose, chosen]
  rw [if_neg nonempty]

/-- Every priority level is the target of some retry. -/
theorem targetPriority_surjective (member : channel ∈ channels) :
    ∃ retry, targetPriority channels retry = some channel.priority := by
  have present : channel.priority ∈ sortedUniquePriorities channels :=
    (mem_sortedUniquePriorities _).2 ⟨channel, member, rfl⟩
  obtain ⟨retry, level, found⟩ := getElem_of_mem present
  refine ⟨retry, ?_⟩
  rw [targetPriority, min_eq_left (by omega), getElem?_eq_getElem level, found]

/-- The channels of the listed ids, in their order. -/
def Loads (cache : ChannelCache) (ids : List Int) (channels : List Channel) : Prop :=
  ids.map cache.channel = channels.map some

theorem Loads.mem_iff (loads : Loads cache ids channels) (channel : Channel) :
    channel ∈ channels ↔ ∃ id ∈ ids, cache.channel id = some channel := by
  rw [← mem_map, loads]
  simp

theorem Loads.isSome (loads : Loads cache ids channels) {id : Int} (member : id ∈ ids) :
    (cache.channel id).isSome := by
  have image : cache.channel id ∈ channels.map some := loads ▸ mem_map_of_mem member
  obtain ⟨channel, -, held⟩ := mem_map.1 image
  rw [← held]
  rfl

theorem loadChannels_cases (cache : ChannelCache) (ids : List Int) :
    (∃ channels, loadChannels cache ids = .ok channels ∧ Loads cache ids channels) ∨
    ∃ id ∈ ids, cache.channel id = none ∧
      loadChannels cache ids = .error (missingChannel id) := by
  induction ids with
  | nil => exact .inl ⟨[], rfl, rfl⟩
  | cons id rest ih =>
    cases found : cache.channel id with
    | none => exact .inr ⟨id, mem_cons_self, found, by simp [loadChannels, found]⟩
    | some channel =>
      rcases ih with ⟨channels, done, loads⟩ | ⟨other, member, lost, failed⟩
      · refine .inl ⟨channel :: channels, by simp [loadChannels, found, done]; rfl, ?_⟩
        rw [Loads, map_cons, map_cons, found, loads]
      · exact .inr ⟨other, mem_cons_of_mem id member, lost,
          by simp [loadChannels, found, failed]; rfl⟩

/-- The channels of the candidates and the draw among them. -/
theorem getRandomSatisfiedChannel_several {cache : ChannelCache} {group model requestPath : String}
    (several : 2 ≤ (eligible cache group model requestPath).length) (retry draw : Nat) :
    getRandomSatisfiedChannel cache group model requestPath retry draw =
      (loadChannels cache (eligible cache group model requestPath)).bind fun channels =>
        choose channels group model retry draw := by
  unfold getRandomSatisfiedChannel
  match eligible cache group model requestPath, several with
  | first :: second :: rest, _ => rfl

theorem loadChannels_eq (loads : Loads cache ids channels) :
    loadChannels cache ids = .ok channels := by
  rcases loadChannels_cases cache ids with ⟨others, done, same⟩ | ⟨id, member, lost, -⟩
  · have equal : others = channels :=
      map_injective_iff.2 (Option.some_injective _) (same.symm.trans loads)
    rw [done, equal]
  · have listed : none ∈ ids.map cache.channel := mem_map.2 ⟨id, member, lost⟩
    rw [loads] at listed
    simp at listed

/-- How a call ends: there is no candidate, the table has lost one, there is just one, or one
is drawn. -/
theorem getRandomSatisfiedChannel_cases (draw : Nat) :
    (eligible cache group model requestPath = [] ∧
      getRandomSatisfiedChannel cache group model requestPath retry draw = .ok none) ∨
    (∃ id ∈ eligible cache group model requestPath, cache.channel id = none ∧
      getRandomSatisfiedChannel cache group model requestPath retry draw =
        .error (missingChannel id)) ∨
    ∃ channels, channels ≠ [] ∧ Loads cache (eligible cache group model requestPath) channels ∧
      ((∃ channel, channels = [channel] ∧ getRandomSatisfiedChannel cache group model requestPath
          retry draw = .ok (some channel)) ∨
        getRandomSatisfiedChannel cache group model requestPath retry draw =
          choose channels group model retry draw) := by
  unfold getRandomSatisfiedChannel
  match eligible cache group model requestPath with
  | [] => simp
  | [id] =>
    cases found : cache.channel id with
    | none => simp [found]
    | some channel => exact .inr (.inr ⟨[channel], by simp [found, Loads]⟩)
  | first :: second :: rest =>
    simp only
    rcases loadChannels_cases cache (first :: second :: rest) with
      ⟨channels, done, loads⟩ | ⟨id, member, lost, failed⟩
    · have nonempty : channels ≠ [] := by
        rintro rfl
        simp [Loads] at loads
      exact .inr (.inr ⟨channels, nonempty, loads, .inr (by rw [done]; rfl)⟩)
    · exact .inr (.inl ⟨id, member, lost, by rw [failed]; rfl⟩)

theorem getRandomSatisfiedChannel_mem {cache : ChannelCache} {group model requestPath : String}
    {retry draw : Nat}
    (returned : getRandomSatisfiedChannel cache group model requestPath retry draw =
      .ok (some channel)) :
    ∃ id ∈ eligible cache group model requestPath, cache.channel id = some channel := by
  rcases getRandomSatisfiedChannel_cases cache group model requestPath retry draw with
    ⟨-, none⟩ | ⟨_, _, -, failed⟩ | ⟨channels, nonempty, loads, ⟨only, rfl, single⟩ | chosen⟩
  · cases none.symm.trans returned
  · cases failed.symm.trans returned
  · cases single.symm.trans returned
    exact (loads.mem_iff cache _).1 mem_cons_self
  · obtain ⟨target, -, -, drawn⟩ := choose_eq nonempty group model retry
    rw [chosen, drawn] at returned
    obtain ⟨winner, among, same⟩ := drawTarget_mem returned
    cases same
    exact (loads.mem_iff cache _).1 (mem_atPriority.1 among).1

/-- No sum of weights that a call can form leaves the range of an int64: smoothing multiplies a
weight by at most 100, or adds 100. -/
def Bounded : Prop :=
  ∀ group model, WeightedDraw.total (fun id =>
    100 * (((cache.channel id).map Channel.weight).getD 0 + 1)) (cache.candidates group model) ≤
      maxInt64

theorem eligible_sublist :
    ∃ name, (eligible cache group model requestPath).Sublist (cache.candidates group name) := by
  have part (ids : List Int) :
      (filterChannelsByRequestPathAndModel cache ids requestPath model).Sublist ids := by
    unfold filterChannelsByRequestPathAndModel
    split
    · exact List.Sublist.refl _
    · exact filter_sublist
  unfold eligible
  dsimp only
  split
  · exact ⟨_, part _⟩
  · exact ⟨_, part _⟩

theorem effectiveWeight_le (channel : Channel) :
    effectiveWeight channels channel ≤ 100 * (channel.weight + 1) := by
  unfold effectiveWeight exactSmoothing
  dsimp only
  split_ifs <;> dsimp only <;> omega

variable {cache group model requestPath}

theorem Bounded.fits (bounded : Bounded cache)
    (loads : Loads cache (eligible cache group model requestPath) channels) (priority : Int) :
    exactTotal (atPriority channels priority) ≤ maxInt64 := by
  obtain ⟨name, part⟩ := eligible_sublist cache group model requestPath
  let cost (id : Int) : Nat := 100 * (((cache.channel id).map Channel.weight).getD 0 + 1)
  have same : (eligible cache group model requestPath).map cost =
      channels.map fun channel => 100 * (channel.weight + 1) := by
    have through := congrArg
      (map fun found : Option Channel => 100 * ((found.map Channel.weight).getD 0 + 1)) loads
    simpa [map_map, Function.comp_def] using through
  have bound : exactTotal (atPriority channels priority) ≤
      WeightedDraw.total cost (cache.candidates group name) := by
    calc exactTotal (atPriority channels priority)
        ≤ ((atPriority channels priority).map fun channel => 100 * (channel.weight + 1)).sum :=
          sum_le_sum fun channel _ => effectiveWeight_le channel
      _ ≤ (channels.map fun channel => 100 * (channel.weight + 1)).sum :=
          ((filter_sublist.map _).sum_le_sum fun _ _ => Nat.zero_le _)
      _ = ((eligible cache group model requestPath).map cost).sum := by rw [same]
      _ ≤ WeightedDraw.total cost (cache.candidates group name) :=
          ((part.map cost).sum_le_sum fun _ _ => Nat.zero_le _)
  exact (Int.ofNat_le.2 bound).trans (bounded group name)

/-- Whether a group serves the model depends on the table alone: neither on the retry number
nor on the draw. -/
theorem getRandomSatisfiedChannel_iff_offers (bounded : Bounded cache) (retry draw : Nat) :
    (∃ channel, getRandomSatisfiedChannel cache group model requestPath retry draw =
        .ok (some channel)) ↔ offers cache group model requestPath = true := by
  simp only [offers, Bool.and_eq_true, Bool.not_eq_true', isEmpty_eq_false_iff, all_eq_true]
  rcases getRandomSatisfiedChannel_cases cache group model requestPath retry draw with
    ⟨none, result⟩ | ⟨id, member, lost, result⟩ | ⟨channels, nonempty, loads, result⟩
  · exact iff_of_false (by simp [result]) fun some => some.1 none
  · exact iff_of_false (by simp [result]) fun all => by simpa [lost] using all.2 id member
  · have found : ∃ channel, getRandomSatisfiedChannel cache group model requestPath retry draw =
        .ok (some channel) := by
      rcases result with ⟨channel, -, single⟩ | chosen
      · exact ⟨channel, single⟩
      · obtain ⟨target, -, level, drawn⟩ := choose_eq nonempty group model retry
        obtain ⟨winner, -, won, -⟩ := drawTarget_of_fits (bounded.fits loads target) level draw
        exact ⟨winner, by rw [chosen, drawn, won]⟩
    obtain ⟨channel, returned⟩ := found
    obtain ⟨id, member, -⟩ := getRandomSatisfiedChannel_mem returned
    exact iff_of_true ⟨channel, returned⟩ ⟨ne_nil_of_mem member, fun _ => loads.isSome cache⟩

theorem countP_above {levels : List Int} {index : Nat} {level : Int}
    (sorted : levels.Pairwise (· > ·)) (found : levels[index]? = some level) :
    levels.countP (level < ·) = index := by
  induction levels generalizing index with
  | nil => simp at found
  | cons first rest ih =>
    obtain ⟨top, sorted⟩ := pairwise_cons.mp sorted
    cases index with
    | zero =>
      obtain rfl : first = level := by simpa using found
      have none : rest.countP (first < ·) = 0 := by
        rw [countP_eq_zero]
        intro other member
        have := top other member
        simp only [decide_eq_true_eq]
        omega
      simp [none]
    | succ index =>
      have later : rest[index]? = some level := by simpa using found
      have below := top level (mem_of_getElem? later)
      rw [countP_cons_of_pos (by simpa using below), ih sorted later]

theorem sortedUniquePriorities_perm (channels : List Channel) :
    (sortedUniquePriorities channels).Perm (channels.map Channel.priority).dedup :=
  perm_insertionSort (· ≥ ·) _

/-- The place of a level counts the levels above it. -/
theorem countP_of_level {index : Nat} {level : Int}
    (found : (sortedUniquePriorities channels)[index]? = some level) :
    (channels.map Channel.priority).dedup.countP (level < ·) = index := by
  have order := sortedUniquePriorities_perm channels
  have distinct : (sortedUniquePriorities channels).Nodup := order.nodup_iff.mpr (nodup_dedup _)
  have weak : (sortedUniquePriorities channels).Pairwise (· ≥ ·) := pairwise_insertionSort (· ≥ ·) _
  rw [← order.countP_eq]
  exact countP_above
    ((weak.and distinct).imp fun ⟨high, apart⟩ => lt_of_le_of_ne high (Ne.symm apart)) found

/-- `target` is the `retry`-th highest priority, or the lowest one. -/
def IsLevel (channels : List Channel) (retry : Nat) (target : Int) : Prop :=
  (∃ channel ∈ channels, channel.priority = target) ∧
    (channels.map Channel.priority).dedup.countP (target < ·) =
      min retry ((channels.map Channel.priority).dedup.length - 1)

theorem targetPriority_eq_some_iff {retry : Nat} {target : Int} :
    targetPriority channels retry = some target ↔ IsLevel channels retry target := by
  rw [IsLevel, ← mem_sortedUniquePriorities, ← (sortedUniquePriorities_perm channels).length_eq]
  constructor
  · intro chosen
    exact ⟨mem_of_getElem? chosen, countP_of_level chosen⟩
  · rintro ⟨member, place⟩
    obtain ⟨index, found⟩ := mem_iff_getElem?.1 member
    rw [countP_of_level found] at place
    rw [targetPriority, ← place, found]

variable (cache group model requestPath)

/-- At this retry the draw is from the sum of the effective weights of the target level, every
number gives a channel of that level, and each of them has as many numbers as its weight. -/
def Exact (retry : Nat) : Prop :=
  ∃ channels target, Loads cache (eligible cache group model requestPath) channels ∧
    IsLevel channels retry target ∧
    let targets := atPriority channels target
    totalWeight targets = exactTotal targets ∧
    (∀ draw, ∃ channel ∈ targets,
      getRandomSatisfiedChannel cache group model requestPath retry draw = .ok (some channel)) ∧
    ∀ channel ∈ targets, (List.range (exactTotal targets)).countP (fun draw =>
      getRandomSatisfiedChannel cache group model requestPath retry draw = .ok (some channel)) =
        effectiveWeight targets channel

/-- The effective weights of a level sum to an int64, and no channel with a share is listed
twice. -/
def Even (level : List Channel) : Prop :=
  exactTotal level ≤ maxInt64 ∧ ∀ channel ∈ level,
    level.count channel = 1 ∨ channel.weight = 0 ∧ ∃ other ∈ level, 0 < other.weight

instance (level : List Channel) : Decidable (Even level) := inferInstanceAs (Decidable (_ ∧ _))

variable {cache group model requestPath}

theorem getRandomSatisfiedChannel_draws {retry : Nat} {target : Int}
    (several : 2 ≤ (eligible cache group model requestPath).length)
    (loads : Loads cache (eligible cache group model requestPath) channels)
    (level : IsLevel channels retry target) (draw : Nat) :
    getRandomSatisfiedChannel cache group model requestPath retry draw =
      drawTarget (atPriority channels target) draw := by
  obtain ⟨channel, member, -⟩ := level.1
  obtain ⟨chosen, here, -, drawn⟩ := choose_eq (ne_nil_of_mem member) group model retry
  cases (targetPriority_eq_some_iff.2 level).symm.trans here
  rw [getRandomSatisfiedChannel_several several, loadChannels_eq cache loads]
  exact drawn draw

theorem share_eq_weight_iff (level : List Channel) (channel : Channel) :
    level.count channel * effectiveWeight level channel = effectiveWeight level channel ↔
      level.count channel = 1 ∨ channel.weight = 0 ∧ ∃ other ∈ level, 0 < other.weight := by
  rw [← effectiveWeight_eq_zero_iff, mul_left_eq_self₀]

/-- The draw is exact at every retry when the table has every candidate and at each of their
priorities the weights fit and no channel with a share is listed twice, and only then. -/
theorem getRandomSatisfiedChannel_exact_iff (cache : ChannelCache)
    (group model requestPath : String)
    (several : 2 ≤ (eligible cache group model requestPath).length) :
    (∀ retry, Exact cache group model requestPath retry) ↔
      ∃ channels, Loads cache (eligible cache group model requestPath) channels ∧
        ∀ channel ∈ channels, Even (atPriority channels channel.priority) := by
  constructor
  · intro exact
    obtain ⟨channels, -, loads, -⟩ := exact 0
    refine ⟨channels, loads, fun channel member => ?_⟩
    obtain ⟨retry, level⟩ := targetPriority_surjective member
    obtain ⟨others, target, same, reached, total, -, shares⟩ := exact retry
    cases map_injective_iff.2 (Option.some_injective _) (same.symm.trans loads)
    cases level.symm.trans (targetPriority_eq_some_iff.2 reached)
    have fits : exactTotal (atPriority channels channel.priority) ≤ maxInt64 :=
      total ▸ int64_le _
    refine ⟨fits, fun other listed => ?_⟩
    have share := shares other listed
    simp only [getRandomSatisfiedChannel_draws several loads reached] at share
    rw [countP_drawTarget fits (ne_nil_of_mem listed)] at share
    exact (share_eq_weight_iff _ other).1 share
  · rintro ⟨channels, loads, even⟩ retry
    have nonempty : channels ≠ [] := by
      rintro rfl
      have length := congrArg List.length loads
      simp only [length_map, length_nil] at length
      omega
    obtain ⟨target, chosen, level, -⟩ := choose_eq nonempty group model retry
    have reached := targetPriority_eq_some_iff.1 chosen
    obtain ⟨first, member, rfl⟩ := reached.1
    obtain ⟨fits, once⟩ := even first member
    have draws := getRandomSatisfiedChannel_draws several loads reached
    refine ⟨channels, first.priority, loads, reached, totalWeight_of_fits fits, ?_, ?_⟩
    · intro draw
      obtain ⟨winner, among, won, -⟩ := drawTarget_of_fits fits level draw
      exact ⟨winner, among, (draws draw).trans won⟩
    · intro channel listed
      simp only [draws]
      rw [countP_drawTarget fits level]
      exact (share_eq_weight_iff _ channel).2 (once channel listed)

def listing (ids : List Int) (weight : Nat) : ChannelCache where
  candidates _ _ := ids
  channel id := some { id, weight }

theorem two_channels_exact : Exact (listing [1, 2] 5) "" "" "" 0 := by
  have loads : Loads (listing [1, 2] 5) (eligible (listing [1, 2] 5) "" "" "")
      [{ id := 1, weight := 5 }, { id := 2, weight := 5 }] := rfl
  exact (getRandomSatisfiedChannel_exact_iff (listing [1, 2] 5) "" "" "" (by decide)).2
    ⟨_, loads, by decide⟩ 0

/-- A channel that is listed twice has two shares, and two weights of 2^62 have no positive sum. -/
theorem repeated_channel_drawn_twice :
    (List.range 30).countP (fun draw => getRandomSatisfiedChannel (listing [1, 1, 2] 10) "" "" "" 0
        draw = .ok (some { id := 1, weight := 10 })) = 20 ∧
      getRandomSatisfiedChannel (listing [1, 2] (2 ^ 62)) "" "" "" 0 0 =
        .error "invalid argument to Intn" := by
  decide +kernel

end ChannelSelect

end NewApi
