import NewApi.ChannelSelect

/-!
The use of a remembered channel (middleware/distributor.go, model/channel_satisfy.go): what
`Distribute` makes of the channel that affinity suggests, and whether the selector could have
returned it.
-/

namespace NewApi.ChannelAffinity

open ChannelSelect List

/-- `channelsIDM` holds each channel under its id, also a disabled one. -/
structure ChannelTable extends ChannelCache where
  enabled : Int → Bool
  keyed : ∀ id held, channel id = some held → held.id = id

variable (table : ChannelTable) (group model requestPath : String) (preferred : Channel)

def channelSupportsRequestPath : Bool :=
  !preferred.advancedCustom ||
    match table.routes preferred.id with
    | none => false
    | some supports => supports requestPath model

def isChannelEnabledForGroupModel (channelID : Int) : Bool :=
  if group = "" ∨ model = "" ∨ channelID ≤ 0 then false
  else if channelID ∈ table.candidates group model then true
  else
    let normalized := table.formatMatchingModelName model
    normalized ≠ "" && normalized ≠ model && channelID ∈ table.candidates group normalized

/-- What `Distribute` makes of the channel that affinity suggests: the channel and its group. -/
def useAffinity (autoGroups : List String) (preferredChannelID : Int) : Option (Channel × String) :=
  match table.channel preferredChannelID with
  | none => none
  | some preferred =>
    if table.enabled preferred.id && channelSupportsRequestPath table model requestPath preferred
    then
      let groups := if group = "auto" then autoGroups else [group]
      (groups.find? fun group => isChannelEnabledForGroupModel table group model preferred.id).map
        fun group => (preferred, group)
    else none

/-- An id that is listed under a model name and serves the path of the request. -/
def Passes (name : String) (id : Int) : Prop :=
  id ∈ table.candidates group name ∧
    (requestPath = "" ∨ servesPath table.toChannelCache requestPath model id = true)

/-- The name under which the channel is listed, the exact one first. -/
def listedName : String :=
  if preferred.id ∈ table.candidates group model then model
  else table.formatMatchingModelName model

/-- The channel is listed under the exact name or nothing that serves the path is, the table has
every channel listed beside it, and it has a weight or no rival of its priority has one. -/
structure Reachable : Prop where
  unshadowed : preferred.id ∈ table.candidates group model ∨
    ∀ id, ¬ Passes table group model requestPath model id
  loaded : ∀ id, Passes table group model requestPath (listedName table group model preferred) id →
    (table.channel id).isSome
  weighty : 0 < preferred.weight ∨ ∀ id rival,
    Passes table group model requestPath (listedName table group model preferred) id →
      table.channel id = some rival → rival.priority = preferred.priority → rival.weight = 0

theorem mem_filterChannels (name : String) (id : Int) :
    id ∈ filterChannelsByRequestPathAndModel table.toChannelCache (table.candidates group name)
      requestPath model ↔ Passes table group model requestPath name id := by
  unfold filterChannelsByRequestPathAndModel Passes
  split
  · simp [*]
  · simp [*]

/-- Among loaded channels one can be chosen when its weight counts at its level. -/
theorem choose_iff {channels : List Channel}
    (fits : ∀ priority, exactTotal (atPriority channels priority) ≤ maxInt64) (channel : Channel) :
    (∃ retry draw, choose channels group model retry draw = .ok (some channel)) ↔
      channel ∈ channels ∧
        0 < effectiveWeight (atPriority channels channel.priority) channel := by
  have count (priority : Int) (level : atPriority channels priority ≠ []) :=
    countP_drawTarget (fits priority) level channel
  constructor
  · rintro ⟨retry, draw, chosen⟩
    have nonempty : channels ≠ [] := by
      rintro rfl
      cases chosen
    obtain ⟨target, -, level, drawn⟩ := choose_eq nonempty group model retry
    rw [drawn] at chosen
    obtain ⟨_, among, same⟩ := drawTarget_mem chosen
    cases same
    obtain ⟨member, rfl⟩ := mem_atPriority.1 among
    have total := exactTotal_pos level
    obtain ⟨one, -, here, walked⟩ := drawTarget_of_fits (fits channel.priority) level draw
    obtain ⟨two, -, there, again⟩ := drawTarget_of_fits (fits channel.priority) level
      (draw % exactTotal (atPriority channels channel.priority))
    rw [Nat.mod_mod, walked] at again
    cases again
    refine ⟨member, Nat.pos_of_mul_pos_left
      (a := (atPriority channels channel.priority).count channel) ?_⟩
    rw [← count channel.priority level, countP_pos_iff]
    exact ⟨_, mem_range.2 (Nat.mod_lt draw total),
      decide_eq_true (there.trans (here.symm.trans chosen))⟩
  · rintro ⟨member, positive⟩
    obtain ⟨retry, here⟩ := targetPriority_surjective member
    obtain ⟨target, same, level, drawn⟩ := choose_eq (ne_nil_of_mem member) group model retry
    cases here.symm.trans same
    have among : channel ∈ atPriority channels channel.priority := mem_atPriority.2 ⟨member, rfl⟩
    have share := Nat.mul_pos (count_pos_iff.2 among) positive
    rw [← count channel.priority level, countP_pos_iff] at share
    obtain ⟨draw, -, won⟩ := share
    exact ⟨retry, draw, (drawn draw).trans (of_decide_eq_true won)⟩

variable {table group model requestPath preferred}

theorem getRandomSatisfiedChannel_iff (bounded : Bounded table.toChannelCache)
    (held : table.channel preferred.id = some preferred) :
    (∃ retry draw, getRandomSatisfiedChannel table.toChannelCache group model requestPath retry
        draw = .ok (some preferred)) ↔
      preferred.id ∈ eligible table.toChannelCache group model requestPath ∧
      (∀ id ∈ eligible table.toChannelCache group model requestPath, (table.channel id).isSome) ∧
      (0 < preferred.weight ∨
        ∀ id ∈ eligible table.toChannelCache group model requestPath, ∀ rival,
          table.channel id = some rival → rival.priority = preferred.priority →
            rival.weight = 0) := by
  have own : ∀ id, table.channel id = some preferred ↔ preferred.id = id := fun id =>
    ⟨table.keyed id preferred, fun same => same ▸ held⟩
  have fits (channels : List Channel)
      (loads : Loads table.toChannelCache (eligible table.toChannelCache group model requestPath)
        channels) := bounded.fits loads
  unfold getRandomSatisfiedChannel
  generalize eligible table.toChannelCache group model requestPath = ids at fits ⊢
  match ids, fits with
  | [], _ => simp
  | [id], _ =>
    by_cases same : preferred.id = id
    · simp [← same, held]
      omega
    · have other := (own id).not.2 same
      cases found : table.channel id <;> simp_all
  | first :: second :: rest, fits =>
    rcases loadChannels_cases table.toChannelCache (first :: second :: rest) with
      ⟨channels, done, loads⟩ | ⟨id, member, lost, failed⟩
    · simp only [done]
      refine (choose_iff group model (fits channels loads) preferred).trans ?_
      have weighty : 0 < effectiveWeight (atPriority channels preferred.priority) preferred ↔
          (0 < preferred.weight ∨ ∀ id ∈ first :: second :: rest, ∀ rival,
            table.channel id = some rival → rival.priority = preferred.priority →
              rival.weight = 0) := by
        rw [Nat.pos_iff_ne_zero, Ne, effectiveWeight_eq_zero_iff, not_and_or, not_exists,
          ← Ne, ← Nat.pos_iff_ne_zero]
        refine or_congr_right ⟨fun light id listed rival found level => ?_, fun light rival => ?_⟩
        · have member := (loads.mem_iff _ rival).2 ⟨id, listed, found⟩
          simpa [mem_atPriority, member, level] using light rival
        · rintro ⟨among, heavy⟩
          obtain ⟨member, level⟩ := mem_atPriority.1 among
          obtain ⟨id, listed, found⟩ := (loads.mem_iff _ rival).1 member
          exact heavy.ne' (light id listed rival found level)
      have listed : (∃ id ∈ first :: second :: rest, table.channel id = some preferred) ↔
          preferred.id ∈ first :: second :: rest := by
        simp [own]
      rw [loads.mem_iff, listed, weighty]
      exact ⟨fun ⟨member, heavy⟩ => ⟨member, fun _ => loads.isSome _, heavy⟩,
        fun ⟨member, _, heavy⟩ => ⟨member, heavy⟩⟩
    · simp only [failed]
      refine iff_of_false (by rintro ⟨_, _, ⟨⟩⟩) fun all => ?_
      simpa [lost] using all.2.1 id member

theorem mem_eligible_iff
    (passes : Passes table group model requestPath (listedName table group model preferred)
      preferred.id)
    (unshadowed : preferred.id ∈ table.candidates group model ∨
      ∀ id, ¬ Passes table group model requestPath model id) (id : Int) :
    id ∈ eligible table.toChannelCache group model requestPath ↔
      Passes table group model requestPath (listedName table group model preferred) id := by
  simp only [eligible]
  split
  · rename_i none
    have elsewhere : preferred.id ∉ table.candidates group model := by
      intro here
      rw [listedName, if_pos here, ← mem_filterChannels, none] at passes
      cases passes
    rw [mem_filterChannels, listedName, if_neg elsewhere]
  · rename_i some
    have here : preferred.id ∈ table.candidates group model := by
      refine unshadowed.resolve_right fun without => some ?_
      exact eq_nil_iff_forall_not_mem.2 fun id member =>
        without id ((mem_filterChannels table group model requestPath model id).1 member)
    rw [mem_filterChannels, listedName, if_pos here]

theorem unshadowed_of_mem_eligible
    (member : preferred.id ∈ eligible table.toChannelCache group model requestPath) :
    preferred.id ∈ table.candidates group model ∨
      ∀ id, ¬ Passes table group model requestPath model id := by
  simp only [eligible] at member
  split at member
  · rename_i none
    right
    intro id passes
    rw [← mem_filterChannels, none] at passes
    cases passes
  · exact .inl ((mem_filterChannels table group model requestPath model _).1 member).1

/-- What a channel that affinity uses has passed. -/
theorem useAffinity_eq_some {autoGroups : List String} {preferredChannelID : Int} {chosen : String}
    (used : useAffinity table group model requestPath autoGroups preferredChannelID =
      some (preferred, chosen)) :
    table.channel preferred.id = some preferred ∧ table.enabled preferred.id = true ∧
      Passes table chosen model requestPath (listedName table chosen model preferred)
        preferred.id := by
  unfold useAffinity at used
  split at used
  · cases used
  rename_i suggested found
  split at used
  swap
  · cases used
  rename_i usable
  obtain ⟨enabled, serves⟩ := Bool.and_eq_true_iff.1 usable
  obtain ⟨_, among, same⟩ := Option.map_eq_some_iff.1 used
  cases same
  have held : table.channel preferred.id = some preferred := table.keyed _ _ found ▸ found
  refine ⟨held, enabled, ?_, .inr ?_⟩
  · have listed := find?_some among
    unfold isChannelEnabledForGroupModel at listed
    unfold listedName
    split at listed
    · cases listed
    split at listed
    · rename_i here
      rwa [if_pos here]
    · rename_i elsewhere
      rw [if_neg elsewhere]
      simpa using (Bool.and_eq_true_iff.1 listed).2
  · rw [servesPath, held]
    exact serves

/-- Channel 1 is listed under the name `m`, channel 2 under its normal form. -/
def normalTable : ChannelTable where
  candidates _ model := if model = "m" then [1] else [2]
  channel id := some { id }
  formatMatchingModelName _ := "n"
  enabled _ := true
  keyed := by
    rintro _ _ ⟨⟩
    rfl

theorem normalTable_bounded : Bounded normalTable.toChannelCache := by
  intro group model
  simp only [normalTable]
  split_ifs <;> decide

end NewApi.ChannelAffinity
