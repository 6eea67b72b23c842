import NewApi.AbilitySelect
import Mathlib.Data.List.Perm.Basic
import Mathlib.Data.List.ProdSigma

/-!
The ability rows of a channel (`AddAbilities` and `UpdateAbilities` in model/ability.go). A write
that fails is left out. A missing priority or weight of the channel is the zero of its column.
-/

namespace NewApi.AbilityRows

open AbilitySelect List

structure Channel where
  id : Int
  models : String
  group : String
  enabled : Bool := true
  priority : Int := 0
  weight : Nat := 0

def split (text : String) : List String :=
  (text.toList.splitOn ',').map String.ofList

def key (pair : String × String) : String :=
  pair.1 ++ "|" ++ pair.2

/-- The pairs whose key is not yet in the set. -/
def collect : List (String × String) → List String → List (String × String)
  | [], _ => []
  | pair :: rest, abilitySet =>
    if key pair ∈ abilitySet then collect rest abilitySet
    else pair :: collect rest (key pair :: abilitySet)

variable (channel : Channel)

def ability (pair : String × String) : Ability :=
  { group := pair.1, model := pair.2, channelId := channel.id, enabled := channel.enabled
    priority := channel.priority, weight := channel.weight }

def pairs : List (String × String) :=
  (split channel.models).flatMap fun model => (split channel.group).map fun group => (group, model)

def abilities : List Ability :=
  (collect (pairs channel) []).map (ability channel)

def chunk (rows : List Ability) : List (List Ability) :=
  (List.range ((rows.length + 49) / 50)).map fun index => (rows.drop (50 * index)).take 50

/-- An insert with `DoNothing` on a conflict of the primary key. -/
def create (table : List Ability) (row : Ability) : List Ability :=
  if table.any fun held =>
    held.group = row.group && held.model = row.model && held.channelId = row.channelId
  then table else table ++ [row]

def addAbilities (table : List Ability) : List Ability :=
  (chunk (abilities channel)).foldl (fun table rows => rows.foldl create table) table

def updateAbilities (table : List Ability) : List Ability :=
  addAbilities channel (table.filter (·.channelId ≠ channel.id))

def rowsOf (id : Int) (table : List Ability) : List Ability :=
  table.filter (·.channelId = id)

/-- One row for each pair of a group and a model. -/
def product : List Ability :=
  ((split channel.group).dedup ×ˢ (split channel.models).dedup).map (ability channel)

def Separated : Prop :=
  ∀ first ∈ pairs channel, ∀ second ∈ pairs channel, key first = key second → first = second

variable (channel : Channel)

theorem collect_spec (entries : List (String × String)) (seen : List String) :
    (collect entries seen).Sublist entries ∧ ((collect entries seen).map key).Nodup ∧
      (∀ pair ∈ collect entries seen, key pair ∉ seen) ∧
      ∀ pair ∈ entries, key pair ∈ seen ∨ key pair ∈ (collect entries seen).map key := by
  induction entries generalizing seen with
  | nil => exact ⟨.slnil, .nil, nofun, nofun⟩
  | cons pair rest ih =>
    rw [collect]
    split
    · obtain ⟨part, apart, new, covers⟩ := ih seen
      exact ⟨part.cons _, apart, new, by grind⟩
    · obtain ⟨part, apart, new, covers⟩ := ih (key pair :: seen)
      exact ⟨part.cons_cons _, by grind, by grind, by grind⟩

theorem mem_pairs (pair : String × String) :
    pair ∈ pairs channel ↔ pair.1 ∈ split channel.group ∧ pair.2 ∈ split channel.models := by
  simp only [pairs, mem_flatMap, mem_map]
  constructor
  · rintro ⟨model, listed, group, member, rfl⟩
    exact ⟨member, listed⟩
  · exact fun both => ⟨pair.2, both.2, pair.1, both.1, rfl⟩

theorem abilities_perm_product_iff :
    (abilities channel).Perm (product channel) ↔ Separated channel := by
  obtain ⟨part, apart, -, covers⟩ := collect_spec (pairs channel) []
  have injective : Function.Injective (ability channel) := by
    rintro ⟨_, _⟩ ⟨_, _⟩ same
    simpa [ability] using same
  have members : ∀ pair, pair ∈ (split channel.group).dedup ×ˢ (split channel.models).dedup ↔
      pair ∈ pairs channel := by
    simp [mem_pairs]
  rw [abilities, product, map_perm_map_iff injective, perm_ext_iff_of_nodup apart.of_map
    ((nodup_dedup _).product (nodup_dedup _))]
  simp only [members]
  constructor
  · intro exact first one second two same
    exact inj_on_of_nodup_map apart ((exact first).mpr one) ((exact second).mpr two) same
  · refine fun injective pair => ⟨fun member => part.subset member, fun member => ?_⟩
    obtain ⟨other, kept, same⟩ := mem_map.mp ((covers pair member).resolve_left nofun)
    exact injective other (part.subset kept) pair member same ▸ kept

theorem chunk_flatten (rows : List Ability) : (chunk rows).flatten = rows := by
  have front (count : Nat) : ((List.range count).map fun index =>
      (rows.drop (50 * index)).take 50).flatten = rows.take (50 * count) := by
    induction count with
    | zero => rfl
    | succ count ih =>
      rw [range_succ, map_append, flatten_append, ih, Nat.mul_succ, take_add]
      simp
  rw [chunk, front, take_of_length_le (by omega)]

/-- Rows with pairs of their own are all inserted. -/
theorem rowsOf_foldl_create (entries : List (String × String)) (table : List Ability)
    (apart : entries.Nodup) (new : ∀ pair ∈ entries, ∀ held ∈ rowsOf channel.id table,
      (held.group, held.model) ≠ pair) :
    rowsOf channel.id ((entries.map (ability channel)).foldl create table) =
      rowsOf channel.id table ++ entries.map (ability channel) := by
  induction entries generalizing table with
  | nil => simp
  | cons pair rest ih =>
    have inserted : create table (ability channel pair) = table ++ [ability channel pair] := by
      grind [create, ability, rowsOf]
    have rows : rowsOf channel.id (table ++ [ability channel pair]) =
        rowsOf channel.id table ++ [ability channel pair] := by
      simp [rowsOf, ability]
    rw [map_cons, foldl_cons, inserted, ih _ (nodup_cons.mp apart).2, rows,
      append_assoc]
    · rfl
    · grind [ability]

theorem rowsOf_addAbilities (table : List Ability) (none : rowsOf channel.id table = []) :
    rowsOf channel.id (addAbilities channel table) = abilities channel := by
  rw [addAbilities, ← foldl_flatten, chunk_flatten, abilities, rowsOf_foldl_create, none,
    nil_append]
  · exact (collect_spec (pairs channel) []).2.1.of_map
  · simp [none]

/-- The rows of a channel are the product of its groups and models exactly when no two of its
pairs share a key. `AddAbilities` is for a channel that has no rows yet. -/
theorem ability_rows_exact_iff :
    (∀ table, (rowsOf channel.id (updateAbilities channel table)).Perm (product channel) ↔
      Separated channel) ∧
    ∀ table, rowsOf channel.id table = [] →
      ((rowsOf channel.id (addAbilities channel table)).Perm (product channel) ↔
        Separated channel) := by
  refine ⟨fun table => ?_, fun table none => ?_⟩
  · rw [updateAbilities, rowsOf_addAbilities]
    · exact abilities_perm_product_iff channel
    · simp [rowsOf]
  · rw [rowsOf_addAbilities channel table none]
    exact abilities_perm_product_iff channel

def plainChannel : Channel := { id := 1, models := "c,d,c", group := "a,b" }

theorem plainChannel_rows_exact :
    (rowsOf 1 (addAbilities plainChannel [])).Perm (product plainChannel) :=
  ((ability_rows_exact_iff plainChannel).2 [] rfl).mpr (by unfold Separated; decide +kernel)

def barred : Channel := { id := 1, models := "c,b|c", group := "a|b,a" }

/-- The pairs `a|b`, `c` and `a`, `b|c` share the key `a|b|c`. -/
theorem barred_rows_miss_a_pair :
    ("a", "b|c") ∈ pairs barred ∧
      ∀ row ∈ updateAbilities barred [], (row.group, row.model) ≠ ("a", "b|c") := by
  decide +kernel

end NewApi.AbilityRows
