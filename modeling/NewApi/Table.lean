import Mathlib.Algebra.BigOperators.Group.List.Basic
import Mathlib.Data.List.Nodup
import Mathlib.Tactic.Ring

/-!
Relational tables with a unique key, as ordered row lists. A table carries the
proof that no two rows share a key, so a lookup determines the row and a sum
over the rows changes by exactly one summand when one row is written. The row
order stands for the order a query without ORDER BY returns; nothing below
depends on it except through `rows`.
-/

namespace NewApi

open List hiding after

universe u v

structure Table {Row : Type u} {Key : Type v} (key : Row → Key) where
  rows : List Row
  unique : (rows.map key).Nodup

namespace Table

variable {Row : Type u} {Key : Type v} {key : Row → Key}

def empty : Table key := ⟨[], by simp⟩

variable {left table : Table key} {guard : Row → Bool}
variable {right after : Table key} {k : Key} {row old stored second first final : Row}
  {change : Row → Row} {related : Row → Row → Prop}

@[ext]
theorem ext_rows (same : left.rows = right.rows) : left = right := by
  cases left
  cases right
  simpa using same

variable [DecidableEq Key]

/-- `SELECT * FROM t WHERE key = k LIMIT 1`. -/
def find? (table : Table key) (k : Key) : Option Row :=
  table.rows.find? (fun row => key row = k)

variable (rows : List Row)

theorem map_key_replace (row : Row) :
    (rows.map fun old => if key old = key row then row else old).map key = rows.map key := by
  induction rows with
  | nil => rfl
  | cons first rest ih =>
    by_cases same : key first = key row <;> simp [same, ih]

theorem replace_absent (row : Row) (absent : key row ∉ rows.map key) :
    (rows.map fun old => if key old = key row then row else old) = rows := by
  conv_rhs => rw [← map_id rows]
  refine map_congr_left fun old member => if_neg fun clash => absent ?_
  rw [← clash]
  exact mem_map_of_mem (f := key) member

/-- `UPDATE t SET * = row WHERE key = key row`: no effect when the key is absent. -/
def save (table : Table key) (row : Row) : Table key where
  rows := table.rows.map fun old => if key old = key row then row else old
  unique := by rw [map_key_replace]; exact table.unique

/-- `INSERT INTO t VALUES row`, rejected when the key is taken. -/
def insert? (table : Table key) (row : Row) : Option (Table key) :=
  if fresh : key row ∈ table.rows.map key then none
  else some ⟨table.rows ++ [row], by
    simpa [nodup_append, fresh] using
      ⟨table.unique, fun other member same => fresh (by
        rw [← same]; exact mem_map_of_mem (f := key) member)⟩⟩

/-- The rows inserted one by one; a row whose key is taken is left out. -/
def ofRows : Table key :=
  rows.foldl (fun table row => (table.insert? row).getD table) empty

/-- `UPDATE t SET row = change row WHERE key = k AND guard`, with `none` for zero affected rows. -/
def updateWhere (table : Table key) (k : Key) (guard : Row → Bool) (change : Row → Row) :
    Option (Table key) :=
  match table.find? k with
  | none => none
  | some row => if guard row then some (table.save (change row)) else none

/-- `UPDATE t SET row = change row WHERE guard`. -/
def updateAll (table : Table key) (guard : Row → Bool) (change : Row → Row)
    (sameKey : ∀ row, key (change row) = key row) : Table key where
  rows := table.rows.map fun row => if guard row then change row else row
  unique := by
    have keys : ∀ row, key (if guard row then change row else row) = key row := by
      intro row
      split
      · exact sameKey row
      · rfl
    simpa only [map_map, Function.comp_def, keys] using table.unique

/-- `DELETE FROM t WHERE gone row`. -/
def remove (table : Table key) (gone : Row → Bool) : Table key where
  rows := table.rows.filter fun row => !gone row
  unique := table.unique.sublist (filter_sublist.map key)

def sum (table : Table key) (value : Row → Int) : Int :=
  (table.rows.map value).sum

theorem find?_mem (found : table.find? k = some row) : row ∈ table.rows ∧ key row = k :=
  ⟨mem_of_find?_eq_some found, by simpa using find?_some found⟩

theorem find?_key (found : table.find? k = some row) : key row = k :=
  (find?_mem found).2

theorem find?_eq_some_iff (table : Table key) (k : Key) (row : Row) :
    table.find? k = some row ↔ row ∈ table.rows ∧ key row = k := by
  refine ⟨find?_mem, fun ⟨member, same⟩ => ?_⟩
  cases found : table.find? k with
  | none =>
    have absent := find?_eq_none.mp found row member
    simp [same] at absent
  | some other =>
    obtain ⟨present, matched⟩ := find?_mem found
    rw [inj_on_of_nodup_map table.unique present member (matched.trans same.symm)]

theorem find?_eq_none_iff (table : Table key) (k : Key) :
    table.find? k = none ↔ k ∉ table.rows.map key := by
  simp [find?, find?_eq_none]

theorem mem_find? (member : row ∈ table.rows) : table.find? (key row) = some row :=
  (find?_eq_some_iff table _ row).mpr ⟨member, rfl⟩

theorem find?_save (table : Table key) (row : Row) (k : Key) :
    (table.save row).find? k =
      if key row = k then (table.find? k).map (fun _ => row) else table.find? k := by
  simp only [find?, save]
  induction table.rows with
  | nil => simp
  | cons first rest ih =>
    simp only [map_cons, find?_cons]
    by_cases same : key first = key row
    · by_cases target : key row = k <;> simp [same, target] at ih ⊢
      exact ih
    · rw [if_neg same]
      by_cases here : key first = k
      · have target : key row ≠ k := fun there => same (here.trans there.symm)
        simp [here, target]
      · simpa [here] using ih

theorem find?_save_self (found : table.find? (key row) = some old) :
    (table.save row).find? (key row) = some row := by
  simp [find?_save, found]

theorem find?_save_other (other : key row ≠ k) : (table.save row).find? k = table.find? k := by
  simp [find?_save, other]

theorem find?_save_measure {gain : Nat} (measure : Row → Nat)
    (moves : ∀ old, table.find? (key row) = some old → measure row = measure old + gain)
    (present : (table.save row).find? k = some stored) :
    ∃ old, table.find? k = some old ∧
      measure stored = measure old + if key row = k then gain else 0 := by
  rw [find?_save] at present
  by_cases same : key row = k
  · rw [if_pos same] at present ⊢
    obtain ⟨old, before, rfl⟩ := Option.map_eq_some_iff.mp present
    exact ⟨old, before, moves old (same ▸ before)⟩
  · rw [if_neg same] at present ⊢
    exact ⟨stored, present, rfl⟩

theorem mem_save_iff (found : table.find? (key row) = some old) (other : Row) :
    other ∈ (table.save row).rows ↔ other = row ∨ (other ∈ table.rows ∧ key other ≠ key row) := by
  constructor
  · intro member
    have stored := mem_find? member
    rw [find?_save] at stored
    by_cases same : key row = key other
    · rw [if_pos same, ← same, found] at stored
      exact .inl (Option.some.inj stored).symm
    · rw [if_neg same] at stored
      exact .inr ⟨(find?_mem stored).1, fun back => same back.symm⟩
  · rintro (rfl | ⟨member, different⟩)
    · exact (find?_mem (find?_save_self found)).1
    · have stored : (table.save row).find? (key other) = table.find? (key other) :=
        find?_save_other (Ne.symm different)
      rw [mem_find? member] at stored
      exact (find?_mem stored).1

omit [DecidableEq Key] in
theorem mem_remove {gone : Row → Bool} :
    row ∈ (table.remove gone).rows ↔ row ∈ table.rows ∧ gone row = false := by
  simp [remove]

omit [DecidableEq Key] in
theorem eq_of_key {left right : Row} (first : left ∈ table.rows) (second : right ∈ table.rows)
    (same : key left = key right) : left = right :=
  inj_on_of_nodup_map table.unique first second same

theorem save_save (table : Table key) (same : key second = key first) :
    (table.save first).save second = table.save second := by
  ext1
  simp only [save, map_map]
  refine map_congr_left fun row _ => ?_
  by_cases here : key row = key first <;> simp [here, same]

theorem map_rows_save {Value : Type*} (column : Row → Value)
    (found : table.find? (key row) = some old) (same : column row = column old) :
    (table.save row).rows.map column = table.rows.map column := by
  simp only [save, map_map]
  refine map_congr_left fun other member => ?_
  by_cases here : key other = key row
  · have stored := mem_find? member
    rw [here, found] at stored
    cases stored
    simp [here, same]
  · simp [here]

theorem save_of_find? (found : table.find? (key row) = some row) : table.save row = table := by
  ext1
  simpa using map_rows_save id found rfl

theorem filter_rows_save {selected : Row → Bool} (found : table.find? (key row) = some old)
    (before : selected old = false) (after : selected row = false) :
    (table.save row).rows.filter selected = table.rows.filter selected := by
  have kept : ∀ other ∈ table.rows, (if key other = key row then row else other) = other ∨
      (selected other = false ∧ key other = key row) := by
    intro other member
    by_cases here : key other = key row
    · have stored := mem_find? member
      rw [here, found] at stored
      cases stored
      exact .inr ⟨before, here⟩
    · exact .inl (if_neg here)
  simp only [save]
  generalize table.rows = rows at kept
  induction rows with
  | nil => rfl
  | cons first rest ih =>
    rw [forall_mem_cons] at kept
    rcases kept.1 with same | ⟨dropped, here⟩
    · rw [map_cons, same, filter_cons, filter_cons, ih kept.2]
    · rw [map_cons, if_pos here, filter_cons, filter_cons, ih kept.2, after,
        dropped]
      rfl

theorem insert?_eq_some (inserted : table.insert? row = some after) :
    table.find? (key row) = none ∧ after.rows = table.rows ++ [row] := by
  unfold insert? at inserted
  split at inserted
  · simp at inserted
  rename_i fresh
  cases inserted
  exact ⟨(find?_eq_none_iff table _).mpr fresh, rfl⟩

theorem find?_insert? (inserted : table.insert? row = some after) (k : Key) :
    after.find? k = if key row = k then some row else table.find? k := by
  obtain ⟨absent, appended⟩ := insert?_eq_some inserted
  simp only [find?] at absent ⊢
  rw [appended, find?_append]
  by_cases same : key row = k
  · subst same
    simp [absent]
  · simp [same]

theorem insert?_save (inserted : table.insert? row = some after) (same : key final = key row) :
    table.insert? final = some (after.save final) := by
  obtain ⟨absent, appended⟩ := insert?_eq_some inserted
  have fresh : key final ∉ table.rows.map key := by
    rw [same, ← find?_eq_none_iff]
    exact absent
  simp only [insert?, fresh, dite_false, Option.some.injEq]
  simp only [save, appended, map_append, replace_absent table.rows final fresh]
  simp [same]

theorem updateWhere_eq_some (updated : table.updateWhere k guard change = some after) :
    ∃ row, table.find? k = some row ∧ guard row = true ∧ after = table.save (change row) := by
  unfold updateWhere at updated
  cases found : table.find? k with
  | none => simp [found] at updated
  | some row =>
    by_cases passed : guard row = true
    · simp only [found, passed, if_true, Option.some.injEq] at updated
      exact ⟨row, rfl, passed, updated.symm⟩
    · simp [found, passed] at updated

theorem updateWhere_of_find? (change : Row → Row) (found : table.find? k = some row)
    (passed : guard row = true) :
    table.updateWhere k guard change = some (table.save (change row)) := by
  simp [updateWhere, found, passed]

theorem find?_updateWhere (updated : table.updateWhere k guard change = some after)
    (sameKey : ∀ row, key (change row) = key row) (target : Key) :
    after.find? target =
      (table.find? target).map (fun row => if target = k then change row else row) := by
  obtain ⟨row, found, -, saved⟩ := updateWhere_eq_some updated
  subst saved
  have here : key (change row) = k := (sameKey row).trans (find?_key found)
  rw [find?_save, here]
  by_cases same : k = target
  · subst same
    simp [found]
  · have other : target ≠ k := fun back => same back.symm
    simp [same, other]

theorem map_find?_updateWhere {Value : Type*}
    (updated : table.updateWhere k guard change = some after)
    (sameKey : ∀ row, key (change row) = key row) (column : Row → Value) (target : Key) :
    (after.find? target).map column =
      (table.find? target).map
        (fun row => if target = k then column (change row) else column row) := by
  rw [find?_updateWhere updated sameKey, Option.map_map]
  congr 1
  funext row
  by_cases same : target = k <;> simp [same]

theorem find?_getD_updateWhere (table : Table key) (k : Key) (guard : Row → Bool)
    (sameKey : ∀ row, key (change row) = key row) (target : Key) :
    ((table.updateWhere k guard change).getD table).find? target =
      (table.find? target).map
        (fun row => if target = k ∧ guard row = true then change row else row) := by
  cases updated : table.updateWhere k guard change with
  | none =>
    cases found : table.find? target with
    | none => simp [found]
    | some row =>
      have kept : ¬ (target = k ∧ guard row = true) := by
        rintro ⟨rfl, passed⟩
        simp [updateWhere_of_find? change found passed] at updated
      simp [found, kept]
  | some after =>
    obtain ⟨row, here, passed, -⟩ := updateWhere_eq_some updated
    rw [Option.getD_some, find?_updateWhere updated sameKey]
    by_cases same : target = k
    · subst same
      simp [here, passed]
    · simp [same]

/-- The tables hold related rows under the same keys. -/
def Related (related : Row → Row → Prop) (left right : Table key) : Prop :=
  ∀ k, Option.Rel related (left.find? k) (right.find? k)

theorem Related.refl (reflexive : ∀ row, related row row) (table : Table key) :
    Related related table table := by
  intro k
  cases table.find? k with
  | none => exact .none
  | some row => exact .some (reflexive row)

theorem Related.some (tables : Related related left right) (found : left.find? k = some row) :
    ∃ other, right.find? k = Option.some other ∧ related row other := by
  have here := tables k
  rw [found] at here
  cases present : right.find? k with
  | none =>
    rw [present] at here
    cases here
  | some other =>
    rw [present] at here
    cases here with
    | some holds => exact ⟨other, rfl, holds⟩

theorem Related.none (tables : Related related left right) (absent : left.find? k = none) :
    right.find? k = Option.none := by
  have here := tables k
  rw [absent] at here
  cases present : right.find? k with
  | none => rfl
  | some other =>
    rw [present] at here
    cases here

theorem Related.updateWhere (tables : Related related left right) (k : Key)
    (sameKey : ∀ row, key (change row) = key row)
    (guards : ∀ row other, related row other → guard other = guard row)
    (changes : ∀ row other, related row other → related (change row) (change other)) :
    Option.Rel (Related related) (left.updateWhere k guard change)
      (right.updateWhere k guard change) := by
  cases found : left.find? k with
  | none =>
    simp only [Table.updateWhere, found, tables.none found]
    exact .none
  | some row =>
    rcases tables.some found with ⟨other, present, holds⟩
    by_cases passed : guard row = true
    · have hit := updateWhere_of_find? change found passed
      have hit' := updateWhere_of_find? change present ((guards row other holds).trans passed)
      rw [hit, hit']
      refine .some ?_
      intro target
      rw [find?_updateWhere hit sameKey, find?_updateWhere hit' sameKey]
      by_cases here : target = k
      · subst here
        simp only [found, present, Option.map_some, if_true]
        exact .some (changes row other holds)
      · simp only [if_neg here, Option.map_id']
        exact tables target
    · simp only [Table.updateWhere, found, present, guards row other holds, if_neg passed]
      exact .none

theorem sum_replace (distinct : (rows.map key).Nodup) (value : Row → Int) (row old : Row)
    (found : rows.find? (fun other => key other = key row) = some old) :
    ((rows.map fun other => if key other = key row then row else other).map value).sum =
      (rows.map value).sum - value old + value row := by
  induction rows with
  | nil => simp at found
  | cons first rest ih =>
    simp only [map_cons, nodup_cons] at distinct
    by_cases same : key first = key row
    · have untouched := replace_absent rest row (same ▸ distinct.1)
      simp only [find?_cons, same, decide_true, Option.some.injEq] at found
      subst found
      simp only [map_cons, same, if_true, untouched, sum_cons]
      ring
    · simp only [find?_cons, same, decide_false] at found
      simp only [map_cons, same, if_false, sum_cons, ih distinct.2 found]
      ring

theorem sum_save (value : Row → Int) (found : table.find? (key row) = some old) :
    (table.save row).sum value = table.sum value - value old + value row :=
  sum_replace table.rows table.unique value row old found

theorem sum_insert? (inserted : table.insert? row = some after) (value : Row → Int) :
    after.sum value = table.sum value + value row := by
  simp [sum, (insert?_eq_some inserted).2]

omit [DecidableEq Key] in
theorem sum_congr {left right : Row → Int} (same : ∀ row ∈ table.rows, left row = right row) :
    table.sum left = table.sum right := by
  rw [sum, sum, map_congr_left same]

end Table
end NewApi
