import NewApi.Table

/-!
Tables with a second unique index beside their key. A statement that would store one
index value twice fails, so the table carries the uniqueness of both columns. The same
rows read by the index are a table again, and the lookups by the index are its lookups.
-/

namespace NewApi

universe u v w

structure IndexedTable {Row : Type u} {Key : Type v} {Index : Type w} (key : Row → Key)
    (index : Row → Index) extends Table key where
  indexed : (rows.map index).Nodup

namespace IndexedTable

variable {Row : Type u} {Key : Type v} {Index : Type w} {key : Row → Key} {index : Row → Index}
  {row old left right : Row} (table : IndexedTable key index)

def byIndex : Table index := ⟨table.rows, table.indexed⟩

def empty : IndexedTable key index := ⟨Table.empty, List.nodup_nil⟩

def remove (table : IndexedTable key index) (gone : Row → Bool) : IndexedTable key index :=
  ⟨table.toTable.remove gone, (table.byIndex.remove gone).unique⟩

variable [DecidableEq Key] [DecidableEq Index]

/-- The index is checked when the statement has written its rows. -/
def ofTable? (table : Table key) : Option (IndexedTable key index) :=
  if unique : (table.rows.map index).Nodup then some ⟨table, unique⟩ else none

def insert? (table : IndexedTable key index) (row : Row) : Option (IndexedTable key index) :=
  (table.toTable.insert? row).bind ofTable?

def save? (row : Row) : Option (IndexedTable key index) :=
  ofTable? (table.toTable.save row)

variable {table} {after : IndexedTable key index}

omit [DecidableEq Key] in
theorem ofTable?_eq_some {table : Table key} (accepted : ofTable? table = some after) :
    after.toTable = table := by
  unfold ofTable? at accepted
  split at accepted <;> cases accepted
  rfl

theorem insert?_eq_some (inserted : table.insert? row = some after) :
    table.find? (key row) = none ∧ after.rows = table.rows ++ [row] := by
  rcases Option.bind_eq_some_iff.mp inserted with ⟨middle, appended, accepted⟩
  rw [ofTable?_eq_some accepted]
  exact Table.insert?_eq_some appended

omit [DecidableEq Key] in
theorem byIndex_find? (member : row ∈ table.rows) : table.byIndex.find? (index row) = some row := by
  have listed : row ∈ table.byIndex.rows := member
  exact Table.mem_find? listed

omit [DecidableEq Key] [DecidableEq Index] in
theorem eq_of_index (first : left ∈ table.rows) (second : right ∈ table.rows)
    (same : index left = index right) : left = right := by
  have listed : left ∈ table.byIndex.rows := first
  exact Table.eq_of_key listed second same

theorem insert?_eq_none (taken : table.find? (key row) = some old) : table.insert? row = none := by
  cases inserted : table.insert? row with
  | none => rfl
  | some after =>
    rw [(insert?_eq_some inserted).1] at taken
    cases taken

end IndexedTable

namespace Table

variable {Row : Type u} {Key : Type v} {Index : Type w} {key : Row → Key} [DecidableEq Key]
  [DecidableEq Index]

theorem find_column_save {index : Row → Index} {row old : Row} {table : Table key}
    (distinct : (table.rows.map index).Nodup) (found : table.find? (key row) = some old)
    (same : index row = index old) (value : Index) :
    (table.save row).rows.find? (fun stored => index stored = value) =
      if index row = value then some row
      else table.rows.find? (fun stored => index stored = value) := by
  have columns := map_rows_save index found same
  have lookup : ∀ rows : Table key, (unique : (rows.rows.map index).Nodup) → ∀ stored,
      rows.rows.find? (fun other => index other = value) = some stored ↔
        stored ∈ rows.rows ∧ index stored = value := by
    intro rows unique stored
    exact find?_eq_some_iff (⟨rows.rows, unique⟩ : Table index) value stored
  have member := (find?_mem found).1
  ext stored
  rw [lookup _ (columns ▸ distinct), mem_save_iff found]
  by_cases here : index row = value
  · rw [if_pos here, Option.some.injEq]
    constructor
    · rintro ⟨rfl | ⟨kept, other⟩, hit⟩
      · rfl
      · -- The column is unique, so another row with this value is the saved one.
        have clash : stored = old :=
          List.inj_on_of_nodup_map distinct kept member (hit.trans (here.symm.trans same))
        exact absurd (clash ▸ find?_key found) other
    · rintro rfl
      exact ⟨.inl rfl, here⟩
  · rw [if_neg here, lookup _ distinct]
    constructor
    · rintro ⟨rfl | ⟨kept, -⟩, hit⟩
      · exact absurd hit here
      · exact ⟨kept, hit⟩
    · rintro ⟨kept, hit⟩
      refine ⟨.inr ⟨kept, ?_⟩, hit⟩
      intro clash
      have stays := mem_find? kept
      rw [clash, found, Option.some.injEq] at stays
      exact here (same.trans ((congrArg index stays).trans hit))

end Table
end NewApi
