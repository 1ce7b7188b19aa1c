import DocumentQuery.Proofs.Schema.Columns

/-!
# The columns of a table

A table has a column for its key, one for the documents and one for each indexed field. Their names
come from three places, and a declaration is only checked for two indexed fields with one column. So
the columns of an accepted schema can clash in two ways: the body column may be that of the key, or
the column of an indexed field.
-/

namespace DocumentQuery

theorem Declaration.exists_of_build {α : Type} {d : Declaration} {g : Schema → α} {a : α}
    (h : d.build.toOption.map g = some a) : ∃ s, d.build = .ok s ∧ g s = a := by
  cases hs : d.build with
  | error e => simp [hs, Except.toOption] at h
  | ok s => exact ⟨s, rfl, by simpa [hs, Except.toOption] using h⟩

/-- The text creates a table with columns of these names: each has a line that begins with its
name. -/
def CreatesTable (table : String) (columns : List String) (text : String) : Prop :=
  ∃ rests : List String, rests.length = columns.length ∧
    text = "CREATE TABLE IF NOT EXISTS " ++ Sql.quotedIdentifier table ++ " (\n" ++
      String.intercalate ",\n"
        (List.zipWith (fun column rest => "    " ++ column ++ " " ++ rest) columns rests) ++ "\n)"

/-- What follows the name of a generated column in its definition. -/
def ColumnDefinition.rest (c : ColumnDefinition) : String :=
  c.type ++ " GENERATED ALWAYS AS (" ++ String.ofList c.expression ++ ") VIRTUAL" ++
    (if c.notNull then " NOT NULL" else "")

theorem ColumnDefinition.text_eq (c : ColumnDefinition) : c.text = c.name ++ " " ++ c.rest := by
  simp only [text, rest, String.append_assoc]

theorem TableDefinition.createsTable_text (t : TableDefinition) :
    CreatesTable t.name t.columnNames t.text := by
  refine ⟨"INTEGER PRIMARY KEY" :: ("TEXT NOT NULL CHECK (json_valid(" ++ t.bodyColumn ++ "))") ::
    t.columns.map ColumnDefinition.rest, by simp [columnNames], ?_⟩
  have hkey :
      "    " ++ "_id" ++ " " ++ "INTEGER PRIMARY KEY" = "    " ++ "_id INTEGER PRIMARY KEY" := by
    decide +kernel
  have hbody : "    " ++ t.bodyColumn ++ " " ++
    ("TEXT NOT NULL CHECK (json_valid(" ++ t.bodyColumn ++ "))") =
      "    " ++ (t.bodyColumn ++ " TEXT NOT NULL CHECK (json_valid(" ++ t.bodyColumn ++ "))") := by
    have hblank :
        " TEXT NOT NULL CHECK (json_valid(" = " " ++ "TEXT NOT NULL CHECK (json_valid(" := by
      decide +kernel
    simp only [hblank, String.append_assoc]
  have hcolumns : List.zipWith (fun column rest => "    " ++ column ++ " " ++ rest)
      (t.columns.map ColumnDefinition.name) (t.columns.map ColumnDefinition.rest) =
      (t.columns.map ColumnDefinition.text).map fun c => "    " ++ c := by
    rw [List.zipWith_map, List.zipWith_self, List.map_map]
    apply List.map_congr_left
    intro c _
    simp only [Function.comp, ColumnDefinition.text_eq, String.append_assoc]
  have hlines : List.zipWith (fun column rest => "    " ++ column ++ " " ++ rest) t.columnNames
      ("INTEGER PRIMARY KEY" :: ("TEXT NOT NULL CHECK (json_valid(" ++ t.bodyColumn ++ "))") ::
        t.columns.map ColumnDefinition.rest) =
      ("_id INTEGER PRIMARY KEY" ::
        (t.bodyColumn ++ " TEXT NOT NULL CHECK (json_valid(" ++ t.bodyColumn ++ "))") ::
        t.columns.map ColumnDefinition.text).map fun c => "    " ++ c := by
    rw [columnNames, List.zipWith_cons_cons, List.zipWith_cons_cons, hcolumns]
    exact List.cons_eq_cons.mpr ⟨hkey, List.cons_eq_cons.mpr ⟨hbody, rfl⟩⟩
  rw [hlines]
  rfl

namespace Schema

theorem columnNames_table (s : Schema) :
    s.table.columnNames = "_id" :: s.bodyColumn :: s.indexedFields.map Field.column := by
  simp only [table, columnDefinitions, TableDefinition.columnNames, List.map_map]
  rfl

theorem generatedColumn_ne_id (field : String) : generatedColumn field ≠ "_id" := by
  intro h
  have hcolumn := isColumnName_generatedColumn field
  rw [h] at hcolumn
  exact absurd hcolumn (by decide)

/-- The columns of a table that is created for an accepted schema differ as texts exactly if its
body column is not that of the key and not that of an indexed field. -/
theorem nodup_columnNames_iff {d : Declaration} {s : Schema} (hs : d.build = .ok s) :
    CreatesTable s.collection s.table.columnNames s.table.text ∧
    s.table.columnNames = "_id" :: s.bodyColumn :: s.indexedFields.map Field.column ∧
    (s.table.columnNames.Nodup ↔
      s.bodyColumn ≠ "_id" ∧ ∀ f ∈ s.fields, f.indexed = true → f.column ≠ s.bodyColumn) := by
  refine ⟨s.table.createsTable_text, s.columnNames_table, ?_⟩
  have hkey : "_id" ∉ s.indexedFields.map Field.column := by
    intro hm
    obtain ⟨f, -, hf⟩ := List.mem_map.mp hm
    exact generatedColumn_ne_id f.name hf
  have hbody : s.bodyColumn ∉ s.indexedFields.map Field.column ↔
      ∀ f ∈ s.fields, f.indexed = true → f.column ≠ s.bodyColumn := by
    simp only [List.mem_map, not_exists, not_and, indexedFields, List.mem_filter, and_imp]
  rw [columnNames_table, List.nodup_cons, List.nodup_cons, List.mem_cons, not_or, hbody]
  constructor
  · rintro ⟨⟨hid, -⟩, hfields, -⟩
    exact ⟨Ne.symm hid, hfields⟩
  · rintro ⟨hid, hfields⟩
    exact ⟨⟨Ne.symm hid, hkey⟩, hfields, nodup_columns hs⟩

/-- Visits with an age of the visitor, in a body column of the given name. -/
def visits (body : String) : Declaration where
  collection := "visits"
  bodyColumn := body
  fields := [{ name := "age", type := .integer, indexed := true },
    { name := "idx.age", type := .integer, indexed := true }]
  timestamps := true

theorem nodup_columnNames_iff_visits :
    ∃ s, (visits "_idx").build = .ok s ∧ s.table.columnNames.Nodup ∧
      CreatesTable "visits"
        ["_id", "_idx", "_idx_age", "_idx_created_at", "_idx_idx_age", "_idx_updated_at"]
          s.table.text := by
  have hbuild : (visits "_idx").build.toOption.map
      (fun s => (s.collection, s.table.columnNames, s.bodyColumn, s.fields.map Field.column)) =
      some ("visits", ["_id", "_idx", "_idx_age", "_idx_created_at", "_idx_idx_age",
        "_idx_updated_at"],
        "_idx", ["_idx_age", "_idx_created_at", "_idx_idx_age", "_idx_updated_at"]) := by
          decide +kernel
  obtain ⟨s, hs, hg⟩ := Declaration.exists_of_build hbuild
  simp only [Prod.mk.injEq] at hg
  obtain ⟨hcollection, hnames, hbody, hfields⟩ := hg
  obtain ⟨hcreates, -, hnodup⟩ := nodup_columnNames_iff hs
  refine ⟨s, hs, hnodup.mpr ⟨by simp [hbody], ?_⟩, hcollection ▸ hnames ▸ hcreates⟩
  intro f hf _ hcolumn
  have hm : f.column ∈ s.fields.map Field.column := List.mem_map_of_mem hf
  rw [hcolumn, hbody, hfields] at hm
  simp at hm

/-- A body column is accepted although the table has a column of its name: that of the key, or that
of an indexed field. -/
theorem not_nodup_columnNames :
    (∃ s, (visits "_id").build = .ok s ∧ ¬s.table.columnNames.Nodup) ∧
    ∃ s, (visits "_idx_age").build = .ok s ∧ ¬s.table.columnNames.Nodup := by
  have hkey : (visits "_id").build.toOption.map (fun s => s.table.columnNames) =
      some ["_id", "_id", "_idx_age", "_idx_created_at", "_idx_idx_age", "_idx_updated_at"] := by
    decide +kernel
  have hfield : (visits "_idx_age").build.toOption.map (fun s => s.table.columnNames) =
      some ["_id", "_idx_age", "_idx_age", "_idx_created_at", "_idx_idx_age",
        "_idx_updated_at"] := by
    decide +kernel
  obtain ⟨s, hs, hnames⟩ := Declaration.exists_of_build hkey
  obtain ⟨t, ht, hcolumns⟩ := Declaration.exists_of_build hfield
  exact ⟨⟨s, hs, by rw [hnames]; decide⟩, ⟨t, ht, by rw [hcolumns]; decide⟩⟩

end Schema

end DocumentQuery
