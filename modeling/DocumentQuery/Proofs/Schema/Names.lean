import DocumentQuery.Proofs.Schema.Tables
import Mathlib.Data.List.Nodup

/-!
# Names as the database compares them

The database takes names that differ in the case of ASCII letters only for the same, and `CREATE
INDEX IF NOT EXISTS` does nothing if there is an index of that name. The names that are made for the
columns and indexes of an accepted schema differ as texts. Whether they also differ as names of the
database is a matter of the names they were made from: `DifferBeyondCase` says what these have to
satisfy.
-/

namespace DocumentQuery

namespace Sql

/-- A name as the database compares it, without the case of ASCII letters. -/
def folded (name : String) : String := String.ofList (name.toList.map Char.toLower)

theorem folded_append (a b : String) : folded (a ++ b) = folded a ++ folded b := by
  simp only [folded, String.toList_append, List.map_append, String.ofList_append]

end Sql

open Sql (folded)

/-- What `CREATE INDEX IF NOT EXISTS` makes of the indexes that are there: it adds one unless its
name is taken. -/
def createIndex (present : List IndexDefinition) (i : IndexDefinition) : List IndexDefinition :=
  if folded i.name ∈ present.map fun j => folded j.name then present else present ++ [i]

/-- The indexes that are there after one statement for each of the given indexes. -/
def createIndexes (present indexes : List IndexDefinition) : List IndexDefinition :=
  indexes.foldl createIndex present

/-- One statement adds at most one index, so a statement that adds none is not made up for. -/
theorem length_createIndexes_le (present indexes : List IndexDefinition) :
    (createIndexes present indexes).length ≤ present.length + indexes.length := by
  induction indexes generalizing present with
  | nil => exact Nat.le_refl _
  | cons i rest ih =>
    have hstep : (createIndex present i).length ≤ present.length + 1 := by
      unfold createIndex
      split <;> simp
    have hrest := ih (createIndex present i)
    rw [createIndexes, List.foldl_cons]
    rw [createIndexes] at hrest
    simp only [List.length_cons]
    omega

/-- All of the indexes are created exactly if their names differ from each other and from those
before them in more than the case of letters. -/
theorem createIndexes_eq_append_iff (present indexes : List IndexDefinition) :
    createIndexes present indexes = present ++ indexes ↔
      (indexes.map fun i => folded i.name).Nodup ∧
        ∀ i ∈ indexes, folded i.name ∉ present.map fun j => folded j.name := by
  induction indexes generalizing present with
  | nil => simp [createIndexes]
  | cons i rest ih =>
    rw [createIndexes, List.foldl_cons, ← createIndexes]
    by_cases htaken : folded i.name ∈ present.map fun j => folded j.name
    · constructor
      · intro h
        -- the statement adds nothing, and the rest cannot add more than its own number
        rw [createIndex, if_pos htaken] at h
        have hlength := length_createIndexes_le present rest
        rw [h, List.length_append, List.length_cons] at hlength
        omega
      · rintro ⟨-, hfresh⟩
        exact absurd htaken (hfresh i List.mem_cons_self)
    · have happend : present ++ i :: rest = (present ++ [i]) ++ rest := by simp
      rw [createIndex, if_neg htaken, happend, ih]
      simp only [List.map_cons, List.nodup_cons, List.map_append, List.map_nil,
        List.mem_append, not_or, List.mem_cons, List.not_mem_nil, or_false, forall_eq_or_imp]
      constructor
      · rintro ⟨hnodup, hrest⟩
        refine ⟨⟨?_, hnodup⟩, htaken, fun j hj => (hrest j hj).1⟩
        intro hm
        obtain ⟨j, hj, hname⟩ := List.mem_map.mp hm
        exact (hrest j hj).2 hname
      · rintro ⟨⟨hi, hnodup⟩, -, hrest⟩
        refine ⟨hnodup, fun j hj => ⟨hrest j hj, ?_⟩⟩
        intro hname
        exact hi (hname ▸ List.mem_map_of_mem hj)

/-- No two of the names become identifiers that differ in the case of letters only. -/
def DifferBeyondCase (names : List String) : Prop :=
  ∀ a ∈ names, ∀ b ∈ names, folded (identifierOf a) = folded (identifierOf b) →
    identifierOf a = identifierOf b

instance (names : List String) : Decidable (DifferBeyondCase names) := by
  unfold DifferBeyondCase
  infer_instance

theorem folded_append_right_inj (start : String) {a b : String} :
    folded (start ++ a) = folded (start ++ b) ↔ folded a = folded b := by
  rw [Sql.folded_append, Sql.folded_append, String.append_right_inj]

/-- Names that are made of a common beginning and an identifier, and that differ as texts, differ to
the database exactly if the identifiers do. -/
theorem nodup_folded_iff {start : String} {names : List String}
    (h : (names.map fun n => start ++ identifierOf n).Nodup) :
    (names.map fun n => folded (start ++ identifierOf n)).Nodup ↔ DifferBeyondCase names := by
  rw [List.nodup_map_iff_inj_on h.of_map]
  have hinj := List.inj_on_of_nodup_map h
  constructor
  · intro hfolded a ha b hb hab
    rw [hfolded a ha b hb ((folded_append_right_inj start).mpr hab)]
  · intro hdiffer a ha b hb hab
    have hid := hdiffer a ha b hb ((folded_append_right_inj start).mp hab)
    apply hinj ha hb
    simp only [hid]

namespace Schema

/-- The names of everything that has an index. -/
def indexSources (s : Schema) : List String := Declaration.indexSources s.fields s.indexes

theorem names_indexDefinitions (s : Schema) :
    s.indexDefinitions.map IndexDefinition.name = s.indexSources.map (indexName s.collection) := by
  simp only [indexDefinitions, indexSources, Declaration.indexSources, singleIndexFields,
    List.map_append, List.map_map]
  rfl

theorem nodup_indexNames {d : Declaration} {s : Schema} (hs : d.build = .ok s) :
    (s.indexDefinitions.map IndexDefinition.name).Nodup := by
  obtain ⟨-, -, -, hc, hcollection, -, hindexes, -⟩ := Declaration.build_ok hs
  rw [names_indexDefinitions, indexSources, hcollection, hindexes]
  exact (Declaration.checkCollisions_ok hc).2

/-- The indexes of an accepted schema differ to the database exactly if the names of everything with
an index differ beyond the case of letters. -/
theorem nodup_folded_indexNames_iff {d : Declaration} {s : Schema} (hs : d.build = .ok s) :
    (s.indexDefinitions.map fun i => folded i.name).Nodup ↔ DifferBeyondCase s.indexSources := by
  have hsources :
      (s.indexSources.map fun n => "idx_" ++ s.collection ++ "_" ++ identifierOf n).Nodup := by
    have hindexes := nodup_indexNames hs
    rw [names_indexDefinitions] at hindexes
    exact hindexes
  have hfolded : (s.indexDefinitions.map fun i => folded i.name) =
      s.indexSources.map fun n => folded ("idx_" ++ s.collection ++ "_" ++ identifierOf n) := by
    have h := congrArg (List.map folded) s.names_indexDefinitions
    rw [List.map_map, List.map_map] at h
    exact h
  rw [hfolded]
  exact nodup_folded_iff hsources

/-- The columns of an accepted schema and its indexes differ as texts. They differ to the database,
so that every index is created, exactly if the names of the indexed fields, and of everything with
an index, differ beyond the case of letters. -/
theorem nodup_folded_names_iff {d : Declaration} {s : Schema} (hs : d.build = .ok s) :
    (s.indexedFields.map Field.column).Nodup ∧
    (s.indexDefinitions.map IndexDefinition.name).Nodup ∧
    ((s.indexedFields.map fun f => folded f.column).Nodup ↔
      DifferBeyondCase (s.indexedFields.map Field.name)) ∧
    ((s.indexDefinitions.map fun i => folded i.name).Nodup ↔ DifferBeyondCase s.indexSources) ∧
    (createIndexes [] s.indexDefinitions = s.indexDefinitions ↔
      DifferBeyondCase s.indexSources) := by
  have hcolumns :
      ((s.indexedFields.map Field.name).map fun n => "_idx_" ++ identifierOf n).Nodup := by
    rw [List.map_map]
    exact nodup_columns hs
  have hindexes := nodup_folded_indexNames_iff hs
  refine ⟨nodup_columns hs, nodup_indexNames hs, ?_, hindexes, ?_⟩
  · rw [← nodup_folded_iff hcolumns, List.map_map]
    rfl
  · have hcreated := createIndexes_eq_append_iff [] s.indexDefinitions
    rw [List.nil_append] at hcreated
    rw [hcreated, hindexes]
    simp

/-- Members by their name and number, with names in mixed case. -/
def members (number : String) : Declaration where
  collection := "members"
  fields := [{ name := "Name", type := .text, indexed := true },
    { name := number, type := .integer, indexed := true, unique := true },
    { name := "name.first", type := .text, unique := true }]
  indexes := [{ name := "by_Name", fields := ["Name", number], unique := false }]

theorem nodup_folded_names_iff_members :
    ∃ s, (members "No").build = .ok s ∧ DifferBeyondCase s.indexSources ∧
      s.indexDefinitions.map IndexDefinition.name =
        ["idx_members_Name", "idx_members_No", "idx_members_name_first", "idx_members_by_Name"] ∧
      (s.indexedFields.map fun f => folded f.column).Nodup ∧
      createIndexes [] s.indexDefinitions = s.indexDefinitions := by
  have hbuild : (members "No").build.toOption.map
      (fun s => (s.indexedFields.map Field.name, s.indexSources,
        s.indexDefinitions.map IndexDefinition.name)) =
      some (["Name", "No"], ["Name", "No", "name.first", "by_Name"],
        ["idx_members_Name", "idx_members_No", "idx_members_name_first",
          "idx_members_by_Name"]) := by
    decide +kernel
  obtain ⟨s, hs, hg⟩ := Declaration.exists_of_build hbuild
  simp only [Prod.mk.injEq] at hg
  obtain ⟨hfields, hsources, hnames⟩ := hg
  have hdiffer : DifferBeyondCase s.indexSources := by
    rw [hsources]
    decide +kernel
  have hcolumns : DifferBeyondCase (s.indexedFields.map Field.name) := by
    rw [hfields]
    decide +kernel
  obtain ⟨-, -, hfolded, -, hcreated⟩ := nodup_folded_names_iff hs
  exact ⟨s, hs, hdiffer, hnames, hfolded.mpr hcolumns, hcreated.mpr hdiffer⟩

/-- Two indexed fields are accepted although their columns differ in the case of letters only, and
two unique fields although one of their indexes is never created, with which the constraint is
lost. -/
theorem not_nodup_folded_names :
    (∃ s, (members "naMe").build = .ok s ∧
      s.indexedFields.map Field.column = ["_idx_Name", "_idx_naMe"] ∧
      ¬(s.indexedFields.map fun f => folded f.column).Nodup) ∧
    ∃ s, (members "Name_First").build = .ok s ∧
      s.indexDefinitions.map (fun i => (i.name, i.unique)) =
        [("idx_members_Name", false), ("idx_members_Name_First", true),
          ("idx_members_name_first", true),
          ("idx_members_by_Name", false)] ∧
      (createIndexes [] s.indexDefinitions).map IndexDefinition.name =
        ["idx_members_Name", "idx_members_Name_First", "idx_members_by_Name"] := by
  have hcolumns : (members "naMe").build.toOption.map
      (fun s => (s.indexedFields.map Field.column, s.indexedFields.map fun f => folded f.column)) =
      some (["_idx_Name", "_idx_naMe"], ["_idx_name", "_idx_name"]) := by decide +kernel
  have hindexes : (members "Name_First").build.toOption.map
      (fun s => (s.indexDefinitions.map (fun i => (i.name, i.unique)),
        (createIndexes [] s.indexDefinitions).map IndexDefinition.name)) =
      some ([("idx_members_Name", false), ("idx_members_Name_First", true),
        ("idx_members_name_first", true),
          ("idx_members_by_Name", false)],
        ["idx_members_Name", "idx_members_Name_First", "idx_members_by_Name"]) := by decide +kernel
  obtain ⟨s, hs, hnames⟩ := Declaration.exists_of_build hcolumns
  obtain ⟨t, ht, hcreated⟩ := Declaration.exists_of_build hindexes
  simp only [Prod.mk.injEq] at hnames hcreated
  exact ⟨⟨s, hs, hnames.1, by rw [hnames.2]; decide⟩, t, ht, hcreated⟩

end Schema

end DocumentQuery
