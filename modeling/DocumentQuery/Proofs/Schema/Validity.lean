import DocumentQuery.Proofs.Schema.Faults

/-!
# Declarations that are accepted

A declaration is accepted exactly if it is valid: its body column is an identifier, its fields have
names, and names differ wherever two things may not share one. The schema of a valid declaration can
be written down without checking anything. Otherwise building reports the first fault.
-/

namespace DocumentQuery

namespace Declaration

structure Valid (d : Declaration) : Prop where
  bodyColumn : Sql.IsIdentifier d.bodyColumn
  fieldNames : ∀ f ∈ d.fields, IsFieldName f.name
  fieldsDiffer : (d.fields.map FieldDeclaration.name).Nodup
  indexesDiffer : (d.indexes.map Index.name).Nodup
  /-- Every index has a field, and is on declared fields and times that are kept only. -/
  indexFields : ∀ i ∈ d.indexes, i.fields ≠ [] ∧ ∀ n ∈ i.fields, n ∈ d.names
  columnsDiffer : ((d.allFields.filter Field.indexed).map Field.column).Nodup
  indexNamesDiffer : ((indexSources d.allFields d.indexes).map (indexName d.collection)).Nodup

theorem fieldFaults_eq_nil_iff (earlier : List FieldDeclaration) (f : FieldDeclaration) :
    fieldFaults earlier f = [] ↔ IsFieldName f.name ∧
      f.name ∉ earlier.map FieldDeclaration.name := by
  rw [fieldFaults, List.append_eq_nil_iff, List.map_eq_nil_iff, nameFaults_eq_nil_iff]
  simp

theorem indexFaults_eq_nil_iff (names : List String) (earlier : List Index) (i : Index) :
    indexFaults names earlier i = [] ↔
      (i.fields ≠ [] ∧ ∀ n ∈ i.fields, n ∈ names) ∧ i.name ∉ earlier.map Index.name := by
  have hunknown : (i.fields.filter fun n => n ∉ names) = [] ↔ ∀ n ∈ i.fields, n ∈ names := by
    simp [List.filter_eq_nil_iff]
  rw [indexFaults, List.append_eq_nil_iff, List.append_eq_nil_iff, List.map_eq_nil_iff,
    hunknown, and_comm]
  simp

theorem faultsFrom_clashes_eq_nil_iff (image : String → String) (names : List String) :
    faultsFrom (clashes image) [] names = [] ↔ (names.map image).Nodup := by
  have h (earlier : List String) (name : String) :
      clashes image earlier name = [] ↔ True ∧ image name ∉ earlier.map image := by
    rw [clashes_eq_nil_iff, true_and]
  rw [faultsFrom_eq_nil_iff h]
  simp

theorem columnFaults_eq_nil_iff {fields others : List Field} (h : fields.Perm others) :
    columnFaults fields = [] ↔ ((others.filter Field.indexed).map Field.column).Nodup := by
  rw [columnFaults, List.map_eq_nil_iff, faultsFrom_clashes_eq_nil_iff, List.map_map]
  exact ((h.filter Field.indexed).map Field.column).nodup_iff

theorem indexSources_perm {fields others : List Field} (h : fields.Perm others)
    (indexes : List Index) :
    (indexSources fields indexes).Perm (indexSources others indexes) :=
  ((h.filter _).map Field.name).append_right _

theorem indexNameFaults_eq_nil_iff {fields others : List Field} (h : fields.Perm others)
    (collection : String) (indexes : List Index) : indexNameFaults collection fields indexes = [] ↔
      ((indexSources others indexes).map (indexName collection)).Nodup := by
  rw [indexNameFaults, List.map_eq_nil_iff, faultsFrom_clashes_eq_nil_iff]
  exact ((indexSources_perm h indexes).map (indexName collection)).nodup_iff

/-- A declaration is valid exactly if nothing is wrong with it. -/
theorem faults_eq_nil_iff (d : Declaration) : d.faults = [] ↔ d.Valid := by
  have hbody : (if Sql.isPlainIdentifier d.bodyColumn.toList then []
      else [DeclarationError.invalidName d.bodyColumn .notIdentifier]) = [] ↔
        Sql.IsIdentifier d.bodyColumn := by
    rw [← Sql.isPlainIdentifier_iff]
    simp
  have hperm := d.orderedFields_perm
  simp only [faults, List.append_eq_nil_iff, hbody, faultsFrom_eq_nil_iff fieldFaults_eq_nil_iff,
    faultsFrom_eq_nil_iff (indexFaults_eq_nil_iff d.names), columnFaults_eq_nil_iff hperm,
    indexNameFaults_eq_nil_iff hperm]
  constructor
  · rintro ⟨hbody, ⟨hnames, hdiffer, -⟩, ⟨hfields, hindexes, -⟩, hcolumns, hindexNames⟩
    exact ⟨hbody, hnames, hdiffer, hindexes, hfields, hcolumns, hindexNames⟩
  · intro h
    exact ⟨h.bodyColumn, ⟨h.fieldNames, h.fieldsDiffer, by simp⟩,
      ⟨h.indexFields, h.indexesDiffer, by simp⟩, h.columnsDiffer, h.indexNamesDiffer⟩

/-- The schema that a declaration describes. -/
def schema (d : Declaration) : Schema where
  collection := d.collection
  bodyColumn := d.bodyColumn
  fields := d.orderedFields
  indexes := d.indexes
  timestamps := d.timestamps
  cacheable := d.cacheable

theorem exists_build_iff (d : Declaration) : (∃ s, d.build = .ok s) ↔ d.Valid := by
  rw [← errorOf_eq_none, errorOf_build, List.head?_eq_none_iff, faults_eq_nil_iff]

/-- Building gives a valid declaration its schema. -/
theorem build_eq_ok_iff {d : Declaration} {s : Schema} :
    d.build = .ok s ↔ d.Valid ∧ s = d.schema := by
  have hschema {s : Schema} (h : d.build = .ok s) : s = d.schema := by
    obtain ⟨-, hfields, -, -, hcollection, hbody, hindexes, htimes, hcache⟩ := build_ok h
    obtain ⟨-, hordered⟩ := resolvedFields_eq hfields
    cases s
    simp_all [schema]
  constructor
  · intro h
    exact ⟨d.exists_build_iff.mp ⟨s, h⟩, hschema h⟩
  · rintro ⟨hvalid, rfl⟩
    obtain ⟨s, hs⟩ := d.exists_build_iff.mpr hvalid
    rw [hs, hschema hs]

/-- A declaration is accepted exactly if it is valid, and otherwise it is refused with its first
fault. -/
theorem build_eq_error_iff (d : Declaration) :
    ((∃ s, d.build = .ok s) ↔ d.Valid) ∧ ∀ e, d.build = .error e ↔ d.faults.head? = some e := by
  refine ⟨d.exists_build_iff, fun e => ?_⟩
  rw [← errorOf_eq_some, errorOf_build]

/-- Two fields that share a column share the name of an index too, but the column comes first. -/
example :
    let floor : FieldDeclaration := { name := "wing.floor", type := .integer, indexed := true }
    let rooms : Declaration :=
      { collection := "rooms", fields := [{ floor with name := "wing_floor" }, floor] }
    errorOf rooms.build = some (.columnCollision "_idx_wing_floor" "wing.floor" "wing_floor") := by
  decide +kernel

end Declaration

end DocumentQuery
