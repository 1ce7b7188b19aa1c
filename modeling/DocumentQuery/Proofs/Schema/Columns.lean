import DocumentQuery.Proofs.Schema.Build
import DocumentQuery.Schema.Definition

/-!
# Fields and their generated columns

The column of a field is named after the field, and two names can give one column. A declaration
with two indexed fields of that kind is refused, so in an accepted schema a column belongs to one
field and has one definition, which computes it from the place of that field.
-/

namespace DocumentQuery

theorem filter_key_of_nodup {α : Type} (key : α → String) {items : List α}
    (h : (items.map key).Nodup) {a : α} (ha : a ∈ items) :
    (items.filter fun b => key b == key a) = [a] := by
  induction items with
  | nil => simp at ha
  | cons b rest ih =>
    rw [List.map_cons, List.nodup_cons] at h
    rcases List.mem_cons.mp ha with rfl | hr
    · have hrest : (rest.filter fun b => key b == key a) = [] := by
        rw [List.filter_eq_nil_iff]
        intro c hc hk
        apply h.1
        rw [← beq_iff_eq.mp hk]
        exact List.mem_map_of_mem hc
      have hself : (key a == key a) = true := beq_self_eq_true _
      rw [List.filter_cons, if_pos hself, hrest]
    · have hb : ¬(key b == key a) = true := by
        intro hk
        apply h.1
        rw [beq_iff_eq.mp hk]
        exact List.mem_map_of_mem hr
      rw [List.filter_cons, if_neg hb, ih h.2 hr]

namespace Declaration

/-- If no collision is found, then the images of the names differ from each other and from those
before them. -/
theorem nodup_of_collision? {image : String → String} {seen : List (String × String)}
    {names : List String} (h : collision? image seen names = none) :
    (names.map image).Nodup ∧ ∀ name ∈ names, image name ∉ seen.map Prod.fst := by
  induction names generalizing seen with
  | nil => simp
  | cons name rest ih =>
    simp only [collision?] at h
    cases hs : seen.find? fun s => s.1 == image name with
    | some s => simp [hs] at h
    | none =>
      simp only [hs] at h
      obtain ⟨hnodup, hfresh⟩ := ih h
      have hname : image name ∉ seen.map Prod.fst := by
        intro hm
        obtain ⟨p, hp, he⟩ := List.mem_map.mp hm
        have hne := List.find?_eq_none.mp hs p hp
        simp [he] at hne
      have hrest : image name ∉ rest.map image := by
        intro hm
        obtain ⟨other, ho, he⟩ := List.mem_map.mp hm
        apply hfresh other ho
        rw [he]
        exact List.mem_cons_self
      refine ⟨List.nodup_cons.mpr ⟨hrest, hnodup⟩, ?_⟩
      intro other ho
      rcases List.mem_cons.mp ho with rfl | ho
      · exact hname
      · intro hm
        exact hfresh other ho (List.mem_cons_of_mem _ hm)

theorem checkCollisions_ok {collection : String} {fields : List Field} {indexes : List Index}
    (h : checkCollisions collection fields indexes = .ok ()) :
    (((fields.filter Field.indexed).map Field.name).map generatedColumn).Nodup ∧
      ((indexSources fields indexes).map (indexName collection)).Nodup := by
  unfold checkCollisions at h
  cases hc : collision? generatedColumn [] ((fields.filter Field.indexed).map Field.name) with
  | some c => simp [hc] at h
  | none =>
    cases hi : collision? (indexName collection) [] (indexSources fields indexes) with
    | some c => simp [hc, hi] at h
    | none => exact ⟨(nodup_of_collision? hc).1, (nodup_of_collision? hi).1⟩

end Declaration

namespace Schema

/-- The indexed field that a generated column belongs to. -/
def columnField? (s : Schema) (column : String) : Option Field :=
  s.indexedFields.find? fun f => f.column == column

/-- The definitions of a column; the column of a field should have one. -/
def definitionsOf (s : Schema) (column : String) : List ColumnDefinition :=
  s.columnDefinitions.filter fun c => c.name == column

section Accepted

variable {d : Declaration} {s : Schema} (hs : d.build = .ok s)
include hs

theorem nodup_columns : (s.indexedFields.map Field.column).Nodup := by
  obtain ⟨-, -, -, hc, -⟩ := Declaration.build_ok hs
  have h := (Declaration.checkCollisions_ok hc).1
  rwa [List.map_map] at h

theorem columnField?_column {f : Field} (hf : f ∈ s.fields) (hi : f.indexed = true) :
    s.columnField? f.column = some f := by
  have hmem : f ∈ s.indexedFields := List.mem_filter.mpr ⟨hf, hi⟩
  rw [columnField?, ← List.head?_filter, filter_key_of_nodup Field.column (nodup_columns hs) hmem]
  rfl

/-- The column of an indexed field has one definition, which is that of the field. -/
theorem definitionsOf_column {f : Field} (hf : f ∈ s.fields) (hi : f.indexed = true) :
    s.definitionsOf f.column = [s.columnDefinition f] := by
  have hmem : f ∈ s.indexedFields := List.mem_filter.mpr ⟨hf, hi⟩
  have hfilter := filter_key_of_nodup Field.column (nodup_columns hs) hmem
  rw [definitionsOf, columnDefinitions, List.filter_map]
  exact congrArg (List.map s.columnDefinition) hfilter

end Accepted

end Schema

end DocumentQuery
