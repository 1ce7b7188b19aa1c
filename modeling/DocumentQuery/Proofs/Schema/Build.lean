import DocumentQuery.Proofs.Sql.Words
import DocumentQuery.Schema.Declaration
import Mathlib.Data.List.Nodup

/-!
# Schemas that were accepted

What holds of a schema because its declaration passed every check. Its body column is a plain
identifier, and the generated column of any name is one too, so that both can be spliced into
statements as they are.
-/

namespace DocumentQuery

/-- An accepted declaration passed every check, and its schema holds what was declared. -/
theorem Declaration.build_ok {d : Declaration} {s : Schema} (h : d.build = .ok s) :
    Sql.isPlainIdentifier d.bodyColumn.toList = true ∧
    d.resolvedFields = .ok s.fields ∧
    checkIndexes s.fields [] d.indexes = .ok () ∧
    checkCollisions d.collection s.fields d.indexes = .ok () ∧
    s.collection = d.collection ∧ s.bodyColumn = d.bodyColumn ∧ s.indexes = d.indexes ∧
    s.timestamps = d.timestamps ∧ s.cacheable = d.cacheable := by
  unfold build at h
  cases hb : Sql.isPlainIdentifier d.bodyColumn.toList with
  | false => simp [hb] at h
  | true =>
    cases hf : d.resolvedFields with
    | error e => simp [hb, hf] at h
    | ok fields =>
      cases hi : checkIndexes fields [] d.indexes with
      | error e => simp [hb, hf, hi] at h
      | ok =>
        cases hc : checkCollisions d.collection fields d.indexes with
        | error e => simp [hb, hf, hi, hc] at h
        | ok =>
          simp only [hb, hf, hi, hc, Bool.not_true, Bool.false_eq_true, if_false,
            Except.ok.injEq] at h
          subst h
          exact ⟨rfl, rfl, hi, hc, rfl, rfl, rfl, rfl, rfl⟩

namespace Declaration

theorem insertField_perm (f : Field) (fields : List Field) :
    (insertField f fields).Perm (f :: fields) := by
  induction fields with
  | nil => exact List.Perm.refl _
  | cons g rest ih =>
    rw [insertField]
    split
    · exact List.Perm.refl _
    · exact (ih.cons g).trans (List.Perm.swap f g rest)

/-- The fields stand in the order of their names, each name before the next. -/
def Sorted (fields : List Field) : Prop := fields.Pairwise fun f g => f.name < g.name

theorem Sorted.nodup {fields : List Field} (h : Sorted fields) : (fields.map Field.name).Nodup := by
  refine List.pairwise_map.mpr (List.Pairwise.imp ?_ h)
  intro f g hlt heq
  rw [heq] at hlt
  exact String.lt_irrefl _ hlt

/-- A field whose name is not taken is put in its place. -/
theorem sorted_insertField {f : Field} {fields : List Field} (hf : declares fields f.name = false)
    (h : Sorted fields) : Sorted (insertField f fields) := by
  induction fields with
  | nil => exact List.pairwise_singleton _ f
  | cons g rest ih =>
    obtain ⟨hg, hrest⟩ := List.pairwise_cons.mp h
    simp only [declares, List.any_cons, Bool.or_eq_false_iff, beq_eq_false_iff_ne] at hf
    rw [insertField]
    split
    · next hlt =>
      refine List.pairwise_cons.mpr ⟨?_, h⟩
      intro x hx
      rcases List.mem_cons.mp hx with rfl | hx
      · exact hlt
      · exact String.lt_trans hlt (hg x hx)
    · next hle =>
      have hgf : g.name < f.name := Std.lt_of_le_of_ne (String.not_lt.mp hle) hf.1
      refine List.pairwise_cons.mpr ⟨?_, ih hf.2 hrest⟩
      intro x hx
      rcases List.mem_cons.mp ((insertField_perm f rest).mem_iff.mp hx) with rfl | hx
      · exact hgf
      · exact hg x hx

theorem addFields_cons_ok {before fields : List Field} {d : FieldDeclaration}
    {rest : List FieldDeclaration} (h : addFields before (d :: rest) = .ok fields) :
    declares before d.name = false ∧ addFields (insertField (toField d) before) rest =
      .ok fields := by
  rw [addFields] at h
  split at h
  · cases h
  · split at h
    · cases h
    · next hd => exact ⟨Bool.eq_false_iff.mpr hd, h⟩

theorem sorted_addFields {before fields : List Field} {ds : List FieldDeclaration}
    (hb : Sorted before) (h : addFields before ds = .ok fields) : Sorted fields := by
  induction ds generalizing before with
  | nil =>
    cases h
    exact hb
  | cons d rest ih =>
    obtain ⟨hd, h⟩ := addFields_cons_ok h
    exact ih (sorted_insertField (by simpa [toField] using hd) hb) h

theorem sorted_addMissing (f : Field) {fields : List Field} (h : Sorted fields) :
    Sorted (addMissing f fields) := by
  rw [addMissing]
  split
  · exact h
  · next hf => exact sorted_insertField (by simpa using hf) h

theorem sorted_resolvedFields {d : Declaration} {fields : List Field}
    (h : d.resolvedFields = .ok fields) :
    Sorted fields := by
  unfold resolvedFields at h
  cases hf : addFields [] d.fields with
  | error e => simp [hf] at h
  | ok declared =>
    have hdeclared : Sorted declared := sorted_addFields List.Pairwise.nil hf
    simp only [hf, Except.ok.injEq] at h
    subst h
    split
    · exact sorted_addMissing _ (sorted_addMissing _ hdeclared)
    · exact hdeclared

end Declaration

theorem find?_name_eq_some_iff {fields : List Field} (h : (fields.map Field.name).Nodup)
    {name : String} {f : Field} :
    (fields.find? fun g => g.name == name) = some f ↔ f ∈ fields ∧ f.name = name := by
  constructor
  · intro hf
    have hname := List.find?_some hf
    exact ⟨List.mem_of_find?_eq_some hf, beq_iff_eq.mp hname⟩
  · rintro ⟨hf, rfl⟩
    cases hg : fields.find? fun g => g.name == f.name with
    | none =>
      have hnone := List.find?_eq_none.mp hg f hf
      simp at hnone
    | some g =>
      have hname := List.find?_some hg
      rw [List.inj_on_of_nodup_map h (List.mem_of_find?_eq_some hg) hf (beq_iff_eq.mp hname)]

theorem Schema.field?_name {s : Schema} {name : String} {f : Field} (h : s.field? name = some f) :
    f ∈ s.fields ∧ f.name = name := by
  refine ⟨List.mem_of_find?_eq_some h, ?_⟩
  have hname := List.find?_some h
  exact beq_iff_eq.mp hname

/-- The fields of an accepted schema stand in the order of their names. -/
theorem Schema.sorted_fields {d : Declaration} {s : Schema} (h : d.build = .ok s) :
    Declaration.Sorted s.fields := by
  obtain ⟨-, hfields, -⟩ := Declaration.build_ok h
  exact Declaration.sorted_resolvedFields hfields

/-- The fields of an accepted schema have different names, so each is found by its own. -/
theorem Schema.field?_of_mem {d : Declaration} {s : Schema} (h : d.build = .ok s) {f : Field}
    (hf : f ∈ s.fields) : s.field? f.name = some f :=
  (find?_name_eq_some_iff (sorted_fields h).nodup).mpr ⟨hf, rfl⟩

theorem Schema.plain_bodyColumn {d : Declaration} {s : Schema} (h : d.build = .ok s) :
    Sql.isPlainIdentifier s.bodyColumn.toList = true := by
  obtain ⟨hp, -, -, -, -, hb, -⟩ := Declaration.build_ok h
  rw [hb]
  exact hp

theorem isColumnName_generatedColumn (field : String) :
    Sql.isColumnName (generatedColumn field).toList = true := by
  have hprefix : ['_', 'i', 'd', 'x', '_'].all Sql.isIdentifierChar = true := by decide
  have hchars : (identifierOf field).toList.all Sql.isIdentifierChar = true := by
    simp only [identifierOf, String.toList_ofList, List.all_map, List.all_eq_true]
    intro c _
    by_cases h : Sql.isIdentifierChar c = true <;> simp [h]
    decide
  have h : (generatedColumn field).toList =
      ['_', 'i', 'd', 'x', '_'] ++ (identifierOf field).toList := by
    simp [generatedColumn, String.toList_append]
  rw [h, Sql.isColumnName, List.all_append, hprefix, hchars]
  rfl

end DocumentQuery
