import DocumentQuery.Proofs.Schema.Build
import Mathlib.Data.List.Nodup

/-!
# The fields of a declaration

A collection has the fields that are declared and, if it keeps times, those of the two times whose
names are not taken. A schema holds them in the order of their names, and there is one such order
because the names differ. So a schema does not show in which order the fields were declared.
-/

namespace DocumentQuery

namespace Declaration

/-- The names of the times that a collection can keep. -/
def timeNames : List String := ["created_at", "updated_at"]

/-- The names of the times that are added to the declared fields. -/
def addedTimes (d : Declaration) : List String :=
  if d.timestamps then timeNames.filter fun n => n ∉ d.fields.map FieldDeclaration.name else []

/-- The names of all fields: those that are declared and the times that are added. -/
def names (d : Declaration) : List String := d.fields.map FieldDeclaration.name ++ d.addedTimes

def allFields (d : Declaration) : List Field :=
  d.fields.map toField ++ d.addedTimes.map timestampField

/-- All fields in the order of their names. -/
def orderedFields (d : Declaration) : List Field :=
  d.allFields.mergeSort fun f g => decide (f.name ≤ g.name)

theorem map_name_toField (ds : List FieldDeclaration) :
    (ds.map toField).map Field.name = ds.map FieldDeclaration.name := by
  rw [List.map_map]
  rfl

theorem map_name_timestampField (names : List String) :
    (names.map timestampField).map Field.name = names := by
  rw [List.map_map]
  exact List.map_id names

theorem map_name_allFields (d : Declaration) : d.allFields.map Field.name = d.names := by
  rw [allFields, List.map_append, map_name_toField, map_name_timestampField, names]

theorem nodup_names_iff (d : Declaration) :
    d.names.Nodup ↔ (d.fields.map FieldDeclaration.name).Nodup := by
  have htimes : d.addedTimes.Nodup := by
    have hall : timeNames.Nodup := by decide
    unfold addedTimes
    split
    · exact hall.filter _
    · exact List.nodup_nil
  have hfresh : (d.fields.map FieldDeclaration.name).Disjoint d.addedTimes := by
    intro n hn htime
    unfold addedTimes at htime
    split at htime
    · exact absurd hn (by simpa using (List.mem_filter.mp htime).2)
    · simp at htime
  rw [names, List.nodup_append']
  exact ⟨fun h => h.1, fun h => ⟨h, htimes, hfresh⟩⟩

theorem orderedFields_perm (d : Declaration) : d.orderedFields.Perm d.allFields :=
  List.mergeSort_perm _ _

/-- There is one way to put fields with different names in order. -/
theorem eq_of_perm_of_sorted {fields others : List Field} (h : fields.Perm others)
    (hf : Sorted fields) (ho : Sorted others) : fields = others := by
  have hasymm : ∀ f g : Field, f ∈ fields → g ∈ others → f.name < g.name →
      g.name < f.name → f = g := by
    intro f g _ _ hfg hgf
    exact absurd (String.lt_trans hfg hgf) (String.lt_irrefl _)
  exact List.Perm.eq_of_pairwise hasymm hf ho h

theorem sorted_orderedFields {d : Declaration} (h : (d.fields.map FieldDeclaration.name).Nodup) :
    Sorted d.orderedFields := by
  have hnames : (d.orderedFields.map Field.name).Nodup := by
    rw [(d.orderedFields_perm.map Field.name).nodup_iff, map_name_allFields]
    exact d.nodup_names_iff.mpr h
  have hordered : d.orderedFields.Pairwise fun f g => decide (f.name ≤ g.name) = true := by
    apply List.pairwise_mergeSort
    · intro f g k hfg hgk
      simp only [decide_eq_true_eq] at hfg hgk ⊢
      exact String.le_trans hfg hgk
    · intro f g
      simpa using String.le_total f.name g.name
  refine (hordered.and (List.pairwise_map.mp hnames)).imp ?_
  rintro f g ⟨hle, hne⟩
  exact Std.lt_of_le_of_ne (by simpa using hle) hne

theorem find?_name_of_perm {fields others : List Field} (h : fields.Perm others)
    (hnodup : (fields.map Field.name).Nodup) (name : String) :
    (fields.find? fun f => f.name == name) = others.find? fun f => f.name == name := by
  apply Option.ext
  intro f
  rw [find?_name_eq_some_iff hnodup, find?_name_eq_some_iff ((h.map _).nodup_iff.mp hnodup),
    h.mem_iff]

theorem declares_iff {fields : List Field} {name : String} :
    declares fields name = true ↔ name ∈ fields.map Field.name := by
  simp [declares]

theorem mem_map_name_insertField {f : Field} {fields : List Field} {name : String} :
    name ∈ (insertField f fields).map Field.name ↔ name = f.name ∨
      name ∈ fields.map Field.name := by
  rw [((insertField_perm f fields).map Field.name).mem_iff, List.map_cons, List.mem_cons]

theorem addFields_perm {before fields : List Field} {ds : List FieldDeclaration}
    (h : addFields before ds = .ok fields) : fields.Perm (before ++ ds.map toField) := by
  induction ds generalizing before with
  | nil =>
    cases h
    simp
  | cons d rest ih =>
    refine (ih (addFields_cons_ok h).2).trans ?_
    rw [List.map_cons]
    exact ((insertField_perm (toField d) before).append_right _).trans List.perm_middle.symm

theorem addTimestamps_perm (fields : List Field) :
    (addTimestamps fields).Perm
      (fields ++ (timeNames.filter fun n => n ∉ fields.map Field.name).map timestampField) := by
  have hadd (f : Field) (fields : List Field) :
      (addMissing f fields).Perm (fields ++ if f.name ∈ fields.map Field.name then []
        else [f]) := by
    rw [addMissing]
    by_cases hf : f.name ∈ fields.map Field.name
    · rw [if_pos (declares_iff.mpr hf), if_pos hf, List.append_nil]
    · rw [if_neg (mt declares_iff.mp hf), if_neg hf]
      exact (insertField_perm f fields).trans (List.perm_append_singleton f fields).symm
  have hcreated := hadd (timestampField "created_at") fields
  have hupdated := hadd (timestampField "updated_at")
    (addMissing (timestampField "created_at") fields)
  -- adding the one time does not take the name of the other
  have htaken : (timestampField "updated_at").name ∈
      (addMissing (timestampField "created_at") fields).map Field.name ↔
      "updated_at" ∈ fields.map Field.name := by
    rw [(hcreated.map Field.name).mem_iff, List.map_append, List.mem_append]
    split <;> simp [timestampField, toField]
  refine hupdated.trans ((hcreated.append_right _).trans ?_)
  rw [List.append_assoc]
  refine List.Perm.append_left fields (List.Perm.of_eq ?_)
  simp only [htaken, timeNames, List.filter_cons, List.filter_nil]
  by_cases hc : "created_at" ∈ fields.map Field.name <;> by_cases hu :
    "updated_at" ∈ fields.map Field.name <;>
    simp [hc, hu, timestampField, toField]

theorem resolvedFields_perm {d : Declaration} {fields : List Field}
    (h : d.resolvedFields = .ok fields) :
    fields.Perm d.allFields := by
  unfold resolvedFields at h
  cases hf : addFields [] d.fields with
  | error e => simp [hf] at h
  | ok declared =>
    have hdeclared : declared.Perm (d.fields.map toField) := addFields_perm hf
    simp only [hf, Except.ok.injEq] at h
    subst h
    unfold allFields addedTimes
    split
    · have hnames : ∀ n, n ∈ declared.map Field.name ↔ n ∈ d.fields.map FieldDeclaration.name := by
        intro n
        rw [(hdeclared.map Field.name).mem_iff, map_name_toField]
      refine (addTimestamps_perm declared).trans ?_
      simp only [hnames]
      exact hdeclared.append_right _
    · simpa using hdeclared

/-- If the fields can be put in order, their names differ and the schema has them in the order of
the names. -/
theorem resolvedFields_eq {d : Declaration} {fields : List Field}
    (h : d.resolvedFields = .ok fields) :
    (d.fields.map FieldDeclaration.name).Nodup ∧ fields = d.orderedFields := by
  have hsorted := sorted_resolvedFields h
  have hperm := resolvedFields_perm h
  have hnames : (d.fields.map FieldDeclaration.name).Nodup := by
    have hnodup := hsorted.nodup
    rwa [(hperm.map Field.name).nodup_iff, map_name_allFields, nodup_names_iff] at hnodup
  exact ⟨hnames, eq_of_perm_of_sorted (hperm.trans d.orderedFields_perm.symm) hsorted
    (sorted_orderedFields hnames)⟩

end Declaration

end DocumentQuery
