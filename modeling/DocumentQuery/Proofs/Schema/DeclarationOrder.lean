import DocumentQuery.Proofs.Schema.Tables
import DocumentQuery.Proofs.Schema.Validity
import DocumentQuery.Select

/-!
# The order in which fields are declared

Fields can be declared in any order: what is wrong with them does not depend on it, although what is
found first does, and the schema has them in the order of their names. So two declarations with the
same fields are both accepted or both refused, and accepted they make one schema, with one
fingerprint, the same tables and the same queries.
-/

namespace DocumentQuery

namespace Declaration

variable {d : Declaration} {fields : List FieldDeclaration}

theorem addedTimes_eq (h : d.fields.Perm fields) : d.addedTimes = { d with fields }.addedTimes := by
  have hnames : ∀ n, n ∈ d.fields.map FieldDeclaration.name ↔
      n ∈ fields.map FieldDeclaration.name :=
    fun n => (h.map _).mem_iff
  simp only [addedTimes, hnames]

theorem names_perm (h : d.fields.Perm fields) : d.names.Perm { d with fields }.names := by
  rw [names, addedTimes_eq h]
  exact (h.map _).append_right _

theorem allFields_perm (h : d.fields.Perm fields) :
    d.allFields.Perm { d with fields }.allFields := by
  rw [allFields, addedTimes_eq h]
  exact (h.map _).append_right _

theorem Valid.perm (hd : d.Valid) (h : d.fields.Perm fields) : { d with fields }.Valid where
  bodyColumn := hd.bodyColumn
  fieldNames := fun f hf => hd.fieldNames f (h.mem_iff.mpr hf)
  fieldsDiffer := (h.map _).nodup_iff.mp hd.fieldsDiffer
  indexesDiffer := hd.indexesDiffer
  indexFields := fun i hi =>
    ⟨(hd.indexFields i hi).1, fun n hn => (names_perm h).mem_iff.mp ((hd.indexFields i hi).2 n hn)⟩
  columnsDiffer := (((allFields_perm h).filter _).map _).nodup_iff.mp hd.columnsDiffer
  indexNamesDiffer := ((indexSources_perm (allFields_perm h) _).map _).nodup_iff.mp
    hd.indexNamesDiffer

theorem schema_perm (hd : d.Valid) (h : d.fields.Perm fields) :
    { d with fields }.schema = d.schema := by
  have hordered : { d with fields }.orderedFields = d.orderedFields := by
    have hperm : { d with fields }.orderedFields.Perm d.orderedFields :=
      (orderedFields_perm _).trans ((allFields_perm h).symm.trans (orderedFields_perm d).symm)
    exact eq_of_perm_of_sorted hperm (sorted_orderedFields (hd.perm h).fieldsDiffer)
      (sorted_orderedFields hd.fieldsDiffer)
  rw [schema, schema, hordered]

/-- If the fields are declared in another order, the declaration is accepted or refused as before,
and accepted it makes the same schema. -/
theorem build_perm (h : d.fields.Perm fields) :
    ((∃ s, d.build = .ok s) ↔ ∃ t, { d with fields }.build = .ok t) ∧
    ∀ s t, d.build = .ok s → { d with fields }.build = .ok t →
      s = t ∧ s.fields = t.fields ∧ s.code = t.code ∧ s.fingerprint = t.fingerprint ∧
        s.statements = t.statements ∧
        ∀ table f o, s.compileSelect table f o = t.compileSelect table f o := by
  constructor
  · rw [exists_build_iff, exists_build_iff]
    exact ⟨fun hd => hd.perm h, fun hd => hd.perm h.symm⟩
  · intro s t hs ht
    obtain ⟨hd, rfl⟩ := build_eq_ok_iff.mp hs
    obtain ⟨-, rfl⟩ := build_eq_ok_iff.mp ht
    simp only [schema_perm hd h, and_self, implies_true]

/-- Concerts with one of the times declared, so that only the other one is added. -/
def concerts : Declaration where
  collection := "concerts"
  fields := [{ name := "updated_at", type := .integer },
    { name := "seats", type := .integer, path := some "$.hall.seats" },
    { name := "hall.city", type := .text, indexed := true, unique := true }]
  indexes := [{ name := "by_city", fields := ["hall.city", "created_at"], unique := false }]
  timestamps := true

theorem build_perm_concerts :
    ∃ s t, concerts.build = .ok s ∧
      { concerts with fields := concerts.fields.reverse }.build = .ok t ∧
      s = t ∧ s.fields.map Field.name = ["created_at", "hall.city", "seats", "updated_at"] := by
  have hbuild : concerts.build.toOption.map (fun s => s.fields.map Field.name) =
      some ["created_at", "hall.city", "seats", "updated_at"] := by decide +kernel
  obtain ⟨s, hs, hnames⟩ := exists_of_build hbuild
  obtain ⟨haccepted, hsame⟩ := build_perm (d := concerts) concerts.fields.reverse_perm.symm
  obtain ⟨t, ht⟩ := haccepted.mp ⟨s, hs⟩
  exact ⟨s, t, hs, ht, (hsame s t hs ht).1, hnames⟩

/-- What is reported of two faults depends on the order. -/
example :
    let quoted : FieldDeclaration := { name := "a'b", type := .text }
    let unnamed : FieldDeclaration := { name := "", type := .text }
    errorOf { concerts with fields := [quoted, unnamed] }.build = some (.invalidName "a'b" .quote) ∧
      errorOf { concerts with fields := [unnamed, quoted] }.build =
        some (.invalidName "" .emptySegment) := by
  decide +kernel

end Declaration

end DocumentQuery
