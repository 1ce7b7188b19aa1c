import DocumentQuery.Proofs.Schema.DeclarationOrder
import DocumentQuery.Proofs.Select.Relaxing

/-!
# Declaring a plain field

A field that is neither indexed nor unique and lies where its name says is read as if it were not
declared. So a declaration can be extended by such a field: it stays valid, and its queries stay the
same, but that the type of the field may refuse some of them. A text refuses none.
-/

namespace DocumentQuery

namespace Declaration

/-- The field has no index and no place of its own. -/
structure Plain (f : FieldDeclaration) : Prop where
  path : f.path = none
  indexed : f.indexed = false
  unique : f.unique = false

section

variable {d : Declaration} {f : FieldDeclaration}

theorem addedTimes_cons (h : f.name ∉ d.names) : { d with fields :=
  f :: d.fields }.addedTimes = d.addedTimes := by
  unfold addedTimes
  cases htimes : d.timestamps with
  | false => rfl
  | true =>
    simp only [if_true]
    apply List.filter_congr
    intro n hn
    -- a time with the name of the field would be added to the declaration
    have hne : n ∉ d.fields.map FieldDeclaration.name → n ≠ f.name := by
      rintro hfresh rfl
      apply h
      rw [names, addedTimes, htimes, if_pos rfl]
      exact List.mem_append_right _ (List.mem_filter.mpr ⟨hn, by simpa using hfresh⟩)
    simp only [List.map_cons, List.mem_cons, not_or, decide_eq_decide]
    exact ⟨fun hn => hn.2, fun hn => ⟨hne hn, hn⟩⟩

theorem allFields_cons (h : f.name ∉ d.names) :
    { d with fields := f :: d.fields }.allFields = toField f :: d.allFields := by
  rw [allFields, addedTimes_cons h]
  rfl

theorem names_cons (h : f.name ∉ d.names) :
    { d with fields := f :: d.fields }.names = f.name :: d.names := by
  rw [names, addedTimes_cons h]
  rfl

/-- A plain field gets no column and no index, so the names that have to differ are the same but for
its own. -/
theorem Valid.cons (hd : d.Valid) (hname : IsFieldName f.name) (hnew : f.name ∉ d.names)
    (hf : Plain f) :
    { d with fields := f :: d.fields }.Valid where
  bodyColumn := hd.bodyColumn
  fieldNames := List.forall_mem_cons.mpr ⟨hname, hd.fieldNames⟩
  fieldsDiffer := List.nodup_cons.mpr ⟨fun h => hnew (List.mem_append_left _ h), hd.fieldsDiffer⟩
  indexesDiffer := hd.indexesDiffer
  indexFields := by
    intro i hi
    obtain ⟨hne, hfields⟩ := hd.indexFields i hi
    rw [names_cons hnew]
    exact ⟨hne, fun n hn => List.mem_cons_of_mem _ (hfields n hn)⟩
  columnsDiffer := by
    have hcolumn : (toField f).indexed = false := hf.indexed
    rw [allFields_cons hnew, List.filter_cons_of_neg (by simp [hcolumn])]
    exact hd.columnsDiffer
  indexNamesDiffer := by
    have hindex : ((toField f).indexed || (toField f).unique) = false := by
      simp [toField, hf.indexed, hf.unique]
    rw [allFields_cons hnew, indexSources, List.filter_cons_of_neg (by simp [hindex])]
    exact hd.indexNamesDiffer

theorem field?_schema_eq_none_iff {name : String} :
    d.schema.field? name = none ↔ name ∉ d.names := by
  rw [← map_name_allFields, ← (d.orderedFields_perm.map Field.name).mem_iff, Schema.field?,
    List.find?_eq_none, List.mem_map]
  simp [schema]

end

end Declaration

namespace Schema

/-- The second schema has the fields of the first and one more, which lies where its name says and
has no column. -/
structure ExtendedBy (s t : Schema) (f : Field) : Prop where
  bodyColumn : t.bodyColumn = s.bodyColumn
  fresh : s.field? f.name = none
  field? : ∀ name, t.field? name = if f.name = name then some f else s.field? name
  path : f.path = Path.ofField f.name
  indexed : f.indexed = false

namespace ExtendedBy

variable {s t : Schema} {f : Field}

/-- A name is declared in both schemas alike, or it is that of the field which the first one does
not have. -/
theorem field?_cases (h : ExtendedBy s t f) (name : String) :
    t.field? name = s.field? name ∨ name = f.name ∧ t.field? name = some f ∧
    s.field? name = none := by
  rw [h.field?]
  split
  · next hname => exact .inr ⟨hname.symm, rfl, hname ▸ h.fresh⟩
  · exact .inl rfl

theorem readsAlike (h : ExtendedBy s t f) : ReadsAlike t s where
  bodyColumn := h.bodyColumn.symm
  resolveIn := by
    intro root name
    cases root with
    | element depth => rfl
    | document =>
      simp only [resolveIn, resolve]
      rcases h.field?_cases name with hsame | ⟨rfl, ht, hs⟩
      · simp only [hsame, referenceTo, h.bodyColumn]
      · simp [ht, hs, referenceTo, h.indexed, h.path, h.bodyColumn]

theorem relaxes (h : ExtendedBy s t f) : Relaxes t s where
  toReadsAlike := h.readsAlike
  admits := by
    intro root name op hop
    cases root with
    | element depth => rfl
    | document =>
      simp only [objection?] at hop ⊢
      rcases h.field?_cases name with hsame | ⟨-, -, hs⟩
      · rwa [hsame] at hop
      · rw [hs]

theorem objection?_text (op : Operator) : FieldType.text.objection? op = none := by
  simp [FieldType.objection?, FieldType.isTextual, FieldType.isOrdered]

theorem translates (h : ExtendedBy s t f) (htext : f.type = .text) : Translates id t s where
  bodyColumn := h.bodyColumn.symm
  objection? := by
    intro root name op
    cases root with
    | element depth => rfl
    | document =>
      simp only [objection?]
      rcases h.field?_cases name with hsame | ⟨-, ht, hs⟩
      · rw [hsame]
      · simp only [ht, hs, htext, objection?_text]
  resolveIn := h.readsAlike.resolveIn
  element := fun _ => rfl

theorem compileSelect_eq (h : ExtendedBy s t f) (htext : f.type = .text) (table : String)
    (filter : Filter) (o : Options) :
    t.compileSelect table filter o = s.compileSelect table filter o := by
  have hfilter : filter.compile s = filter.compile t := by
    rw [Filter.compile, Filter.compile, Filter.tokens, Filter.tokens,
      (h.translates htext).condition_eq_of_id]
  exact (h.readsAlike.compileSelect_eq hfilter table o).symm

end ExtendedBy

theorem extendedBy_schema {d : Declaration} {f : FieldDeclaration} (hd : d.Valid)
    (hname : IsFieldName f.name) (hnew : f.name ∉ d.names) (hf : Declaration.Plain f) :
    ExtendedBy d.schema { d with fields := f :: d.fields }.schema (Declaration.toField f) where
  bodyColumn := rfl
  fresh := Declaration.field?_schema_eq_none_iff.mpr hnew
  field? := by
    intro name
    have hvalid := hd.cons hname hnew hf
    have hperm : { d with fields := f :: d.fields }.orderedFields.Perm
        (Declaration.toField f :: d.orderedFields) := by
      refine (Declaration.orderedFields_perm _).trans ?_
      rw [Declaration.allFields_cons hnew]
      exact (d.orderedFields_perm.symm).cons _
    have hfind := Declaration.find?_name_of_perm hperm
      (Declaration.sorted_orderedFields hvalid.fieldsDiffer).nodup name
    refine hfind.trans ?_
    by_cases hsame : (Declaration.toField f).name = name
    · simp only [List.find?_cons, beq_iff_eq.mpr hsame, if_pos hsame]
    · simp only [List.find?_cons, beq_eq_false_iff_ne.mpr hsame, if_neg hsame]
      rfl
  path := by simp [Declaration.toField, hf.path]
  indexed := hf.indexed

/-- A plain field can be added to an accepted declaration wherever it stands among the fields. Every
query of the extended schema is one of the schema before, and if the field is a text, every query
has the same statement or the same error under both. -/
theorem compileSelect_plainField {d : Declaration} {s : Schema} (hs : d.build = .ok s)
    {f : FieldDeclaration} (hname : IsFieldName f.name) (hnew : s.field? f.name = none)
    (hf : Declaration.Plain f) {fields : List FieldDeclaration} (h : (f :: d.fields).Perm fields) :
    ∃ t, { d with fields }.build = .ok t ∧ ∀ table filter o,
      (∀ q, t.compileSelect table filter o = .ok q → s.compileSelect table filter o = .ok q) ∧
      (f.type = .text → t.compileSelect table filter o = s.compileSelect table filter o) := by
  obtain ⟨hd, rfl⟩ := Declaration.build_eq_ok_iff.mp hs
  have hfresh : f.name ∉ d.names := Declaration.field?_schema_eq_none_iff.mp hnew
  have hvalid := hd.cons hname hfresh hf
  have hextended := extendedBy_schema hd hname hfresh hf
  have hbuild : { d with fields }.build = .ok { d with fields := f :: d.fields }.schema :=
    Declaration.build_eq_ok_iff.mpr ⟨hvalid.perm h, (Declaration.schema_perm hvalid h).symm⟩
  exact ⟨_, hbuild, fun table filter o =>
    ⟨fun q hq => hextended.relaxes.compileSelect_ok hq, fun htext => hextended.compileSelect_eq
      htext table filter o⟩⟩

/-- Shops by city, and by whatever fields are declared besides. -/
def shops (others : List FieldDeclaration) : Declaration where
  collection := "shops"
  fields := { name := "city", type := .text, path := some "$.address.city", indexed :=
    true } :: others
  timestamps := true

/-- The number of the first floor, or what it is called. -/
def firstFloor (type : FieldType) : FieldDeclaration := { name := "floors.0", type }

def lowShops : Filter := .test "floors.0" (.compare .lt (.integer 2))

def gardenShops : Filter := .test "floors.0" (.pattern .contains "garden")

theorem compileSelect_plainField_shops :
    ∃ s t u, (shops []).build = .ok s ∧ (shops [firstFloor .integer]).build = .ok t ∧
      (shops [firstFloor .text]).build = .ok u ∧
      (∃ q, t.compileSelect "shops" lowShops {} = .ok q ∧
        s.compileSelect "shops" lowShops {} = .ok q) ∧
      t.compileSelect "shops" gardenShops {} =
        .error (.unsupported "floors.0" (.pattern .contains) (.patternOn .integer)) ∧
      ∃ q, u.compileSelect "shops" gardenShops {} = .ok q ∧ s.compileSelect "shops" gardenShops {} =
        .ok q := by
  have hplain : (shops []).build.toOption.map (fun s =>
      ((s.field? "floors.0").isNone, errorOf (s.compileSelect "shops" gardenShops {}))) =
        some (true, none) := by
    decide +kernel
  have hinteger : (shops [firstFloor .integer]).build.toOption.map (fun t =>
      (errorOf (t.compileSelect "shops" lowShops {}),
        errorOf (t.compileSelect "shops" gardenShops {}))) =
      some (none, some (.unsupported "floors.0" (.pattern .contains) (.patternOn .integer))) := by
    decide +kernel
  have hname (type : FieldType) : IsFieldName (firstFloor type).name :=
    (nameFaults_eq_nil_iff "floors.0").mp (by decide +kernel)
  have hfield (type : FieldType) : Declaration.Plain (firstFloor type) := ⟨rfl, rfl, rfl⟩
  have hfields (type : FieldType) : (firstFloor type :: (shops []).fields).Perm
      (shops [firstFloor type]).fields :=
    .swap _ _ []
  obtain ⟨s, hs, hcomputed⟩ := Declaration.exists_of_build hplain
  obtain ⟨hnone, hgarden⟩ := Prod.mk.inj hcomputed
  have hnew : s.field? "floors.0" = none := Option.isNone_iff_eq_none.mp hnone
  obtain ⟨q, hq⟩ := errorOf_eq_none.mp hgarden
  obtain ⟨t, ht, hqueries⟩ := compileSelect_plainField hs (hname .integer) hnew (hfield .integer)
    (hfields .integer)
  obtain ⟨u, hu, htexts⟩ := compileSelect_plainField hs (hname .text) hnew (hfield .text)
    (hfields .text)
  obtain ⟨t, ht', hcomputed⟩ := Declaration.exists_of_build hinteger
  cases ht.symm.trans ht'
  obtain ⟨hlow, hgarden⟩ := Prod.mk.inj hcomputed
  obtain ⟨p, hp⟩ := errorOf_eq_none.mp hlow
  exact ⟨s, t, u, hs, ht, hu, ⟨p, hp, (hqueries _ _ _).1 p hp⟩, errorOf_eq_some.mp hgarden,
    q, ((htexts _ _ _).2 rfl).trans hq, hq⟩

end Schema

end DocumentQuery
