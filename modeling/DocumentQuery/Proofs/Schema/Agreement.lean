import DocumentQuery.Proofs.Code.Bytes
import DocumentQuery.Proofs.Filter.Reads

/-!
# Schemas that agree

Queries read the body column of a schema, and of each field its name, path and type and whether it
has a column. Schemas that agree on these have the same code, and the other way round; filters make
the same conditions under them.
-/

namespace DocumentQuery

/-- What queries read of a field. -/
def Field.key (f : Field) : String × String × FieldType × Bool :=
  (f.name, f.path, f.type, f.indexed)

namespace Schema

/-- The schemas say the same about everything that queries read. -/
structure Agree (s t : Schema) : Prop where
  collection : s.collection = t.collection
  bodyColumn : s.bodyColumn = t.bodyColumn
  fields : s.fields.map Field.key = t.fields.map Field.key

theorem position_inj {a b : FieldType} (h : a.position = b.position) : a = b := by
  cases a <;> cases b <;> first | rfl | exact absurd h (by decide)

theorem position_lt (a : FieldType) : a.position < UInt64.size := by
  cases a <;> decide

theorem fieldCode_append_inj {f g : Field} {xs ys : List UInt8}
    (h : fieldCode f ++ xs = fieldCode g ++ ys) : f.key = g.key ∧ xs = ys := by
  simp only [fieldCode, List.append_assoc] at h
  obtain ⟨hn, h⟩ := textCode_append_inj h
  obtain ⟨hp, h⟩ := textCode_append_inj h
  obtain ⟨ht, h⟩ := countCode_append_inj (position_lt f.type) (position_lt g.type) h
  simp only [List.cons_append, List.nil_append, List.cons.injEq] at h
  have hi : f.indexed = g.indexed := by
    cases hf : f.indexed <;> cases hg : g.indexed <;> simp [hf, hg] at h ⊢
  exact ⟨by simp only [Field.key, hn, hp, position_inj ht, hi], h.2⟩

theorem fieldCode_of_key {f g : Field} (h : f.key = g.key) : fieldCode f = fieldCode g := by
  simp only [Field.key, Prod.mk.injEq] at h
  obtain ⟨hn, hp, ht, hi⟩ := h
  simp only [fieldCode, hn, hp, ht, hi]

theorem fieldCode_ne_nil (f : Field) : fieldCode f ≠ [] := by
  simp [fieldCode]

theorem flatMap_fieldCode_inj {fs gs : List Field} :
    fs.flatMap fieldCode = gs.flatMap fieldCode ↔ fs.map Field.key = gs.map Field.key := by
  induction fs generalizing gs with
  | nil =>
    cases gs with
    | nil => simp
    | cons g gs => simp [fieldCode_ne_nil g]
  | cons f fs ih =>
    cases gs with
    | nil => simp [fieldCode_ne_nil f]
    | cons g gs =>
      simp only [List.flatMap_cons, List.map_cons, List.cons.injEq]
      constructor
      · intro h
        obtain ⟨hk, h⟩ := fieldCode_append_inj h
        exact ⟨hk, ih.mp h⟩
      · rintro ⟨hk, h⟩
        rw [fieldCode_of_key hk, ih.mpr h]

/-- Schemas have the same code exactly if they agree. -/
theorem code_inj {s t : Schema} : s.code = t.code ↔ Agree s t := by
  simp only [code, List.append_assoc]
  constructor
  · intro h
    obtain ⟨hc, h⟩ := textCode_append_inj h
    obtain ⟨hb, h⟩ := textCode_append_inj h
    exact ⟨hc, hb, flatMap_fieldCode_inj.mp h⟩
  · rintro ⟨hc, hb, hf⟩
    rw [hc, hb, flatMap_fieldCode_inj.mpr hf]

theorem key_field? (s : Schema) (name : String) :
    (s.field? name).map Field.key = (s.fields.map Field.key).find? fun k => k.1 == name := by
  rw [List.find?_map]
  rfl

namespace Agree

variable {s t : Schema}

/-- A name is declared in both schemas, by fields that queries cannot tell apart, or in neither. -/
theorem field?_cases (h : Agree s t) (name : String) :
    s.field? name = none ∧ t.field? name = none ∨
      ∃ f g, s.field? name = some f ∧ t.field? name = some g ∧ f.key = g.key := by
  have hk : (s.field? name).map Field.key = (t.field? name).map Field.key := by
    rw [key_field?, key_field?, h.fields]
  cases hs : s.field? name with
  | none =>
    rw [hs, Option.map_none, eq_comm, Option.map_eq_none_iff] at hk
    exact .inl ⟨rfl, hk⟩
  | some f =>
    rw [hs, Option.map_some, eq_comm, Option.map_eq_some_iff] at hk
    obtain ⟨g, hg, he⟩ := hk
    exact .inr ⟨f, g, rfl, hg, he.symm⟩

theorem objection?_eq (h : Agree s t) (root : Root) (path : String) (op : Operator) :
    s.objection? root path op = t.objection? root path op := by
  cases root with
  | element depth => rfl
  | document =>
    rcases h.field?_cases path with ⟨hs, ht⟩ | ⟨f, g, hs, ht, hk⟩
    · simp only [Schema.objection?, hs, ht]
    · simp only [Field.key, Prod.mk.injEq] at hk
      simp only [Schema.objection?, hs, ht, hk.2.2.1]

theorem resolve_eq (h : Agree s t) (name : String) : s.resolve name = t.resolve name := by
  rcases h.field?_cases name with ⟨hs, ht⟩ | ⟨f, g, hs, ht, hk⟩
  · simp only [Schema.resolve, hs, ht, h.bodyColumn]
  · simp only [Field.key, Prod.mk.injEq] at hk
    obtain ⟨hn, hp, -, hi⟩ := hk
    simp only [Schema.resolve, hs, ht, referenceTo, Field.column, h.bodyColumn, hn, hp, hi]

theorem resolveIn_eq (h : Agree s t) (root : Root) (name : String) :
    s.resolveIn root name = t.resolveIn root name := by
  cases root with
  | document => exact h.resolve_eq name
  | element depth => rfl

theorem translates (h : Agree s t) : Translates id s t where
  bodyColumn := h.bodyColumn.symm
  objection? := fun root path op => (h.objection?_eq root path op).symm
  resolveIn := fun root path => (h.resolveIn_eq root path).symm
  element := fun _ => rfl

theorem condition_eq (h : Agree s t) (root : Root) (f : Filter) :
    f.condition s root = f.condition t root := (h.translates.condition_eq_of_id root f).symm

theorem tokens_eq (h : Agree s t) (f : Filter) : f.tokens s = f.tokens t := by
  simp only [Filter.tokens, h.condition_eq]

end Agree

end Schema

end DocumentQuery
