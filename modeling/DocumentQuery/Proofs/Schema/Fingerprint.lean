import DocumentQuery.Proofs.Schema.Agreement
import DocumentQuery.Proofs.Schema.Tables
import DocumentQuery.Proofs.Select.Relaxing

/-!
# What the fingerprint of a schema covers

A fingerprint is the hash of the code of a schema. The code tells the collection, the body column
and, in the order of their names, the fields with their paths and types and whether they are
indexed, and it runs none of these together. Filters, options and queries are compiled from these
alone: under schemas with one code they have the same statements and the same errors, whatever else
the schemas say about uniqueness, nulls, defaults, indexes over several fields, times and caching.
-/

namespace DocumentQuery

namespace Schema

namespace Agree

variable {s t : Schema}

theorem compile_eq (h : Agree s t) (f : Filter) : f.compile s = f.compile t := by
  rw [Filter.compile, Filter.compile, h.tokens_eq]

theorem readsAlike (h : Agree s t) : ReadsAlike s t where
  bodyColumn := h.translates.bodyColumn
  resolveIn := h.translates.resolveIn

theorem options_eq (h : Agree s t) (o : Options) : o.compile s = o.compile t :=
  (h.readsAlike.options_eq o).symm

theorem compileSelect_eq (h : Agree s t) (table : String) (f : Filter) (o : Options) :
    s.compileSelect table f o = t.compileSelect table f o :=
  (h.readsAlike.compileSelect_eq (h.compile_eq f).symm table o).symm

end Agree

/-- The fields of accepted schemas stand in the order of their names. The schemas have one code
exactly if they have the same collection, the same body column and the same names, paths, types and
index flags in this order; and then filters, options and queries have the same statements and slots,
or the same errors, under both. -/
theorem code_eq_iff_agree {d e : Declaration} {s t : Schema} (hs : d.build = .ok s)
    (ht : e.build = .ok t) :
    Declaration.Sorted s.fields ∧ Declaration.Sorted t.fields ∧
    (s.code = t.code ↔ s.collection = t.collection ∧ s.bodyColumn = t.bodyColumn ∧
      s.fields.map (fun f => (f.name, f.path, f.type, f.indexed)) =
        t.fields.map (fun f => (f.name, f.path, f.type, f.indexed))) ∧
    (s.code = t.code → ∀ (f : Filter) (o : Options) (table : String),
      f.tokens s = f.tokens t ∧ f.compile s = f.compile t ∧ o.compile s = o.compile t ∧
        s.compileSelect table f o = t.compileSelect table f o) := by
  refine ⟨sorted_fields hs, sorted_fields ht, ?_, ?_⟩
  · rw [code_inj]
    constructor
    · intro h
      exact ⟨h.collection, h.bodyColumn, h.fields⟩
    · rintro ⟨hcollection, hbody, hfields⟩
      exact ⟨hcollection, hbody, hfields⟩
  · intro hcode f o table
    have hagree : Agree s t := code_inj.mp hcode
    exact ⟨hagree.tokens_eq f, hagree.compile_eq f, hagree.options_eq o,
      hagree.compileSelect_eq table f o⟩

/-- Logs by their level, in a body column of the given name, with times that are declared as any
other field. -/
def logs (collection body : String) : Declaration where
  collection := collection
  bodyColumn := body
  fields := [{ name := "updated_at", type := .text, indexed := true },
    { name := "level", type := .integer },
    { name := "created_at", type := .text, indexed := true }]

/-- Logs with the times that every collection can have, and everything that queries do not read. -/
def strictLogs : Declaration where
  collection := "logs"
  fields := [
    { name := "level", type := .integer, unique := true, nullable := false, default := some .null }]
  indexes := [{ name := "by_level", fields := ["level", "created_at"], unique := true }]
  timestamps := true
  cacheable := false

/-- What queries read of the fields of both. -/
def logFields : List (String × String × FieldType × Bool) :=
  [("created_at", "$.created_at", .text, true), ("level", "$.level", .integer, false),
    ("updated_at", "$.updated_at", .text, true)]

theorem code_eq_iff_agree_logs :
    ∃ s t u, (logs "logs" "data").build = .ok s ∧ strictLogs.build = .ok t ∧
      (logs "log" "sdata").build = .ok u ∧ s.code ≠ u.code ∧ s.code = t.code ∧
      s.timestamps ≠ t.timestamps ∧ s.cacheable ≠ t.cacheable ∧
      ∀ f o table, s.compileSelect table f o = t.compileSelect table f o := by
  have hlogs : (logs "logs" "data").build.toOption.map (fun s =>
      (s.collection, s.bodyColumn, s.timestamps, s.cacheable)) =
        some ("logs", "data", false, true) := by
    decide +kernel
  have hstrict : strictLogs.build.toOption.map (fun s =>
      (s.collection, s.bodyColumn, s.timestamps, s.cacheable)) =
        some ("logs", "data", true, false) := by
    decide +kernel
  have hfields : (logs "logs" "data").build.toOption.map (fun s => s.fields.map Field.key) =
      some logFields := by decide +kernel
  have hfields' : strictLogs.build.toOption.map (fun s => s.fields.map Field.key) =
      some logFields := by
    decide +kernel
  have hother : (logs "log" "sdata").build.toOption.map collection = some "log" := by decide +kernel
  obtain ⟨s, hs, hg⟩ := Declaration.exists_of_build hlogs
  obtain ⟨t, ht, hg'⟩ := Declaration.exists_of_build hstrict
  obtain ⟨u, hu, hcollectionOther⟩ := Declaration.exists_of_build hother
  rw [hs, Except.toOption, Option.map_some, Option.some.injEq] at hfields
  rw [ht, Except.toOption, Option.map_some, Option.some.injEq] at hfields'
  simp only [Prod.mk.injEq] at hg hg'
  obtain ⟨hcollection, hbody, htimes, hcache⟩ := hg
  obtain ⟨hcollection', hbody', htimes', hcache'⟩ := hg'
  obtain ⟨-, -, hiff, hsame⟩ := code_eq_iff_agree hs ht
  have hcode : s.code = t.code :=
    hiff.mpr ⟨hcollection.trans hcollection'.symm, hbody.trans hbody'.symm,
      hfields.trans hfields'.symm⟩
  have hdiffer : s.code ≠ u.code := by
    intro h
    obtain ⟨-, -, hiffOther, -⟩ := code_eq_iff_agree hs hu
    have hnames := (hiffOther.mp h).1
    rw [hcollection, hcollectionOther] at hnames
    exact absurd hnames (by decide)
  have hother : s.timestamps ≠ t.timestamps ∧ s.cacheable ≠ t.cacheable := by
    simp [htimes, htimes', hcache, hcache']
  refine ⟨s, t, u, hs, ht, hu, hdiffer, hcode, hother.1, hother.2, ?_⟩
  intro f o table
  exact (hsame hcode f o table).2.2.2

end Schema

end DocumentQuery
