import DocumentQuery.Proofs.Filter.Accesses
import DocumentQuery.Proofs.Schema.Names

/-!
# Whether the body column is captured

The database looks a name without a qualifier up in the innermost subquery first, whose own source
counts as inside of it. The table of the items of an array has ten columns. A source that is a field
of the document is found in the body column, and that is the column of the row unless it goes by one
of the ten names.
-/

namespace DocumentQuery

open Sql

namespace Sql

/-- The columns of the table that `json_each` makes of an array. -/
def eachColumns : List String :=
  ["key", "value", "type", "atom", "id", "parent", "fullkey", "path", "json", "root"]

/-- Where a column is found: in the row, or in the table that an alias stands for. -/
inductive Owner
  | row
  | table (name : String)
  deriving DecidableEq, Repr

namespace Access

/-- Where a name without a qualifier is found in the text. All the tables around it have the same
columns. -/
def owner (x : Access) (column : String) : Owner :=
  match x.chain.getLast? with
  | some name => if folded column ∈ eachColumns then .table name else .row
  | none => .row

/-- The text is the source of a subquery and reads the name without a qualifier. -/
def SourceReads (x : Access) (column : String) : Prop :=
  x.introduces.isSome = true ∧ ∃ us, x.uses = some us ∧ .bare column ∈ us

theorem owner_source {x : Access} {name : String} (h : x.introduces = some name) (column : String) :
    x.owner column = if folded column ∈ eachColumns then .table name else .row := by
  rw [owner, chain, h, Option.toList_some, List.getLast?_append_of_ne_nil _ (List.cons_ne_nil _ _)]
  rfl

theorem owner_source_eq_row {x : Access} (h : x.introduces.isSome = true) (column : String) :
    x.owner column = .row ↔ folded column ∉ eachColumns := by
  obtain ⟨name, hname⟩ := Option.isSome_iff_exists.mp h
  rw [owner_source hname]
  constructor
  · intro hrow hmem
    rw [if_pos hmem] at hrow
    cases hrow
  · exact fun hmem => if_neg hmem

end Access

end Sql

variable {s : Schema}

/-- The only name without a qualifier in a source is the body column, in a part that is not inside a
filter on array elements. -/
theorem sourceReads_accessesAt {depth : Nat} {part : Filter} {x : Access}
    (hx : x ∈ accessesAt s (depth, part)) {column : String} (h : x.SourceReads column) :
    depth = 0 ∧ part.iterates = true ∧ column = s.bodyColumn ∧ x.scope = [] := by
  obtain ⟨hsource, us, hus, hmem⟩ := h
  rcases mem_accessesAt hx with ⟨path, u, -, rfl⟩ | ⟨hiterates, path, rfl⟩ | ⟨-, rfl⟩
  · cases hsource
  · rw [sourceOf, Option.some.injEq] at hus
    rw [← hus, List.mem_singleton] at hmem
    cases depth with
    | zero =>
      rw [Root.ofDepth, s.placeUse_document, ColumnUse.bare.injEq] at hmem
      exact ⟨rfl, hiterates, hmem, rfl⟩
    | succ depth =>
      rw [Root.ofDepth, s.placeUse_element] at hmem
      cases hmem
  · cases hsource

theorem exists_sourceReads (s : Schema) {part : Filter} (h : part.iterates = true) :
    ∃ x ∈ accessesAt s (0, part), x.SourceReads s.bodyColumn ∧
      x.introduces = some (elementAlias 1) := by
  have hmem (path : String) : .bare s.bodyColumn ∈ [(s.resolveIn .document path).placeUse] :=
    List.mem_singleton.mpr (s.placeUse_document path).symm
  match part with
  | .elemMatch path inner => exact ⟨_, List.mem_singleton_self _, ⟨rfl, _, rfl, hmem path⟩, rfl⟩
  | .test path (.member .all (v :: vs)) =>
    exact ⟨_, List.mem_cons_self, ⟨rfl, _, rfl, hmem path⟩, rfl⟩

namespace Filter

/-- In the sources of the statement of a filter, only the body column stands without a qualifier. It
is that of the row everywhere exactly if it has none of the names of the columns of `json_each`, in
capitals or not, or the filter goes through no array of the document. -/
theorem owner_body_compile_iff {d : Declaration} (hs : d.build = .ok s) {f : Filter} {q : Statement}
    (hq : f.compile s = .ok q) :
    ∃ e, Sql.parse q = some e ∧
      (∀ x ∈ e.accesses [], ∀ column, x.SourceReads column → column = s.bodyColumn ∧ x.scope = []) ∧
      ((∀ x ∈ e.accesses [], ∀ column, x.SourceReads column → x.owner column = .row) ↔
        folded s.bodyColumn ∉ eachColumns ∨ ∀ part, (0, part) ∈ f.visits 0 →
          part.iterates = false) := by
  obtain ⟨e, hparse, haccesses⟩ := accesses_parse_compile hs hq
  refine ⟨e, hparse, fun x hx column hread => ?_, ?_⟩
  · rw [haccesses] at hx
    obtain ⟨⟨depth, part⟩, -, hx⟩ := List.mem_flatMap.mp hx
    exact (sourceReads_accessesAt hx hread).2.2
  · simp only [haccesses, List.mem_flatMap]
    constructor
    · intro hrow
      by_cases hbody : folded s.bodyColumn ∈ eachColumns
      · refine .inr fun part hpart => ?_
        rw [Bool.eq_false_iff]
        intro hiterates
        obtain ⟨x, hx, hread, -⟩ := exists_sourceReads s hiterates
        have howner := hrow x ⟨_, hpart, hx⟩ _ hread
        exact (Access.owner_source_eq_row hread.1 _).mp howner hbody
      · exact .inl hbody
    · rintro h x ⟨⟨depth, part⟩, hpart, hx⟩ column hread
      obtain ⟨rfl, hiterates, rfl, -⟩ := sourceReads_accessesAt hx hread
      rcases h with hbody | hnone
      · exact (Access.owner_source_eq_row hread.1 _).mpr hbody
      · rw [hnone part hpart] at hiterates
        cases hiterates

/-- Readings whose documents are in a column of the given name. -/
def readings (body : String) : Declaration where
  collection := "readings"
  bodyColumn := body

/-- Documents with a tag. -/
def rawReadings : Filter := .test "tags" (.member .all [.text "raw"])

theorem owner_body_compile_iff_readings :
    ∃ s q e, (readings "doc").build = .ok s ∧ rawReadings.compile s = .ok q ∧ Sql.parse q = some e ∧
      (∀ x ∈ e.accesses [], ∀ column, x.SourceReads column → column = "doc" ∧ x.scope = []) ∧
      ∀ x ∈ e.accesses [], ∀ column, x.SourceReads column → x.owner column = .row := by
  have hok : (readings "doc").build.toOption.bind
      (fun s => (rawReadings.compile s).toOption.map fun _ =>
      s.bodyColumn) = some "doc" := by decide +kernel
  obtain ⟨s, q, hs, hq, hbody⟩ := exists_of_compile hok
  obtain ⟨e, hparse, hreads, hrow⟩ := owner_body_compile_iff hs hq
  have hname : folded s.bodyColumn ∉ eachColumns := by
    rw [hbody]
    decide
  exact ⟨s, q, e, hs, hq, hparse, hbody ▸ hreads, hrow.mpr (.inl hname)⟩

/-- If the column is named like one of `json_each`, the source finds it in the table that it is to
make. -/
theorem exists_owner_readings {body text : String} (hname : folded body ∈ eachColumns)
    (hok : (readings body).build.toOption.bind
      (fun s => (rawReadings.compile s).toOption.map fun q => (q.sql, s.bodyColumn)) =
        some (text, body)) :
    ∃ s q e, (readings body).build = .ok s ∧ rawReadings.compile s = .ok q ∧ q.sql = text ∧
      Sql.parse q = some e ∧ ∃ x ∈ e.accesses [], x.SourceReads body ∧
        x.owner body = .table "_e1" := by
  obtain ⟨s, q, hs, hq, hcomputed⟩ := exists_of_compile hok
  obtain ⟨hsql, rfl⟩ := Prod.mk.inj hcomputed
  obtain ⟨e, hparse, haccesses⟩ := accesses_parse_compile hs hq
  have hiterates : rawReadings.iterates = true := rfl
  obtain ⟨x, hx, hread, hsource⟩ := exists_sourceReads s hiterates
  refine ⟨s, q, e, hs, hq, hsql, hparse, x, ?_, hread, ?_⟩
  · rw [haccesses]
    exact List.mem_flatMap.mpr ⟨_, List.mem_singleton_self _, hx⟩
  · rw [Access.owner_source hsource, if_pos hname]
    rfl

/-- A body column is accepted that has the name of a column of `json_each`, in capitals or not. A
source then does not read it from the row. -/
theorem not_owner_body_compile :
    (∃ s q e, (readings "value").build = .ok s ∧ rawReadings.compile s = .ok q ∧
      q.sql = "EXISTS (SELECT 1 FROM json_each(value, '$.tags') AS _e1 WHERE _e1.value = ?)" ∧
      Sql.parse q = some e ∧ ∃ x ∈ e.accesses [], x.SourceReads "value" ∧
        x.owner "value" = .table "_e1") ∧
    ∃ s q e, (readings "JSON").build = .ok s ∧ rawReadings.compile s = .ok q ∧
      q.sql = "EXISTS (SELECT 1 FROM json_each(JSON, '$.tags') AS _e1 WHERE _e1.value = ?)" ∧
      Sql.parse q = some e ∧ ∃ x ∈ e.accesses [], x.SourceReads "JSON" ∧
        x.owner "JSON" = .table "_e1" :=
  ⟨exists_owner_readings (by decide) (by decide +kernel), exists_owner_readings (by decide)
    (by decide +kernel)⟩

end Filter

end DocumentQuery
