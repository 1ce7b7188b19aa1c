import DocumentQuery.Proofs.Schema.Agreement
import DocumentQuery.Proofs.Schema.Names

/-!
# The constraints of a collection

A field may be declared unique, and it may be declared not null. The first is the matter of an
index, which any field can have: a field without a column is indexed by its extraction. The second
is a part of the definition of a column, so it is lost if the field has none. `statements_constrain`
says what becomes of each declaration, and `not_statements_constrain` shows the loss.
-/

namespace DocumentQuery

namespace Sql

theorem doubled_cons (d c : Char) (s : List Char) :
    doubled d (c :: s) = c :: ((if c = d then [d] else []) ++ doubled d s) := by
  by_cases hc : c = d <;> simp [doubled, hc]

/-- A delimiter with no other one behind it does not begin a doubled text. -/
theorem doubled_cons_append_ne {d c : Char} {s x y : List Char} (hx : x.head? ≠ some d) :
    doubled d (c :: s) ++ y ≠ d :: x := by
  intro h
  rw [doubled_cons, List.cons_append, List.cons.injEq] at h
  obtain ⟨rfl, hrest⟩ := h
  rw [← hrest, if_pos rfl] at hx
  exact hx rfl

/-- Where a doubled text ends is known from a delimiter with no other one behind it. -/
theorem doubled_append_inj {d : Char} {s t x y : List Char} (hx : x.head? ≠ some d)
    (hy : y.head? ≠ some d) (h : doubled d s ++ d :: x = doubled d t ++ d :: y) :
    s = t ∧ x = y := by
  induction s generalizing t with
  | nil =>
    cases t with
    | nil => exact ⟨rfl, (List.cons.inj h).2⟩
    | cons c t => exact absurd h.symm (doubled_cons_append_ne hx)
  | cons c s ih =>
    cases t with
    | nil => exact absurd h (doubled_cons_append_ne hy)
    | cons c' t =>
      rw [doubled_cons, doubled_cons, List.cons_append, List.cons_append, List.cons.injEq] at h
      obtain ⟨rfl, hrest⟩ := h
      rw [List.append_assoc, List.append_assoc, List.append_cancel_left_eq] at hrest
      obtain ⟨rfl, hxy⟩ := ih hrest
      exact ⟨rfl, hxy⟩

/-- A quoted name is known from the text that begins with it, if no quotation mark follows. -/
theorem quotedIdentifier_append_inj {a b x y : String} (hx : x.toList.head? ≠ some doubleQuote)
    (hy : y.toList.head? ≠ some doubleQuote)
    (h : quotedIdentifier a ++ x = quotedIdentifier b ++ y) :
    a = b ∧ x = y := by
  have hlist := congrArg String.toList h
  simp only [String.toList_append, quotedIdentifier, String.toList_ofList, delimited,
    List.cons_append, List.append_assoc, List.cons.injEq, true_and, List.nil_append] at hlist
  obtain ⟨hname, hrest⟩ := doubled_append_inj hx hy hlist
  exact ⟨String.toList_inj.mp hname, String.toList_inj.mp hrest⟩

end Sql

/-- The words of a statement that come before the name of the index that it creates. -/
def indexWords (unique : Bool) : String :=
  "CREATE " ++ (if unique then "UNIQUE " else "") ++ "INDEX IF NOT EXISTS "

/-- The statement creates an index of this name. -/
def CreatesIndex (name text : String) : Prop :=
  ∃ unique rest, text = indexWords unique ++ (Sql.quotedIdentifier name ++ (" ON " ++ rest))

/-- The text creates this index, and no other text creates one of its name. -/
def CreatesOnce (i : IndexDefinition) (texts : List String) : Prop :=
  ∃ before after, texts = before ++ i.text :: after ∧ ∀ t ∈ before ++ after, ¬CreatesIndex i.name t

/-- The statement that creates a table with these lines for its columns. -/
def tableText (table : String) (lines : List String) : String :=
  "CREATE TABLE IF NOT EXISTS " ++ Sql.quotedIdentifier table ++ " (\n" ++
    String.intercalate ",\n" (lines.map fun line => "    " ++ line) ++ "\n)"

/-- The text creates a table with this line among those for its columns. -/
def HasLine (table line text : String) : Prop :=
  ∃ before after, text = tableText table (before ++ line :: after)

/-- What a statement creates is told by the first letter after its first word. -/
def CreatesWith (letter : Char) (text : String) : Prop :=
  ∃ rest, text = "CREATE " ++ (String.singleton letter ++ rest)

theorem CreatesWith.append {letter : Char} {text : String} (h : CreatesWith letter text)
    (more : String) :
    CreatesWith letter (text ++ more) := by
  obtain ⟨rest, rfl⟩ := h
  exact ⟨rest ++ more, by simp only [String.append_assoc]⟩

theorem CreatesWith.unique {a b : Char} {text : String} (ha : CreatesWith a text)
    (hb : CreatesWith b text) :
    a = b := by
  obtain ⟨x, rfl⟩ := ha
  obtain ⟨y, h⟩ := hb
  rw [String.append_right_inj, ← String.toList_inj] at h
  simp only [String.toList_append, String.toList_singleton, List.cons_append, List.cons.injEq] at h
  exact h.1

theorem createsWith_indexWords (unique : Bool) :
    CreatesWith (if unique then 'U' else 'I') (indexWords unique) := by
  cases unique
  · exact ⟨"NDEX IF NOT EXISTS ", by decide +kernel⟩
  · exact ⟨"NIQUE INDEX IF NOT EXISTS ", by decide +kernel⟩

theorem indexWords_append_inj {u v : Bool} {x y : String}
    (h : indexWords u ++ x = indexWords v ++ y) :
    u = v ∧ x = y := by
  have hu := (createsWith_indexWords u).append x
  rw [h] at hu
  have hletter := hu.unique ((createsWith_indexWords v).append y)
  have huv : u = v := by
    cases u <;> cases v <;> first | rfl | exact absurd hletter (by decide)
  subst huv
  exact ⟨rfl, (String.append_right_inj _).mp h⟩

theorem IndexDefinition.text_eq (i : IndexDefinition) :
    ∃ rest, i.text = indexWords i.unique ++ (Sql.quotedIdentifier i.name ++ (" ON " ++ rest)) := by
  have htext : i.text = indexWords i.unique ++ Sql.quotedIdentifier i.name ++ " ON " ++
      Sql.quotedIdentifier i.table ++ " (" ++ String.intercalate ", " (i.keys.map Sql.text) ++
        ")" := rfl
  refine ⟨Sql.quotedIdentifier i.table ++ " (" ++ String.intercalate ", " (i.keys.map Sql.text) ++
    ")", ?_⟩
  simp only [htext, String.append_assoc]

/-- The name that an index is created under is known from the statement. -/
theorem IndexDefinition.createsIndex_text_iff {i : IndexDefinition} {name : String} :
    CreatesIndex name i.text ↔ name = i.name := by
  obtain ⟨rest, htext⟩ := i.text_eq
  constructor
  · rintro ⟨unique, other, h⟩
    rw [htext] at h
    obtain ⟨-, hquoted⟩ := indexWords_append_inj h
    have hblank (more : String) : (" ON " ++ more).toList.head? ≠ some Sql.doubleQuote := by
      simp [String.toList_append, Sql.doubleQuote]
    exact (Sql.quotedIdentifier_append_inj (hblank _) (hblank _) hquoted).1.symm
  · rintro rfl
    exact ⟨i.unique, rest, htext⟩

theorem createsWith_tableText (table : String) (lines : List String) :
    CreatesWith 'T' (tableText table lines) := by
  have hwords : CreatesWith 'T' "CREATE TABLE IF NOT EXISTS " :=
    ⟨"ABLE IF NOT EXISTS ", by decide +kernel⟩
  exact (((hwords.append _).append _).append _).append _

theorem TableDefinition.text_eq (t : TableDefinition) :
    t.text = tableText t.name ("_id INTEGER PRIMARY KEY" ::
      (t.bodyColumn ++ " TEXT NOT NULL CHECK (json_valid(" ++ t.bodyColumn ++ "))") ::
      t.columns.map ColumnDefinition.text) := rfl

theorem TableDefinition.not_createsIndex_text (t : TableDefinition) (name : String) :
    ¬CreatesIndex name t.text := by
  rintro ⟨unique, rest, h⟩
  have hindex := (createsWith_indexWords unique).append
    (Sql.quotedIdentifier name ++ (" ON " ++ rest))
  rw [← h, text_eq] at hindex
  have hletter := (createsWith_tableText _ _).unique hindex
  cases unique <;> exact absurd hletter (by decide)

theorem TableDefinition.hasLine_text {t : TableDefinition} {c : ColumnDefinition}
    (h : c ∈ t.columns) :
    HasLine t.name c.text t.text := by
  obtain ⟨before, after, hcolumns⟩ := List.append_of_mem h
  refine ⟨"_id INTEGER PRIMARY KEY" ::
    (t.bodyColumn ++ " TEXT NOT NULL CHECK (json_valid(" ++ t.bodyColumn ++ "))") ::
    before.map ColumnDefinition.text, after.map ColumnDefinition.text, ?_⟩
  rw [text_eq, hcolumns, List.map_append, List.map_cons, List.cons_append, List.cons_append]

/-- The field with null allowed, unless it has a column. -/
def Field.relaxed (f : Field) : Field := { f with nullable := f.nullable || !f.indexed }

namespace Schema

theorem createsOnce_of_mem {d : Declaration} {s : Schema} (hs : d.build = .ok s)
    {i : IndexDefinition} (hi : i ∈ s.indexDefinitions) : CreatesOnce i s.statements := by
  obtain ⟨before, after, hindexes⟩ := List.append_of_mem hi
  have hnames := nodup_indexNames hs
  rw [hindexes, List.map_append, List.map_cons, List.nodup_append] at hnames
  obtain ⟨-, hafter, hbefore⟩ := hnames
  refine ⟨s.table.text :: before.map IndexDefinition.text, after.map IndexDefinition.text, ?_, ?_⟩
  · rw [statements, hindexes, List.map_append, List.map_cons, List.cons_append]
  · -- the other statements create the table, or indexes with other names
    intro t ht hcreates
    rw [List.cons_append, ← List.map_append, List.mem_cons, List.mem_map] at ht
    rcases ht with rfl | ⟨j, hj, rfl⟩
    · exact s.table.not_createsIndex_text i.name hcreates
    · have hname := IndexDefinition.createsIndex_text_iff.mp hcreates
      rcases List.mem_append.mp hj with hj | hj
      · exact hbefore j.name (List.mem_map_of_mem hj) i.name List.mem_cons_self hname.symm
      · exact (List.nodup_cons.mp hafter).1 (hname ▸ List.mem_map_of_mem hj)

/-- The schema with null allowed in every field that has no column. -/
def relaxed (s : Schema) : Schema := { s with fields := s.fields.map Field.relaxed }

theorem agree_relaxed (s : Schema) : Agree s.relaxed s where
  collection := rfl
  bodyColumn := rfl
  fields := by
    simp only [relaxed, List.map_map]
    rfl

theorem indexedFields_relaxed (s : Schema) : s.relaxed.indexedFields = s.indexedFields := by
  rw [indexedFields, relaxed, List.filter_map]
  refine (List.map_congr_left fun f hf => ?_).trans (List.map_id _)
  have hi : f.indexed = true := (List.mem_filter.mp hf).2
  have hnullable : (f.nullable || !f.indexed) = f.nullable := by simp [hi]
  rw [Field.relaxed, hnullable]
  rfl

/-- Whether null is allowed in a field without a column shows in no statement. -/
theorem statements_relaxed (s : Schema) : s.relaxed.statements = s.statements := by
  have htable : s.relaxed.table = s.table := by
    simp only [table, columnDefinitions, indexedFields_relaxed]
    rfl
  have hsingle : s.relaxed.singleIndexFields.map s.relaxed.singleIndex =
      s.singleIndexFields.map s.singleIndex := by
    have hfields : s.relaxed.singleIndexFields = s.singleIndexFields.map Field.relaxed :=
      List.filter_map ..
    rw [hfields, List.map_map]
    apply List.map_congr_left
    intro f _
    simp only [Function.comp, singleIndex, s.agree_relaxed.resolve_eq]
    rfl
  have hcompound : s.relaxed.indexes.map s.relaxed.compoundIndex =
      s.indexes.map s.compoundIndex := by
    apply List.map_congr_left
    intro i _
    simp only [compoundIndex, s.agree_relaxed.resolve_eq]
    rfl
  rw [statements, indexDefinitions, htable, hsingle, hcompound]
  rfl

/-- The line for the column of a field. -/
def columnLine (s : Schema) (f : Field) : String :=
  f.column ++ " " ++ f.type.columnType ++ " GENERATED ALWAYS AS (" ++
    String.ofList (s.columnExpression f) ++
    ") VIRTUAL" ++ (if f.nullable then "" else " NOT NULL")

theorem text_columnDefinition (s : Schema) (f : Field) :
    (s.columnDefinition f).text = s.columnLine f := by
  cases hn : f.nullable <;> simp [ColumnDefinition.text, columnDefinition, columnLine, hn]

/-- The statements for an accepted schema hold its constraints but one. An indexed field has one
column, by which it is read, and the column is NOT NULL exactly if null is not allowed; whether null
is allowed in a field without a column shows in no statement. A unique field has one unique index,
on what it is read by. A declared index is created once, on what its fields are read by in their
order, and is unique exactly if it is declared so. -/
theorem statements_constrain {d : Declaration} {s : Schema} (hs : d.build = .ok s) :
    (∀ f ∈ s.fields, s.resolve f.name = s.referenceTo f) ∧
    (∀ f ∈ s.fields, f.indexed = true →
      s.referenceTo f = .column f.column s.bodyColumn f.path ∧
      s.definitionsOf f.column = [s.columnDefinition f] ∧
      ∃ text ∈ s.statements, HasLine s.collection (s.columnLine f) text) ∧
    s.relaxed.statements = s.statements ∧
    (∀ f ∈ s.fields, f.unique = true →
      CreatesOnce ⟨indexName s.collection f.name, s.collection, [(s.resolve f.name).value], true⟩
        s.statements) ∧
    ∀ i ∈ s.indexes,
      CreatesOnce ⟨indexName s.collection i.name, s.collection,
        i.fields.map fun name => (s.resolve name).value, i.unique⟩ s.statements := by
  refine ⟨fun f hf => ?_, fun f hf hi => ⟨?_, definitionsOf_column hs hf hi, s.table.text, ?_, ?_⟩,
    s.statements_relaxed, fun f hf hu => ?_, fun i hi => ?_⟩
  · rw [resolve, field?_of_mem hs hf]
  · rw [referenceTo, if_pos hi]
  · exact List.mem_cons_self
  · have hmem : s.columnDefinition f ∈ s.table.columns :=
      List.mem_map_of_mem (List.mem_filter.mpr ⟨hf, hi⟩)
    rw [← text_columnDefinition]
    exact TableDefinition.hasLine_text hmem
  · have hmem : s.singleIndex f ∈ s.indexDefinitions :=
      List.mem_append_left _ (List.mem_map_of_mem (List.mem_filter.mpr ⟨hf, by simp [hu]⟩))
    have honce := createsOnce_of_mem hs hmem
    rwa [singleIndex, hu] at honce
  · exact createsOnce_of_mem hs (List.mem_append_right _ (List.mem_map_of_mem hi))

/-- Accounts with a unique address that has no column, and an owner with the given flags. -/
def accounts (indexed nullable : Bool) : Declaration where
  collection := "accounts"
  fields := [{ name := "owner", type := .text, indexed, nullable },
    { name := "address.mail", type := .text, unique := true }]
  indexes := [{ name := "by_owner", fields := ["owner", "address.mail"], unique := true }]

theorem statements_constrain_accounts :
    ∃ s, (accounts true false).build = .ok s ∧
      (∃ text ∈ s.statements, HasLine "accounts"
        "_idx_owner TEXT GENERATED ALWAYS AS (json_extract(data, '$.owner')) VIRTUAL NOT NULL"
          text) ∧
      CreatesOnce ⟨"idx_accounts_address_mail", "accounts",
        [(Reference.extract (.body "data") "$.address.mail").value], true⟩ s.statements ∧
      CreatesOnce ⟨"idx_accounts_by_owner", "accounts",
        [(Reference.column "_idx_owner" "data" "$.owner").value,
          (Reference.extract (.body "data") "$.address.mail").value], true⟩ s.statements := by
  have hbuild : (accounts true false).build.toOption.map (fun s =>
      (s.collection, s.indexes, s.resolve "owner", s.resolve "address.mail")) =
      some ("accounts", [⟨"by_owner", ["owner", "address.mail"], true⟩],
        .column "_idx_owner" "data" "$.owner", .extract (.body "data") "$.address.mail") := by
          decide +kernel
  have hfields : (accounts true false).build.toOption.map (fun s =>
      s.fields.map fun f => (f.name, f.unique, f.indexed, s.columnLine f)) =
      some [("address.mail", true, false, "_idx_address_mail TEXT GENERATED ALWAYS AS " ++
            "(json_extract(data, '$.address.mail')) VIRTUAL"),
          ("owner", false, true, "_idx_owner TEXT GENERATED ALWAYS AS " ++
            "(json_extract(data, '$.owner')) VIRTUAL NOT NULL")] := by decide +kernel
  obtain ⟨s, hs, hg⟩ := Declaration.exists_of_build hbuild
  rw [hs, Except.toOption, Option.map_some, Option.some.injEq] at hfields
  simp only [Prod.mk.injEq] at hg
  obtain ⟨hcollection, hindexes, hownerReference, hmailReference⟩ := hg
  obtain ⟨-, hcolumns, -, huniques, hcompound⟩ := statements_constrain hs
  refine ⟨s, hs, ?_, ?_, ?_⟩
  · obtain ⟨owner, ho, hfacts⟩ :=
      List.mem_map.mp (hfields ▸ List.mem_cons_of_mem _ List.mem_cons_self)
    simp only [Prod.mk.injEq] at hfacts
    obtain ⟨-, -, hindexed, hline⟩ := hfacts
    obtain ⟨-, -, text, ht, hhas⟩ := hcolumns owner ho hindexed
    rw [hline, hcollection] at hhas
    exact ⟨text, ht, hhas⟩
  · obtain ⟨mail, hm, hfacts⟩ := List.mem_map.mp (hfields ▸ List.mem_cons_self)
    simp only [Prod.mk.injEq] at hfacts
    obtain ⟨hname, hunique, -⟩ := hfacts
    have honce := huniques mail hm hunique
    have hindex : indexName "accounts" "address.mail" = "idx_accounts_address_mail" := by
      decide +kernel
    rwa [hname, hmailReference, hcollection, hindex] at honce
  · have honce := hcompound ⟨"by_owner", ["owner", "address.mail"], true⟩
      (hindexes ▸ List.mem_cons_self)
    have hindex : indexName "accounts" "by_owner" = "idx_accounts_by_owner" := by decide +kernel
    rwa [List.map_cons, List.map_cons, List.map_nil, hownerReference, hmailReference, hcollection,
      hindex] at honce

/-- An owner that may not be null is accepted without a column, and the statements are those for an
owner that may be null. -/
theorem not_statements_constrain :
    ∃ s t, (accounts false false).build = .ok s ∧ (accounts false true).build = .ok t ∧
      s.fields.map (fun f => (f.name, f.nullable)) = [("address.mail", true), ("owner", false)] ∧
      t.fields.map (fun f => (f.name, f.nullable)) = [("address.mail", true), ("owner", true)] ∧
      s.statements = t.statements ∧
      s.statements = [tableText "accounts" ["_id INTEGER PRIMARY KEY",
          "data TEXT NOT NULL CHECK (json_valid(data))"],
        "CREATE UNIQUE INDEX IF NOT EXISTS \"idx_accounts_address_mail\" ON \"accounts\" " ++
          "(json_extract(data, '$.address.mail'))",
        "CREATE UNIQUE INDEX IF NOT EXISTS \"idx_accounts_by_owner\" ON \"accounts\" " ++
          "(json_extract(data, '$.owner'), json_extract(data, '$.address.mail'))"] := by
  have hstrict : (accounts false false).build.toOption.map (fun s =>
      (s.fields.map (fun f => (f.name, f.nullable)), s.statements)) =
      some ([("address.mail", true), ("owner", false)],
        [tableText "accounts" ["_id INTEGER PRIMARY KEY",
          "data TEXT NOT NULL CHECK (json_valid(data))"],
          "CREATE UNIQUE INDEX IF NOT EXISTS \"idx_accounts_address_mail\" ON \"accounts\" " ++
            "(json_extract(data, '$.address.mail'))",
          "CREATE UNIQUE INDEX IF NOT EXISTS \"idx_accounts_by_owner\" ON \"accounts\" " ++
            "(json_extract(data, '$.owner'), json_extract(data, '$.address.mail'))"]) := by
              decide +kernel
  have hloose : (accounts false true).build.toOption.map (fun s =>
      s.fields.map (fun f => (f.name, f.nullable))) =
      some [("address.mail", true), ("owner", true)] := by decide +kernel
  have hsame : (accounts false true).build.toOption.map statements =
      (accounts false false).build.toOption.map statements := by decide +kernel
  obtain ⟨s, hs, hg⟩ := Declaration.exists_of_build hstrict
  obtain ⟨t, ht, hnames⟩ := Declaration.exists_of_build hloose
  simp only [Prod.mk.injEq] at hg
  rw [hs, ht] at hsame
  exact ⟨s, t, hs, ht, hg.1, hnames, (Option.some.inj hsame).symm, hg.2⟩

end Schema

end DocumentQuery
