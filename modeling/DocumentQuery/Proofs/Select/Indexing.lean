import DocumentQuery.Proofs.Schema.Columns
import DocumentQuery.Proofs.Select.Rewriting

/-!
# Queries with and without generated columns

Indexing a field only changes where its value is read. Without any generated column a query is the
same but that each column gives way to the extraction that the column is defined as, and a column
with a default is defined as that extraction with the default where it gives nothing.
-/

namespace DocumentQuery

open Sql (Token Keeps Statement)

namespace Sql

/-- The characters of a token, those of a generated column as the function has them. -/
def Token.charsWith (column : String → List Char) : Token → List Char
  | .generated c => column c
  | t => t.chars

/-- The characters of tokens with something else in place of the generated columns. -/
def charsWith (column : String → List Char) (ts : List Token) : List Char :=
  ts.flatMap (Token.charsWith column)

/-- With the names of the columns in their places it is the text of the tokens. -/
theorem charsWith_toList (ts : List Token) : charsWith String.toList ts = chars ts := by
  unfold charsWith chars
  congr 1
  funext t
  cases t <;> rfl

theorem charsWith_congr {column column' : String → List Char} {ts : List Token}
    (h : ∀ c, .generated c ∈ ts → column c = column' c) :
    charsWith column ts = charsWith column' ts := by
  apply List.flatMap_congr
  intro t ht
  cases t with
  | generated c => exact h c ht
  | _ => rfl

/-- An expression with a default where it gives nothing. -/
def withDefault (default : Option Value) (expression : List Char) : List Char :=
  match default with
  | none => expression
  | some value => "COALESCE(".toList ++ expression ++ ',' :: ' ' :: (literal value ++ [')'])

end Sql

def Field.unindexed (f : Field) : Field := { f with indexed := false }

/-- A field without its column. -/
def Reference.unindexed : Reference → Reference
  | .column _ body path => .extract (.body body) path
  | r => r

namespace Schema

/-- The schema without generated columns. -/
def unindexed (s : Schema) : Schema := { s with fields := s.fields.map Field.unindexed }

theorem field?_unindexed (s : Schema) (name : String) :
    s.unindexed.field? name = (s.field? name).map Field.unindexed := by
  unfold field? unindexed
  rw [List.find?_map]
  rfl

theorem resolve_unindexed (s : Schema) (name : String) :
    s.unindexed.resolve name = (s.resolve name).unindexed := by
  unfold resolve
  rw [field?_unindexed]
  cases s.field? name with
  | none => rfl
  | some f =>
    cases hi : f.indexed <;>
      simp [referenceTo, hi, Field.unindexed, Reference.unindexed, Schema.unindexed]

theorem translates_unindexed (s : Schema) : Translates Reference.unindexed s s.unindexed where
  bodyColumn := rfl
  objection? := by
    intro root path op
    cases root with
    | element depth => rfl
    | document =>
      simp only [objection?, field?_unindexed]
      cases s.field? path <;> rfl
  resolveIn := by
    intro root path
    cases root with
    | document => exact s.resolve_unindexed path
    | element depth =>
      simp only [resolveIn, resolveElement]
      split <;> rfl
  element := fun _ => rfl

/-- How a field is read without its column. -/
def plainReading (s : Schema) (f : Field) : List Token := (s.unindexed.resolve f.name).value

/-- A token with the reading of its field in place of a generated column. -/
def inlined (s : Schema) : Token → List Token
  | .generated c =>
    match s.columnField? c with
    | some f => s.plainReading f
    | none => [.generated c]
  | t => [t]

/-- What stands for a generated column if the function is applied to the reading of its field. -/
def reading (s : Schema) (change : Field → List Char → List Char) (column : String) : List Char :=
  match s.columnField? column with
  | some f => change f (Sql.chars (s.plainReading f))
  | none => column.toList

/-- The expression that the definitions of a schema assign to a generated column. -/
def assigned (s : Schema) (column : String) : List Char :=
  match s.definitionsOf column with
  | definition :: _ => definition.expression
  | [] => column.toList

theorem chars_inlined (s : Schema) (t : Token) :
    Sql.chars (s.inlined t) = t.charsWith (s.reading fun _ reading => reading) := by
  cases t with
  | generated c =>
    simp only [inlined, Token.charsWith, reading]
    cases s.columnField? c with
    | none => simp [Token.chars]
    | some f => rfl
  | _ => simp [inlined, Token.charsWith]

theorem chars_flatMap_inlined (s : Schema) (ts : List Token) :
    Sql.chars (ts.flatMap s.inlined) = Sql.charsWith (s.reading fun _ reading => reading) ts := by
  unfold Sql.charsWith
  rw [Sql.chars, List.flatMap_assoc]
  congr 1
  funext t
  exact s.chars_inlined t

theorem params_flatMap_inlined (s : Schema) (ts : List Token) :
    Sql.params (ts.flatMap s.inlined) = Sql.params ts := by
  induction ts with
  | nil => rfl
  | cons t rest ih =>
    have ht : Sql.params (s.inlined t) = t.param?.toList := by
      cases t with
      | generated c =>
        simp only [inlined]
        cases s.columnField? c with
        | none => rfl
        | some f => exact Reference.params_value _
      | param p => rfl
      | _ => rfl
    rw [List.flatMap_cons, Sql.params_append, Sql.params_cons, ih, ht]

theorem keeps_inlined (s : Schema) : Keeps s.inlined id where
  fixed := by
    intro t ht
    cases t <;> first | rfl | simp [Token.isFixed] at ht
  param := fun _ => rfl

/-- A generated column in a query is that of an indexed field that the query names, it has one
definition, and the definition extracts the path of that field, with its default where that gives
nothing. -/
structure Defines (s : Schema) (f : Filter) (o : Options) (column : String) (field : Field) :
    Prop where
  read : (.document, field.name) ∈ queryReads f o
  declared : s.field? field.name = some field
  indexed : field.indexed = true
  name : column = field.column
  unique : s.definitionsOf column = [s.columnDefinition field]
  plain : s.plainReading field = Sql.call .extract [[.body s.bodyColumn], [.string field.path]]
  expression : (s.columnDefinition field).expression =
    Sql.withDefault field.default (Sql.chars (s.plainReading field))

section Accepted

variable {d : Declaration} {s : Schema} (hs : d.build = .ok s) {table : String} {f : Filter}
  {o : Options}

theorem plainReading_eq {field : Field} (h : s.field? field.name = some field) :
    s.plainReading field = s.extraction field := by
  rw [plainReading, resolve_unindexed, resolve, h]
  cases hi : field.indexed <;> simp [referenceTo, hi, Reference.unindexed, extraction]

theorem columnDefinition_expression {field : Field} (h : s.field? field.name = some field) :
    (s.columnDefinition field).expression =
      Sql.withDefault field.default (Sql.chars (s.plainReading field)) := by
  rw [plainReading_eq h]
  show s.columnExpression field = _
  unfold columnExpression Sql.withDefault
  cases field.default with
  | none => rfl
  | some value => rfl

include hs

theorem defines_of_selectTokens {ts : List Token} (h : s.selectTokens table f o = .ok ts)
    {column : String} (hc : .generated column ∈ ts) : ∃ field, s.Defines f o column field := by
  cases writes_of_selectTokens h _ hc with
  | fixed h => cases h
  | @column field hi hf hr =>
    exact ⟨field, hr, hf, hi, rfl, definitionsOf_column hs (field?_name hf).1 hi,
      plainReading_eq hf, columnDefinition_expression hf⟩

/-- Inlining makes of what a query reads what it is without generated columns, and keeps the
rest. -/
theorem carries_inlined (table : String) (f : Filter) (o : Options) :
    Carries s.inlined Reference.unindexed s table f o where
  keeps := s.keeps_inlined
  word := fun _ _ => rfl
  table := rfl
  body := rfl
  projected := fun _ _ => rfl
  reads := by
    rintro ⟨root, name⟩ hp
    cases root with
    | element depth =>
      have hkeep : (s.resolveIn (.element depth) name).unindexed =
          s.resolveIn (.element depth) name :=
        ((translates_unindexed s).resolveIn (.element depth) name).symm
      rw [hkeep]
      apply Reference.rewrites_self s.keeps_inlined
      intro t ht
      simp only [resolveIn, resolveElement] at ht
      split at ht <;> simp only [Reference.names, List.mem_singleton, List.not_mem_nil] at ht
      exact ht ▸ rfl
    | document =>
      simp only [resolveIn, resolve]
      cases hf : s.field? name with
      | none => exact ⟨rfl, rfl, fun _ => rfl⟩
      | some field =>
        cases hi : field.indexed with
        | false =>
          simp only [referenceTo, hi, Bool.false_eq_true, if_false]
          exact ⟨rfl, rfl, fun _ => rfl⟩
        | true =>
          obtain ⟨hmem, rfl⟩ := field?_name hf
          have hcolumn : s.inlined (.generated field.column) = s.extraction field := by
            rw [← plainReading_eq hf, inlined, columnField?_column hs hmem hi]
          simp only [referenceTo, hi, if_true]
          exact ⟨by rw [Reference.value, List.flatMap_singleton, hcolumn]; rfl, rfl, fun _ => rfl⟩

/-- A query under a schema and under the schema without generated columns fails for the same reason,
or has the same values both times and the same text but for the columns: without them, there is the
reading of the field in the place of each, and what the definitions assign to a column is this
reading with the default of the field. -/
theorem compileSelect_unindexed (table : String) (f : Filter) (o : Options) :
    (∃ e, s.compileSelect table f o = .error e ∧ s.unindexed.compileSelect table f o = .error e) ∨
    ∃ q plain ts, s.compileSelect table f o = .ok q ∧
      s.unindexed.compileSelect table f o = .ok plain ∧
      q.params = plain.params ∧
      s.selectTokens table f o = .ok ts ∧
      q.sql.toList = Sql.charsWith String.toList ts ∧
      plain.sql.toList = Sql.charsWith (s.reading fun _ reading => reading) ts ∧
      Sql.charsWith s.assigned ts =
        Sql.charsWith (s.reading fun field reading => Sql.withDefault field.default reading) ts ∧
      ∀ column, .generated column ∈ ts → ∃ field, s.Defines f o column field := by
  have htokens := (carries_inlined hs table f o).selectTokens_eq (translates_unindexed s)
  rw [compileSelect_eq, compileSelect_eq, htokens]
  cases hts : s.selectTokens table f o with
  | error e => exact .inl ⟨e, rfl, rfl⟩
  | ok ts =>
    right
    have hdefines (column : String) (hc : .generated column ∈ ts) : ∃ field,
        s.Defines f o column field :=
      defines_of_selectTokens hs hts hc
    have hassigned : Sql.charsWith s.assigned ts =
        Sql.charsWith (s.reading fun field reading => Sql.withDefault field.default reading)
          ts := by
      apply Sql.charsWith_congr
      intro column hc
      obtain ⟨field, h⟩ := hdefines column hc
      have hfield : s.columnField? column = some field := by
        rw [h.name, columnField?_column hs (field?_name h.declared).1 h.indexed]
      rw [assigned, reading, h.unique, hfield]
      exact h.expression
    refine ⟨.ofTokens ts, .ofTokens (ts.flatMap s.inlined), ts, rfl, rfl, ?_, rfl, ?_, ?_,
      hassigned, hdefines⟩
    · rw [Statement.ofTokens, Statement.ofTokens, params_flatMap_inlined]
    · rw [Sql.charsWith_toList, Statement.toList_ofTokens]
    · rw [← chars_flatMap_inlined, Statement.toList_ofTokens]

end Accepted

/-- People with an age, which is 18 unless it is known, and a name in an odd place. -/
def people : Declaration where
  collection := "people"
  fields := [{ name := "name", type := .text, path := some "$.o'x", indexed := true },
    { name := "age", type := .integer, indexed := true, default := some (.integer 18) }]
  timestamps := true

def grownPeople : Filter :=
  .logical .and [.test "age" (.compare .gt (.integer 3)), .test "name" (.pattern .startsWith "a")]

def oldestRecords : Options := { sort := [⟨"created_at", .ascending⟩] }

/-- The text of the query for grown people, with something in place of its columns. -/
def peopleText (age name created : String) : String :=
  "SELECT data FROM \"people\" WHERE (" ++ age ++ " > ? AND " ++ name ++
    " LIKE ?) ORDER BY " ++ created ++
    " ASC"

theorem compileSelect_unindexed_people :
    ∃ s q plain ts, people.build = .ok s ∧
      s.compileSelect "people" grownPeople oldestRecords = .ok q ∧
      s.unindexed.compileSelect "people" grownPeople oldestRecords = .ok plain ∧
      q.params = plain.params ∧
      s.selectTokens "people" grownPeople oldestRecords = .ok ts ∧
      q.sql = peopleText "_idx_age" "_idx_name" "_idx_created_at" ∧
      plain.sql = peopleText "json_extract(data, '$.age')" "json_extract(data, '$.o''x')"
        "json_extract(data, '$.created_at')" ∧
      String.ofList (Sql.charsWith s.assigned ts) =
        peopleText "COALESCE(json_extract(data, '$.age'), 18)" "json_extract(data, '$.o''x')"
          "json_extract(data, '$.created_at')" ∧
      ∀ column, .generated column ∈ ts →
        ∃ field, s.Defines grownPeople oldestRecords column field := by
  have hok : (people.build.toOption.bind fun s =>
      (s.compileSelect "people" grownPeople oldestRecords).toOption.bind fun q =>
        (s.unindexed.compileSelect "people" grownPeople oldestRecords).toOption.bind fun plain =>
          (s.selectTokens "people" grownPeople oldestRecords).toOption.map fun ts =>
            (q.sql, plain.sql, String.ofList (Sql.charsWith s.assigned ts))) =
      some (peopleText "_idx_age" "_idx_name" "_idx_created_at",
        peopleText "json_extract(data, '$.age')" "json_extract(data, '$.o''x')"
          "json_extract(data, '$.created_at')",
        peopleText "COALESCE(json_extract(data, '$.age'), 18)" "json_extract(data, '$.o''x')"
          "json_extract(data, '$.created_at')") := by decide +kernel
  cases hs : people.build with
  | error e => simp [hs, Except.toOption] at hok
  | ok s =>
    rcases compileSelect_unindexed hs "people" grownPeople oldestRecords with
      ⟨e, he, -⟩ | ⟨q, plain, ts, hq, hplain, hparams, hts, -, -, -, hdefines⟩
    · simp [hs, he, Except.toOption] at hok
    · simp only [hs, hq, hplain, hts, Except.toOption, Option.bind_some, Option.map_some,
        Option.some.injEq, Prod.mk.injEq] at hok
      exact ⟨s, q, plain, ts, rfl, hq, hplain, hparams, hts, hok.1, hok.2.1, hok.2.2, hdefines⟩

end Schema

end DocumentQuery
