import DocumentQuery.Proofs.Select.Rewriting
import DocumentQuery.Proofs.Sql.Lexeme

/-!
# Names in the text of queries

Names that come from outside stand in a query between quotes, and reading the text gives them back
as they were: none of them ends the quotes around it. Outside quotes there are only fixed words and
symbols, the aliases of elements, the body column, which was checked when the schema was built, and
generated columns, which are made of harmless characters.
-/

namespace DocumentQuery

open Sql (Token Lexeme lex)

namespace Sql

/-- The words of SQL, the functions on JSON, the columns of elements and the numbers that queries
use. -/
def fixedWords : List String :=
  ["AND", "OR", "NOT", "IN", "LIKE", "COLLATE", "NOCASE", "IS", "NULL", "EXISTS",
    "SELECT", "FROM", "AS",
    "WHERE", "ORDER", "BY", "ASC", "DESC", "LIMIT", "OFFSET", "json_extract", "json_type",
    "json_array_length", "json_each", "json_object", "value", "type", "0", "1"]

/-- Placeholders, blanks and the characters of the symbols. -/
def fixedMarks : List Char := ['?', ' ', '(', ')', ',', '.', '=', '!', '<', '>']

/-- A lexeme that depends on no name and on no schema. -/
inductive Lexeme.Fixed : Lexeme → Prop
  | word {w : String} (h : w ∈ fixedWords) : Fixed (.word w.toList)
  | alias (depth : Nat) : Fixed (.word (elementAlias depth).toList)
  | mark {c : Char} (h : c ∈ fixedMarks) : Fixed (.mark c)

theorem Keyword.fixed_lexeme (k : Keyword) : (Lexeme.word k.text.toList).Fixed :=
  .word (by cases k <;> decide)

theorem Token.fixed_lexemes {t : Token} (h : t.isFixed = true) : ∀ l ∈ t.lexemes, l.Fixed := by
  intro l hl
  cases t with
  | blank =>
    obtain rfl := List.mem_singleton.mp hl
    exact .mark (by decide)
  | keyword k =>
    obtain rfl := List.mem_singleton.mp hl
    exact k.fixed_lexeme
  | function f =>
    obtain rfl := List.mem_singleton.mp hl
    exact .word (w := f.text) (by cases f <;> decide)
  | symbol s =>
    rw [lexemes, List.mem_map] at hl
    obtain ⟨c, hc, rfl⟩ := hl
    have hmarks : s.text.toList.all fixedMarks.contains = true := by cases s <;> rfl
    exact .mark (List.contains_iff_mem.mp (List.all_eq_true.mp hmarks c hc))
  | number n =>
    have hn : n = 0 ∨ n = 1 := by
      have hle : n ≤ 1 := of_decide_eq_true h
      omega
    obtain rfl := List.mem_singleton.mp hl
    rcases hn with rfl | rfl
    · exact .word (w := "0") (by decide)
    · exact .word (w := "1") (by decide)
  | element depth =>
    obtain rfl := List.mem_singleton.mp hl
    exact .alias depth
  | elementColumn c =>
    obtain rfl := List.mem_singleton.mp hl
    exact .word (w := c.text) (by cases c <;> decide)
  | body | generated | string | identifier | param => cases h

end Sql

namespace Schema

/-- What the text of a query may hold: fixed lexemes; outside quotes the body column, which is a
plain identifier, and columns of indexed fields that the query reads; between double quotes the
table; and between single quotes the projected names and the paths of the names that are read. -/
inductive Permits (s : Schema) (table : String) (f : Filter) (o : Options) : Lexeme → Prop
  | fixed {l : Lexeme} (h : l.Fixed) : Permits s table f o l
  | body (hb : Sql.isPlainIdentifier s.bodyColumn.toList = true) :
      Permits s table f o (.word s.bodyColumn.toList)
  | column {field : Field} {rest : List Char} (hi : field.indexed = true)
      (hf : s.field? field.name = some field) (hr : (.document, field.name) ∈ queryReads f o)
      (hc : field.column.toList = "_idx_".toList ++ rest)
        (hp : rest.all Sql.isIdentifierChar = true) :
      Permits s table f o (.word field.column.toList)
  | table : Permits s table f o (.quoted Sql.doubleQuote table.toList)
  | projected {name : String} (h : name ∈ o.projection.getD []) :
      Permits s table f o (.quoted Sql.singleQuote name.toList)
  | declared {field : Field} (hf : s.field? field.name = some field)
      (hr : (.document, field.name) ∈ queryReads f o) :
      Permits s table f o (.quoted Sql.singleQuote field.path.toList)
  | undeclared {name : String} (hf : s.field? name = none)
      (hr : (.document, name) ∈ queryReads f o) :
      Permits s table f o (.quoted Sql.singleQuote (Path.ofField name).toList)
  | relative {depth : Nat} {name : String} (hr : (.element depth, name) ∈ queryReads f o) :
      Permits s table f o (.quoted Sql.singleQuote (Path.ofField name).toList)

/-- What can stand in a query is read as what its text may hold. -/
theorem permits_of_writes {s : Schema} (hb : Sql.isPlainIdentifier s.bodyColumn.toList = true)
    {table : String} {f : Filter} {o : Options} {t : Token} (h : s.Writes table f o t) :
    ∀ l ∈ t.lexemes, s.Permits table f o l := by
  intro l hl
  cases h with
  | fixed ht => exact .fixed (Token.fixed_lexemes ht l hl)
  | placeholder p =>
    obtain rfl := List.mem_singleton.mp hl
    exact .fixed (.mark (by decide))
  | @word k hk =>
    obtain rfl := List.mem_singleton.mp hl
    exact .fixed k.fixed_lexeme
  | table =>
    obtain rfl := List.mem_singleton.mp hl
    exact .table
  | body =>
    obtain rfl := List.mem_singleton.mp hl
    exact .body hb
  | projected hn =>
    obtain rfl := List.mem_singleton.mp hl
    exact .projected hn
  | @column field hi hf hr =>
    have hcolumn := isColumnName_generatedColumn field.name
    rw [Sql.isColumnName, Bool.and_eq_true, List.isPrefixOf_iff_prefix] at hcolumn
    obtain ⟨⟨rest, hrest⟩, hall⟩ := hcolumn
    rw [← hrest, List.all_append, Bool.and_eq_true] at hall
    obtain rfl := List.mem_singleton.mp hl
    exact .column hi hf hr hrest.symm hall.2
  | declared hf hr =>
    obtain rfl := List.mem_singleton.mp hl
    exact .declared hf hr
  | undeclared hf hr =>
    obtain rfl := List.mem_singleton.mp hl
    exact .undeclared hf hr
  | relative hr =>
    obtain rfl := List.mem_singleton.mp hl
    exact .relative hr

/-- Every quote in the text of a query is closed, and the text holds nothing that it may not
hold. -/
theorem lex_compileSelect {d : Declaration} {s : Schema} (hs : d.build = .ok s) {table : String}
    {f : Filter} {o : Options} {q : Sql.Statement} (hq : s.compileSelect table f o = .ok q) :
    ∃ ls, lex q.sql.toList = some ls ∧ ls.flatMap Lexeme.chars = q.sql.toList ∧
      ∀ l ∈ ls, s.Permits table f o l := by
  have hb := plain_bodyColumn hs
  obtain ⟨ts, hts, rfl⟩ := compileSelect_ok hq
  refine ⟨ts.flatMap Token.lexemes, Sql.lex_ofTokens (tidy_selectTokens hb hts), ?_, ?_⟩
  · rw [Sql.Statement.toList_ofTokens, List.flatMap_assoc]
    apply List.flatMap_congr
    intro t _
    exact t.flatMap_chars_lexemes
  · intro l hl
    obtain ⟨t, ht, hl⟩ := List.mem_flatMap.mp hl
    exact permits_of_writes hb (writes_of_selectTokens hts t ht) l hl

/-- A collection with a name that needs care in a column. -/
def uploads : Declaration where
  collection := "uploads"
  bodyColumn := "doc"
  fields := [{ name := "si?ze", type := .integer, indexed := true }]

/-- Uploads by a name that would end the quotes around it. -/
def oddUploads : Filter := .test "o'p\"q" (.compare .eq (.integer 1))

def oddOptions : Options where
  sort := [⟨"si?ze", .ascending⟩]
  projection := some ["x'y"]

theorem lex_compileSelect_uploads :
    ∃ s q ls, uploads.build = .ok s ∧
      s.compileSelect "a\"; DROP TABLE b; --" oddUploads oddOptions = .ok q ∧
      q.sql = "SELECT json_object('x''y', json_extract(doc, '$.\"x''y\"')) FROM " ++
        "\"a\"\"; DROP TABLE b; --\" WHERE json_extract(doc, '$.\"o''p\\\"q\"') = ? " ++
        "ORDER BY _idx_si_ze ASC" ∧
      lex q.sql.toList = some ls ∧ ls.flatMap Lexeme.chars = q.sql.toList ∧
      ∀ l ∈ ls, s.Permits "a\"; DROP TABLE b; --" oddUploads oddOptions l := by
  have hok : (uploads.build.toOption.bind fun s =>
      (s.compileSelect "a\"; DROP TABLE b; --" oddUploads oddOptions).toOption.map fun q => q.sql) =
      some ("SELECT json_object('x''y', json_extract(doc, '$.\"x''y\"')) FROM " ++
        "\"a\"\"; DROP TABLE b; --\" WHERE json_extract(doc, '$.\"o''p\\\"q\"') = ? " ++
        "ORDER BY _idx_si_ze ASC") := by decide +kernel
  cases hs : uploads.build with
  | error e => simp [hs, Except.toOption] at hok
  | ok s =>
    cases hq : s.compileSelect "a\"; DROP TABLE b; --" oddUploads oddOptions with
    | error e => simp [hs, hq, Except.toOption] at hok
    | ok q =>
      simp only [hs, hq, Except.toOption, Option.bind_some, Option.map_some,
        Option.some.injEq] at hok
      obtain ⟨ls, hlex, hchars, hpermits⟩ := lex_compileSelect hs hq
      exact ⟨s, q, ls, rfl, hq, hok, hlex, hchars, hpermits⟩

end Schema

end DocumentQuery
