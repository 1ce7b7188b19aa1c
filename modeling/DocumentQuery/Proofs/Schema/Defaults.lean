import DocumentQuery.Proofs.Filter.Tokens
import DocumentQuery.Proofs.Schema.Build
import DocumentQuery.Proofs.Sql.Constant
import DocumentQuery.Schema.Definition

/-!
# Defaults in the text of a table

The default of an indexed field is the only value that is written into a statement; every other one
is bound. `lex_columnExpression` says that the default stands in its column as a literal of its own,
which spells the value that was declared, and that doubles without a number are the one exception:
they are read as names of columns.
-/

namespace DocumentQuery.Schema

open Sql (Constant IsRead Lexeme Token lex)

/-- The lexemes around a default in the expression of its column. -/
def coalesceLexemes (s : Schema) (f : Field) (ls : List Lexeme) : List Lexeme :=
  .word "COALESCE".toList :: .mark '(' ::
    ((s.extraction f).flatMap Token.lexemes ++ .mark ',' :: .mark ' ' :: (ls ++ [.mark ')']))

theorem isRead_columnExpression {s : Schema} (hb : Sql.isPlainIdentifier s.bodyColumn.toList = true)
    {f : Field} {v : Value} (hv : f.default = some v) {ls : List Lexeme}
    (h : IsRead (Sql.literal v) ls) :
    IsRead (s.columnExpression f) (s.coalesceLexemes f ls) := by
  have hextraction : Sql.Tidy (s.extraction f) := Reference.tidy_value hb
  have hclosed : IsRead (Sql.literal v ++ [')']) (ls ++ [.mark ')']) :=
    h.append (.mark (by decide) .nil) rfl
  have hlisted : IsRead (Sql.chars (s.extraction f) ++ ',' :: ' ' :: (Sql.literal v ++ [')']))
      ((s.extraction f).flatMap Token.lexemes ++ .mark ',' :: .mark ' ' :: (ls ++ [.mark ')'])) :=
    (IsRead.tokens hextraction).append (.mark (by decide) (.mark (by decide) hclosed)) rfl
  have hcall : IsRead ("COALESCE".toList ++ '(' :: (Sql.chars (s.extraction f) ++
      ',' :: ' ' :: (Sql.literal v ++ [')']))) (s.coalesceLexemes f ls) :=
    .word (by decide) (by decide) (.mark (by decide) hlisted) (by simp; decide)
  simpa [columnExpression, hv] using hcall

/-- The default of an indexed field stands in the expression of its column as lexemes of its own.
They spell the value that was declared, and nothing else, unless this is a double that is not
finite: then they are a name. -/
theorem lex_columnExpression {d : Declaration} {s : Schema} (hs : d.build = .ok s) {f : Field}
    (hf : f ∈ s.indexedFields) {v : Value} (hv : f.default = some v) :
    s.columnDefinition f ∈ s.table.columns ∧
    ∃ ls, lex (s.columnDefinition f).expression = some (s.coalesceLexemes f ls) ∧
      ls.flatMap Lexeme.chars = Sql.literal v ∧ Constant.ofLexemes? ls = Constant.ofValue? v ∧
      ((∃ c, Constant.ofLexemes? ls = some c) ↔ ∀ x, v = .real x → x.isFinite = true) ∧
      ∀ x, v = .real x → x.isFinite = false →
        ∃ name, Sql.isName name = true ∧ (ls = [.word name] ∨ ls = [.mark '-', .word name]) := by
  obtain ⟨ls, hread, hspelled⟩ := Sql.exists_isRead_literal v
  refine ⟨List.mem_map_of_mem hf, ls,
    (isRead_columnExpression (plain_bodyColumn hs) hv hread).lex_eq, hread.chars, hspelled, ?_, ?_⟩
  · rw [hspelled, ← Option.isSome_iff_exists]
    exact Constant.isSome_ofValue?_iff v
  · rintro x rfl hx
    obtain ⟨name, hname, hplain | hminus⟩ := Sql.exists_isRead_notFinite hx
    · exact ⟨name, hname, .inl (hread.unique hplain)⟩
    · exact ⟨name, hname, .inr (hread.unique hminus)⟩

/-- Players whose rank has a column with the given default. -/
def players (rank : Value) : Declaration where
  collection := "players"
  fields := [{ name := "rank", type := .numeric, indexed := true, default := some rank }]

def rankField (rank : Value) : Field := ⟨"rank", "$.rank", .numeric, true, false, true, some rank⟩

theorem build_players (rank : Value) :
    (players rank).build = .ok ⟨"players", "data", [rankField rank], [], false, true⟩ := by
  have hname : Declaration.nameFault? "rank" = none := by decide +kernel
  have hbody : Sql.isPlainIdentifier "data".toList = true := by decide +kernel
  have hpath : Path.ofField "rank" = "$.rank" := by decide +kernel
  rw [String.toList_ofList] at hbody
  simp [players, rankField, Declaration.build, Declaration.defaultBodyColumn, hbody,
    Declaration.resolvedFields, Declaration.addFields, hname, Declaration.declares,
      Declaration.insertField, Declaration.toField, hpath,
    Declaration.checkIndexes, Declaration.checkCollisions, Declaration.collision?,
      Declaration.indexSources]

theorem lex_columnExpression_players :
    ∃ s, (players (.text "o'neil''")).build = .ok s ∧ ∃ f ∈ s.indexedFields,
      f.default = some (.text "o'neil''") ∧
      String.ofList (s.columnDefinition f).expression =
        "COALESCE(json_extract(data, '$.rank'), 'o''neil''''')" ∧
      ∃ ls, lex (s.columnDefinition f).expression = some (s.coalesceLexemes f ls) ∧
        Constant.ofLexemes? ls = some (.string "o'neil''".toList) := by
  have hf : rankField (.text "o'neil''") ∈
      Schema.indexedFields ⟨"players", "data", [rankField (.text "o'neil''")], [],
        false, true⟩ := by
    simp [indexedFields, rankField]
  obtain ⟨-, ls, hlex, -, hspelled, -⟩ :=
    lex_columnExpression (build_players (.text "o'neil''")) hf rfl
  exact ⟨_, build_players _, _, hf, rfl, by decide +kernel, ls, hlex, hspelled⟩

/-- A rank that is infinite by default is written as a name, where no value is spelled. -/
theorem not_lex_columnExpression :
    ∃ s, (players (.real .infinity)).build = .ok s ∧ ∃ f ∈ s.indexedFields,
      f.default = some (.real .infinity) ∧
      String.ofList (s.columnDefinition f).expression =
        "COALESCE(json_extract(data, '$.rank'), inf)" ∧
      ¬∃ ls c, lex (s.columnDefinition f).expression = some (s.coalesceLexemes f ls) ∧
        Constant.ofLexemes? ls = some c := by
  refine ⟨_, build_players _, rankField (.real .infinity), by simp [indexedFields, rankField], rfl,
    by decide +kernel, ?_⟩
  rintro ⟨ls, c, hlex, hspelled⟩
  obtain ⟨written, hread, hnone⟩ := Sql.exists_isRead_literal (.real .infinity)
  -- the expression is read in one way only, so these are the lexemes that were written
  have hwritten := isRead_columnExpression (plain_bodyColumn (build_players (.real .infinity)))
    (f := rankField (.real .infinity)) rfl hread
  have hls : written = ls := by simpa [coalesceLexemes] using hwritten.lex_eq.symm.trans hlex
  have hinfinite : Constant.ofValue? (.real .infinity) = none := by decide
  rw [← hls, hnone, hinfinite] at hspelled
  cases hspelled

end DocumentQuery.Schema
