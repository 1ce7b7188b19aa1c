import DocumentQuery.Proofs.Sql.Grammatical

/-!
# The columns that a text reads

Which columns a piece of SQL reads is found in its text alone. A name stands where an operand may
begin, and also behind an operand unless it is the word of an operator. With a parenthesis behind it
it is the name of a function, with a dot and another name behind it that of a source, and otherwise
that of a column. What is between single quotes is no name. A column of a source that is iterated
over is `qualified`, and a `bare` name is looked up by the database.
-/

namespace DocumentQuery.Sql

/-- A column as a text names it. -/
inductive ColumnUse
  | qualified (source column : String)
  | bare (column : String)
  deriving DecidableEq, Repr

/-- The words that stand behind an operand and are not columns. -/
def operatorWords : List String := ["AND", "OR", "NOT", "IN", "LIKE", "IS", "NULL"]

/-- What a lexeme says, without quotes around it. -/
def Lexeme.content : Lexeme → List Char
  | .word s => s
  | .quoted _ s => s
  | .mark c => [c]

/-- Whether the lexeme is a name: a word that is no number, or what stands between double quotes. -/
def Lexeme.isName : Lexeme → Bool
  | .word s => isPlainIdentifier s
  | .quoted delimiter _ => delimiter = doubleQuote
  | .mark _ => false

def Lexeme.isBlank : Lexeme → Bool
  | .mark c => c.isWhitespace
  | _ => false

/-- Where a reader of columns is. -/
inductive Site
  /-- Where an operand may begin. -/
  | operand
  /-- Behind an operand. -/
  | operator
  /-- Behind a name, which the next lexeme says the role of. -/
  | name (name : List Char)
  /-- Behind the name of a source and a dot. -/
  | dot (source : List Char)
  /-- Before the name of a collation. -/
  | collation

namespace Site

/-- The site behind a lexeme where an operand may begin. -/
def behind : Lexeme → Site
  | .mark c => if c = ')' ∨ c = '?' then .operator else .operand
  | l => if l.isName then .name l.content else .operator

/-- The site behind a lexeme that follows an operand. -/
def behindOperand : Lexeme → Site
  | .word s =>
    if upper s = "COLLATE" then .collation
    else if upper s ∈ operatorWords then .operator
    else behind (.word s)
  | l => behind l

/-- The columns that are read with the next lexeme, and the site behind it. -/
def next : Site → Lexeme → List ColumnUse × Site
  | .operand, l => ([], behind l)
  | .operator, l => ([], behindOperand l)
  | .name n, l =>
    if l = .mark '.' then ([], .dot n)
    else if l = .mark '(' then ([], .operand)
    else ([.bare (String.ofList n)], behindOperand l)
  | .dot source, l => ([.qualified (String.ofList source) (String.ofList l.content)], .operator)
  | .collation, _ => ([], .operator)

/-- The columns that are read from a site on. -/
def uses : Site → List Lexeme → List ColumnUse
  | .name n, [] => [.bare (String.ofList n)]
  | _, [] => []
  | site, l :: rest =>
    if l.isBlank then site.uses rest else (site.next l).1 ++ (site.next l).2.uses rest

/-- Whether a name in front of the lexemes is that of a column, and not of a function or a
source. -/
def endsName : List Lexeme → Bool
  | [] => true
  | l :: rest => if l.isBlank then endsName rest else l ≠ .mark '.' && l ≠ .mark '('

theorem uses_name {rest : List Lexeme} (h : endsName rest = true) (n : List Char) :
    (name n).uses rest = .bare (String.ofList n) :: operator.uses rest := by
  induction rest with
  | nil => rfl
  | cons l rest ih =>
    by_cases hb : l.isBlank = true
    · rw [endsName, if_pos hb] at h
      rw [uses, uses, if_pos hb, if_pos hb, ih h]
    · rw [endsName, if_neg hb, Bool.and_eq_true, decide_eq_true_eq, decide_eq_true_eq] at h
      have hnext : (name n).next l = ([.bare (String.ofList n)], behindOperand l) := by
        rw [next, if_neg h.1, if_neg h.2]
      rw [uses, uses, if_neg hb, if_neg hb, hnext]
      rfl

end Site

/-- The columns that a piece of SQL reads, from left to right, if every quote in it is closed. -/
def columnUses (text : String) : Option (List ColumnUse) :=
  (lex text.toList).map (Site.uses .operand)

example :
    columnUses "json_type(_e1.value, 'data.x') IS NOT NULL AND NOT (_idx_a LIKE ? COLLATE NOCASE)" =
    some [.qualified "_e1" "value", .bare "_idx_a"] := by decide +kernel

open Site (endsName)

/-- The tokens are an operand that reads the columns, in front of whatever leaves a name a
column. -/
def IsOperand (ts : List Token) (us : List ColumnUse) : Prop :=
  ∀ rest, endsName rest = true →
    Site.operand.uses (ts.flatMap Token.lexemes ++ rest) = us ++ Site.operator.uses rest

/-- The tokens read no column behind an operand, and leave a name in front of them a column. -/
structure IsTail (ts : List Token) : Prop where
  ends : endsName (ts.flatMap Token.lexemes) = true
  uses : Site.operator.uses (ts.flatMap Token.lexemes) = []

/-- Tokens that are an operand and what follows it read the columns of the operand. -/
theorem columnUses_text {ts tail : List Token} {us : List ColumnUse} (hts : IsOperand ts us)
    (htail : IsTail tail) (ht : Tidy (ts ++ tail)) : columnUses (text (ts ++ tail)) = some us := by
  rw [columnUses, text, String.toList_ofList, lex_chars ht, Option.map_some, List.flatMap_append,
    hts _ htail.ends, htail.uses, List.append_nil]

namespace Site

theorem uses_word {w : List Char} (h : isPlainIdentifier w = true) (rest : List Lexeme) :
    operand.uses (.word w :: rest) = (name w).uses rest := by
  simp [uses, next, behind, Lexeme.isBlank, Lexeme.isName, Lexeme.content, h]

/-- What is in parentheses behind the name of a function begins with an operand. -/
theorem uses_function (f : Function) (rest : List Lexeme) :
    operand.uses (.word f.text.toList :: .mark '(' :: rest) = operand.uses rest := by
  rw [uses_word (isPlainIdentifier_of_isName f.isName_text)]
  rfl

end Site

namespace IsOperand

variable {ts : List Token} {us : List ColumnUse}

theorem word {t : Token} (hl : t.lexemes = [.word t.chars])
    (hp : isPlainIdentifier t.chars = true) :
    IsOperand [t] [.bare (String.ofList t.chars)] := by
  intro rest hrest
  rw [List.flatMap_singleton, hl, List.singleton_append, Site.uses_word hp, Site.uses_name hrest]
  rfl

theorem elementColumn (depth : Nat) (c : ElementColumn) :
    IsOperand [.element depth, .symbol .dot, .elementColumn c]
      [.qualified (elementAlias depth) c.text] := by
  intro rest _
  have hlexemes : [Token.element depth, .symbol .dot, .elementColumn c].flatMap
    Token.lexemes ++ rest =
      .word (elementAlias depth).toList :: .mark '.' :: .word c.text.toList :: rest := rfl
  rw [hlexemes, Site.uses_word (isPlainIdentifier_of_isName (isName_elementAlias depth))]
  simp [Site.uses, Site.next, Lexeme.isBlank, Lexeme.content]

theorem call (h : IsOperand ts us) (f : Function) : IsOperand (call f [ts]) us := by
  intro rest _
  have hlexemes : (Sql.call f [ts]).flatMap Token.lexemes ++ rest =
      .word f.text.toList :: .mark '(' :: (ts.flatMap Token.lexemes ++ (.mark ')' :: rest)) := by
    simp [Sql.call, parenthesized, listed, separated, Token.lexemes, Token.chars, Symbol.text]
  rw [hlexemes, Site.uses_function, h _ rfl]
  rfl

theorem callPath (h : IsOperand ts us) (f : Function) (path : String) :
    IsOperand (Sql.call f [ts, [.string path]]) us := by
  intro rest _
  have hlexemes : (Sql.call f [ts, [.string path]]).flatMap Token.lexemes ++ rest =
      .word f.text.toList :: .mark '(' :: (ts.flatMap Token.lexemes ++
        (.mark ',' :: .mark ' ' :: .quoted singleQuote path.toList :: .mark ')' :: rest)) := by
    simp [Sql.call, parenthesized, listed, separated, Token.lexemes, Token.chars, Symbol.text]
  rw [hlexemes, Site.uses_function, h _ rfl]
  rfl

end IsOperand

namespace IsTail

theorem comparison (c : Comparison) (p : Param) :
    IsTail (.blank :: spaced [[.symbol (comparisonSymbol c)], [.param p]]) := by
  constructor
  all_goals cases c <;> rfl

theorem among (negated : Bool) (ps : List Param) :
    IsTail (.blank :: spaced [
      if negated then spaced [[.keyword .NOT], [.keyword .IN]] else [.keyword .IN],
      parenthesized (placeholders ps)]) := by
  have hlist (ps : List Param) :
      Site.operand.uses ((placeholders ps ++ [Token.symbol .closing]).flatMap
        Token.lexemes) = [] := by
    induction ps with
    | nil => rfl
    | cons p rest ih =>
      cases rest with
      | nil => rfl
      | cons q rest => exact ih
  constructor
  · cases negated <;> rfl
  · cases negated <;> exact hlist ps

theorem like (p : Param) (foldCase : Bool) :
    IsTail (.blank :: spaced ([[.keyword .LIKE], [.param p]] ++
      if foldCase then [[.keyword .COLLATE], [.keyword .NOCASE]] else [])) := by
  constructor
  all_goals cases foldCase <;> rfl

theorem isNull (negated : Bool) :
    IsTail (.blank :: spaced ([.keyword .IS] ::
      if negated then [[.keyword .NOT], [.keyword .NULL]] else [[.keyword .NULL]])) := by
  constructor
  all_goals cases negated <;> rfl

end IsTail

end DocumentQuery.Sql
