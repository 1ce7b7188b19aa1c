import DocumentQuery.Sql.Quote
import DocumentQuery.Value

/-!
# SQL as a list of tokens

Every piece of a statement is a token: a fixed word, symbol or function, a name that is spliced in
bare, a quoted name or string, or a placeholder together with the parameter that is bound to it. The
text of a statement is the concatenation of the texts of its tokens, and its parameters are read off
the tokens, so the two cannot get out of step.
-/

namespace DocumentQuery.Sql

/-- How a bound value comes from the literal of a filter. -/
inductive Slot
  | literal
  | startPattern
  | endPattern
  | innerPattern
  | length
  | paging
  deriving DecidableEq, Repr

def Slot.word : Slot → String
  | .literal => "literal"
  | .startPattern => "prefix"
  | .endPattern => "suffix"
  | .innerPattern => "infix"
  | .length => "length"
  | .paging => "paging"

def Slot.name : Slot → String
  | .literal => "Literal"
  | .startPattern => "Prefix"
  | .endPattern => "Suffix"
  | .innerPattern => "Infix"
  | .length => "Length"
  | .paging => "Paging"

/-- A slot list for people: how many there are, and their words. -/
def describeSlots (slots : List Slot) : String :=
  toString slots.length ++ " [" ++ String.intercalate ", " (slots.map Slot.word) ++ "]"

/-- A value that is bound to a placeholder, and where it comes from. -/
structure Param where
  slot : Slot
  value : Value
  deriving Repr

/-- The fixed words of statements. -/
inductive Keyword
  | AND | OR | NOT | IN | LIKE | COLLATE | NOCASE | IS | NULL | EXISTS | SELECT | FROM | AS | WHERE
  | ORDER | BY | ASC | DESC | LIMIT | OFFSET
  deriving DecidableEq, Repr

def Keyword.text : Keyword → String
  | .AND => "AND" | .OR => "OR" | .NOT => "NOT" | .IN => "IN" | .LIKE => "LIKE"
  | .COLLATE => "COLLATE" | .NOCASE => "NOCASE" | .IS => "IS" | .NULL => "NULL"
  | .EXISTS => "EXISTS" | .SELECT => "SELECT" | .FROM => "FROM" | .AS => "AS" | .WHERE => "WHERE"
  | .ORDER => "ORDER" | .BY => "BY" | .ASC => "ASC" | .DESC => "DESC" | .LIMIT => "LIMIT"
  | .OFFSET => "OFFSET"

/-- The functions of the database on JSON that statements call. -/
inductive Function
  | extract
  | typeOf
  | arrayLength
  | each
  | object
  deriving DecidableEq, Repr

def Function.text : Function → String
  | .extract => "json_extract"
  | .typeOf => "json_type"
  | .arrayLength => "json_array_length"
  | .each => "json_each"
  | .object => "json_object"

/-- The columns of an element that is iterated over. -/
inductive ElementColumn
  | value
  | type
  deriving DecidableEq, Repr

def ElementColumn.text : ElementColumn → String
  | .value => "value"
  | .type => "type"

/-- The fixed symbols of statements. -/
inductive Symbol
  | opening
  | closing
  | comma
  | dot
  | equal
  | notEqual
  | less
  | lessOrEqual
  | greater
  | greaterOrEqual
  deriving DecidableEq, Repr

def Symbol.text : Symbol → String
  | .opening => "("
  | .closing => ")"
  | .comma => ","
  | .dot => "."
  | .equal => "="
  | .notEqual => "!="
  | .less => "<"
  | .lessOrEqual => "<="
  | .greater => ">"
  | .greaterOrEqual => ">="

/-- The name under which the elements at a depth are iterated over. -/
def elementAlias (depth : Nat) : String := "_e" ++ toString depth

/-- A piece of a statement. -/
inductive Token
  | blank
  | keyword (k : Keyword)
  | function (f : Function)
  | symbol (s : Symbol)
  | number (n : Nat)
  /-- The column that holds the document. -/
  | body (column : String)
  | generated (column : String)
  | element (depth : Nat)
  | elementColumn (c : ElementColumn)
  | string (s : String)
  | identifier (s : String)
  | param (p : Param)
  deriving Repr

def Token.chars : Token → List Char
  | .blank => [' ']
  | .keyword k => k.text.toList
  | .function f => f.text.toList
  | .symbol s => s.text.toList
  | .number n => Decimal.digitChars n
  | .body column => column.toList
  | .generated column => column.toList
  | .element depth => (elementAlias depth).toList
  | .elementColumn c => c.text.toList
  | .string s => delimited singleQuote s.toList
  | .identifier s => delimited doubleQuote s.toList
  | .param _ => ['?']

def Token.param? : Token → Option Param
  | .param p => some p
  | _ => none

def chars (tokens : List Token) : List Char := tokens.flatMap Token.chars

def text (tokens : List Token) : String := String.ofList (chars tokens)

/-- The parameters of the placeholders, from left to right. -/
def params (tokens : List Token) : List Param := tokens.filterMap Token.param?

@[simp] theorem chars_nil : chars [] = [] := rfl

@[simp] theorem chars_cons (t : Token) (ts : List Token) :
    chars (t :: ts) = t.chars ++ chars ts := by
  simp [chars]

@[simp] theorem chars_append (ts us : List Token) : chars (ts ++ us) = chars ts ++ chars us := by
  simp [chars]

theorem text_append (ts us : List Token) : text (ts ++ us) = text ts ++ text us := by
  simp [text, String.ofList_append]

@[simp] theorem params_nil : params [] = [] := rfl

@[simp] theorem params_append (ts us : List Token) :
    params (ts ++ us) = params ts ++ params us := by
  simp [params]

/-- The pieces with a token between each two of them. -/
def separated (separator : List Token) : List (List Token) → List Token
  | [] => []
  | [piece] => piece
  | piece :: next :: rest => piece ++ separator ++ separated separator (next :: rest)

/-- The pieces with a blank between each two of them. -/
def spaced (pieces : List (List Token)) : List Token := separated [.blank] pieces

/-- The pieces with a comma and a blank between each two of them. -/
def listed (pieces : List (List Token)) : List Token := separated [.symbol .comma, .blank] pieces

def parenthesized (tokens : List Token) : List Token :=
  .symbol .opening :: (tokens ++ [.symbol .closing])

def call (f : Function) (arguments : List (List Token)) : List Token :=
  .function f :: parenthesized (listed arguments)

/-- A comma-separated placeholder for each parameter. -/
def placeholders (ps : List Param) : List Token := listed (ps.map fun p => [.param p])

end DocumentQuery.Sql
