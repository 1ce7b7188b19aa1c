import DocumentQuery.Proofs.Sql.Expression
import DocumentQuery.Proofs.Sql.Lexeme
import DocumentQuery.Sql.Statement

/-!
# Parsing Boolean expressions

A statement is parsed as SQL parses it: placeholders take the values from left to right, negation
binds tighter than conjunction and conjunction tighter than disjunction, and parentheses bind
tightest. An atomic predicate reaches to the word or parenthesis that ends it outside all
parentheses of its own. Two numbers with a sign of equality between them are a constant.
-/

namespace DocumentQuery.Sql

/-- A lexeme, or a placeholder with the value that it takes. -/
inductive Item
  | lexeme (l : Lexeme)
  | bound (v : Value)

namespace Item

def chars : Item → List Char
  | .lexeme l => l.chars
  | .bound _ => ['?']

def value? : Item → Option Value
  | .lexeme _ => none
  | .bound v => some v

/-- Whether the item is the word, in capitals or not. -/
def isWord (w : String) : Item → Bool
  | .lexeme (.word s) => s.map Char.toUpper == w.toList
  | _ => false

def isMark (c : Char) : Item → Bool
  | .lexeme (.mark m) => m == c
  | _ => false

def isBlank : Item → Bool
  | .lexeme (.mark m) => m.isWhitespace
  | _ => false

end Item

/-- Gives the values to the placeholders from left to right; there must be as many. -/
def bind : List Lexeme → List Value → Option (List Item)
  | [], vs => if vs.isEmpty then some [] else none
  | l :: rest, vs =>
    if l = .mark '?' then vs.head?.bind fun v => (bind rest vs.tail).map (.bound v :: ·)
    else (bind rest vs).map (.lexeme l :: ·)

def itemsText (items : List Item) : String := String.ofList (items.flatMap Item.chars)

def itemsValues (items : List Item) : List Value := items.filterMap Item.value?

/-- The items behind the blanks at the front. -/
def skip (items : List Item) : List Item := items.dropWhile Item.isBlank

/-- The items behind the first one that is not blank, if that is as wanted. -/
def take? (wanted : Item → Bool) (items : List Item) : Option (List Item) :=
  match skip items with
  | [] => none
  | i :: rest => if wanted i then some rest else none

def word? (w : String) : List Item → Option (List Item) := take? (Item.isWord w)

def mark? (c : Char) : List Item → Option (List Item) := take? (Item.isMark c)

/-- The word at the front, whatever it is, and the items behind it. -/
def name? (items : List Item) : Option (String × List Item) :=
  match skip items with
  | .lexeme (.word s) :: rest => some (String.ofList s, rest)
  | _ => none

/-- Whether the items are at their end, or at an item that ends what is in front of it. -/
def endsAt (stop : Item → Bool) (items : List Item) : Bool :=
  match skip items with
  | [] => true
  | i :: _ => stop i

/-- How deep in parentheses the next item is. -/
def depthAfter (depth : Nat) (i : Item) : Nat :=
  if i.isMark '(' then depth + 1 else if i.isMark ')' then depth - 1 else depth

/-- Splits the items where they end outside parentheses; the first argument is how deep they are. -/
def chunk (stop : Item → Bool) : Nat → List Item → List Item × List Item
  | _, [] => ([], [])
  | depth, i :: rest =>
    if depth = 0 ∧ endsAt stop (i :: rest) then ([], i :: rest)
    else (i :: (chunk stop (depthAfter depth i) rest).1, (chunk stop (depthAfter depth i) rest).2)

/-- How tight an expression has to bind: as an operand of AND, as an operand of OR, or not at
all. -/
inductive Level
  | operand
  | conjunction
  | disjunction

/-- What ends an expression of the level. -/
def Level.ends : Level → Item → Bool
  | .operand, i => i.isWord "AND" || i.isWord "OR" || i.isMark ')'
  | .conjunction, i => i.isWord "OR" || i.isMark ')'
  | .disjunction, i => i.isMark ')'

def numeral (digits : List Char) : Nat := digits.foldl (fun n c => 10 * n + (c.toNat - 48)) 0

/-- The truth of an equation between two numbers. -/
def constant? : List Item → Option Bool
  | [.lexeme (.word a), .lexeme (.mark '='), .lexeme (.word b)] =>
    if a.all Char.isDigit && b.all Char.isDigit then some (numeral a == numeral b) else none
  | _ => none

/-- What stands between connectives and parentheses. -/
def predicate (items : List Item) : Expr :=
  match constant? items with
  | some truth => .constant truth
  | none => .atom (itemsText items) (itemsValues items)

/-- An expression of the level at the front of the items, and what is behind it. At the tightest
level that is a negation, a subquery, an expression in parentheses or an atomic predicate. -/
def expression : Nat → Level → List Item → Option (Expr × List Item)
  | 0, _, _ => none
  | fuel + 1, .operand, items =>
    if let some rest := word? "NOT" items then
      (expression fuel .operand rest).map fun (e, rest) => (.not e, rest)
    else if let some rest := word? "EXISTS" items then do
      let rest ← mark? '(' rest
      let rest ← word? "SELECT" rest
      let rest ← word? "1" rest
      let rest ← word? "FROM" rest
      let (table, rest) := chunk (Item.isWord "AS") 0 (skip rest)
      let rest ← word? "AS" rest
      let (name, rest) ← name? rest
      let rest ← word? "WHERE" rest
      let (e, rest) ← expression fuel .disjunction rest
      let rest ← mark? ')' rest
      return (.some (itemsText table) (itemsValues table) name e, rest)
    else if let some rest := mark? '(' items then do
      let (e, rest) ← expression fuel .disjunction rest
      let rest ← mark? ')' rest
      return (e, rest)
    else match chunk Level.operand.ends 0 (skip items) with
      | ([], _) => none
      | (atom, rest) => some (predicate atom, rest)
  | fuel + 1, .conjunction, items => do
    let (e, rest) ← expression fuel .operand items
    match word? "AND" rest with
    | none => some (e, rest)
    | some rest => (expression fuel .conjunction rest).map fun (f, rest) => (.and e f, rest)
  | fuel + 1, .disjunction, items => do
    let (e, rest) ← expression fuel .conjunction items
    match word? "OR" rest with
    | none => some (e, rest)
    | some rest => (expression fuel .disjunction rest).map fun (f, rest) => (.or e f, rest)

/-- The expression that a statement is, if it is one from beginning to end. -/
def parse (q : Statement) : Option Expr := do
  let lexemes ← lex q.sql.toList
  let items ← bind lexemes q.params
  let (e, rest) ← expression (3 * items.length + 2) .disjunction items
  if (skip rest).isEmpty then some e else none

end DocumentQuery.Sql
