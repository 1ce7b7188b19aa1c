/-!
# Quoted pieces of SQL

Between delimiters, the delimiter itself is written twice and everything else once. String literals
stand in single quotes and quoted identifiers in double quotes.
-/

namespace DocumentQuery.Sql

/-- The text with every occurrence of the delimiter written twice. -/
def doubled (delimiter : Char) : List Char → List Char
  | [] => []
  | c :: rest =>
    if c = delimiter then c :: c :: doubled delimiter rest else c :: doubled delimiter rest

/-- The text between two delimiters. -/
def delimited (delimiter : Char) (s : List Char) : List Char :=
  delimiter :: (doubled delimiter s ++ [delimiter])

def singleQuote : Char := '\x27'

def doubleQuote : Char := '\x22'

@[simp] theorem doubled_nil (d : Char) : doubled d [] = [] := rfl

theorem doubled_append (d : Char) (s t : List Char) :
    doubled d (s ++ t) = doubled d s ++ doubled d t := by
  induction s with
  | nil => rfl
  | cons c rest ih => by_cases h : c = d <;> simp [doubled, h, ih]

/-- The inside of a string literal. -/
def stringBody (s : String) : String := String.ofList (doubled singleQuote s.toList)

def quotedIdentifier (s : String) : String := String.ofList (delimited doubleQuote s.toList)

/-- Whether the character may stand in a plain identifier: an ASCII letter or digit, or an
underscore. -/
def isIdentifierChar (c : Char) : Bool := c.isAlphanum || c == '_'

/-- Whether the character may begin a plain identifier. -/
def isIdentifierStart (c : Char) : Bool := c.isAlpha || c == '_'

def isPlainIdentifier : List Char → Bool
  | [] => false
  | c :: rest => isIdentifierStart c && rest.all isIdentifierChar

end DocumentQuery.Sql
