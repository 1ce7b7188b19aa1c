import DocumentQuery.Sql.Token

/-!
# Words in statements

Outside quotes a statement is made of words and symbols. The words are the fixed ones, numbers, and
the names that are spliced in bare; all their characters are those of plain identifiers as long as
the names are.
-/

namespace DocumentQuery.Sql

/-- Whether the text is the name of a generated column. -/
def isColumnName (s : List Char) : Bool :=
  ['_', 'i', 'd', 'x', '_'].isPrefixOf s && s.all isIdentifierChar

/-- Whether a name that the token splices in bare is a plain identifier, as it has to be. -/
def Token.isPlain : Token → Bool
  | .body column => isPlainIdentifier column.toList
  | .generated column => isColumnName column.toList
  | _ => true

def Token.isWord : Token → Bool
  | .keyword _ => true
  | .function _ => true
  | .number _ => true
  | .body _ => true
  | .generated _ => true
  | .element _ => true
  | .elementColumn _ => true
  | _ => false

theorem isIdentifierChar_of_isIdentifierStart {c : Char} (h : isIdentifierStart c = true) :
    isIdentifierChar c = true := by
  simp only [isIdentifierStart, isIdentifierChar, Char.isAlphanum, Bool.or_eq_true] at h ⊢
  rcases h with h | h
  · exact .inl (.inl h)
  · exact .inr h

theorem all_of_isPlainIdentifier {s : List Char} (h : isPlainIdentifier s = true) :
    s.all isIdentifierChar = true := by
  cases s with
  | nil => rfl
  | cons c rest =>
    simp only [isPlainIdentifier, Bool.and_eq_true] at h
    rw [List.all_cons, h.2, isIdentifierChar_of_isIdentifierStart h.1]
    rfl

theorem ne_nil_of_isPlainIdentifier {s : List Char} (h : isPlainIdentifier s = true) : s ≠ [] := by
  rintro rfl
  simp [isPlainIdentifier] at h

theorem all_of_isColumnName {s : List Char} (h : isColumnName s = true) :
    s.all isIdentifierChar = true := by
  simp only [isColumnName, Bool.and_eq_true] at h
  exact h.2

theorem cons_of_isColumnName {s : List Char} (h : isColumnName s = true) :
    ∃ rest, s = '_' :: rest := by
  simp only [isColumnName, Bool.and_eq_true, List.isPrefixOf_iff_prefix] at h
  obtain ⟨rest, rfl⟩ := h.1
  exact ⟨_, rfl⟩

theorem all_toDigits (n : Nat) : (Nat.toDigits 10 n).all isIdentifierChar = true := by
  refine List.all_eq_true.mpr fun c hc => ?_
  have hd : c.isDigit = true := Nat.isDigit_of_mem_toDigits (by decide) (by decide) hc
  simp [isIdentifierChar, Char.isAlphanum, hd]

theorem elementAlias_toList (depth : Nat) :
    (elementAlias depth).toList = '_' :: 'e' :: Nat.toDigits 10 depth := by
  simp [elementAlias, String.toList_append, Nat.toList_repr]

theorem Token.all_chars {t : Token} (hw : t.isWord = true) (hp : t.isPlain = true) :
    t.chars.all isIdentifierChar = true := by
  cases t with
  | keyword k => cases k <;> decide
  | function f => cases f <;> decide
  | number n => exact all_toDigits n
  | body column => exact all_of_isPlainIdentifier hp
  | generated column => exact all_of_isColumnName hp
  | element depth =>
    have h : isIdentifierChar '_' = true ∧ isIdentifierChar 'e' = true := by decide
    rw [chars, elementAlias_toList, List.all_cons, List.all_cons, h.1, h.2, all_toDigits depth]
    rfl
  | elementColumn c => cases c <;> decide
  | blank | symbol | string | identifier | param => simp [isWord] at hw

theorem Token.chars_ne_nil {t : Token} (hw : t.isWord = true) (hp : t.isPlain = true) :
    t.chars ≠ [] := by
  cases t with
  | keyword k => cases k <;> decide
  | function f => cases f <;> decide
  | number n => exact Nat.toDigits_ne_nil
  | body column => exact ne_nil_of_isPlainIdentifier hp
  | generated column =>
    obtain ⟨rest, h⟩ := cons_of_isColumnName hp
    rw [chars, h]
    exact List.cons_ne_nil _ _
  | element depth =>
    rw [chars, elementAlias_toList]
    exact List.cons_ne_nil _ _
  | elementColumn c => cases c <;> decide
  | blank | symbol | string | identifier | param => simp [isWord] at hw

end DocumentQuery.Sql
