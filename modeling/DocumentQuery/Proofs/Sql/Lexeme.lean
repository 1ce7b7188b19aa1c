import DocumentQuery.Proofs.Sql.Tidy

/-!
# Reading SQL

SQL is read as words, quoted pieces and single other characters. A quoted piece ends at its
delimiter unless that is written twice, and one that never ends makes the text unreadable. The text
of tidy tokens is read as it was written.
-/

namespace DocumentQuery.Sql

/-- A word, what stands between quotes, or any other character. -/
inductive Lexeme
  | word (s : List Char)
  | quoted (delimiter : Char) (s : List Char)
  | mark (c : Char)
  deriving DecidableEq, Repr

def Lexeme.chars : Lexeme → List Char
  | .word s => s
  | .quoted delimiter s => delimited delimiter s
  | .mark c => [c]

/-- What a reader is inside of. -/
inductive Reader
  | outside
  | word (read : List Char)
  | quoted (delimiter : Char) (read : List Char)
  /-- Behind a delimiter, which ends the piece unless another one follows. -/
  | closing (delimiter : Char) (read : List Char)
  deriving DecidableEq

namespace Reader

/-- A character where a lexeme begins: what is complete with it, and where the reader is then. -/
def begin (c : Char) : List Lexeme × Reader :=
  if isIdentifierChar c then ([], .word [c])
  else if c = singleQuote ∨ c = doubleQuote then ([], .quoted c [])
  else ([.mark c], .outside)

def step : Reader → Char → List Lexeme × Reader
  | .outside, c => begin c
  | .word read, c =>
    if isIdentifierChar c then ([], .word (read ++ [c]))
    else (.word read :: (begin c).1, (begin c).2)
  | .quoted d read, c => if c = d then ([], .closing d read) else ([], .quoted d (read ++ [c]))
  | .closing d read, c =>
    if c = d then ([], .quoted d (read ++ [c])) else (.quoted d read :: (begin c).1, (begin c).2)

/-- What is complete at the end of the text; an open quote is an error. -/
def finish : Reader → Option (List Lexeme)
  | .outside => some []
  | .word read => some [.word read]
  | .quoted _ _ => none
  | .closing d read => some [.quoted d read]

def lexemes : Reader → List Char → Option (List Lexeme)
  | r, [] => r.finish
  | r, c :: rest => ((r.step c).2.lexemes rest).map ((r.step c).1 ++ ·)

end Reader

/-- The lexemes of a text, if every quote in it is closed. -/
def lex (s : List Char) : Option (List Lexeme) := Reader.outside.lexemes s

/-- The lexemes that a token is written as. -/
def Token.lexemes : Token → List Lexeme
  | .blank => [.mark ' ']
  | .symbol s => s.text.toList.map .mark
  | .string s => [.quoted singleQuote s.toList]
  | .identifier s => [.quoted doubleQuote s.toList]
  | .param _ => [.mark '?']
  | t => [.word t.chars]

theorem Token.flatMap_chars_lexemes (t : Token) : t.lexemes.flatMap Lexeme.chars = t.chars := by
  cases t with
  | symbol s => cases s <;> rfl
  | _ => simp [lexemes, Lexeme.chars, chars]

/-- Whether the character is neither part of a word nor a delimiter. -/
def isMark (c : Char) : Bool := !isIdentifierChar c && c != singleQuote && c != doubleQuote

/-- Whether a word or a quoted piece in front of the text ends there. -/
def endsSolid : List Char → Bool
  | [] => true
  | c :: _ => isMark c

namespace Reader

theorem begin_mark {c : Char} (h : isMark c = true) : begin c = ([.mark c], .outside) := by
  simp only [isMark, Bool.and_eq_true, Bool.not_eq_true', bne_iff_ne, ne_eq] at h
  obtain ⟨⟨hw, hs⟩, hd⟩ := h
  simp [begin, hw, hs, hd]

theorem lexemes_mark {c : Char} (h : isMark c = true) (rest : List Char) :
    outside.lexemes (c :: rest) = (outside.lexemes rest).map (.mark c :: ·) := by
  simp only [lexemes, step, begin_mark h]
  rfl

theorem lexemes_word (read w rest : List Char) (h : w.all isIdentifierChar = true) :
    (word read).lexemes (w ++ rest) = (word (read ++ w)).lexemes rest := by
  induction w generalizing read with
  | nil => simp
  | cons c w ih =>
    simp only [List.all_cons, Bool.and_eq_true] at h
    simp [lexemes, step, h.1, ih _ h.2]

theorem lexemes_word_end {w rest : List Char} (h : endsSolid rest = true) :
    (word w).lexemes rest = (outside.lexemes rest).map (.word w :: ·) := by
  cases rest with
  | nil => rfl
  | cons c rest =>
    have hc : isIdentifierChar c = false := by
      simp only [endsSolid, isMark, Bool.and_eq_true, Bool.not_eq_true'] at h
      exact h.1.1
    rw [lexemes_mark h, lexemes, step, hc, begin_mark h, Option.map_map]
    rfl

theorem lexemes_quoted (d : Char) (read s rest : List Char) :
    (quoted d read).lexemes (doubled d s ++ d :: rest) = (closing d (read ++ s)).lexemes rest := by
  induction s generalizing read with
  | nil => simp [lexemes, step]
  | cons c s ih =>
    by_cases hc : c = d
    · subst hc
      simp [doubled, lexemes, step, ih]
    · simp [doubled, hc, lexemes, step, ih]

theorem lexemes_closing_end {d : Char} (hd : isMark d = false) {s rest : List Char}
    (h : endsSolid rest = true) :
    (closing d s).lexemes rest = (outside.lexemes rest).map (.quoted d s :: ·) := by
  cases rest with
  | nil => rfl
  | cons c rest =>
    have hc : c ≠ d := by
      rintro rfl
      simp [endsSolid, hd] at h
    rw [lexemes_mark h, lexemes, step, if_neg hc, begin_mark h, Option.map_map]
    rfl

theorem lexemes_delimited {d : Char} (hd : d = singleQuote ∨ d = doubleQuote) {s rest : List Char}
    (h : endsSolid rest = true) :
    outside.lexemes (delimited d s ++ rest) =
      (outside.lexemes rest).map (.quoted d s :: ·) := by
  have hm : isMark d = false := by rcases hd with rfl | rfl <;> decide
  have hb : begin d = ([], .quoted d []) := by rcases hd with rfl | rfl <;> decide
  rw [delimited, List.cons_append, List.append_assoc, List.singleton_append, lexemes, step, hb,
    lexemes_quoted, lexemes_closing_end hm h, Option.map_map]
  rfl

end Reader

/-- A token is read as it was written if it ends where it does. -/
theorem lexemes_token {t : Token} (hp : t.isPlain = true) {rest : List Char}
    (h : t.isSolid = true → endsSolid rest = true) :
    Reader.outside.lexemes (t.chars ++ rest) = (Reader.outside.lexemes rest).map
      (t.lexemes ++ ·) := by
  have hmark (c : Char) (hc : isMark c = true) (rest : List Char) :
      Reader.outside.lexemes ([c] ++ rest) = (Reader.outside.lexemes rest).map ([.mark c] ++ ·) :=
    Reader.lexemes_mark hc rest
  by_cases hw : t.isWord = true
  · have hs : t.isSolid = true := by cases t <;> first | rfl | simp [Token.isWord] at hw
    have hl : t.lexemes = [.word t.chars] := by cases t <;> first | rfl | simp [Token.isWord] at hw
    have hchars := Token.all_chars hw hp
    obtain ⟨c, cs, hcs⟩ := List.exists_cons_of_ne_nil (Token.chars_ne_nil hw hp)
    rw [hcs, List.all_cons, Bool.and_eq_true] at hchars
    have hb : Reader.begin c = ([], .word [c]) := by simp [Reader.begin, hchars.1]
    rw [hl, hcs, List.cons_append, Reader.lexemes, Reader.step, hb,
      Reader.lexemes_word _ _ _ hchars.2, Reader.lexemes_word_end (h hs), Option.map_map]
    rfl
  · cases t with
    | blank => exact hmark ' ' (by decide) rest
    | param p => exact hmark '?' (by decide) rest
    | string s => exact Reader.lexemes_delimited (.inl rfl) (h rfl)
    | identifier s => exact Reader.lexemes_delimited (.inr rfl) (h rfl)
    | symbol s =>
      have htwo (a b : Char) (ha : isMark a = true) (hb : isMark b = true) :
          Reader.outside.lexemes ([a, b] ++ rest) =
            (Reader.outside.lexemes rest).map ([.mark a, .mark b] ++ ·) := by
        rw [List.cons_append, Reader.lexemes_mark ha, hmark b hb, Option.map_map]
        rfl
      cases s with
      | notEqual | lessOrEqual | greaterOrEqual => exact htwo _ _ (by decide) (by decide)
      | opening | closing | comma | dot | equal | less | greater => exact hmark _ (by decide) rest
    | keyword | function | number | body | generated | element | elementColumn =>
      exact absurd rfl hw

theorem lexemes_chars {ts : List Token} (h : Tidy ts) {rest : List Char}
    (hend : endsSolid rest = true) :
    Reader.outside.lexemes (chars ts ++ rest) =
      (Reader.outside.lexemes rest).map (ts.flatMap Token.lexemes ++ ·) := by
  induction ts with
  | nil => simp
  | cons t ts ih =>
    have hsolid : t.isSolid = true → endsSolid (chars ts ++ rest) = true := by
      intro hs
      cases ts with
      | nil => exact hend
      | cons u us =>
        -- what follows a word or a quoted piece is a blank, a symbol or a placeholder
        have hu : u.isSolid = false := by
          rcases (List.isChain_cons_cons.mp h.apart).1 with h | h
          · rw [hs] at h
            cases h
          · exact h
        cases u with
        | blank | param => rfl
        | symbol s => cases s <;> rfl
        | keyword | function | number | body | generated | element | elementColumn | string
          | identifier => cases hu
    rw [chars_cons, List.append_assoc, lexemes_token (h.plain t List.mem_cons_self) hsolid,
      ih h.tail, Option.map_map, List.flatMap_cons]
    simp only [Function.comp_def, List.append_assoc]

theorem lex_chars {ts : List Token} (h : Tidy ts) :
    lex (chars ts) = some (ts.flatMap Token.lexemes) := by
  have hread : Reader.outside.lexemes (chars ts ++ []) = _ := lexemes_chars h rfl
  rw [List.append_nil] at hread
  rw [lex, hread]
  simp [Reader.lexemes, Reader.finish]

/-- The text of a statement is read as its tokens were written. -/
theorem lex_ofTokens {ts : List Token} (h : Tidy ts) :
    lex (Statement.ofTokens ts).sql.toList = some (ts.flatMap Token.lexemes) := by
  rw [Statement.toList_ofTokens]
  exact lex_chars h

end DocumentQuery.Sql
