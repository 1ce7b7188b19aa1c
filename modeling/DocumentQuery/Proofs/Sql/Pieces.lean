import DocumentQuery.Proofs.Sql.Offsets
import Mathlib.Data.List.Basic

/-!
# Quoted tokens in any text

A text is divided into single characters and quoted tokens. Inside a token its delimiter is written
twice, and a token that is never closed reaches to the end, so that every text, also one that cannot
be read as SQL, is divided in exactly one way. The scan that counts placeholders keeps only the
delimiter that is open, and takes a doubled one for the end of a token and the beginning of the
next; it counts the question marks outside the tokens all the same.
-/

namespace DocumentQuery.Sql

/-- A character outside quotes, a quoted token, or a token that is still open where the text
ends. -/
inductive Piece
  | plain (c : Char)
  | quoted (delimiter : Char) (s : List Char)
  | unclosed (delimiter : Char) (s : List Char)
  deriving DecidableEq, Repr

def Piece.isClosed : Piece → Bool
  | .unclosed _ _ => false
  | _ => true

def Piece.closingDelimiter? : Piece → Option Char
  | .quoted d _ => some d
  | _ => none

/-- The text is divided into the pieces. A token ends at a delimiter that is not followed by another
one. -/
inductive IsDivision : List Char → List Piece → Prop
  | nil : IsDivision [] []
  | plain {c : Char} {rest : List Char} {ps : List Piece}
      (hc : ¬(c = singleQuote ∨ c = doubleQuote))
      (h : IsDivision rest ps) : IsDivision (c :: rest) (.plain c :: ps)
  | quoted {d : Char} {s rest : List Char} {ps : List Piece}
      (hd : d = singleQuote ∨ d = doubleQuote)
      (hrest : rest.head? ≠ some d) (h : IsDivision rest ps) :
      IsDivision (delimited d s ++ rest) (.quoted d s :: ps)
  | unclosed {d : Char} {s : List Char} (hd : d = singleQuote ∨ d = doubleQuote) :
      IsDivision (d :: doubled d s) [.unclosed d s]

/-- The pieces of a text. The first argument is the token that is open: its delimiter, and what was
read of it. At a delimiter the next character tells whether the token ends. -/
def piecesFrom : Option (Char × List Char) → List Char → List Piece
  | none, [] => []
  | none, c :: rest =>
    if c = singleQuote ∨ c = doubleQuote then piecesFrom (some (c, [])) rest
    else .plain c :: piecesFrom none rest
  | some (d, read), [] => [.unclosed d read]
  | some (d, read), [c] => if c = d then [.quoted d read] else [.unclosed d (read ++ [c])]
  | some (d, read), c :: next :: rest =>
    if c ≠ d then piecesFrom (some (d, read ++ [c])) (next :: rest)
    else if next = d then piecesFrom (some (d, read ++ [d])) rest
    else .quoted d read :: piecesFrom none (next :: rest)

def pieces (s : List Char) : List Piece := piecesFrom none s

theorem piecesFrom_cons_of_ne {c d : Char} (h : c ≠ d) (read rest : List Char) :
    piecesFrom (some (d, read)) (c :: rest) = piecesFrom (some (d, read ++ [c])) rest := by
  cases rest <;> simp [piecesFrom, h]

theorem piecesFrom_doubled (d : Char) (read rest : List Char) :
    piecesFrom (some (d, read)) (d :: d :: rest) = piecesFrom (some (d, read ++ [d])) rest := by
  simp [piecesFrom]

theorem piecesFrom_closing {d : Char} {rest : List Char} (h : rest.head? ≠ some d)
    (read : List Char) :
    piecesFrom (some (d, read)) (d :: rest) = .quoted d read :: pieces rest := by
  cases rest with
  | nil => simp [piecesFrom, pieces]
  | cons next rest =>
    have hnext : next ≠ d := by simpa using h
    simp [piecesFrom, pieces, hnext]

theorem pieces_plain {c : Char} (hc : ¬(c = singleQuote ∨ c = doubleQuote)) (rest : List Char) :
    pieces (c :: rest) = .plain c :: pieces rest := by
  rw [pieces, piecesFrom, if_neg hc, pieces]

theorem pieces_delimiter {d : Char} (hd : d = singleQuote ∨ d = doubleQuote) (rest : List Char) :
    pieces (d :: rest) = piecesFrom (some (d, [])) rest := by
  rw [pieces, piecesFrom, if_pos hd]

theorem piecesFrom_append (d : Char) (read s rest : List Char) :
    piecesFrom (some (d, read)) (doubled d s ++ rest) = piecesFrom (some (d, read ++ s)) rest := by
  induction s generalizing read with
  | nil => simp
  | cons c s ih =>
    rw [doubled]
    split
    · next hc =>
      rw [hc, List.cons_append, List.cons_append, piecesFrom_doubled, ih, List.append_assoc,
        List.singleton_append]
    · next hc =>
      rw [List.cons_append, piecesFrom_cons_of_ne hc, ih, List.append_assoc, List.singleton_append]

theorem pieces_delimited {d : Char} (hd : d = singleQuote ∨ d = doubleQuote) {rest : List Char}
    (hrest : rest.head? ≠ some d) (s : List Char) :
    pieces (delimited d s ++ rest) = .quoted d s :: pieces rest := by
  rw [delimited, List.cons_append, List.append_assoc, pieces_delimiter hd, piecesFrom_append]
  exact piecesFrom_closing hrest s

theorem pieces_unclosed {d : Char} (hd : d = singleQuote ∨ d = doubleQuote) (s : List Char) :
    pieces (d :: doubled d s) = [.unclosed d s] := by
  have hread := piecesFrom_append d [] s []
  rwa [List.append_nil, ← pieces_delimiter hd] at hread

theorem IsDivision.pieces_eq {s : List Char} {ps : List Piece} (h : IsDivision s ps) :
    pieces s = ps := by
  induction h with
  | nil => rfl
  | plain hc _ ih => rw [pieces_plain hc, ih]
  | quoted hd hrest _ ih => rw [pieces_delimited hd hrest, ih]
  | unclosed hd => exact pieces_unclosed hd _

/-- How the token that is open has been written so far. -/
def openText : Option (Char × List Char) → List Char
  | none => []
  | some (d, read) => d :: doubled d read

theorem openText_of_ne {c d : Char} (h : c ≠ d) (read rest : List Char) :
    openText (some (d, read ++ [c])) ++ rest = openText (some (d, read)) ++ c :: rest := by
  simp [openText, doubled_append, doubled, h]

theorem openText_doubled (d : Char) (read rest : List Char) :
    openText (some (d, read ++ [d])) ++ rest = openText (some (d, read)) ++ d :: d :: rest := by
  simp [openText, doubled_append, doubled]

theorem openText_closing (d : Char) (read rest : List Char) :
    openText (some (d, read)) ++ d :: rest = delimited d read ++ rest := by
  simp [openText, delimited]

theorem isDivision_piecesFrom {open? : Option (Char × List Char)} (s : List Char)
    (h : ∀ t ∈ open?, t.1 = singleQuote ∨ t.1 = doubleQuote) :
    IsDivision (openText open? ++ s) (piecesFrom open? s) := by
  fun_induction piecesFrom open? s with
  | case1 => exact .nil
  | case2 c rest hc ih => exact ih (by simpa using hc)
  | case3 c rest hc ih => exact .plain hc (ih (by simp))
  | case4 d read =>
    rw [List.append_nil]
    exact .unclosed (h _ rfl)
  | case5 read d =>
    rw [openText_closing]
    exact .quoted (h _ rfl) (by simp) .nil
  | case6 d read c hc =>
    rw [← openText_of_ne hc, List.append_nil]
    exact .unclosed (h _ rfl)
  | case7 d read c next rest hc ih =>
    rw [← openText_of_ne hc]
    exact ih (by simpa using h)
  | case8 read c d rest hc ih =>
    rw [not_not.mp hc, ← openText_doubled]
    exact ih (by simpa using h)
  | case9 d read c next rest hc hnext ih =>
    -- another character stands behind the delimiter, so the token ends
    rw [not_not.mp hc, openText_closing]
    exact .quoted (h _ rfl) (by simpa using hnext) (ih (by simp))

/-- The pieces of a text are its only division. -/
theorem isDivision_iff {s : List Char} {ps : List Piece} : IsDivision s ps ↔ pieces s = ps := by
  refine ⟨IsDivision.pieces_eq, ?_⟩
  rintro rfl
  exact @isDivision_piecesFrom none s (by simp)

theorem isDivision_pieces (s : List Char) : IsDivision s (pieces s) := isDivision_iff.mpr rfl

/-- The delimiter of the token that the last of the pieces is, if it is one that has ended. -/
def closingDelimiter? (ps : List Piece) : Option Char := ps.getLast?.bind Piece.closingDelimiter?

theorem mem_closingDelimiter?_cons {d : Char} {ps : List Piece} (h : d ∈ closingDelimiter? ps)
    (p : Piece) :
    d ∈ closingDelimiter? (p :: ps) := by
  rw [closingDelimiter?, List.getLast?_cons]
  cases hlast : ps.getLast? with
  | none => simp [closingDelimiter?, hlast] at h
  | some q => simpa [closingDelimiter?, hlast] using h

theorem IsDivision.append {s t : List Char} {ps qs : List Piece} (h : IsDivision s ps)
    (hclosed : ∀ p ∈ ps, p.isClosed = true) (hseam : ∀ d ∈ closingDelimiter? ps, t.head? ≠ some d)
    (ht : IsDivision t qs) : IsDivision (s ++ t) (ps ++ qs) := by
  induction h with
  | nil => exact ht
  | plain hc _ ih =>
    have htail := ih (List.forall_mem_of_forall_mem_cons hclosed)
      fun d hd => hseam d (mem_closingDelimiter?_cons hd _)
    exact .plain hc htail
  | @quoted d u rest ps hd hrest h ih =>
    have htail := ih (List.forall_mem_of_forall_mem_cons hclosed)
      fun d hd => hseam d (mem_closingDelimiter?_cons hd _)
    have hnext : (rest ++ t).head? ≠ some d := by
      cases rest with
      | nil =>
        -- nothing stands behind the token, so it is the last piece
        obtain rfl : [] = ps := h.pieces_eq
        exact hseam d rfl
      | cons c rest => exact hrest
    rw [List.append_assoc]
    exact .quoted hd hnext htail
  | unclosed => exact absurd (hclosed _ List.mem_cons_self) Bool.false_ne_true

/-- Two texts are divided apart unless the second goes on with a token of the first. -/
theorem pieces_append {s t : List Char} (hclosed : ∀ p ∈ pieces s, p.isClosed = true)
    (hseam : ∀ d ∈ closingDelimiter? (pieces s), t.head? ≠ some d) :
    pieces (s ++ t) = pieces s ++ pieces t :=
  ((isDivision_pieces s).append hclosed hseam (isDivision_pieces t)).pieces_eq

theorem countPlaceholdersFrom_plain {c : Char} (hc : ¬(c = singleQuote ∨ c = doubleQuote))
    (rest : List Char) :
    countPlaceholdersFrom none (c :: rest) =
      [Piece.plain c].count (.plain '?') + countPlaceholdersFrom none rest := by
  rw [countPlaceholdersFrom, if_neg hc]
  split
  · next hmark => rw [hmark, List.count_singleton_self, Nat.add_comm]
  · next hother => simp [hother]

theorem countPlaceholdersFrom_delimited {d : Char} (hd : d = singleQuote ∨ d = doubleQuote)
    (s rest : List Char) :
    countPlaceholdersFrom none (delimited d s ++ rest) = countPlaceholdersFrom none rest := by
  rw [← length_placeholderOffsetsFrom none 0, placeholderOffsetsFrom_delimited hd,
    length_placeholderOffsetsFrom]

theorem countPlaceholdersFrom_unclosed {d : Char} (hd : d = singleQuote ∨ d = doubleQuote)
    (s : List Char) :
    countPlaceholdersFrom none (d :: doubled d s) = 0 := by
  have hread := placeholderOffsetsFrom_doubled hd s 0 []
  rw [List.append_nil] at hread
  rw [countPlaceholdersFrom, if_pos hd, ← length_placeholderOffsetsFrom _ 0, hread]
  rfl

/-- Behind closed pieces the scan goes on as at the beginning of a text; behind an open token there
is none. -/
theorem IsDivision.countPlaceholdersFrom_append {s t : List Char} {ps : List Piece}
    (h : IsDivision s ps) (ht : (∀ p ∈ ps, p.isClosed = true) ∨ t = []) :
    countPlaceholdersFrom none (s ++ t) = ps.count (.plain '?') + countPlaceholdersFrom none t := by
  induction h with
  | nil => simp
  | plain hc _ ih =>
    rw [List.cons_append, countPlaceholdersFrom_plain hc,
      ih (ht.imp_left List.forall_mem_of_forall_mem_cons), ← Nat.add_assoc, ← List.count_append,
        List.singleton_append]
  | quoted hd _ _ ih =>
    rw [List.append_assoc, countPlaceholdersFrom_delimited hd,
      ih (ht.imp_left List.forall_mem_of_forall_mem_cons), List.count_cons_of_ne (by simp)]
  | unclosed hd =>
    rcases ht with hclosed | rfl
    · exact absurd (hclosed _ List.mem_cons_self) Bool.false_ne_true
    · rw [List.append_nil, countPlaceholdersFrom_unclosed hd]
      rfl

theorem countPlaceholders_eq_count (sql : String) :
    countPlaceholders sql = (pieces sql.toList).count (.plain '?') := by
  have hcount := (isDivision_pieces sql.toList).countPlaceholdersFrom_append (.inr rfl)
  rwa [List.append_nil] at hcount

/-- The counts are added even if the second text goes on with the token that ends the first: between
the two delimiters in the middle there is nothing to count. -/
theorem countPlaceholders_append {first : String} (h : ∀ p ∈ pieces first.toList, p.isClosed = true)
    (second : String) :
    countPlaceholders (first ++ second) = countPlaceholders first + countPlaceholders second := by
  have hcount := (isDivision_pieces first.toList).countPlaceholdersFrom_append
    (t := second.toList) (.inl h)
  rw [countPlaceholders, String.toList_append, hcount, countPlaceholders_eq_count first,
    countPlaceholders]

/-- The placeholders of any text are the question marks that its division leaves outside tokens.
Where no token is open between two texts and none goes on, they are divided apart and their
placeholders are added. -/
theorem countPlaceholders_eq_count_pieces :
    (∀ sql : String, countPlaceholders sql = (pieces sql.toList).count (.plain '?')) ∧
    ∀ first second : String, (∀ p ∈ pieces first.toList, p.isClosed = true) →
      (∀ d ∈ closingDelimiter? (pieces first.toList), second.toList.head? ≠ some d) →
      pieces (first ++ second).toList = pieces first.toList ++ pieces second.toList ∧
      countPlaceholders (first ++ second) = countPlaceholders first + countPlaceholders second := by
  refine ⟨countPlaceholders_eq_count, fun first second hclosed hseam => ⟨?_, ?_⟩⟩
  · rw [String.toList_append]
    exact pieces_append hclosed hseam
  · exact countPlaceholders_append hclosed second

theorem countPlaceholders_eq_count_pieces_cities :
    (∀ p ∈ pieces "city = ? || 'o''hare?'".toList, p.isClosed = true) ∧
    closingDelimiter? (pieces "city = ? || 'o''hare?'".toList) = some singleQuote ∧
    pieces "\"it's ?\" <> ?".toList =
      .quoted doubleQuote "it's ?".toList :: [' ', '<', '>', ' ', '?'].map .plain ∧
    pieces ("city = ? || 'o''hare?'" ++ "\"it's ?\" <> ?").toList =
      pieces "city = ? || 'o''hare?'".toList ++ pieces "\"it's ?\" <> ?".toList ∧
    countPlaceholders ("city = ? || 'o''hare?'" ++ "\"it's ?\" <> ?") = 1 + 1 := by
  have hclosed : ∀ p ∈ pieces "city = ? || 'o''hare?'".toList, p.isClosed = true := by
    decide +kernel
  have hlast : closingDelimiter? (pieces "city = ? || 'o''hare?'".toList) = some singleQuote := by
    decide +kernel
  have hseam : ∀ d ∈ closingDelimiter? (pieces "city = ? || 'o''hare?'".toList),
      "\"it's ?\" <> ?".toList.head? ≠ some d := by
    rw [hlast]
    rintro d ⟨⟩
    decide +kernel
  have hcounts : countPlaceholders "city = ? || 'o''hare?'" = 1 ∧
      countPlaceholders "\"it's ?\" <> ?" = 1 := by
    decide +kernel
  obtain ⟨hpieces, hsum⟩ := countPlaceholders_eq_count_pieces.2 _ _ hclosed hseam
  rw [hcounts.1, hcounts.2] at hsum
  exact ⟨hclosed, hlast, by decide +kernel, hpieces, hsum⟩

end DocumentQuery.Sql
