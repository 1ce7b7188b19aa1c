import DocumentQuery.Proofs.Sql.Words
import DocumentQuery.Sql.Statement

/-!
# The places of placeholders

The scan that counts placeholders is followed by where it finds them. On the text of plain tokens it
finds the placeholders that were written, each at the place of its token, and nothing else: quoted
pieces close again whatever they contain.
-/

namespace DocumentQuery.Sql

/-- The places of the question marks outside quotes, counted from the given place on; the first
argument is the delimiter that is open. -/
def placeholderOffsetsFrom : Option Char → Nat → List Char → List Nat
  | _, _, [] => []
  | some delimiter, n, c :: rest =>
    placeholderOffsetsFrom (if c = delimiter then none else some delimiter) (n + 1) rest
  | none, n, c :: rest =>
    if c = singleQuote ∨ c = doubleQuote then placeholderOffsetsFrom (some c) (n + 1) rest
    else if c = '?' then n :: placeholderOffsetsFrom none (n + 1) rest
    else placeholderOffsetsFrom none (n + 1) rest

/-- The places of the placeholders in a text of SQL. -/
def placeholderOffsets (sql : String) : List Nat := placeholderOffsetsFrom none 0 sql.toList

theorem length_placeholderOffsetsFrom (open? : Option Char) (n : Nat) (s : List Char) :
    (placeholderOffsetsFrom open? n s).length = countPlaceholdersFrom open? s := by
  induction s generalizing open? n with
  | nil => cases open? <;> rfl
  | cons c rest ih =>
    cases open? with
    | some d => exact ih _ _
    | none =>
      simp only [placeholderOffsetsFrom, countPlaceholdersFrom]
      split
      · exact ih _ _
      · split
        · rw [List.length_cons, ih]
        · exact ih _ _

/-- The placeholders of the tokens: where each of them is written, and the value that is bound to
it. -/
def boundOffsets : Nat → List Token → List (Nat × Value)
  | _, [] => []
  | n, t :: rest =>
    (t.param?.toList.map fun p => (n, p.value)) ++ boundOffsets (n + t.chars.length) rest

theorem map_snd_boundOffsets (n : Nat) (ts : List Token) :
    (boundOffsets n ts).map Prod.snd = (params ts).map Param.value := by
  induction ts generalizing n with
  | nil => rfl
  | cons t rest ih =>
    cases h : t.param? <;> simp [boundOffsets, params, h, ih]

theorem placeholderOffsetsFrom_word {w : List Char} (h : w.all isIdentifierChar = true) (n : Nat)
    (rest : List Char) :
    placeholderOffsetsFrom none n (w ++ rest) = placeholderOffsetsFrom none
      (n + w.length) rest := by
  induction w generalizing n with
  | nil => rfl
  | cons c w ih =>
    simp only [List.all_cons, Bool.and_eq_true] at h
    have hc : ¬(c = singleQuote ∨ c = doubleQuote) ∧ c ≠ '?' := by
      refine ⟨?_, ?_⟩
      · rintro (rfl | rfl) <;> exact absurd h.1 (by decide)
      · rintro rfl
        exact absurd h.1 (by decide)
    rw [List.cons_append, placeholderOffsetsFrom, if_neg hc.1, if_neg hc.2, ih h.2,
      List.length_cons, Nat.add_right_comm, Nat.add_assoc]

/-- Inside quotes a doubled delimiter closes the piece and opens it again. -/
theorem placeholderOffsetsFrom_doubled {d : Char} (hd : d = singleQuote ∨ d = doubleQuote)
    (s : List Char) (n : Nat) (rest : List Char) :
    placeholderOffsetsFrom (some d) n (doubled d s ++ rest) =
      placeholderOffsetsFrom (some d) (n + (doubled d s).length) rest := by
  induction s generalizing n with
  | nil => rfl
  | cons c s ih =>
    simp only [doubled]
    split
    next h =>
      subst h
      simp only [List.cons_append, List.length_cons, placeholderOffsetsFrom, if_pos, if_pos hd, ih]
      congr 1
      omega
    next h =>
      simp only [List.cons_append, List.length_cons, placeholderOffsetsFrom, if_neg h, ih]
      congr 1
      omega

theorem placeholderOffsetsFrom_delimited {d : Char} (hd : d = singleQuote ∨ d = doubleQuote)
    (s : List Char) (n : Nat) (rest : List Char) :
    placeholderOffsetsFrom none n (delimited d s ++ rest) =
      placeholderOffsetsFrom none (n + (delimited d s).length) rest := by
  simp only [delimited, List.cons_append, List.append_assoc, List.nil_append]
  rw [placeholderOffsetsFrom, if_pos hd, placeholderOffsetsFrom_doubled hd, placeholderOffsetsFrom,
    if_pos rfl]
  congr 1
  simp only [List.length_cons, List.length_append, List.length_nil]
  omega

theorem placeholderOffsetsFrom_token {t : Token} (h : t.isPlain = true) (n : Nat)
    (rest : List Char) :
    placeholderOffsetsFrom none n (t.chars ++ rest) =
      (t.param?.toList.map fun _ => n) ++ placeholderOffsetsFrom none
        (n + t.chars.length) rest := by
  by_cases hw : t.isWord = true
  · have hp : t.param? = none := by cases t <;> first | rfl | simp [Token.isWord] at hw
    rw [hp]
    exact placeholderOffsetsFrom_word (Token.all_chars hw h) n rest
  · cases t with
    | blank => rfl
    | param p => rfl
    | symbol s => cases s <;> rfl
    | string s => exact placeholderOffsetsFrom_delimited (.inl rfl) s.toList n rest
    | identifier s => exact placeholderOffsetsFrom_delimited (.inr rfl) s.toList n rest
    | keyword | function | number | body | generated | element | elementColumn =>
      exact absurd rfl hw

theorem placeholderOffsetsFrom_chars {ts : List Token} (h : ∀ t ∈ ts, t.isPlain = true) (n : Nat) :
    placeholderOffsetsFrom none n (chars ts) = (boundOffsets n ts).map Prod.fst := by
  induction ts generalizing n with
  | nil => rfl
  | cons t rest ih =>
    simp only [List.mem_cons, forall_eq_or_imp] at h
    rw [chars_cons, placeholderOffsetsFrom_token h.1, ih h.2]
    simp only [boundOffsets, List.map_append, List.map_map]
    rfl

/-- In the text of plain tokens the placeholders stand where they were written, in the order of the
values that are bound to them. -/
theorem placeholderOffsets_text {ts : List Token} (h : ∀ t ∈ ts, t.isPlain = true) :
    (placeholderOffsets (text ts)).zip ((params ts).map Param.value) = boundOffsets 0 ts ∧
    countPlaceholders (text ts) = ((params ts).map Param.value).length := by
  have hfst : placeholderOffsets (text ts) = (boundOffsets 0 ts).map Prod.fst := by
    rw [placeholderOffsets, text, String.toList_ofList, placeholderOffsetsFrom_chars h]
  have hsnd := map_snd_boundOffsets 0 ts
  refine ⟨?_, ?_⟩
  · rw [hfst, ← hsnd, List.zip_map', List.map_id'']
    exact fun p => rfl
  · rw [countPlaceholders, ← length_placeholderOffsetsFrom none 0, ← placeholderOffsets,
      hfst, ← hsnd, List.length_map, List.length_map]

end DocumentQuery.Sql
