import DocumentQuery.Proofs.Sql.Lexeme

/-!
# The grammar of SELECT

The statements that SQLite reads as a SELECT from one source with a condition, an order, a limit and
an offset, given by the productions of its grammar. Productions replace a phrase by its parts until
every phrase is spelled; between phrases there may be blanks. Keywords are read in any case. Some of
them are reserved, and the others can be names as well.

Productions have no offset without a limit and no SELECT without a FROM, and they put no placeholder
directly behind a name. So a placeholder behind the word OFFSET always belongs to an offset, which
has its limit.
-/

namespace DocumentQuery.Sql

/-- The keywords of SQLite that cannot be read as the name of a column. -/
def reservedWords : List String :=
  ["ADD", "ALL", "ALTER", "AND", "AS", "AUTOINCREMENT", "BETWEEN", "CASE", "CAST",
    "CHECK", "COLLATE",
    "COMMIT", "CONSTRAINT", "CREATE", "DEFAULT", "DEFERRABLE", "DELETE", "DISTINCT", "DROP",
      "ELSE", "ESCAPE",
    "EXCEPT", "EXISTS", "FOREIGN", "FROM", "GROUP", "HAVING", "IN", "INDEX", "INSERT",
      "INTERSECT", "INTO",
    "IS", "ISNULL", "JOIN", "LIMIT", "NOT", "NOTHING", "NOTNULL", "NULL", "ON", "OR",
      "ORDER", "PRIMARY",
    "RAISE", "REFERENCES", "RETURNING", "SELECT", "SET", "TABLE", "THEN", "TO",
      "TRANSACTION", "UNION",
    "UNIQUE", "UPDATE", "USING", "VALUES", "WHEN", "WHERE"]

/-- The word in capital letters. -/
def upper (w : List Char) : String := String.ofList (w.map Char.toUpper)

def isReserved (w : List Char) : Bool := reservedWords.contains (upper w)

/-- Whether the word can be the name of a column, a function or an alias. -/
def isName (w : List Char) : Bool := isPlainIdentifier w && !isReserved w

/-- The parts of statements. -/
inductive Phrase
  | keyword (k : Keyword)
  | symbol (s : Symbol)
  | name
  | number
  | string
  | table
  | placeholder
  | operator
  | expression
  /-- One expression or several, with commas between them. -/
  | expressions
  | ordering
  | orderings
  | source
  /-- A SELECT without an order and a limit. -/
  | core
  | ordered
  | select
  deriving DecidableEq, Repr

/-- What phrases are made of, with one entry for each way to make one. -/
def productions : List (Phrase × List Phrase) :=
  [(.select, [.ordered]),
    (.select, [.ordered, .keyword .LIMIT, .expression]),
    (.select, [.ordered, .keyword .LIMIT, .expression, .keyword .OFFSET, .expression]),
    (.ordered, [.core]),
    (.ordered, [.core, .keyword .ORDER, .keyword .BY, .orderings]),
    (.core, [.keyword .SELECT, .expressions, .keyword .FROM, .source, .keyword .WHERE,
      .expression]),
    (.source, [.table]),
    (.source, [.name, .symbol .opening, .expressions, .symbol .closing]),
    (.source, [.source, .keyword .AS, .name]),
    (.orderings, [.ordering]),
    (.orderings, [.ordering, .symbol .comma, .orderings]),
    (.ordering, [.expression]),
    (.ordering, [.expression, .keyword .ASC]),
    (.ordering, [.expression, .keyword .DESC]),
    (.expressions, [.expression]),
    (.expressions, [.expression, .symbol .comma, .expressions]),
    (.expression, [.number]),
    (.expression, [.string]),
    (.expression, [.placeholder]),
    (.expression, [.keyword .NULL]),
    (.expression, [.name]),
    (.expression, [.name, .symbol .dot, .name]),
    (.expression, [.name, .symbol .opening, .expressions, .symbol .closing]),
    (.expression, [.symbol .opening, .expression, .symbol .closing]),
    (.expression, [.keyword .NOT, .expression]),
    (.expression, [.expression, .operator, .expression]),
    (.expression, [.expression, .keyword .IS, .expression]),
    (.expression, [.expression, .keyword .IS, .keyword .NOT, .expression]),
    (.expression, [.expression, .keyword .COLLATE, .name]),
    (.expression, [.expression, .keyword .IN, .symbol .opening, .symbol .closing]),
    (.expression, [.expression, .keyword .IN, .symbol .opening, .expressions, .symbol .closing]),
    (.expression, [.expression, .keyword .NOT, .keyword .IN, .symbol .opening, .symbol .closing]),
    (.expression,
      [.expression, .keyword .NOT, .keyword .IN, .symbol .opening, .expressions, .symbol .closing]),
    (.expression, [.keyword .EXISTS, .symbol .opening, .select, .symbol .closing]),
    (.operator, [.symbol .equal]),
    (.operator, [.symbol .notEqual]),
    (.operator, [.symbol .less]),
    (.operator, [.symbol .lessOrEqual]),
    (.operator, [.symbol .greater]),
    (.operator, [.symbol .greaterOrEqual]),
    (.operator, [.keyword .LIKE]),
    (.operator, [.keyword .AND]),
    (.operator, [.keyword .OR])]

/-- How the phrases without parts are written. -/
inductive Phrase.Spells : Phrase → List Lexeme → Prop
  | keyword {k : Keyword} {w : List Char} (h : upper w = k.text) : Spells (.keyword k) [.word w]
  | symbol (s : Symbol) : Spells (.symbol s) (s.text.toList.map .mark)
  | name {w : List Char} (h : isName w = true) : Spells .name [.word w]
  | number {w : List Char} (hn : w ≠ []) (hd : w.all Char.isDigit = true) : Spells .number [.word w]
  | string (s : List Char) : Spells .string [.quoted singleQuote s]
  | table (s : List Char) : Spells .table [.quoted doubleQuote s]
  | placeholder : Spells .placeholder [.mark '?']

/-- Replaces phrases by their parts, as often as one likes. -/
inductive Expands : List Phrase → List Phrase → Prop
  | refl (ps : List Phrase) : Expands ps ps
  | step (before after : List Phrase) {p : Phrase} {parts qs : List Phrase}
      (h : (p, parts) ∈ productions)
      (hs : Expands (before ++ parts ++ after) qs) : Expands (before ++ p :: after) qs

/-- Spells phrases one after the other, with blanks in between. -/
inductive Spelled : List Phrase → List Lexeme → Prop
  | nil : Spelled [] []
  | cons {p : Phrase} {ps : List Phrase} {ls ms : List Lexeme} (h : p.Spells ls)
      (hs : Spelled ps ms) :
      Spelled (p :: ps) (ls ++ ms)
  | blank {ps : List Phrase} {ls : List Lexeme} (hs : Spelled ps ls) : Spelled ps (.mark ' ' :: ls)

/-- The grammar derives the text from the phrases. -/
def Derives (ps : List Phrase) (ls : List Lexeme) : Prop := ∃ qs, Expands ps qs ∧ Spelled qs ls

theorem Expands.append {ps ps' qs qs' : List Phrase} (h : Expands ps qs) (h' : Expands ps' qs') :
    Expands (ps ++ ps') (qs ++ qs') := by
  induction h with
  | refl ps =>
    induction h' with
    | refl ps' => exact .refl _
    | step before after hp _ ih =>
      rw [← List.append_assoc]
      apply Expands.step (ps ++ before) after hp
      simpa only [List.append_assoc] using ih
  | step before after hp _ ih =>
    rw [List.append_assoc, List.cons_append]
    apply Expands.step before (after ++ ps') hp
    simpa only [List.append_assoc] using ih

theorem Spelled.append {ps qs : List Phrase} {ls ms : List Lexeme} (h : Spelled ps ls)
    (h' : Spelled qs ms) :
    Spelled (ps ++ qs) (ls ++ ms) := by
  induction h with
  | nil => exact h'
  | cons hp _ ih =>
    rw [List.cons_append, List.append_assoc]
    exact .cons hp ih
  | blank _ ih => exact .blank ih

namespace Derives

theorem nil : Derives [] [] := ⟨[], .refl [], .nil⟩

theorem blank {ps : List Phrase} {ls : List Lexeme} (h : Derives ps ls) :
    Derives ps (.mark ' ' :: ls) := by
  obtain ⟨qs, hexpands, hspelled⟩ := h
  exact ⟨qs, hexpands, .blank hspelled⟩

theorem append {ps qs : List Phrase} {ls ms : List Lexeme} (h : Derives ps ls)
    (h' : Derives qs ms) :
    Derives (ps ++ qs) (ls ++ ms) := by
  obtain ⟨rs, hexpands, hspelled⟩ := h
  obtain ⟨rs', hexpands', hspelled'⟩ := h'
  exact ⟨rs ++ rs', hexpands.append hexpands', hspelled.append hspelled'⟩

theorem expand (before after : List Phrase) {p : Phrase} {parts : List Phrase} {ls : List Lexeme}
    (h : (p, parts) ∈ productions) (hs : Derives (before ++ parts ++ after) ls) :
    Derives (before ++ p :: after) ls := by
  obtain ⟨qs, hexpands, hspelled⟩ := hs
  exact ⟨qs, .step before after h hexpands, hspelled⟩

theorem of_parts {p : Phrase} {parts : List Phrase} {ls : List Lexeme}
    (h : (p, parts) ∈ productions) (hs : Derives parts ls) : Derives [p] ls := by
  apply expand [] [] h
  rwa [List.nil_append, List.append_nil]

theorem single {p : Phrase} {ls : List Lexeme} (h : p.Spells ls) : Derives [p] ls := by
  have hspelled := Spelled.cons h .nil
  rw [List.append_nil] at hspelled
  exact ⟨[p], .refl [p], hspelled⟩

end Derives

theorem keyword_not_mem_heads (k : Keyword) : ∀ r ∈ productions, r.1 ≠ .keyword k := by
  cases k <;> decide

/-- If no production brings in one keyword more often than another, then no expansion does. -/
theorem Expands.count_le {k k' : Keyword}
    (hr : ∀ r ∈ productions, r.2.count (.keyword k) ≤ r.2.count (.keyword k')) {ps qs : List Phrase}
    (h : Expands ps qs) :
    qs.count (.keyword k) + ps.count (.keyword k') ≤ qs.count (.keyword k') + ps.count
      (.keyword k) := by
  induction h with
  | refl ps => omega
  | @step before after p parts qs hp _ ih =>
    have hparts : parts.count (.keyword k) ≤ parts.count (.keyword k') := hr (p, parts) hp
    have hhead (w : Keyword) : (p :: after).count (.keyword w) = after.count (.keyword w) :=
      List.count_cons_of_ne (keyword_not_mem_heads w (p, parts) hp)
    simp only [List.count_append, hhead] at ih ⊢
    omega

/-- Whether a text of the phrase can end in a name. -/
def Phrase.endsInName : Phrase → Bool
  | .name | .expression | .expressions | .ordering | .orderings | .source | .core | .ordered |
      .select => true
  | _ => false

/-- Whether a text of the phrase can begin with a placeholder. -/
def Phrase.beginsWithPlaceholder : Phrase → Bool
  | .placeholder | .expression | .expressions | .ordering | .orderings => true
  | _ => false

/-- No placeholder follows directly behind a name. -/
def Apart (ps : List Phrase) : Prop :=
  ps.IsChain fun p q => p.endsInName = false ∨ q.beginsWithPlaceholder = false

instance (ps : List Phrase) : Decidable (Apart ps) :=
  inferInstanceAs (Decidable (List.IsChain _ ps))

/-- The parts of a phrase are apart, and at their ends they are like the phrase. -/
theorem apart_of_mem_productions : ∀ r ∈ productions, r.2 ≠ [] ∧ Apart r.2 ∧
    (∀ q ∈ r.2.head?, q.beginsWithPlaceholder = true → r.1.beginsWithPlaceholder = true) ∧
    ∀ q ∈ r.2.getLast?, q.endsInName = true → r.1.endsInName = true := by
  decide

theorem Expands.apart {ps qs : List Phrase} (h : Expands ps qs) (ha : Apart ps) : Apart qs := by
  induction h with
  | refl ps => exact ha
  | @step before after p parts qs hp _ ih =>
    apply ih
    obtain ⟨hne, hparts, hfirst, hlast⟩ := apart_of_mem_productions (p, parts) hp
    obtain ⟨hbefore, hrest, hleft⟩ := List.isChain_append.mp ha
    obtain ⟨hright, hafter⟩ := List.isChain_cons.mp hrest
    refine List.isChain_append.mpr ⟨List.isChain_append.mpr ⟨hbefore, hparts, ?_⟩, hafter, ?_⟩
    · intro x hx y hy
      rcases hleft x hx p rfl with hx' | hp'
      · exact .inl hx'
      · right
        rw [Bool.eq_false_iff] at hp' ⊢
        intro hy'
        exact hp' (hfirst y hy hy')
    · intro x hx y hy
      rw [List.getLast?_append_of_ne_nil before hne] at hx
      rcases hright y hy with hp' | hy'
      · left
        rw [Bool.eq_false_iff] at hp' ⊢
        intro hx'
        exact hp' (hlast x hx hx')
      · exact .inr hy'

def Keyword.all : List Keyword :=
  [.AND, .OR, .NOT, .IN, .LIKE, .COLLATE, .NOCASE, .IS, .NULL, .EXISTS, .SELECT, .FROM, .AS,
    .WHERE, .ORDER,
    .BY, .ASC, .DESC, .LIMIT, .OFFSET]

def Keyword.ofText? (s : String) : Option Keyword := all.find? fun k => k.text == s

theorem Keyword.ofText?_text (k : Keyword) : ofText? k.text = some k := by
  cases k <;> decide

theorem Keyword.text_inj {k k' : Keyword} (h : k.text = k'.text) : k = k' := by
  have hk := congrArg ofText? h
  rw [ofText?_text, ofText?_text, Option.some.injEq] at hk
  exact hk

/-- Whether the lexeme is the keyword. -/
def Lexeme.isWord (k : Keyword) : Lexeme → Bool
  | .word w => upper w == k.text
  | _ => false

def countWord (k : Keyword) (ls : List Lexeme) : Nat := ls.countP (Lexeme.isWord k)

/-- Whether the text begins with a placeholder, blanks aside. -/
def beginsWithPlaceholder : List Lexeme → Bool
  | .mark c :: rest => if c = ' ' then beginsWithPlaceholder rest else c == '?'
  | _ => false

/-- The number of words OFFSET with a placeholder behind them. -/
def countOffsets : List Lexeme → Nat
  | [] => 0
  | l :: rest =>
    (if l.isWord .OFFSET && beginsWithPlaceholder rest then 1 else 0) + countOffsets rest

theorem countOffsets_le_append (ls ms : List Lexeme) :
    countOffsets ms ≤ countOffsets (ls ++ ms) := by
  induction ls with
  | nil => exact Nat.le_refl _
  | cons l rest ih =>
    rw [List.cons_append, countOffsets]
    omega

theorem countOffsets_cons {l : Lexeme} {rest : List Lexeme}
    (h : l.isWord .OFFSET = false ∨ beginsWithPlaceholder rest = false) :
    countOffsets (l :: rest) = countOffsets rest := by
  rcases h with h | h <;> simp [countOffsets, h]

theorem isWord_of_keyword {k k' : Keyword} {w : List Char} (hw : upper w = k'.text) (hne : k' ≠ k) :
    (Lexeme.word w).isWord k = false := by
  rw [Lexeme.isWord, beq_eq_false_iff_ne, hw]
  intro ht
  exact hne (Keyword.text_inj ht)

theorem isWord_of_isName {w : List Char} (h : isName w = true) {k : Keyword}
    (hk : k.text ∈ reservedWords) : (Lexeme.word w).isWord k = false := by
  rw [Lexeme.isWord, beq_eq_false_iff_ne]
  intro he
  rw [isName, Bool.and_eq_true, Bool.not_eq_true', isReserved, he] at h
  have hmem : reservedWords.contains k.text = true := List.contains_iff_mem.mpr hk
  rw [hmem] at h
  exact absurd h.2 (by decide)

theorem upper_of_digits {w : List Char} (h : w.all Char.isDigit = true) :
    upper w = String.ofList w := by
  have hmap : w.map Char.toUpper = w.map id := by
    apply List.map_congr_left
    intro c hc
    have hd := List.all_eq_true.mp h c hc
    simp only [Char.isDigit, Bool.and_eq_true, decide_eq_true_eq] at hd
    have hlt : c.val < 'a'.val := UInt32.lt_of_le_of_lt hd.2 (by decide)
    exact dif_neg fun hlower => UInt32.not_le.mpr hlt hlower.1
  rw [upper, hmap, List.map_id]

theorem isWord_of_digits {w : List Char} (h : w.all Char.isDigit = true) (k : Keyword) :
    (Lexeme.word w).isWord k = false := by
  rw [Lexeme.isWord, beq_eq_false_iff_ne, upper_of_digits h]
  intro he
  have hw : w = k.text.toList := by rw [← he, String.toList_ofList]
  rw [hw] at h
  have hk : k.text.toList.all Char.isDigit = false := by cases k <;> decide
  rw [hk] at h
  cases h

/-- Among the phrases that are spelled, only a reserved keyword is spelled as this keyword. -/
theorem Phrase.Spells.countWord_eq {k : Keyword} (hk : k.text ∈ reservedWords) {p : Phrase}
    {ls : List Lexeme} (h : p.Spells ls) : countWord k ls = [p].count (.keyword k) := by
  have hword {w : List Char} (hw : (Lexeme.word w).isWord k = false) :
      countWord k [.word w] = 0 := by
    simp [countWord, hw]
  cases h with
  | @keyword k' w hw =>
    by_cases he : k' = k
    · subst he
      simp [countWord, Lexeme.isWord, hw]
    · rw [hword (isWord_of_keyword hw he), List.count_singleton, if_neg (by simpa using he)]
  | symbol s =>
    have hmarks : countWord k (s.text.toList.map .mark) = 0 := by
      rw [countWord, List.countP_map, List.countP_eq_zero]
      intro c _
      exact Bool.false_ne_true
    rw [hmarks]
    rfl
  | name hn => exact hword (isWord_of_isName hn hk)
  | number _ hd => exact hword (isWord_of_digits hd k)
  | string s | table s | placeholder => rfl

/-- A text has as many reserved keywords as its phrases. -/
theorem Spelled.countWord_eq {k : Keyword} (hk : k.text ∈ reservedWords) {ps : List Phrase}
    {ls : List Lexeme} (h : Spelled ps ls) : countWord k ls = ps.count (.keyword k) := by
  induction h with
  | nil => rfl
  | @cons p ps ls ms hp _ ih =>
    have hcons : (p :: ps).count (.keyword k) = [p].count (.keyword k) + ps.count (.keyword k) := by
      rw [← List.singleton_append, List.count_append]
    have happend : countWord k (ls ++ ms) = countWord k ls + countWord k ms := List.countP_append
    rw [happend, hcons, hp.countWord_eq hk, ih]
  | blank _ ih => exact ih

theorem Spelled.head?_of_beginsWithPlaceholder {ps : List Phrase} {ls : List Lexeme}
    (h : Spelled ps ls) (hb : beginsWithPlaceholder ls = true) : ps.head? = some .placeholder := by
  induction h with
  | nil => cases hb
  | cons hp _ _ =>
    cases hp with
    | placeholder => rfl
    | symbol s => cases s <;> cases hb
    | keyword | name | number | string | table => cases hb
  | blank _ ih => exact ih hb

/-- Where the phrases are apart, a placeholder behind the word OFFSET is behind the keyword. -/
theorem Spelled.countOffsets_le {ps : List Phrase} {ls : List Lexeme} (h : Spelled ps ls)
    (ha : Apart ps) :
    countOffsets ls ≤ ps.count (.keyword .OFFSET) := by
  induction h with
  | nil => exact Nat.le_refl _
  | @cons p ps ls ms hp hs ih =>
    obtain ⟨hright, hrest⟩ := List.isChain_cons.mp ha
    have hms := ih hrest
    have hle : ps.count (.keyword .OFFSET) ≤ (p :: ps).count (.keyword .OFFSET) :=
      List.count_le_count_cons
    cases hp with
    | @keyword k w hw =>
      by_cases hk : k = .OFFSET
      · subst hk
        rw [List.singleton_append, countOffsets, List.count_cons_self]
        split <;> omega
      · rw [List.singleton_append, countOffsets_cons (.inl (isWord_of_keyword hw hk))]
        omega
    | @name w hn =>
      have hnone : beginsWithPlaceholder ms = false := by
        rw [Bool.eq_false_iff]
        intro hb
        rcases hright _ (hs.head?_of_beginsWithPlaceholder hb) with h | h <;> cases h
      rw [List.singleton_append, countOffsets_cons (.inr hnone)]
      omega
    | number _ hd =>
      rw [List.singleton_append, countOffsets_cons (.inl (isWord_of_digits hd .OFFSET))]
      omega
    | symbol s =>
      have hmarks (cs : List Char) : countOffsets (cs.map .mark ++ ms) = countOffsets ms := by
        induction cs with
        | nil => rfl
        | cons c cs ihc =>
          rw [List.map_cons, List.cons_append, countOffsets_cons (.inl rfl), ihc]
      rw [hmarks]
      omega
    | string | table | placeholder =>
      rw [List.singleton_append, countOffsets_cons (.inl rfl)]
      omega
  | blank _ ih =>
    rw [countOffsets_cons (.inl rfl)]
    exact ih ha

/-- A statement has no more offsets than limits. -/
theorem Derives.offsets_le_limits {ls : List Lexeme} (h : Derives [.select] ls) :
    countOffsets ls ≤ countWord .LIMIT ls := by
  obtain ⟨qs, hexpands, hspelled⟩ := h
  have hpairs : ∀ r ∈ productions, r.2.count (.keyword .OFFSET) ≤ r.2.count (.keyword .LIMIT) := by
    decide
  have hcounts := hexpands.count_le hpairs
  have hoffsets := hspelled.countOffsets_le (hexpands.apart (List.isChain_singleton _))
  have hselect (k : Keyword) : [Phrase.select].count (.keyword k) = 0 := rfl
  rw [hspelled.countWord_eq (by decide)]
  rw [hselect, hselect] at hcounts
  omega

theorem Derives.selects_le_froms {ls : List Lexeme} (h : Derives [.select] ls) :
    countWord .SELECT ls ≤ countWord .FROM ls := by
  obtain ⟨qs, hexpands, hspelled⟩ := h
  have hpairs : ∀ r ∈ productions, r.2.count (.keyword .SELECT) ≤ r.2.count (.keyword .FROM) := by
    decide
  have hcounts := hexpands.count_le hpairs
  have hselect (k : Keyword) : [Phrase.select].count (.keyword k) = 0 := rfl
  rw [hspelled.countWord_eq (by decide), hspelled.countWord_eq (by decide)]
  rw [hselect, hselect] at hcounts
  omega

end DocumentQuery.Sql
