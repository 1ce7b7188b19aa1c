import DocumentQuery.Proofs.Sql.Grammar
import DocumentQuery.Sql.Literal

/-!
# Values that SQL text spells

SQL can spell the null, a number with or without a sign, a string between quotes, and bytes as
hexadecimal digits between quotes. `Constant.ofLexemes?` tells which value some lexemes spell, and
`IsRead.literal` says that a literal is read as lexemes that spell its value, wherever a word and a
quoted piece end behind it. There is no spelling of a double that is not finite: what is written for
it is read as a name.
-/

namespace DocumentQuery

namespace Sql

/-- A value that SQL text spells by itself. -/
inductive Constant
  | null
  | number (negative : Bool) (magnitude : Decimal)
  | string (s : List Char)
  | blob (bytes : List UInt8)
  deriving DecidableEq, Repr

/-- The number with these digits, the second ones behind a point. -/
def decimalOf? (whole places : List Char) : Option Decimal :=
  if (whole ++ places).all Char.isDigit then
    some ⟨Nat.ofDigitChars 10 (whole ++ places) 0, -places.length⟩
  else none

/-- The bytes that pairs of hexadecimal digits stand for. -/
def bytesOf? : List Char → Option (List UInt8)
  | [] => some []
  | high :: low :: rest =>
    match Text.hexDigit? high, Text.hexDigit? low, bytesOf? rest with
    | some h, some l, some bytes => some (UInt8.ofNat (16 * h + l) :: bytes)
    | _, _, _ => none
  | [_] => none

/-- The number that lexemes without a sign spell. -/
def magnitude? : List Lexeme → Option Decimal
  | [.word whole] => decimalOf? whole []
  | [.word whole, .mark '.', .word places] => decimalOf? whole places
  | _ => none

/-- The value that lexemes spell, if they spell one and nothing else. A quoted piece is bytes behind
the letter X; a minus sign may stand before a number. -/
def Constant.ofLexemes? : List Lexeme → Option Constant
  | [.quoted d s] => if d = singleQuote then some (.string s) else none
  | [.word w, .quoted d s] =>
    if upper w = "X" ∧ d = singleQuote then (bytesOf? s).map .blob else none
  | .mark '-' :: rest => (magnitude? rest).map (.number true)
  | [.word w] =>
    if upper w = Keyword.NULL.text then some .null else (decimalOf? w []).map (.number false)
  | ls => (magnitude? ls).map (.number false)

/-- The text is read as these lexemes wherever a word and a quoted piece end behind it. -/
structure IsRead (text : List Char) (ls : List Lexeme) : Prop where
  lexemes : ∀ rest, endsSolid rest = true →
    Reader.outside.lexemes (text ++ rest) = (Reader.outside.lexemes rest).map (ls ++ ·)
  chars : ls.flatMap Lexeme.chars = text

theorem Reader.lexemes_word_cons (w : List Char) {c : Char} (hc : isIdentifierChar c = false)
    (rest : List Char) :
    (word w).lexemes (c :: rest) = (outside.lexemes (c :: rest)).map (.word w :: ·) := by
  simp only [lexemes, step, hc, Bool.false_eq_true, if_false, Option.map_map]
  rfl

namespace IsRead

variable {text more : List Char} {ls ms : List Lexeme}

theorem nil : IsRead [] [] := ⟨fun rest _ => by simp, rfl⟩

theorem mark {c : Char} (hc : isMark c = true) (h : IsRead text ls) :
    IsRead (c :: text) (.mark c :: ls) := by
  refine ⟨fun rest hend => ?_, by rw [List.flatMap_cons, h.chars]; rfl⟩
  rw [List.cons_append, Reader.lexemes_mark hc, h.lexemes rest hend, Option.map_map]
  rfl

theorem word {w : List Char} (hne : w ≠ []) (hw : w.all isIdentifierChar = true)
    (h : IsRead text ls) (hnext : ∀ c ∈ text.head?, isIdentifierChar c = false) :
    IsRead (w ++ text) (.word w :: ls) := by
  refine ⟨fun rest hend => ?_, by rw [List.flatMap_cons, h.chars]; rfl⟩
  obtain ⟨c, cs, rfl⟩ := List.exists_cons_of_ne_nil hne
  rw [List.all_cons, Bool.and_eq_true] at hw
  have hbegin : Reader.begin c = ([], .word [c]) := by simp [Reader.begin, hw.1]
  have hread : (Reader.word (c :: cs)).lexemes (text ++ rest) =
      (Reader.outside.lexemes (text ++ rest)).map (.word (c :: cs) :: ·) := by
    cases text with
    | nil => exact Reader.lexemes_word_end hend
    | cons d text => exact Reader.lexemes_word_cons _ (hnext d rfl) _
  rw [List.append_assoc, List.cons_append, Reader.lexemes, Reader.step, hbegin,
    Reader.lexemes_word _ _ _ hw.2, List.singleton_append, hread, h.lexemes rest hend]
  simp [Function.comp_def]

theorem quoted (s : List Char) : IsRead (delimited singleQuote s) [.quoted singleQuote s] :=
  ⟨fun _ hend => Reader.lexemes_delimited (.inl rfl) hend, by simp [Lexeme.chars]⟩

theorem tokens {ts : List Token} (h : Tidy ts) :
    IsRead (Sql.chars ts) (ts.flatMap Token.lexemes) := by
  refine ⟨fun rest hend => lexemes_chars h hend, ?_⟩
  rw [List.flatMap_assoc]
  exact List.flatMap_congr fun t _ => t.flatMap_chars_lexemes

theorem append (h : IsRead text ls) (hm : IsRead more ms) (hend : endsSolid more = true) :
    IsRead (text ++ more) (ls ++ ms) := by
  refine ⟨fun rest hrest => ?_, by rw [List.flatMap_append, h.chars, hm.chars]⟩
  have hjoin : endsSolid (more ++ rest) = true := by
    cases more with
    | nil => exact hrest
    | cons c more => exact hend
  rw [List.append_assoc, h.lexemes _ hjoin, hm.lexemes rest hrest, Option.map_map]
  simp [Function.comp_def]

theorem lex_eq (h : IsRead text ls) : lex text = some ls := by
  have hread := h.lexemes [] rfl
  rw [List.append_nil] at hread
  rw [lex, hread]
  simp [Reader.lexemes, Reader.finish]

theorem unique (h : IsRead text ls) (hm : IsRead text ms) : ls = ms :=
  Option.some.inj (h.lex_eq.symm.trans hm.lex_eq)

end IsRead

theorem isIdentifierChar_of_isDigit {c : Char} (h : c.isDigit = true) :
    isIdentifierChar c = true := by
  simp [isIdentifierChar, Char.isAlphanum, h]

theorem all_isIdentifierChar_of_digits {w : List Char} (h : w.all Char.isDigit = true) :
    w.all isIdentifierChar = true := by
  rw [List.all_eq_true] at h ⊢
  exact fun c hc => isIdentifierChar_of_isDigit (h c hc)

theorem upper_ne_null_of_digits {w : List Char} (h : w.all Char.isDigit = true) :
    upper w ≠ Keyword.NULL.text := by
  rw [upper_of_digits h]
  intro hnull
  rw [← String.toList_inj, String.toList_ofList] at hnull
  rw [hnull] at h
  exact absurd h (by decide)

theorem all_isDigit_digitChars (n : Nat) : (Decimal.digitChars n).all Char.isDigit = true :=
  List.all_eq_true.mpr fun _ hc => Nat.isDigit_of_mem_toDigits (by decide) (by decide) hc

theorem decimalOf?_of_digits (whole places : List Char)
    (h : (whole ++ places).all Char.isDigit = true) :
    decimalOf? whole places = some ⟨Nat.ofDigitChars 10 (whole ++ places) 0, -places.length⟩ :=
  if_pos h

/-- A number is read as its digits, those in front of the point and those behind it. -/
theorem IsRead.decimal {whole places : List Char} (hwhole : whole ≠ []) (hplaces : places ≠ [])
    (h : (whole ++ places).all Char.isDigit = true) :
    IsRead (whole ++ '.' :: places) [.word whole, .mark '.', .word places] := by
  rw [List.all_append, Bool.and_eq_true] at h
  have hbehind : IsRead places [.word places] := by
    simpa using word hplaces (all_isIdentifierChar_of_digits h.2) nil (by simp)
  exact word hwhole (all_isIdentifierChar_of_digits h.1) (mark (by decide) hbehind)
    (by simp; decide)

/-- The text is read as lexemes that spell this number, with a sign before them or without. -/
def SpellsNumber (text : List Char) (d : Decimal) : Prop :=
  ∃ ls, IsRead text ls ∧ Constant.ofLexemes? ls = some (.number false d) ∧
    Constant.ofLexemes? (.mark '-' :: ls) = some (.number true d)

theorem spellsNumber_digits {w : List Char} (hne : w ≠ []) (h : w.all Char.isDigit = true) :
    SpellsNumber w ⟨Nat.ofDigitChars 10 w 0, 0⟩ := by
  have hdecimal : decimalOf? w [] = some ⟨Nat.ofDigitChars 10 w 0, 0⟩ := by
    simpa using decimalOf?_of_digits w [] (by simpa using h)
  refine ⟨[.word w], ?_, ?_, ?_⟩
  · simpa using IsRead.word hne (all_isIdentifierChar_of_digits h) .nil (by simp)
  · simp [Constant.ofLexemes?, upper_ne_null_of_digits h, hdecimal]
  · simp [Constant.ofLexemes?, magnitude?, hdecimal]

theorem spellsNumber_decimal (whole places : List Char) (hwhole : whole ≠ [])
    (hplaces : places ≠ []) (h : (whole ++ places).all Char.isDigit = true) :
    SpellsNumber (whole ++ '.' :: places)
      ⟨Nat.ofDigitChars 10 (whole ++ places) 0, -places.length⟩ := by
  have hdecimal := decimalOf?_of_digits whole places h
  refine ⟨_, .decimal hwhole hplaces h, ?_, ?_⟩
  · simp only [Constant.ofLexemes?, magnitude?, hdecimal, Option.map_some]
  · simp only [Constant.ofLexemes?, magnitude?, hdecimal, Option.map_some]

end Sql

namespace Decimal

/-- The decimal in the form in which positional text spells it: no power of ten stands behind the
digits. -/
def written (d : Decimal) : Decimal :=
  if 0 ≤ d.exponent then ⟨d.digits * Nat.pow 10 d.exponent.toNat, 0⟩ else d

theorem spellsNumber_positional (d : Decimal) : Sql.SpellsNumber d.positional d.written := by
  have hdigits := Sql.all_isDigit_digitChars d.digits
  have hvalue : Nat.ofDigitChars 10 (digitChars d.digits) 0 = d.digits :=
    Nat.ofDigitChars_ten_toDigits
  have hne : digitChars d.digits ≠ [] := Nat.toDigits_ne_nil
  have hzeros (n : Nat) : (List.replicate n '0').all Char.isDigit = true := by
    rw [List.all_eq_true]
    intro c hc
    rw [List.eq_of_mem_replicate hc]
    decide
  unfold positional written
  by_cases hexp : 0 ≤ d.exponent
  · -- a whole number, with zeros behind the digits
    have hwhole := Sql.spellsNumber_digits
      (w := digitChars d.digits ++ List.replicate d.exponent.toNat '0')
      (by simp [hne]) (by rw [List.all_append, hdigits, hzeros]; rfl)
    rw [Nat.ofDigitChars_append, Nat.ofDigitChars_replicate_zero, hvalue] at hwhole
    simpa [hexp, Nat.mul_comm] using hwhole
  · have hplaces : -((-d.exponent).toNat : Int) = d.exponent := by omega
    simp only [if_neg hexp]
    split
    · next hlt =>
      -- the point falls between two digits
      have hsplit := List.take_append_drop ((digitChars d.digits).length - (-d.exponent).toNat)
        (digitChars d.digits)
      have hlength : ((digitChars d.digits).drop
          ((digitChars d.digits).length - (-d.exponent).toNat)).length = (-d.exponent).toNat := by
        rw [List.length_drop]
        omega
      have hspelled := Sql.spellsNumber_decimal
        ((digitChars d.digits).take ((digitChars d.digits).length - (-d.exponent).toNat))
        ((digitChars d.digits).drop ((digitChars d.digits).length - (-d.exponent).toNat))
        (List.ne_nil_of_length_pos (by rw [List.length_take]; omega))
        (List.ne_nil_of_length_pos (by rw [hlength]; omega)) (by rw [hsplit, hdigits])
      rwa [hsplit, hvalue, hlength, hplaces] at hspelled
    · next hge =>
      -- all digits stand behind the point
      have hlength : (List.replicate ((-d.exponent).toNat - (digitChars d.digits).length) '0' ++
          digitChars d.digits).length = (-d.exponent).toNat := by
        rw [List.length_append, List.length_replicate]
        omega
      have hspelled := Sql.spellsNumber_decimal ['0']
        (List.replicate ((-d.exponent).toNat - (digitChars d.digits).length) '0' ++
          digitChars d.digits)
        (by simp) (by simp [hne]) (by
          rw [List.all_append, List.all_append, hdigits, hzeros]
          rfl)
      have hzero : Nat.ofDigitChars 10 ['0'] 0 = 0 := rfl
      rwa [Nat.ofDigitChars_append, Nat.ofDigitChars_append, hzero, Nat.ofDigitChars_replicate_zero,
        Nat.mul_zero, hvalue, hlength, hplaces] at hspelled

end Decimal

theorem Text.hexDigit?_digitChar {n : Nat} (h : n < 16) : hexDigit? n.digitChar = some n := by
  have hall : ∀ m : Fin 16, hexDigit? m.val.digitChar = some m.val := by decide
  exact hall ⟨n, h⟩

theorem Text.paddedHex_byte (b : UInt8) :
    paddedHex 2 b.toNat = [(b.toNat / 16).digitChar, (b.toNat % 16).digitChar] := by
  have hlt := b.toNat_lt
  by_cases hsmall : b.toNat < 16
  · rw [paddedHex, hexChars, Nat.toDigits_of_lt_base hsmall, Nat.div_eq_of_lt hsmall,
      Nat.mod_eq_of_lt hsmall]
    rfl
  · have hhigh : b.toNat / 16 < 16 := by omega
    rw [paddedHex, hexChars, Nat.toDigits_of_base_le (by decide) (by omega),
      Nat.toDigits_of_lt_base hhigh]
    rfl

namespace Sql

theorem bytesOf?_hexBytes (bytes : List UInt8) : bytesOf? (Text.hexBytes bytes) = some bytes := by
  induction bytes with
  | nil => rfl
  | cons b rest ih =>
    have hhigh : b.toNat / 16 < 16 := by
      have := b.toNat_lt
      omega
    have hlow : b.toNat % 16 < 16 := Nat.mod_lt _ (by decide)
    have hbyte : UInt8.ofNat (16 * (b.toNat / 16) + b.toNat % 16) = b := by
      rw [Nat.div_add_mod, UInt8.ofNat_toNat]
    rw [Text.hexBytes, List.flatMap_cons, Text.paddedHex_byte, ← Text.hexBytes]
    simp only [List.cons_append, List.nil_append, bytesOf?, Text.hexDigit?_digitChar hhigh,
      Text.hexDigit?_digitChar hlow, ih, hbyte]

/-- The value that the literal of a value is to spell. A double that is not finite has none. -/
def Constant.ofValue? : Value → Option Constant
  | .null => some .null
  | .bool b => some (.number false ⟨b.toNat, 0⟩)
  | .integer n => some (.number (n.toInt < 0) ⟨n.toInt.natAbs, 0⟩)
  | .real x =>
    if x.isFinite then some (.number x.isNegative (Decimal.shortest .up x).written) else none
  | .text s => some (.string s.toList)
  | .blob bytes => some (.blob bytes)
  | .json j => some (.string j.compact)

theorem Constant.isSome_ofValue?_iff (v : Value) :
    (ofValue? v).isSome = true ↔ ∀ x, v = .real x → x.isFinite = true := by
  cases v with
  | real x => simp [ofValue?]
  | null | bool | integer | text | blob | json => simp [ofValue?]

theorem SpellsNumber.signed {text : List Char} {d : Decimal} (h : SpellsNumber text d)
    (negative : Bool) :
    ∃ ls, IsRead ((if negative then ['-'] else []) ++ text) ls ∧
      Constant.ofLexemes? ls = some (.number negative d) := by
  obtain ⟨ls, hread, hplain, hminus⟩ := h
  cases negative with
  | false => exact ⟨ls, hread, hplain⟩
  | true => exact ⟨.mark '-' :: ls, .mark (by decide) hread, hminus⟩

theorem spellsNumber_natural (n : Nat) : SpellsNumber (Decimal.digitChars n) ⟨n, 0⟩ := by
  have hvalue : Nat.ofDigitChars 10 (Decimal.digitChars n) 0 = n := Nat.ofDigitChars_ten_toDigits
  have hspelled := spellsNumber_digits (w := Decimal.digitChars n) Nat.toDigits_ne_nil
    (all_isDigit_digitChars n)
  rwa [hvalue] at hspelled

theorem integerText_eq (n : Int) :
    Json.integerText n = (if n < 0 then ['-'] else []) ++ Decimal.digitChars n.natAbs := by
  cases n with
  | ofNat n => rfl
  | negSucc n =>
    have hneg : Int.negSucc n < 0 := Int.negSucc_lt_zero n
    rw [if_pos hneg]
    rfl

theorem plainText_of_isFinite {x : Binary64} (h : x.isFinite = true) :
    x.plainText = (if x.isNegative then ['-'] else []) ++ (Decimal.shortest .up x).positional := by
  have hnan : x.isNaN = false := by
    have hlt : x.biasedExponent < 2047 := by simpa [Binary64.isFinite] using h
    simp [Binary64.isNaN, Nat.ne_of_lt hlt]
  simp [Binary64.plainText, hnan, h]

theorem isDigit_of_isIdentifierStart {c : Char} (h : isIdentifierStart c = true) :
    c.isDigit = false := by
  rw [Bool.eq_false_iff]
  intro hdigit
  simp only [Char.isDigit, Bool.and_eq_true, decide_eq_true_eq] at hdigit
  have hstart : ((c.isUpper || c.isLower) || c == '_') = true := h
  rw [Bool.or_eq_true, Bool.or_eq_true, beq_iff_eq] at hstart
  rcases hstart with (hupper | hlower) | rfl
  · have hbounds : 'A'.val ≤ c.val ∧ c.val ≤ 'Z'.val := of_decide_eq_true hupper
    exact UInt32.not_le.mpr (UInt32.lt_of_le_of_lt hdigit.2 (by decide)) hbounds.1
  · have hbounds : (decide ('a'.val ≤ c.val) && decide (c.val ≤ 'z'.val)) = true := hlower
    rw [Bool.and_eq_true, decide_eq_true_eq] at hbounds
    exact UInt32.not_le.mpr (UInt32.lt_of_le_of_lt hdigit.2 (by decide)) hbounds.1
  · exact absurd hdigit (by decide)

/-- A name spells no value, and no number behind a minus sign. -/
theorem Constant.ofLexemes?_name {w : List Char} (h : isName w = true) :
    ofLexemes? [.word w] = none ∧ ofLexemes? [.mark '-', .word w] = none := by
  rw [isName, Bool.and_eq_true, Bool.not_eq_true'] at h
  have hnull : upper w ≠ Keyword.NULL.text := by
    intro heq
    rw [isReserved, heq] at h
    exact absurd h.2 (by decide)
  have hdecimal : decimalOf? w [] = none := by
    cases w with
    | nil => simp [isPlainIdentifier] at h
    | cons c w =>
      rw [isPlainIdentifier, Bool.and_eq_true] at h
      simp [decimalOf?, isDigit_of_isIdentifierStart h.1.1]
  simp [ofLexemes?, magnitude?, hnull, hdecimal]

/-- The text of a double that is not finite is read as a name, behind a minus sign or without
one. -/
theorem exists_isRead_notFinite {x : Binary64} (h : x.isFinite = false) :
    ∃ name, isName name = true ∧
      (IsRead x.plainText [.word name] ∨ IsRead x.plainText [.mark '-', .word name]) := by
  have hnan : IsRead ['N', 'a', 'N'] [.word ['N', 'a', 'N']] :=
    .word (w := ['N', 'a', 'N']) (by decide) (by decide) .nil (by simp)
  have hinf : IsRead ['i', 'n', 'f'] [.word ['i', 'n', 'f']] :=
    .word (w := ['i', 'n', 'f']) (by decide) (by decide) .nil (by simp)
  simp only [Binary64.plainText, h, Bool.false_eq_true, if_false]
  by_cases hx : x.isNaN = true
  · exact ⟨['N', 'a', 'N'], by decide +kernel, .inl (by rwa [if_pos hx])⟩
  · rw [if_neg hx]
    cases x.isNegative with
    | false => exact ⟨['i', 'n', 'f'], by decide +kernel, .inl hinf⟩
    | true => exact ⟨['i', 'n', 'f'], by decide +kernel, .inr (.mark (by decide) hinf)⟩

/-- A literal is read as lexemes that spell its value, if it has one, and else as lexemes that spell
none. -/
theorem exists_isRead_literal (v : Value) :
    ∃ ls, IsRead (literal v) ls ∧ Constant.ofLexemes? ls = Constant.ofValue? v := by
  cases v with
  | null =>
    have hread : IsRead ['N', 'U', 'L', 'L'] [.word ['N', 'U', 'L', 'L']] :=
      .word (w := ['N', 'U', 'L', 'L']) (by decide) (by decide) .nil (by simp)
    exact ⟨_, hread, by decide⟩
  | bool b =>
    obtain ⟨ls, hread, hplain, -⟩ := spellsNumber_natural b.toNat
    refine ⟨ls, ?_, hplain⟩
    cases b <;> exact hread
  | integer n =>
    obtain ⟨ls, hread, hspelled⟩ := (spellsNumber_natural n.toInt.natAbs).signed (n.toInt < 0)
    refine ⟨ls, ?_, hspelled⟩
    rw [literal, integerText_eq]
    simpa using hread
  | real x =>
    cases hfinite : x.isFinite with
    | true =>
      obtain ⟨ls, hread, hspelled⟩ :=
        (Decimal.shortest .up x).spellsNumber_positional.signed x.isNegative
      refine ⟨ls, ?_, by rw [hspelled, Constant.ofValue?, hfinite]; rfl⟩
      rwa [literal, plainText_of_isFinite hfinite]
    | false =>
      obtain ⟨name, hname, hread⟩ := exists_isRead_notFinite hfinite
      have hnone : Constant.ofValue? (.real x) = none := by simp [Constant.ofValue?, hfinite]
      obtain ⟨hplain, hminus⟩ := Constant.ofLexemes?_name hname
      rcases hread with hread | hread
      · exact ⟨_, hread, by rw [hplain, hnone]⟩
      · exact ⟨_, hread, by rw [hminus, hnone]⟩
  | text s => exact ⟨_, .quoted s.toList, by simp [Constant.ofLexemes?, Constant.ofValue?]⟩
  | blob bytes =>
    refine ⟨[.word ['X'], .quoted singleQuote (Text.hexBytes bytes)], ?_, ?_⟩
    · have hquote : isIdentifierChar singleQuote = false := by decide
      exact .word (w := ['X']) (by decide) (by decide) (.quoted _)
        (by simpa [delimited] using hquote)
    · have hx : upper ['X'] = "X" := by decide
      simp [Constant.ofLexemes?, Constant.ofValue?, hx, bytesOf?_hexBytes]
  | json j => exact ⟨_, .quoted j.compact, by simp [Constant.ofLexemes?, Constant.ofValue?]⟩

end Sql

end DocumentQuery
