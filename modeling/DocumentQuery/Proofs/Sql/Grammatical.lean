import DocumentQuery.Proofs.Sql.Grammar
import DocumentQuery.Proofs.Sql.Rewriting

/-!
# Conditions are expressions

The tokens of a condition are derived from the grammar as an expression, whatever the condition is
made of, as long as the names that it splices in bare are no keywords.
-/

namespace DocumentQuery

open Sql (Token Keyword Symbol Condition isName isIdentifierChar)

namespace Sql

/-- The text of the tokens is derived from the phrases. -/
def Forms (ps : List Phrase) (ts : List Token) : Prop := Derives ps (ts.flatMap Token.lexemes)

theorem isName_of_underscore {w : List Char} (h : w.all isIdentifierChar = true) :
    isName ('_' :: w) = true := by
  have hplain : isPlainIdentifier ('_' :: w) = true := by
    rw [isPlainIdentifier, h]
    rfl
  have hreserved : isReserved ('_' :: w) = false := by
    -- no reserved word begins like this
    have hfirst : ∀ k ∈ reservedWords, k.toList.head? ≠ some '_' := by decide
    rw [Bool.eq_false_iff]
    intro hk
    apply hfirst _ (List.contains_iff_mem.mp hk)
    rw [upper, String.toList_ofList]
    rfl
  rw [isName, hplain, hreserved]
  rfl

theorem isName_of_isColumnName {s : List Char} (h : isColumnName s = true) : isName s = true := by
  have hall := all_of_isColumnName h
  obtain ⟨rest, rfl⟩ := cons_of_isColumnName h
  rw [List.all_cons, Bool.and_eq_true] at hall
  exact isName_of_underscore hall.2

theorem isPlainIdentifier_of_isName {w : List Char} (h : isName w = true) :
    isPlainIdentifier w = true := by
  rw [isName, Bool.and_eq_true] at h
  exact h.1

theorem Keyword.upper_text (k : Keyword) : upper k.text.toList = k.text := by
  cases k <;> decide

theorem Function.isName_text (f : Function) : isName f.text.toList = true := by
  cases f <;> decide

theorem ElementColumn.isName_text (c : ElementColumn) : isName c.text.toList = true := by
  cases c <;> decide

theorem isName_elementAlias (depth : Nat) : isName (elementAlias depth).toList = true := by
  rw [elementAlias_toList]
  apply isName_of_underscore
  rw [List.all_cons, all_toDigits]
  rfl

namespace Forms

theorem append {ps qs : List Phrase} {ts us : List Token} (h : Forms ps ts) (h' : Forms qs us) :
    Forms (ps ++ qs) (ts ++ us) := by
  unfold Forms
  rw [List.flatMap_append]
  exact Derives.append h h'

theorem of_parts {p : Phrase} {parts : List Phrase} {ts : List Token} (hs : Forms parts ts)
    (h : (p, parts) ∈ productions := by decide) : Forms [p] ts :=
  Derives.of_parts h hs

theorem single {p : Phrase} {t : Token} (h : p.Spells t.lexemes) : Forms [p] [t] := by
  unfold Forms
  rw [List.flatMap_singleton]
  exact Derives.single h

theorem keyword (k : Keyword) : Forms [.keyword k] [.keyword k] := single (.keyword k.upper_text)

theorem symbol (s : Symbol) : Forms [.symbol s] [.symbol s] := single (.symbol s)

theorem function (f : Function) : Forms [.name] [.function f] := single (.name f.isName_text)

theorem element (depth : Nat) : Forms [.name] [.element depth] :=
  single (.name (isName_elementAlias depth))

theorem elementColumn (c : ElementColumn) : Forms [.name] [.elementColumn c] :=
  single (.name c.isName_text)

theorem param (p : Param) : Forms [.expression] [.param p] := by
  have hspelled : Forms [.placeholder] [.param p] := single .placeholder
  exact hspelled.of_parts

theorem string (s : String) : Forms [.expression] [.string s] := by
  have hspelled : Forms [.string] [.string s] := single (.string s.toList)
  exact hspelled.of_parts

theorem number {n : Nat} (h : n ≤ 1) : Forms [.expression] [.number n] := by
  have hn : n = 0 ∨ n = 1 := by omega
  have hnumber : Forms [.number] [.number n] := by
    rcases hn with rfl | rfl
    · exact single (.number (by decide) (by decide))
    · exact single (.number (by decide) (by decide))
  exact of_parts hnumber

theorem column {t : Token} (h : Forms [.name] [t]) : Forms [.expression] [t] := of_parts h

theorem blank_append {ps : List Phrase} {ts : List Token} (h : Forms ps ts) :
    Forms ps ([.blank] ++ ts) :=
  Derives.blank h

theorem spaced {parts : List (List Phrase)} {pieces : List (List Token)}
    (h : List.Forall₂ Forms parts pieces) : Forms parts.flatten (spaced pieces) := by
  induction h with
  | nil => exact Derives.nil
  | @cons ps piece parts pieces hp hs ih =>
    cases hs with
    | nil =>
      rw [List.flatten_singleton]
      exact hp
    | cons hnext hrest =>
      rw [Sql.spaced, separated, List.flatten_cons, List.append_assoc]
      exact hp.append ih.blank_append

theorem parenthesized {ps : List Phrase} {ts : List Token} (h : Forms ps ts) :
    Forms (.symbol .opening :: (ps ++ [.symbol .closing])) (parenthesized ts) :=
  (symbol .opening).append (h.append (symbol .closing))

theorem listed {item items : Phrase} (hone : (items, [item]) ∈ productions)
    (hmore : (items, [item, .symbol .comma, items]) ∈ productions) {pieces : List (List Token)}
    (hne : pieces ≠ []) (h : ∀ piece ∈ pieces, Forms [item] piece) :
    Forms [items] (listed pieces) := by
  induction pieces with
  | nil => exact absurd rfl hne
  | cons piece rest ih =>
    have hpiece := h piece List.mem_cons_self
    cases rest with
    | nil => exact of_parts hpiece hone
    | cons next rest =>
      have hrest := ih (List.cons_ne_nil _ _) fun p hp => h p (List.mem_cons_of_mem _ hp)
      have hcomma : Forms [.symbol .comma, items]
          ([.symbol .comma] ++ ([.blank] ++ Sql.listed (next :: rest))) :=
        (symbol .comma).append hrest.blank_append
      rw [Sql.listed, separated, List.append_assoc]
      exact of_parts (hpiece.append hcomma) hmore

theorem expressions {pieces : List (List Token)} (hne : pieces ≠ [])
    (h : ∀ piece ∈ pieces, Forms [.expression] piece) : Forms [.expressions] (Sql.listed pieces) :=
  listed (by decide) (by decide) hne h

theorem call {f : Function} {arguments : List (List Token)} (hne : arguments ≠ [])
    (h : ∀ a ∈ arguments, Forms [.expression] a) :
    Forms [.name, .symbol .opening, .expressions, .symbol .closing] (call f arguments) :=
  (function f).append (expressions hne h).parenthesized

theorem binary {word : Keyword} (hw : (.operator, [.keyword word]) ∈ productions)
    {pieces : List (List Token)} (hne : pieces ≠ [])
    (h : ∀ piece ∈ pieces, Forms [.expression] piece) :
    Forms [.expression] (separated [.blank, .keyword word, .blank] pieces) := by
  induction pieces with
  | nil => exact absurd rfl hne
  | cons piece rest ih =>
    have hpiece := h piece List.mem_cons_self
    cases rest with
    | nil => exact hpiece
    | cons next rest =>
      have hrest := ih (List.cons_ne_nil _ _) fun p hp => h p (List.mem_cons_of_mem _ hp)
      have hword : Forms [.operator] ([.blank] ++ [.keyword word]) :=
        (of_parts (keyword word) hw).blank_append
      have hright := hword.append hrest.blank_append
      rw [separated, List.append_assoc]
      exact of_parts (hpiece.append hright)

theorem comparison (c : Comparison) : Forms [.operator] [.symbol (comparisonSymbol c)] := by
  have hproduction : (Phrase.operator, [Phrase.symbol (comparisonSymbol c)]) ∈ productions := by
    cases c <;> decide
  exact of_parts (symbol _) hproduction

theorem truthTokens (truth : Bool) : Forms [.expression] (truthTokens truth) := by
  have hleft : Forms [.expression] [.number (if truth then 1 else 0)] :=
    number (by split <;> decide)
  have hright : Forms [.expression] [.number 1] := number (by decide)
  exact of_parts (hleft.append ((comparison .eq).append hright))

theorem joined {word : Keyword} (hw : (.operator, [.keyword word]) ∈ productions)
    {pieces : List (List Token)} (h : ∀ piece ∈ pieces, Forms [.expression] piece) :
    Forms [.expression] (joined word pieces) := by
  match pieces with
  | [] => exact truthTokens true
  | [piece] => exact h piece (List.mem_singleton_self piece)
  | piece :: next :: rest =>
    have hinner := binary hw (List.cons_ne_nil _ _) h
    exact of_parts hinner.parenthesized

theorem placeholders (ps : List Param) :
    Forms [.symbol .opening, .symbol .closing] (Sql.parenthesized (placeholders ps)) ∨
      Forms [.symbol .opening, .expressions, .symbol .closing]
        (Sql.parenthesized (placeholders ps)) := by
  cases ps with
  | nil =>
    have hnone : Forms [] (Sql.placeholders []) := Derives.nil
    exact .inl hnone.parenthesized
  | cons p rest =>
    have hpieces : ∀ piece ∈ (p :: rest).map fun p => [Token.param p],
        Forms [.expression] piece := by
      intro piece hm
      obtain ⟨p, -, rfl⟩ := List.mem_map.mp hm
      exact param p
    have hsome : Forms [.expressions] (Sql.placeholders (p :: rest)) :=
      expressions (List.cons_ne_nil _ _) hpieces
    exact .inr hsome.parenthesized

end Forms

end Sql

namespace Reference

/-- Whether what the reference splices in bare can be the name of a column. -/
def isNamed : Reference → Bool
  | .column name body _ => isName name.toList && isName body.toList
  | .extract (.body body) _ => isName body.toList
  | _ => true

open Sql (Forms)

theorem forms_elementColumn (depth : Nat) (c : Sql.ElementColumn) :
    Forms [.expression] [.element depth, .symbol .dot, .elementColumn c] := by
  have hcolumn := (Forms.symbol .dot).append (Forms.elementColumn c)
  have hparts : Forms [.name, .symbol .dot, .name] _ := (Forms.element depth).append hcolumn
  exact hparts.of_parts

theorem forms_elementValue (depth : Nat) : Forms [.expression] (elementValue depth) :=
  forms_elementColumn depth .value

theorem forms_callOn {r : Reference} (h : r.isNamed = true) (f : Sql.Function) :
    Forms [.name, .symbol .opening, .expressions, .symbol .closing] (r.callOn f) := by
  have hcall {source : List Token} {path : String} (hs : Forms [.expression] source) :
      Forms [.name, .symbol .opening, .expressions, .symbol .closing]
        (Sql.call f [source, [.string path]]) := by
    apply Forms.call (List.cons_ne_nil _ _)
    intro a ha
    simp only [List.mem_cons, List.not_mem_nil, or_false] at ha
    rcases ha with rfl | rfl
    · exact hs
    · exact .string path
  rcases r with ⟨name, body, path⟩ | ⟨body | depth, path⟩ | depth
  · simp only [isNamed, Bool.and_eq_true] at h
    have hbody : Forms [.name] [.body body] := .single (.name h.2)
    exact hcall hbody.column
  · have hbody : Forms [.name] [.body body] := .single (.name h)
    exact hcall hbody.column
  · exact hcall (forms_elementValue depth)
  · apply Forms.call (List.cons_ne_nil _ _)
    intro a ha
    rw [List.mem_singleton] at ha
    exact ha ▸ forms_elementValue depth

theorem forms_value {r : Reference} (h : r.isNamed = true) : Forms [.expression] r.value := by
  cases r with
  | column name body path =>
    simp only [isNamed, Bool.and_eq_true] at h
    have hname : Forms [.name] [.generated name] := .single (.name h.1)
    exact hname.column
  | extract source path =>
    have hcall : Forms [.name, .symbol .opening, .expressions, .symbol .closing]
        ((Reference.extract source path).callOn .extract) := forms_callOn h .extract
    exact .of_parts hcall
  | element depth => exact forms_elementValue depth

theorem forms_typeOf {r : Reference} (h : r.isNamed = true) : Forms [.expression] r.typeOf := by
  cases r with
  | column name body path => exact .of_parts (forms_callOn h .typeOf)
  | extract source path => exact .of_parts (forms_callOn h .typeOf)
  | element depth => exact forms_elementColumn depth .type

theorem forms_arrayLength {r : Reference} (h : r.isNamed = true) :
    Forms [.expression] r.arrayLength :=
  .of_parts (forms_callOn h .arrayLength)

theorem forms_each {r : Reference} (h : r.isNamed = true) : Forms [.source] r.each :=
  .of_parts (forms_callOn h .each)

end Reference

namespace Sql.Condition

mutual

/-- A condition is an expression. -/
theorem forms_tokens (c : Condition) (h : ∀ r ∈ c.references, r.isNamed = true) :
    Forms [.expression] c.tokens := by
  -- each kind of condition goes by one production, whose parts are the pieces that it is put
  -- together from
  match c with
  | .constant truth => exact .truthTokens truth
  | .compare r c p =>
    have hr := Reference.forms_value (h r List.mem_cons_self)
    have hparts : Forms [.expression, .operator, .expression] _ :=
      .spaced (.cons hr (.cons (.comparison c) (.cons (.param p) .nil)))
    exact hparts.of_parts
  | .among r false ps =>
    have hr := Reference.forms_value (h r List.mem_cons_self)
    rcases Forms.placeholders ps with hps | hps
    · have hparts : Forms [.expression, .keyword .IN, .symbol .opening, .symbol .closing] _ :=
        .spaced (.cons hr (.cons (.keyword .IN) (.cons hps .nil)))
      exact hparts.of_parts
    · have hparts : Forms [.expression, .keyword .IN, .symbol .opening, .expressions,
          .symbol .closing] _ :=
        .spaced (.cons hr (.cons (.keyword .IN) (.cons hps .nil)))
      exact hparts.of_parts
  | .among r true ps =>
    have hr := Reference.forms_value (h r List.mem_cons_self)
    have hin : Forms [.keyword .NOT, .keyword .IN] (spaced [[.keyword .NOT], [.keyword .IN]]) :=
      .spaced (.cons (.keyword .NOT) (.cons (.keyword .IN) .nil))
    rcases Forms.placeholders ps with hps | hps
    · have hparts : Forms [.expression, .keyword .NOT, .keyword .IN, .symbol .opening,
          .symbol .closing] _ :=
        .spaced (.cons hr (.cons hin (.cons hps .nil)))
      exact hparts.of_parts
    · have hparts : Forms [.expression, .keyword .NOT, .keyword .IN, .symbol .opening, .expressions,
          .symbol .closing] _ :=
        .spaced (.cons hr (.cons hin (.cons hps .nil)))
      exact hparts.of_parts
  | .like r p foldCase =>
    have hr := Reference.forms_value (h r List.mem_cons_self)
    have hlike : Forms [.operator] [.keyword .LIKE] := (Forms.keyword .LIKE).of_parts
    cases foldCase with
    | false =>
      have hparts : Forms [.expression, .operator, .expression] _ :=
        .spaced (.cons hr (.cons hlike (.cons (.param p) .nil)))
      exact hparts.of_parts
    | true =>
      have hbinary :
          (Phrase.expression, [Phrase.expression, .operator, .expression]) ∈ productions := by
        decide
      have hnocase : Forms [.name] [.keyword .NOCASE] := .single (.name (by decide))
      have hall : Forms [.expression, .operator, .expression, .keyword .COLLATE, .name] _ :=
        .spaced
          (.cons hr
            (.cons hlike (.cons (.param p) (.cons (.keyword .COLLATE) (.cons hnocase .nil)))))
      have hparts : Forms [.expression, .keyword .COLLATE, .name] _ :=
        Derives.expand [] [.keyword .COLLATE, .name] hbinary hall
      exact hparts.of_parts
  | .lengthIs r p =>
    have hr := Reference.forms_arrayLength (h r List.mem_cons_self)
    have hparts : Forms [.expression, .operator, .expression] _ :=
      .spaced (.cons hr (.cons (.comparison .eq) (.cons (.param p) .nil)))
    exact hparts.of_parts
  | .present r expected =>
    have hr := Reference.forms_typeOf (h r List.mem_cons_self)
    have hnull : Forms [.expression] [.keyword .NULL] := (Forms.keyword .NULL).of_parts
    cases expected with
    | false =>
      have hparts : Forms [.expression, .keyword .IS, .expression] _ :=
        .spaced (.cons hr (.cons (.keyword .IS) (.cons hnull .nil)))
      exact hparts.of_parts
    | true =>
      have hparts : Forms [.expression, .keyword .IS, .keyword .NOT, .expression] _ :=
        .spaced (.cons hr (.cons (.keyword .IS) (.cons (.keyword .NOT) (.cons hnull .nil))))
      exact hparts.of_parts
  | .someElement r depth inner =>
    simp only [references, List.mem_cons, forall_eq_or_imp] at h
    have heach := Reference.forms_each h.1
    have hinner := forms_tokens inner h.2
    have hone : Forms [.expressions] [.number 1] := (Forms.number (Nat.le_refl 1)).of_parts
    have hnamed : (Phrase.source, [Phrase.source, .keyword .AS, .name]) ∈ productions := by decide
    have hall : Forms [.keyword .SELECT, .expressions, .keyword .FROM, .source, .keyword .AS, .name,
        .keyword .WHERE, .expression] _ :=
      .spaced (.cons (.keyword .SELECT) (.cons hone (.cons (.keyword .FROM) (.cons heach
        (.cons (.keyword .AS) (.cons (.element depth)
          (.cons (.keyword .WHERE) (.cons hinner .nil))))))))
    have hclauses : Forms [.keyword .SELECT, .expressions, .keyword .FROM, .source, .keyword .WHERE,
        .expression] _ :=
      Derives.expand [.keyword .SELECT, .expressions, .keyword .FROM] [.keyword .WHERE, .expression]
        hnamed hall
    have hcore : Forms [.core] _ := hclauses.of_parts
    have hordered : Forms [.ordered] _ := hcore.of_parts
    have hselect : Forms [.select] _ := hordered.of_parts
    have hparts : Forms [.keyword .EXISTS, .symbol .opening, .select, .symbol .closing] _ :=
      .spaced (.cons (.keyword .EXISTS) (.cons hselect.parenthesized .nil))
    exact hparts.of_parts
  | .all operands =>
    have hand : (Phrase.operator, [Phrase.keyword .AND]) ∈ productions := by decide
    exact .joined hand (forms_tokensOfList operands h)
  | .any operands =>
    have hor : (Phrase.operator, [Phrase.keyword .OR]) ∈ productions := by decide
    exact .joined hor (forms_tokensOfList operands h)
  | .none [] => exact .truthTokens true
  | .none (c :: rest) =>
    have hor : (Phrase.operator, [Phrase.keyword .OR]) ∈ productions := by decide
    have hinner := Forms.binary hor (List.cons_ne_nil _ _) (forms_tokensOfList (c :: rest) h)
    have hoperand : Forms [.expression] _ := hinner.parenthesized.of_parts
    have hparts : Forms [.keyword .NOT, .expression] _ :=
      .spaced (.cons (.keyword .NOT) (.cons hoperand .nil))
    exact hparts.of_parts
  | .not operand =>
    have hinner := forms_tokens operand h
    have hoperand : Forms [.expression] _ := hinner.parenthesized.of_parts
    have hparts : Forms [.keyword .NOT, .expression] _ :=
      .spaced (.cons (.keyword .NOT) (.cons hoperand .nil))
    exact hparts.of_parts

theorem forms_tokensOfList (cs : List Condition) (h : ∀ r ∈ referencesOfList cs, r.isNamed = true) :
    ∀ ts ∈ tokensOfList cs, Forms [.expression] ts := by
  match cs with
  | [] =>
    intro ts ht
    simp [tokensOfList] at ht
  | c :: rest =>
    simp only [referencesOfList, List.mem_append] at h
    intro ts ht
    rcases List.mem_cons.mp ht with rfl | ht
    · exact forms_tokens c fun r hr => h r (.inl hr)
    · exact forms_tokensOfList rest (fun r hr => h r (.inr hr)) ts ht

end

end Sql.Condition

end DocumentQuery
