import DocumentQuery.Proofs.Filter.Compiled
import DocumentQuery.Proofs.Filter.Visits
import DocumentQuery.Proofs.Select.Tokens
import DocumentQuery.Proofs.Sql.Aligned

/-!
# The predicates of a filter

Every test has a text of its own about the field that it reads, with a placeholder for each of its
values. The condition of a filter holds these predicates in the order of the tests, however they are
joined.
-/

namespace DocumentQuery

open Sql

/-- The text in front of what some item of an array has to meet. -/
def searchText (r : Reference) (depth : Nat) : String :=
  "EXISTS (SELECT 1 FROM " ++ text r.each ++ " AS " ++ elementAlias depth ++ " WHERE "

/-- The search for an item of an array that equals a value. -/
def Test.probe (r : Reference) (depth : Nat) (v : Value) : Statement :=
  ⟨searchText r depth ++ elementAlias depth ++ ".value = ?)", [v]⟩

/-- What a test writes of its own: nothing for a list without values, and for all of several values
a search for each of them in the array that the field is. -/
def Test.predicates (r : Reference) (depth : Nat) : Test → List Statement
  | .compare c v => [⟨text r.value ++ " " ++ (comparisonSymbol c).text ++ " ?", [v]⟩]
  | .member _ [] => []
  | .member .oneOf vs =>
    [⟨text r.value ++ " IN (" ++ String.intercalate ", " (vs.map fun _ => "?") ++ ")", vs⟩]
  | .member .noneOf vs =>
    [⟨text r.value ++ " NOT IN (" ++ String.intercalate ", " (vs.map fun _ => "?") ++ ")", vs⟩]
  | .member .all vs => vs.map (Test.probe r depth)
  | .pattern .ilike s => [⟨text r.value ++ " LIKE ? COLLATE NOCASE", [.text s]⟩]
  | .pattern p s => [⟨text r.value ++ " LIKE ?", [.text (slotPattern p.slot s)]⟩]
  | .size n => [⟨text r.arrayLength ++ " = ?", [.integer n]⟩]
  | .present true => [⟨text r.typeOf ++ " IS NOT NULL", []⟩]
  | .present false => [⟨text r.typeOf ++ " IS NULL", []⟩]

/-- What a part of a filter writes of its own at its depth. A filter on array elements opens the
search that its tests stand in. -/
def Filter.predicatesAt (s : Schema) : Nat × Filter → List Statement
  | (depth, .test path t) => t.predicates (s.resolveIn (.ofDepth depth) path) (depth + 1)
  | (depth, .elemMatch path _) =>
    [⟨searchText (s.resolveIn (.ofDepth depth) path) (depth + 1), []⟩]
  | _ => []

namespace Sql

theorem text_placeholders (ps : List Param) :
    text (placeholders ps) = String.intercalate ", " (ps.map fun _ => "?") := by
  rw [placeholders, listed, text_separated, List.map_map]
  rfl

theorem Statement.ofTokens_eq {ts : List Token} {sql : String} {values : List Value}
    (hsql : chars ts = sql.toList) (hvalues : (Sql.params ts).map Param.value = values) :
    ofTokens ts = ⟨sql, values⟩ := by
  rw [ofTokens, text, hsql, hvalues, String.ofList_toList]

namespace Condition

theorem ofTokens_compare (r : Reference) (c : Comparison) (p : Param) :
    Statement.ofTokens (compare r c p).tokens =
      ⟨text r.value ++ " " ++ (comparisonSymbol c).text ++ " ?", [p.value]⟩ := by
  refine Statement.ofTokens_eq ?_ (by rw [params_tokens]; rfl)
  simp [tokens, spaced, separated, text, Token.chars]

theorem ofTokens_among (r : Reference) (negated : Bool) (ps : List Param) :
    Statement.ofTokens (among r negated ps).tokens =
      ⟨text r.value ++ (if negated then " NOT IN (" else " IN (") ++
        String.intercalate ", " (ps.map fun _ => "?") ++ ")", ps.map Param.value⟩ := by
  refine Statement.ofTokens_eq ?_ (by rw [params_tokens, params])
  rw [← text_placeholders]
  cases negated <;>
    simp [tokens, spaced, separated, parenthesized, text, Token.chars, Keyword.text, Symbol.text]

theorem ofTokens_like (r : Reference) (p : Param) (foldCase : Bool) :
    Statement.ofTokens (like r p foldCase).tokens =
      ⟨text r.value ++ (if foldCase then " LIKE ? COLLATE NOCASE" else " LIKE ?"), [p.value]⟩ := by
  refine Statement.ofTokens_eq ?_ (by rw [params_tokens]; rfl)
  cases foldCase <;> simp [tokens, spaced, separated, text, Token.chars, Keyword.text]

theorem ofTokens_lengthIs (r : Reference) (p : Param) :
    Statement.ofTokens (lengthIs r p).tokens = ⟨text r.arrayLength ++ " = ?", [p.value]⟩ := by
  refine Statement.ofTokens_eq ?_ (by rw [params_tokens]; rfl)
  simp [tokens, spaced, separated, text, Token.chars, Symbol.text]

theorem ofTokens_present (r : Reference) (expected : Bool) :
    Statement.ofTokens (present r expected).tokens =
      ⟨text r.typeOf ++ (if expected then " IS NOT NULL" else " IS NULL"), []⟩ := by
  refine Statement.ofTokens_eq ?_ (by rw [params_tokens]; rfl)
  cases expected <;> simp [tokens, spaced, separated, text, Token.chars, Keyword.text]

/-- The tokens in front of what some item of an array has to meet. -/
def searchOpening (r : Reference) (depth : Nat) : List Token :=
  [.keyword .EXISTS, .blank, .symbol .opening, .keyword .SELECT, .blank, .number 1, .blank,
    .keyword .FROM, .blank] ++ r.each ++
    [.blank, .keyword .AS, .blank, .element depth, .blank, .keyword .WHERE, .blank]

theorem tokens_someElement (r : Reference) (depth : Nat) (inner : Condition) :
    (someElement r depth inner).tokens = searchOpening r depth ++
      (inner.tokens ++ [.symbol .closing]) := by
  simp [tokens, spaced, separated, parenthesized, searchOpening]

theorem chars_searchOpening (r : Reference) (depth : Nat) :
    chars (searchOpening r depth) = (searchText r depth).toList := by
  have hone : Decimal.digitChars 1 = ['1'] := by decide
  -- `rw` cannot find the equation of this definition in reasonable time.
  delta searchText
  simp [searchOpening, text, Token.chars, Keyword.text, Symbol.text, hone]

theorem ofTokens_searchOpening (r : Reference) (depth : Nat) :
    Statement.ofTokens (searchOpening r depth) = ⟨searchText r depth, []⟩ := by
  refine Statement.ofTokens_eq (chars_searchOpening r depth) ?_
  simp [searchOpening, Reference.each, Reference.params_callOn, Token.param?]

theorem holds_someElement {inner : Condition} {ps : List Statement} (r : Reference) (depth : Nat)
    (h : Holds inner.tokens ps) :
    Holds (someElement r depth inner).tokens (⟨searchText r depth, []⟩ :: ps) := by
  rw [tokens_someElement]
  exact .predicate (ofTokens_searchOpening r depth) (h.append_gap rfl)

/-- The condition that some item of an array equals a value. -/
def equalsElement (r : Reference) (depth : Nat) (v : Value) : Condition :=
  someElement r depth (compare (.element depth) .eq (literalParam v))

theorem ofTokens_probe (r : Reference) (depth : Nat) (v : Value) :
    Statement.ofTokens (equalsElement r depth v).tokens = Test.probe r depth v := by
  refine Statement.ofTokens_eq ?_ (by rw [params_tokens]; rfl)
  rw [equalsElement, tokens_someElement, chars_append, chars_searchOpening]
  simp [tokens, spaced, separated, Reference.value, elementValue, Token.chars, ElementColumn.text,
    Symbol.text, comparisonSymbol]

theorem forall₂_holds_probes (r : Reference) (depth : Nat) (vs : List Value) :
    List.Forall₂ Holds (tokensOfList (vs.map (equalsElement r depth)))
      (vs.map fun v => [Test.probe r depth v]) := by
  rw [tokensOfList_eq_map, List.map_map]
  exact Holds.forall₂_singles (ofTokens_probe r depth) vs

end Condition

end Sql

open Sql.Condition in
theorem Test.holds_condition (t : Test) (r : Reference) (depth : Nat) :
    Holds (t.condition r depth).tokens (t.predicates r depth) := by
  cases t with
  | compare c v => exact .single (ofTokens_compare r c (literalParam v))
  | member m vs =>
    have hvalues : (vs.map literalParam).map Param.value = vs := by
      rw [List.map_map]
      exact List.map_id' vs
    have hmarks : (vs.map literalParam).map (fun _ => "?") = vs.map fun _ => "?" := List.map_map
    have hamong (negated : Bool) := ofTokens_among r negated (vs.map literalParam)
    simp only [hvalues, hmarks] at hamong
    cases vs with
    | nil => cases m <;> exact .of_params rfl
    | cons v rest =>
      cases m with
      | oneOf => exact .single (hamong false)
      | noneOf => exact .single (hamong true)
      | all =>
        have hprobes := Holds.joined .AND (forall₂_holds_probes r depth (v :: rest))
        rwa [← List.flatMap_def, ← List.map_eq_flatMap] at hprobes
  | pattern p s => cases p <;> exact .single (ofTokens_like r _ _)
  | size n => exact .single (ofTokens_lengthIs r _)
  | present expected => cases expected <;> exact .single (ofTokens_present r _)

theorem Connective.holds_join? {k : Connective} {cs : List Condition} {c : Condition}
    (hj : k.join? cs = some c) {pss : List (List Statement)}
    (h : List.Forall₂ Holds (Condition.tokensOfList cs) pss) :
    Holds c.tokens pss.flatten := by
  match k, cs with
  | .and, cs | .or, cs =>
    obtain rfl := Option.some.inj hj
    exact .joined _ h
  | .nor, [] =>
    obtain rfl := Option.some.inj hj
    exact .joined .OR h
  | .nor, d :: ds =>
    obtain rfl := Option.some.inj hj
    exact .other rfl (.other rfl (Holds.separated rfl h).parenthesized)
  | .not, [d] =>
    obtain rfl := Option.some.inj hj
    cases h with
    | cons hd hnil =>
      cases hnil
      rw [List.flatten_singleton]
      exact .other rfl (.other rfl hd.parenthesized)

namespace Filter

/-- The condition of a filter holds what the parts of the filter write, in their order. -/
theorem holds_condition {s : Schema} {f : Filter} {c : Condition}
    (h : f.condition s .document = .ok c) :
    Holds c.tokens ((f.visits 0).flatMap (predicatesAt s)) := by
  have step : Inductive s
      (fun root f c => ∀ depth, root = .ofDepth depth →
        Holds c.tokens ((f.visits depth).flatMap (predicatesAt s)))
      (fun root fs cs => ∀ depth, root = .ofDepth depth →
        ∃ pss, List.Forall₂ Holds (Condition.tokensOfList cs) pss ∧
          pss.flatten = (visitsOfList depth fs).flatMap (predicatesAt s)) := {
    everything := fun _ _ _ => .of_params rfl
    logical := fun root k fs cs c hcs hj depth hroot => by
      obtain ⟨pss, hpss, hflatten⟩ := hcs depth hroot
      rw [visits, List.flatMap_cons, ← hflatten]
      exact Connective.holds_join? hj hpss
    test := fun root path t _ depth hroot => by
      rw [visits, List.flatMap_singleton, predicatesAt, hroot, Root.nextDepth_ofDepth]
      exact t.holds_condition _ _
    elemMatch := fun root path inner c hc depth hroot => by
      have hinner := hc (depth + 1) (by rw [hroot, Root.nextDepth_ofDepth]; rfl)
      rw [visits, List.flatMap_cons, predicatesAt, hroot, Root.nextDepth_ofDepth]
      exact Condition.holds_someElement _ _ hinner
    nil := fun _ _ _ => ⟨[], .nil, rfl⟩
    cons := fun root f fs c cs hc hcs depth hroot => by
      obtain ⟨pss, hpss, hflatten⟩ := hcs depth hroot
      refine ⟨_ :: pss, .cons (hc depth hroot) hpss, ?_⟩
      rw [List.flatten_cons, hflatten, visitsOfList, List.flatMap_append] }
  exact step.holds .document f h 0 rfl

end Filter

end DocumentQuery
