import DocumentQuery.Sql.Condition

/-!
# Rewriting the tokens of conditions

A rewriting replaces each token by some tokens. If it keeps the tokens that every condition has,
then what it makes of a condition is decided by what it makes of the references and the parameters:
the result is the condition with these replaced.
-/

namespace DocumentQuery

open Sql (Token Param Keyword Condition)

namespace Sql

/-- Whether the word begins or ends a clause behind the condition of a query. -/
def Keyword.isClause : Keyword → Bool
  | .ORDER => true
  | .BY => true
  | .ASC => true
  | .DESC => true
  | .LIMIT => true
  | .OFFSET => true
  | _ => false

/-- Whether the token comes from no name, no value and no clause. -/
def Token.isFixed : Token → Bool
  | .blank => true
  | .keyword k => !k.isClause
  | .function _ => true
  | .symbol _ => true
  | .number n => n ≤ 1
  | .element _ => true
  | .elementColumn _ => true
  | _ => false

/-- A rewriting that keeps fixed tokens, and placeholders but for their parameters. -/
structure Keeps (u : Token → List Token) (q : Param → Param) : Prop where
  fixed : ∀ t : Token, t.isFixed = true → u t = [t]
  param : ∀ p, u (.param p) = [.param (q p)]

theorem flatMap_separated (u : Token → List Token) (separator : List Token)
    (pieces : List (List Token)) :
    (separated separator pieces).flatMap u =
      separated (separator.flatMap u) (pieces.map (List.flatMap u)) := by
  induction pieces with
  | nil => rfl
  | cons piece rest ih =>
    cases rest with
    | nil => rfl
    | cons next rest =>
      simp only [List.map_cons] at ih
      simp only [separated, List.flatMap_append, List.map_cons, ih]

namespace Keeps

variable {u : Token → List Token} {q : Param → Param} (hu : Keeps u q)
include hu

theorem flatMap_fixed {ts : List Token} (h : ts.all Token.isFixed = true) : ts.flatMap u = ts := by
  induction ts with
  | nil => rfl
  | cons t rest ih =>
    simp only [List.all_cons, Bool.and_eq_true] at h
    rw [List.flatMap_cons, hu.fixed t h.1, ih h.2, List.singleton_append]

theorem flatMap_param (p : Param) : [Token.param p].flatMap u = [.param (q p)] := by
  rw [List.flatMap_singleton, hu.param]

theorem flatMap_spaced (pieces : List (List Token)) :
    (spaced pieces).flatMap u = spaced (pieces.map (List.flatMap u)) := by
  rw [spaced, flatMap_separated, hu.flatMap_fixed rfl, spaced]

theorem flatMap_listed (pieces : List (List Token)) :
    (listed pieces).flatMap u = listed (pieces.map (List.flatMap u)) := by
  rw [listed, flatMap_separated, hu.flatMap_fixed rfl, listed]

theorem flatMap_parenthesized (ts : List Token) :
    (parenthesized ts).flatMap u = parenthesized (ts.flatMap u) := by
  have hopening := hu.fixed (.symbol .opening) rfl
  have hclosing : [Token.symbol .closing].flatMap u = [.symbol .closing] := hu.flatMap_fixed rfl
  rw [parenthesized, List.flatMap_cons, List.flatMap_append, hopening, hclosing, parenthesized,
    List.singleton_append]

theorem flatMap_call (f : Function) (arguments : List (List Token)) :
    (call f arguments).flatMap u = call f (arguments.map (List.flatMap u)) := by
  rw [call, List.flatMap_cons, hu.fixed (.function f) rfl, hu.flatMap_parenthesized,
    hu.flatMap_listed, call, List.singleton_append]

theorem flatMap_placeholders (ps : List Param) :
    (placeholders ps).flatMap u = placeholders (ps.map q) := by
  rw [placeholders, hu.flatMap_listed, placeholders, List.map_map, List.map_map]
  congr 1
  apply List.map_congr_left
  intro p _
  exact hu.flatMap_param p

theorem flatMap_joined {word : Keyword} (hw : word.isClause = false) (pieces : List (List Token)) :
    (joined word pieces).flatMap u = joined word (pieces.map (List.flatMap u)) := by
  have hword : [Token.blank, .keyword word, .blank].all Token.isFixed = true := by
    simp [Token.isFixed, hw]
  match pieces with
  | [] => exact hu.flatMap_fixed rfl
  | [piece] => rfl
  | piece :: next :: rest =>
    simp only [joined, hu.flatMap_parenthesized, flatMap_separated, hu.flatMap_fixed hword,
      List.map_cons]

end Keeps

end Sql

/-- Wherever the first reference is written, the rewriting makes the second one of it. -/
structure Reference.Rewrites (u : Token → List Token) (r r' : Reference) : Prop where
  value : r.value.flatMap u = r'.value
  typeOf : r.typeOf.flatMap u = r'.typeOf
  callOn : ∀ f, (r.callOn f).flatMap u = r'.callOn f

/-- The tokens of a reference that come from names. -/
def Reference.names : Reference → List Token
  | .column name body path => [.generated name, .body body, .string path]
  | .extract (.body body) path => [.body body, .string path]
  | .extract (.element _) path => [.string path]
  | .element _ => []

theorem Reference.rewrites_self {u : Token → List Token} {q : Param → Param} (hu : Sql.Keeps u q)
    {r : Reference} (h : ∀ t ∈ r.names, u t = [t]) : r.Rewrites u r := by
  have hcall {source : List Token} {path : String} (hs : source.flatMap u = source)
      (hp : u (.string path) = [.string path]) (f : Sql.Function) :
      (Sql.call f [source, [.string path]]).flatMap u = Sql.call f [source, [.string path]] := by
    rw [hu.flatMap_call, List.map_cons, List.map_cons, List.map_nil, hs, List.flatMap_singleton, hp]
  rcases r with ⟨name, body, path⟩ | ⟨body | depth, path⟩ | depth
  · simp only [names, List.mem_cons, List.not_mem_nil, or_false, forall_eq_or_imp, forall_eq] at h
    have hbody : [Token.body body].flatMap u = [.body body] := by rw [List.flatMap_singleton, h.2.1]
    have hname : [Token.generated name].flatMap u = [.generated name] := by
      rw [List.flatMap_singleton, h.1]
    exact ⟨hname, hcall hbody h.2.2 .typeOf, hcall hbody h.2.2⟩
  · simp only [names, List.mem_cons, List.not_mem_nil, or_false, forall_eq_or_imp, forall_eq] at h
    have hbody : [Token.body body].flatMap u = [.body body] := by rw [List.flatMap_singleton, h.1]
    exact ⟨hcall hbody h.2 .extract, hcall hbody h.2 .typeOf, hcall hbody h.2⟩
  · simp only [names, List.mem_singleton, forall_eq] at h
    have helement : (elementValue depth).flatMap u = elementValue depth := hu.flatMap_fixed rfl
    exact ⟨hcall helement h .extract, hcall helement h .typeOf, hcall helement h⟩
  · exact ⟨hu.flatMap_fixed rfl, hu.flatMap_fixed rfl, fun _ => hu.flatMap_fixed rfl⟩

namespace Sql.Condition

mutual

/-- The references that the condition is written with. -/
def references : Condition → List Reference
  | .constant _ => []
  | .compare r _ _ => [r]
  | .among r _ _ => [r]
  | .like r _ _ => [r]
  | .lengthIs r _ => [r]
  | .present r _ => [r]
  | .someElement r _ inner => r :: inner.references
  | .all operands => referencesOfList operands
  | .any operands => referencesOfList operands
  | .none operands => referencesOfList operands
  | .not operand => operand.references

def referencesOfList : List Condition → List Reference
  | [] => []
  | c :: rest => c.references ++ referencesOfList rest

end

mutual

/-- The condition with its references and its parameters replaced. -/
def map (g : Reference → Reference) (q : Param → Param) : Condition → Condition
  | .constant truth => .constant truth
  | .compare r c p => .compare (g r) c (q p)
  | .among r negated ps => .among (g r) negated (ps.map q)
  | .like r p foldCase => .like (g r) (q p) foldCase
  | .lengthIs r p => .lengthIs (g r) (q p)
  | .present r expected => .present (g r) expected
  | .someElement r depth inner => .someElement (g r) depth (inner.map g q)
  | .all operands => .all (mapList g q operands)
  | .any operands => .any (mapList g q operands)
  | .none operands => .none (mapList g q operands)
  | .not operand => .not (operand.map g q)

def mapList (g : Reference → Reference) (q : Param → Param) : List Condition → List Condition
  | [] => []
  | c :: rest => c.map g q :: mapList g q rest

end

mutual

theorem map_id (c : Condition) : c.map id id = c := by
  match c with
  | .constant _ | .compare _ _ _ | .among _ _ _ | .like _ _ _ | .lengthIs _ _ | .present _ _ =>
    simp only [map, id, List.map_id]
  | .someElement r depth inner => simp only [map, id, map_id inner]
  | .all operands | .any operands | .none operands => simp only [map, mapList_id operands]
  | .not operand => simp only [map, map_id operand]

theorem mapList_id (cs : List Condition) : mapList id id cs = cs := by
  match cs with
  | [] => rfl
  | c :: rest => simp only [mapList, map_id c, mapList_id rest]

end

variable {u : Token → List Token} {g : Reference → Reference} {q : Param → Param}

mutual

/-- To rewrite the tokens of a condition is to replace its references and its parameters. -/
theorem flatMap_tokens (hu : Keeps u q) (c : Condition)
    (h : ∀ r ∈ c.references, r.Rewrites u (g r)) :
    c.tokens.flatMap u = (c.map g q).tokens := by
  have hword (k : Keyword) (hk : k.isClause = false) : [Token.keyword k].flatMap u = [.keyword k] :=
    hu.flatMap_fixed (by simp [Token.isFixed, hk])
  match c with
  | .constant truth => exact hu.flatMap_fixed (by cases truth <;> rfl)
  | .compare r c p =>
    have hr := h r List.mem_cons_self
    have hs : [Token.symbol (comparisonSymbol c)].flatMap u = _ := hu.flatMap_fixed rfl
    simp only [tokens, map, hu.flatMap_spaced, List.map_cons, List.map_nil, hr.value, hs,
      hu.flatMap_param]
  | .among r negated ps =>
    have hr := h r List.mem_cons_self
    have hin : (if negated then spaced [[Token.keyword .NOT], [.keyword .IN]]
        else [.keyword .IN]).flatMap u = _ := hu.flatMap_fixed (by cases negated <;> rfl)
    simp only [tokens, map, hu.flatMap_spaced, List.map_cons, List.map_nil, hr.value, hin,
      hu.flatMap_parenthesized, hu.flatMap_placeholders]
  | .like r p true =>
    have hr := h r List.mem_cons_self
    simp only [tokens, map, if_true, List.cons_append, List.nil_append, hu.flatMap_spaced,
      List.map_cons, List.map_nil, hr.value, hword .LIKE rfl, hu.flatMap_param, hword .COLLATE rfl,
        hword .NOCASE rfl]
  | .like r p false =>
    have hr := h r List.mem_cons_self
    simp only [tokens, map, Bool.false_eq_true, if_false, List.append_nil, hu.flatMap_spaced,
      List.map_cons, List.map_nil, hr.value, hword .LIKE rfl, hu.flatMap_param]
  | .lengthIs r p =>
    have hr := h r List.mem_cons_self
    have hs : [Token.symbol .equal].flatMap u = _ := hu.flatMap_fixed rfl
    simp only [tokens, map, hu.flatMap_spaced, List.map_cons, List.map_nil, Reference.arrayLength,
      hr.callOn, hs, hu.flatMap_param]
  | .present r true =>
    have hr := h r List.mem_cons_self
    simp only [tokens, map, if_true, List.cons_append, List.nil_append, hu.flatMap_spaced,
      List.map_cons, List.map_nil, hr.typeOf, hword .IS rfl, hword .NOT rfl, hword .NULL rfl]
  | .present r false =>
    have hr := h r List.mem_cons_self
    simp only [tokens, map, Bool.false_eq_true, if_false, List.cons_append, List.nil_append,
      hu.flatMap_spaced, List.map_cons, List.map_nil, hr.typeOf, hword .IS rfl, hword .NULL rfl]
  | .someElement r depth inner =>
    simp only [references, List.mem_cons, forall_eq_or_imp] at h
    have hinner := flatMap_tokens hu inner h.2
    have hone : [Token.number 1].flatMap u = [.number 1] := hu.flatMap_fixed rfl
    have helement : [Token.element depth].flatMap u = [.element depth] := hu.flatMap_fixed rfl
    simp only [tokens, map, hu.flatMap_spaced, hu.flatMap_parenthesized, List.map_cons,
      List.map_nil, Reference.each, h.1.callOn, hinner, hone, helement, hword .EXISTS rfl,
        hword .SELECT rfl,
      hword .FROM rfl, hword .AS rfl, hword .WHERE rfl]
  | .all operands =>
    have hand : Keyword.AND.isClause = false := rfl
    simp only [tokens, map, hu.flatMap_joined hand, flatMap_tokensOfList hu operands h]
  | .any operands =>
    have hor : Keyword.OR.isClause = false := rfl
    simp only [tokens, map, hu.flatMap_joined hor, flatMap_tokensOfList hu operands h]
  | .none [] => exact hu.flatMap_fixed rfl
  | .none (c :: rest) =>
    have hoperands := flatMap_tokensOfList hu (c :: rest) h
    have hor : [Token.blank, .keyword .OR, .blank].flatMap u = _ := hu.flatMap_fixed rfl
    simp only [mapList] at hoperands
    simp only [tokens, map, mapList, hu.flatMap_spaced, hu.flatMap_parenthesized, List.map_cons,
      List.map_nil, flatMap_separated, hor, hword .NOT rfl, hoperands]
  | .not operand =>
    simp only [tokens, map, hu.flatMap_spaced, hu.flatMap_parenthesized, List.map_cons,
      List.map_nil, hword .NOT rfl, flatMap_tokens hu operand h]

theorem flatMap_tokensOfList (hu : Keeps u q) (cs : List Condition)
    (h : ∀ r ∈ referencesOfList cs, r.Rewrites u (g r)) :
    (tokensOfList cs).map (List.flatMap u) = tokensOfList (mapList g q cs) := by
  match cs with
  | [] => rfl
  | c :: rest =>
    simp only [referencesOfList, List.mem_append] at h
    have hc := flatMap_tokens hu c fun r hr => h r (.inl hr)
    have hrest := flatMap_tokensOfList hu rest fun r hr => h r (.inr hr)
    simp only [tokensOfList, mapList, List.map_cons, hc, hrest]

end

end Sql.Condition

end DocumentQuery
