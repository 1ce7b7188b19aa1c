import DocumentQuery.Sql.Condition

/-!
# The parameters of a condition

The parameters that the tokens of a condition bind are those of its parts, from left to right:
nothing that stands between the parts, and nothing in a reference to a field, is a placeholder.
-/

namespace DocumentQuery

namespace Sql

@[simp] theorem params_cons (t : Token) (ts : List Token) :
    params (t :: ts) = t.param?.toList ++ params ts := by
  cases h : t.param? <;> simp [params, h]

theorem params_separated {separator : List Token} (h : params separator = [])
    (pieces : List (List Token)) :
    params (separated separator pieces) = pieces.flatMap params := by
  induction pieces with
  | nil => rfl
  | cons piece rest ih =>
    cases rest with
    | nil => simp [separated]
    | cons next rest =>
      simp only [separated, params_append, ih, h, List.append_nil, List.flatMap_cons]

theorem params_spaced (pieces : List (List Token)) :
    params (spaced pieces) = pieces.flatMap params :=
  params_separated rfl pieces

theorem params_parenthesized (ts : List Token) : params (parenthesized ts) = params ts := by
  simp [parenthesized, Token.param?]

theorem params_placeholders (ps : List Param) : params (placeholders ps) = ps := by
  rw [placeholders, listed, params_separated rfl, List.flatMap_map]
  simp [Token.param?]

theorem params_joined (word : Keyword) (pieces : List (List Token)) :
    params (joined word pieces) = pieces.flatMap params := by
  match pieces with
  | [] => rfl
  | [piece] => simp [joined]
  | piece :: next :: rest =>
    have hs : params [.blank, .keyword word, .blank] = [] := rfl
    simp only [joined, params_parenthesized, params_separated hs]

end Sql

namespace Reference

theorem params_value (r : Reference) : Sql.params r.value = [] := by
  rcases r with ⟨n, b, p⟩ | ⟨b | d, p⟩ | d <;> rfl

theorem params_callOn (r : Reference) (f : Sql.Function) : Sql.params (r.callOn f) = [] := by
  rcases r with ⟨n, b, p⟩ | ⟨b | d, p⟩ | d <;> rfl

theorem params_typeOf (r : Reference) : Sql.params r.typeOf = [] := by
  rcases r with ⟨n, b, p⟩ | ⟨b | d, p⟩ | d <;> rfl

end Reference

namespace Sql.Condition

mutual

/-- The parameters of a condition, those of its parts one after the other. -/
def params : Condition → List Param
  | .constant _ => []
  | .compare _ _ p => [p]
  | .among _ _ ps => ps
  | .like _ p _ => [p]
  | .lengthIs _ p => [p]
  | .present _ _ => []
  | .someElement _ _ inner => inner.params
  | .all operands => paramsOfList operands
  | .any operands => paramsOfList operands
  | .none operands => paramsOfList operands
  | .not operand => operand.params

def paramsOfList : List Condition → List Param
  | [] => []
  | c :: rest => c.params ++ paramsOfList rest

end

theorem tokensOfList_eq_map (cs : List Condition) : tokensOfList cs = cs.map tokens := by
  induction cs with
  | nil => rfl
  | cons c rest ih => rw [tokensOfList, ih, List.map_cons]

theorem params_truthTokens (truth : Bool) : Sql.params (truthTokens truth) = [] := rfl

mutual

/-- The tokens of a condition bind its parameters. -/
theorem params_tokens (c : Condition) : Sql.params c.tokens = c.params := by
  match c with
  | .constant truth => exact params_truthTokens truth
  | .compare r c p =>
    simp [tokens, params, params_spaced, r.params_value, Token.param?]
  | .among r true ps | .among r false ps =>
    simp [tokens, params, params_spaced, params_parenthesized, params_placeholders, r.params_value,
      Token.param?]
  | .like r p true | .like r p false =>
    simp [tokens, params, params_spaced, r.params_value, Token.param?]
  | .lengthIs r p =>
    simp [tokens, params, params_spaced, Reference.arrayLength, r.params_callOn, Token.param?]
  | .present r true | .present r false =>
    simp [tokens, params, params_spaced, r.params_typeOf, Token.param?]
  | .someElement r depth inner =>
    simp [tokens, params, params_spaced, params_parenthesized, Reference.each, r.params_callOn,
      params_tokens inner, Token.param?]
  | .all operands | .any operands =>
    simp only [tokens, params, params_joined, flatMap_params_tokensOfList operands]
  | .none [] => rfl
  | .none (c :: rest) =>
    have h := flatMap_params_tokensOfList (c :: rest)
    have hs : Sql.params [Token.blank, .keyword .OR, .blank] = [] := rfl
    simp [tokens, params, params_spaced, params_parenthesized, params_separated hs, h, Token.param?]
  | .not operand =>
    simp [tokens, params, params_spaced, params_parenthesized, params_tokens operand, Token.param?]

theorem flatMap_params_tokensOfList (cs : List Condition) :
    (tokensOfList cs).flatMap Sql.params = paramsOfList cs := by
  match cs with
  | [] => rfl
  | c :: rest =>
    simp only [tokensOfList, paramsOfList, List.flatMap_cons, params_tokens c,
      flatMap_params_tokensOfList rest]

end

end Sql.Condition

end DocumentQuery
