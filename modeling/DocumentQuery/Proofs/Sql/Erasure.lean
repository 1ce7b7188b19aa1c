import DocumentQuery.Proofs.Sql.Rewriting

/-!
# Conditions without their values

A placeholder is written as a question mark whatever is bound to it, so the text of a condition does
not change when its values are taken away, and neither do the slots of its parameters.
-/

namespace DocumentQuery

namespace Sql

def Param.erase (p : Param) : Param := ⟨p.slot, .null⟩

/-- The token with the value of its parameter replaced by null. -/
def Token.erase : Token → Token
  | .param p => .param p.erase
  | t => t

theorem Token.chars_erase (t : Token) : t.erase.chars = t.chars := by
  cases t <;> rfl

theorem Token.param?_erase (t : Token) : t.erase.param? = t.param?.map Param.erase := by
  cases t <;> rfl

theorem text_map_erase (ts : List Token) : text (ts.map Token.erase) = text ts := by
  simp only [text, chars, List.flatMap_map, Token.chars_erase]

theorem slots_map_erase (ts : List Token) :
    (params (ts.map Token.erase)).map Param.slot = (params ts).map Param.slot := by
  have h : params (ts.map Token.erase) = (params ts).map Param.erase := by
    simp only [params, List.filterMap_map, List.map_filterMap]
    congr 1
    funext t
    exact t.param?_erase
  rw [h, List.map_map]
  rfl

/-- To erase values is to rewrite tokens one by one. -/
theorem flatMap_erase (ts : List Token) : (ts.flatMap fun t => [t.erase]) = ts.map Token.erase :=
  List.map_eq_flatMap.symm

theorem keeps_erase : Keeps (fun t => [t.erase]) Param.erase where
  fixed := fun t h => by cases t <;> first | rfl | simp [Token.isFixed] at h
  param := fun _ => rfl

end Sql

theorem Reference.rewrites_erase (r : Reference) :
    r.Rewrites (fun t => [Sql.Token.erase t]) r where
  value := by rcases r with ⟨n, b, p⟩ | ⟨b | d, p⟩ | d <;> rfl
  typeOf := by rcases r with ⟨n, b, p⟩ | ⟨b | d, p⟩ | d <;> rfl
  callOn := fun f => by rcases r with ⟨n, b, p⟩ | ⟨b | d, p⟩ | d <;> rfl

namespace Sql.Condition

mutual

/-- The condition with the values of its parameters replaced by null. -/
def erase : Condition → Condition
  | .constant truth => .constant truth
  | .compare r c p => .compare r c p.erase
  | .among r negated ps => .among r negated (ps.map Param.erase)
  | .like r p foldCase => .like r p.erase foldCase
  | .lengthIs r p => .lengthIs r p.erase
  | .present r expected => .present r expected
  | .someElement r depth inner => .someElement r depth inner.erase
  | .all operands => .all (eraseList operands)
  | .any operands => .any (eraseList operands)
  | .none operands => .none (eraseList operands)
  | .not operand => .not operand.erase

def eraseList : List Condition → List Condition
  | [] => []
  | c :: rest => c.erase :: eraseList rest

end

mutual

theorem map_id_erase (c : Condition) : c.map id Param.erase = c.erase := by
  match c with
  | .constant _ | .compare _ _ _ | .among _ _ _ | .like _ _ _ | .lengthIs _ _ | .present _ _ =>
    simp only [map, erase, id]
  | .someElement r depth inner => simp only [map, erase, id, map_id_erase inner]
  | .all operands | .any operands | .none operands =>
    simp only [map, erase, mapList_id_erase operands]
  | .not operand => simp only [map, erase, map_id_erase operand]

theorem mapList_id_erase (cs : List Condition) : mapList id Param.erase cs = eraseList cs := by
  match cs with
  | [] => rfl
  | c :: rest => simp only [mapList, eraseList, map_id_erase c, mapList_id_erase rest]

end

theorem tokens_erase (c : Condition) : c.erase.tokens = c.tokens.map Token.erase := by
  have h := flatMap_tokens (g := id) keeps_erase c fun r _ => r.rewrites_erase
  rw [flatMap_erase, map_id_erase] at h
  exact h.symm

end Sql.Condition

end DocumentQuery
