import DocumentQuery.Proofs.Sql.Parameters
import DocumentQuery.Proofs.Sql.Parse

/-!
# The items of tokens

The items that the statement of tidy tokens is parsed from are those of its tokens, one token after
the other. A part of them that does not end early is cut off whole, whatever is behind it.
-/

namespace DocumentQuery.Sql

/-- The items that a token is read as, with the value that it binds. -/
def Token.items : Token → List Item
  | .param p => [.bound p.value]
  | t => t.lexemes.map .lexeme

def items (ts : List Token) : List Item := ts.flatMap Token.items

@[simp] theorem items_nil : items [] = [] := rfl

@[simp] theorem items_cons (t : Token) (ts : List Token) :
    items (t :: ts) = t.items ++ items ts := by
  simp [items]

@[simp] theorem items_append (ts us : List Token) : items (ts ++ us) = items ts ++ items us := by
  simp [items]

theorem bind_lexemes {ls : List Lexeme} (h : .mark '?' ∉ ls) (rest : List Lexeme)
    (vs : List Value) :
    bind (ls ++ rest) vs = (bind rest vs).map (ls.map .lexeme ++ ·) := by
  induction ls with
  | nil => simp
  | cons l ls ih =>
    simp only [List.mem_cons, not_or] at h
    rw [List.cons_append, bind, if_neg (Ne.symm h.1), ih h.2, Option.map_map]
    rfl

/-- The values of tokens go to the placeholders that they were written for. -/
theorem bind_flatMap_lexemes (ts : List Token) :
    bind (ts.flatMap Token.lexemes) ((params ts).map Param.value) = some (items ts) := by
  induction ts with
  | nil => rfl
  | cons t rest ih =>
    have hmark (hp : t.param? = none) (h : .mark '?' ∉ t.lexemes)
        (hi : t.items = t.lexemes.map .lexeme) :
        bind ((t :: rest).flatMap Token.lexemes) ((params (t :: rest)).map Param.value) =
          some (items (t :: rest)) := by
      rw [List.flatMap_cons, params_cons, hp, Option.toList_none, List.nil_append,
        bind_lexemes h, ih, items_cons, hi]
      rfl
    cases t with
    | param p =>
      rw [List.flatMap_cons, params_cons]
      simp only [Token.lexemes, Token.param?, Option.toList_some, List.cons_append, List.nil_append,
        List.map_cons, bind, if_pos, List.head?_cons, List.tail_cons, Option.bind_some, ih]
      rfl
    | symbol s => exact hmark rfl (by cases s <;> decide) rfl
    | blank => exact hmark rfl (by decide) rfl
    | keyword | function | number | body | generated | element | elementColumn |
        string | identifier =>
      exact hmark rfl (by simp [Token.lexemes]) rfl

theorem Token.flatMap_chars_items (t : Token) : t.items.flatMap Item.chars = t.chars := by
  have h (ls : List Lexeme) : (ls.map Item.lexeme).flatMap Item.chars =
      ls.flatMap Lexeme.chars := by
    rw [List.flatMap_map]
    rfl
  cases t with
  | param p => rfl
  | _ => exact (h _).trans (Token.flatMap_chars_lexemes _)

theorem itemsText_items (ts : List Token) : itemsText (items ts) = text ts := by
  simp only [itemsText, items, text, chars, List.flatMap_assoc, Token.flatMap_chars_items]

theorem itemsValues_items (ts : List Token) :
    itemsValues (items ts) = (params ts).map Param.value := by
  induction ts with
  | nil => rfl
  | cons t rest ih =>
    have h : itemsValues t.items = (t.param?.toList).map Param.value := by
      cases t with
      | symbol s => cases s <;> rfl
      | _ => rfl
    simp only [itemsValues] at h ih ⊢
    rw [items_cons, params_cons, List.filterMap_append, h, ih, List.map_append]

/-- The statement of tidy tokens is parsed from their items. -/
theorem parse_ofTokens {ts : List Token} (h : Tidy ts) {e : Expr}
    (he : expression (3 * (items ts).length + 2) .disjunction (items ts) = some (e, [])) :
    parse (Statement.ofTokens ts) = some e := by
  have hlex : lex (text ts).toList = some (ts.flatMap Token.lexemes) := by
    rw [text, String.toList_ofList, lex_chars h]
  simp [parse, Statement.ofTokens, hlex, bind_flatMap_lexemes, he, skip]

end DocumentQuery.Sql
