import DocumentQuery.Proofs.Sql.Words
import DocumentQuery.Sql.Condition
import Mathlib.Data.List.Chain

/-!
# Tokens that do not run together

The text of a list of tokens says which tokens they are if what is spliced in bare is a plain
identifier and no two words or quoted pieces stand side by side. Blanks and symbols keep them apart.
-/

namespace DocumentQuery.Sql

/-- Whether the token is a word or a quoted piece. -/
def Token.isSolid : Token → Bool
  | .blank => false
  | .symbol _ => false
  | .param _ => false
  | _ => true

/-- Plain tokens, with something between each two words or quoted pieces. -/
structure Tidy (ts : List Token) : Prop where
  plain : ∀ t ∈ ts, t.isPlain = true
  apart : ts.IsChain fun a b => a.isSolid = false ∨ b.isSolid = false

/-- Tidy tokens that stand between others: neither the first nor the last is a word or a quoted
piece. -/
structure Divider (ts : List Token) : Prop where
  tidy : Tidy ts
  nonempty : ts ≠ []
  first : ∀ t ∈ ts.head?, t.isSolid = false
  last : ∀ t ∈ ts.getLast?, t.isSolid = false

theorem Token.isPlain_of_not_isSolid {t : Token} (h : t.isSolid = false) : t.isPlain = true := by
  cases t <;> first | rfl | simp [isSolid] at h

namespace Tidy

theorem nil : Tidy [] := ⟨by simp, .nil⟩

theorem single {t : Token} (h : t.isPlain = true) : Tidy [t] := ⟨by simpa using h, .singleton t⟩

theorem append {ts us : List Token} (ht : Tidy ts) (hu : Tidy us)
    (h : ∀ a ∈ ts.getLast?, ∀ b ∈ us.head?, a.isSolid = false ∨ b.isSolid = false) :
    Tidy (ts ++ us) := by
  refine ⟨fun t hm => ?_, ht.apart.append hu.apart h⟩
  rcases List.mem_append.mp hm with hm | hm
  · exact ht.plain t hm
  · exact hu.plain t hm

theorem tail {t : Token} {ts : List Token} (h : Tidy (t :: ts)) : Tidy ts :=
  ⟨fun u hu => h.plain u (List.mem_cons_of_mem t hu), h.apart.tail⟩

/-- Whatever is between the ends of a divider stays apart from what is around it. -/
theorem divided {ts sep us : List Token} (ht : Tidy ts) (hs : Divider sep) (hu : Tidy us) :
    Tidy (ts ++ sep ++ us) := by
  refine (ht.append hs.tidy fun a _ b hb => .inr (hs.first b hb)).append hu fun a ha b _ => ?_
  rw [List.getLast?_append_of_ne_nil ts hs.nonempty] at ha
  exact .inl (hs.last a ha)

end Tidy

theorem Divider.single {t : Token} (h : t.isSolid = false) : Divider [t] :=
  ⟨.single (Token.isPlain_of_not_isSolid h), by simp, by simpa using h, by simpa using h⟩

theorem Divider.append {sep : List Token} (hs : Divider sep) {ts : List Token} (ht : Tidy ts) :
    Tidy (sep ++ ts) :=
  Tidy.nil.divided hs ht

theorem Tidy.append_divider {ts : List Token} (ht : Tidy ts) {sep : List Token} (hs : Divider sep) :
    Tidy (ts ++ sep) := by
  have h := ht.divided hs .nil
  rwa [List.append_nil] at h

theorem divider_blank : Divider [.blank] := .single rfl

theorem divider_comma : Divider [.symbol .comma, .blank] :=
  ⟨(Divider.single rfl).append divider_blank.tidy, by simp, by simp [Token.isSolid],
    by simp [Token.isSolid]⟩

theorem divider_word (word : Keyword) : Divider [.blank, .keyword word, .blank] :=
  ⟨⟨by simp [Token.isPlain], by simp [Token.isSolid]⟩, by simp, by simp [Token.isSolid],
    by simp [Token.isSolid]⟩

namespace Tidy

theorem separated {sep : List Token} (hs : Divider sep) {pieces : List (List Token)}
    (h : ∀ piece ∈ pieces, Tidy piece) : Tidy (separated sep pieces) := by
  induction pieces with
  | nil => exact nil
  | cons piece rest ih =>
    simp only [List.mem_cons, forall_eq_or_imp] at h
    cases rest with
    | nil => exact h.1
    | cons next rest => exact h.1.divided hs (ih h.2)

theorem spaced {pieces : List (List Token)} (h : ∀ piece ∈ pieces, Tidy piece) :
    Tidy (spaced pieces) :=
  separated divider_blank h

theorem listed {pieces : List (List Token)} (h : ∀ piece ∈ pieces, Tidy piece) :
    Tidy (listed pieces) :=
  separated divider_comma h

theorem parenthesized {ts : List Token} (h : Tidy ts) : Tidy (parenthesized ts) := by
  have hopening : Divider [Token.symbol .opening] := .single rfl
  have hclosing : Divider [Token.symbol .closing] := .single rfl
  exact hopening.append (h.append_divider hclosing)

theorem call {f : Function} {arguments : List (List Token)} (h : ∀ a ∈ arguments, Tidy a) :
    Tidy (call f arguments) := by
  refine (single (t := .function f) rfl).append (parenthesized (listed h)) fun _ _ b hb => .inr ?_
  simp only [List.head?_cons, Option.mem_def, Option.some.injEq] at hb
  exact hb ▸ rfl

theorem placeholders (ps : List Param) : Tidy (placeholders ps) := by
  refine listed fun piece hm => ?_
  obtain ⟨p, -, rfl⟩ := List.mem_map.mp hm
  exact single rfl

theorem truthTokens (truth : Bool) : Tidy (truthTokens truth) :=
  ⟨by simp [Sql.truthTokens, Token.isPlain], by simp [Sql.truthTokens, Token.isSolid]⟩

theorem joined (word : Keyword) {pieces : List (List Token)} (h : ∀ piece ∈ pieces, Tidy piece) :
    Tidy (joined word pieces) := by
  match pieces with
  | [] => exact truthTokens true
  | [piece] => exact h piece (List.mem_singleton_self piece)
  | piece :: next :: rest => exact parenthesized (separated (divider_word word) h)

end Tidy

end DocumentQuery.Sql
