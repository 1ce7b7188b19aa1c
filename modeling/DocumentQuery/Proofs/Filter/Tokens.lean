import DocumentQuery.Proofs.Filter.Compiled
import DocumentQuery.Proofs.Schema.Build
import DocumentQuery.Proofs.Sql.Tidy

/-!
# The tokens of conditions stay apart

References made under an accepted schema splice plain identifiers only. Whatever condition is built
on such references, at any depth, has tokens that do not run together.
-/

namespace DocumentQuery

open Sql (Token Tidy Condition)

namespace Reference

/-- Whether the names that the reference splices in bare are plain identifiers. -/
def isPlain : Reference → Bool
  | .column name body _ => Sql.isColumnName name.toList && Sql.isPlainIdentifier body.toList
  | .extract (.body name) _ => Sql.isPlainIdentifier name.toList
  | _ => true

theorem tidy_elementValue (depth : Nat) : Tidy (elementValue depth) :=
  ⟨by simp [elementValue, Token.isPlain], by simp [elementValue, Token.isSolid]⟩

theorem tidy_callOn {r : Reference} (h : r.isPlain = true) (f : Sql.Function) :
    Tidy (r.callOn f) := by
  have hpath (path : String) : Tidy [.string path] := .single rfl
  match r with
  | .column name body path =>
    simp only [isPlain, Bool.and_eq_true] at h
    exact .call (by simpa using ⟨.single h.2, hpath path⟩)
  | .extract (.body name) path => exact .call (by simpa using ⟨.single h, hpath path⟩)
  | .extract (.element depth) path =>
    exact .call (by simpa using ⟨tidy_elementValue depth, hpath path⟩)
  | .element depth => exact .call (by simpa using tidy_elementValue depth)

theorem tidy_value {r : Reference} (h : r.isPlain = true) : Tidy r.value := by
  match r with
  | .column name body path =>
    simp only [isPlain, Bool.and_eq_true] at h
    exact .single h.1
  | .extract source path => exact tidy_callOn h .extract
  | .element depth => exact tidy_elementValue depth

theorem tidy_typeOf {r : Reference} (h : r.isPlain = true) : Tidy r.typeOf := by
  match r with
  | .column name body path => exact tidy_callOn h .typeOf
  | .extract source path => exact tidy_callOn h .typeOf
  | .element depth =>
    exact ⟨by simp [typeOf, Token.isPlain], by simp [typeOf, Token.isSolid]⟩

end Reference

namespace Sql.Condition

mutual

/-- Whether the references of the condition splice plain identifiers only. -/
def isPlain : Condition → Bool
  | .constant _ => true
  | .compare r _ _ => r.isPlain
  | .among r _ _ => r.isPlain
  | .like r _ _ => r.isPlain
  | .lengthIs r _ => r.isPlain
  | .present r _ => r.isPlain
  | .someElement r _ inner => r.isPlain && inner.isPlain
  | .all operands => arePlain operands
  | .any operands => arePlain operands
  | .none operands => arePlain operands
  | .not operand => operand.isPlain

def arePlain : List Condition → Bool
  | [] => true
  | c :: rest => c.isPlain && arePlain rest

end

theorem arePlain_iff {cs : List Condition} : arePlain cs = true ↔ ∀ c ∈ cs, c.isPlain = true := by
  induction cs with
  | nil => simp [arePlain]
  | cons c rest ih => simp [arePlain, ih]

mutual

theorem tidy_tokens {c : Condition} (h : c.isPlain = true) : Tidy c.tokens := by
  have hw (k : Keyword) : Tidy [.keyword k] := .single rfl
  have hp (p : Param) : Tidy [.param p] := .single rfl
  have hs (s : Symbol) : Tidy [.symbol s] := .single rfl
  match c with
  | .constant truth => exact .truthTokens truth
  | .compare r c p => exact .spaced (by simpa using ⟨Reference.tidy_value h, hs _, hp p⟩)
  | .among r true ps =>
    have hin : Tidy (spaced [[.keyword .NOT], [.keyword .IN]]) :=
      .spaced (by simpa using ⟨hw .NOT, hw .IN⟩)
    exact .spaced (by
      simpa using ⟨Reference.tidy_value h, hin, Tidy.parenthesized (Tidy.placeholders ps)⟩)
  | .among r false ps =>
    exact .spaced (by
      simpa using ⟨Reference.tidy_value h, hw .IN, Tidy.parenthesized (Tidy.placeholders ps)⟩)
  | .like r p true =>
    exact .spaced (by
      simpa using ⟨Reference.tidy_value h, hw .LIKE, hp p, hw .COLLATE, hw .NOCASE⟩)
  | .like r p false =>
    exact .spaced (by simpa using ⟨Reference.tidy_value h, hw .LIKE, hp p⟩)
  | .lengthIs r p =>
    exact .spaced (by simpa using ⟨Reference.tidy_callOn h .arrayLength, hs .equal, hp p⟩)
  | .present r true =>
    exact .spaced (by simpa using ⟨Reference.tidy_typeOf h, hw .IS, hw .NOT, hw .NULL⟩)
  | .present r false =>
    exact .spaced (by simpa using ⟨Reference.tidy_typeOf h, hw .IS, hw .NULL⟩)
  | .someElement r depth inner =>
    simp only [isPlain, Bool.and_eq_true] at h
    have he : Tidy [.element depth] := .single rfl
    have h1 : Tidy [.number 1] := .single rfl
    have hinner : Tidy (spaced [[.keyword .SELECT], [.number 1], [.keyword .FROM], r.each,
        [.keyword .AS], [.element depth], [.keyword .WHERE], inner.tokens]) :=
      .spaced (by
        simpa using ⟨hw .SELECT, h1, hw .FROM, Reference.tidy_callOn h.1 .each, hw .AS, he,
          hw .WHERE, tidy_tokens h.2⟩)
    exact .spaced (by simpa using ⟨hw .EXISTS, Tidy.parenthesized hinner⟩)
  | .all operands => exact .joined .AND (tidy_tokensOfList h)
  | .any operands => exact .joined .OR (tidy_tokensOfList h)
  | .none [] => exact .truthTokens true
  | .none (c :: rest) =>
    have hor : Tidy (separated [.blank, .keyword .OR, .blank] (tokensOfList (c :: rest))) :=
      .separated (divider_word .OR) (tidy_tokensOfList h)
    exact .spaced (by simpa using ⟨hw .NOT, Tidy.parenthesized hor⟩)
  | .not operand =>
    exact .spaced (by simpa using ⟨hw .NOT, Tidy.parenthesized (tidy_tokens h)⟩)

theorem tidy_tokensOfList {cs : List Condition} (h : arePlain cs = true) :
    ∀ piece ∈ tokensOfList cs, Tidy piece := by
  match cs with
  | [] => simp [tokensOfList]
  | c :: rest =>
    simp only [arePlain, Bool.and_eq_true] at h
    simp only [tokensOfList, List.mem_cons, forall_eq_or_imp]
    exact ⟨tidy_tokens h.1, tidy_tokensOfList h.2⟩

end

end Sql.Condition

section Accepted

variable {s : Schema}

theorem Schema.isPlain_resolveIn (h : Sql.isPlainIdentifier s.bodyColumn.toList = true)
    (root : Root) (field : String) : (s.resolveIn root field).isPlain = true := by
  cases root with
  | element depth =>
    simp only [resolveIn, resolveElement]
    split <;> rfl
  | document =>
    rw [resolveIn]
    obtain ⟨f, hr⟩ | ⟨path, hr⟩ := s.resolve_cases field
    · rw [hr, Reference.isPlain, h, Bool.and_true]
      exact isColumnName_generatedColumn f.name
    · rw [hr]
      exact h

theorem Test.isPlain_condition {r : Reference} (h : r.isPlain = true) (t : Test) (depth : Nat) :
    (t.condition r depth).isPlain = true := by
  match t with
  | .compare c v => exact h
  | .member .oneOf [] | .member .noneOf [] => rfl
  | .member .oneOf (v :: vs) | .member .noneOf (v :: vs) => exact h
  | .member .all vs =>
    refine Condition.arePlain_iff.mpr fun c hc => ?_
    obtain ⟨v, -, rfl⟩ := List.mem_map.mp hc
    have he : (Reference.element depth).isPlain = true := rfl
    rw [Condition.isPlain, Condition.isPlain, h, he]
    rfl
  | .pattern p text => exact h
  | .size n => exact h
  | .present expected => exact h

theorem Connective.isPlain_of_join? {k : Connective} {cs : List Condition} {c : Condition}
    (h : k.join? cs = some c) (hcs : Condition.arePlain cs = true) : c.isPlain = true := by
  have hnot (d : Condition) : (Condition.not d).isPlain = Condition.arePlain [d] := by
    simp only [Condition.isPlain, Condition.arePlain, Bool.and_true]
  exact (eq_of_join? (fun _ => rfl) (fun _ => rfl) (fun _ => rfl) hnot h).trans hcs

/-- The conditions of filters splice plain identifiers only if the body column is one. -/
theorem Filter.isPlain_condition (h : Sql.isPlainIdentifier s.bodyColumn.toList = true)
    {root : Root} {f : Filter} {c : Condition} (hc : f.condition s root = .ok c) :
    c.isPlain = true := by
  have step : Inductive s (fun _ _ c => c.isPlain = true)
      (fun _ _ cs => Condition.arePlain cs = true) := {
    everything := fun _ => rfl
    logical := fun _ _ _ _ _ hcs hj => Connective.isPlain_of_join? hj hcs
    test := fun root path t _ => t.isPlain_condition (s.isPlain_resolveIn h root path) _
    elemMatch := fun root path _ c hc => by
      simp only [Condition.isPlain, s.isPlain_resolveIn h root path, hc, Bool.and_true]
    nil := fun _ => rfl
    cons := fun _ _ _ c cs hc hcs => by simp only [Condition.arePlain, hc, hcs, Bool.and_true] }
  exact step.holds root f hc

end Accepted

end DocumentQuery
