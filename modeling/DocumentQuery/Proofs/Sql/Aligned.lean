import DocumentQuery.Proofs.Sql.Offsets
import DocumentQuery.Proofs.Sql.Parameters
import Mathlib.Data.List.Forall2

/-!
# Predicates at their placeholders

A predicate is a piece of a statement that stands for itself: a text with the values for its own
placeholders. A statement is aligned with its predicates if their texts stand in it one after the
other and its placeholders are those inside these texts, each bound to a value of the predicate that
it stands in.
-/

namespace DocumentQuery.Sql

/-- The placeholders of a statement whose text begins at the given place, with the values bound to
them. -/
def Statement.placeholdersAt (place : Nat) (p : Statement) : List (Nat × Value) :=
  ((placeholderOffsets p.sql).map (place + ·)).zip p.params

/-- Predicates stand at places of a statement, apart from each other, and every placeholder of the
statement is one of some predicate and takes its value from there. -/
structure Statement.Aligned (q : Statement) (places : List (Nat × Statement)) : Prop where
  count : q.placeholderCount = q.params.length
  stands : ∀ x ∈ places, x.2.sql.toList <+: q.sql.toList.drop x.1
  apart : places.Pairwise fun x y => x.1 + x.2.sql.length ≤ y.1
  own : ∀ x ∈ places, x.2.placeholderCount = x.2.params.length
  bound : q.placeholdersAt 0 = places.flatMap fun x => x.2.placeholdersAt x.1

/-- Operands that are written in one order and bound in the other are not aligned. -/
example (places : List (Nat × Statement))
    (h : places.map Prod.snd = [⟨"a = ?", [.bool true]⟩, ⟨"b > ?", [.bool false]⟩]) :
    ¬(Statement.mk "(b > ? OR a = ?)" [.bool true, .bool false]).Aligned places := by
  intro haligned
  match places, h with
  | [(m, _), (n, _)], h =>
    simp only [List.map_cons, List.map_nil, List.cons.injEq, and_true] at h
    obtain ⟨rfl, rfl⟩ := h
    have hwhole : placeholderOffsets "(b > ? OR a = ?)" = [5, 14] := by decide +kernel
    have hfirst : placeholderOffsets "a = ?" = [4] := by decide +kernel
    have hsecond : placeholderOffsets "b > ?" = [4] := by decide +kernel
    have hbound := haligned.bound
    simp only [Statement.placeholdersAt, hwhole, hfirst, hsecond, List.flatMap_cons,
      List.flatMap_nil, List.map_cons, List.map_nil, List.zip_cons_cons, List.zip_nil_left,
      List.nil_append, List.cons_append, List.append_nil, List.cons.injEq, Prod.mk.injEq] at hbound
    have hm : m = 1 := by omega
    subst hm
    exact absurd (haligned.stands _ List.mem_cons_self) (by decide +kernel)

/-- Tokens hold predicates one after the other, with no placeholder between them. -/
inductive Holds : List Token → List Statement → Prop
  | nil : Holds [] []
  | other {t : Token} {ts : List Token} {ps : List Statement} (ht : t.param? = none)
      (h : Holds ts ps) : Holds (t :: ts) ps
  | predicate {piece ts : List Token} {p : Statement} {ps : List Statement}
      (hp : Statement.ofTokens piece = p) (h : Holds ts ps) : Holds (piece ++ ts) (p :: ps)

namespace Holds

theorem of_params {gap : List Token} (h : params gap = []) : Holds gap [] := by
  induction gap with
  | nil => exact nil
  | cons t rest ih =>
    rw [params_cons, List.append_eq_nil_iff, Option.toList_eq_nil_iff] at h
    exact other h.1 (ih h.2)

theorem single {piece : List Token} {p : Statement} (hp : Statement.ofTokens piece = p) :
    Holds piece [p] := by
  have h := predicate hp nil
  rwa [List.append_nil] at h

theorem append {ts us : List Token} {ps qs : List Statement} (h : Holds ts ps) (h' : Holds us qs) :
    Holds (ts ++ us) (ps ++ qs) := by
  induction h with
  | nil => exact h'
  | other ht _ ih => exact other ht ih
  | predicate hp _ ih =>
    rw [List.append_assoc]
    exact predicate hp ih

theorem append_gap {ts gap : List Token} {ps : List Statement} (h : Holds ts ps)
    (hgap : params gap = []) : Holds (ts ++ gap) ps := by
  have happended := h.append (of_params hgap)
  rwa [List.append_nil] at happended

theorem parenthesized {ts : List Token} {ps : List Statement} (h : Holds ts ps) :
    Holds (parenthesized ts) ps :=
  other rfl (h.append_gap rfl)

theorem forall₂_singles {α : Type} {piece : α → List Token} {p : α → Statement}
    (h : ∀ a, Statement.ofTokens (piece a) = p a) (as : List α) :
    List.Forall₂ Holds (as.map piece) (as.map fun a => [p a]) := by
  rw [List.forall₂_map_left_iff, List.forall₂_map_right_iff, List.forall₂_same]
  exact fun a _ => single (h a)

theorem separated {sep : List Token} (hsep : params sep = []) {pieces : List (List Token)}
    {pss : List (List Statement)} (h : List.Forall₂ Holds pieces pss) :
    Holds (separated sep pieces) pss.flatten := by
  induction h with
  | nil => exact nil
  | @cons piece ps pieces pss hp hs ih =>
    cases hs with
    | nil =>
      rw [List.flatten_singleton]
      exact hp
    | cons hnext hrest =>
      rw [Sql.separated, List.append_assoc]
      exact hp.append ((of_params hsep).append ih)

theorem spaced {pieces : List (List Token)} {pss : List (List Statement)}
    (h : List.Forall₂ Holds pieces pss) :
    Holds (spaced pieces) pss.flatten :=
  separated rfl h

theorem joined (word : Keyword) {pieces : List (List Token)} {pss : List (List Statement)}
    (h : List.Forall₂ Holds pieces pss) : Holds (joined word pieces) pss.flatten := by
  cases h with
  | nil => exact of_params rfl
  | cons hp hs =>
    cases hs with
    | nil =>
      rw [List.flatten_singleton]
      exact hp
    | cons hnext hrest => exact (separated rfl (.cons hp (.cons hnext hrest))).parenthesized

end Holds

theorem boundOffsets_append (n : Nat) (ts us : List Token) :
    boundOffsets n (ts ++ us) = boundOffsets n ts ++ boundOffsets (n + (chars ts).length) us := by
  induction ts generalizing n with
  | nil => rfl
  | cons t rest ih =>
    simp only [List.cons_append, boundOffsets, ih, List.append_assoc, chars_cons,
      List.length_append, Nat.add_assoc]

theorem boundOffsets_add (m n : Nat) (ts : List Token) :
    boundOffsets (m + n) ts = (boundOffsets n ts).map (Prod.map (m + ·) id) := by
  induction ts generalizing n with
  | nil => rfl
  | cons t rest ih =>
    rw [boundOffsets, boundOffsets, Nat.add_assoc, ih]
    cases t.param? <;> simp

theorem placeholdersAt_ofTokens {ts : List Token} (h : ∀ t ∈ ts, t.isPlain = true) (place : Nat) :
    (Statement.ofTokens ts).placeholdersAt place = boundOffsets place ts := by
  have hzip := (placeholderOffsets_text h).1
  have hadd := boundOffsets_add place 0 ts
  rw [Nat.add_zero] at hadd
  rw [Statement.placeholdersAt, List.zip_map_left, hadd, ← hzip]
  rfl

/-- Predicates that plain tokens hold stand in their text, wherever it begins. -/
theorem Holds.exists_places {ts : List Token} {ps : List Statement} (h : Holds ts ps)
    (hplain : ∀ t ∈ ts, t.isPlain = true) (before : List Char) :
    ∃ places : List (Nat × Statement), places.map Prod.snd = ps ∧
      (∀ x ∈ places, before.length ≤ x.1 ∧ x.2.sql.toList <+: (before ++ chars ts).drop x.1 ∧
        x.2.placeholderCount = x.2.params.length) ∧
      (places.Pairwise fun x y => x.1 + x.2.sql.length ≤ y.1) ∧
      boundOffsets before.length ts = places.flatMap fun x => x.2.placeholdersAt x.1 := by
  induction h generalizing before with
  | nil => exact ⟨[], rfl, by simp, .nil, rfl⟩
  | @other t ts ps ht _ ih =>
    simp only [List.mem_cons, forall_eq_or_imp] at hplain
    obtain ⟨places, hps, hstands, hapart, hbound⟩ := ih hplain.2 (before ++ t.chars)
    rw [List.length_append] at hstands hbound
    refine ⟨places, hps, fun x hx => ?_, hapart, ?_⟩
    · obtain ⟨hle, hprefix, hown⟩ := hstands x hx
      rw [List.append_assoc] at hprefix
      exact ⟨Nat.le_of_add_right_le hle, by rwa [chars_cons], hown⟩
    · rw [boundOffsets, ht, hbound]
      rfl
  | @predicate piece ts p ps hp _ ih =>
    simp only [List.mem_append, or_imp, forall_and] at hplain
    obtain ⟨places, hps, hstands, hapart, hbound⟩ := ih hplain.2 (before ++ chars piece)
    rw [List.length_append] at hstands hbound
    have hsql : p.sql.toList = chars piece := by rw [← hp, Statement.toList_ofTokens]
    have hlength : p.sql.length = (chars piece).length := by rw [← hsql, String.length_toList]
    refine ⟨(before.length, p) :: places, by rw [List.map_cons, hps], ?_, ?_, ?_⟩
    · intro x hx
      rcases List.mem_cons.mp hx with rfl | hx
      · refine ⟨Nat.le_refl _, ?_, ?_⟩
        · rw [List.drop_left, hsql, chars_append]
          exact List.prefix_append _ _
        · rw [← hp]
          exact (placeholderOffsets_text hplain.1).2
      · obtain ⟨hle, hprefix, hown⟩ := hstands x hx
        rw [List.append_assoc] at hprefix
        exact ⟨Nat.le_of_add_right_le hle, by rwa [chars_append], hown⟩
    · refine List.pairwise_cons.mpr ⟨fun x hx => ?_, hapart⟩
      rw [hlength]
      exact (hstands x hx).1
    · rw [boundOffsets_append, hbound, List.flatMap_cons, ← placeholdersAt_ofTokens hplain.1, hp]

/-- The statement of plain tokens is aligned with the predicates that they hold. -/
theorem Holds.exists_aligned {ts : List Token} {ps : List Statement} (h : Holds ts ps)
    (hplain : ∀ t ∈ ts, t.isPlain = true) :
    ∃ places : List (Nat × Statement), places.map Prod.snd = ps ∧
      (Statement.ofTokens ts).Aligned places := by
  obtain ⟨places, hps, hstands, hapart, hbound⟩ := h.exists_places hplain []
  refine ⟨places, hps, (placeholderOffsets_text hplain).2, fun x hx => ?_, hapart,
    fun x hx => (hstands x hx).2.2, ?_⟩
  · rw [Statement.toList_ofTokens]
    exact (hstands x hx).2.1
  · rw [placeholdersAt_ofTokens hplain]
    exact hbound

end DocumentQuery.Sql
