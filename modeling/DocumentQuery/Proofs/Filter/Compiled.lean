import DocumentQuery.Filter.Compile

/-!
# Filters that have a condition

What is known of a filter whose condition could be made: every operator fits its field, every
negation has one operand, and the condition is put together from those of the operands. `Inductive`
is the induction over such filters: statements about conditions are proved by its cases.
-/

namespace DocumentQuery

open Sql (Condition)

/-- The condition that a connective makes of those of its operands; a negation has just one. -/
def Connective.join? : Connective → List Condition → Option Condition
  | .and, cs => some (.all cs)
  | .or, cs => some (.any cs)
  | .nor, cs => some (.none cs)
  | .not, [c] => some (.not c)
  | .not, _ => none

/-- What a condition has in common with the list of its operands, whatever joins them. -/
theorem Connective.eq_of_join? {α : Type} {g : Condition → α} {gs : List Condition → α}
    (hall : ∀ cs, g (.all cs) = gs cs) (hany : ∀ cs, g (.any cs) = gs cs)
    (hnone : ∀ cs, g (.none cs) = gs cs) (hnot : ∀ c, g (.not c) = gs [c]) {k : Connective}
    {cs : List Condition} {c : Condition} (h : k.join? cs = some c) : g c = gs cs := by
  match k, cs with
  | .and, cs =>
    obtain rfl := Option.some.inj h
    exact hall cs
  | .or, cs =>
    obtain rfl := Option.some.inj h
    exact hany cs
  | .nor, cs =>
    obtain rfl := Option.some.inj h
    exact hnone cs
  | .not, [d] =>
    obtain rfl := Option.some.inj h
    exact hnot d

namespace Filter

variable {s : Schema} {root : Root}

theorem conditions_cons_ok {f : Filter} {rest : List Filter} {cs : List Condition}
    (h : conditions s root (f :: rest) = .ok cs) :
    ∃ c ds, f.condition s root = .ok c ∧ conditions s root rest = .ok ds ∧ cs = c :: ds := by
  simp only [conditions] at h
  cases hc : f.condition s root with
  | error e => simp [hc] at h
  | ok c =>
    cases hr : conditions s root rest with
    | error e => simp [hc, hr, Except.map] at h
    | ok ds =>
      simp only [hc, hr, Except.map, Except.ok.injEq] at h
      exact ⟨c, ds, rfl, rfl, h.symm⟩

theorem condition_logical_ok {k : Connective} {operands : List Filter} {c : Condition}
    (h : (logical k operands).condition s root = .ok c) :
    ∃ cs, conditions s root operands = .ok cs ∧ k.join? cs = some c := by
  -- for every connective but the negation the operands alone decide
  have hmap {g : List Condition → Condition}
      (hg : (conditions s root operands).map g = .ok c) :
      ∃ cs, conditions s root operands = .ok cs ∧ g cs = c := by
    cases hc : conditions s root operands with
    | error e => simp [hc, Except.map] at hg
    | ok cs => exact ⟨cs, rfl, by simpa [hc, Except.map] using hg⟩
  match k, operands with
  | .and, _ | .or, _ | .nor, _ =>
    simp only [condition] at h
    obtain ⟨cs, hcs, rfl⟩ := hmap h
    exact ⟨cs, hcs, rfl⟩
  | .not, [operand] =>
    simp only [condition] at h
    cases hc : operand.condition s root with
    | error e => simp [hc, Except.map] at h
    | ok d =>
      simp only [hc, Except.map, Except.ok.injEq] at h
      exact ⟨[d], by simp [conditions, hc, Except.map], by simp only [Connective.join?, h]⟩
  | .not, [] | .not, _ :: _ :: _ => simp [condition] at h

theorem condition_logical_of_join {k : Connective} {operands : List Filter} {cs : List Condition}
    {c : Condition} (hcs : conditions s root operands = .ok cs) (hjoin : k.join? cs = some c) :
    (logical k operands).condition s root = .ok c := by
  match k, operands with
  | .and, _ | .or, _ | .nor, _ =>
    simp only [Connective.join?, Option.some.injEq] at hjoin
    simp only [condition, hcs, Except.map, hjoin]
  | .not, [] =>
    simp only [conditions, Except.ok.injEq] at hcs
    simp [← hcs, Connective.join?] at hjoin
  | .not, [operand] =>
    obtain ⟨d, ds, hd, hds, rfl⟩ := conditions_cons_ok hcs
    simp only [conditions, Except.ok.injEq] at hds
    simp only [← hds, Connective.join?, Option.some.injEq] at hjoin
    simp only [condition, hd, Except.map, hjoin]
  | .not, first :: second :: rest =>
    obtain ⟨d, ds, -, hds, rfl⟩ := conditions_cons_ok hcs
    obtain ⟨d', ds', -, -, rfl⟩ := conditions_cons_ok hds
    simp [Connective.join?] at hjoin

theorem condition_test_ok {path : String} {t : Test} {c : Condition}
    (h : (test path t).condition s root = .ok c) :
    t.objection? s root path = none ∧ c = t.condition (s.resolveIn root path) root.nextDepth := by
  simp only [condition] at h
  cases ho : t.objection? s root path with
  | some reason => simp [ho] at h
  | none =>
    simp only [ho, Except.ok.injEq] at h
    exact ⟨rfl, h.symm⟩

theorem condition_elemMatch_ok {path : String} {inner : Filter} {c : Condition}
    (h : (elemMatch path inner).condition s root = .ok c) :
    s.objection? root path .elemMatch = none ∧
      ∃ d, inner.condition s (.element root.nextDepth) = .ok d ∧
        c = .someElement (s.resolveIn root path) root.nextDepth d := by
  simp only [condition] at h
  cases ho : s.objection? root path .elemMatch with
  | some reason => simp [ho] at h
  | none =>
    cases hd : inner.condition s (.element root.nextDepth) with
    | error e => simp [ho, hd, Except.map] at h
    | ok d =>
      simp only [ho, hd, Except.map, Except.ok.injEq] at h
      exact ⟨rfl, d, rfl, h.symm⟩

/-- What is known of filters and their conditions (`P`), and of lists of them (`Q`), passes from the
parts of a filter to the whole. -/
structure Inductive (s : Schema) (P : Root → Filter → Condition → Prop)
    (Q : Root → List Filter → List Condition → Prop) : Prop where
  everything : ∀ root, P root .everything (.constant true)
  logical : ∀ root k fs cs c, Q root fs cs → k.join? cs = some c → P root (.logical k fs) c
  test : ∀ root path t, t.objection? s root path = none →
    P root (.test path t) (t.condition (s.resolveIn root path) root.nextDepth)
  elemMatch : ∀ root path inner c, P (.element root.nextDepth) inner c →
    P root (.elemMatch path inner) (.someElement (s.resolveIn root path) root.nextDepth c)
  nil : ∀ root, Q root [] []
  cons : ∀ root f fs c cs, P root f c → Q root fs cs → Q root (f :: fs) (c :: cs)

namespace Inductive

variable {P : Root → Filter → Condition → Prop} {Q : Root → List Filter → List Condition → Prop}

mutual

/-- What passes from the parts to the whole holds of every filter that has a condition. -/
theorem holds (step : Inductive s P Q) (root : Root) (f : Filter) {c : Condition}
    (h : f.condition s root = .ok c) : P root f c := by
  match f with
  | .everything =>
    simp only [condition, Except.ok.injEq] at h
    exact h ▸ step.everything root
  | .logical k operands =>
    obtain ⟨cs, hcs, hj⟩ := condition_logical_ok h
    exact step.logical root k operands cs c (step.holdsOfList root operands hcs) hj
  | .test path t =>
    obtain ⟨ho, rfl⟩ := condition_test_ok h
    exact step.test root path t ho
  | .elemMatch path inner =>
    obtain ⟨-, d, hd, rfl⟩ := condition_elemMatch_ok h
    exact step.elemMatch root path inner d (step.holds (.element root.nextDepth) inner hd)

theorem holdsOfList (step : Inductive s P Q) (root : Root) (fs : List Filter) {cs : List Condition}
    (h : conditions s root fs = .ok cs) : Q root fs cs := by
  match fs with
  | [] =>
    simp only [conditions, Except.ok.injEq] at h
    exact h ▸ step.nil root
  | f :: rest =>
    obtain ⟨c, ds, hc, hd, rfl⟩ := conditions_cons_ok h
    exact step.cons root f rest c ds (step.holds root f hc) (step.holdsOfList root rest hd)

end

end Inductive

end Filter

end DocumentQuery
