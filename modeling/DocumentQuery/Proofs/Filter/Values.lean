import DocumentQuery.Filter.Literals
import DocumentQuery.Proofs.Filter.Alike
import DocumentQuery.Proofs.Filter.Structure
import DocumentQuery.Proofs.Sql.Parameters

/-!
# The values of a filter in its condition

Two walks read the values of a filter: the one that makes its condition and the one that only
collects literals. They bind the same parameters in the same order. The condition depends on the
values through these parameters alone, so that filters of one structure have one template, and the
only violation that the structure does not show is a negative length.
-/

namespace DocumentQuery

open Sql (Condition Param Token)

namespace Test

theorem params_condition (t : Test) (r : Reference) (depth : Nat) :
    (t.condition r depth).params = t.params := by
  cases t with
  | compare c v => rfl
  | pattern p s => rfl
  | size n => rfl
  | present expected => rfl
  | member m vs =>
    cases m with
    | oneOf => cases vs <;> rfl
    | noneOf => cases vs <;> rfl
    | all =>
      simp only [condition, Condition.params, params]
      induction vs with
      | nil => rfl
      | cons v rest ih => simp [Condition.paramsOfList, Condition.params, ih]

theorem alike_erase {t : Test} (h : t.negativeLength? = none) : t.Alike t.erase := by
  cases t with
  | compare c v => exact .compare c v .null
  | member m vs => exact .member m (by rw [List.length_map])
  | pattern p s => exact .pattern p s ""
  | present expected => exact .present expected
  | size n =>
    have hn : 0 ≤ n := by
      apply Int64.not_lt.mp
      intro hlt
      simp [negativeLength?, hlt] at h
    exact .size hn (Int64.le_refl 0)

end Test

theorem Connective.params_of_join? {k : Connective} {cs : List Condition} {c : Condition}
    (h : k.join? cs = some c) : c.params = Condition.paramsOfList cs := by
  have hnot (d : Condition) : (Condition.not d).params = Condition.paramsOfList [d] := by
    simp [Condition.params, Condition.paramsOfList]
  exact eq_of_join? (fun _ => rfl) (fun _ => rfl) (fun _ => rfl) hnot h

theorem Test.negativeLength?_of_objection? {t : Test} {s : Schema} {root : Root} {path : String}
    (h : t.objection? s root path = none) : t.negativeLength? = none := by
  cases hn : t.negativeLength? with
  | none => rfl
  | some n => simp [objection?, hn] at h

namespace Filter

variable {s : Schema} {root : Root}

theorem literals_of_condition {f : Filter} {c : Condition} (h : f.condition s root = .ok c) :
    f.literals = .ok c.params := by
  have step : Inductive s (fun _ f c => f.literals = .ok c.params)
      (fun _ fs cs => literalsOfList fs = .ok (Condition.paramsOfList cs)) := {
    everything := fun _ => rfl
    logical := fun _ k fs cs c hfs hj => by rw [literals, hfs, Connective.params_of_join? hj]
    test := fun _ path t ho => by
      simp only [literals, Test.negativeLength?_of_objection? ho, t.params_condition]
    elemMatch := fun _ path inner c hc => hc
    nil := fun _ => rfl
    cons := fun _ f fs c cs hc hcs => by
      simp only [literalsOfList, hc, hcs, Except.map, Condition.paramsOfList] }
  exact step.holds root f h

theorem literalsOfList_cons_ok {f : Filter} {rest : List Filter} {ps : List Param}
    (h : literalsOfList (f :: rest) = .ok ps) :
    ∃ qs rs, f.literals = .ok qs ∧ literalsOfList rest = .ok rs ∧ ps = qs ++ rs := by
  simp only [literalsOfList] at h
  cases hf : f.literals with
  | error e => simp [hf] at h
  | ok qs =>
    cases hr : literalsOfList rest with
    | error e => simp [hf, hr, Except.map] at h
    | ok rs =>
      simp only [hf, hr, Except.map, Except.ok.injEq] at h
      exact ⟨qs, rs, rfl, rfl, h.symm⟩

theorem literals_test_ok {path : String} {t : Test} {ps : List Param}
    (h : (test path t).literals = .ok ps) : t.negativeLength? = none := by
  cases hn : t.negativeLength? with
  | none => rfl
  | some n => simp [literals, hn] at h

mutual

theorem alike_erase (f : Filter) {ps : List Param} (h : f.literals = .ok ps) : f.Alike f.erase := by
  match f with
  | .everything => exact .everything
  | .logical k operands => exact .logical k (allAlike_eraseList operands h)
  | .test path t => exact .test path (Test.alike_erase (literals_test_ok h))
  | .elemMatch path inner => exact .elemMatch path (alike_erase inner h)

theorem allAlike_eraseList (fs : List Filter) {ps : List Param} (h : literalsOfList fs = .ok ps) :
    AllAlike fs (eraseList fs) := by
  match fs with
  | [] => exact .nil
  | f :: rest =>
    obtain ⟨qs, rs, hq, hr, -⟩ := literalsOfList_cons_ok h
    exact .cons (alike_erase f hq) (allAlike_eraseList rest hr)

end

/-- Without a negative length a filter has the condition of its structure, up to the values, or the
first violation of its structure. -/
theorem map_erase_condition (s : Schema) (root : Root) (f : Filter) {ps : List Param}
    (h : f.literals = .ok ps) :
    (f.condition s root).map Condition.erase = (f.erase.condition s root).map Condition.erase :=
  (alike_erase f h).map_erase_condition s root

mutual

/-- A filter whose structure has no violation fails with the first negative length in it. -/
theorem condition_eq_error (s : Schema) (root : Root) (f : Filter) {c : Condition}
    {e : CompileError} (hc : f.erase.condition s root = .ok c) (he : f.literals = .error e) :
    f.condition s root = .error e := by
  match f with
  | .everything => simp [literals] at he
  | .logical k operands =>
    obtain ⟨cs, hcs, hj⟩ := condition_logical_ok hc
    have ih := conditions_eq_error s root operands hcs he
    match k, operands with
    | .and, _ | .or, _ | .nor, _ => simp only [condition, ih, Except.map]
    | .not, [operand] =>
      simp only [conditions] at ih
      cases ho : operand.condition s root with
      | error e' =>
        simp only [ho, Except.error.injEq] at ih
        simp only [condition, ho, Except.map, ih]
      | ok d => simp [ho, Except.map] at ih
    | .not, [] | .not, _ :: _ :: _ => simp [erase, eraseList, condition] at hc
  | .test path t =>
    cases hn : t.negativeLength? with
    | none => simp [literals, hn] at he
    | some n =>
      simp only [literals, hn, Except.error.injEq] at he
      simp only [condition, Test.objection?, hn, he]
  | .elemMatch path inner =>
    obtain ⟨ho, d, hd, -⟩ := condition_elemMatch_ok hc
    have ih := condition_eq_error s (.element root.nextDepth) inner hd he
    simp only [condition, ho, ih, Except.map]

theorem conditions_eq_error (s : Schema) (root : Root) (fs : List Filter) {cs : List Condition}
    {e : CompileError} (hc : conditions s root (eraseList fs) = .ok cs)
    (he : literalsOfList fs = .error e) : conditions s root fs = .error e := by
  match fs with
  | [] => simp [literalsOfList] at he
  | f :: rest =>
    obtain ⟨c, ds, hf, hr, -⟩ := conditions_cons_ok hc
    simp only [literalsOfList] at he
    cases hl : f.literals with
    | error e' =>
      simp only [hl, Except.error.injEq] at he
      simp only [conditions, condition_eq_error s root f hf hl, he]
    | ok ps =>
      cases hls : literalsOfList rest with
      | ok qs => simp [hl, hls, Except.map] at he
      | error e' =>
        simp only [hl, hls, Except.map, Except.error.injEq] at he
        subst he
        have hok := map_erase_condition s root f hl
        cases hd : f.condition s root with
        | error e'' => simp [hd, hf, Except.map] at hok
        | ok d => simp only [conditions, hd, conditions_eq_error s root rest hr hls, Except.map]

end

/-- A filter of the structure of one that has a condition has the same template, if its literals can
be read, and otherwise fails for the reason that they cannot. -/
theorem tokens_of_erase_eq {f g : Filter} (hfg : f.erase = g.erase) {ts : List Token}
    (hf : f.tokens s = .ok ts) :
    (∀ e, g.literals = .error e → g.tokens s = .error e) ∧
    (∀ ps, g.literals = .ok ps → ∃ us, g.tokens s = .ok us ∧ Sql.params us = ps ∧
      Sql.text us = Sql.text ts ∧
      (Sql.params us).map Param.slot = (Sql.params ts).map Param.slot) := by
  cases hc : f.condition s .document with
  | error e => simp [tokens, hc, Except.map] at hf
  | ok c =>
    simp only [tokens, hc, Except.map, Except.ok.injEq] at hf
    subst hf
    have hef := map_erase_condition s .document f (literals_of_condition hc)
    cases hd : g.erase.condition s .document with
    | error e => simp [hc, hfg, hd, Except.map] at hef
    | ok d =>
      simp only [hc, hfg, hd, Except.map, Except.ok.injEq] at hef
      refine ⟨fun e he => ?_, fun ps hps => ?_⟩
      · simp only [tokens, condition_eq_error s .document g hd he, Except.map]
      · have heg := map_erase_condition s .document g hps
        cases hb : g.condition s .document with
        | error e => simp [hb, hd, Except.map] at heg
        | ok b =>
          simp only [hb, hd, Except.map, Except.ok.injEq] at heg
          have hp := literals_of_condition hb
          have hbc : b.tokens.map Token.erase = c.tokens.map Token.erase := by
            rw [← Condition.tokens_erase, ← Condition.tokens_erase, heg, hef]
          refine ⟨b.tokens, by simp only [tokens, hb, Except.map], ?_, ?_, ?_⟩
          · rw [Condition.params_tokens]
            rw [hps, Except.ok.injEq] at hp
            exact hp.symm
          · rw [← Sql.text_map_erase, hbc, Sql.text_map_erase]
          · rw [← Sql.slots_map_erase, hbc, Sql.slots_map_erase]

end Filter

end DocumentQuery
