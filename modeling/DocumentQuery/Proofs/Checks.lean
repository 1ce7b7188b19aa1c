import Mathlib.Data.List.Nodup

/-!
# Checks that stop at the first fault

What is wrong with a list of items can depend, for each item, on the items before it. A check goes
through the items once, keeps of those behind it what it needs, and stops at the first fault.
`Finds` says what a single step of such a check has to do; then the whole check finds the first of
all faults.
-/

namespace DocumentQuery

/-- The error of a result, if it has one. -/
def errorOf {ε α : Type} : Except ε α → Option ε
  | .error e => some e
  | .ok _ => none

@[simp] theorem errorOf_map {ε α β : Type} (g : α → β) (x : Except ε α) :
    errorOf (x.map g) = errorOf x := by
  cases x <;> rfl

theorem errorOf_eq_some {ε α : Type} {x : Except ε α} {e : ε} :
    errorOf x = some e ↔ x = .error e := by
  cases x <;> simp [errorOf]

theorem errorOf_eq_none {ε α : Type} {x : Except ε α} : errorOf x = none ↔ ∃ a, x = .ok a := by
  cases x <;> simp [errorOf]

section

variable {α ε σ κ : Type} {faults : List α → α → List ε} {Keeps : List α → σ → Prop}
  {check : σ → List α → Option ε}

/-- All faults of the items in order. The faults of an item are told from it and the items before
it. -/
def faultsFrom (faults : List α → α → List ε) (earlier : List α) : List α → List ε
  | [] => []
  | a :: rest => faults earlier a ++ faultsFrom faults (earlier ++ [a]) rest

/-- A check whose state keeps enough of the earlier items stops at the first fault of an item, and
goes on without one to a state that keeps enough of this item too. -/
structure Finds (faults : List α → α → List ε) (Keeps : List α → σ → Prop)
    (check : σ → List α → Option ε) :
    Prop where
  nil : ∀ st, check st [] = none
  cons : ∀ {earlier st a}, Keeps earlier st → ∃ next,
    (∀ rest, check st (a :: rest) = (faults earlier a).head?.or (check next rest)) ∧
      (faults earlier a = [] → Keeps (earlier ++ [a]) next)

theorem Finds.check_eq (h : Finds faults Keeps check) (earlier : List α) (st : σ)
    (hst : Keeps earlier st) (items : List α) :
    check st items = (faultsFrom faults earlier items).head? := by
  induction items generalizing earlier st with
  | nil => exact h.nil st
  | cons a rest ih =>
    obtain ⟨next, hcheck, hnext⟩ := h.cons (a := a) hst
    rw [hcheck, faultsFrom, List.head?_append]
    cases hfaults : faults earlier a with
    | nil => rw [ih _ _ (hnext hfaults)]
    | cons e es => rfl

/-- If an item is without a fault exactly if it is good and its key is not that of an earlier one,
then nothing is wrong with items that are good and have different keys, and with no others. -/
theorem faultsFrom_eq_nil_iff {key : α → κ} {Good : α → Prop}
    (h : ∀ earlier a, faults earlier a = [] ↔ Good a ∧ key a ∉ earlier.map key)
    (earlier items : List α) :
    faultsFrom faults earlier items = [] ↔
      (∀ a ∈ items, Good a) ∧ (items.map key).Nodup ∧ ∀ a ∈ items, key a ∉ earlier.map key := by
  induction items generalizing earlier with
  | nil => simp [faultsFrom]
  | cons a rest ih =>
    rw [faultsFrom, List.append_eq_nil_iff, h, ih, List.map_cons, List.nodup_cons,
      List.forall_mem_cons, List.forall_mem_cons]
    have hlater : (∀ b ∈ rest, key b ∉ (earlier ++ [a]).map key) ↔
        (∀ b ∈ rest, key b ∉ earlier.map key) ∧ key a ∉ rest.map key := by
      simp only [List.map_append, List.map_cons, List.map_nil, List.mem_append,
        List.mem_singleton, not_or, forall_and, List.mem_map, not_exists, not_and]
    rw [hlater]
    tauto

end

end DocumentQuery
