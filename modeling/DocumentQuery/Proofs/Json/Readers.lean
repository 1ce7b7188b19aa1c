import DocumentQuery.Json.Basic
import Mathlib.Data.List.Forall2

/-!
# Readers of JSON

A reader makes something of a JSON value or fails. It is described by two predicates: what it can
make of the value, and which errors it can have. Here is how the descriptions of readers are put
together, and how what is known of the parts of a value carries over to the value.
-/

namespace DocumentQuery

variable {ε α β : Type}

theorem map_eq_ok {g : α → β} {x : Except ε α} {b : β} :
    x.map g = .ok b ↔ ∃ a, x = .ok a ∧ g a = b := by
  cases x <;> simp [Except.map]

theorem map_eq_error {g : α → β} {x : Except ε α} {e : ε} : x.map g = .error e ↔ x = .error e := by
  cases x <;> simp [Except.map]

theorem mapM_cons_of_ok {g : α → Except ε β} {x : α} {y : β} (h : g x = .ok y) (xs : List α) :
    (x :: xs).mapM g = (xs.mapM g).map (y :: ·) := by
  rw [List.mapM_cons, h]
  cases xs.mapM g <;> rfl

theorem mapM_cons_of_error {g : α → Except ε β} {x : α} {e : ε} (h : g x = .error e) (xs : List α) :
    (x :: xs).mapM g = .error e := by
  rw [List.mapM_cons, h]
  rfl

theorem mapM_eq_ok_iff {g : α → Except ε β} {xs : List α} {ys : List β} :
    xs.mapM g = .ok ys ↔ List.Forall₂ (fun x y => g x = .ok y) xs ys := by
  induction xs generalizing ys with
  | nil => cases ys <;> simp [pure, Except.pure]
  | cons x rest ih =>
    rw [List.forall₂_cons_left_iff]
    cases hg : g x with
    | error e => simp [mapM_cons_of_error hg]
    | ok y =>
      rw [mapM_cons_of_ok hg]
      cases hrest : rest.mapM g with
      | error e => simp [Except.map, ← ih, hrest]
      | ok zs => simp [Except.map, ← ih, hrest, eq_comm]

theorem mapM_eq_error_iff {g : α → Except ε β} {xs : List α} {e : ε} :
    xs.mapM g = .error e ↔
      ∃ before x after, xs = before ++ x :: after ∧ (∀ b ∈ before, ∃ y, g b = .ok y) ∧
        g x = .error e := by
  induction xs with
  | nil => simp [pure, Except.pure]
  | cons x rest ih =>
    cases hg : g x with
    | error f =>
      rw [mapM_cons_of_error hg]
      constructor
      · intro h
        obtain rfl := Except.error.inj h
        exact ⟨[], x, rest, rfl, by simp, hg⟩
      · rintro ⟨before, y, after, heq, hbefore, hy⟩
        cases before with
        | nil =>
          obtain ⟨rfl, -⟩ := List.cons.inj heq
          exact congrArg Except.error (Except.error.inj (hg.symm.trans hy))
        | cons b before =>
          obtain ⟨rfl, -⟩ := List.cons.inj heq
          simp [hg] at hbefore
    | ok z =>
      rw [mapM_cons_of_ok hg, map_eq_error]
      constructor
      · intro h
        obtain ⟨before, y, after, rfl, hbefore, hy⟩ := ih.mp h
        exact ⟨x :: before, y, after, rfl, List.forall_mem_cons.mpr ⟨⟨z, hg⟩, hbefore⟩, hy⟩
      · rintro ⟨before, y, after, heq, hbefore, hy⟩
        cases before with
        | nil =>
          obtain ⟨rfl, -⟩ := List.cons.inj heq
          simp [hg] at hy
        | cons b before =>
          obtain ⟨rfl, rfl⟩ := List.cons.inj heq
          exact ih.mpr ⟨before, y, after, rfl, (List.forall_mem_cons.mp hbefore).2, hy⟩

/-- The result is what is predicted: its value is the one of which `D` holds, or its error that of
which `F` holds. -/
structure Settles (x : Except ε α) (D : α → Prop) (F : ε → Prop) : Prop where
  ok_iff : ∀ a, x = .ok a ↔ D a
  error_iff : ∀ e, x = .error e ↔ F e

namespace Settles

variable {x : Except ε α} {D : α → Prop} {F : ε → Prop}

theorem ok (a : α) : Settles (.ok a : Except ε α) (a = ·) (fun _ => False) :=
  ⟨fun b => by simp, fun e => by simp⟩

theorem error (e : ε) : Settles (.error e : Except ε α) (fun _ => False) (e = ·) :=
  ⟨fun a => by simp, fun f => by simp⟩

theorem map (h : Settles x D F) (g : α → β) :
    Settles (x.map g) (fun b => ∃ a, D a ∧ g a = b) F := by
  constructor
  · intro b
    simp only [map_eq_ok, h.ok_iff]
  · intro e
    rw [map_eq_error, h.error_iff]

theorem congr (h : Settles x D F) {D' : α → Prop} {F' : ε → Prop} (hD : ∀ a, D a ↔ D' a)
    (hF : ∀ e, F e ↔ F' e) : Settles x D' F' :=
  ⟨fun a => (h.ok_iff a).trans (hD a), fun e => (h.error_iff e).trans (hF e)⟩

/-- A walk over a list settles on the results of the items, each at its place, or on the error of
the first item that fails. -/
theorem mapM {g : α → Except ε β} {D : α → β → Prop} {F : α → ε → Prop} {xs : List α}
    (h : ∀ x ∈ xs, Settles (g x) (D x) (F x)) :
    Settles (xs.mapM g) (fun ys => xs.length = ys.length ∧ ∀ x y, (x, y) ∈ xs.zip ys → D x y)
      (fun e => ∃ before x after, xs = before ++ x :: after ∧ (∀ b ∈ before, ∃ y, D b y) ∧
        F x e) := by
  constructor
  · intro ys
    rw [mapM_eq_ok_iff, List.forall₂_iff_zip]
    refine and_congr_right fun _ => ⟨fun hzip x y hmem => ?_, fun hzip x y hmem => ?_⟩
    · exact ((h x (List.of_mem_zip hmem).1).ok_iff y).mp (hzip hmem)
    · exact ((h x (List.of_mem_zip hmem).1).ok_iff y).mpr (hzip x y hmem)
  · intro e
    rw [mapM_eq_error_iff]
    constructor
    · rintro ⟨before, x, after, rfl, hbefore, hx⟩
      refine ⟨before, x, after, rfl, fun b hb => ?_, ((h x (by simp)).error_iff e).mp hx⟩
      obtain ⟨y, hy⟩ := hbefore b hb
      exact ⟨y, ((h b (by simp [hb])).ok_iff y).mp hy⟩
    · rintro ⟨before, x, after, rfl, hbefore, hx⟩
      refine ⟨before, x, after, rfl, fun b hb => ?_, ((h x (by simp)).error_iff e).mpr hx⟩
      obtain ⟨y, hy⟩ := hbefore b hb
      exact ⟨y, ((h b (by simp [hb])).ok_iff y).mpr hy⟩

end Settles

/-- What holds of a value if it holds of its items or members holds of every value. -/
@[elab_as_elim]
theorem Json.byParts {motive : Json → Prop}
    (array : ∀ items, (∀ j ∈ items, motive j) → motive (.array items))
    (object : ∀ members, (∀ m ∈ members, motive m.2) → motive (.object members))
    (leaf : ∀ j, (∀ items, j ≠ .array items) → (∀ members, j ≠ .object members) → motive j) :
    ∀ j, motive j :=
  @Json.rec motive (fun items => ∀ j ∈ items, motive j) (fun members => ∀ m ∈ members, motive m.2)
    (fun m => motive m.2)
    (leaf .null (fun _ h => nomatch h) fun _ h => nomatch h)
    (fun b => leaf (.bool b) (fun _ h => nomatch h) fun _ h => nomatch h)
    (fun n => leaf (.number n) (fun _ h => nomatch h) fun _ h => nomatch h)
    (fun s => leaf (.string s) (fun _ h => nomatch h) fun _ h => nomatch h)
    array object
    (fun _ h => nomatch h) (fun _ _ hj hrest => List.forall_mem_cons.mpr ⟨hj, hrest⟩)
    (fun _ h => nomatch h) (fun _ _ hm hrest => List.forall_mem_cons.mpr ⟨hm, hrest⟩)
    (fun _ _ h => h)

end DocumentQuery
