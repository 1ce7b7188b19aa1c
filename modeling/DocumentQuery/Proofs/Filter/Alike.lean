import DocumentQuery.Proofs.Filter.Compiled
import DocumentQuery.Proofs.Sql.Erasure

/-!
# Filters that differ in their literals only

Two filters are alike if one becomes the other when literals are exchanged: the values that are
compared with, the items of lists, the texts of patterns, and lengths that are not negative.
Whatever the literals are, alike filters have the same text with the same slots, or fail for the
same reason. So no literal gets into the text of a statement.
-/

namespace DocumentQuery

open Sql (Condition Param Slot Statement Token)

/-- Tests that differ in their literals only. A negative length is refused, so it is no literal. -/
inductive Test.Alike : Test → Test → Prop
  | compare (c : Comparison) (v w : Value) : Alike (.compare c v) (.compare c w)
  | member (m : Membership) {vs ws : List Value} (h : vs.length = ws.length) :
      Alike (.member m vs) (.member m ws)
  | pattern (p : Pattern) (s t : String) : Alike (.pattern p s) (.pattern p t)
  | size {m n : Int64} (hm : 0 ≤ m) (hn : 0 ≤ n) : Alike (.size m) (.size n)
  | sameSize (n : Int64) : Alike (.size n) (.size n)
  | present (expected : Bool) : Alike (.present expected) (.present expected)

mutual

/-- Filters that differ in their literals only. -/
inductive Filter.Alike : Filter → Filter → Prop
  | everything : Alike .everything .everything
  | logical (k : Connective) {fs gs : List Filter} (h : AllAlike fs gs) :
      Alike (.logical k fs) (.logical k gs)
  | test (path : String) {t u : Test} (h : t.Alike u) : Alike (.test path t) (.test path u)
  | elemMatch (path : String) {f g : Filter} (h : Alike f g) :
      Alike (.elemMatch path f) (.elemMatch path g)

/-- As many filters on both sides, alike one by one. -/
inductive Filter.AllAlike : List Filter → List Filter → Prop
  | nil : AllAlike [] []
  | cons {f g : Filter} {fs gs : List Filter} (h : Alike f g) (hs : AllAlike fs gs) :
      AllAlike (f :: fs) (g :: gs)

end

namespace Test.Alike

variable {t u : Test}

theorem operator_eq (h : t.Alike u) : t.operator = u.operator := by
  cases h <;> rfl

theorem negativeLength?_eq (h : t.Alike u) : t.negativeLength? = u.negativeLength? := by
  cases h with
  | size hm hn =>
    simp only [negativeLength?, if_neg (Int64.not_lt.mpr hm), if_neg (Int64.not_lt.mpr hn)]
  | _ => rfl

theorem objection?_eq (h : t.Alike u) (s : Schema) (root : Root) (path : String) :
    t.objection? s root path = u.objection? s root path := by
  unfold objection?
  rw [h.negativeLength?_eq, h.operator_eq]

theorem erase_condition (h : t.Alike u) (r : Reference) (depth : Nat) :
    (t.condition r depth).erase = (u.condition r depth).erase := by
  have hl : ∀ v w : Value, (literalParam v).erase = (literalParam w).erase := fun v w => rfl
  cases h with
  | compare c v w => rfl
  | pattern p a b => rfl
  | size hm hn => rfl
  | sameSize n => rfl
  | present expected => rfl
  | @member m vs ws hlength =>
    have hmap : (vs.map literalParam).map Param.erase = (ws.map literalParam).map Param.erase := by
      have hconst (xs : List Value) : (xs.map literalParam).map Param.erase =
          List.replicate xs.length (literalParam .null).erase := by
        rw [List.map_map, List.eq_replicate_iff]
        simp [hl _ .null]
      rw [hconst, hconst, hlength]
    cases m with
    | oneOf | noneOf =>
      cases vs with
      | nil =>
        obtain rfl : ws = [] := List.length_eq_zero_iff.mp hlength.symm
        rfl
      | cons v vs =>
        obtain ⟨w, ws, rfl⟩ := List.exists_cons_of_length_eq_add_one hlength.symm
        simp only [condition, Condition.erase, hmap]
    | all =>
      simp only [condition, Condition.erase, Condition.all.injEq]
      clear hmap
      induction vs generalizing ws with
      | nil =>
        obtain rfl : ws = [] := List.length_eq_zero_iff.mp hlength.symm
        rfl
      | cons v vs ih =>
        obtain ⟨w, ws, rfl⟩ := List.exists_cons_of_length_eq_add_one hlength.symm
        simp only [List.map_cons, Condition.eraseList, Condition.erase, hl v w,
          ih (Nat.succ.inj hlength)]

end Test.Alike

namespace Filter

/-- Results that are equal up to values stay so when the same thing is made of both. -/
theorem map_map_congr {α β γ : Type} {d : α → α} {e : β → γ} {g : α → β} (k : α → γ)
    (hk : ∀ a, e (g a) = k (d a)) {x y : Except CompileError α} (h : x.map d = y.map d) :
    (x.map g).map e = (y.map g).map e := by
  cases x <;> cases y <;> simp only [Except.map, reduceCtorEq, Except.error.injEq,
    Except.ok.injEq] at h ⊢
  · exact h
  · rw [hk, hk, h]

theorem AllAlike.length_eq {fs gs : List Filter} (h : AllAlike fs gs) : fs.length = gs.length := by
  match h with
  | .nil => rfl
  | .cons _ hs => rw [List.length_cons, List.length_cons, hs.length_eq]

mutual

/-- Alike filters have the same condition up to its values, or the same first violation. -/
theorem Alike.map_erase_condition (s : Schema) (root : Root) {f g : Filter} (h : f.Alike g) :
    (f.condition s root).map Condition.erase = (g.condition s root).map Condition.erase := by
  match h with
  | .everything => rfl
  | .logical .and hs =>
    simp only [condition]
    exact map_map_congr Condition.all (fun _ => by rw [Condition.erase])
      (hs.map_eraseList_conditions s root)
  | .logical .or hs =>
    simp only [condition]
    exact map_map_congr Condition.any (fun _ => by rw [Condition.erase])
      (hs.map_eraseList_conditions s root)
  | .logical .nor hs =>
    simp only [condition]
    exact map_map_congr Condition.none (fun _ => by rw [Condition.erase])
      (hs.map_eraseList_conditions s root)
  | .logical .not .nil => rfl
  | .logical .not (.cons hf .nil) =>
    simp only [condition]
    exact map_map_congr Condition.not (fun _ => by rw [Condition.erase])
      (hf.map_erase_condition s root)
  | .logical .not (.cons _ (.cons _ hs)) =>
    simp only [condition, List.length_cons, hs.length_eq, Except.map]
  | .test path ht =>
    simp only [condition, ht.objection?_eq, ht.operator_eq]
    split
    · rfl
    · simp only [Except.map, ht.erase_condition]
  | .elemMatch path hf =>
    have ih := hf.map_erase_condition s (.element root.nextDepth)
    simp only [condition]
    split
    · rfl
    · exact map_map_congr (Condition.someElement (s.resolveIn root path) root.nextDepth)
        (fun _ => by rw [Condition.erase]) ih

theorem AllAlike.map_eraseList_conditions (s : Schema) (root : Root) {fs gs : List Filter}
    (h : AllAlike fs gs) :
    (conditions s root fs).map Condition.eraseList =
      (conditions s root gs).map Condition.eraseList := by
  match h with
  | .nil => rfl
  | @AllAlike.cons f g fs gs hf hs =>
    have ihf := hf.map_erase_condition s root
    have ihs := hs.map_eraseList_conditions s root
    simp only [conditions]
    cases hc : f.condition s root <;> cases hd : g.condition s root <;>
      simp only [hc, hd, Except.map, reduceCtorEq, Except.error.injEq, Except.ok.injEq] at ihf
    · simp only [ihf, Except.map]
    · cases hx : conditions s root fs <;> cases hy : conditions s root gs <;>
        simp_all [Except.map, Condition.eraseList]

end

/-- The text of the condition that a filter makes of a root, with the slots of its placeholders. -/
def template (s : Schema) (root : Root) (f : Filter) : Except CompileError (String × List Slot) :=
  (f.condition s root).map fun c => (Sql.text c.tokens, (Sql.params c.tokens).map Param.slot)

theorem template_document (s : Schema) (f : Filter) :
    f.template s .document =
      (f.tokens s).map fun ts => (Sql.text ts, (Sql.params ts).map Param.slot) := by
  unfold template tokens
  cases f.condition s .document <;> rfl

/-- The values of a condition do not show in its template. -/
theorem template_eq_map_erase (s : Schema) (root : Root) (f : Filter) :
    f.template s root = ((f.condition s root).map Condition.erase).map fun c =>
      (Sql.text c.tokens, (Sql.params c.tokens).map Param.slot) := by
  unfold template
  cases f.condition s root with
  | error e => rfl
  | ok c =>
    simp only [Except.map, Condition.tokens_erase, Sql.text_map_erase, Sql.slots_map_erase]

theorem map_sql_compile (s : Schema) (f : Filter) :
    (f.compile s).map Statement.sql = (f.template s .document).map Prod.fst := by
  rw [template_document, compile]
  cases f.tokens s <;> rfl

/-- Alike filters have the same text and the same slots against every root, or fail for the same
reason. -/
theorem template_eq_of_alike (s : Schema) {f g : Filter} (h : f.Alike g) :
    (∀ root, f.template s root = g.template s root) ∧
      (f.compile s).map Statement.sql = (g.compile s).map Statement.sql := by
  have htemplate (root : Root) : f.template s root = g.template s root := by
    rw [template_eq_map_erase, template_eq_map_erase, h.map_erase_condition]
  refine ⟨htemplate, ?_⟩
  rw [map_sql_compile, map_sql_compile, htemplate]

/-- Orders with a total that has a column. -/
def orders : Schema where
  collection := "orders"
  bodyColumn := "data"
  fields := [⟨"total", "$.total", .integer, true, false, true, none⟩]
  indexes := []
  timestamps := false
  cacheable := true

/-- Orders by their total, their note, their items and their tags. -/
def ordersBy (total : Value) (note : String) (a b : Value) (count : Int64) : Filter :=
  .logical .and [.test "total" (.compare .gt total), .test "note" (.pattern .contains note),
    .elemMatch "items" (.logical .or [.test "" (.member .noneOf [a, b]),
      .test "sizes" (.size count)]),
    .test "tags" (.member .all [a, b])]

def plainOrders : Filter := ordersBy (.integer 10) "late" (.text "x") .null 2

/-- The same filter with literals that would be SQL if they were spliced in. -/
def hostileOrders : Filter :=
  ordersBy (.text "0 OR 1=1 --") "'; DROP TABLE orders; --" (.text "?") (.text "') OR ('") 0

theorem template_eq_of_alike_orders :
    plainOrders.Alike hostileOrders ∧
    plainOrders.template orders .document = hostileOrders.template orders .document ∧
    (hostileOrders.template orders .document).toOption.map Prod.snd =
      some [.literal, .innerPattern, .literal, .literal, .length, .literal, .literal] ∧
    (test "total" (.pattern .like "';--")).template orders .document =
      .error (.unsupported "total" (.pattern .like) (.patternOn .integer)) := by
  have hitems : Alike
      (.elemMatch "items" (.logical .or [.test "" (.member .noneOf [.text "x", .null]),
        .test "sizes" (.size 2)]))
      (.elemMatch "items" (.logical .or [.test "" (.member .noneOf [.text "?", .text "') OR ('"]),
        .test "sizes" (.size 0)])) :=
    .elemMatch "items" (.logical .or (.cons (.test "" (.member .noneOf rfl))
      (.cons (.test "sizes" (.size (by decide) (by decide))) .nil)))
  have halike : plainOrders.Alike hostileOrders :=
    .logical .and (.cons (.test "total" (.compare .gt _ _))
      (.cons (.test "note" (.pattern .contains _ _))
        (.cons hitems (.cons (.test "tags" (.member .all rfl)) .nil))))
  have hrefused : (test "total" (.pattern .like "1%")).template orders .document =
      .error (.unsupported "total" (.pattern .like) (.patternOn .integer)) := rfl
  have hpatterns : (test "total" (.pattern .like "';--")).Alike
      (test "total" (.pattern .like "1%")) :=
    .test "total" (.pattern .like _ _)
  exact ⟨halike, (template_eq_of_alike orders halike).1 .document, by decide +kernel,
    ((template_eq_of_alike orders hpatterns).1 .document).trans hrefused⟩

end Filter

end DocumentQuery
