import DocumentQuery.Proofs.Filter.Compiled
import DocumentQuery.Proofs.Sql.Rewriting

/-!
# The names that filters read

A filter reads names against the document and, inside an array, against its elements. The condition
that it makes is written with the references of these names and with the elements themselves, so
that a filter has conditions of the same build under two schemas that differ in their references
only.
-/

namespace DocumentQuery

open Sql (Condition Token Keeps)

namespace Filter

mutual

/-- The names that a filter reads, each with the root that it is read against. -/
def reads (root : Root) : Filter → List (Root × String)
  | .everything => []
  | .logical _ operands => readsOfList root operands
  | .test path _ => [(root, path)]
  | .elemMatch path inner => (root, path) :: inner.reads (.element root.nextDepth)

def readsOfList (root : Root) : List Filter → List (Root × String)
  | [] => []
  | f :: rest => f.reads root ++ readsOfList root rest

end

end Filter

theorem Test.references_condition (t : Test) (r : Reference) (depth : Nat) :
    ∀ r' ∈ (t.condition r depth).references, r' = r ∨ r' = .element depth := by
  cases t with
  | compare c v => simp [condition, Condition.references]
  | pattern p s => simp [condition, Condition.references]
  | size n => simp [condition, Condition.references]
  | present expected => simp [condition, Condition.references]
  | member m vs =>
    cases m with
    | oneOf | noneOf => cases vs <;> simp [condition, Condition.references]
    | all =>
      simp only [condition, Condition.references]
      induction vs with
      | nil => simp [Condition.referencesOfList]
      | cons v rest ih =>
        intro r' hr
        simp only [List.map_cons, Condition.referencesOfList, Condition.references,
          List.cons_append, List.nil_append, List.mem_cons] at hr
        rcases hr with rfl | rfl | hr
        · exact .inl rfl
        · exact .inr rfl
        · exact ih r' hr

theorem Connective.references_of_join? {k : Connective} {cs : List Condition} {c : Condition}
    (h : k.join? cs = some c) : c.references = Condition.referencesOfList cs := by
  have hnot (d : Condition) : (Condition.not d).references = Condition.referencesOfList [d] := by
    simp [Condition.references, Condition.referencesOfList]
  exact eq_of_join? (fun _ => rfl) (fun _ => rfl) (fun _ => rfl) hnot h

/-- A condition is written with the references of the names that its filter reads, and with
elements. -/
theorem Filter.references_condition {s : Schema} {root : Root} {f : Filter} {c : Condition}
    (h : f.condition s root = .ok c) :
    ∀ r ∈ c.references, (∃ p ∈ f.reads root, r = s.resolveIn p.1 p.2) ∨
      ∃ depth, r = .element depth := by
  have step : Inductive s
      (fun root f c => ∀ r ∈ c.references,
        (∃ p ∈ f.reads root, r = s.resolveIn p.1 p.2) ∨ ∃ depth, r = .element depth)
      (fun root fs cs => ∀ r ∈ Condition.referencesOfList cs,
        (∃ p ∈ readsOfList root fs, r = s.resolveIn p.1 p.2) ∨ ∃ depth, r = .element depth) := {
    everything := fun _ r hr => by simp [Condition.references] at hr
    logical := fun root k fs cs c hcs hj r hr => hcs r (Connective.references_of_join? hj ▸ hr)
    test := fun root path t _ r hr => by
      rcases t.references_condition _ _ r hr with rfl | rfl
      · exact .inl ⟨(root, path), List.mem_singleton_self _, rfl⟩
      · exact .inr ⟨_, rfl⟩
    elemMatch := fun root path inner c hc r hr => by
      rcases List.mem_cons.mp hr with rfl | hr
      · exact .inl ⟨(root, path), List.mem_cons_self, rfl⟩
      · exact (hc r hr).imp_left fun ⟨p, hp, he⟩ => ⟨p, List.mem_cons_of_mem _ hp, he⟩
    nil := fun _ r hr => by simp [Condition.referencesOfList] at hr
    cons := fun root f fs c cs hc hcs r hr => by
      rcases List.mem_append.mp hr with hr | hr
      · exact (hc r hr).imp_left fun ⟨p, hp, he⟩ => ⟨p, List.mem_append_left _ hp, he⟩
      · exact (hcs r hr).imp_left fun ⟨p, hp, he⟩ => ⟨p, List.mem_append_right _ hp, he⟩ }
  exact step.holds root f h

/-- What a name is under the second schema is what the function makes of it under the first, and
operators are refused for the same reasons. -/
structure Schema.Translates (g : Reference → Reference) (s t : Schema) : Prop where
  bodyColumn : t.bodyColumn = s.bodyColumn
  objection? : ∀ root path op, t.objection? root path op = s.objection? root path op
  resolveIn : ∀ root path, t.resolveIn root path = g (s.resolveIn root path)
  element : ∀ depth, g (.element depth) = .element depth

namespace Schema.Translates

variable {g : Reference → Reference} {s t : Schema}

theorem condition_test (h : Translates g s t) (u : Test) (r : Reference) (depth : Nat) :
    u.condition (g r) depth = (u.condition r depth).map g id := by
  cases u with
  | compare c v => rfl
  | pattern p s => rfl
  | size n => rfl
  | present expected => rfl
  | member m vs =>
    cases m with
    | oneOf | noneOf => cases vs <;> simp [Test.condition, Condition.map]
    | all =>
      simp only [Test.condition, Condition.map, Condition.all.injEq]
      induction vs with
      | nil => rfl
      | cons v rest ih =>
        simp only [List.map_cons, Condition.mapList, Condition.map, h.element, id, ih]

theorem testObjection? (h : Translates g s t) (root : Root) (path : String) (u : Test) :
    u.objection? t root path = u.objection? s root path := by
  simp only [Test.objection?, h.objection?]

mutual

/-- A filter makes the same condition under the second schema but for its references, or has the
same first violation. -/
theorem condition_eq (h : Translates g s t) (root : Root) (f : Filter) :
    f.condition t root = (f.condition s root).map (Condition.map g id) := by
  match f with
  | .everything => rfl
  | .logical .and operands | .logical .or operands | .logical .nor operands =>
    simp only [Filter.condition, h.conditions_eq root operands]
    cases Filter.conditions s root operands <;> simp only [Except.map, Condition.map]
  | .logical .not [operand] =>
    simp only [Filter.condition, h.condition_eq root operand]
    cases operand.condition s root <;> simp only [Except.map, Condition.map]
  | .logical .not [] | .logical .not (_ :: _ :: _) => rfl
  | .test path u =>
    simp only [Filter.condition, h.testObjection?, h.resolveIn, h.condition_test]
    split <;> rfl
  | .elemMatch path inner =>
    simp only [Filter.condition, h.objection?, h.resolveIn,
      h.condition_eq (.element root.nextDepth) inner]
    split
    · rfl
    · cases inner.condition s (.element root.nextDepth) <;> simp only [Except.map, Condition.map]

theorem conditions_eq (h : Translates g s t) (root : Root) (fs : List Filter) :
    Filter.conditions t root fs = (Filter.conditions s root fs).map (Condition.mapList g id) := by
  match fs with
  | [] => rfl
  | f :: rest =>
    simp only [Filter.conditions, h.condition_eq root f, h.conditions_eq root rest]
    cases f.condition s root with
    | error e => rfl
    | ok c => cases Filter.conditions s root rest <;> simp only [Except.map, Condition.mapList]

end

theorem condition_eq_of_id {s t : Schema} (h : Translates id s t) (root : Root) (f : Filter) :
    f.condition t root = f.condition s root := by
  rw [h.condition_eq root f]
  cases f.condition s root with
  | error e => rfl
  | ok c => rw [Except.map, Condition.map_id]

end Schema.Translates

end DocumentQuery
