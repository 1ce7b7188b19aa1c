import DocumentQuery.Proofs.Checks
import DocumentQuery.Proofs.Filter.Values
import DocumentQuery.Proofs.Filter.Visits

/-!
# Reading the values of a filter

The values of a filter can be read without a schema. What is read is what the filter binds when it
is compiled, in the same order and for the same slots, and it is read from every filter but those
that ask for a negative length: these are refused with the first such length from left to right, and
they do not compile either.
-/

namespace DocumentQuery

open Sql (Param)

/-- The negative length that is asked for at a part of a filter, with the path of the array. -/
def negativeLengthAt : Nat × Filter → Option (String × Int64)
  | (_, .test path (.size n)) => if n < 0 then some (path, n) else none
  | _ => none

/-- The error that reports a negative length. -/
def lengthError (v : String × Int64) : CompileError := .unsupported v.1 .size (.negativeLength v.2)

theorem negativeLengthAt_eq_some_iff {depth : Nat} {part : Filter} {path : String} {n : Int64} :
    negativeLengthAt (depth, part) = some (path, n) ↔ n < 0 ∧ part = .test path (.size n) := by
  match part with
  | .test other (.size m) =>
    by_cases hm : m < 0
    · simp only [negativeLengthAt, if_pos hm, Option.some.injEq, Prod.mk.injEq, Filter.test.injEq,
        Test.size.injEq]
      constructor
      · rintro ⟨rfl, rfl⟩
        exact ⟨hm, rfl, rfl⟩
      · exact fun h => h.2
    · simp only [negativeLengthAt, if_neg hm, reduceCtorEq, false_iff, Filter.test.injEq,
        Test.size.injEq]
      rintro ⟨hn, rfl, rfl⟩
      exact hm hn
  | .everything | .logical _ _ | .elemMatch _ _ | .test _ (.compare _ _) | .test _ (.member _ _)
  | .test _ (.pattern _ _) | .test _ (.present _) => simp [negativeLengthAt]

theorem errorOf_literals_test (depth : Nat) (path : String) (t : Test) :
    errorOf (Filter.test path t).literals = (negativeLengthAt (depth, .test path t)).map
      lengthError := by
  cases t with
  | size n =>
    unfold Filter.literals Test.negativeLength? negativeLengthAt
    by_cases hn : n < 0
    · simp only [if_pos hn]
      rfl
    · simp only [if_neg hn]
      rfl
  | compare c v => rfl
  | member m vs => rfl
  | pattern p s => rfl
  | present expected => rfl

namespace Filter

/-- The negative lengths in a filter from left to right, those on elements at the place of the
array. -/
def negativeLengths (f : Filter) : List (String × Int64) := (f.visits 0).filterMap negativeLengthAt

theorem errorOf_literalsOfList_cons (f : Filter) (rest : List Filter) :
    errorOf (literalsOfList (f :: rest)) =
      (errorOf f.literals).or (errorOf (literalsOfList rest)) := by
  rw [literalsOfList]
  cases f.literals with
  | error e => rfl
  | ok ps => exact errorOf_map _ _

mutual

/-- The values of a filter cannot be read exactly if there is a negative length, and the first is
reported. -/
theorem errorOf_literals (depth : Nat) (f : Filter) :
    errorOf f.literals = (((f.visits depth).filterMap negativeLengthAt).head?).map lengthError := by
  match f with
  | .everything => rfl
  | .logical c operands =>
    rw [literals, visits, List.filterMap_cons_none rfl, errorOf_literalsOfList depth operands]
  | .test path t =>
    rw [errorOf_literals_test depth, visits]
    cases h : negativeLengthAt (depth, .test path t) <;> simp [h]
  | .elemMatch path inner =>
    rw [literals, visits, List.filterMap_cons_none rfl, errorOf_literals (depth + 1) inner]

theorem errorOf_literalsOfList (depth : Nat) (fs : List Filter) :
    errorOf (literalsOfList fs) = (((visitsOfList depth fs).filterMap negativeLengthAt).head?).map
      lengthError := by
  match fs with
  | [] => rfl
  | f :: rest =>
    rw [errorOf_literalsOfList_cons, errorOf_literals depth f, errorOf_literalsOfList depth rest,
      visitsOfList, List.filterMap_append, List.head?_append, Option.map_or]

end

theorem mem_negativeLengths {f : Filter} {path : String} {n : Int64} :
    (path, n) ∈ f.negativeLengths ↔
      n < 0 ∧ ∃ depth, (depth, .test path (.size n)) ∈ f.visits 0 := by
  simp only [negativeLengths, List.mem_filterMap, Prod.exists, negativeLengthAt_eq_some_iff]
  constructor
  · rintro ⟨depth, part, hmem, hn, rfl⟩
    exact ⟨hn, depth, hmem⟩
  · rintro ⟨hn, depth, hmem⟩
    exact ⟨depth, _, hmem, hn, rfl⟩

theorem literals_of_tokens {s : Schema} {f : Filter} {ts : List Sql.Token}
    (h : f.tokens s = .ok ts) :
    f.literals = .ok (Sql.params ts) := by
  cases hc : f.condition s .document with
  | error e => simp [tokens, hc, Except.map] at h
  | ok c =>
    simp only [tokens, hc, Except.map, Except.ok.injEq] at h
    rw [literals_of_condition hc, ← h, Sql.Condition.params_tokens]

theorem literals_eq_error_iff {f : Filter} {e : CompileError} : f.literals = .error e ↔ ∃ path n,
    f.negativeLengths.head? = some (path, n) ∧ e = .unsupported path .size (.negativeLength n) := by
  rw [← errorOf_eq_some, errorOf_literals 0 f, Option.map_eq_some_iff]
  simp only [Prod.exists, lengthError, eq_comm, negativeLengths]

theorem exists_literals_error_iff {f : Filter} :
    (∃ e, f.literals = .error e) ↔ ∃ path n, (path, n) ∈ f.negativeLengths := by
  simp only [literals_eq_error_iff]
  constructor
  · rintro ⟨-, path, n, hfirst, -⟩
    exact ⟨path, n, List.mem_of_head? hfirst⟩
  · rintro ⟨path, n, hmem⟩
    have hfirst := List.head?_eq_some_head (List.ne_nil_of_mem hmem)
    exact ⟨_, _, _, hfirst, rfl⟩

/-- The tokens of a filter have the parameters that are read from it, with their slots and in their
order. The parameters cannot be read exactly if some length in the filter is negative, and the first
one is reported; then the filter has no tokens either. -/
theorem literals_eq_params (s : Schema) (f : Filter) :
    (∀ ts, f.tokens s = .ok ts → f.literals = .ok (Sql.params ts)) ∧
    ((∃ e, f.literals = .error e) ↔
      ∃ path n, n < 0 ∧ ∃ depth, (depth, .test path (.size n)) ∈ f.visits 0) ∧
    (∀ e, f.literals = .error e ↔
      ∃ path n, f.negativeLengths.head? = some (path, n) ∧
        e = .unsupported path .size (.negativeLength n)) ∧
    ((∃ e, f.literals = .error e) → ∃ e, f.tokens s = .error e) := by
  refine ⟨fun ts => literals_of_tokens, ?_, fun e => literals_eq_error_iff, ?_⟩
  · simp only [exists_literals_error_iff, mem_negativeLengths]
  · rintro ⟨e, he⟩
    cases hts : f.tokens s with
    | error e => exact ⟨e, rfl⟩
    | ok ts =>
      have hread := literals_of_tokens hts
      rw [he] at hread
      cases hread

def plainOrderParams : List Param :=
  [⟨.literal, .integer 10⟩, ⟨.innerPattern, .text "%late%"⟩, ⟨.literal, .text "x"⟩,
    ⟨.literal, .null⟩,
    ⟨.length, .integer 2⟩, ⟨.literal, .text "x"⟩, ⟨.literal, .null⟩]

/-- Orders whose number of sizes or of tags is negative. -/
def negativeOrders : Filter :=
  .logical .nor [ordersBy (.integer 10) "late" (.text "x") .null (-1), .test "tags" (.size (-2))]

theorem literals_eq_params_orders :
    (∃ ts, plainOrders.tokens orders = .ok ts ∧ plainOrders.literals = .ok (Sql.params ts) ∧
      Sql.params ts = plainOrderParams) ∧
    negativeOrders.negativeLengths = [("sizes", -1), ("tags", -2)] ∧
    negativeOrders.literals = .error (.unsupported "sizes" .size (.negativeLength (-1))) ∧
    ∃ e, negativeOrders.tokens orders = .error e := by
  have hok : ∃ ts, plainOrders.tokens orders = .ok ts := errorOf_eq_none.mp (by decide +kernel)
  have hread : plainOrders.literals = .ok plainOrderParams := rfl
  have hlengths : negativeOrders.negativeLengths = [("sizes", -1), ("tags", -2)] := by
    decide +kernel
  obtain ⟨ts, hts⟩ := hok
  have hparams := (literals_eq_params orders plainOrders).1 ts hts
  obtain ⟨-, -, herror, hfails⟩ := literals_eq_params orders negativeOrders
  have hfirst := (herror _).mpr ⟨"sizes", -1, by rw [hlengths]; rfl, rfl⟩
  refine ⟨⟨ts, hts, hparams, ?_⟩, hlengths, hfirst, hfails ⟨_, hfirst⟩⟩
  rw [hread] at hparams
  exact (Except.ok.inj hparams).symm

end Filter

end DocumentQuery
