import DocumentQuery.Proofs.Checks
import DocumentQuery.Proofs.Filter.Visits

/-!
# Filters that cannot be compiled

What is wrong with a filter is read off its parts one by one, without compiling it: a negation of
several operands or of none, a negative size, and outside of arrays an operator on a declared field
whose type it does not fit. A filter compiles exactly if nothing is wrong with it, and otherwise its
error is that of the first thing that is wrong.
-/

namespace DocumentQuery

/-- What is wrong at some part of a filter. -/
inductive Violation
  /-- A negation with another number of operands than one. -/
  | operandCount (count : Nat)
  | negativeSize (path : String) (n : Int64)
  /-- An operator on a declared field of a type that it does not fit. -/
  | wrongType (path : String) (op : Operator) (type : FieldType)
  deriving DecidableEq, Repr

/-- The error that reports a violation. -/
def Violation.error : Violation → CompileError
  | .operandCount count => .negationArity count
  | .negativeSize path n => .unsupported path .size (.negativeLength n)
  | .wrongType path op type =>
    .unsupported path op
      (if op.isPattern then .patternOn type else if op.isArray then .arrayOn type
        else .orderOn type)

/-- Whether the operator can be used on fields of the type: patterns and arrays need a text, and an
order needs values that have one. -/
def Operator.fits (op : Operator) (type : FieldType) : Bool :=
  !((op.isPattern || op.isArray) && type != .text ||
    op.isOrdering && (type == .boolean || type == .blob))

/-- What is wrong with an operator on a field; inside arrays and on undeclared fields, nothing
is. -/
def typeViolations (s : Schema) (depth : Nat) (path : String) (op : Operator) : List Violation :=
  match depth, s.field? path with
  | 0, some f => if op.fits f.type then [] else [.wrongType path op f.type]
  | _, _ => []

/-- What is wrong with a part of a filter at some depth, apart from the parts that it is made of. -/
def violationsAt (s : Schema) : Nat × Filter → List Violation
  | (_, .everything) => []
  | (_, .logical .not operands) =>
    if operands.length = 1 then [] else [.operandCount operands.length]
  | (_, .logical _ _) => []
  | (depth, .test path (.size n)) =>
    (if n < 0 then [.negativeSize path n] else []) ++ typeViolations s depth path .size
  | (depth, .test path t) => typeViolations s depth path t.operator
  | (depth, .elemMatch path _) => typeViolations s depth path .elemMatch

/-- Everything that is wrong with a filter, from left to right. -/
def Filter.violations (s : Schema) (f : Filter) : List Violation :=
  (f.visits 0).flatMap (violationsAt s)

/-- The error of the first of several violations. -/
def firstError (vs : List Violation) : Option CompileError := vs.head?.map Violation.error

@[simp] theorem firstError_nil : firstError [] = none := rfl

theorem firstError_append (vs ws : List Violation) :
    firstError (vs ++ ws) = (firstError vs).or (firstError ws) := by
  cases vs <;> rfl

theorem firstError_eq_none {vs : List Violation} : firstError vs = none ↔ vs = [] := by
  cases vs <;> simp [firstError]

theorem FieldType.objection?_eq (type : FieldType) (op : Operator) (path : String) :
    (type.objection? op).map (CompileError.unsupported path op) =
      firstError (if op.fits type then [] else [.wrongType path op type]) := by
  rcases op with c | m | p | _ | _ | _
  · cases c <;> cases type <;> rfl
  · cases m <;> cases type <;> rfl
  · cases p <;> cases type <;> rfl
  all_goals cases type <;> rfl

variable (s : Schema)

theorem Schema.objection?_eq (depth : Nat) (path : String) (op : Operator) :
    (s.objection? (.ofDepth depth) path op).map (CompileError.unsupported path op) =
      firstError (typeViolations s depth path op) := by
  cases depth with
  | succ depth => rfl
  | zero =>
    simp only [Root.ofDepth, objection?, typeViolations]
    cases s.field? path with
    | none => rfl
    | some f => exact f.type.objection?_eq op path

theorem Test.objection?_eq (depth : Nat) (path : String) (t : Test) :
    (t.objection? s (.ofDepth depth) path).map (CompileError.unsupported path t.operator) =
      firstError (violationsAt s (depth, .test path t)) := by
  cases t with
  | size n =>
    simp only [objection?, negativeLength?, violationsAt]
    by_cases hn : n < 0
    · rw [if_pos hn, if_pos hn]
      rfl
    · rw [if_neg hn, if_neg hn]
      exact s.objection?_eq depth path .size
  | compare c v => exact s.objection?_eq depth path (.compare c)
  | member m vs => exact s.objection?_eq depth path (.member m)
  | pattern p text => exact s.objection?_eq depth path (.pattern p)
  | present expected => exact s.objection?_eq depth path .present

namespace Filter

theorem errorOf_conditions_cons (root : Root) (f : Filter) (rest : List Filter) :
    errorOf (conditions s root (f :: rest)) =
      (errorOf (f.condition s root)).or (errorOf (conditions s root rest)) := by
  rw [conditions]
  cases f.condition s root with
  | error e => rfl
  | ok c => exact errorOf_map _ _

mutual

/-- A filter fails with the error of the first thing that is wrong with it. -/
theorem errorOf_condition (depth : Nat) (f : Filter) :
    errorOf (f.condition s (.ofDepth depth)) =
      firstError ((f.visits depth).flatMap (violationsAt s)) := by
  match f with
  | .everything => rfl
  | .logical .and operands | .logical .or operands | .logical .nor operands =>
    rw [condition, errorOf_map, errorOf_conditions depth operands]
    rfl
  | .logical .not [operand] =>
    rw [condition, errorOf_map, errorOf_condition depth operand, visits, visitsOfList, visitsOfList,
      List.append_nil]
    rfl
  | .logical .not [] | .logical .not (_ :: _ :: _) => rfl
  | .test path t =>
    have ht := t.objection?_eq s depth path
    rw [visits, List.flatMap_singleton, ← ht, condition]
    cases t.objection? s (.ofDepth depth) path <;> rfl
  | .elemMatch path inner =>
    have hpath := s.objection?_eq depth path .elemMatch
    have hinner := errorOf_condition (depth + 1) inner
    rw [visits, List.flatMap_cons, firstError_append, violationsAt, ← hpath, ← hinner, condition,
      Root.nextDepth_ofDepth]
    cases s.objection? (.ofDepth depth) path .elemMatch with
    | some reason => rfl
    | none => exact errorOf_map _ _

theorem errorOf_conditions (depth : Nat) (fs : List Filter) :
    errorOf (conditions s (.ofDepth depth) fs) =
      firstError ((visitsOfList depth fs).flatMap (violationsAt s)) := by
  match fs with
  | [] => rfl
  | f :: rest =>
    rw [errorOf_conditions_cons, errorOf_condition depth f, errorOf_conditions depth rest,
      visitsOfList, List.flatMap_append, firstError_append]

end

/-- A filter compiles exactly if nothing is wrong with it, and otherwise its error is that of the
first thing that is wrong. -/
theorem compile_eq_error_iff (f : Filter) :
    ((∃ q, f.compile s = .ok q) ↔ f.violations s = []) ∧
    ∀ e, f.compile s = .error e ↔ (f.violations s).head?.map Violation.error = some e := by
  have herror : errorOf (f.compile s) = firstError (f.violations s) := by
    rw [compile, tokens, errorOf_map, errorOf_map]
    exact errorOf_condition s 0 f
  constructor
  · rw [← errorOf_eq_none, herror, firstError_eq_none]
  · intro e
    rw [← errorOf_eq_some, herror, firstError]

end Filter

end DocumentQuery
