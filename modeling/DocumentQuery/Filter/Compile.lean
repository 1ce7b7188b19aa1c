import DocumentQuery.Filter.Error
import DocumentQuery.Sql.Condition

/-!
# From filters to conditions

`Filter.condition` resolves the fields of a filter, binds its values and checks that every operator
can be used on its field. Types are checked only for declared fields of the document itself; a
negative length is refused everywhere. Of several violations the first one from left to right is
reported, that of a filter on elements before those inside it.
-/

namespace DocumentQuery

open Sql (Condition Param Slot)

/-- Why the type of a field does not admit an operator, if it does not. -/
def FieldType.objection? (type : FieldType) (op : Operator) : Option Unsupported :=
  if op.isPattern && !type.isTextual then some (.patternOn type)
  else if op.isArray && !type.isTextual then some (.arrayOn type)
  else if op.isOrdering && !type.isOrdered then some (.orderOn type)
  else none

/-- Why the field does not admit an operator, if it does not. -/
def Schema.objection? (s : Schema) (root : Root) (path : String) (op : Operator) :
    Option Unsupported :=
  match root with
  | .document =>
    match s.field? path with
    | some f => f.type.objection? op
    | none => none
  | .element _ => none

/-- The length that a test asks for, if it is negative. -/
def Test.negativeLength? : Test → Option Int64
  | .size n => if n < 0 then some n else none
  | _ => none

/-- Why the test cannot be made, if it cannot. -/
def Test.objection? (s : Schema) (root : Root) (path : String) (t : Test) : Option Unsupported :=
  match t.negativeLength? with
  | some n => some (.negativeLength n)
  | none => s.objection? root path t.operator

def Pattern.slot : Pattern → Slot
  | .like => .literal
  | .startsWith => .startPattern
  | .endsWith => .endPattern
  | .contains => .innerPattern
  | .ilike => .literal

/-- A text with the wildcards of a slot around it. -/
def slotPattern (slot : Slot) (s : String) : String :=
  match slot with
  | .startPattern => s ++ "%"
  | .endPattern => "%" ++ s
  | .innerPattern => "%" ++ s ++ "%"
  | _ => s

def literalParam (v : Value) : Param := ⟨.literal, v⟩

def patternParam (p : Pattern) (s : String) : Param := ⟨p.slot, .text (slotPattern p.slot s)⟩

/-- The condition that a test makes of a field. To have all of several values is to have, for each
of them, some element that equals it. -/
def Test.condition (r : Reference) (depth : Nat) : Test → Condition
  | .compare c v => .compare r c (literalParam v)
  | .member .oneOf [] => .constant false
  | .member .oneOf vs => .among r false (vs.map literalParam)
  | .member .noneOf [] => .constant true
  | .member .noneOf vs => .among r true (vs.map literalParam)
  | .member .all vs =>
    .all (vs.map fun v => .someElement r depth (.compare (.element depth) .eq (literalParam v)))
  | .pattern p s => .like r (patternParam p s) (p == .ilike)
  | .size n => .lengthIs r ⟨.length, .integer n⟩
  | .present expected => .present r expected

namespace Filter

mutual

/-- The condition that a filter makes of a root, or the first violation in it. -/
def condition (s : Schema) (root : Root) : Filter → Except CompileError Condition
  | .everything => .ok (.constant true)
  | .logical .and operands => (conditions s root operands).map .all
  | .logical .or operands => (conditions s root operands).map .any
  | .logical .nor operands => (conditions s root operands).map .none
  | .logical .not [operand] => (condition s root operand).map .not
  | .logical .not operands => .error (.negationArity operands.length)
  | .test path t =>
    match t.objection? s root path with
    | some reason => .error (.unsupported path t.operator reason)
    | none => .ok (t.condition (s.resolveIn root path) root.nextDepth)
  | .elemMatch path inner =>
    match s.objection? root path .elemMatch with
    | some reason => .error (.unsupported path .elemMatch reason)
    | none =>
      (condition s (.element root.nextDepth) inner).map
        (.someElement (s.resolveIn root path) root.nextDepth)

/-- The condition of each filter, or the first violation in them. -/
def conditions (s : Schema) (root : Root) : List Filter → Except CompileError (List Condition)
  | [] => .ok []
  | f :: rest =>
    match condition s root f with
    | .error e => .error e
    | .ok c => (conditions s root rest).map (c :: ·)

end

def tokens (s : Schema) (f : Filter) : Except CompileError (List Sql.Token) :=
  (f.condition s .document).map Condition.tokens

/-- The statement of the condition that a filter makes of documents. -/
def compile (s : Schema) (f : Filter) : Except CompileError Sql.Statement :=
  (f.tokens s).map Sql.Statement.ofTokens

end Filter

end DocumentQuery
