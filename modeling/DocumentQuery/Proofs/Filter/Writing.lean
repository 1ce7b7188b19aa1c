import DocumentQuery.Filter.Compile
import DocumentQuery.Proofs.Filter.Reading
import DocumentQuery.Proofs.Json.Literals

/-!
# Filters that JSON can write

Every filter that is read from JSON has one operand under each negation, no field with the name of
an operator, and literals that JSON can write. Every such filter is read from some JSON:
`Filter.toJson` writes each node as an object with a single member, so that nothing is merged or
collapsed when it is read back.
-/

namespace DocumentQuery

namespace Test

/-- Whether the literals of the test can be written in JSON. -/
def Writable : Test → Prop
  | .compare _ v => v.Writable
  | .member _ vs => ∀ v ∈ vs, v.Writable
  | .pattern _ _ | .size _ | .present _ => True

/-- The operand of the operator of a test. -/
def operandJson : Test → Json
  | .compare _ v => v.toJson
  | .member _ vs => .array (vs.map Value.toJson)
  | .pattern _ s => .string s
  | .size n => Value.integerJson n
  | .present expected => .bool expected

theorem testOfJson_operandJson {t : Test} (h : t.Writable) (field : String) :
    Filter.testOfJson field t.operator t.operandJson = .ok t := by
  cases t with
  | compare c v =>
    have hv : v.Writable := h
    simp only [operator, operandJson, Filter.testOfJson, Value.ofJson_toJson hv]
  | member m vs =>
    simp only [operator, operandJson, Filter.testOfJson, Json.asArray?, Value.map_ofJson_toJson h]
  | pattern p s => rfl
  | size n => simp only [operator, operandJson, Filter.testOfJson, Value.asInt64?_integerJson]
  | present expected => rfl

theorem distinctNames_operandJson {t : Test} (h : t.Writable) : t.operandJson.DistinctNames := by
  cases t with
  | compare c v => exact Value.distinctNames_toJson h
  | member m vs =>
    apply Json.distinctNamesOfItems_iff.mpr
    intro item hi
    obtain ⟨v, hv, rfl⟩ := List.mem_map.mp hi
    exact Value.distinctNames_toJson (h v hv)
  | pattern | size | present => trivial

theorem writable_of_testOfJson {field : String} {op : Operator} {operand : Json} {t : Test}
    (hj : operand.DistinctNames) (h : Filter.testOfJson field op operand = .ok t) : t.Writable := by
  cases op with
  | compare c =>
    simp only [Filter.testOfJson, Except.ok.injEq] at h
    exact h ▸ Value.writable_ofJson hj
  | member m =>
    cases operand with
    | array items =>
      simp only [Filter.testOfJson, Json.asArray?, Except.ok.injEq] at h
      subst h
      intro v hv
      obtain ⟨item, hi, rfl⟩ := List.mem_map.mp hv
      exact Value.writable_ofJson (Json.distinctNamesOfItems_iff.mp hj item hi)
    | null | bool | number | string | object =>
      simp [Filter.testOfJson, Json.asArray?, Filter.wrongOperand] at h
  | pattern p =>
    cases hs : operand.asString? <;> simp [Filter.testOfJson, hs, Filter.wrongOperand] at h
    exact h ▸ trivial
  | size =>
    cases hn : operand.asInt64? <;> simp [Filter.testOfJson, hn, Filter.wrongOperand] at h
    exact h ▸ trivial
  | present =>
    cases hb : operand.asBool? <;> simp [Filter.testOfJson, hb, Filter.wrongOperand] at h
    exact h ▸ trivial
  | elemMatch => simp [Filter.testOfJson, Filter.wrongOperand] at h

end Test

/-- The operands of a connective: the only one of a negation, else the list of all. -/
def Connective.operandsJson : Connective → List Json → Json
  | .not, [operand] => operand
  | _, operands => .array operands

namespace Filter

mutual

/-- Whether the filter can be written in JSON. -/
def Writable : Filter → Prop
  | .everything => True
  | .logical k operands => (k = .not → operands.length = 1) ∧ AllWritable operands
  | .test path t => path.toList.head? ≠ some '$' ∧ t.Writable
  | .elemMatch path inner => path.toList.head? ≠ some '$' ∧ inner.Writable

def AllWritable : List Filter → Prop
  | [] => True
  | f :: rest => f.Writable ∧ AllWritable rest

end

mutual

/-- The filter in JSON, one object with one member for each of its nodes. -/
def toJson : Filter → Json
  | .everything => .object []
  | .logical k operands => .object [(k.spelling, k.operandsJson (toJsonOfList operands))]
  | .test path t => .object [(path, .object [(t.operator.spelling, t.operandJson)])]
  | .elemMatch path inner => .object [(path, .object [("$elemMatch", inner.toJson)])]

def toJsonOfList : List Filter → List Json
  | [] => []
  | f :: rest => f.toJson :: toJsonOfList rest

end

theorem isOperatorName_eq_false {name : String} :
    isOperatorName name = false ↔ name.toList.head? ≠ some '$' := by
  rw [isOperatorName, beq_eq_false_iff_ne]

theorem isConnectiveName_spelling (k : Connective) : isConnectiveName k.spelling = true := by
  cases k <;> decide

/-- What is written for a filter is not taken for operators on an element. -/
theorem toJson_eq_object {f : Filter} (h : f.Writable) :
    ∃ members, f.toJson = .object members ∧ areElementOperators members = false := by
  have hfield {path : String} (hp : path.toList.head? ≠ some '$') (value : Json) :
      areElementOperators [(path, value)] = false := by
    simp [areElementOperators, areOperators, isOperatorName_eq_false.mpr hp]
  cases f with
  | everything => exact ⟨[], rfl, rfl⟩
  | logical k operands =>
    refine ⟨_, rfl, ?_⟩
    simp [areElementOperators, isConnectiveName_spelling k]
  | test path t => exact ⟨_, rfl, hfield h.1 _⟩
  | elemMatch path inner => exact ⟨_, rfl, hfield h.1 _⟩

mutual

/-- A filter that JSON can write is read back from what is written for it. -/
theorem ofJson_toJson (f : Filter) (h : f.Writable) : ofJson f.toJson = .ok f := by
  match f with
  | .everything => rfl
  | .logical k operands =>
    obtain ⟨hone, hall⟩ := h
    have hitems := ofItems_toJsonOfList operands hall
    rw [toJson, ofJson_single_ok_iff]
    by_cases hk : k = .not
    · obtain ⟨g, rfl⟩ := List.length_eq_one_iff.mp (hone hk)
      obtain ⟨g', gs, hg, -, hgs⟩ := ofItems_cons_ok_iff.mp hitems
      obtain ⟨rfl, -⟩ := List.cons.inj hgs
      subst hk
      exact .negation hg
    · have hlist : k.operandsJson (toJsonOfList operands) = .array (toJsonOfList operands) := by
        cases k <;> first | rfl | exact absurd rfl hk
      rw [hlist]
      exact .connective hk hitems
  | .test path t =>
    rw [toJson, ofJson_single_ok_iff]
    apply ReadsMember.field (isOperatorName_eq_false.mpr h.1)
    rw [fieldOfJson_single_ok_iff t.operator.isOperatorName_spelling]
    exact .test (Test.testOfJson_operandJson h.2 path)
  | .elemMatch path inner =>
    have hinner := ofJson_toJson inner h.2
    obtain ⟨members, hmembers, hops⟩ := toJson_eq_object h.2
    rw [hmembers, ofJson, map_eq_ok] at hinner
    obtain ⟨fs, hfs, hf⟩ := hinner
    rw [toJson, ofJson_single_ok_iff]
    apply ReadsMember.field (isOperatorName_eq_false.mpr h.1)
    rw [fieldOfJson_single_ok_iff (by decide), hmembers, ← hf]
    exact .elementFilter hops hfs

theorem ofItems_toJsonOfList (fs : List Filter) (h : AllWritable fs) :
    ofItems (toJsonOfList fs) = .ok fs := by
  match fs with
  | [] => rfl
  | f :: rest =>
    exact ofItems_cons_ok_iff.mpr
      ⟨f, rest, ofJson_toJson f h.1, ofItems_toJsonOfList rest h.2, rfl⟩

end

mutual

theorem distinctNames_toJson (f : Filter) (h : f.Writable) : f.toJson.DistinctNames := by
  match f with
  | .everything => exact ⟨List.nodup_nil, trivial⟩
  | .logical k operands =>
    have hitems := distinctNames_toJsonOfList operands h.2
    rw [toJson, Json.distinctNames_single, Connective.operandsJson.eq_def]
    split
    · next heq =>
      rw [heq] at hitems
      exact hitems.1
    · exact hitems
  | .test path t =>
    rw [toJson, Json.distinctNames_single, Json.distinctNames_single]
    exact Test.distinctNames_operandJson h.2
  | .elemMatch path inner =>
    rw [toJson, Json.distinctNames_single, Json.distinctNames_single]
    exact distinctNames_toJson inner h.2

theorem distinctNames_toJsonOfList (fs : List Filter) (h : AllWritable fs) :
    Json.DistinctNamesOfItems (toJsonOfList fs) := by
  match fs with
  | [] => trivial
  | f :: rest => exact ⟨distinctNames_toJson f h.1, distinctNames_toJsonOfList rest h.2⟩

end

theorem writable_conjunction {fs : List Filter} (h : AllWritable fs) :
    (conjunction fs).Writable := by
  match fs with
  | [] => trivial
  | [f] => exact h.1
  | f :: g :: rest =>
    have hk : Connective.and = .not → (f :: g :: rest).length = 1 := fun hk => nomatch hk
    exact ⟨hk, h⟩

theorem writable_negation {f : Filter} (h : f.Writable) : (logical .not [f]).Writable :=
  ⟨fun _ => rfl, h, trivial⟩

mutual

theorem writable_ofJson (j : Json) {f : Filter} (hj : j.DistinctNames) (h : ofJson j = .ok f) :
    f.Writable := by
  match j with
  | .object members =>
    rw [ofJson, map_eq_ok] at h
    obtain ⟨fs, hfs, rfl⟩ := h
    exact writable_conjunction (writable_ofMembers members hj.2 hfs)
  | .null | .bool _ | .number _ | .string _ | .array _ => simp [ofJson] at h

theorem writable_ofMembers (members : List (String × Json)) {fs : List Filter}
    (hj : Json.DistinctNamesOfMembers members) (h : ofMembers members = .ok fs) :
    AllWritable fs := by
  match members with
  | [] =>
    simp only [ofMembers, Except.ok.injEq] at h
    exact h ▸ trivial
  | (name, value) :: rest =>
    obtain ⟨f, gs, hf, hgs, rfl⟩ := ofMembers_cons_ok_iff.mp h
    refine ⟨?_, writable_ofMembers rest hj.2 hgs⟩
    cases hf with
    | connective hk hr => exact ⟨fun hn => absurd hn hk, writable_operandsOfJson value hj.1 hr⟩
    | negation hr => exact writable_negation (writable_ofJson value hj.1 hr)
    | field hname hr => exact writable_fieldOfJson value (isOperatorName_eq_false.mp hname) hj.1 hr

theorem writable_operandsOfJson (j : Json) {k : Connective} {fs : List Filter}
    (hj : j.DistinctNames) (h : operandsOfJson k j = .ok fs) : AllWritable fs := by
  match j with
  | .array items => exact writable_ofItems items hj h
  | .null | .bool _ | .number _ | .string _ | .object _ => simp [operandsOfJson] at h

theorem writable_ofItems (items : List Json) {fs : List Filter}
    (hj : Json.DistinctNamesOfItems items) (h : ofItems items = .ok fs) : AllWritable fs := by
  match items with
  | [] =>
    simp only [ofItems, Except.ok.injEq] at h
    exact h ▸ trivial
  | item :: rest =>
    obtain ⟨f, gs, hf, hgs, rfl⟩ := ofItems_cons_ok_iff.mp h
    exact ⟨writable_ofJson item hj.1 hf, writable_ofItems rest hj.2 hgs⟩

theorem writable_fieldOfJson (j : Json) {field : String} {f : Filter}
    (hfield : field.toList.head? ≠ some '$') (hj : j.DistinctNames)
    (h : fieldOfJson field j = .ok f) :
    f.Writable := by
  have hvalue : (test field (.compare .eq (.ofJson j))).Writable :=
    ⟨hfield, Value.writable_ofJson hj⟩
  match j with
  | .object members =>
    cases fieldOfJson_ok_iff.mp h with
    | operators _ hr => exact writable_conjunction (writable_ofOperators members hfield hj.2 hr)
    | value => exact hvalue
  | .null | .bool _ | .number _ | .string _ | .array _ =>
    cases fieldOfJson_ok_iff.mp h with
    | value => exact hvalue

theorem writable_ofOperators (members : List (String × Json)) {field : String} {fs : List Filter}
    (hfield : field.toList.head? ≠ some '$') (hj : Json.DistinctNamesOfMembers members)
    (h : ofOperators field members = .ok fs) : AllWritable fs := by
  match members with
  | [] =>
    simp only [ofOperators, Except.ok.injEq] at h
    exact h ▸ trivial
  | (name, operand) :: rest =>
    obtain ⟨f, gs, hf, hgs, rfl⟩ := ofOperators_cons_ok_iff.mp h
    refine ⟨writable_ofOperator operand hfield hj.1 hf, writable_ofOperators rest hfield hj.2 hgs⟩

theorem writable_ofOperator (operand : Json) {field name : String} {f : Filter}
    (hfield : field.toList.head? ≠ some '$') (hj : operand.DistinctNames)
    (h : ReadsOperator field name operand f) : f.Writable := by
  match operand with
  | .object members =>
    cases h with
    | negation _ h =>
      exact writable_negation (writable_conjunction (writable_ofOperators members hfield hj.2 h))
    | element _ h =>
      -- the element itself is read, by a path without characters
      exact ⟨hfield, writable_conjunction (writable_ofOperators members (by decide) hj.2 h)⟩
    | elementFilter _ h => exact ⟨hfield, writable_conjunction (writable_ofMembers members hj.2 h)⟩
    | test h => exact ⟨hfield, Test.writable_of_testOfJson hj h⟩
  | .null | .bool _ | .number _ | .string _ | .array _ =>
    cases h with
    | test h => exact ⟨hfield, Test.writable_of_testOfJson hj h⟩

end

mutual

/-- A filter that JSON can write has the operand that every negation needs. -/
theorem condition_ne_negationArity (s : Schema) (root : Root) (f : Filter) (h : f.Writable)
    (count : Nat) :
    f.condition s root ≠ .error (.negationArity count) := by
  intro he
  match f with
  | .everything => simp [condition] at he
  | .logical .and operands | .logical .or operands | .logical .nor operands =>
    rw [condition, map_eq_error] at he
    exact conditions_ne_negationArity s root operands h.2 count he
  | .logical .not [operand] =>
    rw [condition, map_eq_error] at he
    exact condition_ne_negationArity s root operand h.2.1 count he
  | .logical .not [] | .logical .not (_ :: _ :: _) => simp [Writable] at h
  | .test path t =>
    simp only [condition] at he
    cases ho : t.objection? s root path <;> simp [ho] at he
  | .elemMatch path inner =>
    simp only [condition] at he
    cases ho : s.objection? root path .elemMatch with
    | some reason => simp [ho] at he
    | none =>
      simp only [ho, map_eq_error] at he
      exact condition_ne_negationArity s (.element root.nextDepth) inner h.2 count he

theorem conditions_ne_negationArity (s : Schema) (root : Root) (fs : List Filter)
    (h : AllWritable fs) (count : Nat) : conditions s root fs ≠ .error (.negationArity count) := by
  intro he
  match fs with
  | [] => simp [conditions] at he
  | f :: rest =>
    have hf := condition_ne_negationArity s root f h.1 count
    have hrest := conditions_ne_negationArity s root rest h.2 count
    cases hc : f.condition s root with
    | error e =>
      simp only [conditions, hc, Except.error.injEq] at he
      exact hf (he ▸ hc)
    | ok c =>
      simp only [conditions, hc, map_eq_error] at he
      exact hrest he

end

/-- The filters that are read from JSON are those that JSON can write, and no negation in them has
another number of operands than one when they are compiled. -/
theorem readable_iff_writable :
    (∀ f : Filter, (∃ j : Json, j.DistinctNames ∧ ofJson j = .ok f) ↔ f.Writable) ∧
    ∀ (s : Schema) (j : Json) (f : Filter), j.DistinctNames → ofJson j = .ok f →
      ∀ count, f.compile s ≠ .error (.negationArity count) := by
  refine ⟨fun f => ⟨?_, ?_⟩, ?_⟩
  · rintro ⟨j, hj, h⟩
    exact writable_ofJson j hj h
  · intro h
    exact ⟨f.toJson, distinctNames_toJson f h, ofJson_toJson f h⟩
  · intro s j f hj h count he
    rw [compile, map_eq_error, tokens, map_eq_error] at he
    exact condition_ne_negationArity s .document f (writable_ofJson j hj h) count he

def students : Schema where
  collection := "students"
  bodyColumn := "data"
  fields := []
  indexes := []
  timestamps := false
  cacheable := true

/-- No score is below 80 without being null, and the class has another weight or the nameless field
is one of two values. -/
def topScores : Filter :=
  .logical .and [
    .logical .not [.elemMatch "scores"
      (.logical .and [.test "" (.compare .lt (.integer 80)), .test "" (.compare .ne .null)])],
    .logical .or [
      .logical .not [.test "class"
        (.compare .eq (.json (.object [("weight", .number (.real ⟨0x3ff8000000000000⟩ rfl))])))],
      .test "" (.member .oneOf [.text "$and", .integer (-1)])]]

/-- The same written with operators on the scores themselves and with a negation of operators. -/
def topScoresJson : Json :=
  .object [
    ("$not", .object [("scores", .object [("$elemMatch",
      .object [("$lt", Value.integerJson 80), ("$ne", .null)])])]),
    ("$or", .array [
      .object [("class", .object [("$not", .object [("$eq",
        .object [("weight", .number (.real ⟨0x3ff8000000000000⟩ rfl))])])])],
      .object [("", .object [("$in", .array [.string "$and", Value.integerJson (-1)])])]])]

theorem readable_iff_writable_topScores :
    topScoresJson.DistinctNames ∧ ofJson topScoresJson = .ok topScores ∧ topScores.Writable ∧
      (∃ j : Json, j.DistinctNames ∧ ofJson j = .ok topScores) ∧
      topScores.compile students ≠ .error (.negationArity 0) := by
  have hj : topScoresJson.DistinctNames := by
    simp [topScoresJson, Json.DistinctNames, Json.DistinctNamesOfMembers, Json.DistinctNamesOfItems,
      Value.integerJson]
  have hread : ofJson topScoresJson = .ok topScores := rfl
  have hf : topScores.Writable := by
    simp [topScores, Writable, AllWritable, Test.Writable, Value.Writable, Json.DistinctNames,
      Json.DistinctNamesOfMembers]
  exact ⟨hj, hread, hf, (readable_iff_writable.1 topScores).mpr hf,
    readable_iff_writable.2 students topScoresJson topScores hj hread 0⟩

end Filter

end DocumentQuery
