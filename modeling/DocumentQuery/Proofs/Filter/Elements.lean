import DocumentQuery.Proofs.Filter.Acceptance

/-!
# Conditions on elements

What can be asked of a field can be asked of the elements of an array: the operators are the same,
and the conditions that they make are about the element itself in the place of the field. The
exception is a negation of operators. An object with a member of this name is taken for a filter on
documents, which has no operators, so that it is refused.
-/

namespace DocumentQuery

namespace Filter

mutual

/-- The filter with another field in the place of one that its conditions are about. What is asked
of the elements of an array is not about fields of the document, and stays. -/
def retarget (old new : String) : Filter → Filter
  | .everything => .everything
  | .logical k operands => .logical k (retargetList old new operands)
  | .test path t => .test (if path = old then new else path) t
  | .elemMatch path inner => .elemMatch (if path = old then new else path) inner

def retargetList (old new : String) : List Filter → List Filter
  | [] => []
  | f :: rest => f.retarget old new :: retargetList old new rest

end

theorem retargetList_eq_map (old new : String) (fs : List Filter) :
    retargetList old new fs = fs.map (retarget old new) := by
  induction fs with
  | nil => rfl
  | cons f rest ih => rw [retargetList, ih, List.map_cons]

theorem Combine.retarget {fs : List Filter} {f : Filter} (h : Combine fs f) (old new : String) :
    Combine (fs.map (Filter.retarget old new)) (f.retarget old new) := by
  cases h with
  | none => exact .none
  | single f => exact .single _
  | several h =>
    rw [Filter.retarget, retargetList_eq_map]
    exact .several (by rwa [List.length_map])

mutual

/-- Operators on a field are, with another field in its place, operators on that field. -/
theorem OperatorsDenote.retarget {field : String} {j : Json} {f : Filter}
    (h : OperatorsDenote field j f) (new : String) :
    OperatorsDenote new j (f.retarget field new) := by
  match h with
  | .object hne hlength hmembers hf =>
    refine .object hne (by rwa [List.length_map]) (fun m g hmem => ?_) (hf.retarget field new)
    rw [List.zip_map_right] at hmem
    obtain ⟨⟨m', g'⟩, hmem', heq⟩ := List.mem_map.mp hmem
    obtain ⟨rfl, rfl⟩ := Prod.mk.inj heq
    exact OperatorDenotes.retarget (hmembers m' g' hmem') new

theorem OperatorDenotes.retarget {field name : String} {operand : Json} {f : Filter}
    (h : OperatorDenotes field name operand f) (new : String) :
    OperatorDenotes new name operand (f.retarget field new) := by
  match h with
  | .negation h => exact .negation (OperatorsDenote.retarget h new)
  | .test h =>
    rw [Filter.retarget, if_pos rfl]
    exact .test h
  | .elementOperators hops h =>
    rw [Filter.retarget, if_pos rfl]
    exact .elementOperators hops h
  | .elementFilter hops h =>
    rw [Filter.retarget, if_pos rfl]
    exact .elementFilter hops h

end

theorem MemberFails.first {name : String} {value : Json} {e : ReadError}
    (h : MemberFails name value e) (rest : List (String × Json)) :
    Fails (.object ((name, value) :: rest)) e :=
  @Fails.member [] rest (name, value) e (fun _ h => nomatch h) h

theorem OperatorFails.first {field name : String} {operand : Json} {e : ReadError}
    (h : OperatorFails field name operand e) (rest : List (String × Json)) :
    OperatorsFail field (.object ((name, operand) :: rest)) e :=
  @OperatorsFail.member field [] rest (name, operand) e (fun _ h => nomatch h) h

mutual

/-- An object of operators on a field is no filter: the first operator in it, behind negations or
not, has the name of no connective. -/
theorem OperatorsDenote.fails {field : String} {j : Json} {f : Filter}
    (h : OperatorsDenote field j f) :
    ∃ op : Operator, Fails j (.unknownConnective op.spelling) := by
  match h with
  | @OperatorsDenote.object _ (m :: rest) _ _ _ hlength hmembers _ =>
    obtain ⟨g, hg⟩ := exists_mem_zip hlength List.mem_cons_self
    obtain ⟨op, hop⟩ := OperatorDenotes.fails (hmembers m g hg)
    exact ⟨op, hop.first rest⟩

theorem OperatorDenotes.fails {field name : String} {operand : Json} {f : Filter}
    (h : OperatorDenotes field name operand f) :
    ∃ op : Operator, MemberFails name operand (.unknownConnective op.spelling) := by
  match h with
  | .negation h =>
    obtain ⟨op, hop⟩ := OperatorsDenote.fails h
    exact ⟨op, .negation hop⟩
  | @OperatorDenotes.test _ op _ _ _ =>
    exact ⟨op, .unknown op.head?_spelling op.spelling_ne_connective⟩
  | .elementOperators _ _ | .elementFilter _ _ =>
    exact ⟨.elemMatch, .unknown Operator.elemMatch.head?_spelling
      Operator.elemMatch.spelling_ne_connective⟩

end

theorem OperatorDenotes.ne_connective {field name : String} {operand : Json} {f : Filter}
    (h : OperatorDenotes field name operand f) (hnot : name ≠ "$not") (k : Connective) :
    name ≠ k.spelling := by
  cases h with
  | negation => exact absurd rfl hnot
  | test => exact Operator.spelling_ne_connective _ k
  | elementOperators | elementFilter => exact Operator.elemMatch.spelling_ne_connective k

theorem OperatorsDenote.isElementObject {field : String} {members : List (String × Json)}
    {f : Filter} (h : OperatorsDenote field (.object members) f) :
    IsElementObject (.object members) ↔ ∀ m ∈ members, m.1 ≠ "$not" := by
  constructor
  · intro hops m hm
    exact hops.2 members rfl m hm .not
  · intro hnot
    refine ⟨h.isOperatorObject, fun others hothers m hm k => ?_⟩
    obtain rfl := Json.object.inj hothers
    cases h with
    | object hne hlength hmembers hf =>
      obtain ⟨g, hg⟩ := exists_mem_zip hlength hm
      exact (hmembers m g hg).ne_connective (hnot m hm) k

section
variable {field name : String} {value : Json} {f : Filter}

theorem denotes_single : Denotes (.object [(name, value)]) f ↔ MemberDenotes name value f := by
  rw [← (predicted _).filter.ok_iff, ← ((predicted value).settles_member name).ok_iff,
    ofMember_ok_iff]
  exact ofJson_single_ok_iff

theorem OperatorDenotes.single (h : OperatorDenotes field name value f) :
    OperatorsDenote field (.object [(name, value)]) f := by
  refine .object (List.cons_ne_nil _ _) rfl (fun m g hmem => ?_) (.single f)
  obtain ⟨rfl, rfl⟩ := Prod.mk.inj (List.mem_singleton.mp hmem)
  exact h

theorem isOperatorObject_elemMatch (operand : Json) :
    IsOperatorObject (.object [("$elemMatch", operand)]) := by
  refine ⟨_, rfl, List.cons_ne_nil _ _, fun m hm => ?_⟩
  rw [List.mem_singleton.mp hm]
  exact Operator.elemMatch.head?_spelling

end

/-- The filter in JSON that asks of the elements of an array what the operators say. -/
def someElement (field : String) (operators : List (String × Json)) : Json :=
  .object [(field, .object [("$elemMatch", .object operators)])]

/-- Operators that can be asked of a field can be asked of the elements of an array, with the same
conditions on the element itself, if none of them is a negation. If some of them is, they are taken
for a filter on documents, and refused with the name of an operator, which no member of a filter
has. -/
theorem ofJson_someElement {x field : String} (hx : x.toList.head? ≠ some '$')
    (hfield : field.toList.head? ≠ some '$') {operators : List (String × Json)}
    (hops : IsOperatorObject (.object operators)) {t : Filter}
    (ht : ofJson (.object [(x, .object operators)]) = .ok t) :
    ((∀ m ∈ operators, m.1 ≠ "$not") →
      ofJson (someElement field operators) = .ok (.elemMatch field (t.retarget x ""))) ∧
    ((∃ m ∈ operators, m.1 = "$not") →
      ∃ op : Operator, ofJson (someElement field operators) =
        .error (.unknownConnective op.spelling)) := by
  have hdenotes : OperatorsDenote x (.object operators) t := by
    rw [(predicted _).filter.ok_iff, denotes_single, memberDenotes_field hx] at ht
    exact ht.resolve_right fun h => h.1 hops
  constructor
  · intro hnot
    rw [(predicted _).filter.ok_iff, someElement, denotes_single]
    apply MemberDenotes.operators hfield
    apply OperatorDenotes.single
    exact .elementOperators (hdenotes.isElementObject.mpr hnot) (hdenotes.retarget "")
  · rintro ⟨m, hm, hname⟩
    obtain ⟨op, hop⟩ := hdenotes.fails
    have hfilter : OperatorFails field "$elemMatch" (.object operators)
        (.unknownConnective op.spelling) :=
      .elementFilter (fun h => hdenotes.isElementObject.mp h m hm hname) hop
    have hmember : MemberFails field (.object [("$elemMatch", .object operators)])
        (.unknownConnective op.spelling) :=
      .operators hfield (isOperatorObject_elemMatch _) (hfilter.first [])
    exact ⟨op, ((predicted _).filter.error_iff _).mpr (hmember.first [])⟩

/-- Of a score it can be asked that it is eighty or more but not ninety, and that it is not eighty
or more; of the elements of an array only the first. -/
theorem ofJson_someElement_score :
    ofJson (someElement "scores"
        [("$gte", .number (.integer 80 (by decide))),
          ("$nin", .array [.number (.integer 90 (by decide))])]) =
      .ok (.elemMatch "scores" (.logical .and
        [.test "" (.compare .gte (.integer 80)), .test "" (.member .noneOf [.integer 90])])) ∧
    ∃ op : Operator,
      ofJson
        (someElement "scores" [("$not", .object [("$gte", .number (.integer 80 (by decide)))])]) =
        .error (.unknownConnective op.spelling) := by
  constructor
  · have h := @ofJson_someElement "score" "scores" (by decide) (by decide)
      [("$gte", .number (.integer 80 (by decide))),
        ("$nin", .array [.number (.integer 90 (by decide))])]
      (areOperators_iff.mp rfl)
      (.logical .and [.test "score" (.compare .gte (.integer 80)),
        .test "score" (.member .noneOf [.integer 90])])
      rfl
    exact h.1 (by simp)
  · have h := @ofJson_someElement "score" "scores" (by decide) (by decide)
      [("$not", .object [("$gte", .number (.integer 80 (by decide)))])] (areOperators_iff.mp rfl)
      (.logical .not [.test "score" (.compare .gte (.integer 80))]) rfl
    exact h.2 ⟨_, List.mem_singleton_self _, rfl⟩

/-- A negation of operators is read on a field, and not on the elements of an array. -/
theorem not_ofJson_someElement :
    ofJson (.object [("score", .object [
        ("$not", .object [("$gt", .number (.integer 5 (by decide)))])])]) =
        .ok (.logical .not [.test "score" (.compare .gt (.integer 5))]) ∧
      ofJson (someElement "scores" [
        ("$not", .object [("$gt", .number (.integer 5 (by decide)))])]) =
        .error (.unknownConnective "$gt") := by
  constructor <;> rfl

end Filter

end DocumentQuery
