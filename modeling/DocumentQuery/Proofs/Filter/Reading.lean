import DocumentQuery.Filter.Reader
import DocumentQuery.Proofs.Json.Readers
import Mathlib.Tactic.SplitIfs

/-!
# How a filter is read

The reader takes an object apart member by member. What it makes of a member of a filter, of a
condition on a field and of an operator is said here by rules, one for each way in which it can
succeed, and each set of rules is met by the reader exactly. Statements about what was read go by
these rules.
-/

namespace DocumentQuery

theorem Operator.spelling_of_ofSpelling? {name : String} {op : Operator}
    (h : ofSpelling? name = some op) :
    op.spelling = name := by
  have hs := List.find?_some h
  exact beq_iff_eq.mp hs

theorem Operator.spelling_ne_connective (op : Operator) (k : Connective) :
    op.spelling ≠ k.spelling := by
  intro h
  have hread := Operator.ofSpelling?_spelling op
  have hnone : Operator.ofSpelling? k.spelling = none := by cases k <;> rfl
  rw [h, hnone] at hread
  cases hread

theorem Operator.spelling_ne_not (op : Operator) : op.spelling ≠ "$not" :=
  op.spelling_ne_connective .not

theorem Operator.isOperatorName_spelling (op : Operator) :
    Filter.isOperatorName op.spelling = true := by
  rcases op with c | m | p | _ | _ | _
  · cases c <;> decide
  · cases m <;> decide
  · cases p <;> decide
  all_goals decide

namespace Filter

/-- What the reader makes of one member of a filter. -/
def ofMember (name : String) (value : Json) : Except ReadError Filter :=
  if name = "$and" then (operandsOfJson .and value).map (.logical .and)
  else if name = "$or" then (operandsOfJson .or value).map (.logical .or)
  else if name = "$nor" then (operandsOfJson .nor value).map (.logical .nor)
  else if name = "$not" then (ofJson value).map fun f => .logical .not [f]
  else if isOperatorName name then .error (.unknownConnective name)
  else fieldOfJson name value

/-- The rules for a member: a connective with its operands, a negation, or a condition on a
field. -/
inductive ReadsMember : String → Json → Filter → Prop
  | connective {k : Connective} {value : Json} {fs : List Filter} (hk : k ≠ .not)
      (h : operandsOfJson k value = .ok fs) : ReadsMember k.spelling value (.logical k fs)
  | negation {value : Json} {f : Filter} (h : ofJson value = .ok f) :
      ReadsMember "$not" value (.logical .not [f])
  | field {name : String} {value : Json} {f : Filter} (hname : isOperatorName name = false)
      (h : fieldOfJson name value = .ok f) : ReadsMember name value f

theorem ofMember_ok_iff {name : String} {value : Json} {f : Filter} :
    ofMember name value = .ok f ↔ ReadsMember name value f := by
  constructor
  · intro h
    unfold ofMember at h
    split at h
    · next hn =>
      obtain ⟨fs, hfs, rfl⟩ := map_eq_ok.mp h
      exact hn ▸ .connective (k := .and) (by decide) hfs
    split at h
    · next hn =>
      obtain ⟨fs, hfs, rfl⟩ := map_eq_ok.mp h
      exact hn ▸ .connective (k := .or) (by decide) hfs
    split at h
    · next hn =>
      obtain ⟨fs, hfs, rfl⟩ := map_eq_ok.mp h
      exact hn ▸ .connective (k := .nor) (by decide) hfs
    split at h
    · next hn =>
      obtain ⟨g, hg, rfl⟩ := map_eq_ok.mp h
      exact hn ▸ .negation hg
    split at h
    · simp at h
    · next hn => exact .field (Bool.eq_false_iff.mpr hn) h
  · intro h
    cases h with
    | @connective k value fs hk h =>
      cases k with
      | and | or | nor => simp [ofMember, Connective.spelling, h, Except.map]
      | not => exact absurd rfl hk
    | negation h => simp [ofMember, h, Except.map]
    | field hname h =>
      -- the names of the connectives are names of operators
      have hne (other : String) (ho : isOperatorName other = true) : name ≠ other := by
        rintro rfl
        rw [ho] at hname
        exact Bool.noConfusion hname
      simp only [ofMember, if_neg (hne "$and" (by decide)), if_neg (hne "$or" (by decide)),
        if_neg (hne "$nor" (by decide)), if_neg (hne "$not" (by decide)), hname, Bool.false_eq_true,
        if_false, h]

theorem ofMembers_eq_mapM (members : List (String × Json)) :
    ofMembers members = members.mapM fun m => ofMember m.1 m.2 := by
  induction members with
  | nil => rfl
  | cons m rest ih =>
    obtain ⟨name, value⟩ := m
    rw [ofMembers, List.mapM_cons, ofMember, ← ih]
    split_ifs <;> rfl

theorem ofMembers_cons_ok_iff {name : String} {value : Json} {rest : List (String × Json)}
    {fs : List Filter} :
    ofMembers ((name, value) :: rest) = .ok fs ↔
      ∃ f gs, ReadsMember name value f ∧ ofMembers rest = .ok gs ∧ fs = f :: gs := by
  rw [ofMembers_eq_mapM, ofMembers_eq_mapM, mapM_eq_ok_iff, List.forall₂_cons_left_iff]
  simp only [ofMember_ok_iff, mapM_eq_ok_iff]

theorem ofItems_eq_mapM (items : List Json) : ofItems items = items.mapM ofJson := by
  induction items with
  | nil => rfl
  | cons item rest ih => rw [ofItems, List.mapM_cons, ih]

theorem ofItems_cons_ok_iff {item : Json} {rest : List Json} {fs : List Filter} :
    ofItems (item :: rest) = .ok fs ↔
      ∃ f gs, ofJson item = .ok f ∧ ofItems rest = .ok gs ∧ fs = f :: gs := by
  rw [ofItems_eq_mapM, ofItems_eq_mapM, mapM_eq_ok_iff, List.forall₂_cons_left_iff]
  simp only [mapM_eq_ok_iff]

theorem ofJson_single_ok_iff {name : String} {value : Json} {f : Filter} :
    ofJson (.object [(name, value)]) = .ok f ↔ ReadsMember name value f := by
  rw [ofJson, map_eq_ok]
  constructor
  · rintro ⟨fs, hfs, rfl⟩
    obtain ⟨g, gs, hg, hgs, rfl⟩ := ofMembers_cons_ok_iff.mp hfs
    obtain rfl : [] = gs := by simpa [ofMembers] using hgs
    exact hg
  · intro h
    exact ⟨[f], ofMembers_cons_ok_iff.mpr ⟨f, [], h, rfl, rfl⟩, rfl⟩

/-- The rules for a condition on a field: operators that all have to hold, or a value to equal. -/
inductive ReadsField (field : String) : Json → Filter → Prop
  | operators {members : List (String × Json)} {fs : List Filter}
      (hops : areOperators members = true)
      (h : ofOperators field members = .ok fs) : ReadsField field (.object members) (conjunction fs)
  | value {j : Json} (hops : ∀ members, j = .object members → areOperators members = false) :
      ReadsField field j (.test field (.compare .eq (.ofJson j)))

theorem fieldOfJson_ok_iff {field : String} {j : Json} {f : Filter} :
    fieldOfJson field j = .ok f ↔ ReadsField field j f := by
  constructor
  · intro h
    cases j with
    | object members =>
      rw [fieldOfJson] at h
      by_cases hops : areOperators members = true
      · rw [if_pos hops] at h
        obtain ⟨fs, hfs, rfl⟩ := map_eq_ok.mp h
        exact .operators hops hfs
      · rw [if_neg hops, Except.ok.injEq] at h
        exact h ▸ .value fun _ hm => Json.object.inj hm ▸ Bool.eq_false_iff.mpr hops
    | null | bool | number | string | array =>
      rw [fieldOfJson, Except.ok.injEq] at h
      · exact h ▸ .value fun _ hm => nomatch hm
      · exact fun _ hm => nomatch hm
  · intro h
    cases h with
    | operators hops h => rw [fieldOfJson, if_pos hops, h, Except.map]
    | value hops =>
      cases j with
      | object members => rw [fieldOfJson, hops members rfl, if_neg Bool.false_ne_true]
      | null | bool | number | string | array => rfl

/-- What the reader makes of one operator on a field. -/
def ofOperator (field name : String) (operand : Json) : Except ReadError Filter :=
  if name = "$not" then negatedOfJson field operand
  else match Operator.ofSpelling? name with
    | some .elemMatch => elementOfJson field operand
    | some op => (testOfJson field op operand).map (.test field)
    | none => .error (.unknownOperator name field)

/-- The rules for an operator: a negation of operators, a condition on the elements of an array,
which is one of operators on the element itself or a filter, or a test. -/
inductive ReadsOperator (field : String) : String → Json → Filter → Prop
  | negation {members : List (String × Json)} {fs : List Filter}
      (hops : areOperators members = true)
      (h : ofOperators field members = .ok fs) :
      ReadsOperator field "$not" (.object members) (.logical .not [conjunction fs])
  | element {members : List (String × Json)} {fs : List Filter}
      (hops : areElementOperators members = true)
      (h : ofOperators "" members = .ok fs) :
      ReadsOperator field "$elemMatch" (.object members) (.elemMatch field (conjunction fs))
  | elementFilter {members : List (String × Json)} {fs : List Filter}
      (hops : areElementOperators members = false) (h : ofMembers members = .ok fs) :
      ReadsOperator field "$elemMatch" (.object members) (.elemMatch field (conjunction fs))
  | test {op : Operator} {operand : Json} {t : Test} (h : testOfJson field op operand = .ok t) :
      ReadsOperator field op.spelling operand (.test field t)

theorem negatedOfJson_ok {field : String} {operand : Json} {f : Filter}
    (h : negatedOfJson field operand = .ok f) : ReadsOperator field "$not" operand f := by
  cases operand with
  | object members =>
    rw [negatedOfJson] at h
    by_cases hops : areOperators members = true
    · rw [if_pos hops] at h
      obtain ⟨fs, hfs, rfl⟩ := map_eq_ok.mp h
      exact .negation hops hfs
    · simp [hops] at h
  | null | bool | number | string | array => simp [negatedOfJson] at h

theorem elementOfJson_ok {field : String} {operand : Json} {f : Filter}
    (h : elementOfJson field operand = .ok f) : ReadsOperator field "$elemMatch" operand f := by
  cases operand with
  | object members =>
    rw [elementOfJson] at h
    by_cases hops : areElementOperators members = true
    · rw [if_pos hops] at h
      obtain ⟨fs, hfs, rfl⟩ := map_eq_ok.mp h
      exact .element hops hfs
    · rw [if_neg hops] at h
      obtain ⟨fs, hfs, rfl⟩ := map_eq_ok.mp h
      exact .elementFilter (Bool.eq_false_iff.mpr hops) hfs
  | null | bool | number | string | array => simp [elementOfJson, wrongOperand] at h

theorem ofOperator_ok_iff {field name : String} {operand : Json} {f : Filter} :
    ofOperator field name operand = .ok f ↔ ReadsOperator field name operand f := by
  constructor
  · intro h
    unfold ofOperator at h
    split at h
    · next hn => exact hn ▸ negatedOfJson_ok h
    split at h
    · next hop => exact Operator.spelling_of_ofSpelling? hop ▸ elementOfJson_ok h
    · next op _ hop =>
      obtain ⟨t, ht, rfl⟩ := map_eq_ok.mp h
      exact Operator.spelling_of_ofSpelling? hop ▸ .test ht
    · simp at h
  · intro h
    have hspelling : Operator.ofSpelling? "$elemMatch" = some .elemMatch :=
      Operator.ofSpelling?_spelling .elemMatch
    cases h with
    | negation hops h => rw [ofOperator, if_pos rfl, negatedOfJson, if_pos hops, h, Except.map]
    | element hops h =>
      rw [ofOperator, if_neg (by decide), hspelling]
      simp only [elementOfJson, if_pos hops, h, Except.map]
    | elementFilter hops h =>
      rw [ofOperator, if_neg (by decide), hspelling]
      simp only [elementOfJson, hops, Bool.false_eq_true, if_false, h, Except.map]
    | @test op operand t h =>
      rw [ofOperator, if_neg op.spelling_ne_not, Operator.ofSpelling?_spelling]
      cases op with
      | elemMatch => simp [testOfJson, wrongOperand] at h
      | compare | member | pattern | size | present => simp only [h, Except.map]

theorem ofOperators_eq_mapM (field : String) (members : List (String × Json)) :
    ofOperators field members = members.mapM fun m => ofOperator field m.1 m.2 := by
  induction members with
  | nil => rfl
  | cons m rest ih =>
    obtain ⟨name, operand⟩ := m
    rw [ofOperators, List.mapM_cons, ofOperator, ← ih]
    split_ifs
    · rfl
    · rcases Operator.ofSpelling? name with _ | op
      · rfl
      · cases op <;> rfl

theorem ofOperators_cons_ok_iff {field name : String} {operand : Json} {rest : List (String × Json)}
    {fs : List Filter} :
    ofOperators field ((name, operand) :: rest) = .ok fs ↔
      ∃ f gs, ReadsOperator field name operand f ∧ ofOperators field rest = .ok gs ∧
        fs = f :: gs := by
  rw [ofOperators_eq_mapM, ofOperators_eq_mapM, mapM_eq_ok_iff, List.forall₂_cons_left_iff]
  simp only [ofOperator_ok_iff, mapM_eq_ok_iff]

theorem fieldOfJson_single_ok_iff {field name : String} {operand : Json} {f : Filter}
    (hname : isOperatorName name = true) :
    fieldOfJson field (.object [(name, operand)]) = .ok f ↔ ReadsOperator field name operand f := by
  have hops : areOperators [(name, operand)] = true := by simp [areOperators, hname]
  rw [fieldOfJson, if_pos hops, map_eq_ok]
  constructor
  · rintro ⟨fs, hfs, rfl⟩
    obtain ⟨g, gs, hg, hgs, rfl⟩ := ofOperators_cons_ok_iff.mp hfs
    obtain rfl : [] = gs := by simpa [ofOperators] using hgs
    exact hg
  · intro h
    exact ⟨[f], ofOperators_cons_ok_iff.mpr ⟨f, [], h, rfl, rfl⟩, rfl⟩

end Filter

end DocumentQuery
