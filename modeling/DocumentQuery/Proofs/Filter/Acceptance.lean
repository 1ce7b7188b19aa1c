import DocumentQuery.Proofs.Filter.Denotation

/-!
# What the reader accepts

The reader accepts the values that are filters by the grammar, and makes of each the filter that it
is. For every other value it has the error of the first part that is out of order. The proof goes
from the parts of a value to the value: what is predicted of a value, as a filter, as a list of
filters and as operators on a field, decides what the reader makes of it under every name.
-/

namespace DocumentQuery

namespace Filter

theorem asArray?_eq_some {j : Json} {items : List Json} :
    j.asArray? = some items ↔ j = .array items := by
  cases j <;> simp [Json.asArray?]

theorem asString?_eq_some {j : Json} {s : String} : j.asString? = some s ↔ j = .string s := by
  cases j <;> simp [Json.asString?]

theorem asBool?_eq_some {j : Json} {b : Bool} : j.asBool? = some b ↔ j = .bool b := by
  cases j <;> simp [Json.asBool?]

theorem asInt64?_eq_some {j : Json} {n : Int64} :
    j.asInt64? = some n ↔
      ∃ k fits, j = .number (.integer k fits) ∧ k < 0x8000000000000000 ∧ Int64.ofInt k = n := by
  cases j with
  | number x =>
    cases x with
    | integer k fits =>
      simp only [Json.asInt64?, Json.Number.toInt64?]
      constructor
      · intro h
        split at h
        · next hk => exact ⟨k, fits, rfl, hk, Option.some.inj h⟩
        · cases h
      · rintro ⟨k, fits, hnumber, hk, rfl⟩
        cases hnumber
        rw [if_pos hk]
    | real => simp [Json.asInt64?, Json.Number.toInt64?]
  | null | bool | string | array | object => simp [Json.asInt64?]

theorem settles_operand {α : Type} {x : Option α} {g : α → Test} {D : Test → Prop} {op : Operator}
    {expected : Operand} {field : String} {operand : Json} {r : Except ReadError Test}
    (hok : ∀ a, x = some a → r = .ok (g a))
    (herror : x = none → r = wrongOperand op field expected operand)
    (hop : operandOf? op = some expected) (hD : ∀ t, D t ↔ ∃ a, x = some a ∧ g a = t)
    (hadmits : Admits expected operand ↔ ∃ a, x = some a) :
    Settles r D (fun e => ∃ expected, operandOf? op = some expected ∧ ¬ Admits expected operand ∧
      .wrongOperand op field expected operand.kind = e) := by
  cases x with
  | some a =>
    rw [hok a rfl]
    refine (Settles.ok (g a)).congr (fun t => by simp [hD]) fun e => ?_
    simp [hop, hadmits.mpr ⟨a, rfl⟩]
  | none =>
    rw [herror rfl]
    refine (Settles.error _).congr (fun t => by simp [hD]) fun e => ?_
    have hnot : ¬ Admits expected operand := fun h => by simpa using hadmits.mp h
    simp [hop, hnot]

theorem settles_test {op : Operator} (hop : op ≠ .elemMatch) (field : String) (operand : Json) :
    Settles (testOfJson field op operand) (TestDenotes op operand) (fun e =>
      ∃ expected, operandOf? op = some expected ∧ ¬ Admits expected operand ∧
        .wrongOperand op field expected operand.kind = e) := by
  cases op with
  | compare c =>
    refine (Settles.ok _).congr (fun t => ?_) fun e => by simp [operandOf?]
    constructor
    · rintro rfl
      exact .compare c operand
    · intro h
      cases h
      rfl
  | member m =>
    refine settles_operand (x := operand.asArray?) (fun a ha => by rw [testOfJson, ha])
      (fun hnone => by rw [testOfJson, hnone]) rfl (fun t => ?_) ?_
    · constructor
      · intro h
        cases h with
        | member m items => exact ⟨items, rfl, rfl⟩
      · rintro ⟨items, hitems, rfl⟩
        exact asArray?_eq_some.mp hitems ▸ .member m items
    · simp only [Admits, asArray?_eq_some]
  | pattern p =>
    refine settles_operand (x := operand.asString?) (fun a ha => by rw [testOfJson, ha])
      (fun hnone => by rw [testOfJson, hnone]) rfl (fun t => ?_) ?_
    · constructor
      · intro h
        cases h with
        | pattern p s => exact ⟨s, rfl, rfl⟩
      · rintro ⟨s, hs, rfl⟩
        exact asString?_eq_some.mp hs ▸ .pattern p s
    · simp only [Admits, asString?_eq_some]
  | size =>
    refine settles_operand (x := operand.asInt64?) (fun a ha => by rw [testOfJson, ha])
      (fun hnone => by rw [testOfJson, hnone]) rfl (fun t => ?_) ?_
    · constructor
      · intro h
        cases h with
        | size fits h => exact ⟨_, asInt64?_eq_some.mpr ⟨_, fits, rfl, h, rfl⟩, rfl⟩
      · rintro ⟨n, hn, rfl⟩
        obtain ⟨k, fits, rfl, hk, rfl⟩ := asInt64?_eq_some.mp hn
        exact .size fits hk
    · simp only [Admits, asInt64?_eq_some]
      constructor
      · rintro ⟨k, fits, rfl, hk⟩
        exact ⟨_, k, fits, rfl, hk, rfl⟩
      · rintro ⟨n, k, fits, rfl, hk, -⟩
        exact ⟨k, fits, rfl, hk⟩
  | present =>
    refine settles_operand (x := operand.asBool?) (fun a ha => by rw [testOfJson, ha])
      (fun hnone => by rw [testOfJson, hnone]) rfl (fun t => ?_) ?_
    · constructor
      · intro h
        cases h with
        | present b => exact ⟨b, rfl, rfl⟩
      · rintro ⟨b, hb, rfl⟩
        exact asBool?_eq_some.mp hb ▸ .present b
    · simp only [Admits, asBool?_eq_some]
  | elemMatch => exact absurd rfl hop

theorem ofMember_not (j : Json) :
    ofMember Connective.not.spelling j = (ofJson j).map fun f => .logical .not [f] := rfl

theorem ofMember_connective {k : Connective} (hk : k ≠ .not) (j : Json) :
    ofMember k.spelling j = (operandsOfJson k j).map (.logical k) := by
  cases k with
  | and | or | nor => rfl
  | not => exact absurd rfl hk

theorem ofMember_of_ne {name : String} (hk : ∀ k : Connective, name ≠ k.spelling) (j : Json) :
    ofMember name j =
      if isOperatorName name then .error (.unknownConnective name) else fieldOfJson name j := by
  have hand : name ≠ "$and" := hk .and
  have hor : name ≠ "$or" := hk .or
  have hnor : name ≠ "$nor" := hk .nor
  have hnot : name ≠ "$not" := hk .not
  rw [ofMember, if_neg hand, if_neg hor, if_neg hnor, if_neg hnot]

theorem ofMember_unknown {name : String} (hname : name.toList.head? = some '$')
    (hk : ∀ k : Connective, name ≠ k.spelling) (j : Json) :
    ofMember name j = .error (.unknownConnective name) := by
  rw [ofMember_of_ne hk, if_pos (isOperatorName_iff.mpr hname)]

theorem ofMember_field {name : String} (hname : name.toList.head? ≠ some '$') (j : Json) :
    ofMember name j = fieldOfJson name j := by
  rw [ofMember_of_ne (ne_spelling hname), if_neg fun h => hname (isOperatorName_iff.mp h)]

theorem ofOperator_not (field : String) (j : Json) :
    ofOperator field "$not" j = negatedOfJson field j := rfl

theorem ofOperator_elemMatch (field : String) (j : Json) :
    ofOperator field Operator.elemMatch.spelling j = elementOfJson field j := by
  rw [ofOperator, if_neg Operator.elemMatch.spelling_ne_not, Operator.ofSpelling?_spelling]

theorem ofOperator_test {op : Operator} (hop : op ≠ .elemMatch) (field : String) (j : Json) :
    ofOperator field op.spelling j = (testOfJson field op j).map (.test field) := by
  rw [ofOperator, if_neg op.spelling_ne_not, Operator.ofSpelling?_spelling]
  cases op with
  | elemMatch => exact absurd rfl hop
  | compare | member | pattern | size | present => rfl

theorem ofOperator_unknown {name : String} (hnot : name ≠ "$not")
    (hop : ∀ op : Operator, name ≠ op.spelling) (field : String) (j : Json) :
    ofOperator field name j = .error (.unknownOperator name field) := by
  have hnone : Operator.ofSpelling? name = none := by
    cases hfound : Operator.ofSpelling? name with
    | none => rfl
    | some op => exact absurd (Operator.spelling_of_ofSpelling? hfound).symm (hop op)
  rw [ofOperator, if_neg hnot, hnone]

/-- What the grammar says of a value, it says of what the reader makes of it: as a filter, as the
filters under a connective and as operators on a field. -/
structure Predicted (j : Json) : Prop where
  filter : Settles (ofJson j) (Denotes j) (Fails j)
  items : ∀ items, j = .array items → Settles (ofItems items)
    (fun fs => items.length = fs.length ∧ ∀ i g, (i, g) ∈ items.zip fs → Denotes i g)
    (fun e => ∃ before i after, items = before ++ i :: after ∧ (∀ b ∈ before, ∃ f, Denotes b f) ∧
      Fails i e)
  operators : ∀ field members, j = .object members → members ≠ [] →
    Settles ((ofOperators field members).map conjunction) (OperatorsDenote field j)
      (OperatorsFail field j)

namespace Predicted

variable {j : Json}

theorem settles_operands (h : Predicted j) (k : Connective) :
    Settles (operandsOfJson k j)
      (fun fs => ∃ items, j = .array items ∧ items.length = fs.length ∧
        ∀ i g, (i, g) ∈ items.zip fs → Denotes i g)
      (fun e => (∀ items, j ≠ .array items) ∧ .notFilters k = e ∨
        ∃ items, j = .array items ∧ ∃ before i after, items = before ++ i :: after ∧
          (∀ b ∈ before, ∃ f, Denotes b f) ∧ Fails i e) := by
  cases j with
  | array items => exact (h.items items rfl).congr (fun fs => by simp) fun e => by simp
  | null | bool | number | string | object =>
    exact (Settles.error _).congr (fun fs => by simp) fun e => by simp

theorem operators_of (h : Predicted j) (hops : IsOperatorObject j) (field : String) :
    ∃ members, j = .object members ∧ areOperators members = true ∧
      Settles ((ofOperators field members).map conjunction) (OperatorsDenote field j)
        (OperatorsFail field j) := by
  obtain ⟨members, rfl, hne, hnames⟩ := hops
  exact ⟨members, rfl, areOperators_iff.mpr ⟨members, rfl, hne, hnames⟩,
    h.operators field members rfl hne⟩

theorem settles_field (h : Predicted j) (name : String) :
    Settles (fieldOfJson name j)
      (fun f => OperatorsDenote name j f ∨
        ¬ IsOperatorObject j ∧ .test name (.compare .eq (.ofJson j)) = f)
      (fun e => IsOperatorObject j ∧ OperatorsFail name j e) := by
  by_cases hops : IsOperatorObject j
  · obtain ⟨members, rfl, hnames, hsettles⟩ := h.operators_of hops name
    rw [fieldOfJson, if_pos hnames]
    exact hsettles.congr (fun f => by simp [hops]) fun e => by simp [hops]
  · have hread : fieldOfJson name j = .ok (.test name (.compare .eq (.ofJson j))) := by
      refine fieldOfJson_ok_iff.mpr (.value ?_)
      rintro members rfl
      exact Bool.eq_false_iff.mpr fun hnames => hops (areOperators_iff.mp hnames)
    rw [hread]
    refine (Settles.ok _).congr (fun f => ?_) fun e => by simp [hops]
    have hnone : ¬ OperatorsDenote name j f := fun h => hops h.isOperatorObject
    simp [hops, hnone]

theorem settles_negated (h : Predicted j) (field : String) :
    Settles (negatedOfJson field j) (fun g => ∃ f, OperatorsDenote field j f ∧
      .logical .not [f] = g)
      (fun e => ¬ IsOperatorObject j ∧ .notOperators field = e ∨
        IsOperatorObject j ∧ OperatorsFail field j e) := by
  by_cases hops : IsOperatorObject j
  · obtain ⟨members, rfl, hnames, hsettles⟩ := h.operators_of hops field
    have hread : negatedOfJson field (.object members) =
        ((ofOperators field members).map conjunction).map fun f => .logical .not [f] := by
      rw [negatedOfJson, if_pos hnames]
      cases ofOperators field members <;> rfl
    rw [hread]
    exact (hsettles.map _).congr (fun f => Iff.rfl) fun e => by simp [hops]
  · have hread : negatedOfJson field j = .error (.notOperators field) := by
      cases j with
      | object members => rw [negatedOfJson, if_neg fun hnames => hops (areOperators_iff.mp hnames)]
      | null | bool | number | string | array => rfl
    rw [hread]
    refine (Settles.error _).congr (fun g => ?_) fun e => by simp [hops]
    have hnone : ∀ f, ¬ OperatorsDenote field j f := fun f h => hops h.isOperatorObject
    simp [hnone]

theorem settles_element (h : Predicted j) (field : String) :
    Settles (elementOfJson field j)
      (fun g => ∃ f, (IsElementObject j ∧ OperatorsDenote "" j f ∨ ¬ IsElementObject j ∧
        Denotes j f) ∧
        .elemMatch field f = g)
      (fun e => ¬ Admits .object j ∧ .wrongOperand .elemMatch field .object j.kind = e ∨
        Admits .object j ∧ (IsElementObject j ∧ OperatorsFail "" j e ∨ ¬ IsElementObject j ∧
          Fails j e)) := by
  cases j with
  | object members =>
    have hobject : Admits .object (.object members) := ⟨members, rfl⟩
    by_cases hops : IsElementObject (.object members)
    · obtain ⟨members', hm, -, hsettles⟩ := h.operators_of hops.1 ""
      obtain rfl := Json.object.inj hm
      have hread : elementOfJson field (.object members) =
          ((ofOperators "" members).map conjunction).map (.elemMatch field) := by
        rw [elementOfJson, if_pos (areElementOperators_iff.mpr hops)]
        cases ofOperators "" members <;> rfl
      rw [hread]
      exact (hsettles.map _).congr (fun g => by simp [hops]) fun e => by simp [hops, hobject]
    · have hread : elementOfJson field (.object members) =
          (ofJson (.object members)).map (.elemMatch field) := by
        rw [elementOfJson, if_neg fun hnames => hops (areElementOperators_iff.mp hnames), ofJson]
        cases ofMembers members <;> rfl
      rw [hread]
      exact (h.filter.map _).congr (fun g => by simp [hops]) fun e => by simp [hops, hobject]
  | null | bool | number | string | array =>
    refine (Settles.error _).congr (fun g => ?_) fun e => by simp [Admits]
    simp only [false_iff]
    rintro ⟨f, ⟨h, -⟩ | ⟨-, h⟩, -⟩
    · obtain ⟨⟨members, hm, -⟩, -⟩ := h
      cases hm
    · cases h

/-- What is predicted of a value decides what the reader makes of it as a member of a filter. -/
theorem settles_member (h : Predicted j) (name : String) :
    Settles (ofMember name j) (MemberDenotes name j) (MemberFails name j) := by
  by_cases hname : name.toList.head? = some '$'
  · by_cases hk : ∃ k : Connective, name = k.spelling
    · obtain ⟨k, rfl⟩ := hk
      by_cases hnot : k = .not
      · subst hnot
        rw [ofMember_not]
        exact (h.filter.map _).congr (fun g => memberDenotes_not.symm) fun e => memberFails_not.symm
      · rw [ofMember_connective hnot]
        exact ((h.settles_operands k).map _).congr (fun g => (memberDenotes_connective hnot).symm)
          fun e => (memberFails_connective hnot).symm
    · have hne : ∀ k : Connective, name ≠ k.spelling := not_exists.mp hk
      rw [ofMember_unknown hname hne]
      exact (Settles.error _).congr (fun g => iff_of_false id (not_memberDenotes hname hne))
        fun e => (memberFails_unknown hname hne).symm
  · rw [ofMember_field hname]
    exact (h.settles_field name).congr (fun g => (memberDenotes_field hname).symm)
      fun e => (memberFails_field hname).symm

/-- What is predicted of a value decides what the reader makes of it as the operand of an
operator. -/
theorem settles_operator (h : Predicted j) (field name : String) :
    Settles (ofOperator field name j) (OperatorDenotes field name j)
      (OperatorFails field name j) := by
  by_cases hnot : name = "$not"
  · subst hnot
    rw [ofOperator_not]
    exact (h.settles_negated field).congr (fun g => operatorDenotes_not.symm) fun e =>
      operatorFails_not.symm
  by_cases hop : ∃ op : Operator, name = op.spelling
  · obtain ⟨op, rfl⟩ := hop
    by_cases helement : op = .elemMatch
    · subst helement
      rw [ofOperator_elemMatch]
      exact (h.settles_element field).congr (fun g => operatorDenotes_elemMatch.symm)
        fun e => operatorFails_elemMatch.symm
    · rw [ofOperator_test helement]
      exact ((settles_test helement field j).map _).congr
        (fun g => (operatorDenotes_test helement).symm)
        fun e => (operatorFails_test helement).symm
  · have hne : ∀ op : Operator, name ≠ op.spelling := not_exists.mp hop
    rw [ofOperator_unknown hnot hne]
    exact (Settles.error _).congr (fun g => iff_of_false id (not_operatorDenotes hnot hne))
      fun e => (operatorFails_unknown hnot hne).symm

end Predicted

theorem predicted_array {items : List Json} (ih : ∀ i ∈ items, Predicted i) :
    Predicted (.array items) where
  filter := by
    refine (Settles.error _).congr (fun f => iff_of_false id fun h => nomatch h) fun e => ?_
    constructor
    · rintro rfl
      exact .notObject fun _ h => nomatch h
    · intro h
      cases h with
      | notObject => rfl
  items := by
    intro others h
    obtain rfl := Json.array.inj h
    rw [ofItems_eq_mapM]
    exact Settles.mapM fun i hi => (ih i hi).filter
  operators := fun _ _ h => nomatch h

theorem predicted_object {members : List (String × Json)} (ih : ∀ m ∈ members, Predicted m.2) :
    Predicted (.object members) where
  filter := by
    rw [ofJson, ofMembers_eq_mapM]
    refine ((Settles.mapM fun m hm => (ih m hm).settles_member m.1).map conjunction).congr
      (fun f => ?_)
      fun e => ?_
    · constructor
      · rintro ⟨fs, ⟨hlength, hmembers⟩, hf⟩
        exact .object hlength hmembers (combine_iff.mpr hf)
      · intro h
        cases h with
        | object hlength hmembers hf => exact ⟨_, ⟨hlength, hmembers⟩, combine_iff.mp hf⟩
    · constructor
      · rintro ⟨before, m, after, rfl, hbefore, h⟩
        exact .member hbefore h
      · intro h
        cases h with
        | notObject h => exact absurd rfl (h members)
        | member hbefore h => exact ⟨_, _, _, rfl, hbefore, h⟩
  items := fun _ h => nomatch h
  operators := by
    intro field others h hne
    obtain rfl := Json.object.inj h
    rw [ofOperators_eq_mapM]
    refine ((Settles.mapM fun m hm => (ih m hm).settles_operator field m.1).map conjunction).congr
      (fun f => ?_) fun e => ?_
    · constructor
      · rintro ⟨fs, ⟨hlength, hmembers⟩, hf⟩
        exact .object hne hlength hmembers (combine_iff.mpr hf)
      · intro h
        cases h with
        | object _ hlength hmembers hf => exact ⟨_, ⟨hlength, hmembers⟩, combine_iff.mp hf⟩
    · constructor
      · rintro ⟨before, m, after, rfl, hbefore, h⟩
        exact .member hbefore h
      · intro h
        cases h with
        | member hbefore h => exact ⟨_, _, _, rfl, hbefore, h⟩

theorem predicted_leaf {j : Json} (harray : ∀ items, j ≠ .array items)
    (hobject : ∀ members, j ≠ .object members) :
    Predicted j where
  filter := by
    have hread : ofJson j = .error (.notObject j.kind) := by
      cases j with
      | object members => exact absurd rfl (hobject members)
      | null | bool | number | string | array => rfl
    rw [hread]
    refine (Settles.error _).congr (fun f => iff_of_false id fun h => ?_) fun e => ?_
    · cases h with
      | object => exact hobject _ rfl
    · constructor
      · rintro rfl
        exact .notObject hobject
      · intro h
        cases h with
        | notObject => rfl
        | member => exact absurd rfl (hobject _)
  items := fun items h => absurd h (harray items)
  operators := fun _ members h => absurd h (hobject members)

theorem predicted (j : Json) : Predicted j := by
  induction j using Json.byParts with
  | array items ih => exact predicted_array ih
  | object members ih => exact predicted_object ih
  | leaf j harray hobject => exact predicted_leaf harray hobject

/-- The reader makes of a value the filter that it is by the grammar, and fails for every other
value with the error of the first part that is out of order. -/
theorem ofJson_iff_denotes (j : Json) :
    (∀ f, ofJson j = .ok f ↔ Denotes j f) ∧ ∀ e, ofJson j = .error e ↔ Fails j e :=
  ⟨(predicted j).filter.ok_iff, (predicted j).filter.error_iff⟩

end Filter

end DocumentQuery
