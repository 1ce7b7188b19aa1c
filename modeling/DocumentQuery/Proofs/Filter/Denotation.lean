import DocumentQuery.Proofs.Filter.Reading

/-!
# The filters of JSON

Which JSON values are filters, and what is wrong with the others. `Denotes` goes through a value by
a grammar and says which filter it is; the same object is read in three ways, as a filter, as
operators on a field and as a value that a field has to equal. `Fails` says which error a value has
that is no filter: whatever is in front of the place of the error is in order.
-/

namespace DocumentQuery

namespace Filter

/-- The value is an object with members, and the names of all of them begin with a dollar sign. -/
def IsOperatorObject (j : Json) : Prop :=
  ∃ members, j = .object members ∧ members ≠ [] ∧ ∀ m ∈ members, m.1.toList.head? = some '$'

/-- The value is such an object, and none of the names is that of a connective. -/
def IsElementObject (j : Json) : Prop :=
  IsOperatorObject j ∧ ∀ members, j = .object members → ∀ m ∈ members, ∀ k : Connective,
    m.1 ≠ k.spelling

/-- What the conditions in one object are together: a single one stands alone, and several have to
hold all, in their order. -/
inductive Combine : List Filter → Filter → Prop
  | none : Combine [] .everything
  | single (f : Filter) : Combine [f] f
  | several {fs : List Filter} (h : 2 ≤ fs.length) : Combine fs (.logical .and fs)

/-- The test that an operator makes with its operand. -/
inductive TestDenotes : Operator → Json → Test → Prop
  | compare (c : Comparison) (operand : Json) :
      TestDenotes (.compare c) operand (.compare c (.ofJson operand))
  | member (m : Membership) (items : List Json) :
      TestDenotes (.member m) (.array items) (.member m (items.map Value.ofJson))
  | pattern (p : Pattern) (s : String) : TestDenotes (.pattern p) (.string s) (.pattern p s)
  | size {n : Int} (fits : Json.FitsWord n) (h : n < 0x8000000000000000) :
      TestDenotes .size (.number (.integer n fits)) (.size (Int64.ofInt n))
  | present (expected : Bool) : TestDenotes .present (.bool expected) (.present expected)

mutual

/-- The value is a filter: an object whose members are conditions. -/
inductive Denotes : Json → Filter → Prop
  | object {members : List (String × Json)} {fs : List Filter} {f : Filter}
      (hlength : members.length = fs.length)
      (hmembers : ∀ m g, (m, g) ∈ members.zip fs → MemberDenotes m.1 m.2 g) (hf : Combine fs f) :
      Denotes (.object members) f

/-- The member of a filter is a condition: a connective with the list of its filters, a negation of
a filter, or a name that does not begin with a dollar sign, with operators or with a value that is
not taken for some. -/
inductive MemberDenotes : String → Json → Filter → Prop
  | connective {k : Connective} {items : List Json} {fs : List Filter} (hk : k ≠ .not)
      (hlength : items.length = fs.length) (hitems : ∀ i g, (i, g) ∈ items.zip fs → Denotes i g) :
      MemberDenotes k.spelling (.array items) (.logical k fs)
  | negation {value : Json} {f : Filter} (h : Denotes value f) :
      MemberDenotes Connective.not.spelling value (.logical .not [f])
  | operators {name : String} {value : Json} {f : Filter} (hname : name.toList.head? ≠ some '$')
      (h : OperatorsDenote name value f) : MemberDenotes name value f
  | value {name : String} {value : Json} (hname : name.toList.head? ≠ some '$')
      (h : ¬ IsOperatorObject value) :
      MemberDenotes name value (.test name (.compare .eq (.ofJson value)))

/-- The value is an object of operators on a field. -/
inductive OperatorsDenote : String → Json → Filter → Prop
  | object {field : String} {members : List (String × Json)} {fs : List Filter} {f : Filter}
      (hne : members ≠ []) (hlength : members.length = fs.length)
      (hmembers : ∀ m g, (m, g) ∈ members.zip fs → OperatorDenotes field m.1 m.2 g)
        (hf : Combine fs f) :
      OperatorsDenote field (.object members) f

/-- The member of such an object is an operator with its operand: a negation of operators, a test,
or a condition on the elements of an array, which is operators on the element itself or else a
filter. -/
inductive OperatorDenotes : String → String → Json → Filter → Prop
  | negation {field : String} {operand : Json} {f : Filter} (h : OperatorsDenote field operand f) :
      OperatorDenotes field "$not" operand (.logical .not [f])
  | test {field : String} {op : Operator} {operand : Json} {t : Test}
      (h : TestDenotes op operand t) :
      OperatorDenotes field op.spelling operand (.test field t)
  | elementOperators {field : String} {operand : Json} {f : Filter} (hops : IsElementObject operand)
      (h : OperatorsDenote "" operand f) : OperatorDenotes field "$elemMatch" operand
        (.elemMatch field f)
  | elementFilter {field : String} {operand : Json} {f : Filter} (hops : ¬ IsElementObject operand)
      (h : Denotes operand f) : OperatorDenotes field "$elemMatch" operand (.elemMatch field f)

end

/-- What an operator takes, if it does not take every value. -/
def operandOf? : Operator → Option Operand
  | .compare _ => none
  | .member _ => some .array
  | .pattern _ => some .string
  | .size => some .integer
  | .present => some .boolean
  | .elemMatch => some .object

/-- The value is an operand of the kind; an integer is one with 64 bits and a sign. -/
def Admits : Operand → Json → Prop
  | .array, j => ∃ items, j = .array items
  | .string, j => ∃ s, j = .string s
  | .integer, j => ∃ n fits, j = .number (.integer n fits) ∧ n < 0x8000000000000000
  | .boolean, j => ∃ b, j = .bool b
  | .object, j => ∃ members, j = .object members

mutual

/-- The value is no filter, for the reason of its first member that is no condition. -/
inductive Fails : Json → ReadError → Prop
  | notObject {j : Json} (h : ∀ members, j ≠ .object members) : Fails j (.notObject j.kind)
  | member {before after : List (String × Json)} {m : String × Json} {e : ReadError}
      (hbefore : ∀ b ∈ before, ∃ f, MemberDenotes b.1 b.2 f) (h : MemberFails m.1 m.2 e) :
      Fails (.object (before ++ m :: after)) e

/-- The member is no condition. -/
inductive MemberFails : String → Json → ReadError → Prop
  | notFilters {k : Connective} {value : Json} (hk : k ≠ .not) (h : ∀ items, value ≠ .array items) :
      MemberFails k.spelling value (.notFilters k)
  | operand {k : Connective} {before after : List Json} {j : Json} {e : ReadError} (hk : k ≠ .not)
      (hbefore : ∀ b ∈ before, ∃ f, Denotes b f) (h : Fails j e) :
      MemberFails k.spelling (.array (before ++ j :: after)) e
  | negation {value : Json} {e : ReadError} (h : Fails value e) :
      MemberFails Connective.not.spelling value e
  | unknown {name : String} {value : Json} (hname : name.toList.head? = some '$')
      (h : ∀ k : Connective, name ≠ k.spelling) : MemberFails name value (.unknownConnective name)
  | operators {name : String} {value : Json} {e : ReadError} (hname : name.toList.head? ≠ some '$')
      (hops : IsOperatorObject value) (h : OperatorsFail name value e) : MemberFails name value e

/-- The object is not one of operators on the field, for the reason of its first member that is
none. -/
inductive OperatorsFail : String → Json → ReadError → Prop
  | member {field : String} {before after : List (String × Json)}
      {m : String × Json} {e : ReadError}
      (hbefore : ∀ b ∈ before, ∃ f, OperatorDenotes field b.1 b.2 f)
        (h : OperatorFails field m.1 m.2 e) :
      OperatorsFail field (.object (before ++ m :: after)) e

/-- The member is no operator with an operand that it takes. -/
inductive OperatorFails : String → String → Json → ReadError → Prop
  | notOperators {field : String} {operand : Json} (h : ¬ IsOperatorObject operand) :
      OperatorFails field "$not" operand (.notOperators field)
  | negation {field : String} {operand : Json} {e : ReadError} (hops : IsOperatorObject operand)
      (h : OperatorsFail field operand e) : OperatorFails field "$not" operand e
  | unknown {field name : String} {operand : Json} (hnot : name ≠ "$not")
      (h : ∀ op : Operator, name ≠ op.spelling) :
      OperatorFails field name operand (.unknownOperator name field)
  | wrongOperand {field : String} {op : Operator} {operand : Json} {expected : Operand}
      (hop : operandOf? op = some expected) (h : ¬ Admits expected operand) :
      OperatorFails field op.spelling operand (.wrongOperand op field expected operand.kind)
  | elementOperators {field : String} {operand : Json} {e : ReadError}
      (hops : IsElementObject operand)
      (h : OperatorsFail "" operand e) : OperatorFails field "$elemMatch" operand e
  | elementFilter {field : String} {members : List (String × Json)} {e : ReadError}
      (hops : ¬ IsElementObject (.object members)) (h : Fails (.object members) e) :
      OperatorFails field "$elemMatch" (.object members) e

end

theorem isOperatorName_iff {name : String} :
    isOperatorName name = true ↔ name.toList.head? = some '$' := by
  simp [isOperatorName]

end Filter

theorem Connective.spelling_inj {k l : Connective} (h : k.spelling = l.spelling) : k = l := by
  revert h
  cases k <;> cases l <;> decide

theorem Connective.head?_spelling (k : Connective) : k.spelling.toList.head? = some '$' := by
  cases k <;> decide

theorem Operator.head?_spelling (op : Operator) : op.spelling.toList.head? = some '$' :=
  Filter.isOperatorName_iff.mp op.isOperatorName_spelling

theorem Operator.spelling_inj {op other : Operator} (h : op.spelling = other.spelling) :
    op = other := by
  have hread := congrArg ofSpelling? h
  rw [ofSpelling?_spelling, ofSpelling?_spelling] at hread
  exact Option.some.inj hread

namespace Filter

theorem areOperators_iff {members : List (String × Json)} :
    areOperators members = true ↔ IsOperatorObject (.object members) := by
  simp [areOperators, IsOperatorObject, isOperatorName]

theorem isConnectiveName_iff {name : String} :
    isConnectiveName name = true ↔ ∃ k : Connective, name = k.spelling := by
  constructor
  · intro h
    simp only [isConnectiveName, Bool.or_eq_true, beq_iff_eq] at h
    rcases h with ((h | h) | h) | h
    · exact ⟨.and, h⟩
    · exact ⟨.or, h⟩
    · exact ⟨.nor, h⟩
    · exact ⟨.not, h⟩
  · rintro ⟨k, rfl⟩
    cases k <;> decide

theorem areElementOperators_iff {members : List (String × Json)} :
    areElementOperators members = true ↔ IsElementObject (.object members) := by
  have hnames : (!members.any fun m => isConnectiveName m.1) = true ↔
      ∀ m ∈ members, ∀ k : Connective, m.1 ≠ k.spelling := by
    simp only [Bool.not_eq_true', List.any_eq_false, isConnectiveName_iff, not_exists]
  rw [areElementOperators, Bool.and_eq_true, areOperators_iff, hnames, IsElementObject]
  simp

theorem combine_iff {fs : List Filter} {f : Filter} : Combine fs f ↔ conjunction fs = f := by
  constructor
  · intro h
    cases h with
    | none | single => rfl
    | several h =>
      match fs with
      | _ :: _ :: _ => rfl
  · rintro rfl
    match fs with
    | [] => exact .none
    | [f] => exact .single f
    | _ :: _ :: _ => exact .several (by simp)

theorem OperatorDenotes.head?_name {field name : String} {operand : Json} {f : Filter}
    (h : OperatorDenotes field name operand f) : name.toList.head? = some '$' := by
  cases h with
  | test h => exact Operator.head?_spelling _
  | negation | elementOperators | elementFilter => decide

theorem exists_mem_zip {α β : Type} {xs : List α} {ys : List β} (hlength : xs.length = ys.length)
    {x : α} (hx : x ∈ xs) : ∃ y, (x, y) ∈ xs.zip ys := by
  rw [← List.map_fst_zip (Nat.le_of_eq hlength)] at hx
  obtain ⟨⟨x, y⟩, hmem, rfl⟩ := List.mem_map.mp hx
  exact ⟨y, hmem⟩

theorem OperatorsDenote.isOperatorObject {field : String} {j : Json} {f : Filter}
    (h : OperatorsDenote field j f) : IsOperatorObject j := by
  cases h with
  | object hne hlength hmembers hf =>
    refine ⟨_, rfl, hne, fun m hm => ?_⟩
    obtain ⟨g, hg⟩ := exists_mem_zip hlength hm
    exact (hmembers m g hg).head?_name

section
variable {name field : String} {j : Json} {g : Filter} {e : ReadError}

theorem ne_spelling (hname : name.toList.head? ≠ some '$') (k : Connective) :
    name ≠ k.spelling := by
  rintro rfl
  exact hname k.head?_spelling

theorem memberDenotes_not :
    MemberDenotes Connective.not.spelling j g ↔ ∃ f, Denotes j f ∧ .logical .not [f] = g := by
  constructor
  · intro h
    generalize hn : Connective.not.spelling = n at h
    cases h with
    | connective hk => exact absurd (Connective.spelling_inj hn).symm hk
    | negation h => exact ⟨_, h, rfl⟩
    | operators hname | value hname => exact absurd hn.symm (ne_spelling hname .not)
  · rintro ⟨f, hf, rfl⟩
    exact .negation hf

theorem memberDenotes_connective {k : Connective} (hk : k ≠ .not) :
    MemberDenotes k.spelling j g ↔ ∃ fs, (∃ items, j = .array items ∧ items.length = fs.length ∧
      ∀ i g, (i, g) ∈ items.zip fs → Denotes i g) ∧ .logical k fs = g := by
  constructor
  · intro h
    generalize hn : k.spelling = n at h
    cases h with
    | connective _ hlength hitems =>
      obtain rfl := Connective.spelling_inj hn
      exact ⟨_, ⟨_, rfl, hlength, hitems⟩, rfl⟩
    | negation => exact absurd (Connective.spelling_inj hn) hk
    | operators hname | value hname => exact absurd hn.symm (ne_spelling hname k)
  · rintro ⟨fs, ⟨items, rfl, hlength, hitems⟩, rfl⟩
    exact .connective hk hlength hitems

theorem not_memberDenotes (hname : name.toList.head? = some '$')
    (hk : ∀ k : Connective, name ≠ k.spelling) :
    ¬ MemberDenotes name j g := by
  intro h
  cases h with
  | connective => exact hk _ rfl
  | negation => exact hk _ rfl
  | operators hname' | value hname' => exact hname' hname

theorem memberDenotes_field (hname : name.toList.head? ≠ some '$') :
    MemberDenotes name j g ↔
      OperatorsDenote name j g ∨ ¬ IsOperatorObject j ∧
      .test name (.compare .eq (.ofJson j)) = g := by
  constructor
  · intro h
    cases h with
    | connective => exact absurd rfl (ne_spelling hname _)
    | negation => exact absurd rfl (ne_spelling hname _)
    | operators _ h => exact .inl h
    | value _ h => exact .inr ⟨h, rfl⟩
  · rintro (h | ⟨h, rfl⟩)
    · exact .operators hname h
    · exact .value hname h

theorem memberFails_not : MemberFails Connective.not.spelling j e ↔ Fails j e := by
  constructor
  · intro h
    generalize hn : Connective.not.spelling = n at h
    cases h with
    | notFilters hk | operand hk => exact absurd (Connective.spelling_inj hn).symm hk
    | negation h => exact h
    | unknown _ hk => exact absurd hn.symm (hk .not)
    | operators hname => exact absurd hn.symm (ne_spelling hname .not)
  · exact .negation

theorem memberFails_connective {k : Connective} (hk : k ≠ .not) :
    MemberFails k.spelling j e ↔ (∀ items, j ≠ .array items) ∧ .notFilters k = e ∨
      ∃ items, j = .array items ∧ ∃ before i after, items = before ++ i :: after ∧
        (∀ b ∈ before, ∃ f, Denotes b f) ∧ Fails i e := by
  constructor
  · intro h
    generalize hn : k.spelling = n at h
    cases h with
    | notFilters _ h =>
      obtain rfl := Connective.spelling_inj hn
      exact .inl ⟨h, rfl⟩
    | operand _ hbefore h => exact .inr ⟨_, rfl, _, _, _, rfl, hbefore, h⟩
    | negation => exact absurd (Connective.spelling_inj hn) hk
    | unknown _ hne => exact absurd hn.symm (hne k)
    | operators hname => exact absurd hn.symm (ne_spelling hname k)
  · rintro (⟨h, rfl⟩ | ⟨items, rfl, before, i, after, rfl, hbefore, h⟩)
    · exact .notFilters hk h
    · exact .operand hk hbefore h

theorem memberFails_unknown (hname : name.toList.head? = some '$')
    (hk : ∀ k : Connective, name ≠ k.spelling) :
    MemberFails name j e ↔ .unknownConnective name = e := by
  constructor
  · intro h
    cases h with
    | notFilters => exact absurd rfl (hk _)
    | operand => exact absurd rfl (hk _)
    | negation => exact absurd rfl (hk _)
    | unknown => rfl
    | operators hname' => exact absurd hname hname'
  · rintro rfl
    exact .unknown hname hk

theorem memberFails_field (hname : name.toList.head? ≠ some '$') :
    MemberFails name j e ↔ IsOperatorObject j ∧ OperatorsFail name j e := by
  constructor
  · intro h
    cases h with
    | notFilters => exact absurd rfl (ne_spelling hname _)
    | operand => exact absurd rfl (ne_spelling hname _)
    | negation => exact absurd rfl (ne_spelling hname _)
    | unknown hname' => exact absurd hname' hname
    | operators _ hops h => exact ⟨hops, h⟩
  · rintro ⟨hops, h⟩
    exact .operators hname hops h

theorem operatorDenotes_not :
    OperatorDenotes field "$not" j g ↔ ∃ f, OperatorsDenote field j f ∧ .logical .not [f] = g := by
  constructor
  · intro h
    generalize hn : "$not" = n at h
    cases h with
    | negation h => exact ⟨_, h, rfl⟩
    | @test _ op => exact absurd hn.symm op.spelling_ne_not
    | elementOperators | elementFilter => exact absurd hn (by decide)
  · rintro ⟨f, hf, rfl⟩
    exact .negation hf

theorem operatorDenotes_test {op : Operator} (hop : op ≠ .elemMatch) :
    OperatorDenotes field op.spelling j g ↔ ∃ t, TestDenotes op j t ∧ .test field t = g := by
  constructor
  · intro h
    generalize hn : op.spelling = n at h
    cases h with
    | negation => exact absurd hn op.spelling_ne_not
    | test h =>
      obtain rfl := Operator.spelling_inj hn
      exact ⟨_, h, rfl⟩
    | elementOperators | elementFilter => exact absurd (@Operator.spelling_inj _ .elemMatch hn) hop
  · rintro ⟨t, ht, rfl⟩
    exact .test ht

theorem operatorDenotes_elemMatch :
    OperatorDenotes field "$elemMatch" j g ↔
      ∃ f, (IsElementObject j ∧ OperatorsDenote "" j f ∨ ¬ IsElementObject j ∧ Denotes j f) ∧
        .elemMatch field f = g := by
  constructor
  · intro h
    generalize hn : "$elemMatch" = n at h
    cases h with
    | negation => exact absurd hn (by decide)
    | test h =>
      obtain rfl := @Operator.spelling_inj .elemMatch _ hn
      cases h
    | elementOperators hops h => exact ⟨_, .inl ⟨hops, h⟩, rfl⟩
    | elementFilter hops h => exact ⟨_, .inr ⟨hops, h⟩, rfl⟩
  · rintro ⟨f, ⟨hops, hf⟩ | ⟨hops, hf⟩, rfl⟩
    · exact .elementOperators hops hf
    · exact .elementFilter hops hf

theorem not_operatorDenotes (hnot : name ≠ "$not") (hop : ∀ op : Operator, name ≠ op.spelling) :
    ¬ OperatorDenotes field name j g := by
  intro h
  cases h with
  | negation => exact hnot rfl
  | test => exact hop _ rfl
  | elementOperators | elementFilter => exact hop .elemMatch rfl

theorem operatorFails_not :
    OperatorFails field "$not" j e ↔
      ¬ IsOperatorObject j ∧ .notOperators field = e ∨ IsOperatorObject j ∧
      OperatorsFail field j e := by
  constructor
  · intro h
    generalize hn : "$not" = n at h
    cases h with
    | notOperators h => exact .inl ⟨h, rfl⟩
    | negation hops h => exact .inr ⟨hops, h⟩
    | unknown hnot => exact absurd hn.symm hnot
    | @wrongOperand _ op => exact absurd hn.symm op.spelling_ne_not
    | elementOperators | elementFilter => exact absurd hn (by decide)
  · rintro (⟨h, rfl⟩ | ⟨hops, h⟩)
    · exact .notOperators h
    · exact .negation hops h

theorem operatorFails_test {op : Operator} (hop : op ≠ .elemMatch) :
    OperatorFails field op.spelling j e ↔ ∃ expected, operandOf? op = some expected ∧
      ¬ Admits expected j ∧
      .wrongOperand op field expected j.kind = e := by
  constructor
  · intro h
    generalize hn : op.spelling = n at h
    cases h with
    | notOperators | negation => exact absurd hn op.spelling_ne_not
    | unknown _ hne => exact absurd hn.symm (hne op)
    | wrongOperand hexpected h =>
      obtain rfl := Operator.spelling_inj hn
      exact ⟨_, hexpected, h, rfl⟩
    | elementOperators | elementFilter => exact absurd (@Operator.spelling_inj _ .elemMatch hn) hop
  · rintro ⟨expected, hexpected, h, rfl⟩
    exact .wrongOperand hexpected h

theorem operatorFails_elemMatch :
    OperatorFails field "$elemMatch" j e ↔
      ¬ Admits .object j ∧ .wrongOperand .elemMatch field .object j.kind = e ∨
        Admits .object j ∧
          (IsElementObject j ∧ OperatorsFail "" j e ∨ ¬ IsElementObject j ∧ Fails j e) := by
  constructor
  · intro h
    generalize hn : "$elemMatch" = n at h
    cases h with
    | notOperators | negation => exact absurd hn (by decide)
    | unknown _ hne => exact absurd hn.symm (hne .elemMatch)
    | wrongOperand hexpected h =>
      obtain rfl := @Operator.spelling_inj .elemMatch _ hn
      obtain rfl := Option.some.inj hexpected
      exact .inl ⟨h, rfl⟩
    | elementOperators hops h =>
      obtain ⟨members, rfl, -⟩ := hops.1
      exact .inr ⟨⟨members, rfl⟩, .inl ⟨hops, h⟩⟩
    | elementFilter hops h => exact .inr ⟨⟨_, rfl⟩, .inr ⟨hops, h⟩⟩
  · rintro (⟨h, rfl⟩ | ⟨⟨members, rfl⟩, ⟨hops, h⟩ | ⟨hops, h⟩⟩)
    · exact @OperatorFails.wrongOperand field .elemMatch j .object rfl h
    · exact .elementOperators hops h
    · exact .elementFilter hops h

theorem operatorFails_unknown (hnot : name ≠ "$not") (hop : ∀ op : Operator, name ≠ op.spelling) :
    OperatorFails field name j e ↔ .unknownOperator name field = e := by
  constructor
  · intro h
    cases h with
    | notOperators | negation => exact absurd rfl hnot
    | unknown => rfl
    | wrongOperand => exact absurd rfl (hop _)
    | elementOperators | elementFilter => exact absurd rfl (hop .elemMatch)
  · rintro rfl
    exact .unknown hnot hop

end

end Filter

end DocumentQuery
