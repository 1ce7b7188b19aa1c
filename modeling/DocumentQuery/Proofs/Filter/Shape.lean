import DocumentQuery.Proofs.Filter.Structure

/-!
# Filters of one shape

Templates are found under a hash of the code of a filter, so the code has to tell apart all filters
that differ in more than their values, also where it is followed by other bytes.
`code_append_eq_iff` says that it does, and that it tells apart no others: two filters that differ
in structure have one shape only if the hash gives one number for two streams.
-/

namespace DocumentQuery

/-- Tests with one operator and equally long lists, or with one demand on whether the field is
there. -/
inductive Test.SameStructure : Test → Test → Prop
  | compare (c : Comparison) (v w : Value) : SameStructure (.compare c v) (.compare c w)
  | member (m : Membership) {vs ws : List Value} (h : vs.length = ws.length) :
      SameStructure (.member m vs) (.member m ws)
  | pattern (p : Pattern) (s t : String) : SameStructure (.pattern p s) (.pattern p t)
  | size (m n : Int64) : SameStructure (.size m) (.size n)
  | present (expected : Bool) : SameStructure (.present expected) (.present expected)

mutual

/-- Filters that are built alike: the same connectives with as many operands, the same paths, and
tests of one structure, inside array elements too. -/
inductive Filter.SameStructure : Filter → Filter → Prop
  | everything : SameStructure .everything .everything
  | logical (c : Connective) {fs gs : List Filter} (h : AllSameStructure fs gs) :
      SameStructure (.logical c fs) (.logical c gs)
  | test (path : String) {t u : Test} (h : t.SameStructure u) :
      SameStructure (.test path t) (.test path u)
  | elemMatch (path : String) {f g : Filter} (h : SameStructure f g) :
      SameStructure (.elemMatch path f) (.elemMatch path g)

/-- As many filters on both sides, of one structure one by one. -/
inductive Filter.AllSameStructure : List Filter → List Filter → Prop
  | nil : AllSameStructure [] []
  | cons {f g : Filter} {fs gs : List Filter} (h : SameStructure f g)
      (hs : AllSameStructure fs gs) :
      AllSameStructure (f :: fs) (g :: gs)

end

namespace Test

variable {t u : Test}

theorem SameStructure.operator_eq (h : t.SameStructure u) : t.operator = u.operator := by
  cases h <;> rfl

theorem SameStructure.operandCode_eq (h : t.SameStructure u) : t.operandCode = u.operandCode := by
  cases h with
  | member m hlength => simp only [operandCode, hlength]
  | _ => rfl

theorem sameStructure_of_erase_eq (h : t.erase = u.erase) : t.SameStructure u := by
  cases t <;> cases u <;> simp only [erase, reduceCtorEq, compare.injEq, member.injEq,
    pattern.injEq,
    present.injEq] at h
  case compare.compare c v d w =>
    obtain ⟨rfl, -⟩ := h
    exact .compare c v w
  case member.member m vs n ws =>
    obtain ⟨rfl, hvalues⟩ := h
    have hlength := congrArg List.length hvalues
    rw [List.length_map, List.length_map] at hlength
    exact .member m hlength
  case pattern.pattern p a q b =>
    obtain ⟨rfl, -⟩ := h
    exact .pattern p a b
  case size.size m n => exact .size m n
  case present.present a b =>
    subst h
    exact .present a

end Test

namespace Filter

mutual

theorem sameStructure_of_erase_eq (f g : Filter) (h : f.erase = g.erase) : f.SameStructure g := by
  match f, g with
  | .everything, .everything => exact .everything
  | .logical c fs, .logical d gs =>
    simp only [erase, logical.injEq] at h
    obtain ⟨rfl, hs⟩ := h
    exact .logical c (allSameStructure_of_eraseList_eq fs gs hs)
  | .test p t, .test q u =>
    simp only [erase, test.injEq] at h
    obtain ⟨rfl, ht⟩ := h
    exact .test p (Test.sameStructure_of_erase_eq ht)
  | .elemMatch p inner, .elemMatch q other =>
    simp only [erase, elemMatch.injEq] at h
    obtain ⟨rfl, hi⟩ := h
    exact .elemMatch p (sameStructure_of_erase_eq inner other hi)
  | .everything, .logical _ _ | .everything, .test _ _ | .everything, .elemMatch _ _
  | .logical _ _, .everything | .logical _ _, .test _ _ | .logical _ _, .elemMatch _ _
  | .test _ _, .everything | .test _ _, .logical _ _ | .test _ _, .elemMatch _ _
  | .elemMatch _ _, .everything | .elemMatch _ _, .logical _ _ | .elemMatch _ _, .test _ _ =>
    simp only [erase, reduceCtorEq] at h

theorem allSameStructure_of_eraseList_eq (fs gs : List Filter) (h : eraseList fs = eraseList gs) :
    AllSameStructure fs gs := by
  match fs, gs with
  | [], [] => exact .nil
  | f :: fs, g :: gs =>
    simp only [eraseList, List.cons.injEq] at h
    exact .cons (sameStructure_of_erase_eq f g h.1) (allSameStructure_of_eraseList_eq fs gs h.2)
  | [], _ :: _ | _ :: _, [] => simp only [eraseList, reduceCtorEq] at h

end

theorem AllSameStructure.length_eq {fs gs : List Filter} (h : AllSameStructure fs gs) :
    fs.length = gs.length := by
  match h with
  | .nil => rfl
  | .cons _ hs => rw [List.length_cons, List.length_cons, hs.length_eq]

mutual

theorem SameStructure.code_eq {f g : Filter} (h : f.SameStructure g) : f.code = g.code := by
  match h with
  | .everything => rfl
  | .logical c hs => simp only [code, hs.length_eq, hs.codeOfList_eq]
  | .test path ht => simp only [code, ht.operator_eq, ht.operandCode_eq]
  | .elemMatch path hi => simp only [code, hi.code_eq]

theorem AllSameStructure.codeOfList_eq {fs gs : List Filter} (h : AllSameStructure fs gs) :
    codeOfList fs = codeOfList gs := by
  match h with
  | .nil => rfl
  | .cons hf hs => simp only [codeOfList, hf.code_eq, hs.codeOfList_eq]

end

/-- The bytes whose hash is the shape of a filter under a schema. -/
def shapeCode (s : Schema) (f : Filter) : List UInt8 := SipHash.wordBytes s.fingerprint ++ f.code

/-- Whatever follows them, the codes of two filters agree exactly if the filters have one structure
and the same bytes follow. So they have one shape exactly if they have one structure or the hash
collides on what is hashed for them. -/
theorem code_append_eq_iff {f g : Filter} (hf : f.fitsWords = true) (hg : g.fitsWords = true) :
    (∀ xs ys : List UInt8, f.code ++ xs = g.code ++ ys ↔ f.SameStructure g ∧ xs = ys) ∧
    ∀ s : Schema, f.shape s = g.shape s ↔ f.SameStructure g ∨
      f.shapeCode s ≠ g.shapeCode s ∧ SipHash.hash (f.shapeCode s) =
        SipHash.hash (g.shapeCode s) := by
  have hcode (xs ys : List UInt8) : f.code ++ xs = g.code ++ ys ↔ f.SameStructure g ∧ xs = ys := by
    constructor
    · intro h
      obtain ⟨herase, hrest⟩ := code_append_inj f g hf hg xs ys h
      exact ⟨sameStructure_of_erase_eq f g herase, hrest⟩
    · rintro ⟨hsame, rfl⟩
      rw [hsame.code_eq]
  refine ⟨hcode, fun s => ?_⟩
  have hstream : f.shapeCode s = g.shapeCode s ↔ f.SameStructure g := by
    have h := hcode [] []
    rw [List.append_nil, List.append_nil, and_iff_left rfl] at h
    rw [shapeCode, shapeCode, List.append_cancel_left_eq, h]
  constructor
  · intro hshape
    by_cases hsame : f.SameStructure g
    · exact .inl hsame
    · exact .inr ⟨fun h => hsame (hstream.mp h), hshape⟩
  · rintro (hsame | ⟨-, hhash⟩)
    · exact congrArg SipHash.hash (hstream.mpr hsame)
    · exact hhash

/-- Documents with an item in one of the states, or with or without a note. -/
def itemsIn (states : List Value) (noted : Bool) : Filter :=
  .logical .or [.elemMatch "items" (.test "state" (.member .oneOf states)),
    .test "note" (.present noted)]

theorem code_append_eq_iff_itemsIn :
    (itemsIn [.text "open", .null] true).fitsWords = true ∧
    (itemsIn [.integer 1, .text "') OR ('"] true).fitsWords = true ∧
    (itemsIn [.text "open"] true).fitsWords = true ∧
    (∀ s : Schema, (itemsIn [.text "open", .null] true).shape s =
      (itemsIn [.integer 1, .text "') OR ('"] true).shape s) ∧
    ∀ xs ys : List UInt8,
      (itemsIn [.text "open", .null] true).code ++ xs ≠ (itemsIn [.text "open"] true).code ++
        ys := by
  have hf : (itemsIn [.text "open", .null] true).fitsWords = true := by decide +kernel
  have hg : (itemsIn [.integer 1, .text "') OR ('"] true).fitsWords = true := by decide +kernel
  have hh : (itemsIn [.text "open"] true).fitsWords = true := by decide +kernel
  have hsame : (itemsIn [.text "open", .null] true).SameStructure
      (itemsIn [.integer 1, .text "') OR ('"] true) :=
    .logical .or (.cons (.elemMatch "items" (.test "state" (.member .oneOf rfl)))
      (.cons (.test "note" (.present true)) .nil))
  refine ⟨hf, hg, hh, fun s => ((code_append_eq_iff hf hg).2 s).mpr (.inl hsame), fun xs ys h => ?_⟩
  have hother := (((code_append_eq_iff hf hh).1 xs ys).mp h).1
  exact absurd hother.code_eq (by decide +kernel)

end Filter

end DocumentQuery
