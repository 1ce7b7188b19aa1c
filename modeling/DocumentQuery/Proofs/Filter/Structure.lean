import DocumentQuery.Proofs.Code.Bytes

/-!
# The structure of a filter

What is left of a filter when its values are taken away: the connectives with their numbers of
operands, the paths, the operators, the lengths of the lists, and whether a field has to be there.
The code of a filter determines its structure, and nothing that follows a code can be mistaken for a
part of it.
-/

namespace DocumentQuery

/-- The test with all its values replaced by the same ones. -/
def Test.erase : Test → Test
  | .compare c _ => .compare c .null
  | .member m vs => .member m (vs.map fun _ => .null)
  | .pattern p _ => .pattern p ""
  | .size _ => .size 0
  | .present expected => .present expected

/-- Whether the length of the list in the test fits a word. -/
def Test.fitsWords : Test → Bool
  | .member _ vs => vs.length < UInt64.size
  | _ => true

/-- Whether the length of the path in UTF-8 fits a word. -/
def pathFitsWord (path : String) : Bool := (SipHash.textBytes path).length < UInt64.size

namespace Filter

mutual

/-- The filter with all its values replaced by the same ones. Two filters have the same structure if
this makes them equal. -/
def erase : Filter → Filter
  | .everything => .everything
  | .logical c operands => .logical c (eraseList operands)
  | .test path t => .test path t.erase
  | .elemMatch path inner => .elemMatch path inner.erase

def eraseList : List Filter → List Filter
  | [] => []
  | f :: rest => f.erase :: eraseList rest

end

mutual

/-- Whether every length in the filter fits a word, as the length of anything in memory does. -/
def fitsWords : Filter → Bool
  | .everything => true
  | .logical _ operands => operands.length < UInt64.size && fitsWordsList operands
  | .test path t => pathFitsWord path && t.fitsWords
  | .elemMatch path inner => pathFitsWord path && inner.fitsWords

def fitsWordsList : List Filter → Bool
  | [] => true
  | f :: rest => f.fitsWords && fitsWordsList rest

end

mutual

theorem hasElemMatch_erase (f : Filter) : f.erase.hasElemMatch = f.hasElemMatch := by
  match f with
  | .everything => rfl
  | .logical c operands => exact anyElemMatch_eraseList operands
  | .test path t => rfl
  | .elemMatch path inner => rfl

theorem anyElemMatch_eraseList (fs : List Filter) :
    anyElemMatch (eraseList fs) = anyElemMatch fs := by
  match fs with
  | [] => rfl
  | f :: rest =>
    simp only [eraseList, anyElemMatch, hasElemMatch_erase f, anyElemMatch_eraseList rest]

end

end Filter

/-- The operator of a byte. -/
def Operator.ofCode? (b : UInt8) : Option Operator := all.find? fun op => op.code == b

theorem Operator.ofCode?_code (op : Operator) : ofCode? op.code = some op := by
  rcases op with c | m | p | _ | _ | _
  · cases c <;> decide
  · cases m <;> decide
  · cases p <;> decide
  all_goals decide

theorem Operator.code_inj {a b : Operator} (h : a.code = b.code) : a = b := by
  have ha := ofCode?_code a
  rw [h, ofCode?_code b] at ha
  exact (Option.some.inj ha).symm

theorem Connective.code_inj {a b : Connective} (h : a.code = b.code) : a = b := by
  cases a <;> cases b <;> first | rfl | exact absurd h (by decide)

theorem predicateCode_append_inj {p q : String} {a b : Operator} (hp : pathFitsWord p)
    (hq : pathFitsWord q) {xs ys : List UInt8}
    (h : predicateCode p a ++ xs = predicateCode q b ++ ys) : p = q ∧ a = b ∧ xs = ys := by
  simp only [pathFitsWord, decide_eq_true_eq] at hp hq
  simp only [predicateCode, List.cons_append, List.append_assoc, List.cons.injEq, true_and] at h
  obtain ⟨hn, h⟩ := countCode_append_inj hp hq h
  obtain ⟨hb, h⟩ := List.append_inj h hn
  simp only [List.nil_append, List.cons.injEq] at h
  exact ⟨SipHash.textBytes_inj.mp hb, Operator.code_inj h.1, h.2⟩

/-- Tests with one operator that write the same bytes differ in their values only. -/
theorem Test.operandCode_append_inj {t u : Test} (ht : t.fitsWords) (hu : u.fitsWords)
    (ho : t.operator = u.operator) {xs ys : List UInt8}
    (h : t.operandCode ++ xs = u.operandCode ++ ys) : t.erase = u.erase ∧ xs = ys := by
  cases t <;> cases u <;> simp only [operator, reduceCtorEq, Operator.compare.injEq,
    Operator.member.injEq, Operator.pattern.injEq] at ho
  case compare.compare => exact ⟨by simp only [erase, ho], h⟩
  case member.member m vs n ws =>
    simp only [fitsWords, decide_eq_true_eq] at ht hu
    obtain ⟨hl, hx⟩ := countCode_append_inj ht hu h
    exact ⟨by simp only [erase, ho, List.map_const', hl], hx⟩
  case pattern.pattern => exact ⟨by simp only [erase, ho], h⟩
  case size.size => exact ⟨rfl, h⟩
  case present.present a b =>
    simp only [operandCode, List.cons_append, List.nil_append, List.cons.injEq] at h
    have hab : a = b := by
      cases a <;> cases b <;> first | rfl | exact absurd h.1 (by decide)
    exact ⟨by simp only [erase, hab], h.2⟩

namespace Filter

mutual

/-- The code of a filter determines its structure, whatever follows it. -/
theorem code_append_inj (f g : Filter) (hf : f.fitsWords) (hg : g.fitsWords) (xs ys : List UInt8)
    (h : f.code ++ xs = g.code ++ ys) : f.erase = g.erase ∧ xs = ys := by
  match f, g with
  | .everything, .everything => exact ⟨rfl, by simpa [code] using h⟩
  | .logical c fs, .logical d gs =>
    simp only [fitsWords, Bool.and_eq_true, decide_eq_true_eq] at hf hg
    simp only [code, List.cons_append, List.append_assoc, List.cons.injEq, true_and] at h
    obtain ⟨hn, hx⟩ := countCode_append_inj hf.1 hg.1 h.2
    obtain ⟨he, hx⟩ := codeOfList_append_inj fs gs hn hf.2 hg.2 xs ys hx
    exact ⟨by simp only [erase, Connective.code_inj h.1, he], hx⟩
  | .test p t, .test q u =>
    simp only [fitsWords, Bool.and_eq_true] at hf hg
    simp only [code, List.append_assoc] at h
    obtain ⟨hp, ho, hx⟩ := predicateCode_append_inj hf.1 hg.1 h
    obtain ⟨he, hx⟩ := Test.operandCode_append_inj hf.2 hg.2 ho hx
    exact ⟨by simp only [erase, hp, he], hx⟩
  | .elemMatch p inner, .elemMatch q other =>
    simp only [fitsWords, Bool.and_eq_true] at hf hg
    simp only [code, List.append_assoc] at h
    obtain ⟨hp, -, hx⟩ := predicateCode_append_inj hf.1 hg.1 h
    obtain ⟨he, hx⟩ := code_append_inj inner other hf.2 hg.2 xs ys hx
    exact ⟨by simp only [erase, hp, he], hx⟩
  | .test p t, .elemMatch q other | .elemMatch q other, .test p t =>
    simp only [fitsWords, Bool.and_eq_true] at hf hg
    simp only [code, List.append_assoc] at h
    obtain ⟨-, ho, -⟩ := predicateCode_append_inj hf.1 hg.1 h
    cases t <;> simp [Test.operator] at ho
  | .everything, .logical _ _ | .everything, .test _ _ | .everything, .elemMatch _ _
  | .logical _ _, .everything | .logical _ _, .test _ _ | .logical _ _, .elemMatch _ _
  | .test _ _, .everything | .test _ _, .logical _ _
  | .elemMatch _ _, .everything | .elemMatch _ _, .logical _ _ =>
    simp [code, predicateCode] at h

theorem codeOfList_append_inj (fs gs : List Filter) (hn : fs.length = gs.length)
    (hf : fitsWordsList fs) (hg : fitsWordsList gs) (xs ys : List UInt8)
    (h : codeOfList fs ++ xs = codeOfList gs ++ ys) : eraseList fs = eraseList gs ∧ xs = ys := by
  match fs, gs with
  | [], [] => exact ⟨rfl, by simpa [codeOfList] using h⟩
  | f :: fs, g :: gs =>
    simp only [fitsWordsList, Bool.and_eq_true] at hf hg
    simp only [codeOfList, List.append_assoc] at h
    obtain ⟨he, hx⟩ := code_append_inj f g hf.1 hg.1 _ _ h
    obtain ⟨hes, hx⟩ := codeOfList_append_inj fs gs (Nat.succ.inj hn) hf.2 hg.2 xs ys hx
    exact ⟨by simp only [eraseList, he, hes], hx⟩

end

end Filter

end DocumentQuery
