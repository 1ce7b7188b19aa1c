import DocumentQuery.Options.Reader
import Mathlib.Data.List.Forall2
import Mathlib.Data.List.Nodup

/-!
# Sort keys in JSON

An object of sort keys is read member by member. `ofJson_sort` says that options with such a member
are read exactly if they are read without it and each of its own members states a direction; the
keys are then those that are stated, in the order of the object.
-/

namespace DocumentQuery

theorem Json.Number.toInt64?_eq_some_iff {n : Json.Number} {m : Int64} :
    n.toInt64? = some m ↔ ∃ fits, n = .integer m.toInt fits := by
  cases n with
  | real x finite => simp [toInt64?]
  | integer n fits =>
    rw [toInt64?]
    constructor
    · intro h
      split at h
      · next hlt =>
        obtain rfl := Option.some.inj h
        have hn : (Int64.ofInt n).toInt = n := Int64.toInt_ofInt_of_le fits.1 hlt
        exact ⟨by rwa [hn], by simp [hn]⟩
      · cases h
    · rintro ⟨fits', heq⟩
      obtain rfl : n = m.toInt := by simpa using heq
      have hlt : m.toInt < 0x8000000000000000 := Int64.toInt_lt m
      rw [if_pos hlt, Int64.ofInt_toInt]

namespace Options

/-- The values that state a direction. -/
inductive States : Json → Direction → Prop
  | one (fits : Json.FitsWord 1) : States (.number (.integer 1 fits)) .ascending
  | minusOne (fits : Json.FitsWord (-1)) : States (.number (.integer (-1) fits)) .descending
  | asc {s : String} (h : s.toList.map Char.toLower = ['a', 's', 'c']) :
      States (.string s) .ascending
  | desc {s : String} (h : s.toList.map Char.toLower = ['d', 'e', 's', 'c']) :
      States (.string s) .descending

/-- The member of an object stands for the sort key. -/
def StatesKey (m : String × Json) (k : SortKey) : Prop := k.field = m.1 ∧ States m.2 k.direction

theorem directionOfJson?_eq_some_iff {j : Json} {d : Direction} :
    directionOfJson? j = some d ↔ States j d := by
  constructor
  · intro h
    cases j with
    | number n =>
      simp only [directionOfJson?, Json.Number.toInt64?_eq_some_iff] at h
      split at h
      · next hone =>
        obtain ⟨fits, rfl⟩ := hone
        obtain rfl := Option.some.inj h
        exact .one fits
      · split at h
        · next hminus =>
          obtain ⟨fits, rfl⟩ := hminus
          obtain rfl := Option.some.inj h
          exact .minusOne fits
        · cases h
    | string s =>
      simp only [directionOfJson?, sameWord, beq_iff_eq] at h
      split at h
      · next hasc =>
        obtain rfl := Option.some.inj h
        exact .asc hasc
      · split at h
        · next hdesc =>
          obtain rfl := Option.some.inj h
          exact .desc hdesc
        · cases h
    | null | bool | array | object => cases h
  · intro h
    cases h with
    | one | minusOne => rfl
    | asc h => simp [directionOfJson?, sameWord, h]
    | desc h => simp [directionOfJson?, sameWord, h]

/-- Sorts by all of these keys, one after the other. -/
def sortByAll (o : Options) (ks : List SortKey) : Options :=
  ks.foldl (fun o k => o.sortBy k.field k.direction) o

theorem sortByAll_eq {o : Options} {ks : List SortKey}
    (h : ((o.sort ++ ks).map SortKey.field).Nodup) :
    o.sortByAll ks = { o with sort := o.sort ++ ks } := by
  induction ks generalizing o with
  | nil => simp [sortByAll]
  | cons k rest ih =>
    have hnew : k.field ∉ o.sort.map SortKey.field := by
      rw [List.map_append, List.map_cons] at h
      exact fun hold => (List.nodup_append.mp h).2.2 _ hold _ List.mem_cons_self rfl
    have hkey : o.sortBy k.field k.direction = { o with sort := o.sort ++ [k] } := by
      rw [sortBy, setKey_of_not_mem _ hnew]
    rw [sortByAll, List.foldl_cons, hkey, ← sortByAll, ih (by simpa using h)]
    simp

/-- The keys of an object are added in order exactly if each of its members states a direction. -/
theorem addSort_eq_ok_iff {o next : Options} {members : List (String × Json)} :
    addSort o members = .ok next ↔
    ∃ ks, List.Forall₂ StatesKey members ks ∧ next = o.sortByAll ks := by
  induction members generalizing o with
  | nil => simp [addSort, sortByAll, eq_comm]
  | cons m rest ih =>
    obtain ⟨field, value⟩ := m
    cases hd : directionOfJson? value with
    | none =>
      simp only [addSort, hd, reduceCtorEq, false_iff]
      rintro ⟨ks, hstates, -⟩
      obtain _ | ⟨hkey, -⟩ := hstates
      have hsome := directionOfJson?_eq_some_iff.mpr hkey.2
      rw [hd] at hsome
      cases hsome
    | some d =>
      simp only [addSort, hd, ih]
      constructor
      · rintro ⟨ks, hstates, rfl⟩
        exact ⟨⟨field, d⟩ :: ks, .cons ⟨rfl, directionOfJson?_eq_some_iff.mp hd⟩ hstates, rfl⟩
      · rintro ⟨ks, hstates, rfl⟩
        obtain _ | ⟨hkey, hrest⟩ := hstates
        rename_i k ks
        have hdirection : k.direction = d := by
          have hsome := directionOfJson?_eq_some_iff.mpr hkey.2
          rw [hd] at hsome
          exact (Option.some.inj hsome).symm
        refine ⟨ks, hrest, ?_⟩
        rw [sortByAll, List.foldl_cons, hkey.1, hdirection, ← sortByAll]

theorem map_field_of_statesKey {members : List (String × Json)} {ks : List SortKey}
    (h : List.Forall₂ StatesKey members ks) : ks.map SortKey.field = members.map Prod.fst := by
  induction h with
  | nil => rfl
  | cons hkey _ ih => rw [List.map_cons, List.map_cons, hkey.1, ih]

/-- The options with other sort keys. -/
def withSort (ks : List SortKey) (o : Options) : Options := { o with sort := ks }

/-- The other members neither read the sort keys nor change them. -/
theorem addMember_withSort {name : String} (h : name ≠ "sort") (ks : List SortKey) (o : Options)
    (value : Json) :
    addMember (withSort ks o) name value = (addMember o name value).map (withSort ks) := by
  simp only [addMember, if_neg h]
  split
  · cases value.asUInt64? <;> rfl
  · split
    · cases value.asUInt64? <;> rfl
    · split
      · cases value.asArray?.bind fun items => items.mapM Json.asString? <;> rfl
      · rfl

theorem addMembers_withSort {members : List (String × Json)} (h : "sort" ∉ members.map Prod.fst)
    (ks : List SortKey) (o : Options) :
    addMembers (withSort ks o) members = (addMembers o members).map (withSort ks) := by
  induction members generalizing o with
  | nil => rfl
  | cons m rest ih =>
    obtain ⟨name, value⟩ := m
    rw [List.map_cons, List.mem_cons, not_or] at h
    rw [addMembers, addMember_withSort (Ne.symm h.1), addMembers]
    cases addMember o name value with
    | error e => rfl
    | ok o => exact ih h.2 o

theorem addMembers_append (o : Options) (before after : List (String × Json)) :
    addMembers o (before ++ after) = match addMembers o before with
      | .ok o => addMembers o after
      | .error e => .error e := by
  induction before generalizing o with
  | nil => rfl
  | cons m rest ih =>
    obtain ⟨name, value⟩ := m
    rw [List.cons_append, addMembers, addMembers]
    cases addMember o name value with
    | error e => rfl
    | ok o => exact ih o

theorem addMembers_sort {o next : Options} (ho : o.sort = []) {keys after : List (String × Json)}
    (hn : (keys.map Prod.fst).Nodup) (hafter : "sort" ∉ after.map Prod.fst) :
    addMembers o (("sort", .object keys) :: after) = .ok next ↔
      ∃ ks, List.Forall₂ StatesKey keys ks ∧ (addMembers o after).map (withSort ks) = .ok next := by
  have hsort : addMember o "sort" (.object keys) = addSort o keys := rfl
  have hadded {ks : List SortKey} (hstates : List.Forall₂ StatesKey keys ks) : o.sortByAll ks =
      withSort ks o := by
    rw [sortByAll_eq (by rwa [ho, List.nil_append, map_field_of_statesKey hstates]), ho]
    rfl
  constructor
  · intro h
    rw [addMembers, hsort] at h
    cases hkeys : addSort o keys with
    | error e => simp [hkeys] at h
    | ok sorted =>
      obtain ⟨ks, hstates, rfl⟩ := addSort_eq_ok_iff.mp hkeys
      refine ⟨ks, hstates, ?_⟩
      rw [← addMembers_withSort hafter, ← hadded hstates]
      simpa [hkeys] using h
  · rintro ⟨ks, hstates, h⟩
    have hkeys : addSort o keys = .ok (withSort ks o) :=
      addSort_eq_ok_iff.mpr ⟨ks, hstates, (hadded hstates).symm⟩
    rw [addMembers, hsort, hkeys, ← h, ← addMembers_withSort hafter]

theorem sort_addMembers {members : List (String × Json)} (h : "sort" ∉ members.map Prod.fst)
    {o : Options} (ho : addMembers {} members = .ok o) : o.sort = [] := by
  have hsame := addMembers_withSort h [] {}
  have hnew : withSort [] {} = {} := rfl
  rw [hnew, ho] at hsame
  exact congrArg Options.sort (Except.ok.inj hsame)

/-- An object is read with a member for the sort keys exactly if it is read without it, and the keys
are then those that the member states, in its order. -/
theorem ofJson_sort {before keys after : List (String × Json)}
    (h : "sort" ∉ (before ++ after).map Prod.fst) (hn : (keys.map Prod.fst).Nodup) (o : Options) :
    ofJson (.object (before ++ ("sort", .object keys) :: after)) = .ok o ↔
      ofJson (.object (before ++ after)) = .ok { o with sort := [] } ∧
      List.Forall₂ StatesKey keys o.sort := by
  have hjson (members : List (String × Json)) : ofJson (.object members) =
    addMembers {} members := rfl
  have hsplit := h
  rw [List.map_append, List.mem_append, not_or] at hsplit
  rw [hjson, hjson, addMembers_append, addMembers_append]
  cases hbefore : addMembers {} before with
  | error e => simp
  | ok first =>
    have hfirst : first.sort = [] := sort_addMembers hsplit.1 hbefore
    dsimp only
    rw [addMembers_sort hfirst hn hsplit.2]
    cases hafter : addMembers first after with
    | error e => simp [Except.map]
    | ok last =>
      have hlast : last.sort = [] :=
        sort_addMembers h (by rw [addMembers_append, hbefore]; exact hafter)
      constructor
      · rintro ⟨ks, hstates, hnext⟩
        obtain rfl := Except.ok.inj hnext
        exact ⟨by rw [withSort, ← hlast], hstates⟩
      · rintro ⟨hnext, hstates⟩
        obtain rfl := Except.ok.inj hnext
        exact ⟨o.sort, hstates, rfl⟩

end Options

end DocumentQuery
