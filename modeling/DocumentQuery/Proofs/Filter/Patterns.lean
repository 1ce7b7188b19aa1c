import DocumentQuery.Proofs.Filter.Compiled
import DocumentQuery.Proofs.Filter.Visits
import DocumentQuery.Proofs.Sql.Like

/-!
# What pattern operators find

An operator for the beginning, the end or a part of a text binds its operand with percent signs
around it. The texts that match what is bound are those that have, at the place the operator is
about, a text that matches the operand. Percent signs and underscores in the operand are not quoted,
so that they are wildcards as well: the operand is found as it is written exactly if it has none.
-/

namespace DocumentQuery

open Sql

/-- Where the operator looks for its operand in a text: the whole of it, its beginning, its end or
some part. -/
def Pattern.Place : Pattern → List Char → List Char → Prop
  | .like | .ilike => fun u t => u = t
  | .startsWith => fun u t => u <+: t
  | .endsWith => fun u t => u <:+ t
  | .contains => fun u t => u <:+: t

namespace Sql

theorem isInfix_separated {separator piece : List Token} {pieces : List (List Token)}
    (h : piece ∈ pieces) :
    piece <:+: separated separator pieces := by
  induction pieces with
  | nil => cases h
  | cons first rest ih =>
    cases rest with
    | nil =>
      rw [List.mem_singleton.mp h]
      exact List.infix_rfl
    | cons next rest =>
      rw [separated, List.append_assoc]
      rcases List.mem_cons.mp h with rfl | hrest
      · exact (List.prefix_append _ _).isInfix
      · exact (ih hrest).trans ((List.suffix_append _ _).trans (List.suffix_append _ _)).isInfix

theorem isInfix_parenthesized (tokens : List Token) : tokens <:+: parenthesized tokens :=
  ⟨[.symbol .opening], [.symbol .closing], rfl⟩

theorem isInfix_joined {word : Keyword} {piece : List Token} {pieces : List (List Token)}
    (h : piece ∈ pieces) : piece <:+: joined word pieces := by
  match pieces with
  | [only] =>
    rw [List.mem_singleton.mp h]
    exact List.infix_rfl
  | _ :: _ :: _ => exact (isInfix_separated h).trans (isInfix_parenthesized _)

theorem Condition.isInfix_someElement (r : Reference) (depth : Nat) (inner : Condition) :
    inner.tokens <:+: (someElement r depth inner).tokens := by
  have hselect : inner.tokens <:+:
    spaced [[.keyword .SELECT], [.number 1], [.keyword .FROM], r.each,
      [.keyword .AS], [.element depth], [.keyword .WHERE], inner.tokens] :=
    isInfix_separated (by simp)
  exact (hselect.trans (isInfix_parenthesized _)).trans (isInfix_separated (by simp))

end Sql

theorem Connective.isInfix_join? {k : Connective} {cs : List Condition} {c : Condition}
    (h : k.join? cs = some c) {ts : List Token} (hts : ts ∈ Condition.tokensOfList cs) :
    ts <:+: c.tokens := by
  match k, cs with
  | .and, _ | .or, _ =>
    obtain rfl := Option.some.inj h
    exact isInfix_joined hts
  | .nor, d :: ds =>
    obtain rfl := Option.some.inj h
    exact ((isInfix_separated hts).trans (isInfix_parenthesized _)).trans
      (isInfix_separated (List.mem_cons_of_mem _ List.mem_cons_self))
  | .not, [d] =>
    obtain rfl := Option.some.inj h
    rw [List.mem_singleton.mp hts]
    exact (isInfix_parenthesized _).trans
      (isInfix_separated (List.mem_cons_of_mem _ List.mem_cons_self))

namespace Filter

/-- The condition of a filter has the texts of all its tests in it. -/
theorem isInfix_condition {s : Schema} {root : Root} {f : Filter} {c : Condition}
    (h : f.condition s root = .ok c) {depth : Nat} (hroot : root = .ofDepth depth) {inner : Nat}
    {path : String} {t : Test} (ht : (inner, .test path t) ∈ f.visits depth) :
    (t.condition (s.resolveIn (.ofDepth inner) path) (inner + 1)).tokens <:+: c.tokens := by
  have step : Inductive s
      (fun root f c => ∀ depth inner path t, root = .ofDepth depth →
        (inner, .test path t) ∈ f.visits depth →
        (t.condition (s.resolveIn (.ofDepth inner) path) (inner + 1)).tokens <:+: c.tokens)
      (fun root fs cs => ∀ depth inner path t, root = .ofDepth depth →
        (inner, .test path t) ∈ visitsOfList depth fs → ∃ ts ∈ Condition.tokensOfList cs,
          (t.condition (s.resolveIn (.ofDepth inner) path) (inner + 1)).tokens <:+: ts) := {
    everything := fun _ _ _ _ _ _ ht => by simp [visits] at ht
    logical := fun _ k fs cs c hcs hj depth inner path t hroot ht => by
      have ht' : (inner, .test path t) ∈ visitsOfList depth fs := by simpa [visits] using ht
      obtain ⟨ts, hts, hinfix⟩ := hcs depth inner path t hroot ht'
      exact hinfix.trans (Connective.isInfix_join? hj hts)
    test := fun _ _ _ _ depth inner path t hroot ht => by
      obtain ⟨rfl, rfl, rfl⟩ : inner = depth ∧ path = _ ∧ t = _ := by simpa [visits] using ht
      rw [hroot, Root.nextDepth_ofDepth]
    elemMatch := fun root array f c hc depth inner path t hroot ht => by
      have ht' : (inner, .test path t) ∈ f.visits (depth + 1) := by simpa [visits] using ht
      refine (hc (depth + 1) inner path t ?_ ht').trans (Condition.isInfix_someElement _ _ _)
      rw [hroot, Root.nextDepth_ofDepth]
      rfl
    nil := fun _ _ _ _ _ _ ht => by simp [visitsOfList] at ht
    cons := fun root f fs c cs hc hcs depth inner path t hroot ht => by
      rcases List.mem_append.mp (by simpa only [visitsOfList] using ht) with ht | ht
      · exact ⟨c.tokens, List.mem_cons_self, hc depth inner path t hroot ht⟩
      · obtain ⟨ts, hts, hinfix⟩ := hcs depth inner path t hroot ht
        exact ⟨ts, List.mem_cons_of_mem _ hts, hinfix⟩ }
  exact step.holds root f h depth inner path t hroot ht

end Filter

namespace Pattern

/-- A text matches what is bound if it has, at the place, a text that matches the operand. -/
theorem like_slotPattern_iff (p : Pattern) (operand : String) (t : List Char) :
    Sql.like (slotPattern p.slot operand).toList t = true ↔ ∃ u, p.Place u t ∧
      Sql.like operand.toList u = true := by
  have hpercent : "%".toList = ['%'] := rfl
  cases p with
  | like | ilike => simp [slot, slotPattern, Place]
  | startsWith =>
    simp only [slot, slotPattern, Place, String.toList_append, hpercent, like_append]
    constructor
    · rintro ⟨u, v, rfl, hu, -⟩
      exact ⟨u, List.prefix_append u v, hu⟩
    · rintro ⟨u, ⟨v, rfl⟩, hu⟩
      exact ⟨u, v, rfl, hu, like_percent v⟩
  | endsWith =>
    simp only [slot, slotPattern, Place, String.toList_append, hpercent, like_append]
    constructor
    · rintro ⟨u, v, rfl, -, hv⟩
      exact ⟨v, List.suffix_append u v, hv⟩
    · rintro ⟨v, ⟨u, rfl⟩, hv⟩
      exact ⟨u, v, rfl, like_percent u, hv⟩
  | contains =>
    simp only [slot, slotPattern, Place, String.toList_append, hpercent, like_append]
    constructor
    · rintro ⟨w, v, rfl, ⟨u, m, rfl, -, hm⟩, -⟩
      exact ⟨m, ⟨u, v, rfl⟩, hm⟩
    · rintro ⟨m, ⟨u, v, rfl⟩, hm⟩
      exact ⟨u ++ m, v, rfl, ⟨u, m, rfl, like_percent u, hm⟩, like_percent v⟩

/-- A text has one at a place that is equal to the operand up to case exactly if this is so of the
two without case. -/
theorem place_lowered_iff (p : Pattern) (operand t : List Char) :
    (∃ u, p.Place u t ∧ lowered operand = lowered u) ↔ p.Place (lowered operand) (lowered t) := by
  cases p with
  | like | ilike => simp [Place]
  | startsWith => exact List.prefix_map_iff.symm
  | endsWith => exact List.suffix_map_iff.symm
  | contains => exact List.infix_map_iff.symm

theorem Place.eq_of_length_eq {p : Pattern} {u t : List Char} (h : p.Place u t)
    (hlength : u.length = t.length) :
    u = t := by
  cases p with
  | like | ilike => exact h
  | startsWith => exact List.IsPrefix.eq_of_length h hlength
  | endsWith => exact List.IsSuffix.eq_of_length h hlength
  | contains => exact List.IsInfix.eq_of_length h hlength

theorem place_self (p : Pattern) (t : List Char) : p.Place t t := by
  cases p with
  | like | ilike => rfl
  | startsWith => exact List.prefix_rfl
  | endsWith => exact List.suffix_rfl
  | contains => exact List.infix_rfl

theorem like_of_place_lowered {p : Pattern} {operand : String} {t : List Char}
    (h : p.Place (lowered operand.toList) (lowered t)) :
    Sql.like (slotPattern p.slot operand).toList t = true := by
  obtain ⟨u, hplace, hu⟩ := (p.place_lowered_iff operand.toList t).mpr h
  exact (p.like_slotPattern_iff operand t).mpr ⟨u, hplace, like_of_lowered_eq hu⟩

/-- What is bound finds nothing but the operand as it is written exactly if the operand has no
wildcards. -/
theorem finds_literally_iff (p : Pattern) (operand : String) :
    (∀ t, Sql.like (slotPattern p.slot operand).toList t = true ↔
      p.Place (lowered operand.toList) (lowered t)) ↔ ∀ c ∈ operand.toList, ¬ IsWildcard c := by
  constructor
  · intro h c hc hwildcard
    -- the operand with letters for its wildcards is found, though it is another text of the same
    -- length
    have hfound := (p.like_slotPattern_iff operand _).mpr
      ⟨_, p.place_self _, like_instanceOf operand.toList⟩
    refine lowered_instanceOf_ne ⟨c, hc, hwildcard⟩ (((h _).mp hfound).eq_of_length_eq ?_)
    simp [lowered, length_instanceOf]
  · intro h t
    rw [like_slotPattern_iff, ← place_lowered_iff]
    simp only [like_iff_of_no_wildcard h]

end Pattern

namespace Filter

/-- Every pattern test of a filter stands in its statement as a comparison with a placeholder, to
which a pattern is bound that is matched by the texts that have, at the place the operator is about,
a text that matches the operand. Those that have the operand itself there, up to case, are among
them, and they are all exactly if the operand has no wildcards. -/
theorem like_bound_iff {s : Schema} {f : Filter} {q : Statement} (hq : f.compile s = .ok q) :
    ∃ ts, f.tokens s = .ok ts ∧ q = .ofTokens ts ∧
      ∀ depth path (p : Pattern) operand, (depth, .test path (.pattern p operand)) ∈ f.visits 0 →
        ∃ bound : String,
          spaced [(s.resolveIn (.ofDepth depth) path).value, [.keyword .LIKE],
            [.param ⟨p.slot, .text bound⟩]] <:+: ts ∧
          (∀ t, like bound.toList t = true ↔ ∃ u, p.Place u t ∧ like operand.toList u = true) ∧
          (∀ t, p.Place (lowered operand.toList) (lowered t) → like bound.toList t = true) ∧
          ((∀ t, like bound.toList t = true ↔ p.Place (lowered operand.toList) (lowered t)) ↔
            ∀ c ∈ operand.toList, ¬ IsWildcard c) := by
  unfold compile tokens at hq
  cases hc : f.condition s .document with
  | error e => simp [hc, Except.map] at hq
  | ok c =>
    simp only [hc, Except.map, Except.ok.injEq] at hq
    have htokens : f.tokens s = .ok c.tokens := by rw [tokens, hc, Except.map]
    refine ⟨c.tokens, htokens, hq.symm, fun depth path p operand hvisit => ?_⟩
    refine ⟨slotPattern p.slot operand, ?_, p.like_slotPattern_iff operand,
      fun t => Pattern.like_of_place_lowered, p.finds_literally_iff operand⟩
    refine List.IsInfix.trans ?_ (isInfix_condition hc rfl hvisit)
    rw [Test.condition, Condition.tokens]
    by_cases hfold : (p == .ilike) = true
    · rw [if_pos hfold]
      refine ⟨[], [.blank, .keyword .COLLATE, .blank, .keyword .NOCASE], ?_⟩
      simp [spaced, separated, patternParam]
    · rw [if_neg hfold, List.append_nil]
      exact List.infix_rfl

/-- Guests by their names, which have a column. -/
def guests : Schema where
  collection := "guests"
  bodyColumn := "data"
  fields := [⟨"name", "$.name", .text, true, false, true, none⟩]
  indexes := []
  timestamps := false
  cacheable := true

/-- Guests of a name, or with a discount in some coupon. -/
def discounted : Filter :=
  .logical .or [.test "name" (.pattern .startsWith "An"),
    .elemMatch "coupons" (.test "" (.pattern .contains "50%"))]

theorem like_bound_iff_discounted :
    ∃ q ts, discounted.compile guests = .ok q ∧ discounted.tokens guests = .ok ts ∧
      q = .ofTokens ts ∧
      q.sql =
        "(_idx_name LIKE ? OR EXISTS (SELECT 1 FROM json_each(data, '$.coupons') AS _e1 WHERE " ++
        "_e1.value LIKE ?))" ∧
      (0, test "name" (.pattern .startsWith "An")) ∈ discounted.visits 0 ∧
      (1, test "" (.pattern .contains "50%")) ∈ discounted.visits 0 ∧
      (∃ bound : String, spaced [(guests.resolve "name").value, [.keyword .LIKE],
          [.param ⟨.startPattern, .text bound⟩]] <:+: ts ∧
        ∀ t, Sql.like bound.toList t = true ↔ ['a', 'n'] <+: lowered t) ∧
      ∃ bound : String,
        spaced [elementValue 1, [.keyword .LIKE], [.param ⟨.innerPattern, .text bound⟩]] <:+: ts ∧
        Sql.like bound.toList "1500 euros".toList = true := by
  have hname : (0, test "name" (.pattern .startsWith "An")) ∈ discounted.visits 0 := by
    simp [discounted, visits, visitsOfList]
  have hcoupon : (1, test "" (.pattern .contains "50%")) ∈ discounted.visits 0 := by
    simp [discounted, visits, visitsOfList]
  have hcompile : ∃ q, discounted.compile guests = .ok q := ⟨_, rfl⟩
  obtain ⟨q, hq⟩ := hcompile
  obtain ⟨ts, hts, htokens, hbound⟩ := like_bound_iff hq
  have hsql : (discounted.compile guests).toOption.map Statement.sql =
      some
        ("(_idx_name LIKE ? OR EXISTS (SELECT 1 FROM json_each(data, '$.coupons') AS _e1 WHERE " ++
        "_e1.value LIKE ?))") := by decide +kernel
  rw [hq] at hsql
  obtain ⟨first, hfirst, -, -, hliteral⟩ := hbound 0 "name" .startsWith "An" hname
  obtain ⟨second, hsecond, hplace, -, -⟩ := hbound 1 "" .contains "50%" hcoupon
  refine ⟨q, ts, hq, hts, htokens, Option.some.inj hsql, hname, hcoupon, ⟨first, hfirst, ?_⟩,
    second, hsecond, ?_⟩
  · exact hliteral.mpr (by simp [IsWildcard])
  · exact (hplace _).mpr ⟨['5', '0'], ⟨['1'], "0 euros".toList, rfl⟩, by decide⟩

/-- A name that begins with another letter after the first matches what is bound for a beginning
with an underscore. -/
theorem not_like_bound_literally :
    ∃ q bound, (test "name" (.pattern .startsWith "a_")).compile guests = .ok q ∧
      q.sql = "_idx_name LIKE ?" ∧ q.params = [.text bound] ∧
      Sql.like bound.toList "anna".toList = true ∧
      ¬ lowered "a_".toList <+: lowered "anna".toList :=
  ⟨_, "a_%", rfl, by decide +kernel, rfl, by decide, by decide⟩

end Filter

end DocumentQuery
