import DocumentQuery.Proofs.Cache.Session
import Mathlib.Data.List.DropRight

/-!
# The cache as a bounded queue

The entries and the order of a cache are two views of one queue of shapes: new shapes join at the
end, and when there are too many the first one leaves. `bounded_fifo` says that after every session
the cache holds the shapes that came last, and which request brings a shape in.
-/

namespace DocumentQuery.Cache

def shapes (entries : List (UInt64 × Template)) : List UInt64 := entries.map Prod.fst

theorem find_isSome (k : UInt64) (es : List (UInt64 × Template)) :
    (find k es).isSome = true ↔ k ∈ shapes es := by
  induction es with
  | nil => simp [find, shapes]
  | cons e rest ih =>
    by_cases h : e.1 = k
    · simp [find, shapes, h]
    · simp only [find, if_neg h, ih, shapes, List.map_cons, List.mem_cons, Ne.symm h, false_or]

theorem contains_iff (c : Cache) (k : UInt64) : c.contains k = true ↔ k ∈ shapes c.entries :=
  find_isSome k c.entries

theorem mem_of_find {k : UInt64} {t : Template} {es : List (UInt64 × Template)}
    (h : find k es = some t) : (k, t) ∈ es := by
  induction es with
  | nil => simp [find] at h
  | cons e rest ih =>
    by_cases hk : e.1 = k
    · simp only [find, if_pos hk, Option.some.injEq] at h
      exact List.mem_cons.mpr (.inl (by rw [← hk, ← h]))
    · simp only [find, if_neg hk] at h
      exact List.mem_cons_of_mem e (ih h)

theorem shapes_put_of_mem {k : UInt64} (t : Template) {es : List (UInt64 × Template)}
    (h : k ∈ shapes es) : shapes (put k t es) = shapes es := by
  induction es with
  | nil => simp [shapes] at h
  | cons e rest ih =>
    by_cases hk : e.1 = k
    · simp [put, shapes, hk]
    · have hr : k ∈ shapes rest := by simpa [shapes, Ne.symm hk] using h
      have hp := ih hr
      simp only [shapes] at hp
      simp [put, shapes, hk, hp]

theorem put_of_not_mem {k : UInt64} (t : Template) {es : List (UInt64 × Template)}
    (h : k ∉ shapes es) : put k t es = es ++ [(k, t)] := by
  induction es with
  | nil => rfl
  | cons e rest ih =>
    simp only [shapes, List.map_cons, List.mem_cons, not_or] at h
    simp only [put, if_neg (Ne.symm h.1), ih h.2, List.cons_append]

theorem mem_put {k : UInt64} {t : Template} {es : List (UInt64 × Template)} {e : UInt64 × Template}
    (h : e ∈ put k t es) : e = (k, t) ∨ e ∈ es := by
  induction es with
  | nil => exact .inl (by simpa [put] using h)
  | cons a rest ih =>
    by_cases hk : a.1 = k
    · simp only [put, if_pos hk, List.mem_cons] at h
      rcases h with h | h
      · exact .inl (by rw [h, hk])
      · exact .inr (List.mem_cons_of_mem a h)
    · simp only [put, if_neg hk, List.mem_cons] at h
      rcases h with h | h
      · exact .inr (h ▸ List.mem_cons_self)
      · exact (ih h).imp id (List.mem_cons_of_mem a)

theorem drop_head {e : UInt64 × Template} {rest : List (UInt64 × Template)}
    (h : (shapes (e :: rest)).Nodup) : drop e.1 (e :: rest) = rest := by
  have hn : e.1 ∉ shapes rest := (List.nodup_cons.mp h).1
  have hr : rest.filter (fun a => a.1 != e.1) = rest := by
    rw [List.filter_eq_self]
    intro a ha
    have hne : a.1 ≠ e.1 := fun he => hn (he ▸ List.mem_map_of_mem ha)
    simpa using hne
  simp [drop, hr]

/-- The entries and the order list the same shapes, none twice, each entry under its own shape, and
there are no more of them than the cache may hold. -/
structure Coherent (c : Cache) : Prop where
  shapes_eq : shapes c.entries = c.order
  nodup : c.order.Nodup
  own : ∀ e ∈ c.entries, e.2.shape = e.1
  size_le : c.size ≤ c.config.maxSize.toNat

theorem evict_eq (limit : Nat) (es : List (UInt64 × Template)) (order : List UInt64)
    (h : shapes es = order) (hn : order.Nodup) :
    evict limit es order = (es.drop (es.length - limit), order.drop (es.length - limit)) := by
  induction order generalizing es with
  | nil =>
    have he : es = [] := by simpa [shapes] using h
    simp [evict, he]
  | cons k rest ih =>
    match es with
    | [] => simp [shapes] at h
    | e :: es =>
      have hk : e.1 = k := by simpa [shapes] using congrArg List.head? h
      have hr : shapes es = rest := by simpa [shapes] using congrArg List.tail h
      simp only [evict]
      by_cases hl : limit < (e :: es).length
      · have hd : drop k (e :: es) = es := hk ▸ drop_head (h ▸ hn)
        have hs : (e :: es).length - limit = (es.length - limit) + 1 := by
          simp only [List.length_cons] at hl ⊢
          omega
        rw [if_pos hl, hd, ih es hr (List.nodup_cons.mp hn).2, hs]
        rfl
      · have hz : (e :: es).length - limit = 0 := by omega
        rw [if_neg hl, hz]
        rfl

variable {c : Cache}

namespace Coherent

theorem size_eq (h : Coherent c) : c.size = c.order.length := by
  rw [← h.shapes_eq, shapes, List.length_map, size]

theorem mem_order (h : Coherent c) (k : UInt64) : k ∈ c.order ↔ c.contains k = true := by
  rw [contains_iff, h.shapes_eq]

theorem own_get? (h : Coherent c) {k : UInt64} {t : Template} (ht : c.get? k = some t) :
    t.shape = k :=
  h.own (k, t) (mem_of_find ht)

theorem nodup_concat (h : Coherent c) {k : UInt64} (hk : c.contains k = false) :
    (c.order ++ [k]).Nodup := by
  have hm : k ∉ c.order := by
    rw [h.mem_order, hk]
    simp
  rw [List.nodup_append]
  refine ⟨h.nodup, by simp, ?_⟩
  intro a ha b hb he
  rw [List.mem_singleton] at hb
  exact hm (hb ▸ he ▸ ha)

theorem shapes_put (h : Coherent c) {t : Template} (ht : c.contains t.shape = true) :
    shapes (put t.shape t c.entries) = c.order := by
  rw [shapes_put_of_mem t ((c.contains_iff t.shape).mp ht), h.shapes_eq]

theorem length_put (h : Coherent c) {t : Template} (ht : c.contains t.shape = true) :
    (put t.shape t c.entries).length = c.size := by
  rw [h.size_eq, ← h.shapes_put ht, shapes, List.length_map]

end Coherent

theorem coherent_ofConfig (config : Config) : Coherent (ofConfig config) where
  shapes_eq := rfl
  nodup := List.nodup_nil
  own := by simp [ofConfig]
  size_le := Nat.zero_le _

theorem coherent_clear (c : Cache) : Coherent c.clear where
  shapes_eq := rfl
  nodup := List.nodup_nil
  own := by simp [clear]
  size_le := Nat.zero_le _

theorem insert_of_contains (h : Coherent c) {t : Template} (ht : c.contains t.shape = true) :
    c.insert t = { c with entries := put t.shape t c.entries } := by
  have hz : (put t.shape t c.entries).length - c.config.maxSize.toNat = 0 := by
    have hle := h.size_le
    rw [h.length_put ht]
    omega
  simp only [insert, ht, if_true, evict_eq _ _ _ (h.shapes_put ht) h.nodup, hz, List.drop_zero]

theorem insert_of_not_contains (h : Coherent c) {t : Template} (ht : c.contains t.shape = false) :
    c.insert t = { c with
      entries := (c.entries ++ [(t.shape, t)]).drop (c.size + 1 - c.config.maxSize.toNat)
      order := (c.order ++ [t.shape]).drop (c.size + 1 - c.config.maxSize.toNat) } := by
  have hm : t.shape ∉ shapes c.entries := by
    rw [← contains_iff, ht]
    simp
  have hs : shapes (c.entries ++ [(t.shape, t)]) = c.order ++ [t.shape] := by
    simp [shapes, ← h.shapes_eq]
  have hl : (c.entries ++ [(t.shape, t)]).length = c.size + 1 := by
    rw [List.length_append, size, List.length_singleton]
  simp only [insert, ht, put_of_not_mem t hm, Bool.false_eq_true, if_false,
    evict_eq _ _ _ hs (h.nodup_concat ht), hl]

theorem coherent_insert (h : Coherent c) (t : Template) : Coherent (c.insert t) := by
  cases ht : c.contains t.shape with
  | true =>
    rw [insert_of_contains h ht]
    refine ⟨h.shapes_put ht, h.nodup, ?_, ?_⟩
    · intro e he
      rcases mem_put he with rfl | he
      · rfl
      · exact h.own e he
    · simpa only [size, h.length_put ht] using h.size_le
  | false =>
    rw [insert_of_not_contains h ht]
    refine ⟨?_, (h.nodup_concat ht).sublist (List.drop_sublist _ _), ?_, ?_⟩
    · simp [shapes, List.map_drop, ← h.shapes_eq]
    · intro e he
      rcases List.mem_append.mp (List.mem_of_mem_drop he) with he | he
      · exact h.own e he
      · rw [List.mem_singleton] at he
        rw [he]
    · simp only [size, List.length_drop, List.length_append, List.length_singleton]
      omega

/-- Whether compiling the filter brings a new shape into the cache. -/
def stores (c : Cache) (s : Schema) (f : Filter) : Bool :=
  c.config.enabled && decide (0 < c.config.maxSize.toNat) && s.cacheable && !f.hasElemMatch &&
    !c.contains (f.shape s) && (f.compile s).isOk

/-- The shape that a request brings into the cache, if it was not there before. -/
def entering? (c : Cache) : Request → Option UInt64
  | .compile s f => if c.stores s f then some (f.shape s) else none
  | .select s _ f _ => if c.stores s f then some (f.shape s) else none
  | .insert t => if c.contains t.shape then none else some t.shape
  | .clear => none

/-- The shapes that entered the cache since it was last cleared, oldest first; the list holds those
that had entered before. -/
def arrivals : Cache → List UInt64 → List Request → List UInt64
  | _, past, [] => past
  | c, _, .clear :: rest => arrivals c.clear [] rest
  | c, past, q :: rest => arrivals (c.serve q).2 (past ++ (c.entering? q).toList) rest

theorem stores_iff (c : Cache) (s : Schema) (f : Filter) :
    c.stores s f = true ↔ c.admits s f = true ∧ c.contains (f.shape s) = false ∧
      ∃ ts, f.tokens s = .ok ts := by
  have hok : (f.compile s).isOk = true ↔ ∃ ts, f.tokens s = .ok ts := by
    cases h : f.tokens s <;> simp [Filter.compile, h, Except.map, Except.isOk, Except.toBool]
  simp only [stores, admits, isEnabled, Config.isActive, Bool.and_eq_true, hok, Bool.not_eq_true']
  tauto

/-- What compiling a filter does to the cache: it inserts the template of a new shape, or it only
counts. -/
theorem compile_cases (c : Cache) (s : Schema) (f : Filter) :
    (c.stores s f = true ∧ ∃ ts, f.tokens s = .ok ts ∧
      (c.compile s f).2 = { c with missCount := c.missCount + 1 }.insert
        ⟨f.shape s, Sql.text ts, (Sql.params ts).map Sql.Param.slot⟩) ∨
    (c.stores s f = false ∧
      ∃ hits misses, (c.compile s f).2 = { c with hitCount := hits, missCount := misses }) := by
  have hs := c.stores_iff s f
  cases ha : c.admits s f with
  | false =>
    refine .inr ⟨?_, c.hitCount, c.missCount, by simp [compile, ha]⟩
    simpa [ha] using hs
  | true =>
    cases hg : c.get? (f.shape s) with
    | some t =>
      have hc : c.contains (f.shape s) = true := by simp [contains, hg]
      refine .inr ⟨by simpa [ha, hc] using hs, ?_⟩
      simp only [compile, ha, if_true, hg, replay]
      cases f.literals with
      | error e => exact ⟨c.hitCount, c.missCount, rfl⟩
      | ok ps =>
        dsimp only
        split
        · exact ⟨c.hitCount + 1, c.missCount, rfl⟩
        · exact ⟨c.hitCount, c.missCount, rfl⟩
    | none =>
      have hc : c.contains (f.shape s) = false := by simp [contains, hg]
      simp only [compile, ha, if_true, hg, compileAndStore]
      cases ht : f.tokens s with
      | error e => exact .inr ⟨by simpa [ha, hc, ht] using hs, c.hitCount, c.missCount + 1, rfl⟩
      | ok ts => exact .inl ⟨by simpa [ha, hc, ht] using hs, ts, rfl, rfl⟩

theorem coherent_count (h : Coherent c) (hits misses : UInt64) :
    Coherent { c with hitCount := hits, missCount := misses } :=
  ⟨h.shapes_eq, h.nodup, h.own, h.size_le⟩

theorem coherent_compile (h : Coherent c) (s : Schema) (f : Filter) :
    Coherent (c.compile s f).2 := by
  rcases c.compile_cases s f with ⟨-, ts, -, he⟩ | ⟨-, hits, misses, he⟩
  · exact he ▸ coherent_insert (coherent_count h c.hitCount (c.missCount + 1)) _
  · exact he ▸ coherent_count h hits misses

theorem coherent_serve (h : Coherent c) (q : Request) : Coherent (c.serve q).2 := by
  cases q with
  | compile s f => exact coherent_compile h s f
  | select s table f o => exact c.select_snd s table f o ▸ coherent_compile h s f
  | insert t => exact coherent_insert h t
  | clear => exact coherent_clear c

theorem Coherent.rtake_order (h : Coherent c) : c.order.rtake c.config.maxSize.toNat = c.order := by
  have hle := h.size_le
  rw [h.size_eq] at hle
  rw [List.rtake, Nat.sub_eq_zero_of_le hle, List.drop_zero]

theorem order_insert_of_not_contains (h : Coherent c) (t : Template)
    (ht : c.contains t.shape = false) :
    (c.insert t).order = (c.order ++ [t.shape]).rtake c.config.maxSize.toNat := by
  simp [insert_of_not_contains h ht, List.rtake, h.size_eq]

theorem order_insert (h : Coherent c) (t : Template) :
    (c.insert t).order =
      (c.order ++ (c.entering? (.insert t)).toList).rtake c.config.maxSize.toNat := by
  cases ht : c.contains t.shape with
  | true => simp [insert_of_contains h ht, entering?, ht, h.rtake_order]
  | false => simp [order_insert_of_not_contains h t ht, entering?, ht]

theorem order_compile (h : Coherent c) (s : Schema) (f : Filter) :
    (c.compile s f).2.order =
      (c.order ++ (c.entering? (.compile s f)).toList).rtake c.config.maxSize.toNat := by
  rcases c.compile_cases s f with ⟨hs, ts, -, he⟩ | ⟨hs, hits, misses, he⟩
  · have hc : c.contains (f.shape s) = false := ((c.stores_iff s f).mp hs).2.1
    have ho := order_insert_of_not_contains (coherent_count h c.hitCount (c.missCount + 1))
      ⟨f.shape s, Sql.text ts, (Sql.params ts).map Sql.Param.slot⟩ hc
    rw [he, ho]
    simp [entering?, hs]
  · simp [he, entering?, hs, h.rtake_order]

/-- A request appends the shape that it brings in, and what is too much leaves at the front. -/
theorem order_serve (h : Coherent c) {q : Request} (hq : q ≠ .clear) :
    (c.serve q).2.order = (c.order ++ (c.entering? q).toList).rtake c.config.maxSize.toNat := by
  cases q with
  | compile s f => exact order_compile h s f
  | select s table f o => exact c.select_snd s table f o ▸ order_compile h s f
  | insert t => exact order_insert h t
  | clear => exact absurd rfl hq

theorem config_compile (c : Cache) (s : Schema) (f : Filter) :
    (c.compile s f).2.config = c.config := by
  rcases c.compile_cases s f with ⟨-, ts, -, he⟩ | ⟨-, hits, misses, he⟩ <;> rw [he]
  rfl

theorem config_serve (c : Cache) (q : Request) : (c.serve q).2.config = c.config := by
  cases q with
  | compile s f => exact c.config_compile s f
  | select s table f o => exact c.select_snd s table f o ▸ c.config_compile s f
  | insert t => rfl
  | clear => rfl

theorem coherent_after (h : Coherent c) (qs : List Request) : Coherent (c.after qs) :=
  after_induction (P := Coherent) (fun _ q hc => coherent_serve hc q) h qs

theorem config_after (c : Cache) (qs : List Request) : (c.after qs).config = c.config := by
  induction qs generalizing c with
  | nil => rfl
  | cons q rest ih => rw [after_cons, ih, config_serve]

theorem rtake_append_rtake (n : Nat) (xs ys : List UInt64) :
    (xs.rtake n ++ ys).rtake n = (xs ++ ys).rtake n := by
  simp only [List.rtake_eq_reverse_take_reverse, List.reverse_append, List.reverse_reverse,
    List.take_append, List.take_take]
  rw [Nat.min_eq_left (Nat.sub_le _ _)]

/-- If the order holds the last arrivals before a session, it does so after it. -/
theorem order_after (h : Coherent c) (past : List UInt64)
    (hp : c.order = past.rtake c.config.maxSize.toNat) (qs : List Request) :
    (c.after qs).order = (arrivals c past qs).rtake c.config.maxSize.toNat := by
  induction qs generalizing c past with
  | nil => exact hp
  | cons q rest ih =>
    have hc := coherent_serve h q
    have hcfg := c.config_serve q
    rw [after_cons, ← hcfg]
    by_cases hq : q = .clear
    · subst hq
      exact ih hc [] (by simp [serve, clear])
    · have ho := order_serve h hq
      have ha : arrivals c past (q :: rest) =
          arrivals (c.serve q).2 (past ++ (c.entering? q).toList) rest := by
        cases q <;> first | rfl | exact absurd rfl hq
      rw [ha]
      refine ih hc _ ?_
      rw [ho, hp, rtake_append_rtake, hcfg]

theorem contains_congr {d : Cache} (hc : Coherent c) (hd : Coherent d) (h : d.order = c.order)
    (k : UInt64) : d.contains k = c.contains k := by
  rw [Bool.eq_iff_iff, ← hd.mem_order, ← hc.mem_order, h]

theorem serve_of_entering?_none (h : Coherent c) {q : Request} (hq : q ≠ .clear)
    (he : c.entering? q = none) :
    (c.serve q).2.order = c.order ∧ ∀ k, (c.serve q).2.contains k = c.contains k := by
  have ho : (c.serve q).2.order = c.order := by
    rw [order_serve h hq, he, Option.toList_none, List.append_nil, h.rtake_order]
  exact ⟨ho, contains_congr h (coherent_serve h q) ho⟩

/-- A shape that a request brings in is new, and makes at most the first of the queue leave. -/
theorem serve_of_entering?_some (h : Coherent c) {q : Request} {k : UInt64}
    (he : c.entering? q = some k) :
    k ∉ c.order ∧
      ∃ evicted, evicted.length ≤ 1 ∧ c.order ++ [k] = evicted ++ (c.serve q).2.order := by
  have hq : q ≠ .clear := by
    rintro rfl
    simp [entering?] at he
  have hk : c.contains k = false := by
    cases q with
    | compile s f | select s table f o =>
      simp only [entering?, Option.ite_none_right_eq_some, Option.some.injEq] at he
      exact he.2 ▸ ((c.stores_iff s f).mp he.1).2.1
    | insert t =>
      simp only [entering?, Option.ite_none_left_eq_some, Option.some.injEq] at he
      exact he.2 ▸ by simpa using he.1
    | clear => exact absurd rfl hq
  refine ⟨by rw [h.mem_order, hk]; simp, ?_⟩
  have ho := order_serve h hq
  rw [he, Option.toList_some, List.rtake] at ho
  have hle := h.size_le
  rw [h.size_eq] at hle
  refine ⟨(c.order ++ [k]).take ((c.order ++ [k]).length - c.config.maxSize.toNat), ?_, ?_⟩
  · simp only [List.length_take, List.length_append, List.length_singleton]
    omega
  · rw [ho, List.take_append_drop]

/-- Compiling a filter adds its shape exactly if the cache is in use, the schema and the filter may
be cached, the shape is new and the filter has a condition. -/
theorem compile_adds_iff (h : Coherent c) (s : Schema) (f : Filter) :
    (c.contains (f.shape s) = false ∧ (c.compile s f).2.contains (f.shape s) = true) ↔
      c.config.enabled = true ∧ 0 < c.config.maxSize.toNat ∧ s.cacheable = true ∧
        f.hasElemMatch = false ∧ c.contains (f.shape s) = false ∧
        ∃ stmt, f.compile s = .ok stmt := by
  have hok : (f.compile s).isOk = true ↔ ∃ stmt, f.compile s = .ok stmt := by
    cases f.compile s <;> simp [Except.isOk, Except.toBool]
  have hs : c.stores s f = true ↔ c.config.enabled = true ∧ 0 < c.config.maxSize.toNat ∧
      s.cacheable = true ∧ f.hasElemMatch = false ∧ c.contains (f.shape s) = false ∧
      ∃ stmt, f.compile s = .ok stmt := by
    simp only [stores, Bool.and_eq_true, Bool.not_eq_true', decide_eq_true_eq, hok, and_assoc]
  rw [← hs]
  have ho := order_compile h s f
  constructor
  · rintro ⟨hb, ha⟩
    by_contra hn
    rw [← (coherent_compile h s f).mem_order, ho] at ha
    simp only [entering?, hn, if_false, Option.toList_none, List.append_nil, h.rtake_order,
      h.mem_order, hb, Bool.false_eq_true] at ha
  · intro hst
    have hpos := (hs.mp hst).2.1
    refine ⟨((c.stores_iff s f).mp hst).2.1, ?_⟩
    obtain ⟨m, hm⟩ := Nat.exists_eq_succ_of_ne_zero (Nat.pos_iff_ne_zero.mp hpos)
    rw [← (coherent_compile h s f).mem_order, ho, hm]
    simp [entering?, hst, List.rtake_concat_succ]

/-- After every session the entries and the order are one queue without repetition and within the
bound, and it holds the shapes that arrived last. A filter brings in its shape exactly under the
conditions named, a shape that comes in makes at most the oldest one leave, and what brings in none
changes no shape and no place in the queue. -/
theorem bounded_fifo (config : Config) (qs : List Request) :
    let c := (ofConfig config).after qs
    (c.order.Nodup ∧ (∀ k, k ∈ c.order ↔ c.contains k = true) ∧ c.size = c.order.length ∧
      (∀ k t, c.get? k = some t → t.shape = k) ∧ c.size ≤ config.maxSize.toNat) ∧
    c.order = (arrivals (ofConfig config) [] qs).rtake config.maxSize.toNat ∧
    (∀ s f, (c.contains (f.shape s) = false ∧ (c.compile s f).2.contains (f.shape s) = true) ↔
      config.enabled = true ∧ 0 < config.maxSize.toNat ∧ s.cacheable = true ∧
        f.hasElemMatch = false ∧ c.contains (f.shape s) = false ∧ ∃ stmt, f.compile s = .ok stmt) ∧
    (∀ q k, c.entering? q = some k → k ∉ c.order ∧
      ∃ evicted, evicted.length ≤ 1 ∧ c.order ++ [k] = evicted ++ (c.serve q).2.order) ∧
    (∀ q, q ≠ .clear → c.entering? q = none →
      (c.serve q).2.order = c.order ∧ ∀ k, (c.serve q).2.contains k = c.contains k) := by
  intro c
  have hc : Coherent c := coherent_after (coherent_ofConfig config) qs
  have hcfg : c.config = config := config_after (ofConfig config) qs
  refine ⟨⟨hc.nodup, hc.mem_order, hc.size_eq, fun k t => hc.own_get?, hcfg ▸ hc.size_le⟩,
    ?_, ?_, ?_, ?_⟩
  · exact order_after (coherent_ofConfig config) [] (by simp [ofConfig]) qs
  · intro s f
    exact hcfg ▸ compile_adds_iff hc s f
  · intro q k he
    exact serve_of_entering?_some hc he
  · intro q hq he
    exact serve_of_entering?_none hc hq he

end DocumentQuery.Cache
