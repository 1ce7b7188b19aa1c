import DocumentQuery.Proofs.Cache.Queue
import DocumentQuery.Proofs.Filter.Values
import DocumentQuery.Proofs.Schema.Agreement

/-!
# A cache that cannot be noticed

A template is found under a hash, so whether the answers of a cache are right depends on the hash.
As long as the streams that a session hashes have different hashes, every template that is held was
made for a filter of the same structure under a schema that agrees with the one at hand, and
`answers_eq_direct` follows: with the cache a session has the answers that it would have without.
-/

namespace DocumentQuery

open Sql (Statement Token)

namespace Request

/-- The answer to a request that asks no cache. -/
def direct : Request → Option (Except CompileError Statement)
  | .compile s f => some (f.compile s)
  | .select s table f o => some (s.compileSelect table f o)
  | .insert _ => none
  | .clear => none

/-- The streams of bytes that are hashed for a request: that of its schema, and that of its filter
under the hash of the schema. -/
def streams : Request → List (List UInt8)
  | .compile s f => [s.code, SipHash.wordBytes s.fingerprint ++ f.code]
  | .select s _ f _ => [s.code, SipHash.wordBytes s.fingerprint ++ f.code]
  | .insert _ => []
  | .clear => []

/-- Whether every length in the filter of the request fits a word. -/
def fitsWords : Request → Bool
  | .compile _ f => f.fitsWords
  | .select _ _ f _ => f.fitsWords
  | .insert _ => true
  | .clear => true

def isInsert : Request → Bool
  | .insert _ => true
  | _ => false

end Request

/-- No two of the streams have one hash. -/
def NoCollision (streams : List (List UInt8)) : Prop :=
  ∀ a ∈ streams, ∀ b ∈ streams, SipHash.hash a = SipHash.hash b → a = b

instance (streams : List (List UInt8)) : Decidable (NoCollision streams) := by
  unfold NoCollision
  infer_instance

namespace Filter

mutual

/-- A condition is refused for a fault of the filter, never for one of a template. -/
theorem condition_ne_templateMismatch (s : Schema) (root : Root) (f : Filter) (shape : UInt64)
    (expected found : List Sql.Slot) :
    f.condition s root ≠ .error (.templateMismatch shape expected found) := by
  intro h
  match f with
  | .everything => simp [condition] at h
  | .logical .and operands | .logical .or operands | .logical .nor operands =>
    have ih := conditions_ne_templateMismatch s root operands shape expected found
    simp only [condition] at h
    cases hc : conditions s root operands <;> simp_all [Except.map]
  | .logical .not [operand] =>
    have ih := condition_ne_templateMismatch s root operand shape expected found
    simp only [condition] at h
    cases hc : operand.condition s root <;> simp_all [Except.map]
  | .logical .not [] | .logical .not (_ :: _ :: _) => simp [condition] at h
  | .test path t =>
    simp only [condition] at h
    cases ho : t.objection? s root path <;> simp [ho] at h
  | .elemMatch path inner =>
    have ih := condition_ne_templateMismatch s (.element root.nextDepth) inner shape expected found
    simp only [condition] at h
    cases ho : s.objection? root path .elemMatch <;>
      cases hc : inner.condition s (.element root.nextDepth) <;> simp_all [Except.map]

theorem conditions_ne_templateMismatch (s : Schema) (root : Root) (fs : List Filter)
    (shape : UInt64) (expected found : List Sql.Slot) :
    conditions s root fs ≠ .error (.templateMismatch shape expected found) := by
  intro h
  match fs with
  | [] => simp [conditions] at h
  | f :: rest =>
    have hf := condition_ne_templateMismatch s root f shape expected found
    have hr := conditions_ne_templateMismatch s root rest shape expected found
    simp only [conditions] at h
    cases hc : f.condition s root <;> cases hd : conditions s root rest <;> simp_all [Except.map]

end

theorem compile_ne_templateMismatch (s : Schema) (f : Filter) (shape : UInt64)
    (expected found : List Sql.Slot) :
    f.compile s ≠ .error (.templateMismatch shape expected found) := by
  have h := f.condition_ne_templateMismatch s .document shape expected found
  cases hc : f.condition s .document <;> simp_all [compile, tokens, Except.map]

end Filter

theorem Options.compile_ne_templateMismatch (s : Schema) (o : Options) (shape : UInt64)
    (expected found : List Sql.Slot) :
    o.compile s ≠ .error (.templateMismatch shape expected found) := by
  have hp : ∀ option word count e,
      pagingClause option word count = .error e → ∃ n, e = .pagingTooLarge option n := by
    intro option word count e h
    cases count with
    | none => simp [pagingClause] at h
    | some n =>
      by_cases hn : n.toNat < 0x8000000000000000
      · simp only [pagingClause, pagingParam, if_pos hn, Except.map, reduceCtorEq] at h
      · simp only [pagingClause, pagingParam, if_neg hn, Except.map, Except.error.injEq] at h
        exact ⟨n, h.symm⟩
  intro h
  cases hl : pagingClause .limit .LIMIT o.limit with
  | error e =>
    obtain ⟨n, rfl⟩ := hp _ _ _ _ hl
    simp [compile, tokens, clauses, hl, Except.map] at h
  | ok limit =>
    cases hs : pagingClause .skip .OFFSET o.skip with
    | error e =>
      obtain ⟨n, rfl⟩ := hp _ _ _ _ hs
      simp [compile, tokens, clauses, hl, hs, Except.map] at h
    | ok skip => simp [compile, tokens, clauses, hl, hs, Except.map] at h

theorem Schema.compileSelect_ne_templateMismatch (s : Schema) (table : String) (f : Filter)
    (o : Options) (shape : UInt64) (expected found : List Sql.Slot) :
    s.compileSelect table f o ≠ .error (.templateMismatch shape expected found) := by
  have hf := f.compile_ne_templateMismatch s shape expected found
  have ho := o.compile_ne_templateMismatch s shape expected found
  cases hc : f.compile s <;> cases hd : o.compile s <;>
    simp_all [compileSelect, assembleSelect, Except.map]

theorem Request.direct_ne_templateMismatch (q : Request) (shape : UInt64)
    (expected found : List Sql.Slot) :
    q.direct ≠ some (.error (.templateMismatch shape expected found)) := by
  cases q with
  | compile s f => simpa [direct] using f.compile_ne_templateMismatch s shape expected found
  | select s table f o =>
    simpa [direct] using s.compileSelect_ne_templateMismatch table f o shape expected found
  | insert t => simp [direct]
  | clear => simp [direct]

namespace Cache

/-- Every entry is the template of some filter under some schema which the cache admits, and whose
streams are among those given. -/
def Faithful (streams : List (List UInt8)) (c : Cache) : Prop :=
  ∀ e ∈ c.entries, ∃ (s : Schema) (f : Filter) (ts : List Token), c.admits s f = true ∧
    s.code ∈ streams ∧
    SipHash.wordBytes s.fingerprint ++ f.code ∈ streams ∧ f.fitsWords = true ∧ f.tokens s = .ok ts ∧
    e = (f.shape s, ⟨f.shape s, Sql.text ts, (Sql.params ts).map Sql.Param.slot⟩)

variable {streams : List (List UInt8)} {c : Cache}

theorem mem_evict {limit : Nat} {es : List (UInt64 × Template)} {order : List UInt64}
    {e : UInt64 × Template} (h : e ∈ (evict limit es order).1) : e ∈ es := by
  induction order generalizing es with
  | nil => exact h
  | cons k rest ih =>
    simp only [evict] at h
    split at h
    · exact List.mem_of_mem_filter (ih h)
    · exact h

theorem mem_insert {t : Template} {e : UInt64 × Template} (h : e ∈ (c.insert t).entries) :
    e = (t.shape, t) ∨ e ∈ c.entries :=
  mem_put (mem_evict h)

/-- Filters that are found under one shape have one structure, and their schemas agree. -/
theorem structure_of_shape_eq (hn : NoCollision streams) {s t : Schema} {f g : Filter}
    (hs : s.code ∈ streams) (hf : SipHash.wordBytes s.fingerprint ++ f.code ∈ streams)
    (ht : t.code ∈ streams) (hg : SipHash.wordBytes t.fingerprint ++ g.code ∈ streams)
    (hfw : f.fitsWords = true) (hgw : g.fitsWords = true) (h : f.shape s = g.shape t) :
    s.Agree t ∧ f.erase = g.erase := by
  have hstream := hn _ hf _ hg h
  obtain ⟨hfp, hcode⟩ := SipHash.wordBytes_append_inj hstream
  have hsc : s.code = t.code := hn _ hs _ ht hfp
  refine ⟨Schema.code_inj.mp hsc, ?_⟩
  exact (f.code_append_inj g hfw hgw [] [] (by rw [hcode])).1

/-- A template that is found for a filter was made for a filter of its structure, and under its
schema it has the text and the slots of the filter, if the literals of the filter can be read. -/
theorem template_of_get? (hn : NoCollision streams) (hc : Faithful streams c) {s : Schema}
    {f : Filter} (hs : s.code ∈ streams) (hf : SipHash.wordBytes s.fingerprint ++ f.code ∈ streams)
    (hw : f.fitsWords = true) {t : Template} (hg : c.get? (f.shape s) = some t) :
    (∃ s₀ f₀, c.admits s₀ f₀ = true ∧ f₀.erase = f.erase) ∧
    (∀ e, f.literals = .error e → f.tokens s = .error e) ∧
    (∀ ps, f.literals = .ok ps → ps.map Sql.Param.slot = t.slots ∧
      ∃ us, f.tokens s = .ok us ∧ Sql.params us = ps ∧ Sql.text us = t.sql) := by
  obtain ⟨s₀, f₀, ts, ha₀, hs₀, hf₀, hw₀, hts, he⟩ := hc _ (mem_of_find hg)
  simp only [Prod.mk.injEq] at he
  obtain ⟨hk, rfl⟩ := he
  obtain ⟨ha, hstr⟩ := structure_of_shape_eq hn hs₀ hf₀ hs hf hw₀ hw hk.symm
  rw [ha.tokens_eq] at hts
  obtain ⟨herr, hok⟩ := Filter.tokens_of_erase_eq hstr hts
  refine ⟨⟨s₀, f₀, ha₀, hstr⟩, herr, fun ps hps => ?_⟩
  obtain ⟨us, hus, rfl, htext, hslots⟩ := hok ps hps
  exact ⟨hslots, us, hus, rfl, htext⟩

/-- An answer from a template is the one that compiling gives. -/
theorem compile_fst (hn : NoCollision streams) (hc : Faithful streams c) {s : Schema} {f : Filter}
    (hs : s.code ∈ streams) (hf : SipHash.wordBytes s.fingerprint ++ f.code ∈ streams)
    (hw : f.fitsWords = true) : (c.compile s f).1 = f.compile s := by
  unfold compile
  split
  · cases hg : c.get? (f.shape s) with
    | none =>
      simp only [compileAndStore, Filter.compile]
      cases f.tokens s <;> rfl
    | some t =>
      obtain ⟨-, herr, hok⟩ := template_of_get? hn hc hs hf hw hg
      simp only [replay, Filter.compile]
      cases hl : f.literals with
      | error e => simp only [herr e hl, Except.map]
      | ok ps =>
        obtain ⟨hslots, us, hus, rfl, htext⟩ := hok ps hl
        simp only [hus, hslots, if_true, Except.map, Statement.ofTokens, htext]
  · rfl

theorem faithful_compile (hc : Faithful streams c) {s : Schema} {f : Filter} (hs : s.code ∈ streams)
    (hf : SipHash.wordBytes s.fingerprint ++ f.code ∈ streams) (hw : f.fitsWords = true) :
    Faithful streams (c.compile s f).2 := by
  rcases c.compile_cases s f with ⟨hst, ts, hts, he⟩ | ⟨-, hits, misses, he⟩
  · rw [he]
    intro e hm
    rcases mem_insert hm with rfl | hm
    · exact ⟨s, f, ts, ((c.stores_iff s f).mp hst).1, hs, hf, hw, hts, rfl⟩
    · exact hc e hm
  · rw [he]
    exact hc

/-- A filter whose shape is held is admitted, unless it is for its schema that it is not. -/
theorem admits_of_contains (hn : NoCollision streams) (hc : Faithful streams c) {s : Schema}
    {f : Filter} (hs : s.code ∈ streams) (hf : SipHash.wordBytes s.fingerprint ++ f.code ∈ streams)
    (hw : f.fitsWords = true) (h : c.contains (f.shape s) = true) :
    c.isEnabled = true ∧ f.hasElemMatch = false := by
  obtain ⟨t, hg⟩ := Option.isSome_iff_exists.mp h
  obtain ⟨⟨s₀, f₀, hadmits, herase⟩, -⟩ := template_of_get? hn hc hs hf hw hg
  simp only [admits, Bool.and_eq_true, Bool.not_eq_true'] at hadmits
  have helem := f.hasElemMatch_erase
  rw [← herase, f₀.hasElemMatch_erase] at helem
  exact ⟨hadmits.1.1, helem ▸ hadmits.2⟩

/-- A filter that has a condition is answered from a template exactly if its shape is held and its
schema may be cached. -/
theorem hits_compile (hn : NoCollision streams) (hc : Faithful streams c) {s : Schema} {f : Filter}
    (hs : s.code ∈ streams) (hf : SipHash.wordBytes s.fingerprint ++ f.code ∈ streams)
    (hw : f.fitsWords = true) {ts : List Sql.Token} (hts : f.tokens s = .ok ts) :
    (c.compile s f).2.hitCount = c.hitCount + 1 ↔ c.contains (f.shape s) = true ∧
      s.cacheable = true := by
  have hne : c.hitCount ≠ c.hitCount + 1 := by simp
  cases hg : c.get? (f.shape s) with
  | none =>
    have hmiss : (c.compile s f).2.hitCount = c.hitCount := by
      simp only [compile, hg, compileAndStore, hts]
      split <;> rfl
    simp [hmiss, hne, contains, hg]
  | some t =>
    have hcontains : c.contains (f.shape s) = true := by simp [contains, hg]
    obtain ⟨henabled, helem⟩ := admits_of_contains hn hc hs hf hw hcontains
    have hadmits : c.admits s f = s.cacheable := by simp [admits, henabled, helem]
    obtain ⟨-, herr, hok⟩ := template_of_get? hn hc hs hf hw hg
    have hreplay : (c.replay t f).2.hitCount = c.hitCount + 1 := by
      cases hl : f.literals with
      | error e => simp [herr e hl] at hts
      | ok ps => simp only [replay, hl, (hok ps hl).1, if_true]
    cases hcache : s.cacheable with
    | true => simp [compile, hadmits, hcache, hg, hreplay, hcontains]
    | false => simp [compile, hadmits, hcache, hne]

theorem select_fst (c : Cache) (s : Schema) (table : String) (f : Filter) (o : Options)
    (h : (c.compile s f).1 = f.compile s) :
    (c.select s table f o).1 = s.compileSelect table f o := by
  unfold select Schema.compileSelect
  rw [← h]
  split <;> simp [*]

theorem serve_direct (hn : NoCollision streams) (hc : Faithful streams c) {q : Request}
    (hs : ∀ b ∈ q.streams, b ∈ streams) (hw : q.fitsWords = true) (hi : q.isInsert = false) :
    (c.serve q).1 = q.direct ∧ Faithful streams (c.serve q).2 := by
  cases q with
  | compile s f =>
    simp only [Request.streams, List.forall_mem_cons] at hs
    have ha := compile_fst hn hc hs.1 hs.2.1 hw
    exact ⟨congrArg some ha, faithful_compile hc hs.1 hs.2.1 hw⟩
  | select s table f o =>
    simp only [Request.streams, List.forall_mem_cons] at hs
    have ha := c.select_fst s table f o (compile_fst hn hc hs.1 hs.2.1 hw)
    exact ⟨congrArg some ha, c.select_snd s table f o ▸ faithful_compile hc hs.1 hs.2.1 hw⟩
  | insert t => simp [Request.isInsert] at hi
  | clear => exact ⟨rfl, by simp [Faithful, serve, clear]⟩

theorem answers_of_faithful (hn : NoCollision streams) (hc : Faithful streams c) (qs : List Request)
    (hs : ∀ q ∈ qs, ∀ b ∈ q.streams, b ∈ streams) (hw : ∀ q ∈ qs, q.fitsWords = true)
    (hi : ∀ q ∈ qs, q.isInsert = false) : c.answers qs = qs.map Request.direct := by
  induction qs generalizing c with
  | nil => rfl
  | cons q rest ih =>
    rw [List.forall_mem_cons] at hs hw hi
    obtain ⟨ha, hf⟩ := serve_direct hn hc hs.1 hw.1 hi.1
    rw [answers, List.map_cons, ha, ih hf hs.2 hw.2 hi.2]

/-- After requests whose streams are among those given, every entry is still a template of such a
filter. -/
theorem faithful_after (hn : NoCollision streams) (hc : Faithful streams c) (qs : List Request)
    (hs : ∀ q ∈ qs, ∀ b ∈ q.streams, b ∈ streams) (hw : ∀ q ∈ qs, q.fitsWords = true)
    (hi : ∀ q ∈ qs, q.isInsert = false) : Faithful streams (c.after qs) := by
  induction qs generalizing c with
  | nil => exact hc
  | cons q rest ih =>
    rw [List.forall_mem_cons] at hs hw hi
    exact ih (serve_direct hn hc hs.1 hw.1 hi.1).2 hs.2 hw.2 hi.2

/-- After a session of queries and clearances every entry is a template of what they asked for, or
of what some more requests do. -/
theorem faithful_session (config : Config) {qs all : List Request} (hsub : qs ⊆ all)
    (hi : ∀ q ∈ qs, q.isInsert = false) (hw : ∀ q ∈ all, q.fitsWords = true)
    (hn : NoCollision (all.flatMap Request.streams)) :
    Faithful (all.flatMap Request.streams) ((ofConfig config).after qs) := by
  have hempty : Faithful (all.flatMap Request.streams) (ofConfig config) := by
    simp [Faithful, ofConfig]
  exact faithful_after hn hempty qs (fun q hq b hb => List.mem_flatMap_of_mem (hsub hq) hb)
    (fun q hq => hw q (hsub hq)) hi

theorem compile_fst_session (config : Config) {qs all : List Request} (hsub : qs ⊆ all)
    (hi : ∀ q ∈ qs, q.isInsert = false) (hw : ∀ q ∈ all, q.fitsWords = true)
    (hn : NoCollision (all.flatMap Request.streams)) {s : Schema} {f : Filter}
    (hq : Request.compile s f ∈ all) :
    (((ofConfig config).after qs).compile s f).1 = f.compile s := by
  have hstreams : ∀ b ∈ (Request.compile s f).streams, b ∈ all.flatMap Request.streams := by
    intro b hb
    exact List.mem_flatMap_of_mem hq hb
  simp only [Request.streams, List.forall_mem_cons] at hstreams
  exact compile_fst hn (faithful_session config hsub hi hw hn) hstreams.1 hstreams.2.1 (hw _ hq)

/-- A session of queries and clearances has the answers that it would have without a cache, and none
of them blames a template, if no two of the streams that it hashes collide. -/
theorem answers_eq_direct (config : Config) (qs : List Request) (hi : ∀ q ∈ qs, q.isInsert = false)
    (hw : ∀ q ∈ qs, q.fitsWords = true) (hn : NoCollision (qs.flatMap Request.streams)) :
    (ofConfig config).answers qs = qs.map Request.direct ∧
      ∀ shape expected found,
        some (.error (.templateMismatch shape expected found)) ∉ (ofConfig config).answers qs := by
  have hs : ∀ q ∈ qs, ∀ b ∈ q.streams, b ∈ qs.flatMap Request.streams := by
    intro q hq b hb
    exact List.mem_flatMap.mpr ⟨q, hq, hb⟩
  have hf : Faithful (qs.flatMap Request.streams) (ofConfig config) := by
    simp [Faithful, ofConfig]
  have ha := answers_of_faithful hn hf qs hs hw hi
  refine ⟨ha, ?_⟩
  intro shape expected found hm
  rw [ha, List.mem_map] at hm
  obtain ⟨q, -, hq⟩ := hm
  exact q.direct_ne_templateMismatch shape expected found hq

/-- A collection of people whose age has a column. -/
def people (collection : String) : Schema where
  collection := collection
  bodyColumn := "data"
  fields := [⟨"age", "$.age", .integer, true, false, true, none⟩]
  indexes := []
  timestamps := false
  cacheable := true

/-- A miss, a hit, an entry of another schema that evicts the first, a pattern that the type of its
field refuses, and a query before and after the cache is cleared. -/
def ageSession : List Request := [
  .compile (people "users") (.test "age" (.compare .gte (.integer 18))),
  .compile (people "users") (.test "age" (.compare .gte (.integer 40))),
  .compile (people "staff") (.test "age" (.compare .gte (.integer 40))),
  .compile (people "users") (.test "age" (.pattern .like "1%")),
  .select (people "staff") "staff" (.test "age" (.compare .gte (.integer 65))) {},
  .clear,
  .select (people "staff") "staff" (.test "age" (.compare .gte (.integer 65))) {}]

theorem answers_eq_direct_ageSession :
    (∀ q ∈ ageSession, q.isInsert = false) ∧ (∀ q ∈ ageSession, q.fitsWords = true) ∧
    NoCollision (ageSession.flatMap Request.streams) ∧
    (ofConfig ⟨true, 1⟩).answers ageSession = ageSession.map Request.direct ∧
    ((ofConfig ⟨true, 1⟩).after ageSession).hits = 2 := by
  have hi : ∀ q ∈ ageSession, q.isInsert = false := by decide
  have hw : ∀ q ∈ ageSession, q.fitsWords = true := by decide +kernel
  have hn : NoCollision (ageSession.flatMap Request.streams) := by decide +kernel
  exact ⟨hi, hw, hn, (answers_eq_direct ⟨true, 1⟩ ageSession hi hw hn).1, by decide +kernel⟩

end Cache

end DocumentQuery
