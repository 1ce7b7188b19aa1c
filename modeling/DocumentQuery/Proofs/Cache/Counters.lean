import DocumentQuery.Proofs.Cache.Transparency
import DocumentQuery.Proofs.Filter.Lengths

/-!
# What a cache counts

Every query that goes through an active cache finds the shape of its filter or misses it. A miss is
counted before the filter is compiled, and so whether this succeeds or not; a find is counted only
after the values of the filter have been bound. A query that finds its shape and stalls there is
counted nowhere. `hits_add_misses` says that these are the only ones that are left out, and that,
hashes apart, they are those that ask for a negative length. The counters are words, so that they
show a count exactly as long as it fits one.
-/

namespace DocumentQuery

namespace Request

/-- The schema and the filter of a query. -/
def query? : Request → Option (Schema × Filter)
  | .compile s f => some (s, f)
  | .select s _ f _ => some (s, f)
  | .insert _ => none
  | .clear => none

/-- Whether the request is a query that goes through an active cache. -/
def isEligible (q : Request) : Bool := q.query?.any fun (s, f) => s.cacheable && !f.hasElemMatch

/-- Whether the request is a query for an array of negative length. -/
def hasNegativeLength (q : Request) : Bool := q.query?.any fun (_, f) => !f.negativeLengths.isEmpty

end Request

namespace Cache

/-- Whether the shape of a query is held. -/
def holds (c : Cache) (q : Request) : Bool := q.query?.any fun (s, f) => c.contains (f.shape s)

/-- Whether the request is a query that goes through the cache and has to be compiled. -/
def isMiss (c : Cache) (q : Request) : Bool := q.isEligible && !c.holds q

/-- Whether the request is a query whose shape is held, but which has no answer from its
template. -/
def stalls (c : Cache) (q : Request) : Bool :=
  q.isEligible && c.holds q && q.query?.any fun (s, f) => (errorOf (c.compile s f).1).isSome

/-- Whether the request is a query that is answered from the template of its shape. -/
def isHit (c : Cache) (q : Request) : Bool := q.isEligible && c.holds q && !c.stalls q

/-- The requests of a session, each with the state in which it begins. -/
def begun : Cache → List Request → List (Cache × Request)
  | _, [] => []
  | c, q :: rest => (c, q) :: begun (c.serve q).2 rest

variable {c : Cache}

theorem isMiss_add_isHit_add_stalls (c : Cache) (q : Request) :
    (c.isMiss q).toNat + (c.isHit q).toNat + (c.stalls q).toNat = q.isEligible.toNat := by
  rw [isMiss, isHit, stalls]
  cases q.isEligible <;> cases c.holds q <;>
    cases q.query?.any fun (s, f) => (errorOf (c.compile s f).1).isSome <;> rfl

/-- A filter whose shape is held is answered with values bound to its template, and then counted, or
with an error. -/
theorem counts_replay (c : Cache) (t : Template) (f : Filter) :
    (c.replay t f).2.missCount = c.missCount ∧
    (c.replay t f).2.hitCount = c.hitCount + .ofNat (!(errorOf (c.replay t f).1).isSome).toNat := by
  unfold replay
  cases f.literals with
  | error e => exact ⟨rfl, (UInt64.add_zero _).symm⟩
  | ok ps =>
    dsimp only
    split
    · exact ⟨rfl, rfl⟩
    · exact ⟨rfl, (UInt64.add_zero _).symm⟩

/-- A filter whose shape is not held is counted whether it compiles or not. -/
theorem counts_compileAndStore (c : Cache) (s : Schema) (f : Filter) (shape : UInt64) :
    (c.compileAndStore s f shape).2.missCount = c.missCount + 1 ∧
    (c.compileAndStore s f shape).2.hitCount = c.hitCount := by
  unfold compileAndStore
  cases f.tokens s <;> exact ⟨rfl, rfl⟩

theorem counts_compile (h : c.isEnabled = true) (s : Schema) (f : Filter) :
    (c.compile s f).2.missCount = c.missCount + .ofNat (c.isMiss (.compile s f)).toNat ∧
    (c.compile s f).2.hitCount = c.hitCount + .ofNat (c.isHit (.compile s f)).toNat := by
  have heligible : (Request.compile s f).isEligible = c.admits s f := by
    simp [Request.isEligible, Request.query?, admits, h]
  have hholds : c.holds (.compile s f) = (c.get? (f.shape s)).isSome := rfl
  have hstalls : c.stalls (.compile s f) =
      (c.admits s f && (c.get? (f.shape s)).isSome && (errorOf (c.compile s f).1).isSome) := by
    rw [stalls, heligible, hholds]
    rfl
  rw [isHit, hstalls, isMiss, heligible, hholds, compile]
  cases hadmits : c.admits s f with
  | false => simp
  | true =>
    cases hget : c.get? (f.shape s) with
    | none =>
      have hcounts := c.counts_compileAndStore s f (f.shape s)
      simp [hcounts]
    | some t =>
      have hcounts := c.counts_replay t f
      simp [hcounts]

theorem counts_serve (h : c.isEnabled = true) (q : Request) :
    (c.serve q).2.missCount = c.missCount + .ofNat (c.isMiss q).toNat ∧
    (c.serve q).2.hitCount = c.hitCount + .ofNat (c.isHit q).toNat := by
  cases q with
  | compile s f => exact counts_compile h s f
  | select s table f o =>
    rw [serve, c.select_snd]
    exact counts_compile h s f
  | insert t => exact ⟨(UInt64.add_zero _).symm, (UInt64.add_zero _).symm⟩
  | clear => exact ⟨(UInt64.add_zero _).symm, (UInt64.add_zero _).symm⟩

theorem isEnabled_serve (c : Cache) (q : Request) : (c.serve q).2.isEnabled = c.isEnabled := by
  rw [isEnabled, config_serve]
  rfl

theorem mem_begun {qs : List Request} {b : Cache × Request} (h : b ∈ c.begun qs) :
    ∃ earlier later, qs = earlier ++ b.2 :: later ∧ b.1 = c.after earlier := by
  induction qs generalizing c with
  | nil => simp [begun] at h
  | cons q rest ih =>
    rw [begun, List.mem_cons] at h
    rcases h with rfl | h
    · exact ⟨[], rest, rfl, rfl⟩
    · obtain ⟨earlier, later, rfl, hstate⟩ := ih h
      exact ⟨q :: earlier, later, rfl, hstate⟩

theorem countP_begun_cons (p : Cache × Request → Bool) (c : Cache) (q : Request)
    (rest : List Request) :
    (c.begun (q :: rest)).countP p = ((c.serve q).2.begun rest).countP p + (p (c, q)).toNat := by
  rw [begun, List.countP_cons]
  cases p (c, q) <;> rfl

theorem countP_begun (c : Cache) (qs : List Request) :
    (c.begun qs).countP (fun b => b.1.isMiss b.2) + (c.begun qs).countP (fun b => b.1.isHit b.2) +
      (c.begun qs).countP (fun b => b.1.stalls b.2) = qs.countP Request.isEligible := by
  induction qs generalizing c with
  | nil => rfl
  | cons q rest ih =>
    have hq := c.isMiss_add_isHit_add_stalls q
    have hrest := ih (c.serve q).2
    have heligible : (q :: rest).countP Request.isEligible =
        rest.countP Request.isEligible + q.isEligible.toNat := by
      rw [List.countP_cons]
      cases q.isEligible <;> rfl
    simp only [countP_begun_cons, heligible]
    omega

theorem counts_after (h : c.isEnabled = true) (qs : List Request) :
    (c.after qs).missCount = c.missCount + .ofNat ((c.begun qs).countP fun b => b.1.isMiss b.2) ∧
    (c.after qs).hitCount = c.hitCount + .ofNat ((c.begun qs).countP fun b => b.1.isHit b.2) := by
  induction qs generalizing c with
  | nil => exact ⟨(UInt64.add_zero _).symm, (UInt64.add_zero _).symm⟩
  | cons q rest ih =>
    obtain ⟨hmisses, hhits⟩ := counts_serve h q
    obtain ⟨ihmisses, ihhits⟩ := ih ((c.isEnabled_serve q).trans h)
    simp only [after_cons, countP_begun_cons, ihmisses, ihhits, hmisses, hhits, UInt64.ofNat_add]
    exact ⟨by ac_rfl, by ac_rfl⟩

/-- A filter whose shape is held is answered with an error exactly if it has a negative length, as
long as the template was made for a filter of its structure. -/
theorem isSome_errorOf_compile {streams : List (List UInt8)} (hn : NoCollision streams)
    (hc : Faithful streams c) {s : Schema} {f : Filter} (hs : s.code ∈ streams)
    (hf : SipHash.wordBytes s.fingerprint ++ f.code ∈ streams) (hw : f.fitsWords = true)
    (hcache : s.cacheable = true) (hheld : c.contains (f.shape s) = true) :
    (errorOf (c.compile s f).1).isSome = !f.negativeLengths.isEmpty := by
  obtain ⟨henabled, helem⟩ := admits_of_contains hn hc hs hf hw hheld
  have hadmits : c.admits s f = true := by simp [admits, henabled, helem, hcache]
  obtain ⟨t, hget⟩ := Option.isSome_iff_exists.mp hheld
  obtain ⟨-, -, hslots⟩ := template_of_get? hn hc hs hf hw hget
  simp only [compile, hadmits, if_true, hget, replay]
  cases hread : f.literals with
  | error e =>
    obtain ⟨path, n, hmem⟩ := Filter.exists_literals_error_iff.mp ⟨e, hread⟩
    have hne : f.negativeLengths ≠ [] := List.ne_nil_of_mem hmem
    simpa [errorOf] using hne
  | ok ps =>
    have hnone : f.negativeLengths = [] := by
      by_contra hne
      obtain ⟨⟨path, n⟩, hmem⟩ := List.exists_mem_of_ne_nil _ hne
      obtain ⟨e, herror⟩ := Filter.exists_literals_error_iff.mpr ⟨path, n, hmem⟩
      rw [hread] at herror
      cases herror
    simp [(hslots ps hread).1, errorOf, hnone]

theorem stalls_compile_iff {streams : List (List UInt8)} (hn : NoCollision streams)
    (hc : Faithful streams c) {s : Schema} {f : Filter}
    (hs : ∀ b ∈ (Request.compile s f).streams, b ∈ streams) (hw : f.fitsWords = true) :
    c.stalls (.compile s f) = true ↔ (Request.compile s f).isEligible = true ∧
      c.holds (.compile s f) = true ∧
      (Request.compile s f).hasNegativeLength = true := by
  simp only [Request.streams, List.forall_mem_cons] at hs
  simp only [stalls, Bool.and_eq_true, and_assoc]
  refine and_congr_right fun heligible => and_congr_right fun hheld => ?_
  have hcache : s.cacheable = true := by
    simp only [Request.isEligible, Request.query?, Option.any_some, Bool.and_eq_true] at heligible
    exact heligible.1
  simp only [Request.query?, Request.hasNegativeLength, Option.any_some]
  rw [isSome_errorOf_compile hn hc hs.1 hs.2.1 hw hcache hheld]

/-- A query that finds its shape stalls exactly if it asks for a negative length. -/
theorem stalls_iff {streams : List (List UInt8)} (hn : NoCollision streams)
    (hc : Faithful streams c) {q : Request} (hs : ∀ b ∈ q.streams, b ∈ streams)
    (hw : q.fitsWords = true) :
    c.stalls q = true ↔ q.isEligible = true ∧ c.holds q = true ∧ q.hasNegativeLength = true := by
  cases q with
  | compile s f => exact stalls_compile_iff hn hc hs hw
  | select s table f o => exact stalls_compile_iff hn hc hs hw
  | insert t => simp [stalls, Request.isEligible, Request.query?]
  | clear => simp [stalls, Request.isEligible, Request.query?]

/-- A session with a cache that is in use counts as a miss every query, of those that go through the
cache, whose shape is not held when it begins, whether it succeeds or fails; and it counts every
other one of these queries as a hit, but for those that stall. The counts are taken modulo the size
of a word, and are exact as long as there are not more of these queries. If no two of the streams
that the session hashes collide, the queries that stall are those for a negative length. -/
theorem hits_add_misses {config : Config} (henabled : config.enabled = true)
    (hsize : 0 < config.maxSize) (qs : List Request) :
    let c := (ofConfig config).after qs
    let begun := (ofConfig config).begun qs
    (c.missCount = .ofNat (begun.countP fun b => b.2.isEligible && !b.1.holds b.2) ∧
      c.hitCount + c.missCount + .ofNat (begun.countP fun b => b.1.stalls b.2) =
        .ofNat (qs.countP Request.isEligible)) ∧
    (qs.countP Request.isEligible < UInt64.size →
      c.misses = begun.countP (fun b => b.2.isEligible && !b.1.holds b.2) ∧
      c.hits + c.misses + begun.countP (fun b => b.1.stalls b.2) = qs.countP Request.isEligible) ∧
    ((∀ q ∈ qs, q.isInsert = false) → (∀ q ∈ qs, q.fitsWords = true) →
      NoCollision (qs.flatMap Request.streams) →
      begun.countP (fun b => b.1.stalls b.2) =
        begun.countP (fun b => b.2.isEligible && b.1.holds b.2 && b.2.hasNegativeLength)) := by
  intro c begun
  have hactive : (ofConfig config).isEnabled = true := by
    have hpos : 0 < config.maxSize.toNat := UInt64.lt_iff_toNat_lt.mp hsize
    simp [isEnabled, ofConfig, Config.isActive, henabled, hpos]
  obtain ⟨hmisses, hhits⟩ := counts_after hactive qs
  have hsum : begun.countP (fun b => b.1.isMiss b.2) + begun.countP (fun b => b.1.isHit b.2) +
      begun.countP (fun b => b.1.stalls b.2) = qs.countP Request.isEligible := countP_begun _ qs
  have hmisses : c.missCount = .ofNat (begun.countP fun b => b.1.isMiss b.2) :=
    hmisses.trans (UInt64.zero_add _)
  have hhits : c.hitCount = .ofNat (begun.countP fun b => b.1.isHit b.2) :=
    hhits.trans (UInt64.zero_add _)
  refine ⟨⟨hmisses, ?_⟩, fun hfits => ?_, fun hi hw hn => ?_⟩
  · rw [hmisses, hhits, ← hsum, ← UInt64.ofNat_add, ← UInt64.ofNat_add,
      Nat.add_comm (begun.countP _)]
  · have hmissed : c.misses = begun.countP fun b => b.1.isMiss b.2 := by
      rw [misses, hmisses, UInt64.toNat_ofNat_of_lt' (by omega)]
    have hhit : c.hits = begun.countP fun b => b.1.isHit b.2 := by
      rw [hits, hhits, UInt64.toNat_ofNat_of_lt' (by omega)]
    exact ⟨hmissed, by omega⟩
  · refine List.countP_congr fun b hb => ?_
    obtain ⟨earlier, later, hsplit, hstate⟩ := mem_begun hb
    have hmem : b.2 ∈ qs := hsplit ▸ List.mem_append_right _ List.mem_cons_self
    have hsub : earlier ⊆ qs := hsplit ▸ List.subset_append_left _ _
    have hfaithful := faithful_session config hsub (fun q hq => hi q (hsub hq)) hw hn
    rw [← hstate] at hfaithful
    rw [stalls_iff hn hfaithful (fun a ha => List.mem_flatMap_of_mem hmem ha) (hw _ hmem)]
    simp only [Bool.and_eq_true, and_assoc]

/-- Queries by the number of tags: a miss, a hit, one that finds its shape but asks for a negative
number, a miss with a pattern that the type of its field refuses, a hit whose options are refused,
and two that do not go through the cache. -/
def tagSession : List Request := [
  .compile (people "users") (.test "tags" (.size 2)),
  .compile (people "users") (.test "tags" (.size 3)),
  .compile (people "users") (.test "tags" (.size (-1))),
  .compile (people "users") (.test "age" (.pattern .like "1%")),
  .select (people "users") "users" (.test "tags" (.size 4)) { limit := some 0xffffffffffffffff },
  .compile (people "users") (.elemMatch "tags" (.test "name" (.present true))),
  .compile { people "users" with cacheable := false } (.test "tags" (.size 2))]

theorem hits_add_misses_tagSession :
    (∀ q ∈ tagSession, q.isInsert = false) ∧ (∀ q ∈ tagSession, q.fitsWords = true) ∧
    NoCollision (tagSession.flatMap Request.streams) ∧
    tagSession.countP Request.isEligible = 5 ∧
    ((ofConfig ⟨true, 500⟩).after tagSession).misses = 2 ∧
    ((ofConfig ⟨true, 500⟩).after tagSession).hits = 2 := by
  have hi : ∀ q ∈ tagSession, q.isInsert = false := by decide
  have hw : ∀ q ∈ tagSession, q.fitsWords = true := by decide +kernel
  have hn : NoCollision (tagSession.flatMap Request.streams) := by decide +kernel
  have heligible : tagSession.countP Request.isEligible = 5 := by decide +kernel
  obtain ⟨-, hexact, hstall⟩ := @hits_add_misses ⟨true, 500⟩ rfl (by decide) tagSession
  obtain ⟨hmisses, hhits⟩ := hexact (by rw [heligible]; decide)
  have hmissed : ((ofConfig ⟨true, 500⟩).begun tagSession).countP
      (fun b => b.2.isEligible && !b.1.holds b.2) = 2 := by decide +kernel
  have hnegative : ((ofConfig ⟨true, 500⟩).begun tagSession).countP
      (fun b => b.2.isEligible && b.1.holds b.2 && b.2.hasNegativeLength) = 1 := by decide +kernel
  rw [hmissed] at hmisses
  rw [hstall hi hw hn, hnegative, heligible, hmisses] at hhits
  exact ⟨hi, hw, hn, heligible, hmisses, by omega⟩

/-- A query that finds its shape and asks for a negative length is counted nowhere. -/
theorem not_hits_add_misses :
    let qs : List Request := [
      .compile (people "users") (.test "tags" (.size 2)),
      .compile (people "users") (.test "tags" (.size (-1)))]
    let c := (ofConfig ⟨true, 500⟩).after qs
    c.misses = 1 ∧ c.hits = 0 ∧ c.hits + c.misses ≠ qs.countP Request.isEligible := by
  decide +kernel

end Cache

end DocumentQuery
