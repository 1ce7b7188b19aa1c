import DocumentQuery.Command.Run
import DocumentQuery.Proofs.Cache.Transparency

/-!
# Sessions of commands

A session is a list of commands that share one cache. Each of them finds files of its own, since
files may change between two commands. To the cache a session is a list of requests, so what holds
after all requests holds after all commands.

The command that shows a shape also tells whether the template of the filter is held.
`shape_predicts_hit` says how far this tells where the next compilation takes its answer from.
-/

namespace DocumentQuery.Command

/-- What a command asks of the cache: nothing, unless it compiles and what it reads is right. -/
def Request.asked (files : Files) : Request → List DocumentQuery.Request
  | .compile schema filter options select =>
    match readCompile files schema filter options with
    | .error _ => []
    | .ok (s, f, o) => [if select then .select s s.collection f o else .compile s f]
  | _ => []

/-- What the commands of a session ask of the cache. -/
def asked (session : List (Files × Request)) : List DocumentQuery.Request :=
  session.flatMap fun step => step.2.asked step.1

/-- The cache after a session. -/
def cacheAfter (c : Cache) (session : List (Files × Request)) : Cache :=
  session.foldl (fun c step => (run c step.1 step.2).2) c

theorem readCompile_eq_ok {files : Files} {schema filter : String} {options : Option String}
    {s : Schema} {f : Filter} {o : Options} :
    readCompile files schema filter options = .ok (s, f, o) ↔
      Schema.load files schema = .ok s ∧ Filter.parse filter = .ok f ∧
      parseOptions options = .ok o := by
  simp only [readCompile, bind, Except.bind, pure, Except.pure]
  cases hs : Schema.load files schema with
  | error e => simp [Except.mapError]
  | ok t =>
    cases hf : Filter.parse filter with
    | error e => simp [Except.mapError]
    | ok g =>
      cases ho : parseOptions options with
      | error e => simp [Except.mapError]
      | ok p => simp [Except.mapError]

theorem run_shape_ok {c : Cache} {files : Files} {schema filter : String} {r : ShapeReport}
    (h : (run c files (.shape schema filter)).1 = .ok (.shape r)) :
    ∃ s f ts, readCompile files schema filter none = .ok (s, f, {}) ∧ f.tokens s = .ok ts ∧
      r.cached = c.contains (f.shape s) ∧ r.obstacle = obstacle? c s f := by
  simp only [run] at h
  cases hread : readCompile files schema filter none with
  | error e => simp [hread] at h
  | ok read =>
    obtain ⟨s, f, o⟩ := read
    obtain ⟨-, -, ho⟩ := readCompile_eq_ok.mp hread
    obtain rfl : {} = o := Except.ok.inj ho
    cases hts : f.tokens s with
    | error e => simp [hread, shapeReport, hts, Except.map, Except.mapError] at h
    | ok ts =>
      simp only [hread, shapeReport, hts, Except.map, Except.mapError, Except.ok.injEq,
        Report.shape.injEq] at h
      subst h
      exact ⟨s, f, ts, rfl, hts, rfl, rfl⟩

theorem compileReport_snd (c : Cache) (s : Schema) (f : Filter) (o : Options) (select : Bool) :
    (compileReport c s f o select).2 = (c.compile s f).2 := by
  cases select with
  | true => exact c.select_snd s s.collection f o
  | false =>
    simp only [compileReport, partsReport, Bool.false_eq_true, if_false]
    cases (c.compile s f).1 with
    | error e => rfl
    | ok condition =>
      dsimp only
      split <;> rfl

/-- One command does to the cache what it asks of it. -/
theorem run_snd (c : Cache) (files : Files) (q : Request) :
    (run c files q).2 = c.after (q.asked files) := by
  cases q with
  | compile schema filter options select =>
    simp only [run, Request.asked]
    cases readCompile files schema filter options with
    | error e => rfl
    | ok read =>
      obtain ⟨s, f, o⟩ := read
      cases select with
      | true => exact (compileReport_snd c s f o true).trans (c.select_snd s s.collection f o).symm
      | false => exact compileReport_snd c s f o false
  | shape schema filter =>
    simp only [run]
    cases readCompile files schema filter none <;> rfl
  | ddl schema => rfl
  | unknown word => rfl

/-- A session does to the cache what its commands ask of it. -/
theorem cacheAfter_eq (c : Cache) (session : List (Files × Request)) :
    cacheAfter c session = c.after (asked session) := by
  induction session generalizing c with
  | nil => rfl
  | cons step rest ih =>
    have happend (qs : List DocumentQuery.Request) :
        (c.after (step.2.asked step.1)).after qs = c.after (step.2.asked step.1 ++ qs) := by
      rw [Cache.after, Cache.after, Cache.after, List.foldl_append]
    rw [cacheAfter, List.foldl_cons, ← cacheAfter, ih, run_snd, happend, asked, asked,
      List.flatMap_cons]

theorem isInsert_of_mem_asked {session : List (Files × Request)} {q : DocumentQuery.Request}
    (h : q ∈ asked session) : q.isInsert = false := by
  obtain ⟨⟨files, command⟩, -, hq⟩ := List.mem_flatMap.mp h
  cases command with
  | compile schema filter options select =>
    simp only [Request.asked] at hq
    cases hread : readCompile files schema filter options with
    | error e => simp [hread] at hq
    | ok read =>
      simp only [hread, List.mem_singleton] at hq
      cases select <;> rw [hq] <;> rfl
  | shape schema filter | ddl schema | unknown word => simp [Request.asked] at hq

/-- What shows of a shape predicts the next compilation, after every session: the command that shows
it leaves the cache as it is, and if options that can be read come with the filter, its compilation
is answered from a template exactly if the shape is held and the schema may be cached. A shape that
is held while templates of its filter are not kept has a schema that may not be cached. -/
theorem shape_predicts_hit (config : Cache.Config) (session : List (Files × Request))
    (files : Files) (schema filter : String) {r : ShapeReport}
    (hw : ∀ q ∈ asked (session ++ [(files, .compile schema filter none false)]), q.fitsWords = true)
    (hn : NoCollision ((asked (session ++ [(files, .compile schema filter none false)])).flatMap
      DocumentQuery.Request.streams))
    (hr : (run (cacheAfter (.ofConfig config) session) files (.shape schema filter)).1 =
      .ok (.shape r)) :
    let c := cacheAfter (.ofConfig config) session
    (run c files (.shape schema filter)).2 = c ∧
    ∃ s, Schema.load files schema = .ok s ∧
      (∀ options select, (run c files (.compile schema filter options select)).2.hitCount =
        c.hitCount + 1 ↔
        r.cached = true ∧ s.cacheable = true ∧ ∃ o, parseOptions options = .ok o) ∧
      (r.cached = true → (r.obstacle = none ↔ s.cacheable = true)) := by
  intro c
  obtain ⟨s, f, ts, hread, hts, hcached, hobstacle⟩ := run_shape_ok hr
  have hasked : asked (session ++ [(files, .compile schema filter none false)]) =
      asked session ++ [DocumentQuery.Request.compile s f] := by
    simp [asked, Request.asked, hread]
  rw [hasked] at hw hn
  have hfaithful := Cache.faithful_session config (List.subset_append_left (asked session) _)
    (fun q hq => isInsert_of_mem_asked hq) hw hn
  rw [← cacheAfter_eq] at hfaithful
  have hlast : ∀ b ∈ (DocumentQuery.Request.compile s f).streams,
      b ∈ (asked session ++ [DocumentQuery.Request.compile s f]).flatMap
        DocumentQuery.Request.streams := by
    intro b hb
    exact List.mem_flatMap_of_mem (List.mem_append_right _ (List.mem_singleton_self _)) hb
  simp only [DocumentQuery.Request.streams, List.forall_mem_cons] at hlast
  have hfits : f.fitsWords = true := hw _ (List.mem_append_right _ (List.mem_singleton_self _))
  obtain ⟨hload, hfilter, -⟩ := readCompile_eq_ok.mp hread
  refine ⟨run_snd c files (.shape schema filter), s, hload, fun options select => ?_,
    fun hheld => ?_⟩
  · cases ho : parseOptions options with
    | error e =>
      have hunread : (run c files (.compile schema filter options select)).2 = c := by
        rw [run_snd, Request.asked]
        cases hr : readCompile files schema filter options with
        | error e => rfl
        | ok read =>
          obtain ⟨-, -, hok⟩ := readCompile_eq_ok.mp hr
          rw [ho] at hok
          cases hok
      simp [hunread]
    | ok o =>
      have hcompile : (run c files (.compile schema filter options select)).2 =
          (c.compile s f).2 := by
        simp only [run, readCompile_eq_ok.mpr ⟨hload, hfilter, ho⟩, compileReport_snd]
      rw [hcompile, Cache.hits_compile hn hfaithful hlast.1 hlast.2.1 hfits hts, hcached]
      simp
  · rw [hcached] at hheld
    obtain ⟨henabled, helem⟩ := Cache.admits_of_contains hn hfaithful hlast.1 hlast.2.1 hfits hheld
    rw [hobstacle, obstacle?, henabled, helem]
    cases s.cacheable <;> simp

/-- The report on a shape, if that is what a command answers. -/
def shapeReport? : Except Error Report → Option ShapeReport
  | .ok (.shape r) => some r
  | _ => none

theorem shapeReport?_eq_some {answer : Except Error Report} {r : ShapeReport} :
    shapeReport? answer = some r ↔ answer = .ok (.shape r) := by
  cases answer with
  | error e => simp [shapeReport?]
  | ok report => cases report <;> simp [shapeReport?]

/-- Two schema files that differ only in whether templates are kept. -/
def userFiles : Files := fun path =>
  if path = "users" then .ok "\x7b\"collection\":\"users\"\x7d"
  else if path = "guests" then .ok "\x7b\"collection\":\"users\",\"cacheable\":false\x7d"
  else .error .notFound

def olderThan (age : String) : String := "\x7b\"age\":\x7b\"$gt\":" ++ age ++ "\x7d\x7d"

/-- Users by their age, with and without a template, and a look at the tables. -/
def userSession : List (Files × Request) := [
  (userFiles, .compile "users" (olderThan "18") none true),
  (userFiles, .compile "guests" (olderThan "21") none false),
  (userFiles, .ddl "users")]

/-- The cache after these commands. -/
def userCache : Cache := cacheAfter (.ofConfig {}) userSession

/-- The same commands, and then users by their age once more. -/
def userSessionThen (schema : String) : List (Files × Request) :=
  userSession ++ [(userFiles, .compile schema (olderThan "65") none false)]

theorem shape_predicts_hit_userSession :
    (∀ q ∈ asked (userSessionThen "users"), q.fitsWords = true) ∧
    NoCollision ((asked (userSessionThen "users")).flatMap DocumentQuery.Request.streams) ∧
    ∃ r, (run userCache userFiles (.shape "users" (olderThan "65"))).1 = .ok (.shape r) ∧
      r.cached = true ∧ r.obstacle = none ∧
      (run userCache userFiles (.compile "users" (olderThan "65") none true)).2.hitCount =
        userCache.hitCount + 1 := by
  have hsession : (∀ q ∈ asked (userSessionThen "users"), q.fitsWords = true) ∧
      NoCollision ((asked (userSessionThen "users")).flatMap DocumentQuery.Request.streams) ∧
      (shapeReport? (run userCache userFiles (.shape "users" (olderThan "65"))).1).map
        (fun r => (r.cached, r.obstacle)) = some (true, none) := by decide +kernel
  obtain ⟨hw, hn, hshown⟩ := hsession
  obtain ⟨r, hr, hreport⟩ := Option.map_eq_some_iff.mp hshown
  rw [shapeReport?_eq_some] at hr
  simp only [Prod.mk.injEq] at hreport
  obtain ⟨-, s, -, hhits, hobstacle⟩ := shape_predicts_hit {} userSession userFiles _ _ hw hn hr
  have hcacheable : s.cacheable = true := (hobstacle hreport.1).mp hreport.2
  exact ⟨hw, hn, r, hr, hreport.1, hreport.2,
    (hhits none true).mpr ⟨hreport.1, hcacheable, {}, rfl⟩⟩

/-- A shape is shown as held although compiling for this schema, whose templates are not kept, does
not use the template. -/
theorem not_shape_predicts_hit :
    (∀ q ∈ asked (userSessionThen "guests"), q.fitsWords = true) ∧
    NoCollision ((asked (userSessionThen "guests")).flatMap DocumentQuery.Request.streams) ∧
    ∃ r, (run userCache userFiles (.shape "guests" (olderThan "65"))).1 = .ok (.shape r) ∧
      r.cached = true ∧ r.obstacle = some .schema ∧
      (run userCache userFiles (.compile "guests" (olderThan "65") none false)).2.hitCount =
        userCache.hitCount := by
  have hsession : (∀ q ∈ asked (userSessionThen "guests"), q.fitsWords = true) ∧
      NoCollision ((asked (userSessionThen "guests")).flatMap DocumentQuery.Request.streams) ∧
      (shapeReport? (run userCache userFiles (.shape "guests" (olderThan "65"))).1).map
        (fun r => (r.cached, r.obstacle)) = some (true, some .schema) ∧
      (run userCache userFiles (.compile "guests" (olderThan "65") none false)).2.hitCount =
        userCache.hitCount := by
    decide +kernel
  obtain ⟨hw, hn, hshown, hhits⟩ := hsession
  obtain ⟨r, hr, hreport⟩ := Option.map_eq_some_iff.mp hshown
  rw [shapeReport?_eq_some] at hr
  simp only [Prod.mk.injEq] at hreport
  exact ⟨hw, hn, r, hr, hreport.1, hreport.2, hhits⟩

end DocumentQuery.Command
