import DocumentQuery.Cache.Basic

/-!
# Sessions with a cache

A session is a list of requests to one cache, each served in the state that the requests before it
left. Two callers who both miss the same shape both insert it, so a template may also be inserted
directly.
-/

namespace DocumentQuery

open Sql (Statement)

/-- What a cache is asked for. -/
inductive Request
  | compile (s : Schema) (f : Filter)
  | select (s : Schema) (table : String) (f : Filter) (o : Options)
  | insert (t : Template)
  | clear

namespace Cache

/-- The answer to a request, if it has one, and the cache after it. -/
def serve (c : Cache) : Request → Option (Except CompileError Statement) × Cache
  | .compile s f => (some (c.compile s f).1, (c.compile s f).2)
  | .select s table f o => (some (c.select s table f o).1, (c.select s table f o).2)
  | .insert t => (none, c.insert t)
  | .clear => (none, c.clear)

def after (c : Cache) (qs : List Request) : Cache := qs.foldl (fun c q => (c.serve q).2) c

def answers : Cache → List Request → List (Option (Except CompileError Statement))
  | _, [] => []
  | c, q :: rest => (c.serve q).1 :: answers (c.serve q).2 rest

@[simp] theorem after_nil (c : Cache) : c.after [] = c := rfl

@[simp] theorem after_cons (c : Cache) (q : Request) (rest : List Request) :
    c.after (q :: rest) = (c.serve q).2.after rest := rfl

theorem select_snd (c : Cache) (s : Schema) (table : String) (f : Filter) (o : Options) :
    (c.select s table f o).2 = (c.compile s f).2 := by
  unfold select
  split <;> simp [*]

theorem after_induction {P : Cache → Prop} (step : ∀ c q, P c → P (c.serve q).2) {c : Cache}
    (h : P c) (qs : List Request) : P (c.after qs) := by
  induction qs generalizing c with
  | nil => exact h
  | cons q rest ih => exact ih (step c q h)

end Cache

end DocumentQuery
