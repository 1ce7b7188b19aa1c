import DocumentQuery.Proofs.Filter.Accesses
import Mathlib.Data.List.Nodup

/-!
# The aliases in scope

Nested subqueries go by the aliases in order, and none of them hides another. What is read from the
elements under an alias is read inside of the subquery over them, and inside of filters on array
elements a part of a filter reads the elements at its own depth and nothing else.
-/

namespace DocumentQuery

open Sql

namespace Sql

@[simp] theorem length_aliases (depth : Nat) : (aliases depth).length = depth := by simp [aliases]

theorem elementAlias_inj {m n : Nat} : elementAlias m = elementAlias n ↔ m = n := by
  refine ⟨fun h => ?_, fun h => h ▸ rfl⟩
  have hdigits := congrArg String.toList h
  rw [elementAlias_toList, elementAlias_toList, List.cons_inj_right, List.cons_inj_right] at hdigits
  rw [← Nat.ofDigitChars_ten_toDigits (n := m), hdigits, Nat.ofDigitChars_ten_toDigits]

theorem nodup_aliases (depth : Nat) : (aliases depth).Nodup := by
  refine List.Nodup.map (fun m n h => ?_) List.nodup_range
  exact Nat.succ.inj (elementAlias_inj.mp h)

theorem elementAlias_mem (depth : Nat) : elementAlias (depth + 1) ∈ aliases (depth + 1) := by
  simp [aliases_succ]

namespace Access

/-- The aliases around and of a text are numbered from one, and it reads the elements of subqueries
around it only. -/
structure IsScoped (x : Access) : Prop where
  numbered : x.chain = aliases x.chain.length
  reads : ∃ us, x.uses = some us ∧
    ∀ source column, .qualified source column ∈ us → source ∈ x.scope ∧ column ∈ ["value", "type"]

/-- The text of a part of a filter reads the elements at the depth of the part and nothing else, or
it compares the items of an array that the part itself goes through. -/
def IsLocal (depth : Nat) (part : Filter) (x : Access) : Prop :=
  (x.scope = aliases depth ∧ ∃ column, x.uses = some [.qualified (elementAlias depth) column]) ∨
  (∃ path vs, part = .test path (.member .all vs)) ∧ x.introduces = none ∧
    x.scope = aliases (depth + 1) ∧ x.uses = some [.qualified (elementAlias (depth + 1)) "value"]

theorem IsScoped.of_single {x : Access} {n : Nat} (hchain : x.chain = aliases n) {u : ColumnUse}
    (huses : x.uses = some [u])
    (hu : ∀ source column, u = .qualified source column → source ∈ x.scope ∧
      column ∈ ["value", "type"]) :
    x.IsScoped := by
  refine ⟨by rw [hchain, length_aliases], [u], huses, fun source column hmem => ?_⟩
  exact hu source column (List.mem_singleton.mp hmem).symm

end Access

end Sql

theorem mem_aliases_of_mem_columnUses {s : Schema} {depth : Nat} {path source column : String}
    (h : .qualified source column ∈ (s.resolveIn (.ofDepth depth) path).columnUses) :
    source ∈ aliases depth ∧ column ∈ ["value", "type"] := by
  cases depth with
  | zero =>
    obtain ⟨name, hbare⟩ := s.bare_of_mem_columnUses h
    cases hbare
  | succ depth =>
    obtain ⟨name, hname, hqualified⟩ := s.qualified_of_mem_columnUses h
    cases hqualified
    exact ⟨elementAlias_mem depth, hname⟩

theorem isScoped_of_mem_accessesAt {s : Schema} {depth : Nat} {part : Filter} {x : Access}
    (h : x ∈ accessesAt s (depth, part)) : x.IsScoped := by
  rcases mem_accessesAt h with ⟨path, u, hu, rfl⟩ | ⟨-, path, rfl⟩ | ⟨-, rfl⟩
  · refine .of_single (n := depth) (List.append_nil _) rfl ?_
    rintro source column rfl
    exact mem_aliases_of_mem_columnUses hu
  · refine .of_single (n := depth + 1) (aliases_succ depth).symm rfl fun source column hplace => ?_
    exact mem_aliases_of_mem_columnUses (hplace ▸ Reference.placeUse_mem)
  · refine .of_single (n := depth + 1) (List.append_nil _) rfl fun source column hprobe => ?_
    cases hprobe
    exact ⟨elementAlias_mem depth, by simp⟩

/-- Inside of filters on array elements a part reads the elements at its own depth. -/
theorem isLocal_of_mem_accessesAt {s : Schema} {depth : Nat} (hdepth : 0 < depth) {part : Filter}
    {x : Access} (h : x ∈ accessesAt s (depth, part)) : x.IsLocal depth part := by
  obtain ⟨k, rfl⟩ : ∃ k, depth = k + 1 := ⟨depth - 1, by omega⟩
  rcases mem_accessesAt h with ⟨path, u, hu, rfl⟩ | ⟨-, path, rfl⟩ | ⟨hall, rfl⟩
  · obtain ⟨column, -, rfl⟩ := s.qualified_of_mem_columnUses hu
    exact .inl ⟨rfl, column, rfl⟩
  · exact .inl ⟨rfl, "value", by rw [sourceOf, Root.ofDepth, s.placeUse_element]⟩
  · exact .inr ⟨hall, rfl, rfl, rfl⟩

namespace Filter

/-- In the statement of a filter, nested subqueries go by the aliases in order, without repetition,
and what is read from an element is read inside the subquery over it. Text by text, the statement
reads what the parts of the filter read, and a part inside of filters on array elements reads the
elements at its own depth. -/
theorem isScoped_compile {d : Declaration} {s : Schema} (hs : d.build = .ok s) {f : Filter}
    {q : Statement} (hq : f.compile s = .ok q) :
    ∃ e, Sql.parse q = some e ∧
      (∀ x ∈ e.accesses [], x.IsScoped ∧ x.chain.Nodup) ∧
      e.accesses [] = (f.visits 0).flatMap (accessesAt s) ∧
      ∀ depth part, 0 < depth → (depth, part) ∈ f.visits 0 →
        ∀ x ∈ accessesAt s (depth, part), x.IsLocal depth part := by
  obtain ⟨e, hparse, haccesses⟩ := accesses_parse_compile hs hq
  refine ⟨e, hparse, fun x hx => ?_, haccesses, fun depth part hdepth _ x hx => ?_⟩
  · rw [haccesses] at hx
    obtain ⟨⟨depth, part⟩, -, hx⟩ := List.mem_flatMap.mp hx
    have hscoped := isScoped_of_mem_accessesAt hx
    exact ⟨hscoped, hscoped.numbered ▸ nodup_aliases _⟩
  · exact isLocal_of_mem_accessesAt hdepth hx

/-- A collection whose items are in an indexed field. -/
def carts : Declaration where
  collection := "carts"
  bodyColumn := "doc"
  fields := [{ name := "items", type := .text, indexed := true }]

/-- Items that have a red tag, in a field that is named like an element. -/
def redItems : Filter := .test "_e9.value" (.member .all [.text "red"])

/-- Arrays in an array, and another subquery of the same depth. -/
def bulkyCarts : Filter :=
  .logical .or [
    .elemMatch "items" (.logical .and [.elemMatch "sizes" (.test "" (.compare .gt (.integer 9))),
      redItems]),
    .elemMatch "notes" (.test "$" (.present true)),
    .test "items" (.pattern .contains "crate")]

def bulkyCartsAccesses : List Access := [
  { scope := [], introduces := "_e1", uses := some [.bare "doc"] },
  { scope := ["_e1"], introduces := "_e2", uses := some [.qualified "_e1" "value"] },
  { scope := ["_e1", "_e2"], uses := some [.qualified "_e2" "value"] },
  { scope := ["_e1"], introduces := "_e2", uses := some [.qualified "_e1" "value"] },
  { scope := ["_e1", "_e2"], uses := some [.qualified "_e2" "value"] },
  { scope := [], introduces := "_e1", uses := some [.bare "doc"] },
  { scope := ["_e1"], uses := some [.qualified "_e1" "type"] },
  { scope := [], uses := some [.bare "_idx_items"] }]

theorem isScoped_compile_bulkyCarts :
    ∃ s q e, carts.build = .ok s ∧ bulkyCarts.compile s = .ok q ∧ Sql.parse q = some e ∧
      (∀ x ∈ e.accesses [], x.IsScoped ∧ x.chain.Nodup) ∧ e.accesses [] = bulkyCartsAccesses ∧
      (1, redItems) ∈ bulkyCarts.visits 0 ∧ ∀ x ∈ accessesAt s (1, redItems),
        x.IsLocal 1 redItems := by
  have hok : carts.build.toOption.bind (fun s => (bulkyCarts.compile s).toOption.map fun _ =>
      (bulkyCarts.visits 0).flatMap (accessesAt s)) = some bulkyCartsAccesses := by decide +kernel
  obtain ⟨s, q, hs, hq, hcomputed⟩ := exists_of_compile hok
  obtain ⟨e, hparse, hscoped, haccesses, hlocal⟩ := isScoped_compile hs hq
  have hred : (1, redItems) ∈ bulkyCarts.visits 0 := by
    simp [bulkyCarts, visits, visitsOfList, redItems]
  exact ⟨s, q, e, hs, hq, hparse, hscoped, haccesses.trans hcomputed, hred,
    hlocal 1 redItems Nat.one_pos hred⟩

end Filter

end DocumentQuery
