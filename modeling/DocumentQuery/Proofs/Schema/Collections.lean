import DocumentQuery.Proofs.Schema.Names
import Mathlib.Data.List.Basic

/-!
# Several collections in one database

Index names belong to the database and not to a table, so an index is named after its collection and
after what it is on, with underscores between. Underscores may also stand inside both parts. The
name of an index is that of one of another collection if one collection is called like the other
with an underscore and more behind it, and what follows goes on in the name of the index:
`Continues` says when.
-/

namespace DocumentQuery

open Sql (folded)

/-- The other collection has the name of the first one with an underscore and more behind it, and a
name of the first one becomes the same with the rest of the other name in front. -/
def Continues (collection other a b : String) : Prop :=
  ∃ rest, other = collection ++ "_" ++ rest ∧ identifierOf a = rest ++ "_" ++ identifierOf b

theorem indexName_toList (collection name : String) :
    (indexName collection name).toList =
      "idx_".toList ++ (collection.toList ++ '_' :: (identifierOf name).toList) := by
  simp [indexName, String.toList_append]

theorem indexName_eq_of_continues {collection other a b : String}
    (h : Continues collection other a b) :
    indexName collection a = indexName other b := by
  obtain ⟨rest, rfl, ha⟩ := h
  simp only [indexName, ha, String.append_assoc]

/-- Where a text is divided in two ways by underscores, the longer beginning goes on after the
shorter. -/
theorem continues_of_append_eq {collection other a b : String} {between : List Char}
    (hother : other.toList = collection.toList ++ between)
    (hrest : '_' :: (identifierOf a).toList = between ++ '_' :: (identifierOf b).toList)
    (hne : collection ≠ other) : Continues collection other a b := by
  cases between with
  | nil =>
    -- both are divided at one place, so the collections are the same
    rw [List.append_nil, String.toList_inj] at hother
    exact absurd hother.symm hne
  | cons c rest =>
    obtain ⟨rfl, ha⟩ := List.cons.inj hrest
    refine ⟨String.ofList rest, ?_, ?_⟩
    · rw [← String.toList_inj, hother]
      simp [String.toList_append]
    · rw [← String.toList_inj, ha]
      simp [String.toList_append]

theorem indexName_eq_iff {collection other : String} (hne : collection ≠ other) (a b : String) :
    indexName collection a = indexName other b ↔
      Continues collection other a b ∨ Continues other collection b a := by
  constructor
  · intro h
    have hlist := congrArg String.toList h
    rw [indexName_toList, indexName_toList, List.append_cancel_left_eq,
      List.append_eq_append_iff] at hlist
    rcases hlist with ⟨between, hother, hrest⟩ | ⟨between, hcollection, hrest⟩
    · exact .inl (continues_of_append_eq hother hrest hne)
    · exact .inr (continues_of_append_eq hcollection hrest (Ne.symm hne))
  · rintro (h | h)
    · exact indexName_eq_of_continues h
    · exact (indexName_eq_of_continues h).symm

namespace Schema

/-- Two collections have no index name in common exactly if neither continues the other with the
names of its indexes. A database that has both gets all of their indexes exactly if the names differ
beyond the case of letters, in each collection and between the two. -/
theorem disjoint_indexNames_iff {d e : Declaration} {s t : Schema} (hs : d.build = .ok s)
    (ht : e.build = .ok t) (hne : s.collection ≠ t.collection) :
    ((s.indexDefinitions.map IndexDefinition.name).Disjoint
      (t.indexDefinitions.map IndexDefinition.name) ↔
      ∀ a ∈ s.indexSources, ∀ b ∈ t.indexSources,
        ¬Continues s.collection t.collection a b ∧ ¬Continues t.collection s.collection b a) ∧
    (createIndexes (createIndexes [] s.indexDefinitions) t.indexDefinitions =
        s.indexDefinitions ++ t.indexDefinitions ↔
      DifferBeyondCase s.indexSources ∧ DifferBeyondCase t.indexSources ∧
        ((s.indexDefinitions.map IndexDefinition.name).map folded).Disjoint
          ((t.indexDefinitions.map IndexDefinition.name).map folded)) := by
  constructor
  · rw [names_indexDefinitions, names_indexDefinitions]
    constructor
    · intro hdisjoint a ha b hb
      rw [← not_or, ← indexName_eq_iff hne]
      intro hname
      apply hdisjoint (List.mem_map_of_mem ha)
      rw [hname]
      exact List.mem_map_of_mem hb
    · intro hcontinues name hfirst hsecond
      obtain ⟨a, ha, rfl⟩ := List.mem_map.mp hfirst
      obtain ⟨b, hb, hname⟩ := List.mem_map.mp hsecond
      have h := hcontinues a ha b hb
      rw [← not_or, ← indexName_eq_iff hne] at h
      exact h hname.symm
  · have hboth : createIndexes (createIndexes [] s.indexDefinitions) t.indexDefinitions =
        createIndexes [] (s.indexDefinitions ++ t.indexDefinitions) := by
      simp only [createIndexes, List.foldl_append]
    have hcreated := createIndexes_eq_append_iff [] (s.indexDefinitions ++ t.indexDefinitions)
    rw [List.nil_append] at hcreated
    rw [hboth, hcreated, List.map_append, List.nodup_append', nodup_folded_indexNames_iff hs,
      nodup_folded_indexNames_iff ht, List.map_map, List.map_map]
    simp [Function.comp_def]

/-- Sales of a region by a unique number. -/
def sales (collection number : String) : Declaration where
  collection := collection
  fields := [{ name := number, type := .integer, unique := true }]

theorem disjoint_indexNames_iff_sales :
    ∃ s t, (sales "sales" "eu.total").build = .ok s ∧ (sales "sales_us" "total").build = .ok t ∧
      s.collection ≠ t.collection ∧
      s.indexDefinitions.map IndexDefinition.name = ["idx_sales_eu_total"] ∧
      t.indexDefinitions.map IndexDefinition.name = ["idx_sales_us_total"] ∧
      (∀ a ∈ s.indexSources, ∀ b ∈ t.indexSources,
        ¬Continues s.collection t.collection a b ∧ ¬Continues t.collection s.collection b a) ∧
      createIndexes (createIndexes [] s.indexDefinitions) t.indexDefinitions =
        s.indexDefinitions ++ t.indexDefinitions := by
  have hfirst : (sales "sales" "eu.total").build.toOption.map
      (fun s => (s.collection, s.indexSources, s.indexDefinitions.map IndexDefinition.name)) =
      some ("sales", ["eu.total"], ["idx_sales_eu_total"]) := by decide +kernel
  have hsecond : (sales "sales_us" "total").build.toOption.map
      (fun s => (s.collection, s.indexSources, s.indexDefinitions.map IndexDefinition.name)) =
      some ("sales_us", ["total"], ["idx_sales_us_total"]) := by decide +kernel
  obtain ⟨s, hs, hg⟩ := Declaration.exists_of_build hfirst
  obtain ⟨t, ht, hk⟩ := Declaration.exists_of_build hsecond
  simp only [Prod.mk.injEq] at hg hk
  obtain ⟨hcollection, hsources, hnames⟩ := hg
  obtain ⟨hother, hotherSources, hotherNames⟩ := hk
  have hne : s.collection ≠ t.collection := by
    rw [hcollection, hother]
    decide
  obtain ⟨hdisjoint, hcreated⟩ := disjoint_indexNames_iff hs ht hne
  refine ⟨s, t, hs, ht, hne, hnames, hotherNames, hdisjoint.mp ?_, hcreated.mpr ⟨?_, ?_, ?_⟩⟩
  · simp [hnames, hotherNames]
  · rw [hsources]
    decide +kernel
  · rw [hotherSources]
    decide +kernel
  · have hfolded : folded "idx_sales_us_total" ≠ folded "idx_sales_eu_total" := by decide +kernel
    simp [hnames, hotherNames, hfolded]

/-- The sales of one collection and the sales of another have an index of one name, and the one that
is created later is left out, with the constraint that it stands for. -/
theorem not_disjoint_indexNames :
    ∃ s t, (sales "sales" "eu.total").build = .ok s ∧ (sales "sales_eu" "total").build = .ok t ∧
      s.collection ≠ t.collection ∧
      s.indexDefinitions.map (fun i => (i.name, i.table)) = [("idx_sales_eu_total", "sales")] ∧
      t.indexDefinitions.map (fun i => (i.name, i.table)) = [("idx_sales_eu_total", "sales_eu")] ∧
      createIndexes (createIndexes [] s.indexDefinitions) t.indexDefinitions =
        s.indexDefinitions := by
  have hfirst : (sales "sales" "eu.total").build.toOption.map
      (fun s => (s.collection, s.indexDefinitions.map fun i => (i.name, i.table))) =
      some ("sales", [("idx_sales_eu_total", "sales")]) := by decide +kernel
  have hsecond : (sales "sales_eu" "total").build.toOption.map
      (fun s => (s.collection, s.indexDefinitions.map fun i => (i.name, i.table))) =
      some ("sales_eu", [("idx_sales_eu_total", "sales_eu")]) := by decide +kernel
  obtain ⟨s, hs, hg⟩ := Declaration.exists_of_build hfirst
  obtain ⟨t, ht, hk⟩ := Declaration.exists_of_build hsecond
  simp only [Prod.mk.injEq] at hg hk
  refine ⟨s, t, hs, ht, by rw [hg.1, hk.1]; decide, hg.2, hk.2, ?_⟩
  obtain ⟨i, hi, hinames⟩ := List.map_eq_singleton_iff.mp hg.2
  obtain ⟨j, hj, hjnames⟩ := List.map_eq_singleton_iff.mp hk.2
  simp only [Prod.mk.injEq] at hinames hjnames
  have hsame : folded j.name = folded i.name := by rw [hinames.1, hjnames.1]
  rw [hi, hj]
  simp [createIndexes, createIndex, hsame]

end Schema

end DocumentQuery
