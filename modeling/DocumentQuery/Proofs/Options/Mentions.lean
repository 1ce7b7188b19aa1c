import DocumentQuery.Options.Basic
import Mathlib.Data.List.Basic
import Mathlib.Data.List.Induction

/-!
# Sort keys that are mentioned more than once

Options are set one after the other, and a field may be mentioned as a sort key more than once. The
keys are those mentions that are the last of their field, in the order of the first mentions: a
further mention updates the key of its field in place.
-/

namespace DocumentQuery.Options

/-- One thing that is set. -/
inductive Setting
  | sortBy (field : String) (direction : Direction)
  | limit (count : UInt64)
  | skip (count : UInt64)
  | projection (fields : List String)

/-- The options with one thing set. -/
def set (o : Options) : Setting → Options
  | .sortBy field direction => o.sortBy field direction
  | .limit count => { o with limit := some count }
  | .skip count => { o with skip := some count }
  | .projection fields => { o with projection := some fields }

/-- New options with these things set one after the other. -/
def ofSettings (settings : List Setting) : Options := settings.foldl set {}

def Setting.mention? : Setting → Option SortKey
  | .sortBy field direction => some ⟨field, direction⟩
  | .limit _ | .skip _ | .projection _ => none

/-- The sort keys that are mentioned, in order. -/
def mentions (settings : List Setting) : List SortKey := settings.filterMap Setting.mention?

/-- The mention is there, and its field is not mentioned behind it. -/
def IsLastMention (ms : List SortKey) (k : SortKey) : Prop :=
  ∃ earlier later, ms = earlier ++ k :: later ∧ k.field ∉ later.map SortKey.field

/-- The keys are the last mentions of all fields, in the order of the first mentions. -/
structure Lists (ms keys : List SortKey) : Prop where
  mem_iff : ∀ k, k ∈ keys ↔ IsLastMention ms k
  ordered : (keys.map SortKey.field).Pairwise fun a b =>
    (ms.map SortKey.field).idxOf a < (ms.map SortKey.field).idxOf b

theorem isLastMention_concat {ms : List SortKey} {m k : SortKey} :
    IsLastMention (ms ++ [m]) k ↔ k = m ∨ (IsLastMention ms k ∧ k.field ≠ m.field) := by
  constructor
  · rintro ⟨earlier, later, hsplit, hlater⟩
    rcases List.eq_nil_or_concat later with rfl | ⟨later, last, rfl⟩
    · have hlast := List.append_inj_right' hsplit rfl
      exact .inl (List.singleton_injective hlast).symm
    · rw [List.concat_eq_append, ← List.cons_append, ← List.append_assoc] at hsplit
      obtain ⟨hms, hlast⟩ := List.append_inj' hsplit rfl
      obtain rfl : m = last := by simpa using hlast
      simp only [List.concat_eq_append, List.map_append, List.mem_append, not_or, List.map_cons,
        List.map_nil, List.mem_singleton] at hlater
      exact .inr ⟨⟨earlier, later, hms, hlater.1⟩, hlater.2⟩
  · rintro (rfl | ⟨⟨earlier, later, rfl, hlater⟩, hne⟩)
    · exact ⟨ms, [], rfl, by simp⟩
    · refine ⟨earlier, later ++ [m], by simp, ?_⟩
      simp only [List.map_append, List.mem_append, not_or, List.map_cons, List.map_nil,
        List.mem_singleton]
      exact ⟨hlater, hne⟩

theorem exists_isLastMention {ms : List SortKey} {field : String}
    (h : field ∈ ms.map SortKey.field) :
    ∃ k, IsLastMention ms k ∧ k.field = field := by
  induction ms using List.reverseRecOn with
  | nil => simp at h
  | append_singleton ms m ih =>
    by_cases hm : m.field = field
    · exact ⟨m, isLastMention_concat.mpr (.inl rfl), hm⟩
    · rw [List.map_append, List.mem_append, List.map_singleton, List.mem_singleton] at h
      obtain ⟨k, hk, rfl⟩ := ih (h.resolve_right (Ne.symm hm))
      exact ⟨k, isLastMention_concat.mpr (.inr ⟨hk, Ne.symm hm⟩), rfl⟩

theorem IsLastMention.mem {ms : List SortKey} {k : SortKey} (h : IsLastMention ms k) : k ∈ ms := by
  obtain ⟨earlier, later, rfl, -⟩ := h
  exact List.mem_append_right _ List.mem_cons_self

/-- If no field has two keys, setting one leaves the keys of the other fields. -/
theorem mem_setKey {keys : List SortKey} (hn : (keys.map SortKey.field).Nodup) {m k : SortKey} :
    k ∈ setKey m.field m.direction keys ↔ k = m ∨ (k ∈ keys ∧ k.field ≠ m.field) := by
  induction keys with
  | nil => simp [setKey]
  | cons a rest ih =>
    rw [List.map_cons, List.nodup_cons] at hn
    by_cases ha : a.field = m.field
    · have hrest : ∀ b ∈ rest, b.field ≠ m.field := by
        intro b hb hfield
        exact hn.1 (ha ▸ hfield ▸ List.mem_map_of_mem hb)
      rw [setKey, if_pos ha, List.mem_cons, List.mem_cons]
      refine or_congr_right ⟨fun hb => ⟨.inr hb, hrest k hb⟩, ?_⟩
      rintro ⟨rfl | hb, hne⟩
      · exact absurd ha hne
      · exact hb
    · rw [setKey, if_neg ha, List.mem_cons, List.mem_cons, ih hn.2]
      constructor
      · rintro (rfl | rfl | ⟨hb, hne⟩)
        · exact .inr ⟨.inl rfl, ha⟩
        · exact .inl rfl
        · exact .inr ⟨.inr hb, hne⟩
      · rintro (rfl | ⟨rfl | hb, hne⟩)
        · exact .inr (.inl rfl)
        · exact .inl rfl
        · exact .inr (.inr ⟨hb, hne⟩)

namespace Lists

variable {ms keys : List SortKey}

theorem nil : Lists [] [] := by
  refine ⟨fun k => ?_, .nil⟩
  simp [IsLastMention]

theorem nodup (h : Lists ms keys) : (keys.map SortKey.field).Nodup := by
  refine h.ordered.imp fun hlt heq => ?_
  rw [heq] at hlt
  exact Nat.lt_irrefl _ hlt

theorem mem_fields (h : Lists ms keys) {field : String} :
    field ∈ keys.map SortKey.field ↔ field ∈ ms.map SortKey.field := by
  constructor
  · intro hfield
    obtain ⟨k, hk, rfl⟩ := List.mem_map.mp hfield
    exact List.mem_map_of_mem ((h.mem_iff k).mp hk).mem
  · intro hfield
    obtain ⟨k, hk, rfl⟩ := exists_isLastMention hfield
    exact List.mem_map_of_mem ((h.mem_iff k).mpr hk)

/-- A further mention updates the key of its field in place, or adds one at the end. -/
theorem setKey (h : Lists ms keys) (m : SortKey) :
    Lists (ms ++ [m]) (Options.setKey m.field m.direction keys) := by
  have hmem (k : SortKey) : k ∈ Options.setKey m.field m.direction keys ↔
      IsLastMention (ms ++ [m]) k := by
    rw [mem_setKey h.nodup, isLastMention_concat, h.mem_iff]
  -- fields that were mentioned keep the place of their first mention
  have hplace {field : String} (hfield : field ∈ keys.map SortKey.field) :
      ((ms ++ [m]).map SortKey.field).idxOf field = (ms.map SortKey.field).idxOf field := by
    rw [List.map_append, List.idxOf_append_of_mem (h.mem_fields.mp hfield)]
  have hordered : (keys.map SortKey.field).Pairwise fun a b =>
      ((ms ++ [m]).map SortKey.field).idxOf a < ((ms ++ [m]).map SortKey.field).idxOf b := by
    refine h.ordered.imp_of_mem fun ha hb hlt => ?_
    rwa [hplace ha, hplace hb]
  refine ⟨hmem, ?_⟩
  by_cases hold : m.field ∈ keys.map SortKey.field
  · rwa [setKey_fields_of_mem _ hold]
  · have hfields : (Options.setKey m.field m.direction keys).map SortKey.field =
        keys.map SortKey.field ++ [m.field] := by
      rw [setKey_of_not_mem _ hold, List.map_append, List.map_singleton]
    rw [hfields, List.pairwise_append]
    refine ⟨hordered, List.pairwise_singleton _ _, fun a ha b hb => ?_⟩
    obtain rfl := List.mem_singleton.mp hb
    have hnew : m.field ∉ ms.map SortKey.field := fun hfield => hold (h.mem_fields.mpr hfield)
    rw [hplace ha, List.map_append, List.idxOf_append_of_notMem hnew]
    exact Nat.lt_add_right _ (List.idxOf_lt_length_iff.mpr (h.mem_fields.mp ha))

end Lists

theorem lists_set {ms : List SortKey} {o : Options} (h : Lists ms o.sort) (setting : Setting) :
    Lists (ms ++ setting.mention?.toList) (o.set setting).sort := by
  cases setting with
  | sortBy field direction => exact h.setKey ⟨field, direction⟩
  | limit | skip | projection => simpa [Setting.mention?, set] using h

theorem lists_foldl {ms : List SortKey} {o : Options} (h : Lists ms o.sort)
    (settings : List Setting) :
    Lists (ms ++ mentions settings) (settings.foldl set o).sort := by
  induction settings generalizing ms o with
  | nil => simpa [mentions] using h
  | cons setting rest ih =>
    have hrest := ih (lists_set h setting)
    have hmentions : mentions (setting :: rest) = setting.mention?.toList ++ mentions rest := by
      cases setting <;> rfl
    rwa [hmentions, ← List.append_assoc]

end DocumentQuery.Options
