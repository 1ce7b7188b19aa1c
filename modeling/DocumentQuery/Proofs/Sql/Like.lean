import DocumentQuery.Sql.Quote
import Mathlib.Data.List.Infix

/-!
# Patterns of LIKE

How the database compares a text with a pattern. A percent sign stands for any sequence of
characters, an underscore for any one character, and every other character for itself, where ASCII
letters are compared without case. There is no character that takes its meaning from a percent sign
or an underscore.
-/

namespace DocumentQuery.Sql

/-- Whether the text matches the pattern. A percent sign tries every place where the rest of the
pattern can go on. -/
def like : List Char → List Char → Bool
  | [], t => t.isEmpty
  | c :: p, t =>
    if c = '%' then t.tails.any (like p)
    else match t with
      | [] => false
      | d :: u => (c == '_' || c.toLower == d.toLower) && like p u

/-- Whether the character stands for other characters in a pattern. -/
def IsWildcard (c : Char) : Prop := c = '%' ∨ c = '_'

instance (c : Char) : Decidable (IsWildcard c) := inferInstanceAs (Decidable (_ ∨ _))

/-- The text with ASCII letters in lower case. -/
def lowered (t : List Char) : List Char := t.map Char.toLower

theorem like_nil {t : List Char} : like [] t = true ↔ t = [] := List.isEmpty_iff

theorem like_percent_cons {p t : List Char} :
    like ('%' :: p) t = true ↔ ∃ u v, t = u ++ v ∧ like p v = true := by
  rw [like.eq_def]
  simp only [if_pos, List.any_eq_true]
  constructor
  · rintro ⟨v, hv, hp⟩
    obtain ⟨u, rfl⟩ := (List.mem_tails v t).mp hv
    exact ⟨u, v, rfl, hp⟩
  · rintro ⟨u, v, rfl, hp⟩
    exact ⟨v, (List.mem_tails v _).mpr (List.suffix_append u v), hp⟩

theorem like_cons {c : Char} (hc : c ≠ '%') {p t : List Char} :
    like (c :: p) t = true ↔
      ∃ d u, t = d :: u ∧ (c = '_' ∨ c.toLower = d.toLower) ∧ like p u = true := by
  rw [like.eq_def]
  simp only [if_neg hc]
  cases t with
  | nil => simp
  | cons d u => simp

/-- A text matches a pattern in two parts if it has two parts that match them. -/
theorem like_append {p q t : List Char} :
    like (p ++ q) t = true ↔ ∃ u v, t = u ++ v ∧ like p u = true ∧ like q v = true := by
  induction p generalizing t with
  | nil =>
    simp only [List.nil_append, like_nil]
    constructor
    · intro h
      exact ⟨[], t, rfl, rfl, h⟩
    · rintro ⟨u, v, rfl, rfl, h⟩
      exact h
  | cons c p ih =>
    rw [List.cons_append]
    by_cases hc : c = '%'
    · subst hc
      rw [like_percent_cons]
      constructor
      · rintro ⟨skipped, rest, rfl, h⟩
        obtain ⟨u, v, rfl, hu, hv⟩ := ih.mp h
        exact ⟨skipped ++ u, v, (List.append_assoc _ _ _).symm,
          like_percent_cons.mpr ⟨skipped, u, rfl, hu⟩, hv⟩
      · rintro ⟨w, v, rfl, hw, hv⟩
        obtain ⟨skipped, u, rfl, hu⟩ := like_percent_cons.mp hw
        exact ⟨skipped, u ++ v, List.append_assoc _ _ _, ih.mpr ⟨u, v, rfl, hu, hv⟩⟩
    · rw [like_cons hc]
      constructor
      · rintro ⟨d, rest, rfl, hd, h⟩
        obtain ⟨u, v, rfl, hu, hv⟩ := ih.mp h
        exact ⟨d :: u, v, rfl, (like_cons hc).mpr ⟨d, u, rfl, hd, hu⟩, hv⟩
      · rintro ⟨w, v, rfl, hw, hv⟩
        obtain ⟨d, u, rfl, hd, hu⟩ := (like_cons hc).mp hw
        exact ⟨d, u ++ v, rfl, hd, ih.mpr ⟨u, v, rfl, hu, hv⟩⟩

theorem like_percent (t : List Char) : like ['%'] t = true :=
  like_percent_cons.mpr ⟨t, [], (List.append_nil t).symm, rfl⟩

/-- A pattern without wildcards is matched by the texts that are equal to it up to case. -/
theorem like_iff_of_no_wildcard {p : List Char} (hp : ∀ c ∈ p, ¬ IsWildcard c) {t : List Char} :
    like p t = true ↔ lowered p = lowered t := by
  induction p generalizing t with
  | nil => rw [like_nil, lowered, lowered, List.map_nil, List.nil_eq, List.map_eq_nil_iff]
  | cons c p ih =>
    obtain ⟨hc, hrest⟩ := List.forall_mem_cons.mp hp
    obtain ⟨hpercent, hunderscore⟩ := not_or.mp hc
    rw [like_cons hpercent]
    cases t with
    | nil => simp [lowered]
    | cons d u => simp [ih hrest, hunderscore, lowered]

theorem like_of_lowered_eq {p t : List Char} (h : lowered p = lowered t) : like p t = true := by
  induction p generalizing t with
  | nil => exact like_nil.mpr (List.map_eq_nil_iff.mp h.symm)
  | cons c p ih =>
    cases t with
    | nil => simp [lowered] at h
    | cons d u =>
      obtain ⟨hd, hu⟩ := List.cons.inj h
      by_cases hc : c = '%'
      · subst hc
        exact like_percent_cons.mpr ⟨[d], u, rfl, ih hu⟩
      · exact (like_cons hc).mpr ⟨d, u, rfl, .inr hd, ih hu⟩

/-- The pattern with a letter in the place of every wildcard. -/
def instanceOf (p : List Char) : List Char := p.map fun c => if IsWildcard c then 'x' else c

theorem like_instanceOf (p : List Char) : like p (instanceOf p) = true := by
  induction p with
  | nil => rfl
  | cons c p ih =>
    by_cases hc : c = '%'
    · subst hc
      exact like_percent_cons.mpr ⟨['x'], instanceOf p, rfl, ih⟩
    · refine (like_cons hc).mpr ⟨_, instanceOf p, rfl, ?_, ih⟩
      by_cases hunderscore : c = '_'
      · exact .inl hunderscore
      · exact .inr (congrArg Char.toLower (if_neg (not_or.mpr ⟨hc, hunderscore⟩)).symm)

theorem length_instanceOf (p : List Char) : (instanceOf p).length = p.length := List.length_map _

/-- With a wildcard in it, a pattern is matched by a text that differs from it. -/
theorem lowered_instanceOf_ne {p : List Char} (h : ∃ c ∈ p, IsWildcard c) :
    lowered p ≠ lowered (instanceOf p) := by
  obtain ⟨c, hc, hwildcard⟩ := h
  intro heq
  rw [lowered, lowered, instanceOf, List.map_map, List.map_inj_left] at heq
  have hx : c.toLower = 'x' := by
    have := heq c hc
    rwa [Function.comp_apply, if_pos hwildcard] at this
  rcases hwildcard with rfl | rfl
  · exact absurd hx (by decide)
  · exact absurd hx (by decide)

end DocumentQuery.Sql
