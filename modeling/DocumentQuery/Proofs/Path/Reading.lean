import DocumentQuery.Path
import DocumentQuery.Proofs.Sql.Words
import Mathlib.Data.List.Basic
import Mathlib.Logic.ExistsUnique

/-!
# Reading a path

A path is read from left to right as a dollar sign and steps. Where a step ends does not depend on
what the rest stands for: an identifier and an index end at the first character that cannot be in
them, and a quoted key at the first quote without a backslash before it. A path is read in one way,
and for the path of a field the steps are the pieces of its name.
-/

namespace DocumentQuery.Path

/-- A step from a value to a part of it: to what a key has in an object, or to the element of an
array at an index, which is given by its digits. -/
inductive Step
  | key (name : List Char)
  | index (digits : List Char)
  deriving DecidableEq

/-- A text stands between quotes for a key: a quote and a backslash are written behind a
backslash. -/
inductive Escapes : List Char → List Char → Prop
  | nil : Escapes [] []
  | plain {c : Char} {text key : List Char} (hc : c ≠ '\\' ∧ c ≠ '"') (h : Escapes text key) :
      Escapes (c :: text) (c :: key)
  | escaped {c : Char} {text key : List Char} (hc : c = '\\' ∨ c = '"') (h : Escapes text key) :
      Escapes ('\\' :: c :: text) (c :: key)

/-- A text spells a step. -/
inductive Spells : List Char → Step → Prop
  | identifier {name : List Char} (h : Sql.isPlainIdentifier name = true) :
      Spells ('.' :: name) (.key name)
  | quoted {text name : List Char} (h : Escapes text name) :
      Spells ('.' :: '"' :: (text ++ ['"'])) (.key name)
  | index {digits : List Char} (hne : digits ≠ []) (h : ∀ c ∈ digits, c.isDigit = true) :
      Spells ('[' :: (digits ++ [']'])) (.index digits)

/-- The text is a dollar sign and then the spellings of the steps, each of which stands beside its
step. -/
structure IsReading (path : List Char) (steps : List (List Char × Step)) : Prop where
  path_eq : path = '$' :: steps.flatMap Prod.fst
  spells : ∀ s ∈ steps, Spells s.1 s.2

/-- The step that a piece of a name is: an index if it is made of digits, and else a key, also if it
is empty. -/
def Step.ofSegment : List Char → Step
  | [] => .key []
  | c :: rest => if (c :: rest).all Char.isDigit then .index (c :: rest) else .key (c :: rest)

theorem Step.ofSegment_eq (segment : List Char) :
    Step.ofSegment segment = if isIndex segment then .index segment else .key segment := by
  cases segment <;> rfl

theorem Step.ofSegment_injective : Function.Injective Step.ofSegment := by
  intro a b h
  rw [Step.ofSegment_eq, Step.ofSegment_eq] at h
  split at h <;> split at h
  · exact Step.index.inj h
  · cases h
  · cases h
  · exact Step.key.inj h

theorem segments_eq_splitOn (s : List Char) : segments s = s.splitOn '.' := by
  induction s with
  | nil => rfl
  | cons c rest ih =>
    rw [segments, ih, List.splitOn, List.splitOn, List.splitOnP_cons_eq_if_modifyHead]
    simp only [beq_iff_eq]
    split
    · rfl
    · cases h : rest.splitOnP (· == '.') with
      | nil => exact absurd h (List.splitOnP_ne_nil _ _)
      | cons piece more => rfl

theorem exists_mem_segments {s : List Char} {c : Char} :
    (∃ segment ∈ segments s, c ∈ segment) ↔ c ∈ s ∧ c ≠ '.' := by
  induction s with
  | nil => simp [segments]
  | cons d rest ih =>
    rw [segments]
    split
    · next hdot =>
      have hrest : (∃ segment ∈ [] :: segments rest, c ∈ segment) ↔ ∃ segment ∈ segments rest,
          c ∈ segment := by
        simp
      rw [hrest, ih, List.mem_cons, hdot]
      tauto
    · next hd =>
      split
      · next hnil => exact absurd hnil (segments_ne_nil rest)
      · next piece more hsegments =>
        have hpieces : (∃ segment ∈ (d :: piece) :: more, c ∈ segment) ↔
            c = d ∨ ∃ segment ∈ piece :: more, c ∈ segment := by
          simp [or_assoc]
        rw [hpieces, ← hsegments, ih, List.mem_cons]
        constructor
        · rintro (rfl | ⟨hc, hne⟩)
          · exact ⟨.inl rfl, hd⟩
          · exact ⟨.inr hc, hne⟩
        · rintro ⟨rfl | hc, hne⟩
          · exact .inl rfl
          · exact .inr ⟨hc, hne⟩

theorem escapes_flatMap_keyChar (key : List Char) : Escapes (key.flatMap keyChar) key := by
  induction key with
  | nil => exact .nil
  | cons c rest ih =>
    rw [List.flatMap_cons, keyChar]
    split
    · exact .escaped ‹_› ih
    · exact .plain (not_or.mp ‹_›) ih

theorem spells_step (segment : List Char) : Spells (step segment) (Step.ofSegment segment) := by
  rw [step, Step.ofSegment_eq]
  split
  · next hindex =>
    simp only [isIndex, Bool.and_eq_true, Bool.not_eq_true', List.isEmpty_eq_false_iff] at hindex
    exact .index hindex.1 (List.all_eq_true.mp hindex.2)
  · rw [key]
    split
    · exact .identifier ‹_›
    · exact .quoted (escapes_flatMap_keyChar segment)

theorem toList_ofField {field : String} (hempty : field ≠ "") (hdollar : field ≠ "$") :
    (ofField field).toList = '$' :: (field.toList.splitOn '.').flatMap step := by
  rw [ofField, String.toList_ofList, chars, if_neg (by simp [isSelf, hempty, hdollar]),
    segments_eq_splitOn]

theorem isReading_ofField {field : String} (hempty : field ≠ "") (hdollar : field ≠ "$") :
    IsReading (ofField field).toList
      ((field.toList.splitOn '.').map fun segment => (step segment, Step.ofSegment segment)) where
  path_eq := by rw [toList_ofField hempty hdollar, List.flatMap_map]
  spells := by
    intro s hs
    obtain ⟨segment, -, rfl⟩ := List.mem_map.mp hs
    exact spells_step segment

/-- A text of characters with a property can be told from what follows it, if this does not go on
with such a character. -/
theorem append_inj_of_all {p : Char → Bool} {a b rest rest' : List Char} (ha : ∀ c ∈ a, p c = true)
    (hb : ∀ c ∈ b, p c = true) (hrest : ∀ c ∈ rest.head?, p c = false)
    (hrest' : ∀ c ∈ rest'.head?, p c = false) (h : a ++ rest = b ++ rest') :
    a = b ∧ rest = rest' := by
  have hstop {l : List Char} (hl : ∀ c ∈ l.head?, p c = false) : l.takeWhile p = [] := by
    cases l with
    | nil => rfl
    | cons c l => exact List.takeWhile_cons_of_neg (by simp [hl c rfl])
  have htaken := congrArg (List.takeWhile p) h
  rw [List.takeWhile_append_of_pos ha, List.takeWhile_append_of_pos hb, hstop hrest, hstop hrest',
    List.append_nil, List.append_nil] at htaken
  exact ⟨htaken, List.append_cancel_left (htaken ▸ h)⟩

theorem Escapes.eq_of_append {text text' key key' rest rest' : List Char} (h : Escapes text key)
    (h' : Escapes text' key') (heq : text ++ '"' :: rest = text' ++ '"' :: rest') :
    text = text' ∧ key = key' ∧ rest = rest' := by
  induction h generalizing text' key' with
  | nil =>
    cases h' with
    | nil => exact ⟨rfl, rfl, (List.cons.inj heq).2⟩
    | plain hc _ => exact absurd (List.cons.inj heq).1.symm hc.2
    | escaped _ _ => exact absurd (List.cons.inj heq).1 (by decide)
  | @plain c text key hc _ ih =>
    cases h' with
    | nil => exact absurd (List.cons.inj heq).1 hc.2
    | plain _ h' =>
      obtain ⟨rfl, htail⟩ := List.cons.inj heq
      obtain ⟨rfl, rfl, rfl⟩ := ih h' htail
      exact ⟨rfl, rfl, rfl⟩
    | escaped _ _ => exact absurd (List.cons.inj heq).1 hc.1
  | @escaped c text key hc _ ih =>
    cases h' with
    | nil => exact absurd (List.cons.inj heq).1 (by decide)
    | plain hc' _ => exact absurd (List.cons.inj heq).1.symm hc'.1
    | escaped _ h' =>
      obtain ⟨rfl, htail⟩ := List.cons.inj (List.cons.inj heq).2
      obtain ⟨rfl, rfl, rfl⟩ := ih h' htail
      exact ⟨rfl, rfl, rfl⟩

/-- The text is at its end, or goes on with a step. -/
def AtStep (rest : List Char) : Prop := ∀ c ∈ rest.head?, c = '.' ∨ c = '['

theorem atStep_flatMap {steps : List (List Char × Step)} (h : ∀ s ∈ steps, Spells s.1 s.2) :
    AtStep (steps.flatMap Prod.fst) := by
  intro c hc
  cases steps with
  | nil => cases hc
  | cons s rest =>
    obtain ⟨text, step⟩ := s
    have hs : Spells text step := h _ List.mem_cons_self
    cases hs with
    | identifier | quoted => exact .inl (Option.some.inj hc).symm
    | index => exact .inr (Option.some.inj hc).symm

theorem isIdentifierChar_of_atStep {rest : List Char} (h : AtStep rest) :
    ∀ c ∈ rest.head?, Sql.isIdentifierChar c = false := by
  intro c hc
  rcases h c hc with rfl | rfl <;> decide

theorem append_ne_quote {name : List Char} (h : Sql.isPlainIdentifier name = true)
    (rest text : List Char) :
    name ++ rest ≠ '"' :: text := by
  cases name with
  | nil => exact absurd h (by decide)
  | cons c name =>
    intro heq
    obtain ⟨rfl, -⟩ := List.cons.inj heq
    cases h

/-- A step is read off the beginning of a text in one way only. -/
theorem Spells.eq_of_append {text text' rest rest' : List Char} {s s' : Step} (h : Spells text s)
    (h' : Spells text' s') (hrest : AtStep rest) (hrest' : AtStep rest')
    (heq : text ++ rest = text' ++ rest') :
    text = text' ∧ s = s' ∧ rest = rest' := by
  cases h with
  | identifier h =>
    cases h' with
    | identifier h' =>
      obtain ⟨rfl, rfl⟩ := append_inj_of_all (List.all_eq_true.mp (Sql.all_of_isPlainIdentifier h))
        (List.all_eq_true.mp (Sql.all_of_isPlainIdentifier h')) (isIdentifierChar_of_atStep hrest)
        (isIdentifierChar_of_atStep hrest') (List.cons.inj heq).2
      exact ⟨rfl, rfl, rfl⟩
    | quoted => exact absurd (List.cons.inj heq).2 (append_ne_quote h _ _)
    | index => exact absurd (List.cons.inj heq).1 (by decide)
  | quoted h =>
    cases h' with
    | identifier h' => exact absurd (List.cons.inj heq).2.symm (append_ne_quote h' _ _)
    | quoted h' =>
      simp only [List.cons_append, List.append_assoc, List.nil_append, List.cons.injEq,
        true_and] at heq
      obtain ⟨rfl, rfl, rfl⟩ := h.eq_of_append h' heq
      exact ⟨rfl, rfl, rfl⟩
    | index => exact absurd (List.cons.inj heq).1 (by decide)
  | index hne h =>
    cases h' with
    | identifier | quoted => exact absurd (List.cons.inj heq).1 (by decide)
    | index hne' h' =>
      simp only [List.cons_append, List.append_assoc, List.nil_append, List.cons.injEq,
        true_and] at heq
      have hbracket (l : List Char) : ∀ c ∈ (']' :: l).head?, c.isDigit = false := by
        intro c hc
        obtain rfl := Option.some.inj hc
        decide
      obtain ⟨rfl, htail⟩ := append_inj_of_all h h' (hbracket rest) (hbracket rest') heq
      exact ⟨rfl, rfl, (List.cons.inj htail).2⟩

theorem Spells.ne_nil {text : List Char} {s : Step} (h : Spells text s) : text ≠ [] := by
  cases h <;> exact List.cons_ne_nil _ _

theorem flatMap_fst_inj {steps steps' : List (List Char × Step)} (h : ∀ s ∈ steps, Spells s.1 s.2)
    (h' : ∀ s ∈ steps', Spells s.1 s.2) (heq : steps.flatMap Prod.fst = steps'.flatMap Prod.fst) :
    steps = steps' := by
  induction steps generalizing steps' with
  | nil =>
    cases steps' with
    | nil => rfl
    | cons s' rest' =>
      have hnil := (List.append_eq_nil_iff.mp heq.symm).1
      exact absurd hnil (h' s' List.mem_cons_self).ne_nil
  | cons s rest ih =>
    cases steps' with
    | nil =>
      have hnil := (List.append_eq_nil_iff.mp heq).1
      exact absurd hnil (h s List.mem_cons_self).ne_nil
    | cons s' rest' =>
      rw [List.forall_mem_cons] at h h'
      obtain ⟨htext, hstep, hrest⟩ :=
        h.1.eq_of_append h'.1 (atStep_flatMap h.2) (atStep_flatMap h'.2) heq
      rw [Prod.ext htext hstep, ih h.2 h'.2 hrest]

theorem IsReading.unique {path : List Char} {steps steps' : List (List Char × Step)}
    (h : IsReading path steps) (h' : IsReading path steps') : steps = steps' := by
  have heq := h.path_eq.symm.trans h'.path_eq
  exact flatMap_fst_inj h.spells h'.spells (List.cons.inj heq).2

/-- The steps that the path of a field is read as are the pieces of its name between the dots. -/
theorem IsReading.steps_eq {field : String} (hempty : field ≠ "") (hdollar : field ≠ "$")
    {steps : List (List Char × Step)} (h : IsReading (ofField field).toList steps) :
    steps.map Prod.snd = (field.toList.splitOn '.').map Step.ofSegment := by
  rw [h.unique (isReading_ofField hempty hdollar), List.map_map]
  rfl

theorem isReading_ofField_self {field : String} (h : field = "" ∨ field = "$") :
    IsReading (ofField field).toList [] where
  path_eq := by rcases h with rfl | rfl <;> rfl
  spells := by simp

theorem ofField_inj {a b : String} (hempty : a ≠ "") (hdollar : a ≠ "$")
    (h : ofField b = ofField a) : b = a := by
  have hb : ¬ (b = "" ∨ b = "$") := by
    intro hself
    have hnil := (h ▸ isReading_ofField_self hself).steps_eq hempty hdollar
    exact List.splitOn_ne_nil _ _ (List.map_eq_nil_iff.mp hnil.symm)
  obtain ⟨hempty', hdollar'⟩ := not_or.mp hb
  have hsteps := (h ▸ isReading_ofField hempty' hdollar').steps_eq hempty hdollar
  rw [List.map_map] at hsteps
  have hpieces := List.map_injective_iff.mpr Step.ofSegment_injective hsteps
  apply String.toList_injective
  calc
    b.toList = ['.'].intercalate (b.toList.splitOn '.') := (List.intercalate_splitOn '.').symm
    _ = ['.'].intercalate (a.toList.splitOn '.') := by rw [hpieces]
    _ = a.toList := List.intercalate_splitOn '.'

/-- The path of a field is read in exactly one way. The steps are the pieces of the name between its
dots, in their order: a piece of digits is an index, and any other, also an empty one, a key with
this text. No other name has the same path. -/
theorem existsUnique_reading {field : String} (hempty : field ≠ "") (hdollar : field ≠ "$") :
    (∃! steps, IsReading (ofField field).toList steps) ∧
    (∀ steps, IsReading (ofField field).toList steps →
      steps.map Prod.snd = (field.toList.splitOn '.').map Step.ofSegment) ∧
    ∀ other, ofField other = ofField field → other = field := by
  refine ⟨?_, ?_, ?_⟩
  · exact ⟨_, isReading_ofField hempty hdollar,
      fun _ h => h.unique (isReading_ofField hempty hdollar)⟩
  · intro steps h
    exact h.steps_eq hempty hdollar
  · intro other h
    exact ofField_inj hempty hdollar h

/-- A name with a key, an index, a key with quotes in it and an empty key. -/
theorem existsUnique_reading_lines :
    (∃! steps, IsReading (ofField "lines.0.the \"net\" price.").toList steps) ∧
    (∀ steps, IsReading (ofField "lines.0.the \"net\" price.").toList steps →
      steps.map Prod.snd =
        [.key "lines".toList, .index "0".toList, .key "the \"net\" price".toList, .key []]) ∧
    ∀ other, ofField other = ofField "lines.0.the \"net\" price." →
      other = "lines.0.the \"net\" price." := by
  obtain ⟨hunique, hsteps, hother⟩ := @existsUnique_reading "lines.0.the \"net\" price."
    (by decide) (by decide)
  refine ⟨hunique, fun steps h => (hsteps steps h).trans ?_, hother⟩
  decide +kernel

example : ofField "lines.0.the \"net\" price." = "$.lines[0].\"the \\\"net\\\" price\".\"\"" := by
  decide

end DocumentQuery.Path
