import DocumentQuery.Proofs.Checks
import DocumentQuery.Proofs.Path.Reading
import DocumentQuery.Proofs.Schema.Columns
import DocumentQuery.Proofs.Schema.Fields

/-!
# What is wrong with a declaration

The faults of a declaration are listed without building it: those of the body column, of the fields
and of the indexes as they were declared, then the columns and the names of indexes that clash.
Building reports the first of them. A declaration without faults is one with plain names that differ
where they have to.
-/

namespace DocumentQuery

/-- A letter or an underscore, and then letters, digits and underscores, all of ASCII. -/
def Sql.IsIdentifier (name : String) : Prop :=
  ∃ first rest, name.toList = first :: rest ∧ (first.isAlpha = true ∨ first = '_') ∧
    ∀ c ∈ rest, c.isAlphanum = true ∨ c = '_'

theorem Sql.isPlainIdentifier_iff (name : String) :
    isPlainIdentifier name.toList = true ↔ IsIdentifier name := by
  unfold IsIdentifier
  cases name.toList with
  | nil => simp [isPlainIdentifier]
  | cons first rest => simp [isPlainIdentifier, isIdentifierStart, isIdentifierChar]

/-- Segments with dots between them. There is at least one, and none is empty or has a quote in
it. -/
def IsFieldName (name : String) : Prop :=
  ∃ segments : List (List Char), segments ≠ [] ∧ name.toList = ['.'].intercalate segments ∧
    ∀ segment ∈ segments, segment ≠ [] ∧
      '.' ∉ segment ∧ Sql.singleQuote ∉ segment ∧ Sql.doubleQuote ∉ segment

/-- Everything that keeps a text from being the name of a field. -/
def nameFaults (name : String) : List NameFault :=
  (if [] ∈ name.toList.splitOn '.' then [.emptySegment] else []) ++
    if Sql.singleQuote ∈ name.toList ∨ Sql.doubleQuote ∈ name.toList then [.quote] else []

theorem nameFaults_eq_nil_iff (name : String) : nameFaults name = [] ↔ IsFieldName name := by
  have hnil : nameFaults name = [] ↔ [] ∉ name.toList.splitOn '.' ∧
      Sql.singleQuote ∉ name.toList ∧ Sql.doubleQuote ∉ name.toList := by
    simp [nameFaults]
  rw [hnil]
  have hpieces {c : Char} (hc : c ≠ '.') :
      (∀ segment ∈ name.toList.splitOn '.', c ∉ segment) ↔ c ∉ name.toList := by
    rw [← Path.segments_eq_splitOn, ← not_iff_not]
    push Not
    rw [Path.exists_mem_segments, and_iff_left hc]
  constructor
  · rintro ⟨hempty, hsingle, hdouble⟩
    refine ⟨name.toList.splitOn '.', List.splitOn_ne_nil _ _,
      (List.intercalate_splitOn '.').symm, ?_⟩
    intro segment hsegment
    refine ⟨fun hnil => hempty (hnil ▸ hsegment), ?_, (hpieces (by decide)).mpr hsingle
      segment hsegment, (hpieces (by decide)).mpr hdouble segment hsegment⟩
    intro hdot
    exact (Path.exists_mem_segments.mp ⟨segment, Path.segments_eq_splitOn _ ▸ hsegment, hdot⟩).2 rfl
  · rintro ⟨segments, hne, hname, hsegments⟩
    have hsplit : name.toList.splitOn '.' = segments := by
      rw [hname]
      exact List.splitOn_intercalate '.' (fun segment h => (hsegments segment h).2.1) hne
    rw [← hpieces (by decide : Sql.singleQuote ≠ '.'), ← hpieces
      (by decide : Sql.doubleQuote ≠ '.'), hsplit]
    exact ⟨fun hempty => (hsegments [] hempty).1 rfl, fun segment h => (hsegments segment h).2.2.1,
      fun segment h => (hsegments segment h).2.2.2⟩

namespace Declaration

theorem nameFault?_eq (name : String) : nameFault? name = (nameFaults name).head? := by
  have hempty :
      ((Path.segments name.toList).any List.isEmpty = true) ↔ [] ∈ name.toList.splitOn '.' := by
    simp [Path.segments_eq_splitOn]
  have hquote : (name.toList.any fun c => c == Sql.singleQuote || c == Sql.doubleQuote) = true ↔
      Sql.singleQuote ∈ name.toList ∨ Sql.doubleQuote ∈ name.toList := by
    simp only [List.any_eq_true, Bool.or_eq_true, beq_iff_eq]
    constructor
    · rintro ⟨c, hc, rfl | rfl⟩
      · exact .inl hc
      · exact .inr hc
    · rintro (h | h)
      · exact ⟨_, h, .inl rfl⟩
      · exact ⟨_, h, .inr rfl⟩
  unfold nameFault? nameFaults
  simp only [hempty, hquote]
  split
  · rfl
  · split <;> rfl

/-- What is wrong with a declared field: its name, or that an earlier field has it. -/
def fieldFaults (earlier : List FieldDeclaration) (f : FieldDeclaration) : List DeclarationError :=
  (nameFaults f.name).map (.invalidName f.name) ++
    if f.name ∈ earlier.map FieldDeclaration.name then [.duplicateField f.name] else []

/-- What is wrong with an index on fields of these names: its name, that it has no fields, or each
field that there is not. -/
def indexFaults (names : List String) (earlier : List Index) (i : Index) : List DeclarationError :=
  (if i.name ∈ earlier.map Index.name then [.duplicateIndex i.name] else []) ++
    ((if i.fields = [] then [.emptyIndex i.name] else []) ++
      (i.fields.filter fun n => n ∉ names).map (.unknownIndexField i.name))

/-- The earlier names with the image of a name, with that image. -/
def clashes (image : String → String) (earlier : List String) (name : String) :
    List (String × String × String) :=
  (earlier.filter fun first => image first = image name).map fun first => (image name, first, name)

/-- The pairs of indexed fields with one generated column. -/
def columnFaults (fields : List Field) : List DeclarationError :=
  (faultsFrom (clashes generatedColumn) [] ((fields.filter Field.indexed).map Field.name)).map
    fun c => .columnCollision c.1 c.2.1 c.2.2

/-- The pairs of indexes with one name. -/
def indexNameFaults (collection : String) (fields : List Field) (indexes : List Index) :
    List DeclarationError :=
  (faultsFrom (clashes (indexName collection)) [] (indexSources fields indexes)).map
    fun c => .indexNameCollision c.1 c.2.1 c.2.2

/-- Everything that is wrong with a declaration, in the order in which it is reported: the body
column, the fields as they were declared, the indexes as they were declared, and in the order of the
names of the fields the columns and then the names of indexes. -/
def faults (d : Declaration) : List DeclarationError :=
  (if Sql.isPlainIdentifier d.bodyColumn.toList then []
    else [.invalidName d.bodyColumn .notIdentifier]) ++
    (faultsFrom fieldFaults [] d.fields ++ (faultsFrom (indexFaults d.names) [] d.indexes ++
      (columnFaults d.orderedFields ++ indexNameFaults d.collection d.orderedFields d.indexes)))

theorem finds_addFields :
    Finds fieldFaults (fun earlier fields => ∀ n, declares fields n = true ↔
      n ∈ earlier.map FieldDeclaration.name)
      (fun fields ds => errorOf (addFields fields ds)) where
  nil := fun _ => rfl
  cons := by
    intro earlier fields d hkeeps
    refine ⟨insertField (toField d) fields, fun rest => ?_, fun _ n => ?_⟩
    · simp only [addFields, fieldFaults, List.head?_append, List.head?_map, nameFault?_eq, hkeeps]
      cases (nameFaults d.name).head? with
      | some fault => rfl
      | none =>
        by_cases hd : d.name ∈ earlier.map FieldDeclaration.name
        · simp only [if_pos hd]
          rfl
        · simp only [if_neg hd]
          rfl
    · rw [declares_iff, mem_map_name_insertField, ← declares_iff, hkeeps, List.map_append,
        List.mem_append]
      simp [toField, or_comm]

theorem finds_checkIndexes {fields : List Field} {names : List String}
    (hnames : ∀ n, declares fields n = true ↔ n ∈ names) :
    Finds (indexFaults names) (fun earlier seen => ∀ n, n ∈ seen ↔ n ∈ earlier.map Index.name)
      (fun seen is => errorOf (checkIndexes fields seen is)) where
  nil := fun _ => rfl
  cons := by
    intro earlier seen i hkeeps
    refine ⟨i.name :: seen, fun rest => ?_, fun _ n => ?_⟩
    · have hunknown : (i.fields.find? fun n => !declares fields n) =
          (i.fields.filter fun n => n ∉ names).head? := by
        rw [List.head?_filter]
        congr 1
        funext n
        rw [Bool.eq_iff_iff]
        simp [← hnames]
      simp only [checkIndexes, indexFaults, List.head?_append, List.head?_map, hunknown,
        List.contains_iff_mem, hkeeps, List.isEmpty_iff]
      split
      · rfl
      · split
        · rfl
        · cases (i.fields.filter fun n => n ∉ names).head? <;> rfl
    · rw [List.mem_cons, hkeeps, List.map_append, List.mem_append]
      simp [or_comm]

/-- Among names with different images there is at most one with a given image, so it does not matter
in which order they are looked through. -/
theorem find?_seen {image : String → String} {earlier : List String} {seen : List (String × String)}
    (hnodup : (earlier.map image).Nodup) (hseen : ∀ p, p ∈ seen ↔ p.1 = image p.2 ∧ p.2 ∈ earlier)
    (target : String) :
    (seen.find? fun p => p.1 == target).map Prod.snd = earlier.find? fun first =>
      image first = target := by
  cases hfirst : earlier.find? fun first => image first = target with
  | none =>
    rw [Option.map_eq_none_iff, List.find?_eq_none]
    intro p hp
    obtain ⟨himage, hmem⟩ := (hseen p).mp hp
    rw [himage]
    simpa using List.find?_eq_none.mp hfirst p.2 hmem
  | some first =>
    have hmem := List.mem_of_find?_eq_some hfirst
    have himage : image first = target := by simpa using List.find?_some hfirst
    have hexists : (seen.find? fun p => p.1 == target).isSome := by
      rw [List.find?_isSome]
      exact ⟨(target, first), (hseen _).mpr ⟨himage.symm, hmem⟩, beq_self_eq_true _⟩
    obtain ⟨p, hp⟩ := Option.isSome_iff_exists.mp hexists
    obtain ⟨hpimage, hpmem⟩ := (hseen p).mp (List.mem_of_find?_eq_some hp)
    have hptarget : p.1 = target := by simpa using List.find?_some hp
    have hsame : p.2 = first :=
      List.inj_on_of_nodup_map hnodup hpmem hmem (hpimage.symm.trans (hptarget.trans himage.symm))
    rw [hp, Option.map_some, hsame]

theorem clashes_eq_nil_iff {image : String → String} {earlier : List String} {name : String} :
    clashes image earlier name = [] ↔ image name ∉ earlier.map image := by
  rw [clashes, List.map_eq_nil_iff, List.filter_eq_nil_iff]
  simp

theorem finds_collision? (image : String → String) :
    Finds (clashes image)
      (fun earlier seen => (earlier.map image).Nodup ∧ ∀ p, p ∈ seen ↔ p.1 = image p.2 ∧
        p.2 ∈ earlier)
      (collision? image) where
  nil := fun _ => rfl
  cons := by
    rintro earlier seen name ⟨hnodup, hseen⟩
    refine ⟨(image name, name) :: seen, fun rest => ?_, fun hnone => ⟨?_, ?_⟩⟩
    · have hfind := find?_seen hnodup hseen (image name)
      rw [collision?, clashes, List.head?_map, List.head?_filter, ← hfind]
      cases seen.find? fun p => p.1 == image name <;> rfl
    · rw [List.map_append, List.nodup_append']
      exact ⟨hnodup, List.nodup_singleton _, by simpa using clashes_eq_nil_iff.mp hnone⟩
    · rintro ⟨key, first⟩
      rw [List.mem_cons, hseen, List.mem_append, List.mem_singleton, Prod.mk.injEq]
      constructor
      · rintro (⟨rfl, rfl⟩ | ⟨hkey, hmem⟩)
        · exact ⟨rfl, .inr rfl⟩
        · exact ⟨hkey, .inl hmem⟩
      · rintro ⟨hkey, hmem | rfl⟩
        · exact .inr ⟨hkey, hmem⟩
        · exact .inl ⟨hkey, rfl⟩

theorem errorOf_resolvedFields (d : Declaration) :
    errorOf d.resolvedFields = (faultsFrom fieldFaults [] d.fields).head? := by
  rw [← finds_addFields.check_eq [] [] (by simp [declares]) d.fields, resolvedFields]
  cases addFields [] d.fields <;> rfl

theorem errorOf_checkCollisions (collection : String) (fields : List Field) (indexes : List Index) :
    errorOf (checkCollisions collection fields indexes) =
      (columnFaults fields ++ indexNameFaults collection fields indexes).head? := by
  rw [List.head?_append, columnFaults, indexNameFaults, List.head?_map, List.head?_map,
    ← (finds_collision? generatedColumn).check_eq [] [] (by simp),
    ← (finds_collision? (indexName collection)).check_eq [] [] (by simp), checkCollisions]
  cases collision? generatedColumn [] ((fields.filter Field.indexed).map Field.name) with
  | some c => rfl
  | none => cases collision? (indexName collection) [] (indexSources fields indexes) <;> rfl

/-- Building fails exactly with the first fault of a declaration. -/
theorem errorOf_build (d : Declaration) : errorOf d.build = d.faults.head? := by
  rw [faults, List.head?_append, List.head?_append, List.head?_append, ← errorOf_resolvedFields,
    ← errorOf_checkCollisions, build]
  cases Sql.isPlainIdentifier d.bodyColumn.toList with
  | false => rfl
  | true =>
    cases hfields : d.resolvedFields with
    | error e => rfl
    | ok fields =>
      obtain ⟨-, rfl⟩ := resolvedFields_eq hfields
      have hnames (n : String) : declares d.orderedFields n = true ↔ n ∈ d.names := by
        rw [declares_iff, (d.orderedFields_perm.map Field.name).mem_iff, map_name_allFields]
      rw [← (finds_checkIndexes hnames).check_eq [] [] (by simp)]
      dsimp only
      cases checkIndexes d.orderedFields [] d.indexes with
      | error e => rfl
      | ok =>
        dsimp only
        cases checkCollisions d.collection d.orderedFields d.indexes <;> rfl

end Declaration

end DocumentQuery
