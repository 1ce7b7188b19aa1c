import DocumentQuery.Proofs.Schema.Tables
import DocumentQuery.Schema.Definition
import DocumentQuery.Schema.File

/-!
# Schema files read and written again

A member that may be missing is read with a default, and an optional one is left out when it is
absent. The two have to fit together: `ofJson?_toJson` says that a file that was read is written as
an object from which the same file is read. A file with a null for the default of a field would not
come back, and `exists_ofJson?_iff` says that the files that are read are just the others.
-/

namespace DocumentQuery

namespace Json

variable {α : Type}

theorem lookup_append (key : String) (xs ys : List (String × Json)) :
    lookup key (xs ++ ys) = (lookup key xs).or (lookup key ys) := by
  induction xs with
  | nil => rfl
  | cons m rest ih =>
    obtain ⟨name, value⟩ := m
    by_cases h : name = key <;> simp [lookup, h, ih]

theorem defaulted_eq {decode : Json → Option α} {fallback : α} {key : String}
    {members : List (String × Json)} {v : Json} (h : lookup key members = some v) :
    defaulted decode fallback key members = decode v := by
  rw [defaulted, h]

theorem optional_eq {decode : Json → Option α} {encode : α → Json} {key : String}
    {members : List (String × Json)} {a : Option α} (h : lookup key members = a.map encode)
    (hread : ∀ x ∈ a, decode (encode x) = some x ∧ encode x ≠ .null) :
    optional decode key members = some a := by
  cases a with
  | none => rw [optional, h]; rfl
  | some x =>
    obtain ⟨hdecode, hnull⟩ := hread x rfl
    rw [optional, h, Option.map_some]
    split
    · next heq => cases heq
    · next heq => exact absurd (Option.some.inj heq) hnull
    · next heq => rw [← Option.some.inj heq, hdecode, Option.map_some]

theorem ne_null_of_optional {key : String} {members : List (String × Json)} {a : Option Json}
    (h : optional some key members = some a) : a ≠ some .null := by
  unfold optional at h
  rintro rfl
  split at h
  · cases h
  · cases h
  · next hnull _ => exact hnull (by simpa using h)

theorem listOf_map {decode : Json → Option α} {encode : α → Json} {xs : List α}
    (h : ∀ x ∈ xs, decode (encode x) = some x) :
    listOf decode (.array (xs.map encode)) = some xs := by
  rw [listOf]
  induction xs with
  | nil => rfl
  | cons x rest ih =>
    rw [List.forall_mem_cons] at h
    simp [List.mapM_cons, h.1, ih h.2]

theorem exists_of_mem_listOf {decode : Json → Option α} {j : Json} {xs : List α}
    (h : listOf decode j = some xs) {x : α} (hx : x ∈ xs) : ∃ item, decode item = some x := by
  cases j with
  | null | bool | number | string | object => cases h
  | array items =>
    rw [listOf] at h
    induction items generalizing xs with
    | nil =>
      obtain rfl : xs = [] := by simpa using h.symm
      cases hx
    | cons item rest ih =>
      simp only [List.mapM_cons, Option.bind_eq_bind, Option.bind_eq_some_iff, Option.pure_def,
        Option.some.injEq] at h
      obtain ⟨y, hy, ys, hys, rfl⟩ := h
      rcases List.mem_cons.mp hx with rfl | hx
      · exact ⟨item, hy⟩
      · exact ih hx hys

end Json

namespace Schema

theorem lookup_optionalMember (key other : String) (v : Option Json) :
    Json.lookup key (optionalMember other v) = if other = key then v else none := by
  cases v <;> simp [optionalMember, Json.lookup]

/-- The members that are written for a field. -/
def FileField.members (f : FileField) : List (String × Json) :=
  ("name", .string f.name) :: ("type", .string f.type.name) ::
    (optionalMember "path" (f.path.map .string) ++
      ("indexed", .bool f.indexed) :: ("unique", .bool f.unique) ::
        ("nullable", .bool f.nullable) ::
        optionalMember "default" f.default)

theorem FileField.lookup_members (f : FileField) :
    Json.lookup "path" f.members = f.path.map .string ∧ Json.lookup "indexed" f.members =
      some (.bool f.indexed) ∧
    Json.lookup "unique" f.members = some (.bool f.unique) ∧
    Json.lookup "nullable" f.members = some (.bool f.nullable) ∧ Json.lookup "default" f.members =
      f.default := by
  simp [members, Json.lookup, Json.lookup_append, lookup_optionalMember]

theorem FileField.nodup_members (f : FileField) : (f.members.map Prod.fst).Nodup := by
  obtain ⟨name, type, path, indexed, unique, nullable, default⟩ := f
  cases path <;> cases default <;> simp [members, optionalMember]

/-- A field is read from what is written for it, unless its default is a null. -/
theorem FileField.ofJson?_members {f : FileField} (h : f.default ≠ some .null) :
    ofJson? f.toJson = some f := by
  obtain ⟨hpath, hindexed, hunique, hnullable, hdefault⟩ := f.lookup_members
  have hrecord : f.toJson.asRecord? ["name", "type", "path", "indexed", "unique",
    "nullable", "default"] =
      some f.members := rfl
  have hname : Json.required Json.asString? "name" f.members = some f.name := rfl
  have htype : Json.required typeOfJson? "type" f.members = some f.type :=
    FieldType.ofName?_name f.type
  have hpath : Json.optional Json.asString? "path" f.members = some f.path :=
    Json.optional_eq hpath fun _ _ => ⟨rfl, Json.noConfusion⟩
  have hindexed : Json.defaulted Json.asBool? false "indexed" f.members = some f.indexed :=
    Json.defaulted_eq hindexed
  have hunique : Json.defaulted Json.asBool? false "unique" f.members = some f.unique :=
    Json.defaulted_eq hunique
  have hnullable : Json.defaulted Json.asBool? true "nullable" f.members = some f.nullable :=
    Json.defaulted_eq hnullable
  have hdefault : Json.lookup "default" f.members = f.default.map id := by simpa using hdefault
  have hdefault : Json.optional some "default" f.members = some f.default :=
    Json.optional_eq hdefault fun x hx => ⟨rfl, fun hnull => h (hnull ▸ hx)⟩
  rw [ofJson?, hrecord]
  simp only [Option.bind_eq_bind, Option.bind_some, hname, htype, hpath, hindexed, hunique,
    hnullable, hdefault]
  rfl

theorem FileField.default_ne_null {j : Json} {f : FileField} (h : ofJson? j = some f) :
    f.default ≠ some .null := by
  simp only [ofJson?, Option.bind_eq_bind, Option.bind_eq_some_iff, Option.pure_def,
    Option.some.injEq] at h
  obtain ⟨_, _, _, _, _, _, _, _, _, _, _, _, _, _, default, hdefault, rfl⟩ := h
  exact Json.ne_null_of_optional hdefault

theorem File.indexOfJson?_indexToJson (i : Index) : indexOfJson? (indexToJson i) = some i := by
  have hfields : Json.listOf Json.asString? (.array (i.fields.map .string)) = some i.fields :=
    Json.listOf_map fun _ _ => rfl
  have hrequired : Json.required (Json.listOf Json.asString?) "fields" [("name", .string i.name),
      ("fields", .array (i.fields.map .string)), ("unique", .bool i.unique)] =
        some i.fields := hfields
  rw [indexOfJson?]
  simp only [indexToJson, Json.asRecord?, Option.bind_eq_bind, Option.bind_some, hrequired]
  rfl

/-- The members that are written for a file. -/
def File.members (f : File) : List (String × Json) :=
  ("collection", .string f.collection) ::
    (optionalMember "body_column" (f.bodyColumn.map .string) ++
      [("timestamps", .bool f.timestamps), ("cacheable", .bool f.cacheable),
        ("fields", .array (f.fields.map FileField.toJson)),
        ("indexes", .array (f.indexes.map File.indexToJson))])

theorem File.lookup_members (f : File) :
    Json.lookup "body_column" f.members = f.bodyColumn.map .string ∧
    Json.lookup "timestamps" f.members = some (.bool f.timestamps) ∧
    Json.lookup "cacheable" f.members = some (.bool f.cacheable) ∧
    Json.lookup "fields" f.members = some (.array (f.fields.map FileField.toJson)) ∧
    Json.lookup "indexes" f.members = some (.array (f.indexes.map File.indexToJson)) := by
  simp [members, Json.lookup, Json.lookup_append, lookup_optionalMember]

theorem File.nodup_members (f : File) : (f.members.map Prod.fst).Nodup := by
  obtain ⟨collection, bodyColumn, timestamps, cacheable, fields, indexes⟩ := f
  cases bodyColumn <;> simp [members, optionalMember]

/-- Whether every default in the file is a value. -/
def File.IsReadable (f : File) : Prop := ∀ field ∈ f.fields, field.default ≠ some .null

theorem File.isReadable_of_ofJson? {j : Json} {f : File} (h : ofJson? j = some f) :
    f.IsReadable := by
  simp only [ofJson?, Option.bind_eq_bind, Option.bind_eq_some_iff, Option.pure_def,
    Option.some.injEq] at h
  obtain ⟨members, _, _, _, _, _, _, _, _, _, fields, hfields, _, _, rfl⟩ := h
  intro field hfield
  unfold Json.defaulted at hfields
  split at hfields
  · obtain ⟨item, hitem⟩ := Json.exists_of_mem_listOf hfields hfield
    exact FileField.default_ne_null hitem
  · obtain rfl := Option.some.inj hfields
    cases hfield

/-- A file is read from what is written for it, if every default in it is a value. -/
theorem File.ofJson?_members {f : File} (h : f.IsReadable) : ofJson? f.toJson = some f := by
  obtain ⟨hbody, htimestamps, hcacheable, hfields, hindexes⟩ := f.lookup_members
  have hrecord : f.toJson.asRecord? ["collection", "body_column", "timestamps", "cacheable",
    "fields", "indexes"] =
      some f.members := rfl
  have hcollection : Json.required Json.asString? "collection" f.members = some f.collection := rfl
  have hbody : Json.optional Json.asString? "body_column" f.members = some f.bodyColumn :=
    Json.optional_eq hbody fun _ _ => ⟨rfl, Json.noConfusion⟩
  have htimestamps : Json.defaulted Json.asBool? false "timestamps" f.members = some f.timestamps :=
    Json.defaulted_eq htimestamps
  have hcacheable : Json.defaulted Json.asBool? true "cacheable" f.members = some f.cacheable :=
    Json.defaulted_eq hcacheable
  have hfields : Json.defaulted (Json.listOf FileField.ofJson?) [] "fields" f.members =
      some f.fields :=
    (Json.defaulted_eq hfields).trans
      (Json.listOf_map fun field hfield => FileField.ofJson?_members (h field hfield))
  have hindexes : Json.defaulted (Json.listOf indexOfJson?) [] "indexes" f.members =
      some f.indexes :=
    (Json.defaulted_eq hindexes).trans (Json.listOf_map fun i _ => indexOfJson?_indexToJson i)
  rw [ofJson?, hrecord]
  simp only [Option.bind_eq_bind, Option.bind_some, hcollection, hbody, htimestamps, hcacheable,
    hfields, hindexes]
  rfl

/-- The files that are read from some value are those in which every default is a value. -/
theorem File.exists_ofJson?_iff {f : File} : (∃ j, ofJson? j = some f) ↔ f.IsReadable :=
  ⟨fun ⟨_, h⟩ => isReadable_of_ofJson? h, fun h => ⟨f.toJson, ofJson?_members h⟩⟩

/-- A file that was read is written as an object with each name once, in which what is absent is
left out, and from which the same file is read. So the file that is read again is accepted exactly
if the first one is, and it makes the same schema, with the same fingerprint and the same
statements. -/
theorem File.ofJson?_toJson {j : Json} {f : File} (h : ofJson? j = some f) :
    (∃ members, f.toJson = .object members ∧ (members.map Prod.fst).Nodup ∧
      Json.lookup "body_column" members = f.bodyColumn.map .string) ∧
    (∀ field ∈ f.fields, ∃ members, field.toJson = .object members ∧ (members.map Prod.fst).Nodup ∧
      Json.lookup "path" members = field.path.map .string ∧ Json.lookup "default" members =
        field.default) ∧
    ofJson? f.toJson = some f ∧
    ∀ g, ofJson? f.toJson = some g →
      ((∃ s, g.toDeclaration.build = .ok s) ↔ ∃ s, f.toDeclaration.build = .ok s) ∧
      ∀ s t, g.toDeclaration.build = .ok s → f.toDeclaration.build = .ok t →
        s = t ∧ s.fingerprint = t.fingerprint ∧ s.statements = t.statements := by
  have hsame : ofJson? f.toJson = some f := ofJson?_members (isReadable_of_ofJson? h)
  refine ⟨⟨f.members, rfl, f.nodup_members, f.lookup_members.1⟩, ?_, hsame, ?_⟩
  · intro field _
    obtain ⟨hpath, -, -, -, hdefault⟩ := field.lookup_members
    exact ⟨field.members, rfl, field.nodup_members, hpath, hdefault⟩
  · intro g hg
    obtain rfl := Option.some.inj (hsame.symm.trans hg)
    refine ⟨Iff.rfl, fun s t hs ht => ?_⟩
    obtain rfl := Except.ok.inj (hs.symm.trans ht)
    exact ⟨rfl, rfl, rfl⟩

/-- A file with members that are missing, null, unknown or written as lists. -/
def playersJson : Json := .object [
  ("fields", .array [
    .array [.string "age", .string "integer", .null, .bool true],
    .object [("type", .object [("text", .null)]), ("name", .string "tags"),
      ("nullable", .bool false),
      ("default", .array [.null]), ("path", .string "$.labels")]]),
  ("collection", .string "players"), ("body_column", .null), ("comment", .string "by hand"),
  ("indexes", .array [.object [("name", .string "by_age"), ("fields", .array [.string "age"])]])]

def playersFile : File where
  collection := "players"
  bodyColumn := none
  timestamps := false
  cacheable := true
  fields := [⟨"age", .integer, none, true, false, true, none⟩,
    ⟨"tags", .text, some "$.labels", false, false, false, some (.array [.null])⟩]
  indexes := [⟨"by_age", ["age"], false⟩]

/-- What is written for it. -/
def playersWritten : Json := .object [
  ("collection", .string "players"), ("timestamps", .bool false), ("cacheable", .bool true),
  ("fields", .array [
    .object [("name", .string "age"), ("type", .string "integer"), ("indexed", .bool true),
      ("unique", .bool false),
      ("nullable", .bool true)],
    .object [("name", .string "tags"), ("type", .string "text"), ("path", .string "$.labels"),
      ("indexed", .bool false), ("unique", .bool false), ("nullable", .bool false),
        ("default", .array [.null])]]),
  ("indexes", .array [
    .object [("name", .string "by_age"), ("fields", .array [.string "age"]),
      ("unique", .bool false)]])]

theorem File.ofJson?_toJson_players :
    ofJson? playersJson = some playersFile ∧ playersFile.toJson = playersWritten ∧
    ofJson? playersWritten = some playersFile ∧
    ∃ s, playersFile.toDeclaration.build = .ok s ∧
      s.fields.map Field.path = ["$.age", "$.labels"] := by
  have hread : ofJson? playersJson = some playersFile := rfl
  have hwritten : playersFile.toJson = playersWritten := rfl
  have hbuild : playersFile.toDeclaration.build.toOption.map (fun s => s.fields.map Field.path) =
      some ["$.age", "$.labels"] := by decide +kernel
  obtain ⟨-, -, hsame, -⟩ := ofJson?_toJson hread
  exact ⟨hread, hwritten, hwritten ▸ hsame, Declaration.exists_of_build hbuild⟩

end Schema

end DocumentQuery
