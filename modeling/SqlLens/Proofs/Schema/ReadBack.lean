import Mathlib.Data.List.Forall2
import Mathlib.Tactic.Convert
import SqlLens.Store.Basic

/-!
Types, fields and tables that are read again from their JSON forms.

What a writer leaves out and what a reader puts in its place are said apart, for each member. A reader finds the members
it knows by their names, so it is enough that an object gives the same for these (`Json.Pads`), whatever else is in it,
at any depth.
-/

namespace SqlLens

open Option (Rel)

namespace Json

/-- The names that a reader knows in an object that was written with some names. Only a field leaves out members. -/
def knownNames (written : List String) : List String :=
  if written.contains "name" && written.contains "type" then SchemaField.memberNames else written

/-- The second value is the first with other members in its objects, at any depth, but none that a reader knows. -/
inductive Pads : Json → Json → Prop where
  | same (value : Json) : Pads value value
  | array (each : List.Forall₂ Pads values values') : Pads (.array values) (.array values')
  | object (known : ∀ name ∈ knownNames (members.map Prod.fst), Rel Pads (lookup name members) (lookup name members')) :
      Pads (.object members) (.object members')

theorem Pads.object_inv (pads : Pads (.object members) value) : ∃ members', value = .object members' ∧
    ∀ name ∈ knownNames (members.map Prod.fst), Rel Pads (lookup name members) (lookup name members') := by
  cases pads with
  | object known => exact ⟨_, rfl, known⟩
  | same =>
    refine ⟨_, rfl, fun name _ => ?_⟩
    cases lookup name members with
    | none => exact .none
    | some value => exact .some (.same value)

theorem depth_found (found : lookup name members = some value) : value.depth < (object members).depth := by
  rw [depth.eq_2, Nat.lt_succ_iff]
  induction members with
  | nil => cases found
  | cons member rest ih =>
    rw [depthMembers]
    rcases Option.or_eq_some_iff.mp found with later | ⟨-, here⟩
    · exact Nat.le_trans (ih later) (Nat.le_max_right _ _)
    · split at here
      · cases here
        exact Nat.le_max_left _ _
      · cases here

theorem found_of_rel (read : Rel Pads (some value) found) : ∃ value', found = some value' ∧ Pads value value' := by
  cases read with
  | some pads => exact ⟨_, rfl, pads⟩

theorem text_of_rel (read : Rel Pads (some (.string text)) found) : found = some (.string text) := by
  obtain ⟨value, rfl, pads⟩ := found_of_rel read
  cases pads
  rfl

theorem items_of_rel (read : Rel Pads (some (.array values)) found) :
    ∃ values', found = some (.array values') ∧ List.Forall₂ Pads values values' := by
  obtain ⟨value, rfl, pads⟩ := found_of_rel read
  cases pads with
  | array each => exact ⟨_, rfl, each⟩
  | same => exact ⟨_, rfl, List.forall₂_same.mpr fun value _ => .same value⟩

end Json

namespace SqlType

open Json

mutual
theorem ofJsonWithin_pads {inner : Bool} : (type : SqlType) → Pads type.toJson value → value.depth < fuel →
    ofJsonWithin fuel inner value = some type
  | .scalar s, pads, enough => by
    obtain ⟨fuel, rfl⟩ := Nat.exists_eq_add_one_of_ne_zero (Nat.ne_zero_of_lt enough)
    obtain ⟨members, rfl, known⟩ := pads.object_inv
    have tag := text_of_rel (known "type" (by simp [knownNames]))
    simp only [ofJsonWithin, tagged?, tag]
    cases s <;> rfl
  | .struct fields, pads, enough => by
    obtain ⟨fuel, rfl⟩ := Nat.exists_eq_add_one_of_ne_zero (Nat.ne_zero_of_lt enough)
    obtain ⟨members, rfl, known⟩ := pads.object_inv
    have tag := text_of_rel (known "type" (by simp [knownNames]))
    obtain ⟨values, found, each⟩ := items_of_rel (known "fields" (by simp [knownNames]))
    have deep := depth_found found
    rw [depth.eq_1] at deep
    have read := fieldsWithin_pads fields each (show depthAll values ≤ fuel by omega)
    simp only [Option.pure_def, Option.bind_eq_bind] at read
    simp [ofJsonWithin, tagged?, tag, tagOf?, onlyMember?, found, array?, read]
  | .array element, pads, enough => by
    obtain ⟨fuel, rfl⟩ := Nat.exists_eq_add_one_of_ne_zero (Nat.ne_zero_of_lt enough)
    obtain ⟨members, rfl, known⟩ := pads.object_inv
    have tag := text_of_rel (known "type" (by simp [knownNames]))
    obtain ⟨value, found, pads⟩ := found_of_rel (known "element_type" (by simp [knownNames]))
    have deep := depth_found found
    have read : ofJsonWithin fuel true value = some element := ofJsonWithin_pads element pads (by omega)
    simp [ofJsonWithin, tagged?, tag, tagOf?, onlyMember?, found, read]

theorem fieldsWithin_pads : (fields : List (String × SqlType)) → List.Forall₂ Pads (fieldsToJson fields) values →
    depthAll values ≤ fuel → (values.mapM fun field => do
      let (name, type) ← fieldMembers? field
      return (name, ← ofJsonWithin fuel true type)) = some fields
  | [], .nil, _ => rfl
  | (name, type) :: rest, .cons first others, enough => by
    obtain ⟨members, rfl, known⟩ := first.object_inv
    have named := text_of_rel (known "name" (by simp [knownNames]))
    obtain ⟨value, found, pads⟩ := found_of_rel (known "field_type" (by simp [knownNames]))
    have deep := depth_found found
    rw [depthAll, Nat.max_le] at enough
    have read : ofJsonWithin fuel true value = some type := ofJsonWithin_pads type pads (by omega)
    rw [List.mapM_cons, fieldsWithin_pads rest others enough.2]
    simp [fieldMembers?, named, found, string?, read]
end

end SqlType

namespace SchemaField

open Json

/-- What the members of a field say, those that are not written apart. -/
def saying (field : SchemaField) : String → Option Json
  | "name" => some (.string field.name)
  | "type" => some (.string field.typeName)
  | "mode" => field.mode.map fun mode => .string mode.word
  | "description" => if field.description.isEmpty then none else some (.string field.description)
  | "fields" => if field.fields.isEmpty then none else some (.array (allToJson field.fields))
  | _ => none

theorem known_members (field : SchemaField) (pads : Pads field.toJson value) : ∃ members, value = .object members ∧
    ∀ key ∈ memberNames, Rel Pads (field.saying key) (lookup key members) := by
  obtain ⟨name, typeName, mode, description, fields⟩ := field
  rw [toJson] at pads
  obtain ⟨members, rfl, known⟩ := pads.object_inv
  refine ⟨members, rfl, fun key listed => ?_⟩
  have read := known key (by simpa [knownNames] using listed)
  convert read using 1
  clear read known pads
  revert key
  cases mode <;> cases fields <;> by_cases empty : description.isEmpty <;>
    simp [memberNames, saying, Json.lookup, allToJson, empty, SchemaField.name, SchemaField.typeName, SchemaField.mode,
      SchemaField.description, SchemaField.fields]

theorem mode_read {mode : Option Mode} (read : Rel Pads (mode.map fun mode => .string mode.word) found) :
    orDefault none modeOfJson? found = some mode := by
  cases mode with
  | none =>
    cases read
    rfl
  | some mode =>
    rw [text_of_rel read]
    cases mode <;> rfl

theorem description_read {text : String} (read : Rel Pads (if text.isEmpty then none else some (.string text)) found) :
    orDefault "" string? found = some text := by
  split at read
  · rename_i empty
    cases read
    rw [String.isEmpty_iff.mp empty]
    rfl
  · rw [text_of_rel read]
    rfl

mutual
theorem ofJsonWithin_pads : (field : SchemaField) → Pads field.toJson value → value.depth < fuel →
    ofJsonWithin fuel value = some field
  | mk name typeName mode description fields, pads, enough => by
    obtain ⟨fuel, rfl⟩ := Nat.exists_eq_add_one_of_ne_zero (Nat.ne_zero_of_lt enough)
    obtain ⟨members, rfl, known⟩ := known_members _ pads
    simp only [memberNames, List.forall_mem_cons] at known
    obtain ⟨named, typed, moded, described, below, -⟩ := known
    have inside : orDefault [] (fun value => value.array?.bind fun values => values.mapM (ofJsonWithin fuel))
        (lookup "fields" members) = some fields := by
      cases fields with
      | nil =>
        generalize lookup "fields" members = found at below ⊢
        cases below
        rfl
      | cons first more =>
        obtain ⟨values, found, each⟩ := items_of_rel below
        have deep := depth_found found
        rw [depth.eq_1] at deep
        rw [found]
        exact allWithin_pads (first :: more) each (by omega)
    simp only
      [ofJsonWithin, record?, Option.bind_eq_bind, Option.bind_some, text_of_rel named, text_of_rel typed, string?,
      mode_read moded, description_read described, inside]
    rfl

theorem allWithin_pads : (fields : List SchemaField) → List.Forall₂ Pads (allToJson fields) values →
    depthAll values < fuel → values.mapM (ofJsonWithin fuel) = some fields
  | [], .nil, _ => rfl
  | field :: rest, .cons first others, enough => by
    rw [depthAll, Nat.max_lt] at enough
    rw [List.mapM_cons, ofJsonWithin_pads field first enough.1, allWithin_pads rest others enough.2]
    rfl
end

theorem allOfJson_pads (fields : List SchemaField) (each : List.Forall₂ Pads (allToJson fields) values) :
    values.mapM ofJson? = some fields := by
  induction fields generalizing values with
  | nil =>
    cases each
    rfl
  | cons field rest ih =>
    cases each with
    | cons first others =>
      rw [List.mapM_cons, ih others, ofJson?, ofJsonWithin_pads field first (Nat.lt_succ_self _)]
      rfl

end SchemaField

open Json in
theorem Table.ofJson_pads (table : Table) (created : Instant.parse? table.created.text = some table.created)
    (modified : Instant.parse? table.modified.text = some table.modified) (pads : Pads table.toJson value) :
    ofJson? value = some table := by
  obtain ⟨members, rfl, known⟩ := pads.object_inv
  have known (key : String) (listed : key ∈ memberNames) := known key listed
  simp only [memberNames, List.forall_mem_cons] at known
  obtain ⟨named, described, made, changed, below, -⟩ := known
  obtain ⟨values, found, each⟩ := items_of_rel below
  simp only
    [ofJson?, SchemaField.record?, Option.bind_eq_bind, Option.bind_some, text_of_rel named, text_of_rel described,
    text_of_rel made, text_of_rel changed, string?, created, modified, SchemaField.orDefault, found,
      SchemaField.allOfJson?,
    array?, SchemaField.allOfJson_pads _ each]
  rfl

/-- Types, fields and tables are read again from their JSON forms, at any depth and whatever unknown members are added.
So a store gives a table if its snapshot is a text that is read as the form of the table. -/
theorem json_forms_read_back (type : SqlType) (field : SchemaField) (table : Table)
    (created : Instant.parse? table.created.text = some table.created)
    (modified : Instant.parse? table.modified.text = some table.modified) (value : Json) :
    (type.toJson.Pads value → SqlType.ofJson? value = some type) ∧
    (field.toJson.Pads value → SchemaField.ofJson? value = some field) ∧
    (table.toJson.Pads value → Table.ofJson? value = some table ∧ ∀ folder files path content,
      Files.read files (Snapshot.file folder path) = .ok content → Json.parseAs? Table.shape content = some value →
        Snapshot.answer folder files path = .ok table) := by
  refine ⟨fun pads => ?_, fun pads => ?_, fun pads => ?_⟩
  · exact type.ofJsonWithin_pads pads (Nat.lt_succ_self _)
  · exact field.ofJsonWithin_pads pads (Nat.lt_succ_self _)
  · have read := table.ofJson_pads created modified pads
    refine ⟨read, fun folder files path content held parsed => ?_⟩
    simp [Snapshot.answer, held, Table.ofText?, parsed, read]

/-- A field may have a member that nobody knows. -/
theorem tagged_field_read_back :
    SchemaField.ofJson? (.object [("name", .string "a"), ("tags", .array []), ("type", .string "INT64")]) =
      some (.mk "a" "INT64" none "" []) := by
  refine (json_forms_read_back .bool _ (.of "t" .epoch []) (by decide +kernel) (by decide +kernel) _).2.1 (.object ?_)
  simp [Json.knownNames, SchemaField.memberNames, Json.lookup, SchemaField.allToJson, Json.Pads.same]

end SqlLens
