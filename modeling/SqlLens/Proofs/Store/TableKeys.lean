import SqlLens.Store.TablePath

/-!
Keys of tables.

The key of a table joins its names with dots. Names that are written have no dots in them; a default project may, but it
comes first. So the last two dots of a key tell the names apart (`canonical_inj`).
-/

namespace SqlLens

open List

theorem Text.splitOn_eq (separator : Char) (text : List Char) : splitOn separator text = text.splitOn separator := by
  induction text with
  | nil => rfl
  | cons c rest ih =>
    rw [splitOn, ih, List.splitOn, List.splitOn, splitOnP_cons_eq_if_modifyHead]
    by_cases same : c = separator
    · simp [same]
    · cases pieces : splitOnP (· == separator) rest with
      | nil => exact absurd pieces (splitOnP_ne_nil _ _)
      | cons piece pieces => simp [same]

theorem Text.splitOn_eq_cons_iff {separator : Char} {text piece : List Char} {pieces : List (List Char)} :
    splitOn separator text = piece :: pieces ↔
      (∀ part ∈ piece :: pieces, separator ∉ part) ∧ text = [separator].intercalate (piece :: pieces) := by
  constructor
  · intro cut
    refine ⟨fun part listed => not_mem_of_mem_splitOn (cut ▸ listed), ?_⟩
    rw [← cut, splitOn_eq, intercalate_splitOn]
  · rintro ⟨free, rfl⟩
    rw [splitOn_eq, splitOn_intercalate _ free (cons_ne_nil _ _)]

namespace TablePath

variable {path other : TablePath} {written : String} {project : Option String}

theorem dotFirstColon_append (free : ':' ∉ before) (rest : List Char) :
    dotFirstColon (before ++ rest) = before ++ dotFirstColon rest := by
  induction before with
  | nil => rfl
  | cons c before ih =>
    obtain ⟨other, free⟩ := not_or.mp (mt mem_cons.mpr free)
    rw [cons_append, dotFirstColon, if_neg (Ne.symm other), ih free, cons_append]

theorem dotFirstColon_eq_iff {written text : List Char} : dotFirstColon written = text ↔
    ':' ∉ written ∧ text = written ∨
      ∃ before after, ':' ∉ before ∧ written = before ++ ':' :: after ∧ text = before ++ '.' :: after := by
  constructor
  · rintro rfl
    by_cases colon : ':' ∈ written
    · obtain ⟨before, after, rfl, free⟩ := eq_append_cons_of_mem colon
      exact .inr ⟨before, after, free, rfl, dotFirstColon_append free _⟩
    · exact .inl ⟨colon, by simpa [dotFirstColon] using dotFirstColon_append colon []⟩
  · rintro (⟨free, rfl⟩ | ⟨before, after, free, rfl, rfl⟩)
    · simpa [dotFirstColon] using dotFirstColon_append free []
    · exact dotFirstColon_append free _

theorem parts_eq_cons_iff : parts written = part :: others ↔
    (∀ name ∈ part :: others, '.' ∉ name.toList) ∧
      dotFirstColon written.toList = ['.'].intercalate ((part :: others).map String.toList) := by
  have pieces : parts written = part :: others ↔
      Text.splitOn '.' (dotFirstColon written.toList) = (part :: others).map String.toList := by
    constructor
    · intro cut
      rw [← cut, parts, map_map, Function.comp_def]
      simp
    · intro cut
      rw [parts, cut, map_map, Function.comp_def]
      simp
  rw [pieces, map_cons, Text.splitOn_eq_cons_iff]
  simp

/-- A name between dots: it is not empty and has no dot in it. -/
def IsPart (name : String) : Prop := name ≠ "" ∧ '.' ∉ name.toList

theorem parse_eq_ok_iff : parse project written = .ok path ↔ IsPart path.dataset ∧ IsPart path.table ∧
    (IsPart path.project ∧ dotFirstColon written.toList =
        path.project.toList ++ '.' :: (path.dataset.toList ++ '.' :: path.table.toList) ∨
      project = some path.project ∧
          dotFirstColon written.toList = path.dataset.toList ++ '.' :: path.table.toList) := by
  have read : parse project written = .ok path ↔ (∀ part ∈ parts written, part ≠ "") ∧
      (parts written = [path.project, path.dataset, path.table] ∨
        project = some path.project ∧ parts written = [path.dataset, path.table]) := by
    cases path
    grind [parse, String.isEmpty_iff]
  have three := @parts_eq_cons_iff written path.project [path.dataset, path.table]
  have two := @parts_eq_cons_iff written path.dataset [path.table]
  simp only [mem_cons, not_mem_nil, or_false, forall_eq_or_imp, forall_eq, intercalate, map_cons, map_nil,
    intersperse_cons_cons, intersperse_singleton, flatten_cons, flatten_nil, append_nil, cons_append,
      nil_append] at three two
  rw [read]
  grind [IsPart]

theorem eq_of_last_dot (plain : '.' ∉ last) (plain' : '.' ∉ last')
    (same : front ++ '.' :: last = front' ++ '.' :: last') : front = front' ∧ last = last' := by
  rcases append_eq_append_iff.mp same with ⟨more, rfl, rest⟩ | ⟨more, rfl, rest⟩ <;> cases more <;> simp_all

theorem canonical_inj (plain : '.' ∉ path.dataset.toList ∧ '.' ∉ path.table.toList)
    (plain' : '.' ∉ other.dataset.toList ∧ '.' ∉ other.table.toList) (same : path.canonical = other.canonical) :
    path = other := by
  have joined (path : TablePath) : path.canonical.toList =
      (path.project.toList ++ '.' :: path.dataset.toList) ++ '.' :: path.table.toList := by
    simp [canonical]
  obtain ⟨front, table⟩ := eq_of_last_dot plain.2 plain'.2 (by rw [← joined, ← joined, same])
  obtain ⟨project, dataset⟩ := eq_of_last_dot plain.1 plain'.1 front
  rw [String.toList_inj] at project dataset table
  cases path
  cases other
  simp_all

end TablePath

open TablePath in
/-- A path is read exactly if its names stand between dots, where the first colon counts as a dot: all three of them, or
the last two if there is a default project. Paths that are read with the same default project have different keys if
they differ. -/
theorem table_keys_do_not_collide (project : Option String) :
    (∀ written path, parse project written = .ok path ↔ IsPart path.dataset ∧ IsPart path.table ∧
      ∃ text, (':' ∉ written.toList ∧ text = written.toList ∨ ∃ before after, ':' ∉ before ∧
          written.toList = before ++ ':' :: after ∧ text = before ++ '.' :: after) ∧
        (IsPart path.project ∧ text = path.project.toList ++ '.' :: (path.dataset.toList ++ '.' :: path.table.toList) ∨
          project = some path.project ∧ text = path.dataset.toList ++ '.' :: path.table.toList)) ∧
    ∀ first second path other, parse project first = .ok path → parse project second = .ok other →
      path.canonical = other.canonical → path = other := by
  refine ⟨fun written path => ?_, fun first second path other read read' => ?_⟩
  · simp only [parse_eq_ok_iff, ← dotFirstColon_eq_iff, exists_eq_left']
  · obtain ⟨dataset, table, -⟩ := parse_eq_ok_iff.mp read
    obtain ⟨dataset', table', -⟩ := parse_eq_ok_iff.mp read'
    exact canonical_inj ⟨dataset.2, table.2⟩ ⟨dataset'.2, table'.2⟩

end SqlLens
