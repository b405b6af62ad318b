import SqlLens.Proofs.Text.Case

/-!
Names of types that were written as text.

Reading cuts a name at its first opening and its last closing bracket. What is written between them is all that was
written of an element, so arrays read back at any depth, whatever the names of fields hold; of a structure only the word
is read.
-/

namespace SqlLens

open List hiding after
open Text

theorem Text.dropWhile_blanks (blank : ∀ c ∈ blanks, isBlank c) (first : text.head?.any (!isBlank ·))
    (rest : List Char) :
    (blanks ++ (text ++ rest)).dropWhile isBlank = text ++ rest := by
  rw [dropWhile_append_of_pos blank]
  cases text with
  | nil => cases first
  | cons c text => exact dropWhile_cons_of_neg (by simpa using first)

theorem Text.trim_between (blank : ∀ c ∈ before ++ after, isBlank c) (first : text.head?.any (!isBlank ·))
    (last : text.getLast?.any (!isBlank ·)) : trim (before ++ text ++ after) = text := by
  obtain ⟨ahead, behind⟩ := forall_mem_append.mp blank
  have last : text.reverse.head?.any (!isBlank ·) := by rwa [head?_reverse]
  have dropped := dropWhile_blanks (by simpa using behind : ∀ c ∈ after.reverse, isBlank c) last []
  rw [append_nil, ← reverse_append] at dropped
  rw [trim, append_assoc, dropWhile_blanks ahead first, dropped, reverse_reverse]

namespace SqlType

def bare : SqlType → SqlType
  | array element => array element.bare
  | struct _ => struct []
  | scalar s => scalar s

def hasStruct : SqlType → Bool
  | array element => element.hasStruct
  | struct _ => true
  | scalar _ => false

theorem bare_eq_self (type : SqlType) (plain : type.hasStruct = false) : type.bare = type := by
  induction type using bare.induct with
  | case1 element ih => rw [bare, ih plain]
  | case2 => cases plain
  | case3 => rfl

theorem bare_bare (type : SqlType) : type.bare.bare = type.bare := by
  induction type using bare.induct with
  | case1 element ih => rw [bare, bare, ih]
  | case2 | case3 => rfl

def arrays : SqlType → Nat
  | array element => element.arrays + 1
  | _ => 0

theorem toList_text_array (element : SqlType) :
    (array element).text.toList = ['A', 'R', 'R', 'A', 'Y', '<'] ++ element.text.toList ++ ['>'] := by
  simp [text]

theorem toList_text_struct (fields : List (String × SqlType)) : ∃ inside,
    (struct fields).text.toList = ['S', 'T', 'R', 'U', 'C', 'T', '<'] ++ inside ++ ['>'] :=
  ⟨(join ", " (fieldTexts fields)).toList, by simp [text]⟩

theorem arrays_lt_length (type : SqlType) : type.arrays < type.text.length := by
  induction type using bare.induct with
  | case1 element ih =>
    rw [← String.length_toList, toList_text_array]
    simp only [arrays, length_append, length_cons, String.length_toList]
    omega
  | case2 fields =>
    obtain ⟨inside, same⟩ := toList_text_struct fields
    rw [← String.length_toList, same]
    simp [arrays]
  | case3 s => cases s <;> decide

theorem trim_text (type : SqlType) (blank : ∀ c ∈ before ++ after, isBlank c) :
    trim (before ++ type.text.toList ++ after) = type.text.toList := by
  cases type with
  | scalar s => cases s <;> exact trim_between blank rfl rfl
  | struct fields =>
    obtain ⟨inside, same⟩ := toList_text_struct fields
    exact same ▸ trim_between blank rfl (by rw [getLast?_concat]; rfl)
  | array element =>
    rw [toList_text_array]
    exact trim_between blank rfl (by rw [getLast?_concat]; rfl)

theorem parameter_array (inside : List Char) :
    parameter? (['A', 'R', 'R', 'A', 'Y', '<'] ++ inside ++ ['>']) = some inside := by
  simp [parameter?, dropWhile]

theorem ofChars_text (before after : List Char) (type : SqlType) (enough : type.arrays ≤ fuel)
    (blank : ∀ c ∈ before ++ after, isBlank c) :
    ofChars (fuel + 1) (before ++ type.text.toList ++ after) = type.bare := by
  induction type using bare.induct generalizing fuel before after with
  | case1 element ih =>
    obtain ⟨fuel, rfl⟩ := Nat.exists_eq_add_of_le' (Nat.le_trans (Nat.le_add_left 1 _) enough)
    have read := ih [] [] (Nat.le_of_succ_le_succ enough) (by simp)
    rw [nil_append, append_nil] at read
    have base : baseName (array element).text.toList = "ARRAY" := by
      rw [toList_text_array]
      simp [baseName, takeWhile]
      decide
    rw [ofChars, trim_text _ blank, base, if_pos rfl, toList_text_array, parameter_array]
    exact congrArg array read
  | case2 fields =>
    have base : baseName (struct fields).text.toList = "STRUCT" := by
      obtain ⟨inside, same⟩ := toList_text_struct fields
      rw [same]
      simp [baseName, takeWhile]
      decide
    rw [ofChars, trim_text _ blank, base]
    rfl
  | case3 s =>
    have base : baseName (scalar s).text.toList = scalarName s := by cases s <;> decide
    rw [ofChars, trim_text _ blank, base]
    cases s <;> rfl

theorem ofName_around (before after : List Char) (type : SqlType) (blank : ∀ c ∈ before ++ after, isBlank c)
    (same : sameName name type.text) : ofName (String.ofList (before ++ name.toList ++ after)) = type.bare := by
  have alike : sameName (String.ofList (before ++ name.toList ++ after))
      (String.ofList (before ++ type.text.toList ++ after)) := by
    rw [sameName_iff] at same ⊢
    simp [same]
  rw [ofName_congr alike, ofName, String.toList_ofList, String.length_ofList]
  refine ofChars_text before after type ?_ blank
  have short := type.arrays_lt_length
  rw [← String.length_toList] at short
  simp only [length_append]
  omega

theorem ofName_text (type : SqlType) : ofName type.text = type.bare := by
  simpa using ofName_around [] [] type (by simp) (sameName_refl type.text)

/-- A type that is written and read again is the same but for the fields of the structure that its innermost elements
are, so a type without structures reads back, and reading back once more changes nothing. Blanks around the text of a
type without structures, and the case of its letters, do not matter. -/
theorem reading_forgets_fields_only :
    (∀ type : SqlType, ofName type.text = type.bare ∧ (type.hasStruct = false → ofName type.text = type) ∧
      ofName (ofName type.text).text = ofName type.text) ∧
    ∀ (type : SqlType) (before after : List Char) (name : String), type.hasStruct = false →
      (∀ c ∈ before ++ after, isBlank c) → sameName name type.text →
        ofName (String.ofList (before ++ name.toList ++ after)) = type := by
  refine ⟨fun type => ⟨ofName_text type, fun plain => ?_, ?_⟩, fun type before after name plain blank same => ?_⟩
  · rw [ofName_text, bare_eq_self type plain]
  · rw [ofName_text, ofName_text, bare_bare]
  · rw [ofName_around before after type blank same, bare_eq_self type plain]

/-- Field names with brackets, blanks and commas do not reach the reader. -/
theorem array_of_odd_structure_reads_back : sameName "array<Int64>" (array int64).text ∧
    ofName " array<Int64>\t" = array int64 ∧
    ofName (array (struct [("a>, b (", array int64), ("", bool)])).text = array (struct []) :=
  ⟨by decide, reading_forgets_fields_only.2 (array int64) [' '] ['\t'] "array<Int64>" rfl
    (forall_mem_cons.mpr ⟨rfl, forall_mem_singleton.mpr rfl⟩) (by decide), (reading_forgets_fields_only.1 _).1⟩

end SqlType

end SqlLens
