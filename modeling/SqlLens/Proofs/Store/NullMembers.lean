import SqlLens.Store.Answer

/-!
Null members in the answers of a service.

Leaving out members that are null, wherever they stand, is a relation between values (`Json.Thins`), and the nulls of an
answer are left out before anything is read from it. So an answer with fewer of them says the same, whichever reader
they would have reached.
-/

namespace SqlLens

namespace Json

mutual
/-- The second value is the first without some null members of objects, at any depth. -/
inductive Thins : Json → Json → Prop where
  | same (value : Json) : Thins value value
  | array (each : ThinsItems values values') : Thins (.array values) (.array values')
  | object (each : ThinsMembers members members') : Thins (.object members) (.object members')

inductive ThinsItems : List Json → List Json → Prop where
  | nil : ThinsItems [] []
  | cons (first : Thins value value') (rest : ThinsItems values values') : ThinsItems (value :: values)
      (value' :: values')

inductive ThinsMembers : List (String × Json) → List (String × Json) → Prop where
  | nil : ThinsMembers [] []
  | keep (first : Thins value value') (rest : ThinsMembers members members') :
      ThinsMembers ((name, value) :: members) ((name, value') :: members')
  | drop (rest : ThinsMembers members members') : ThinsMembers ((name, .null) :: members) members'
end

theorem withoutNulls_eq_null_iff {value : Json} : value.withoutNulls = .null ↔ value = .null := by
  cases value <;> simp [withoutNulls]

theorem membersWithoutNulls_cons (told : value ≠ .null) : membersWithoutNulls ((name, value) :: members) =
    (name, value.withoutNulls) :: membersWithoutNulls members :=
  membersWithoutNulls.eq_3 name value members told

theorem membersWithoutNulls_congr (first : value'.withoutNulls = value.withoutNulls)
    (rest : membersWithoutNulls members' = membersWithoutNulls members) :
    membersWithoutNulls ((name, value') :: members') = membersWithoutNulls ((name, value) :: members) := by
  by_cases null : value = .null
  · subst null
    rw [withoutNulls_eq_null_iff.mp first]
    exact rest
  · have told : value' ≠ .null := mt withoutNulls_eq_null_iff.mpr (first ▸ mt withoutNulls_eq_null_iff.mp null)
    rw [membersWithoutNulls_cons null, membersWithoutNulls_cons told, first, rest]

mutual
theorem Thins.withoutNulls_eq : Thins value value' → value'.withoutNulls = value.withoutNulls
  | .same _ => rfl
  | .array each => congrArg Json.array each.withoutNulls_eq
  | .object each => congrArg Json.object each.withoutNulls_eq

theorem ThinsItems.withoutNulls_eq : ThinsItems values values' → itemsWithoutNulls values' = itemsWithoutNulls values
  | .nil => rfl
  | .cons first rest => by rw [itemsWithoutNulls, itemsWithoutNulls, first.withoutNulls_eq, rest.withoutNulls_eq]

theorem ThinsMembers.withoutNulls_eq :
    ThinsMembers members members' → membersWithoutNulls members' = membersWithoutNulls members
  | .nil => rfl
  | .keep first rest => membersWithoutNulls_congr first.withoutNulls_eq rest.withoutNulls_eq
  | .drop rest => rest.withoutNulls_eq
end

mutual
theorem thins_withoutNulls : (value : Json) → value.Thins value.withoutNulls
  | .object members => .object (thins_membersWithoutNulls members)
  | .array items => .array (thins_itemsWithoutNulls items)
  | .null | .bool _ | .integer _ | .decimal _ | .string _ => .same _

theorem thins_itemsWithoutNulls : (values : List Json) → ThinsItems values (itemsWithoutNulls values)
  | [] => .nil
  | item :: rest => .cons (thins_withoutNulls item) (thins_itemsWithoutNulls rest)

theorem thins_membersWithoutNulls :
    (members : List (String × Json)) → ThinsMembers members (membersWithoutNulls members)
  | [] => .nil
  | (name, value) :: rest => by
    by_cases null : value = .null
    · subst null
      exact .drop (thins_membersWithoutNulls rest)
    · rw [membersWithoutNulls_cons null]
      exact .keep (thins_withoutNulls value) (thins_membersWithoutNulls rest)
end

end Json

/-- An answer without some of its null members, at any depth, says the same of a table. Leaving out all of them leaves
out nothing else, and nothing more the second time. -/
theorem null_members_count_as_missing :
    (∀ (path : TablePath) (answer thinner : Json), answer.Thins thinner →
      Table.ofAnswer path thinner = Table.ofAnswer path answer) ∧
    ∀ value : Json, value.withoutNulls.withoutNulls = value.withoutNulls ∧ value.Thins value.withoutNulls := by
  refine ⟨fun path answer thinner thins => ?_, fun value => ?_⟩
  · rw [Table.ofAnswer, thins.withoutNulls_eq, Table.ofAnswer]
  · have thins := value.thins_withoutNulls
    exact ⟨thins.withoutNulls_eq, thins⟩

/-- A null mode, which a field may have, and a null description, which it may not, are both left out. -/
theorem null_description_says_nothing : Table.ofAnswer ⟨"p", "d", "t"⟩ (.object [("schema", .object [("fields",
      .array [.object [("name", .string "id"), ("type", .string "INTEGER")]])])]) =
    Table.ofAnswer ⟨"p", "d", "t"⟩ (.object [("id", .null), ("schema", .object [("fields", .array [.object
      [("name", .string "id"), ("type", .string "INTEGER"), ("mode", .null), ("description", .null)]])])]) :=
  null_members_count_as_missing.1 _ _ _ (.object (.drop (.keep (.object (.keep (.array (.cons (.object
    (.keep (.same _) (.keep (.same _) (.drop (.drop .nil))))) .nil)) .nil)) .nil)))

end SqlLens
