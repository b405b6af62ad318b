import SqlLens.Proofs.Analysis.Renumbering
import SqlLens.Proofs.Type.Supertype

/-!
The types of set operations and arrays.

The columns of a set operation get types that the columns of both sides have in common (`Combines`). Over a tree of set
operations these types come together two at a time, as those of the elements of an array do, so both are covered by what
`SqlType.Merges` has for upper bounds. Swapping the sides changes the numbers of columns, and the types only where they
clash.
-/

namespace SqlLens

open List hiding after span
open Resolved (Column NamedColumn Scan)
open Surface (Node)

/-- The selections that the rows of a scan come from, in order. -/
def Resolved.Scan.selections : Scan → List Scan
  | .setOperation _ _ _ left right _ => left.selections ++ right.selections
  | .orderBy _ input _ _ | .limit _ input _ _ _ | .common _ _ input _ => input.selections
  | scan => [scan]

namespace Analysis

open SqlType (Merges)

/-! ### Both sides -/

/-- What two lists of types have in common, place by place. -/
inductive Combines : List SqlType → List SqlType → List SqlType → Prop where
  | nil : Combines [] [] []
  | cons (first : a.supertype? b = some c) (rest : Combines as bs cs) : Combines (a :: as) (b :: bs) (c :: cs)

theorem setColumns_iff {lefts : List NamedColumn} (same : lefts.length = rights.length) :
    (∃ outputs after, Succeeds tables (each (setColumn op distinct span) ((lefts.zip rights).zipIdx index))
      before outputs after ∧ outputs.map (·.column.type) = types) ↔
    Combines (lefts.map (·.column.type)) (rights.map (·.column.type)) types := by
  induction lefts generalizing rights types index before with
  | nil =>
    cases length_eq_zero_iff.mp same.symm
    simp only [zip_nil_left, zipIdx_nil, succeeds_each_nil]
    constructor
    · rintro ⟨_, _, ⟨rfl, -⟩, rfl⟩
      exact .nil
    · rintro ⟨⟩
      exact ⟨[], before, ⟨rfl, rfl⟩, rfl⟩
  | cons left lefts ih =>
    obtain ⟨right, rights, rfl⟩ := exists_cons_of_length_eq_add_one same.symm
    simp only [zip_cons_cons, zipIdx_cons, succeeds_each_cons, succeeds_setColumn, succeeds_fresh]
    constructor
    · rintro ⟨_, last, ⟨_, _, others, ⟨type, common, _, ⟨rfl, rfl⟩, rfl⟩, ran, rfl⟩, rfl⟩
      exact .cons common ((ih (Nat.succ.inj same)).mp ⟨others, last, ran, rfl⟩)
    · rintro (_ | ⟨common, rest⟩)
      obtain ⟨others, last, ran, rfl⟩ := (ih (Nat.succ.inj same)).mpr rest
      exact ⟨_, last, ⟨_, _, others, ⟨_, common, _, ⟨rfl, rfl⟩, rfl⟩, ran, rfl⟩, rfl⟩

theorem Combines.getElem? (combined : Combines as bs cs) (index : Nat) :
    cs[index]? = as[index]?.bind fun a => bs[index]?.bind fun b => a.supertype? b := by
  induction combined generalizing index with
  | nil => rfl
  | cons first _ ih =>
    cases index with
    | zero => exact first.symm
    | succ => exact ih _

theorem Combines.length_eq (combined : Combines as bs cs) : as.length = bs.length := by
  induction combined with
  | nil => rfl
  | cons _ _ ih => rw [length_cons, length_cons, ih]

theorem body_types (ran : Succeeds tables ((resolvers height).body node) before found after) :
    found.2.1.map (·.column.type) = found.1.types := by
  obtain ⟨_, bodies⟩ := ((resolvers_keep height).body same_tree).2 ran
  have columns : found.2.1.map NamedColumn.column = found.1.columns := bodies.query.columns
  rw [Scan.types, ← columns, map_map]
  rfl

section

variable {left right : Node} {first second : State} {lefts rights : Scan × List NamedColumn × Scope}
  (ranLeft : Succeeds tables ((resolvers height).body left) before lefts first)
  (ranRight : Succeeds tables ((resolvers height).body right) first rights second)

include ranLeft ranRight

theorem combines_of_made {outputs : List NamedColumn} (same : lefts.2.1.length = rights.2.1.length)
    (made : Succeeds tables
      (each (setColumn op distinct span) (lefts.2.1.zip rights.2.1).zipIdx) second outputs after) :
    Combines lefts.1.types rights.1.types ((outputs.map NamedColumn.column).map Column.type) := by
  rw [← body_types ranLeft, ← body_types ranRight, map_map]
  exact (setColumns_iff same).mp ⟨outputs, after, made, rfl⟩

theorem succeeds_setOperation {types : List SqlType} (combined : Combines lefts.1.types rights.1.types types) :
    ∃ columns outputs after, Succeeds tables ((resolvers (height + 1)).body (.mk (.setOperation op distinct) span
      [left, right])) before (.setOperation columns op distinct lefts.1 rights.1 span, outputs, []) after ∧
        columns.map Column.type = types := by
  rw [← body_types ranLeft, ← body_types ranRight] at combined
  have same : lefts.2.1.length = rights.2.1.length := by simpa using combined.length_eq
  obtain ⟨outputs, after, made, rfl⟩ := (setColumns_iff same).mpr combined
  refine ⟨outputs.map NamedColumn.column, outputs, after, ?_, by rw [map_map]; rfl⟩
  change Succeeds tables
    (setOperation (resolvers height) (.mk (.setOperation op distinct) span [left, right]) op distinct) ..
  refine succeeds_child_bind.mpr ⟨left, rfl, succeeds_bind.mpr ⟨_, _, ranLeft, succeeds_child_bind.mpr ⟨right, rfl,
    succeeds_bind.mpr ⟨_, _, ranRight, ?_⟩⟩⟩⟩
  simp only [same, ne_eq, not_true_eq_false, if_false]
  exact succeeds_bind.mpr ⟨_, _, made, succeeds_pure.mpr ⟨rfl, rfl⟩⟩

end

/-! ### All selections -/

def Unions (scan : Scan) : Prop := ∀ (index : Nat) (type), scan.types[index]? = some type →
  ∃ types, scan.selections.map (·.types[index]?) = types.map some ∧ Merges types type

theorem Unions.both (lefts : Unions left) (rights : Unions right)
    (combined : Combines left.types right.types (columns.map Column.type)) :
    Unions (.setOperation columns op distinct left right span) := by
  intro index type here
  obtain ⟨a, onLeft, here⟩ := Option.bind_eq_some_iff.mp ((combined.getElem? index).symm.trans here)
  obtain ⟨b, onRight, common⟩ := Option.bind_eq_some_iff.mp here
  obtain ⟨types, listed, merged⟩ := lefts _ _ onLeft
  obtain ⟨others, listed', merged'⟩ := rights _ _ onRight
  exact ⟨types ++ others, by simp [Scan.selections, listed, listed'], .both merged merged' common⟩

theorem unions_query {scan : Scan}
    (below : ∀ {node before found after}, Succeeds tables (r.body node) before found after → Unions found.1)
    (form : QueryForm r tables node before scan outputs after) : Unions scan := by
  cases form with
  | @mk parts _ unsorted _ _ _ keys rows _ _ _ _ entries _ _ _ ranBody _ _ limited =>
    have ordered : Unions (orderedRows node.span unsorted parts.order keys) := by
      unfold orderedRows
      split
      · exact below ranBody
      · exact below ranBody
    have bounded : Unions rows := by
      cases limited with
      | all => exact ordered
      | bounded => exact ordered
    split
    · exact bounded
    · exact bounded

theorem unions_body (ran : Succeeds tables ((resolvers height).body node) before found after) : Unions found.1 := by
  induction height generalizing node before found after with
  | zero => exact (succeeds_malformed.mp ran).elim
  | succ height ih =>
    have form := succeeds_body ran
    generalize found.1 = scan, found.2.1 = outputs, found.2.2 = seen at form ⊢
    cases form with
    | select kind form =>
      cases form
      exact fun _ type here => ⟨[type], by simp [Scan.selections, here], .one⟩
    | setOperation kind foundLeft foundRight ranLeft ranRight sameLength made =>
      exact (ih ranLeft).both (ih ranRight) (combines_of_made ranLeft ranRight sameLength made)
    | query kind form => exact unions_query ih form

theorem merges_elementType (merged : Merges earlier type)
    (ran : Succeeds tables (elementType span type types) before result after) : Merges (earlier ++ types) result := by
  induction types generalizing type earlier with
  | nil =>
    obtain ⟨rfl, -⟩ := succeeds_pure.mp ran
    rwa [append_nil]
  | cons next rest ih =>
    unfold elementType at ran
    split at ran
    · rename_i common
      simpa using ih (merged.both .one common) ran
    · cases ran

/-- The elements of an array, and the selections of a set operation at each place, come to a type that all of their
types coerce to, but for those that a hollow type comes after which is not the last. -/
theorem combined_type_bounds_types (tables : Lookup) (before after : State) :
    (∀ span types result, Succeeds tables (elementType span .unknown types) before result after →
      SqlType.Bounds types result) ∧
    ∀ height node scan outputs seen, Succeeds tables ((resolvers height).body node) before (scan, outputs, seen) after →
      ∀ (index : Nat) output, outputs[index]? = some output →
        ∃ types, scan.selections.map (·.types[index]?) = types.map some ∧ SqlType.Bounds types output.column.type := by
  constructor
  · intro span types result ran
    exact (merges_elementType .one ran).bounds.tail
  · intro height node scan outputs seen ran index output here
    have placed : scan.types[index]? = some output.column.type := by
      rw [← body_types ran, List.getElem?_map, here, Option.map_some]
    obtain ⟨types, listed, merged⟩ := unions_body ran index _ placed
    exact ⟨types, listed, merged.bounds⟩

private def literalSelection (literal : Surface.Constant) : Node :=
  .mk (.select false) none [.mk .selectList none [.mk .selectColumn none [.leaf (.literal literal) none]]]

private def literalUnion (first second : Surface.Constant) : Node :=
  .mk (.setOperation .union false) none [literalSelection first, literalSelection second]

theorem numbers_bounded :
    (∃ result after, Succeeds (fun _ => none) (elementType none .unknown [.int64, .float64]) .initial
    result after ∧ SqlType.Bounds [.int64, .float64] result) ∧
    ∃ scan outputs seen after,
      Succeeds (fun _ => none) ((resolvers 5).body (literalUnion (.int "1") (.float "1.5"))) .initial
      (scan, outputs, seen) after ∧ ∀ (index : Nat) output, outputs[index]? = some output →
        ∃ types, scan.selections.map (·.types[index]?) = types.map some ∧ SqlType.Bounds types output.column.type := by
  obtain ⟨⟨scan, outputs, seen⟩, after, ran⟩ := succeeds_of_toBool (show (((resolvers 5).body (literalUnion (.int "1")
    (.float "1.5"))).outcome (fun _ => none) .initial).1.toBool = true by decide +kernel)
  have typed : Succeeds (fun _ => none) (elementType none .unknown [.int64, .float64]) .initial .float64 .initial := rfl
  exact ⟨⟨_, _, typed, (combined_type_bounds_types _ _ _).1 none _ _ typed⟩, scan, outputs, seen, after, ran,
    (combined_type_bounds_types _ _ _).2 5 _ _ _ _ ran⟩

/-- `[[1], [NULL], ['a']]` -/
theorem hollow_element_hides_clash : ∃ result after, Succeeds (fun _ => none)
    (elementType none .unknown [.array .int64, .array .unknown, .array .string]) .initial result after ∧
      SqlType.coercesTo (.array .int64) result = false := ⟨_, _, rfl, rfl⟩

/-! ### Swapping -/

theorem Combines.swap (combined : Combines as bs cs) : ∃ cs', Combines bs as cs' := by
  induction combined with
  | nil => exact ⟨[], .nil⟩
  | cons first _ ih =>
    obtain ⟨cs', rest⟩ := ih
    obtain ⟨c', swapped⟩ := Option.isSome_iff_exists.mp
      ((SqlType.supertype_isSome_comm _ _).symm.trans (Option.isSome_of_eq_some first))
    exact ⟨c' :: cs', .cons swapped rest⟩

/-- Where the inputs of a set operation add no calls over windows to those around them, they can be swapped. -/
theorem setOperation_swap
    (quiet : before.analytic = none ∨ (Place.mk .body left).calls = [] ∧ (Place.mk .body right).calls = [])
    (ran : Succeeds tables
      ((resolvers (height + 1)).body (.mk (.setOperation op distinct) span [left, right])) before found
      after) : ∃ columns l r found' after', found.1 = .setOperation columns op distinct l r span ∧
      Succeeds tables ((resolvers (height + 1)).body (.mk (.setOperation op distinct) span [right, left])) before found'
        after' ∧ Combines l.types r.types found.1.types ∧ Combines r.types l.types found'.1.types := by
  have form : BodyForm (resolvers height) tables (.mk (.setOperation op distinct) span [left, right]) before found.1
    found.2.1 found.2.2 after := succeeds_body ran
  generalize found.1 = scan, found.2.1 = outputs, found.2.2 = seen at form ⊢
  cases form with
  | select kind => cases kind
  | query kind => cases kind
  | @setOperation _ _ _ _ l lefts _ r rights _ _ first second _ kind foundLeft foundRight ranLeft ranRight same made =>
    cases kind
    cases foundLeft
    cases foundRight
    have states : renumbering.States first before := by
      rw [← renumbering.after_body (quiet.imp_right And.left) ranLeft]
      exact renumbering.states_refl before _ before.nextId
    obtain ⟨rights', first', ranRight', sameRight⟩ := renumbering.body_again ranRight states
    have states' : renumbering.States before first' := by
      rw [← renumbering.after_body (quiet.imp_right And.right) ranRight']
      exact renumbering.states_refl before before.nextId _
    obtain ⟨lefts', second', ranLeft', sameLeft⟩ := renumbering.body_again ranLeft states'
    have combined := combines_of_made ranLeft ranRight same made
    obtain ⟨types, swapped⟩ := combined.swap
    obtain ⟨columns, outputs', after', done, rfl⟩ := succeeds_setOperation ranRight' ranLeft'
      (by rw [sameLeft, sameRight]; exact swapped)
    exact ⟨_, l, r, _, after', rfl, done, combined, swapped⟩

theorem Combines.swapped_iff (combined : Combines as bs cs) (swapped : Combines bs as cs') (index : Nat) :
    cs'[index]? = cs[index]? ↔ ¬∃ a b, as[index]? = some a ∧ bs[index]? = some b ∧ a.Clashes b := by
  rw [combined.getElem?, swapped.getElem?]
  cases as[index]? with
  | none => cases bs[index]? <;> simp
  | some a =>
    cases bs[index]? with
    | none => simp
    | some b => simpa using eq_comm.trans (SqlType.supertype_comm_iff a b)

/-- Whether two types have something in common does not depend on their order, and what it is depends on it only if they
clash. So set operations are accepted with their inputs in either order, and only columns of clashing types get another
type when the inputs are swapped. -/
theorem swapping_changes_clashing_types_only (tables : Lookup) (height : Nat) (op : SetOp) (distinct : Bool)
    (span : Option Span) (left right : Node) (before : State) :
    (∀ a b : SqlType, (a.supertype? b).isSome = (b.supertype? a).isSome ∧
      (a.supertype? b = b.supertype? a ↔ ¬a.Clashes b)) ∧
    (before.analytic = none ∨ (Place.mk .body left).calls = [] ∧ (Place.mk .body right).calls = [] →
      let resolve (first second : Node) :=
        (resolvers (height + 1)).body (.mk (.setOperation op distinct) span [first, second])
      ((∃ found after, Succeeds tables (resolve left right) before found after) ↔
        ∃ found after, Succeeds tables (resolve right left) before found after) ∧
      ∀ found after found' after', Succeeds tables (resolve left right) before found after →
        Succeeds tables (resolve right left) before found' after' →
        ∃ columns l r, found.1 = .setOperation columns op distinct l r span ∧
          ∀ index : Nat, found'.1.types[index]? = found.1.types[index]? ↔
            ¬∃ a b, l.types[index]? = some a ∧ r.types[index]? = some b ∧ a.Clashes b) := by
  refine ⟨fun a b => ⟨SqlType.supertype_isSome_comm a b, SqlType.supertype_comm_iff a b⟩, fun quiet => ?_⟩
  intro resolve
  refine ⟨⟨?_, ?_⟩, ?_⟩
  · rintro ⟨found, after, ran⟩
    obtain ⟨_, _, _, found', after', _, done, -⟩ := setOperation_swap quiet ran
    exact ⟨found', after', done⟩
  · rintro ⟨found, after, ran⟩
    obtain ⟨_, _, _, found', after', _, done, -⟩ := setOperation_swap (quiet.imp_right And.symm) ran
    exact ⟨found', after', done⟩
  · intro found after found' after' ran ran'
    obtain ⟨columns, l, r, found', after', shape, done, combined, swapped⟩ := setOperation_swap quiet ran
    cases done.symm.trans ran'
    exact ⟨columns, l, r, shape, combined.swapped_iff swapped⟩

theorem numbers_swapped : ∃ found after found' after',
    Succeeds (fun _ => none) ((resolvers 5).body (literalUnion (.int "1") (.float "1.5"))) .initial found after ∧
    Succeeds (fun _ => none) ((resolvers 5).body (literalUnion (.float "1.5") (.int "1"))) .initial found' after' ∧
    ∃ columns l r, found.1 = .setOperation columns .union false l r none ∧
      ∀ index : Nat, found'.1.types[index]? = found.1.types[index]? ↔
        ¬∃ a b, l.types[index]? = some a ∧ r.types[index]? = some b ∧ a.Clashes b := by
  obtain ⟨found, after, ran⟩ := succeeds_of_toBool (show (((resolvers 5).body (literalUnion (.int "1")
    (.float "1.5"))).outcome (fun _ => none) .initial).1.toBool = true by decide +kernel)
  obtain ⟨accepted, types⟩ := (swapping_changes_clashing_types_only (fun _ => none) 4 .union false none
    (literalSelection (.int "1")) (literalSelection (.float "1.5")) .initial).2 (.inl rfl)
  obtain ⟨found', after', ran'⟩ := accepted.mp ⟨found, after, ran⟩
  exact ⟨found, after, found', after', ran, ran', types found after found' after' ran ran'⟩

/-- `[1]` and `[NULL]` -/
theorem hollow_array_takes_over : SqlType.supertype? (.array .int64) (.array .unknown) = some (.array .unknown) ∧
    SqlType.supertype? (.array .unknown) (.array .int64) = some (.array .int64) := by decide

end Analysis
end SqlLens
