import SqlLens.Hover.Basic
import SqlLens.Proofs.Analysis.Inversion
import SqlLens.Proofs.Text.Case

/-!
What is shown for a selected column, and what it was resolved to.

Where a selected column is pointed at, it is looked up by name once more: the path loses its qualifier, and the first
column of that name in the narrowest scan is shown. The analysis went by the tables that are visible. Both come to the
same column exactly if it is still called what is written and none before it is (`FirstNamed`); a column renamed by a
subquery is not, nor is the second of two columns of one name.
-/

namespace SqlLens

open List hiding after
open Analysis (Lookup Scope Selected SelectParts State Succeeds each selectItem succeeds_of_toOption)
open Resolved (Column NamedColumn Scan Statement)
open Surface (Node)

namespace Text

theorem toLower_eq_dot : c.toLower = '.' ↔ c = '.' := toLower_eq_iff (by decide)

theorem dot_mem_iff_of_sameName (same : sameName a b) : '.' ∈ a.toList ↔ '.' ∈ b.toList := by
  have mapped (s : String) : '.' ∈ s.toList ↔ '.' ∈ s.toList.map Char.toLower := by simp [toLower_eq_dot]
  rw [mapped a, mapped b, eq_of_beq same]

theorem append_of_splitAtByte (cut : splitAtByte text n = some (before, after)) : before ++ after = text := by
  fun_induction splitAtByte text n generalizing before with
  | case1 => cases cut; rfl
  | case2 => cases cut
  | case3 c rest n fits ih =>
    obtain ⟨⟨front, back⟩, inner, same⟩ := Option.map_eq_some_iff.mp cut
    cases same
    rw [cons_append, ih inner]
  | case4 => cases cut

theorem eq_of_dotless {front : List Char} (same : front ++ rest = front' ++ rest')
    (ends : ∀ c ∈ front.getLast?, c = '.')
    (ends' : ∀ c ∈ front'.getLast?, c = '.') (plain : '.' ∉ rest) (plain' : '.' ∉ rest') : rest = rest' := by
  have nothing {front more rest} (ends : ∀ c ∈ (front ++ more).getLast?, c = '.')
      (plain : '.' ∉ more ++ rest) : more = [] := by
    cases last : more.getLast? with
    | none => exact getLast?_eq_none_iff.mp last
    | some c =>
      have dot := ends c (by simp [getLast?_append, last])
      exact absurd (mem_append_left rest (dot ▸ mem_of_getLast? last)) plain
  rcases append_eq_append_iff.mp same with ⟨more, rfl, rfl⟩ | ⟨more, rfl, rfl⟩
  · rw [nothing ends' plain, nil_append]
  · rw [nothing ends plain', nil_append]

end Text

theorem Surface.Node.dotted_ends {path : Node} (last : path.names.getLast? = some written) :
    ∃ front, path.dotted.toList = front ++ written.toList ∧ ∀ c ∈ front.getLast?, c = '.' := by
  obtain ⟨others, listed⟩ := getLast?_eq_some_iff.mp last
  simp only [Node.dotted, Text.join, String.toList_intercalate, listed]
  clear last listed
  induction others with
  | nil => exact ⟨[], by simp, by simp⟩
  | cons other others ih =>
    obtain ⟨front, same, ends⟩ := ih
    refine ⟨other.toList ++ '.' :: front, ?_, ?_⟩
    · obtain ⟨next, rest, more⟩ : ∃ next rest, (others ++ [written]).map String.toList = next :: rest := by
        cases others <;> exact ⟨_, _, rfl⟩
      rw [cons_append, map_cons, more, intercalate_cons_cons, ← more, same]
      simp
    · intro c given
      cases front with
      | nil => simpa [eq_comm] using given
      | cons => exact ends c (by simpa [getLast?_append, getLast?_cons_cons] using given)

namespace Hover

def FirstNamed (name : String) (columns : List Column) (column : Column) : Prop :=
  ∃ front back, columns = front ++ column :: back ∧ Text.sameName column.name name = true ∧
    ∀ other ∈ front, Text.sameName other.name name = false

theorem find?_eq_some_iff :
    columns.find? (fun column => Text.sameName column.name name) = some column ↔ FirstNamed name columns column := by
  simp only [find?_eq_some_iff_append, FirstNamed, Bool.not_eq_true']
  exact ⟨fun ⟨same, front, back, split, others⟩ => ⟨front, back, split, same, others⟩,
    fun ⟨front, back, split, same, others⟩ => ⟨same, front, back, split, others⟩⟩

theorem firstNamed_append :
    FirstNamed name (earlier ++ column :: later) column ↔ FirstNamed name (earlier ++ [column]) column := by
  simp only [← find?_eq_some_iff, find?_append]
  cases found : earlier.find? fun column => Text.sameName column.name name with
  | some first => simp
  | none =>
    cases same : Text.sameName column.name name with
    | true => simp [same]
    | false =>
      refine iff_of_false (fun shown => ?_) (by simp [same])
      have named := find?_some shown
      simp [same] at named

theorem unqualified?_eq_some (found : unqualified? qualifier name = some own) :
    ∃ front, name.toList = front ++ own.toList ∧ front.getLast? = some '.' := by
  simp only [unqualified?] at found
  split at found
  · rename_i start rest cut
    split at found
    · rename_i same
      cases found
      refine ⟨start, by simp [Text.append_of_splitAtByte cut], ?_⟩
      have last := congrArg getLast? (eq_of_beq same)
      simp only [String.toList_ofList, getLast?_map, getLast?_append] at last
      obtain ⟨c, ends, lower⟩ := Option.map_eq_some_iff.mp last
      rw [ends, Text.toLower_eq_dot.mp lower]
    · cases found
  · cases found

theorem columnOf?_first {scan : Scan} {path : Node} (last : path.names.getLast? = some written)
    (plain : '.' ∉ written.toList) (found : columnOf? scan path.dotted = some shown)
    (dotless : '.' ∉ shown.name.toList) :
    FirstNamed written scan.columns shown := by
  have named := find?_some found
  obtain ⟨front, split, ends⟩ : ∃ front, path.dotted.toList =
      front ++ (((rangeNames scan).findSome? (unqualified? · path.dotted)).getD path.dotted).toList ∧
        ∀ c ∈ front.getLast?, c = '.' := by
    cases stripped : (rangeNames scan).findSome? (unqualified? · path.dotted) with
    | none => exact ⟨[], rfl, by simp⟩
    | some own =>
      obtain ⟨qualifier, -, cut⟩ := exists_of_findSome?_eq_some stripped
      obtain ⟨front, split, ends⟩ := unqualified?_eq_some cut
      exact ⟨front, split, by simp [ends]⟩
  obtain ⟨qualifier, split', ends'⟩ := Surface.Node.dotted_ends last
  have own := Text.eq_of_dotless (split.symm.trans split') ends ends'
    (fun dot => dotless ((Text.dot_mem_iff_of_sameName named).mpr dot)) plain
  rw [columnOf?, String.toList_inj.mp own] at found
  exact find?_eq_some_iff.mp found

theorem columnOf?_bare {scan : Scan} {path : Node} (alone : path.names = [written]) (plain : '.' ∉ written.toList)
    (shown : Column) : columnOf? scan path.dotted = some shown ↔ FirstNamed written scan.columns shown := by
  have whole : path.dotted = written := by simp [Node.dotted, alone, Text.join]
  have kept : (rangeNames scan).findSome? (unqualified? · written) = none := by
    refine findSome?_eq_none_iff.mpr fun qualifier _ => Option.eq_none_iff_forall_ne_some.mpr fun own cut => ?_
    obtain ⟨front, split, ends⟩ := unqualified?_eq_some cut
    exact plain (split ▸ mem_append_left _ (mem_of_getLast? ends))
  rw [whole, columnOf?, kept]
  exact find?_eq_some_iff

theorem selected?_eq (bare : item.alias? = none)
    (found : narrowest? ((output.covering offset Resolved.Node.scan?).map Prod.fst) = some narrow) :
    selected? output offset item path = columnOf? narrow path.dotted := by
  simp [selected?, found, bare]

end Hover

theorem Analysis.selectItem_path {item path : Node} (found : item.children[0]? = some path) (kind : path.kind = .path)
    (ran : Succeeds tables (selectItem r scope (item, index)) before selected after) :
    ∃ name column computed aggregate, selected = ⟨[⟨name, column⟩], computed, aggregate⟩ := by
  cases Analysis.succeeds_selectItem ran with
  | star found' kind' | dotStar found' kind' => cases found.symm.trans found'; cases kind.symm.trans kind'
  | column | computed => exact ⟨_, _, _, _, rfl⟩

/-- A selected path is shown as the column it was resolved to exactly if that column is the first of the narrowest scan
that is called by the last name of the path. If the narrowest scan is that of the selection itself, and a name stands
alone, then the column is shown exactly if it is called so and none selected before it is. -/
theorem hover_shows_first_of_name {tables : Lookup} {height : Nat} {node : Node} {before after : State} {scan : Scan}
    {outputs : List NamedColumn} {seen : Scope}
    (ran : Succeeds tables (Analysis.select (Analysis.resolvers height) node) before (scan, outputs, seen) after) :
    ∃ parts list, SelectParts.of? node.children = some parts ∧ parts.list = some list ∧
      ∀ front item back path written, list.children = front ++ item :: back → item.alias? = none →
        item.children[0]? = some path → path.kind = .path → path.names.getLast? = some written →
        '.' ∉ written.toList → ∃ start earlier first name column computed aggregate last,
          Succeeds tables (each (selectItem (Analysis.resolvers height) seen) front.zipIdx) start earlier first ∧
          Succeeds tables (selectItem (Analysis.resolvers height) seen (item, front.length)) first
            ⟨[⟨name, column⟩], computed, aggregate⟩ last ∧
          (∃ later, outputs = earlier.flatMap Selected.outputs ++ ⟨name, column⟩ :: later) ∧
          ∀ output offset narrow,
            Hover.narrowest? ((output.covering offset Resolved.Node.scan?).map Prod.fst) = some narrow →
              (∀ shown, Hover.selected? output offset item path = some shown → '.' ∉ shown.name.toList →
                (shown = column ↔ Hover.FirstNamed written narrow.columns column)) ∧
              (path.names = [written] → narrow.columns = scan.columns →
                (Hover.selected? output offset item path = some column ↔ Hover.FirstNamed written
                  ((earlier.flatMap Selected.outputs).map NamedColumn.column ++ [column]) column)) := by
  cases Analysis.succeeds_select ran with
  | mk split _ _ _ listed ranItems =>
    refine ⟨_, _, split, listed, fun front item back path written among bare found kind last plain => ?_⟩
    rw [among, List.zipIdx_append, List.zipIdx_cons] at ranItems
    obtain ⟨earlier, first, _, ranFront, ranRest, rfl⟩ := Analysis.succeeds_each_append.mp ranItems
    obtain ⟨selected, after, later, ranItem, -, rfl⟩ := Analysis.succeeds_each_cons.mp ranRest
    obtain ⟨name, column, computed, aggregate, rfl⟩ := Analysis.selectItem_path found kind ranItem
    have lists : (Selected.join (earlier ++ ⟨[⟨name, column⟩], computed, aggregate⟩ :: later)).outputs =
        earlier.flatMap Selected.outputs ++ ⟨name, column⟩ :: later.flatMap Selected.outputs := by simp [Selected.join]
    refine ⟨_, earlier, first, name, column, computed, aggregate, after, ranFront, by simpa using ranItem,
      ⟨_, lists⟩, fun output offset narrow narrowest => ?_⟩
    rw [Hover.selected?_eq bare narrowest]
    constructor
    · intro shown found dotless
      have isFirst := Hover.columnOf?_first last plain found dotless
      refine ⟨fun same => same ▸ isFirst, fun isFirst' => ?_⟩
      exact Option.some.inj ((Hover.find?_eq_some_iff.mpr isFirst).symm.trans (Hover.find?_eq_some_iff.mpr isFirst'))
    · intro alone own
      rw [Hover.columnOf?_bare alone plain, own, Scan.columns, lists, List.map_append]
      exact Hover.firstNamed_append

private def namedUsers : Lookup := fun path =>
  if path = "proj.ds.users" then
    some (.of "proj:ds.users" .epoch [.mk "id" "INTEGER" none "" [], .mk "name" "STRING" none "" []])
  else none

private def pathOf (names : List String) : Node :=
  .mk .path none (names.map fun name => .leaf (.identifier name) none)

private def nameSelection : Node :=
  .mk (.select false) (some ⟨0, 34, by decide⟩) [
    .mk .selectList none [.mk .selectColumn none [pathOf ["name"]], .mk .selectColumn none [pathOf ["id"]]],
    .mk .fromClause none [.mk .tablePath none [pathOf ["proj", "ds", "users"]]]]

/-- The name is shown as the column it was resolved to. -/
theorem nameSelection_shows_name :
    ∃ scan outputs seen after, Succeeds namedUsers (Analysis.select (Analysis.resolvers 5) nameSelection) .initial
      (scan, outputs, seen) after ∧ ∃ column later, outputs = ⟨"name", column⟩ :: later ∧
        Hover.selected? ⟨outputs, scan, some ⟨0, 34, by decide⟩⟩ 8 (.mk .selectColumn none [pathOf ["name"]])
          (pathOf ["name"]) = some column := by
  have run :
      ((Analysis.select (Analysis.resolvers 5) nameSelection).outcome namedUsers .initial).1.toOption.any (fun found =>
      (found.2.1.head?.any fun output => output.name == "name" && output.column.name == "name") &&
      (Hover.narrowest? (((⟨found.2.1, found.1, some ⟨0, 34, by decide⟩⟩ : Statement).covering 8
        Resolved.Node.scan?).map Prod.fst)).any fun narrow => narrow.columns == found.1.columns) =
          true := by decide +kernel
  obtain ⟨⟨scan, outputs, seen⟩, given, holds⟩ := (Option.any_eq_true _ _).mp run
  have ran := succeeds_of_toOption given
  simp only [Bool.and_eq_true, Option.any_eq_true, beq_iff_eq] at holds
  obtain ⟨⟨⟨_, _⟩, head, rfl, named⟩, narrow, narrowest, own⟩ := holds
  obtain ⟨parts, list, split, listed, agrees⟩ := hover_shows_first_of_name ran
  cases split
  cases listed
  obtain ⟨_, _, _, name, column, _, _, _, ranFront, -, ⟨later, rfl⟩, shown⟩ :=
    agrees [] _ _ _ "name" rfl rfl rfl rfl rfl (by decide)
  obtain ⟨rfl, -⟩ := Analysis.succeeds_each_nil.mp ranFront
  cases head
  exact ⟨scan, _, seen, _, ran, _, later, rfl,
    ((shown _ 8 narrow narrowest).2 rfl own).mpr ⟨[], [], rfl, by rw [named]; rfl, by simp⟩⟩

private def exchanged : String := "SELECT id, foo FROM (SELECT name AS id, id AS foo FROM proj.ds.users)"

/-- The first column of it is resolved to the name, but where it is pointed at the number is shown. -/
theorem renamed_column_shown_as_other :
    ∃ statement ∈ (Script.read exchanged).tree.children, ∃ output after,
      Succeeds namedUsers (Analysis.statement statement) .initial output after ∧
      ∃ place ∈ (Script.read exchanged).tree.places, place.covers 8 = true ∧ ∃ item bound shown,
        place.ancestor? Surface.Kind.isSelectColumn = some item ∧ item.alias? = none ∧
        output.outputs.head? = some bound ∧ bound.column.name = "name" ∧
        Hover.selected? output 8 item place.node = some shown ∧ shown.name = "id" := by
  have found : ((Script.read exchanged).tree.children.any fun statement =>
      ((Analysis.statement statement).outcome namedUsers .initial).1.toOption.any fun output =>
        (output.outputs.head?.any (·.column.name == "name")) &&
        (Script.read exchanged).tree.places.any fun place => place.covers 8 &&
          (place.ancestor? Surface.Kind.isSelectColumn).any fun item => item.alias? == none &&
            (Hover.selected? output 8 item place.node).any (·.name == "id")) = true := by decide +kernel
  obtain ⟨statement, listed, holds⟩ := List.any_eq_true.mp found
  obtain ⟨output, given, holds⟩ := (Option.any_eq_true _ _).mp holds
  simp only [List.any_eq_true, Bool.and_eq_true, Option.any_eq_true, beq_iff_eq] at holds
  obtain ⟨⟨bound, first, named⟩, place, among, covers, item, above, bare, shown, pointed, called⟩ := holds
  exact ⟨statement, listed, output, _, succeeds_of_toOption given, place, among, covers, item, bound,
    shown, above, bare,
    first, named, pointed, called⟩

end SqlLens
