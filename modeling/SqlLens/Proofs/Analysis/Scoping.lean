import SqlLens.Proofs.Analysis.Frame
import SqlLens.Proofs.Analysis.Inversion
import SqlLens.Proofs.Resolved.WellScoped

/-!
Resolved statements are well scoped.

What an expression reads comes from its own scope, from the scopes around it, or from a call over a window that its
selection has collected (`State.visible`). Collected calls become columns of the selection's rows, so they count as
visible once they are added. Sources keep the columns of their scope and of their scan in step, so a name found in a
scope is a column of the scan below.
-/

namespace SqlLens.Analysis

open List
open SqlLens.Resolved
  (Column NamedColumn Scan TypedExpr Computed Entry SortKey computedWellScoped computedWellScoped_iff
  allWellScoped_iff perhapsWellScoped perhapsWellScoped_iff perhapsWellScoped_mono entriesWellScoped_iff
  inputWellScoped_iff)
open SqlLens.Surface (Node)

variable {r : Resolvers} {tables : Lookup} {before after : State} {scope seen : Scope} {node : Node}
  {span : Option Span}
  {value : TypedExpr} {scan rows : Scan} {outputs : List NamedColumn} {selected : Selected}

def Scope.shown (scope : Scope) : List Column := scope.flatMap fun relation => relation.columns.map NamedColumn.column

def Scope.ids (scope : Scope) : List Nat := scope.shown.map Column.id

theorem Scope.shown_append (first second : Scope) : Scope.shown (first ++ second) = first.shown ++ second.shown :=
  flatMap_append

theorem Scope.Shows.mem_ids (shows : scope.Shows column) : column.column.id ∈ scope.ids := by
  obtain ⟨relation, known, listed⟩ := shows
  exact mem_map_of_mem (mem_flatMap.mpr ⟨relation, known, mem_map_of_mem listed⟩)

def State.around (state : State) : List Nat := state.outer.flatMap Scope.ids

/-- The numbers of the columns of the calls over windows collected so far. -/
def State.pending (state : State) : List Nat := (state.analytic.getD []).map (·.column.id)

/-- What may be read at any place of the current selection, whatever the scope there. -/
def State.visible (state : State) : List Nat := state.around ++ state.pending

theorem visible_subset (outer : after.outer = before.outer)
    (calls : ∃ added, after.analytic = before.analytic.map (· ++ added)) : before.visible ⊆ after.visible := by
  obtain ⟨added, calls⟩ := calls
  intro id member
  unfold State.visible State.around State.pending at member ⊢
  rw [outer, calls]
  cases analytic : before.analytic with
  | none => simpa [analytic] using member
  | some pending =>
    simp only [analytic, Option.getD_some, mem_append, Option.map_some, map_append] at member ⊢
    exact member.imp_right .inl

theorem Kept.visible (kept : Kept before after) : before.visible ⊆ after.visible :=
  visible_subset kept.outer kept.calls

theorem Kept.around (kept : Kept before after) : after.around = before.around :=
  congrArg (flatMap Scope.ids) kept.outer

theorem Kept.visible_eq_around (kept : Kept before after) (disallowed : before.analytic = none) :
    after.visible = before.around := by
  obtain ⟨added, calls⟩ := kept.calls
  rw [disallowed] at calls
  rw [State.visible, State.pending, calls, kept.around]
  simp

/-- The expression reads only what its scope and its place in the selection make visible. -/
def ScopedIn (scope : Scope) (value : TypedExpr) (state : State) : Prop :=
  value.WellScoped (state.visible ++ scope.ids)

theorem ScopedIn.more (holds : ScopedIn scope value before)
    (visible : before.visible ⊆ after.visible) : ScopedIn scope value after :=
  TypedExpr.WellScoped.mono value (append_subset.mpr ⟨subset_append_of_subset_left _ visible,
    subset_append_right _ _⟩) holds

structure Resolvers.Scoped (r : Resolvers) : Prop where
  expr : ∀ {tables scope node before value after}, Succeeds tables (r.expr scope node) before value after →
    ScopedIn scope value after
  query : ∀ {tables node before scan outputs after}, Succeeds tables (r.query node) before (scan, outputs) after →
    scan.WellScoped after.visible [] ∧ outputs.map NamedColumn.column = scan.columns
  body : ∀ {tables node before scan outputs seen after},
    Succeeds tables (r.body node) before (scan, outputs, seen) after →
      scan.WellScoped after.visible [] ∧ outputs.map NamedColumn.column = scan.columns
  source : ∀ {tables node before scan seen after}, Succeeds tables (r.source node) before (scan, seen) after →
    scan.WellScoped after.visible [] ∧ seen.shown = scan.columns

/-! ### Expressions -/

theorem Negated.wellScoped (negation : Negated value result) (holds : value.WellScoped visible) :
    result.WellScoped visible := by
  cases negation with
  | plain => exact holds
  | negated => exact ⟨holds, trivial⟩

theorem FieldsFrom.wellScoped (fields : FieldsFrom base value) (holds : base.WellScoped visible) :
    value.WellScoped visible := by
  induction fields with
  | here => exact holds
  | field inner ih => exact ih

theorem Combined.wellScoped (combined : Combined arguments value)
    (holds : ∀ argument ∈ arguments, argument.WellScoped visible) : value.WellScoped visible := by
  cases combined with
  | operator typed negation => exact negation.wellScoped (allWellScoped_iff.mpr holds)
  | array | case => exact allWellScoped_iff.mpr holds
  | @field base | @cast _ base => exact holds base mem_cons_self

theorem path_scoped (ran : Succeeds tables (path scope node) before value after) :
    ScopedIn scope value after := by
  obtain ⟨⟨seen, inside, found, span, shows, fields⟩, rfl⟩ := succeeds_path ran
  refine fields.wellScoped (show found.column.id ∈ _ from ?_)
  have listed := shows.mem_ids
  rcases mem_cons.mp inside with rfl | outside
  · exact mem_append_right _ listed
  · exact mem_append_left _ (mem_append_left _ (mem_flatMap.mpr ⟨seen, outside, listed⟩))

section

variable (keep : r.Keep) (within : r.Scoped)

include keep within

theorem exprs_scoped (ran : Succeeds tables (each (r.expr scope) nodes) before values after) :
    ∀ value ∈ values, ScopedIn scope value after :=
  Frame.Around.each_forall (fun _ => Keeps.around (keep.expr (same_scope scope) same_tree))
    (fun _ _ _ kept holds => ScopedIn.more holds kept.visible)
    (fun _ _ _ _ _ ran => within.expr ran) ran

theorem arguments_scoped (ran : Succeeds tables (each (argument r scope function alone) nodes) before arguments after) :
    ∀ value ∈ arguments.flatten, ScopedIn scope value after := by
  intro value member
  obtain ⟨values, listed, member⟩ := mem_flatten.mp member
  refine Frame.Around.each_forall (P := fun values state => ∀ value ∈ values, ScopedIn scope value state)
    (fun _ => Keeps.around (Rules.Obeys.argument keep (same_scope _) same_tree function alone))
    (fun _ _ _ kept holds value member => (holds value member).more (Kept.visible kept))
    (fun item _ values first last ran => ?_) ran values listed value member
  intro value member
  cases succeeds_argument ran with
  | star => cases member
  | value ran =>
    cases mem_singleton.mp member
    exact within.expr ran
  | datePart =>
    cases mem_singleton.mp member
    trivial

theorem call_scoped (form : CallForm r tables scope node before value after) : ScopedIn scope value after := by
  cases form with
  | plain called known alone ran typed => exact allWellScoped_iff.mpr (arguments_scoped keep within ran)
  | @inWindow callee function spec single arguments middle signature type found ready called known windowed
      allowed ran typed
      resolved =>
    -- Calls were allowed at the start, so they still are when this one is added to them.
    have kept : Kept before ready :=
      (Keeps.succeeds (keeps_each fun _ => Rules.Obeys.argument keep (same_scope _) same_tree _ _) ran).trans
        (Keeps.succeeds (Rules.Obeys.window keep (same_scope _) same_tree.1) resolved)
    obtain ⟨pending, collecting⟩ := Option.isSome_iff_exists.mp allowed
    obtain ⟨added, calls⟩ := kept.calls
    rw [collecting] at calls
    refine mem_append_left _ (mem_append_right _ ?_)
    simp [State.pending, calls]

theorem innerQuery_scoped (ran : Succeeds tables (innerQuery r scope node) before (scan, outputs) after) :
    scan.WellScoped (after.visible ++ scope.ids) [] := by
  obtain ⟨last, ranQuery, rfl⟩ := succeeds_innerQuery ran
  have kept : Kept _ last := Keeps.succeeds (keep.query same_tree) ranQuery
  refine Scan.WellScoped.mono scan ?_ (Subset.refl _) (within.query ranQuery).1
  intro id member
  simp only [State.visible, State.around, State.pending, kept.outer, flatMap_cons, mem_append] at member ⊢
  rcases member with (own | outside) | pending
  · exact .inr own
  · exact .inl (.inl outside)
  · exact .inl (.inr pending)

theorem subquery_scoped (form : SubqueryForm r tables scope node before asked value after) :
    ScopedIn scope value after := by
  cases form with
  | alone plain found ran => exact ⟨innerQuery_scoped keep within ran, trivial⟩
  | within found found' ranTested ran =>
    exact ⟨innerQuery_scoped keep within ran,
      (within.expr ranTested).more (Keeps.succeeds (Rules.Obeys.innerQuery keep (same_scope _) same_tree) ran).visible⟩

theorem expr_scoped (ran : Succeeds tables (expr r scope node) before value after) : ScopedIn scope value after := by
  cases succeeds_expr ran with
  | path kind ran => exact path_scoped ran
  | @literal constant => cases constant <;> trivial
  | computed kind ran combined => exact combined.wellScoped (exprs_scoped keep within ran)
  | call kind form => exact call_scoped keep within form
  | subquery kind form negation => exact negation.wellScoped (subquery_scoped keep within form)

/-! ### Tables -/

theorem condition_scoped (ran : Succeeds tables (each (r.expr scope) nodes) before test.toList after)
    (shown : scope.shown = columns) : perhapsWellScoped (after.visible ++ columns.map Column.id) test := by
  refine perhapsWellScoped_iff.mpr fun value member => ?_
  rw [← shown]
  exact exprs_scoped keep within ran value (Option.mem_toList.mpr member)

theorem arrayValue_scoped (form : ArrayValueForm r tables scope node before array after) :
    ScopedIn scope array after ∧ Kept before after := by
  cases form with
  | path kind ran =>
    obtain ⟨-, rfl⟩ := succeeds_path ran
    exact ⟨path_scoped ran, Kept.refl before⟩
  | value kind found ran => exact ⟨within.expr ran, Keeps.succeeds (keep.expr (same_scope _) same_tree) ran⟩

theorem array_scoped (form : ArrayForm r tables node input scope joined before scan seen after)
    (wellScoped : ∀ scan ∈ input, scan.WellScoped before.visible [])
    (shown : scope.shown = (input.map Scan.columns).getD []) :
    scan.WellScoped after.visible [] ∧ seen.shown = scan.columns := by
  obtain ⟨value, typed, elementMade, offsetMade, conditioned, tested⟩ := form
  rename_i array type name element offsetNode offset test outer span valued named ready
  have shown' : Scope.shown (scope ++ [arrayRelation element offset]) =
      (input.map Scan.columns).getD [] ++ element :: offset.toList := by
    rw [Scope.shown_append, shown]
    simp [Scope.shown, arrayRelation, Function.comp_def]
  have keptMade : Kept valued ready := ((keeps_fresh _ _ _).succeeds elementMade).trans
    ((keeps_perhaps fun _ => keeps_fresh _ _ _).succeeds offsetMade)
  have keptTested : Kept ready after := exprs_kept keep conditioned
  obtain ⟨holds, keptValue⟩ := arrayValue_scoped keep within value
  have kept : Kept before after := (keptValue.trans keptMade).trans keptTested
  refine ⟨⟨?_, condition_scoped keep within conditioned shown', ?_⟩, shown'⟩
  · rw [← shown]
    exact holds.more (keptMade.trans keptTested).visible
  · exact inputWellScoped_iff.mpr fun scan member =>
      Scan.WellScoped.mono scan kept.visible (Subset.refl _) (wellScoped scan member)

theorem source_scoped (ran : Succeeds tables (source r node) before (scan, seen) after) :
    scan.WellScoped after.visible [] ∧ seen.shown = scan.columns := by
  cases succeeds_source ran with
  | table => exact ⟨trivial, flatMap_singleton _ _⟩
  | reference => exact ⟨trivial, flatMap_singleton _ _⟩
  | query kind found ran =>
    obtain ⟨holds, listed⟩ := within.query ran
    exact ⟨holds, (flatMap_singleton _ _).trans listed⟩
  | array kind form => exact array_scoped keep within form (by simp) rfl
  | arrayJoin kind foundLeft foundRight isArray ranLeft form =>
    obtain ⟨holds, shown⟩ := within.source ranLeft
    refine array_scoped keep within form (fun scan member => ?_) shown
    cases member
    exact holds
  | join kind foundLeft foundRight noArray ranLeft ranRight conditioned tested =>
    obtain ⟨holds, shown⟩ := within.source ranLeft
    obtain ⟨holds', shown'⟩ := within.source ranRight
    have keptRight := Keeps.succeeds (keep.source same_tree) ranRight
    have keptTested := exprs_kept keep conditioned
    have both := (Scope.shown_append _ _).trans (congr (congrArg _ shown) shown')
    refine ⟨⟨condition_scoped keep within conditioned both, ?_, ?_⟩, both⟩
    · exact Scan.WellScoped.mono _ (keptRight.trans keptTested).visible (Subset.refl _) holds
    · exact Scan.WellScoped.mono _ keptTested.visible (Subset.refl _) holds'

end

/-! ### Selections -/

structure Selected.ScopedIn (scope : Scope) (selected : Selected) (state : State) : Prop where
  computed : ∀ entry ∈ selected.computed, Analysis.ScopedIn scope entry.expr state
  outputs : ∀ output ∈ selected.outputs,
    output.column.id ∈ state.visible ++ scope.ids ++ selected.computed.map (·.column.id)

theorem Selected.ScopedIn.more (holds : selected.ScopedIn scope before) (visible : before.visible ⊆ after.visible) :
    selected.ScopedIn scope after := by
  refine ⟨fun entry member => (holds.computed entry member).more visible, fun output member => ?_⟩
  have listed := holds.outputs output member
  simp only [mem_append] at listed ⊢
  exact listed.imp_left (Or.imp_left fun inside => visible inside)

theorem Selected.ScopedIn.join (holds : ∀ selected ∈ items, selected.ScopedIn scope state) :
    (Selected.join items).ScopedIn scope state := by
  constructor
  · intro entry member
    obtain ⟨selected, listed, member⟩ := mem_flatMap.mp member
    exact (holds selected listed).computed entry member
  · intro output member
    obtain ⟨selected, listed, member⟩ := mem_flatMap.mp member
    have computed : selected.computed ⊆ (Selected.join items).computed := fun entry inside =>
      mem_flatMap.mpr ⟨selected, listed, inside⟩
    have visible := (holds selected listed).outputs output member
    simp only [mem_append] at visible ⊢
    exact visible.imp_right fun inside => map_subset _ computed inside

theorem item_scoped (within : r.Scoped) (form : ItemForm r tables scope item before selected after) :
    selected.ScopedIn scope after := by
  have shows : ∀ {column : NamedColumn}, scope.Shows column →
      column.column.id ∈ after.visible ++ scope.ids ++ [] := fun shows => by
    simp only [append_nil, mem_append]
    exact .inr shows.mem_ids
  cases form with
  | star found kind listed =>
    subst listed
    refine ⟨by simp, fun output member => shows ?_⟩
    obtain ⟨relation, known, inside⟩ := mem_flatMap.mp (mem_filter.mp member).1
    exact ⟨relation, known, inside⟩
  | dotStar found kind known listed =>
    subst listed
    exact ⟨by simp, fun output member => shows ⟨_, known, (mem_filter.mp member).1⟩⟩
  | column found ran =>
    refine ⟨by simp, fun output member => ?_⟩
    cases mem_singleton.mp member
    exact mem_append_left _ (within.expr ran)
  | computed found ran noColumn made =>
    constructor
    · intro entry member
      cases mem_singleton.mp member
      exact (within.expr ran).more ((keeps_fresh _ _ _).succeeds made).visible
    · intro output member
      cases mem_singleton.mp member
      simp [Computed.column]

theorem items_scoped (keep : r.Keep) (within : r.Scoped)
    (ran : Succeeds tables (each (selectItem r scope) entries) before items after) :
    (Selected.join items).ScopedIn scope after :=
  .join (Frame.Around.each_forall (fun _ => Keeps.around (Rules.Obeys.selectItem keep (same_scope _) same_tree.1 rfl))
    (fun _ _ _ kept holds => holds.more (Kept.visible kept))
    (fun _ _ _ _ _ ran => item_scoped within (succeeds_selectItem ran)) ran)

theorem filtered_wellScoped (holds : scan.WellScoped env [])
    (tested : perhapsWellScoped (env ++ scan.ids ++ above) test) :
    (filtered span scan test).WellScoped env above := by
  cases test with
  | none => exact Scan.WellScoped.mono scan (Subset.refl _) (nil_subset _) holds
  | some test => exact ⟨tested, holds⟩

theorem filtered_ids (span : Option Span) (scan : Scan) (test : Option TypedExpr) :
    (filtered span scan test).ids = scan.ids := by
  cases test <;> rfl

theorem windowed_wellScoped (holds : scan.WellScoped env []) : (windowed span scan calls).WellScoped env [] := by
  unfold windowed
  split <;> exact holds

theorem windowed_ids : (windowed span scan calls).ids = scan.ids ++ calls.map (·.column.id) := by
  unfold windowed
  split
  · rename_i none
    simp [isEmpty_iff.mp none]
  · simp [Scan.ids, Scan.columns]

theorem grouped_ids (span : Option Span) (scan : Scan) (groups : List Computed) (needed : Bool) :
    scan.ids ⊆ (if needed then grouped span scan groups else scan).ids := by
  cases needed with
  | false => exact Subset.refl _
  | true =>
    have listed : (grouped span scan groups).ids = groups.map (·.column.id) ++ scan.ids := by
      simp [grouped, Scan.ids, Scan.columns]
    rw [if_pos rfl, listed]
    exact subset_append_right _ _

theorem groupedRows_ids : rows.ids ⊆ (groupedRows span rows test needed groups having).ids := by
  rw [groupedRows, filtered_ids, ← filtered_ids span rows test]
  exact grouped_ids _ _ _ _

theorem groupedRows_wellScoped (holds : rows.WellScoped env []) (tested : perhapsWellScoped (env ++ rows.ids) test)
    (chosen : perhapsWellScoped (env ++ rows.ids) having) :
    (groupedRows span rows test needed groups having).WellScoped env [] := by
  have filteredRows : (filtered span rows test).WellScoped env [] := filtered_wellScoped holds (by simpa using tested)
  refine filtered_wellScoped (by cases needed <;> exact filteredRows) ?_
  rw [← filtered_ids span rows test] at chosen
  refine perhapsWellScoped_mono having ?_ chosen
  rw [append_nil]
  exact append_subset.mpr
    ⟨subset_append_left _ _, subset_append_of_subset_right _ (grouped_ids _ _ _ _)⟩

theorem selectTables_scoped (within : r.Scoped)
    (ran : Succeeds tables (selectTables r clause) before (rows, seen) after) :
    rows.WellScoped after.visible [] ∧ seen.shown = rows.columns := by
  cases clause with
  | none =>
    obtain ⟨same, rfl⟩ := succeeds_pure.mp ran
    cases same
    exact ⟨trivial, rfl⟩
  | some clause =>
    obtain ⟨inner, _, -, ran⟩ := ran.bind
    exact within.source ran

theorem qualifyScope_ids :
    (qualifyScope scope outputs).ids ⊆ scope.ids ++ outputs.map (·.column.id) := by
  intro id member
  rw [Scope.ids, qualifyScope, Scope.shown_append, map_append] at member
  rcases mem_append.mp member with own | selected
  · exact mem_append_left _ own
  · refine mem_append_right _ ?_
    simp only [Scope.shown, flatMap_singleton, mem_map, mem_filter] at selected ⊢
    obtain ⟨_, ⟨output, ⟨listed, -⟩, rfl⟩, rfl⟩ := selected
    exact ⟨output, listed, rfl⟩

/-- A selection is well scoped. Calls over windows are columns of the rows its projection picks from, and what it
computes is visible to the filter of `QUALIFY` just below. -/
theorem select_scoped (keep : r.Keep) (within : r.Scoped)
    (form : SelectForm r tables node before scan outputs seen after) :
    scan.WellScoped after.visible [] ∧ outputs.map NamedColumn.column = scan.columns := by
  refine ⟨?_, by cases form; rfl⟩
  cases form with
  | @mk parts rows seen units list items groups test havingTest qualify needed sourced tested named
      listing grouping having
      qualified split ranTables ranFilter ranWindows listed ranItems ranGroups ranHaving ranQualify boolean _ =>
    have keptTables := Keeps.succeeds (obeys_selectTables keep (option_refl fun _ => same_tree)) ranTables
    have keptFilter := exprs_kept keep ranFilter
    have keptWindows :=
      (Keeps.around (keeps_each fun _ => obeys_nameWindow keep (same_scope _) same_tree.1)).succeeds ranWindows
    have keptItems :=
      Keeps.succeeds (keeps_each fun _ => Rules.Obeys.selectItem keep (same_scope _) same_tree.1 rfl) ranItems
    have keptHaving := (Keeps.succeeds (keeps_each fun _ => obeys_groupItem keep (same_scope _) same_tree rfl
      (same_outputs _)) ranGroups).trans
      (exprs_kept keep ranHaving)
    have keptQualify := exprs_kept keep ranQualify
    -- Every clause has the same scopes around it; outside the list and `QUALIFY` these are all that is visible.
    have atFilter : tested.visible = before.around := (keptTables.trans keptFilter).visible_eq_around rfl
    have atItems : listing.around = before.around :=
      keptItems.around.trans
        ((congrArg (flatMap Scope.ids) keptWindows.outer).trans (keptTables.trans keptFilter).around)
    have atHaving : having.visible = before.around := (keptHaving.visible_eq_around rfl).trans atItems
    have fromItems : having.around = listing.around := keptHaving.around
    have atQualify : qualified.around = before.around := keptQualify.around.trans (fromItems.trans atItems)
    have collected : listing.visible ⊆ qualified.visible := by
      refine Subset.trans (fun id member => ?_) keptQualify.visible
      rwa [State.visible, ← fromItems] at member
    obtain ⟨holds, shown⟩ := selectTables_scoped within ranTables
    have below : qualified.visible ++ seen.ids ⊆ before.around ++ (windowed node.span
        (groupedRows node.span rows test needed groups havingTest) (qualified.analytic.getD [])).ids := by
      intro id member
      rw [windowed_ids]
      rw [State.visible, atQualify] at member
      simp only [mem_append] at member ⊢
      rcases member with (outside | pending) | own
      · exact .inl outside
      · exact .inr (.inr pending)
      · rw [Scope.ids, shown] at own
        exact .inr (.inl (groupedRows_ids own))
    have selected := (items_scoped keep within ranItems).more collected
    refine Scan.WellScoped.mono _ (fun id member => mem_append_left _ (atQualify ▸ member)) (Subset.refl _)
      ⟨?_, filtered_wellScoped (windowed_wellScoped (groupedRows_wellScoped ?_ ?_ ?_)) ?_⟩
    · rw [filtered_ids]
      exact computedWellScoped_iff.mpr fun entry member =>
        TypedExpr.WellScoped.mono _ below (selected.computed entry member)
    · rwa [keptTables.visible_eq_around rfl] at holds
    · have scopedTest := condition_scoped keep within ranFilter shown
      rwa [atFilter] at scopedTest
    · have scopedTest := condition_scoped keep within ranHaving shown
      rwa [atHaving] at scopedTest
    · refine perhapsWellScoped_iff.mpr fun value member => TypedExpr.WellScoped.mono _ ?_
        (exprs_scoped keep within ranQualify value (Option.mem_toList.mpr member))
      refine append_subset.mpr ⟨fun id visible => ?_, fun id seenThere => ?_⟩
      · exact mem_append_left _ (below (mem_append_left _ visible))
      · rcases mem_append.mp (qualifyScope_ids seenThere) with own | selectedThere
        · exact mem_append_left _ (below (mem_append_right _ own))
        · obtain ⟨output, chosen, rfl⟩ := mem_map.mp selectedThere
          exact mem_append.mpr ((mem_append.mp (selected.outputs output chosen)).imp_left fun seen => below seen)

/-! ### Queries -/

theorem orderedRows_wellScoped {keys : List SortKey} (holds : scan.WellScoped env []) :
    (orderedRows span scan clause keys).WellScoped env [] := by
  cases clause <;> exact holds

theorem orderedRows_columns {keys : List SortKey} : (orderedRows span scan clause keys).columns = scan.columns := by
  cases clause <;> rfl

theorem LimitedRows.columns (limited : LimitedRows span base bounds rows) : rows.columns = base.columns := by
  cases limited <;> rfl

theorem LimitedRows.wellScoped (limited : LimitedRows span base bounds rows)
    (holds : base.WellScoped env []) (bounded : ∀ bound ∈ bounds, bound.WellScoped env) : rows.WellScoped env [] := by
  cases limited with
  | all => exact holds
  | bounded =>
    refine ⟨bounded _ mem_cons_self, perhapsWellScoped_iff.mpr fun offset member => ?_, holds⟩
    exact bounded offset (mem_cons_of_mem _ (Option.mem_toList.mpr member))

theorem nameQuery_scoped (within : r.Scoped) (ran : Succeeds tables (nameQuery r node) before entry after) :
    entry.query.WellScoped after.visible [] := by
  obtain ⟨inner, name, scan, columns, middle, found, ranInner, rfl, rfl⟩ := succeeds_nameQuery ran
  exact (within.query ranInner).1

theorem query_scoped (keep : r.Keep) (within : r.Scoped) (form : QueryForm r tables node before scan outputs after) :
    scan.WellScoped after.visible [] ∧ outputs.map NamedColumn.column = scan.columns := by
  cases form with
  | @mk parts bodyNode body outputs seen bounds keys rows named bodied sorted last entries split
      ranEntries given ranBody
      ranOrder ranLimit limited =>
    have keptBody : Kept named bodied := Keeps.succeeds (keep.body same_tree) ranBody
    have keptOrder : Kept bodied sorted := Keeps.succeeds
      (keeps_each fun _ => Rules.Obeys.orderExpr keep (same_scope _) same_tree (same_outputs _)) ranOrder
    have keptLimit : Kept sorted last := exprs_kept keep ranLimit
    obtain ⟨bodyScoped, listed⟩ := within.body ranBody
    have bounded : ∀ bound ∈ bounds, bound.WellScoped last.visible := fun bound member => by
      simpa [ScopedIn, Scope.ids, Scope.shown] using exprs_scoped keep within ranLimit bound member
    have rowsScoped : rows.WellScoped last.visible [] := limited.wellScoped
      (orderedRows_wellScoped (Scan.WellScoped.mono _ (keptOrder.trans keptLimit).visible (Subset.refl _) bodyScoped))
      bounded
    have columns : rows.columns = body.columns := limited.columns.trans orderedRows_columns
    have entriesScoped : ∀ entry ∈ entries, entry.query.WellScoped last.visible [] := fun entry member =>
      Scan.WellScoped.mono _ (keptBody.trans (keptOrder.trans keptLimit)).visible (Subset.refl _)
        (Frame.Around.each_forall (P := fun entry state => Scan.WellScoped state.visible [] entry.query)
          (fun _ => Keeps.around (obeys_nameQuery keep ⟨same_tree.1, fun _ _ => trivial⟩))
          (fun entry first last kept holds => Scan.WellScoped.mono entry.query
            (show first.visible ⊆ last.visible from visible_subset kept.outer kept.calls) (Subset.refl _) holds)
          (fun _ _ _ _ _ ran => nameQuery_scoped within ran) ranEntries entry member)
    split
    · exact ⟨rowsScoped, listed.trans columns.symm⟩
    · exact ⟨⟨entriesWellScoped_iff.mpr entriesScoped, rowsScoped⟩, listed.trans columns.symm⟩

theorem body_scoped (keep : r.Keep) (within : r.Scoped) (form : BodyForm r tables node before scan outputs seen after) :
    scan.WellScoped after.visible [] ∧ outputs.map NamedColumn.column = scan.columns := by
  cases form with
  | select kind form => exact select_scoped keep within form
  | setOperation kind foundLeft foundRight ranLeft ranRight sameLength made =>
    have keptRight := Keeps.succeeds (keep.body same_tree) ranRight
    have keeps (op : SetOp) (distinct : Bool) : framing.Part _ (each (setColumn op distinct node.span) _) _ :=
      obeys_setColumns same_tree.1 op distinct (same_outputs _) (same_outputs _) sameLength 0
    have keptMade := Keeps.succeeds (keeps _ _) made
    refine ⟨⟨?_, ?_⟩, rfl⟩
    · exact Scan.WellScoped.mono _ (keptRight.trans keptMade).visible (Subset.refl _) (within.body ranLeft).1
    · exact Scan.WellScoped.mono _ keptMade.visible (Subset.refl _) (within.body ranRight).1
  | query kind form => exact query_scoped keep within form

theorem resolvers_scoped (height : Nat) : (resolvers height).Scoped := by
  induction height with
  | zero =>
    exact ⟨fun ran => (succeeds_malformed.mp ran).elim, fun ran => (succeeds_malformed.mp ran).elim,
      fun ran => (succeeds_malformed.mp ran).elim, fun ran => (succeeds_malformed.mp ran).elim⟩
  | succ height ih =>
    have keep := resolvers_keep height
    exact ⟨expr_scoped keep ih, fun ran => query_scoped keep ih (succeeds_query ran),
      fun ran => body_scoped keep ih (succeeds_body ran), source_scoped keep ih⟩

/-! ### Statements -/

/-- Whatever statements came before it and however they ended, a statement that is resolved is well scoped. -/
theorem statement_wellScoped {earlier : List Node} {resolved : Resolved.Statement}
    (ran : Succeeds tables (statement node) (statements tables .initial earlier).2 resolved after) :
    resolved.query.WellScoped [] [] := by
  obtain ⟨queryNode, -, ranQuery⟩ := succeeds_statement ran
  have holds := ((resolvers_scoped _).query ranQuery).1
  -- Nothing is collected between statements, and a statement has no scopes around it.
  obtain ⟨added, none⟩ := (statements_kept tables .initial earlier).calls
  rwa [(Keeps.succeeds ((resolvers_keep _).query same_tree) ranQuery).visible_eq_around none] at holds

private def nameNode (name : String) : Node := .mk .path none [.leaf (.identifier name) none]

private def onesNode (name : String) : Node :=
  .mk .unnest none [.mk .arrayLiteral none [.leaf (.literal (.int "1")) none], .leaf (.aliasName name) none]

/-- `SELECT (SELECT y FROM UNNEST([1]) AS y WHERE y = x) FROM UNNEST([1]) AS x QUALIFY ROW_NUMBER() OVER () = 1`: an
inner filter reads a column from outside, and the outer one reads a call over a window. -/
def correlatedStatement : Node :=
  .mk .statement none [.mk .query none [.mk (.select false) none
    [.mk .selectList none
      [.mk .selectColumn none [.mk (.subquery .scalar) none [.mk .query none [.mk (.select false) none
      [.mk .selectList none [.mk .selectColumn none [nameNode "y"]], .mk .fromClause none [onesNode "y"],
        .mk .whereClause none [.mk (.binary .equal) none [nameNode "y", nameNode "x"]]]]]]],
      .mk .fromClause none [onesNode "x"],
      .mk .qualify none [.mk (.binary .equal) none
        [.mk (.functionCall false) none [nameNode "ROW_NUMBER", .leaf (.windowSpec none) none],
          .leaf (.literal (.int "1")) none]]]]]

theorem correlatedStatement_wellScoped :
    ∃ resolved after, Succeeds (fun _ => none) (statement correlatedStatement)
      (statements (fun _ => none) .initial [correlatedStatement]).2 resolved after ∧
        resolved.query.WellScoped [] [] := by
  obtain ⟨resolved, after, ran⟩ := succeeds_of_toBool (show ((statement correlatedStatement).outcome (fun _ => none)
    (statements (fun _ => none) .initial [correlatedStatement]).2).1.toBool = true by decide +kernel)
  exact ⟨resolved, after, ran, statement_wellScoped ran⟩

end SqlLens.Analysis
