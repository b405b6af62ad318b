import SqlLens.Proofs.Analysis.Scoping
import SqlLens.Proofs.Analysis.WindowCalls
import SqlLens.Proofs.Resolved.Columns
import SqlLens.Proofs.Surface.Sound

/-!
Where the columns of resolved trees come from.

Resolving a tree makes columns with new numbers, and whatever else occurs in the result was known before (`Resolves`).
It also was visible before, or else the result introduces it. Calls over windows are part of the result once they are
added, although they find their place in the tree only at the end of the selection.

No column may outlive the node that introduces it. A named window may be used several times, in part or not at all, so
each part of it must be traced by itself (`Window.Settled`). A part that a window has twice would be lost while the
calls in it stay, but a window that was read has no part twice (`Node.Proper`).
-/

namespace SqlLens.Analysis

open Set
open List
open SqlLens.Resolved (Column NamedColumn Scan TypedExpr Computed Entry SortKey Fresh Traced)
open SqlLens.Resolved.Node (heldBy broughtBy introducing computing mem_gatheredBy_append mem_held_computing_append
  mem_brought_computing_append mem_held_of_mem_columns mem_gathered mem_gatheredBy_cons mem_held_introducing
  mem_gatheredBy_flatMap mem_held_computing mem_brought_introducing mem_brought_computing gatheredBy_mono
    broughtBy_subset
  introduced children)
open SqlLens.Surface (Node)

variable {r : Resolvers} {tables : Lookup} {before after : State} {scope seen : Scope} {node : Node} {value : TypedExpr}
  {outputs : List NamedColumn} {known visible wider : Set Column} {trees : List Resolved.Node} {items : List Node}

/-! ### Runs -/

/-- What a run does to the state besides making columns. -/
structure Step (added : List Computed) (before after : State) : Prop where
  outer : after.outer = before.outer
  windows : after.windows = before.windows
  calls : after.analytic = before.analytic.map (· ++ added)
  allowed : before.analytic = none → added = []

theorem Step.nothing (outer : after.outer = before.outer) (windows : after.windows = before.windows)
    (calls : after.analytic = before.analytic) : Step [] before after :=
  ⟨outer, windows, by rw [calls]; cases before.analytic <;> simp, fun _ => rfl⟩

theorem Step.trans (first : Step added before middle) (second : Step later middle after) :
    Step (added ++ later) before after := by
  refine ⟨second.outer.trans first.outer, second.windows.trans first.windows, ?_, fun none => ?_⟩
  · rw [second.calls, first.calls]
    cases before.analytic <;> simp
  · have noneLater : middle.analytic = .none := by rw [first.calls, none]; rfl
    rw [first.allowed none, second.allowed noneLater]
    rfl

/-- A run makes columns, adds calls over windows and has trees as its result. The columns of the trees and of the calls
are traced. -/
def Resolves (known visible : Set Column) (before after : State) (trees : List Resolved.Node) : Prop :=
  ∃ added made, Step added before after ∧ Fresh before.nextId after.nextId made ∧
    Traced known visible made (computing added ++ trees)

structure Later (known : Set Column) (before : State) (wider : Set Column) (after : State) : Prop where
  known : known ⊆ wider
  outer : after.outer = before.outer
  windows : after.windows = before.windows

theorem Resolves.append (first : Resolves known visible before middle trees) (seen : further ⊆ visible ∪ heldBy trees)
    (second : ∀ wider, Later known before wider middle → heldBy trees ⊆ wider →
      Resolves wider further middle after more) :
    Resolves known visible before after (trees ++ more) := by
  obtain ⟨added, made, step, fresh, traced⟩ := first
  have held : heldBy trees ⊆ heldBy (computing added ++ trees) := fun column inside =>
    mem_gatheredBy_append.mpr (.inr inside)
  obtain ⟨later, made', step', fresh', traced'⟩ := second (known ∪ made)
    ⟨subset_union_left, step.outer, step.windows⟩ (held.trans traced.known)
  refine ⟨added ++ later, made ∪ made', step.trans step', fresh.union fresh', ?_⟩
  refine (traced.append traced' (Subset.refl _) (seen.trans (union_subset_union_right _ held))).congr ?_ ?_ <;>
  · intro column inside
    simp only [mem_gatheredBy_append, mem_held_computing_append, mem_brought_computing_append] at inside ⊢
    grind

theorem Resolves.congr (resolved : Resolves known visible before after trees) (held : heldBy more ⊆ heldBy trees)
    (brought : broughtBy trees ⊆ broughtBy more) : Resolves known visible before after more := by
  obtain ⟨added, made, step, fresh, traced⟩ := resolved
  refine ⟨added, made, step, fresh, traced.congr (fun column inside => ?_) fun column inside => ?_⟩
  · exact mem_gatheredBy_append.mpr ((mem_gatheredBy_append.mp inside).imp_right fun inside => held inside)
  · exact mem_gatheredBy_append.mpr ((mem_gatheredBy_append.mp inside).imp_right fun inside => brought inside)

theorem Resolves.wrap (top : Resolved.Node) (resolved : Resolves known visible before after (top.children ++ more))
    (own : ∀ column ∈ top.columns, column ∈ known ∧ column ∈ visible ∨ column ∈ heldBy (top.children ++ more))
    (gives : ∀ column ∈ broughtBy more, column ∈ top.introduced) : Resolves known visible before after [top] := by
  obtain ⟨added, made, step, fresh, traced⟩ := resolved
  exact ⟨added, made, step, fresh, traced.wrap top own gives⟩

theorem Resolves.wrap_rows (top : Resolved.Node) (resolved : Resolves known visible before after top.children)
    (own : ∀ column ∈ top.columns, ∃ input, .scan input ∈ top.children ∧ column ∈ input.columns) :
    Resolves known visible before after [top] := by
  have whole : Resolves known visible before after (top.children ++ []) := by rwa [append_nil]
  refine whole.wrap top (fun column listed => .inr ?_) (by simp)
  obtain ⟨input, inside, listed⟩ := own column listed
  exact ⟨.scan input, mem_append_left _ inside, mem_held_of_mem_columns listed⟩

theorem Resolves.wrap_plain (top : Resolved.Node) (resolved : Resolves known visible before after top.children)
    (none : top.columns = []) : Resolves known visible before after [top] := resolved.wrap_rows top (by simp [none])

theorem resolves_visible (seen : ∀ column ∈ heldBy trees, column ∈ known ∧ column ∈ visible) :
    Resolves known visible before before trees := by
  refine ⟨[], ∅, .nothing rfl rfl rfl, .none _, ?_, ?_⟩ <;>
  · intro column inside
    have inside : column ∈ heldBy trees := by simpa [computing] using inside
    simp [seen column inside]

theorem resolves_nothing : Resolves known visible before before [] := resolves_visible (by simp)

theorem resolves_fresh (ran : Succeeds tables (fresh table name type) before column after) :
    Resolves known visible before after [introducing [column]] := by
  obtain ⟨rfl, rfl⟩ := succeeds_fresh.mp ran
  refine ⟨[], _, .nothing rfl rfl rfl, Fresh.one ⟨before.nextId, table, name, type⟩, ?_, ?_⟩ <;>
  · intro column inside
    exact .inr (by simpa [computing] using inside)

/-! ### What may be read -/

structure Window.Settled (known visible : Set Column) (window : Window) : Prop where
  partition : Traced known visible ∅ (window.partition.map .expr)
  order : Traced known visible ∅ (window.order.map fun key => .expr key.expr)

theorem Window.Settled.mono {window : Window} (settled : window.Settled known visible) (knownMore : known ⊆ wider)
    (visibleMore : visible ⊆ further) : window.Settled wider further :=
  ⟨settled.partition.mono (union_subset_union_left _ knownMore) visibleMore,
    settled.order.mono (union_subset_union_left _ knownMore) visibleMore⟩

/-- What scopes show is visible, what is visible is known, and the named windows are settled. -/
structure Ready (known visible : Set Column) (scope : Scope) (state : State) : Prop where
  within : visible ⊆ known
  shown : ∀ seen ∈ scope :: state.outer, ∀ column ∈ seen.shown, column ∈ visible
  windows : ∀ entry ∈ state.windows, entry.2.Settled known visible

section

variable (ready : Ready known visible scope before)

include ready

theorem Ready.later (later : Later known before wider after) : Ready wider visible scope after := by
  refine ⟨ready.within.trans later.known, ?_, fun entry listed => ?_⟩
  · rw [later.outer]
    exact ready.shown
  · rw [later.windows] at listed
    exact (ready.windows entry listed).mono later.known (Subset.refl _)

theorem Ready.sees (more : visible ⊆ wider) (within : wider ⊆ known) (shown : ∀ column ∈ seen.shown, column ∈ wider) :
    Ready known wider seen before := by
  refine ⟨within, forall_mem_cons.mpr ⟨shown, fun scope around column listed => ?_⟩, fun entry listed => ?_⟩
  · exact more (ready.shown scope (mem_cons_of_mem _ around) column listed)
  · exact (ready.windows entry listed).mono (Subset.refl _) more

theorem Ready.into (seen : Scope) (shown : ∀ column ∈ seen.shown, column ∈ visible) : Ready known visible seen before :=
  ready.sees (Subset.refl _) ready.within shown

theorem Ready.over (later : Later known before wider after) (held : heldBy trees ⊆ wider)
    (shown : ∀ column ∈ seen.shown, column ∈ heldBy trees) : Ready wider (visible ∪ heldBy trees) seen after :=
  (ready.later later).sees subset_union_left (union_subset (ready.within.trans later.known) held)
    fun column listed => .inr (shown column listed)

theorem Ready.past (step : Step added before after) (traced : Traced known visible made (computing added ++ trees)) :
    Ready (known ∪ made) (visible ∪ heldBy (computing added ++ trees)) scope after :=
  (ready.later ⟨subset_union_left, step.outer, step.windows⟩).sees subset_union_left
    (union_subset (ready.within.trans subset_union_left) traced.known)
    fun column listed => .inl (ready.shown scope mem_cons_self column listed)

theorem Ready.recall (calls : Option (List Computed)) :
    Ready known visible scope { before with analytic := calls } := ⟨ready.within, ready.shown, ready.windows⟩

end

/-- What resolvers do with trees that were read from a text. -/
structure Resolvers.Trace (r : Resolvers) : Prop where
  expr : ∀ {tables scope node before value after known visible}, node.Proper → Ready known visible scope before →
    Succeeds tables (r.expr scope node) before value after → Resolves known visible before after [.expr value]
  query : ∀ {tables node before scan outputs after known visible}, node.Proper → Ready known visible [] before →
    Succeeds tables (r.query node) before (scan, outputs) after → Resolves known visible before after [.scan scan]
  body : ∀ {tables node before scan outputs seen after known visible}, node.Proper → Ready known visible [] before →
    Succeeds tables (r.body node) before (scan, outputs, seen) after →
      Resolves known visible before after [.scan scan] ∧ ∀ column ∈ seen.shown, column ∈ heldBy [.scan scan]
  source : ∀ {tables node before scan seen after known visible}, node.Proper → Ready known visible [] before →
    Succeeds tables (r.source node) before (scan, seen) after → Resolves known visible before after [.scan scan]
  announced : r.Scoped
  name : ∀ tables scope node before, node.kind = .path → ((r.expr scope node).outcome tables before).2 = before

theorem each_traced {f : α → Analyze β} (view : β → List Resolved.Node) {items : List α} {results : List β}
    (ready : Ready known visible scope before)
    (step : ∀ item ∈ items, ∀ {known before value after}, Ready known visible scope before →
      Succeeds tables (f item) before value after → Resolves known visible before after (view value))
    (ran : Succeeds tables (each f items) before results after) :
    Resolves known visible before after (results.flatMap view) := by
  induction items generalizing before results known with
  | nil =>
    obtain ⟨rfl, rfl⟩ := succeeds_each_nil.mp ran
    exact resolves_nothing
  | cons item rest ih =>
    obtain ⟨value, middle, others, first, ranRest, rfl⟩ := succeeds_each_cons.mp ran
    refine (step item mem_cons_self ready first).append subset_union_left fun wider later _ => ?_
    exact ih (ready.later later) (fun item inside => step item (mem_cons_of_mem _ inside)) ranRest

theorem exprs_traced (trace : r.Trace) (ready : Ready known visible scope before) (proper : ∀ node ∈ nodes, node.Proper)
    (ran : Succeeds tables (each (r.expr scope) nodes) before values after) :
    Resolves known visible before after (values.map .expr) := by
  have resolved := each_traced (fun value => [.expr value]) ready
    (fun node inside _ _ _ _ ready ran => trace.expr (proper node inside) ready ran) ran
  rwa [← map_eq_flatMap] at resolved

/-! ### Windows -/

def Window.nodes (window : Window) : List Resolved.Node :=
  window.partition.map .expr ++ window.order.map fun key => .expr key.expr

def ResolvesWindow (known visible : Set Column) (before after : State) (window : Window) : Prop :=
  ∃ added made, Step added before after ∧ Fresh before.nextId after.nextId made ∧
    window.Settled (known ∪ made) (visible ∪ broughtBy (computing added)) ∧
      Traced known visible made (computing added ++ window.nodes)

theorem ResolvesWindow.resolves {window : Window} (run : ResolvesWindow known visible before after window) :
    Resolves known visible before after window.nodes := by
  obtain ⟨added, made, step, fresh, -, traced⟩ := run
  exact ⟨added, made, step, fresh, traced⟩

theorem Window.Settled.resolves {window : Window} (settled : window.Settled known visible) :
    ResolvesWindow known visible before before window := by
  refine ⟨[], ∅, .nothing rfl rfl rfl, .none _, settled.mono subset_union_left subset_union_left, ?_⟩
  have both := settled.partition.append settled.order subset_union_left subset_union_left
  refine Traced.congr (both.mono (by simp) (Subset.refl _)) ?_ ?_ <;>
  · intro column inside
    simpa [computing, Window.nodes] using inside

/-- A part of a window is resolved and kept while the rest of the window is resolved. Later parts may refer to the calls
in it. -/
theorem Resolves.window {window : Window} (first : Resolves known visible before middle trees)
    (within : visible ⊆ known) (kept : trees ⊆ window.nodes)
    (rest : ∀ wider further, Later known before wider middle → visible ⊆ further → further ⊆ wider →
      Traced wider further ∅ trees → ResolvesWindow wider further middle after window) :
    ResolvesWindow known visible before after window := by
  obtain ⟨added, made, step, fresh, traced⟩ := first
  have held : broughtBy (computing added) ⊆ heldBy (computing added ++ trees) := fun column brings =>
    mem_gatheredBy_append.mpr (.inl (broughtBy_subset _ brings))
  have alone : Traced (known ∪ made) (visible ∪ broughtBy (computing added)) ∅ trees := by
    constructor
    · exact fun column inside => .inl (traced.known (mem_gatheredBy_append.mpr (.inr inside)))
    · intro column inside
      rcases traced.introduced (mem_gatheredBy_append.mpr (.inr inside)) with seen | brings
      · exact .inl (.inl seen)
      · exact (mem_gatheredBy_append.mp brings).imp_left .inr
  obtain ⟨later, made', step', fresh', settled, traced'⟩ := rest (known ∪ made) (visible ∪ broughtBy (computing added))
    ⟨subset_union_left, step.outer, step.windows⟩ subset_union_left
    (union_subset (within.trans subset_union_left) (held.trans traced.known)) alone
  refine ⟨added ++ later, made ∪ made', step.trans step', fresh.union fresh', settled.mono ?_ ?_, ?_⟩
  · rw [union_assoc]
  · intro column inside
    simp only [mem_union, mem_brought_computing_append] at inside ⊢
    grind
  · have whole := traced.append traced' (Subset.refl _) (union_subset_union_right _ held)
    refine whole.congr (fun column inside => ?_) fun column inside => ?_
    · simp only [mem_gatheredBy_append, mem_held_computing_append] at inside ⊢
      grind
    · have stays : column ∈ broughtBy trees → column ∈ broughtBy window.nodes := fun brings =>
        gatheredBy_mono kept brings
      simp only [mem_gatheredBy_append, mem_brought_computing_append] at inside ⊢
      grind

theorem windowParts_keeps (ran : Succeeds tables (windowParts r scope spec parts base) before result after) :
    (.partitionBy ∉ parts.map Node.kind → result.partition = base.partition) ∧
      (.orderBy ∉ parts.map Node.kind → result.order = base.order) := by
  induction parts generalizing before base with
  | nil =>
    cases ran
    exact ⟨fun _ => rfl, fun _ => rfl⟩
  | cons part rest ih =>
    simp only [map_cons, mem_cons, not_or]
    unfold windowParts at ran
    split at ran
    · rename_i kind
      obtain ⟨partition, middle, -, ran⟩ := ran.bind
      exact ⟨fun other => absurd kind.symm other.1, fun other => (ih ran).2 other.2⟩
    · rename_i kind
      obtain ⟨order, middle, -, ran⟩ := ran.bind
      exact ⟨fun other => (ih ran).1 other.2, fun other => absurd kind.symm other.1⟩
    · cases ran

theorem windowParts_traced (trace : r.Trace) (proper : ∀ part ∈ parts, part.Proper)
    (differ : (parts.map Node.kind).Nodup) (ready : Ready known visible scope before)
    (settled : base.Settled known visible)
    (ran : Succeeds tables (windowParts r scope spec parts base) before result after) :
    ResolvesWindow known visible before after result := by
  induction parts generalizing before base known visible with
  | nil =>
    cases ran
    exact settled.resolves
  | cons part rest ih =>
    obtain ⟨partProper, restProper⟩ := forall_mem_cons.mp proper
    obtain ⟨single, restDiffer⟩ := nodup_cons.mp differ
    have goesOn {wider further : Set Column} {base : Window} {middle : State} (later : Later known before wider middle)
        (more : visible ⊆ further) (within : further ⊆ wider)
        (ran : Succeeds tables (windowParts r scope spec rest base) middle result after)
        (settled : base.Settled wider further) : ResolvesWindow wider further middle after result :=
      ih restProper restDiffer ((ready.later later).sees more within fun column listed =>
        more (ready.shown scope mem_cons_self column listed)) settled ran
    unfold windowParts at ran
    -- What is resolved here stays in the window, since no later part is of the same kind.
    split at ran
    · rename_i kind
      obtain ⟨partition, middle, first, ran⟩ := ran.bind
      have stays : result.partition = partition := (windowParts_keeps ran).1 (kind ▸ single)
      refine (exprs_traced trace ready (fun _ => partProper.child) first).window ready.within ?_
        fun wider further later more within alone =>
          goesOn later more within ran ⟨alone, (settled.mono later.known more).order⟩
      rw [Window.nodes, stays]
      exact subset_append_left _ _
    · rename_i kind
      obtain ⟨order, middle, first, ran⟩ := ran.bind
      have stays : result.order = order := (windowParts_keeps ran).2 (kind ▸ single)
      have proper : ∀ key ∈ part.children.flatMap fun item => item.children.take 1, key.Proper := by
        intro key listed
        obtain ⟨item, inside, first⟩ := mem_flatMap.mp listed
        exact (partProper.child inside).child (mem_of_mem_take first)
      have resolved := exprs_traced trace ready proper (succeeds_sortKeys first)
      rw [map_map] at resolved
      refine resolved.window ready.within ?_ fun wider further later more within alone =>
        goesOn later more within ran ⟨(settled.mono later.known more).partition, alone⟩
      rw [Window.nodes, stays]
      exact subset_append_right _ _
    · cases ran

theorem window_traced (trace : r.Trace) (proper : spec.Proper) (ready : Ready known visible scope before)
    (ran : Succeeds tables (window r scope spec) before result after) :
    ResolvesWindow known visible before after result := by
  have law := (proper spec spec.mem_preorder_self).window
  have parts {base : Window} {name : Option String} (kind : spec.kind = .windowSpec name)
      (settled : base.Settled known visible)
      (ran : Succeeds tables (windowParts r scope spec spec.children base) before result after) :=
    windowParts_traced trace (fun _ => proper.child) (law name kind) ready settled ran
  unfold window at ran
  split at ran
  · rename_i kind
    refine parts kind ⟨⟨?_, ?_⟩, ⟨?_, ?_⟩⟩ ran <;> simp [Set.subset_def]
  · rename_i name kind
    simp only [succeeds_bind, succeeds_get] at ran
    obtain ⟨_, _, ⟨rfl, rfl⟩, ran⟩ := ran
    split at ran
    · rename_i base found
      obtain ⟨entry, named, rfl⟩ := Option.map_eq_some_iff.mp found
      exact parts kind (ready.windows entry (mem_of_find?_eq_some named)) ran
    · cases ran
  · cases ran

/-! ### Expressions -/

theorem Negated.traced {result : TypedExpr} (negation : Negated value result)
    (resolved : Resolves known visible before after [.expr value]) :
    Resolves known visible before after [.expr result] := by
  cases negation with
  | plain => exact resolved
  | negated => exact resolved.wrap_plain _ rfl

theorem FieldsFrom.traced {base : TypedExpr} (fields : FieldsFrom base value)
    (resolved : Resolves known visible before after [.expr base]) :
    Resolves known visible before after [.expr value] := by
  induction fields with
  | here => exact resolved
  | field inner ih => exact ih.wrap_plain _ rfl

theorem Combined.traced (combined : Combined arguments value)
    (resolved : Resolves known visible before after (arguments.map .expr)) :
    Resolves known visible before after [.expr value] := by
  cases combined with
  | operator typed negation => exact negation.traced (resolved.wrap_plain _ rfl)
  | array | case | field | cast => exact resolved.wrap_plain _ rfl

theorem literal_traced {text : String} {span : Option Span} :
    Resolves known visible before before [.expr (.literal text type span)] :=
  resolves_nothing.wrap_plain _ rfl

theorem Ready.shows (ready : Ready known visible scope before) (around : seen ∈ scope :: before.outer)
    (shows : seen.Shows column) : column.column ∈ known ∧ column.column ∈ visible := by
  obtain ⟨relation, inside, listed⟩ := shows
  have shown := ready.shown seen around column.column
    (mem_flatMap.mpr ⟨relation, inside, mem_map_of_mem listed⟩)
  exact ⟨ready.within shown, shown⟩

theorem path_traced (ready : Ready known visible scope before)
    (ran : Succeeds tables (path scope node) before value after) :
    Resolves known visible before after [.expr value] := by
  obtain ⟨⟨seen, inside, found, span, shows, fields⟩, rfl⟩ := succeeds_path ran
  exact fields.traced (resolves_visible (by simpa using ready.shows inside shows))

theorem call_traced {window : Window} {span : Option Span}
    (resolved : Resolves known visible before middle (arguments.map .expr ++ window.nodes))
    (allowed : before.analytic.isSome) : Resolves known visible before
      { middle with
        nextId := middle.nextId + 1
        analytic := middle.analytic.map (· ++ [windowCall middle function arguments window type span]) }
      [.expr (.column (windowCall middle function arguments window type span).column none)] := by
  obtain ⟨added, made, step, fresh, traced⟩ := resolved
  generalize called : windowCall middle function arguments window type span = call
  have new : Traced known visible {call.column} [introducing [call.column]] := by
    constructor <;> simp [Set.subset_def]
  have below : Traced known visible made (computing added ++ [Resolved.Node.expr call.expr]) := by
    subst called
    let top : Resolved.Node := .expr (.analyticCall function arguments window.partition window.order type span)
    have parts : Traced known visible made (computing added ++ (top.children ++ [])) := by
      simpa [top, children, Window.nodes] using traced
    exact parts.wrap top (by simp [top, Resolved.Node.columns]) (by simp)
  refine ⟨added ++ [call], made ∪ {call.column}, ⟨step.outer, step.windows, ?_, fun none => ?_⟩,
    fresh.union (called ▸ Fresh.one call.column), ?_⟩
  · rw [step.calls]
    cases before.analytic <;> simp
  · simp [none] at allowed
  · refine (below.append new Set.subset_union_left Set.subset_union_left).congr ?_ ?_ <;>
    · intro column inside
      simp only [mem_gatheredBy_append, mem_held_computing_append, mem_brought_computing_append] at inside ⊢
      simp [computing] at inside ⊢
      grind

theorem operands_proper (proper : node.Proper) : ∀ part ∈ operands node, part.Proper := by
  intro part inside
  unfold operands at inside
  split at inside
  iterate 6 exact proper.child (mem_of_mem_take inside)
  iterate 5 exact proper.child inside
  · obtain ⟨clause, listed, inside⟩ := mem_flatMap.mp inside
    unfold caseOperands at inside
    split at inside
    · exact (proper.child listed).child (mem_of_mem_take inside)
    · exact (proper.child listed).child (mem_of_mem_take inside)
    · rw [mem_singleton.mp inside]
      exact proper.child listed
  · cases inside

section

variable (trace : r.Trace) (proper : node.Proper) (ready : Ready known visible scope before)

include trace proper ready

theorem argument_traced (form : ArgumentForm r tables scope node before values after) :
    Resolves known visible before after (values.map .expr) := by
  cases form with
  | star => exact resolves_nothing
  | value ran => exact trace.expr proper ready ran
  | datePart failed single =>
    have same := trace.name tables scope node before (path_of_singleName single)
    rw [failed] at same
    rw [show after = before from same]
    exact literal_traced

theorem arguments_traced {arguments : List (List TypedExpr)}
    (ran : Succeeds tables (each (argument r scope function single) (argumentNodes node)) before arguments after) :
    Resolves known visible before after (arguments.flatten.map .expr) := by
  rw [map_flatten, ← flatMap_def]
  refine each_traced _ ready (fun part inside _ _ _ _ ready ran => ?_) ran
  exact argument_traced trace (proper.child (mem_of_mem_drop (mem_filter.mp inside).1)) ready
    (succeeds_argument ran)

theorem innerQuery_traced (ran : Succeeds tables (innerQuery r scope node) before (rows, outputs) after) :
    Resolves known visible before after [.scan rows] := by
  obtain ⟨last, ranQuery, rfl⟩ := succeeds_innerQuery ran
  have around : Ready known visible [] { before with outer := scope :: before.outer } :=
    ⟨ready.within, forall_mem_cons.mpr ⟨by simp [Scope.shown], ready.shown⟩, ready.windows⟩
  obtain ⟨added, made, step, fresh, traced⟩ := trace.query proper around ranQuery
  exact ⟨added, made, ⟨congrArg tail step.outer, step.windows, step.calls, step.allowed⟩, fresh, traced⟩

theorem subquery_traced (form : SubqueryForm r tables scope node before asked value after) :
    Resolves known visible before after [.expr value] := by
  cases form with
  | alone plain found ran =>
    exact (innerQuery_traced trace (proper.child (mem_of_getElem? found)) ready ran).wrap_plain _ rfl
  | within found found' ranTested ran =>
    refine Resolves.wrap_plain _ ?_ rfl
    refine (trace.expr (proper.child (mem_of_getElem? found)) ready ranTested).append subset_union_left ?_
    intro wider later _
    exact innerQuery_traced trace (proper.child (mem_of_getElem? found')) (ready.later later) ran

theorem expr_traced (form : ExprForm r tables scope node before value after) :
    Resolves known visible before after [.expr value] := by
  cases form with
  | path kind ran => exact path_traced ready ran
  | @literal constant kind => cases constant <;> exact literal_traced
  | computed kind ran combined => exact combined.traced (exprs_traced trace ready (operands_proper proper) ran)
  | subquery kind form negation => exact negation.traced (subquery_traced trace proper ready form)
  | call kind form =>
    cases form with
    | plain called known alone ran typed => exact (arguments_traced trace proper ready ran).wrap_plain _ rfl
    | inWindow called known windowed allowed ran typed resolved =>
      refine call_traced ((arguments_traced trace proper ready ran).append subset_union_left ?_) allowed
      intro wider later _
      have inside := mem_of_getLast? (Option.filter_eq_some_iff.mp windowed).1
      exact (window_traced trace (proper.child inside) (ready.later later) resolved).resolves

end

/-! ### Tables -/

theorem columns_traced {f : α → Analyze NamedColumn} {items : List α} (ready : Ready known visible scope before)
    (step : ∀ item {before column after}, Succeeds tables (f item) before column after →
      ∃ table name type, Succeeds tables (fresh table name type) before column.column after)
    (ran : Succeeds tables (each f items) before columns after) :
    Resolves known visible before after [introducing (columns.map NamedColumn.column)] := by
  have resolved := each_traced (fun column => [introducing [column.column]]) ready (fun item _ _ _ _ _ _ ran => by
    obtain ⟨table, name, type, made⟩ := step item ran
    exact resolves_fresh made) ran
  refine resolved.congr ?_ ?_ <;>
  · intro column inside
    simpa [mem_gatheredBy_flatMap, eq_comm] using inside

theorem freshColumns_traced {fields : List (String × SqlType)} (ready : Ready known visible scope before)
    (ran : Succeeds tables (freshColumns table fields) before columns after) :
    Resolves known visible before after [introducing (columns.map NamedColumn.column)] := by
  refine columns_traced ready (fun field _ _ _ ran => ?_) ran
  obtain ⟨column, _, made, ran⟩ := ran.bind
  cases ran
  exact ⟨_, _, _, made⟩

theorem conditionNodes_proper (proper : ∀ clause ∈ part, clause.Proper) :
    ∀ test ∈ conditionNodes part, test.Proper := by
  intro test inside
  obtain ⟨clause, given, inside⟩ := mem_flatMap.mp inside
  exact (proper clause (Option.mem_toList.mp given)).child (mem_of_mem_take inside)

theorem childOf?_proper {choose : Surface.Kind → Bool} (proper : node.Proper) :
    ∀ child ∈ node.childOf? choose, child.Proper :=
  fun _ found => proper.child (mem_of_find?_eq_some found)

theorem arrayValue_traced (trace : r.Trace) (proper : node.Proper) (ready : Ready known visible scope before)
    (form : ArrayValueForm r tables scope node before array after) :
    Resolves known visible before after [.expr array] := by
  cases form with
  | path kind ran => exact path_traced ready ran
  | value kind found ran => exact trace.expr (proper.child (mem_of_getElem? found)) ready ran

theorem elements_traced (step : ∀ node {before column after}, Succeeds tables (f node) before column after →
      ∃ table name type, Succeeds tables (fresh table name type) before column after)
    (elementMade : Succeeds tables (fresh table name type) before element middle)
    (offsetMade : Succeeds tables (perhaps f offsetNode) middle offset after) :
    Resolves known visible before after [introducing (element :: offset.toList)] := by
  cases offsetNode with
  | none =>
    obtain ⟨rfl, rfl⟩ := succeeds_perhaps_none.mp offsetMade
    exact resolves_fresh elementMade
  | some node =>
    obtain ⟨column, made, rfl⟩ := succeeds_perhaps_some.mp offsetMade
    obtain ⟨_, _, _, made⟩ := step node made
    refine ((resolves_fresh elementMade).append subset_union_left fun _ _ _ => resolves_fresh made).congr ?_ ?_ <;>
    · intro column inside
      simpa using inside

theorem array_traced (trace : r.Trace) (proper : node.Proper) {start : State} {input : Option Scan}
    {joined : Option (Node × Surface.JoinKind)} {scan : Scan} (joinedProper : ∀ join ∈ joined, join.1.Proper)
    (ready : Ready known visible [] start) (resolved : Resolves known visible start before (input.toList.map .scan))
    (shown : scope.shown = (input.map Scan.columns).getD [])
    (form : ArrayForm r tables node input scope joined before scan seen after) :
    Resolves known visible start after [.scan scan] := by
  obtain ⟨value, typed, elementMade, offsetMade, conditioned, tested⟩ := form
  rename_i array type name element offsetNode offset test outer span valued named made
  have columns : ∀ column ∈ (input.map Scan.columns).getD [], column ∈ heldBy (input.toList.map .scan) := by
    cases input with
    | none => simp
    | some input => simpa using fun column => mem_held_of_mem_columns
  have clauseProper : ∀ clause ∈ joined.bind fun joined => joined.1.childOf? (· = .onClause), clause.Proper := by
    intro clause given
    obtain ⟨join, inside, given⟩ := Option.bind_eq_some_iff.mp given
    exact childOf?_proper (joinedProper join inside) clause given
  have whole : Resolves known visible start after (input.toList.map .scan ++ ([Resolved.Node.expr array] ++
      ([introducing (element :: offset.toList)] ++ test.toList.map .expr))) := by
    refine resolved.append (Subset.refl _) fun wider later held => ?_
    have ready : Ready wider _ scope before := ready.over later held (by rwa [shown])
    refine (arrayValue_traced trace proper ready value).append subset_union_left fun wider later _ => ?_
    have ready := ready.later later
    refine (elements_traced (fun _ _ _ _ made => ⟨_, _, _, made⟩) elementMade offsetMade).append (Subset.refl _)
      fun wider later held => exprs_traced trace ((ready.later later).sees subset_union_left
        (union_subset (ready.later later).within held) fun column listed => ?_) (conditionNodes_proper clauseProper)
        conditioned
    rw [Scope.shown_append] at listed
    rcases mem_append.mp listed with own | new
    · exact .inl (ready.shown scope mem_cons_self column own)
    · exact .inr (by simpa [Scope.shown, arrayRelation, Function.comp_def] using new)
  let top : Resolved.Node :=
    .scan (.array ((input.map Scan.columns).getD [] ++ element :: offset.toList) input array element
    offset test outer span)
  have parts : Resolves known visible start after (top.children ++ [introducing (element :: offset.toList)]) := by
    refine whole.congr ?_ ?_ <;>
    · intro column inside
      simp only [top, children, mem_gatheredBy_append] at inside ⊢
      grind
  refine parts.wrap top (fun column listed => .inr ?_) (by simp +contextual [top, introduced])
  have held := columns column
  simp only [top, Resolved.Node.columns, children, mem_gatheredBy_append, mem_append,
    mem_gatheredBy_cons, mem_held_introducing] at listed ⊢
  grind

theorem source_traced (trace : r.Trace) (proper : node.Proper) (ready : Ready known visible [] before) {scan : Scan}
    (form : SourceForm r tables node before scan seen after) : Resolves known visible before after [.scan scan] := by
  have child {index : Nat} {part : Node} (found : node.children[index]? = some part) : part.Proper :=
    proper.child (mem_of_getElem? found)
  cases form with
  | table kind known made | reference kind known made =>
    refine Resolves.wrap _ (freshColumns_traced ready made) (fun column listed => .inr ?_) ?_
    · simpa [Resolved.Node.columns, Scan.columns, children] using listed
    · simp [introduced]
  | query kind found ran => exact trace.query (child found) ready ran
  | array kind form => exact array_traced trace proper (by simp) ready resolves_nothing rfl form
  | arrayJoin kind foundLeft foundRight isArray ranLeft form =>
    refine array_traced trace (child foundRight) ?_ ready (trace.source (child foundLeft) ready ranLeft)
      (trace.announced.source ranLeft).2 form
    rintro join ⟨⟩
    exact proper
  | @join join leftNode rightNode left leftScope right rightScope test middle ready' after kind foundLeft
      foundRight noArray
      ranLeft ranRight conditioned tested =>
    have shownLeft := (trace.announced.source ranLeft).2
    have shownRight := (trace.announced.source ranRight).2
    have both : Resolves known visible before ready' [.scan left, .scan right] :=
      (trace.source (child foundLeft) ready ranLeft).append subset_union_left fun wider later _ =>
        trace.source (child foundRight) (ready.later later) ranRight
    have columns : ∀ column ∈ left.columns ++ right.columns, column ∈ heldBy [.scan left, .scan right] := by
      intro column listed
      rcases mem_append.mp listed with listed | listed <;> simp [mem_held_of_mem_columns listed]
    have whole :
        Resolves known visible before after ([Resolved.Node.scan left, .scan right] ++ test.toList.map .expr) := by
      refine both.append (Subset.refl _) fun wider later held => ?_
      refine exprs_traced trace (ready.over later held ?_) (conditionNodes_proper (childOf?_proper proper)) conditioned
      rwa [Scope.shown_append, shownLeft, shownRight]
    refine whole.wrap_rows (.scan (.join _ _ left right test _)) fun column listed => ?_
    rcases mem_append.mp listed with listed | listed
    · exact ⟨left, by simp [children], listed⟩
    · exact ⟨right, by simp [children], listed⟩

/-! ### Selections -/

def Selected.tree (selected : Selected) : Resolved.Node :=
  .scan (.project (selected.outputs.map NamedColumn.column) selected.computed .singleRow none)

section

variable (trace : r.Trace) (ready : Ready known visible scope before)

include trace ready

theorem item_traced {item : Node} (proper : item.Proper) {selected : Selected}
    (form : ItemForm r tables scope item before selected after) :
    Resolves known visible before after [selected.tree] := by
  have listing {outputs : List NamedColumn} (shown : ∀ output ∈ outputs, scope.Shows output) :
      Resolves known visible before before [Selected.tree ⟨outputs, [], false⟩] := by
    refine resolves_visible fun column inside => ?_
    obtain ⟨output, listed, rfl⟩ : ∃ output ∈ outputs, output.column = column := by
      simpa [Selected.tree, computing] using inside
    exact ready.shows mem_cons_self (shown output listed)
  cases form with
  | star found kind listed =>
    refine listing fun output chosen => ?_
    rw [← listed] at chosen
    exact mem_flatMap.mp (mem_filter.mp chosen).1
  | dotStar found kind inside listed =>
    refine listing fun output chosen => ?_
    rw [← listed] at chosen
    exact ⟨_, inside, (mem_filter.mp chosen).1⟩
  | column found ran =>
    refine (trace.expr (proper.child (mem_of_getElem? found)) ready ran).congr ?_ ?_ <;>
    · intro column inside
      simp_all [Selected.tree, computing]
  | computed found ran noColumn made =>
    refine ((trace.expr (proper.child (mem_of_getElem? found)) ready ran).append subset_union_left
      fun _ _ _ => resolves_fresh made).congr ?_ ?_ <;>
    · intro column inside
      simp [Selected.tree, computing, Computed.column, Computed.expr] at inside ⊢
      grind

theorem items_traced (proper : ∀ item ∈ items, item.Proper) {selected : List Selected}
    (ran : Succeeds tables (each (selectItem r scope) items.zipIdx) before selected after) :
    Resolves known visible before after [(Selected.join selected).tree] := by
  have resolved := each_traced (fun selected => [selected.tree]) ready (fun entry listed _ _ _ _ ready ran =>
    item_traced trace ready (proper _ (fst_mem_of_mem_zipIdx listed)) (succeeds_selectItem ran)) ran
  refine resolved.congr ?_ ?_ <;>
  · intro column inside
    simp [Selected.tree, Selected.join, mem_gatheredBy_flatMap, mem_held_computing,
      mem_brought_computing] at inside ⊢
    grind

theorem groupItem_traced {entry : Node × Nat} (proper : entry.1.Proper)
    (chosen : ∀ output ∈ outputs, output.column ∈ visible) {group : Computed}
    (ran : Succeeds tables (groupItem r scope outputs entry) before group after) :
    Resolves known visible before after (computing [group]) := by
  obtain ⟨value, middle, column, form, rfl, named⟩ := succeeds_groupItem ran
  have resolved : Resolves known visible before middle [.expr value] := by
    cases form with
    | value ran => exact trace.expr proper ready ran
    | output failed single listed =>
      have same := trace.name tables scope entry.1 before (path_of_singleName single)
      rw [failed] at same
      rw [show middle = before from same]
      refine resolves_visible ?_
      simpa using ⟨ready.within (chosen _ listed), chosen _ listed⟩
  rcases named with ⟨⟨span, rfl⟩, rfl⟩ | ⟨name, made⟩
  · refine resolved.congr ?_ ?_ <;>
    · intro other inside
      simp [computing, Computed.column, Computed.expr] at inside ⊢
      try exact inside
  · refine (resolved.append subset_union_left fun _ _ _ => resolves_fresh made).congr ?_ ?_ <;>
    · intro other inside
      simp [computing, Computed.column, Computed.expr] at inside ⊢
      grind

theorem nameWindows_traced {nodes : List Node} (proper : ∀ node ∈ nodes, node.Proper) (idle : before.analytic = none)
    (ran : Succeeds tables (each (nameWindow r scope) nodes) before units after) :
    ∃ made, Fresh before.nextId after.nextId made ∧ Ready (known ∪ made) visible scope after ∧
      after.outer = before.outer ∧ after.analytic = none := by
  induction nodes generalizing before units known with
  | nil =>
    obtain ⟨-, rfl⟩ := succeeds_each_nil.mp ran
    exact ⟨∅, .none _, ready.later ⟨subset_union_left, rfl, rfl⟩, rfl, idle⟩
  | cons node rest ih =>
    obtain ⟨nodeProper, restProper⟩ := forall_mem_cons.mp proper
    obtain ⟨_, middle, _, first, ranRest, -⟩ := succeeds_each_cons.mp ran
    obtain ⟨spec, last, name, resolved, found, ranWindow, rfl⟩ := succeeds_nameWindow first
    obtain ⟨added, made, step, fresh, settled, -⟩ :=
      window_traced trace (nodeProper.child (mem_of_getElem? found)) ready ranWindow
    obtain rfl := step.allowed idle
    have later : Ready (known ∪ made) visible scope last := ready.later ⟨subset_union_left, step.outer, step.windows⟩
    have ready' : Ready (known ∪ made) visible scope { last with windows := last.windows ++ [(name, resolved)] } := by
      refine ⟨later.within, later.shown, fun entry listed => ?_⟩
      rcases mem_append.mp listed with old | new
      · exact later.windows entry old
      · rw [mem_singleton.mp new]
        refine settled.mono (Subset.refl _) (union_subset (Subset.refl _) fun column brings => ?_)
        simp [computing] at brings
    obtain ⟨made', fresh', done, outer, idle'⟩ := ih ready' restProper (by simp [step.calls, idle]) ranRest
    exact ⟨made ∪ made', fresh.union fresh', union_assoc .. ▸ done, outer.trans step.outer, idle'⟩

theorem groups_traced (proper : ∀ item ∈ items, item.Proper) (chosen : ∀ output ∈ outputs, output.column ∈ visible)
    {groups : List Computed}
    (ran : Succeeds tables (each (groupItem r scope outputs) items.zipIdx) before groups after) :
    Resolves known visible before after (computing groups) := by
  have resolved := each_traced (fun group => computing [group]) ready (fun entry listed _ _ _ _ ready ran =>
    groupItem_traced trace ready (proper _ (fst_mem_of_mem_zipIdx listed)) chosen ran) ran
  refine resolved.congr ?_ ?_ <;>
  · intro column inside
    simpa [mem_gatheredBy_flatMap, mem_held_computing,
      mem_brought_computing] using inside

end

section

variable {column : Column} {span : Option Span} {scan : Scan} {computed : List Computed}

theorem mem_held_filtered : column ∈ (Resolved.Node.scan (filtered span scan test)).held ↔
    column ∈ (Resolved.Node.scan scan).held ∨ column ∈ heldBy (test.toList.map .expr) := by
  cases test with
  | none => simp [filtered]
  | some test =>
    have held := @mem_held_of_mem_columns column scan
    rw [filtered, mem_gathered]
    simp only [Resolved.Node.columns, Scan.columns, children, mem_gatheredBy_cons,
      Option.toList_some, map_cons, map_nil]
    tauto

theorem mem_brought_filtered : column ∈ (Resolved.Node.scan (filtered span scan test)).brought ↔
    column ∈ (Resolved.Node.scan scan).brought ∨ column ∈ broughtBy (test.toList.map .expr) := by
  cases test with
  | none => simp [filtered]
  | some test =>
    rw [filtered, mem_gathered]
    simp [introduced, children]

theorem mem_held_grouped : column ∈ (Resolved.Node.scan (grouped span scan computed)).held ↔
    column ∈ (Resolved.Node.scan scan).held ∨ column ∈ heldBy (computing computed) := by
  have held := @mem_held_of_mem_columns column scan
  rw [grouped, mem_gathered]
  simp only [computing, Resolved.Node.columns, children, mem_gatheredBy_cons, mem_append,
    mem_held_introducing]
  grind

theorem mem_brought_grouped : column ∈ (Resolved.Node.scan (grouped span scan computed)).brought ↔
    column ∈ (Resolved.Node.scan scan).brought ∨ column ∈ broughtBy (computing computed) := by
  rw [grouped, mem_gathered]
  simp only [computing, introduced, children, mem_gatheredBy_cons,
    mem_brought_introducing]
  grind

theorem mem_held_windowed : column ∈ (Resolved.Node.scan (windowed span scan computed)).held ↔
    column ∈ (Resolved.Node.scan scan).held ∨ column ∈ heldBy (computing computed) := by
  have held := @mem_held_of_mem_columns column scan
  unfold windowed
  split
  · rename_i none
    simp [isEmpty_iff.mp none, computing]
  · rw [mem_gathered]
    simp only [computing, Resolved.Node.columns, children, mem_gatheredBy_cons, mem_append,
      mem_held_introducing]
    grind

theorem mem_brought_windowed : column ∈ (Resolved.Node.scan (windowed span scan computed)).brought ↔
    column ∈ (Resolved.Node.scan scan).brought ∨ column ∈ broughtBy (computing computed) := by
  unfold windowed
  split
  · rename_i none
    simp [isEmpty_iff.mp none, computing]
  · rw [mem_gathered]
    simp only [computing, introduced, children, mem_gatheredBy_cons,
      mem_brought_introducing]
    grind

end

theorem qualifyScope_shown (listed : column ∈ (qualifyScope scope outputs).shown) :
    column ∈ scope.shown ∨ ∃ output ∈ outputs, output.column = column := by
  rw [qualifyScope, Scope.shown_append] at listed
  refine (mem_append.mp listed).imp_right fun selected => ?_
  simp only [Scope.shown, flatMap_singleton, mem_map, mem_filter] at selected
  obtain ⟨output, ⟨chosen, -⟩, rfl⟩ := selected
  exact ⟨output, chosen, rfl⟩

theorem Resolves.naming (resolved : Resolves known visible before after trees) (common : List CommonTable) :
    Resolves known visible before { after with common := common } trees := by
  obtain ⟨added, made, step, fresh, traced⟩ := resolved
  exact ⟨added, made, ⟨step.outer, step.windows, step.calls, step.allowed⟩, fresh, traced⟩

theorem setColumn_fresh {op : SetOp} {distinct : Bool} {span : Option Span} {entry : (NamedColumn × NamedColumn) × Nat}
    {column : NamedColumn} (ran : Succeeds tables (setColumn op distinct span entry) before column after) :
    ∃ table name type, Succeeds tables (fresh table name type) before column.column after := by
  obtain ⟨_, _, _, ranFresh, rfl⟩ := succeeds_setColumn.mp ran
  exact ⟨_, _, _, ranFresh⟩

section

variable (trace : r.Trace) (ready : Ready known visible [] before)

include trace ready

theorem selectTables_traced (proper : ∀ clause ∈ part, clause.Proper)
    (ran : Succeeds tables (selectTables r part) before (rows, seen) after) :
    Resolves known visible before after [.scan rows] := by
  cases part with
  | none =>
    obtain ⟨same, rfl⟩ := succeeds_pure.mp ran
    cases same
    exact resolves_nothing.wrap_plain _ rfl
  | some clause =>
    obtain ⟨inner, found, ran⟩ := succeeds_child_bind.mp ran
    exact trace.source ((proper clause rfl).child (mem_of_getElem? found)) ready ran

theorem select_traced (proper : node.Proper) {scan : Scan}
    (form : SelectForm r tables node before scan outputs seen after) :
    Resolves known visible before after [.scan scan] ∧ ∀ column ∈ seen.shown, column ∈ heldBy [.scan scan] := by
  cases form with
  | @mk parts rows seen units list items groups test havingTest qualify needed sourced tested named
      listing grouping having
      qualified split ranTables ranFilter ranWindows listed ranItems ranGroups ranHaving ranQualify boolean unneeded =>
    let clauses := [parts.list, parts.tables, parts.filter, parts.groups, parts.having, parts.qualify, parts.windows]
    have clause {part : Option Node} (among : part ∈ clauses) : ∀ clause ∈ part, clause.Proper := fun clause given =>
      proper.child (SelectParts.clauses_subset split (mem_filterMap.mpr ⟨part, among, given⟩))
    have items_proper {part : Option Node} (among : part ∈ clauses) :
        ∀ item ∈ (part.map Node.children).getD [], item.Proper := by
      cases part with
      | none => simp
      | some part => exact fun _ => (clause among part rfl).child
    have shows : ∀ column ∈ seen.shown, column ∈ heldBy [.scan rows] := by
      rw [(selectTables_scoped trace.announced ranTables).2]
      simpa using fun column => mem_held_of_mem_columns
    have atStart : Ready known visible [] { before with analytic := none, windows := [] } :=
      ⟨ready.within, ready.shown, by simp⟩
    -- The tables and their filter.
    obtain ⟨_, made, step, fresh, traced⟩ : Resolves known visible
      { before with analytic := none, windows := [] } tested
        ([Resolved.Node.scan rows] ++ test.toList.map .expr) := by
      refine (selectTables_traced trace atStart (clause (by simp [clauses])) ranTables).append
        (Subset.refl _) fun wider later held => ?_
      exact exprs_traced trace (atStart.over later held shows)
        (conditionNodes_proper (clause (by simp [clauses]))) ranFilter
    obtain rfl := step.allowed rfl
    have atWindows := (atStart.past step traced).into seen fun column listed =>
      .inr (mem_gatheredBy_append.mpr (.inr (mem_gatheredBy_append.mpr (.inl (shows column listed)))))
    obtain ⟨made₂, fresh₂, atItems, outer₂, -⟩ :=
      nameWindows_traced trace atWindows (items_proper (by simp [clauses])) (by simp [step.calls]) ranWindows
    -- What is selected, with the calls over windows in it.
    obtain ⟨calls, made₃, step₃, fresh₃, traced₃⟩ :=
      items_traced trace (atItems.recall (some [])) (fun _ => (clause (by simp [clauses]) list listed).child) ranItems
    have atGroups := ((atItems.recall (some [])).past step₃ traced₃).recall none
    have chosen : ∀ output ∈ (Selected.join items).outputs,
        output.column ∈ heldBy (computing calls ++ [(Selected.join items).tree]) := by
      intro output inside
      refine mem_gatheredBy_append.mpr (.inr ?_)
      simp [Selected.tree, mem_map_of_mem inside]
    -- What is grouped and asked of the groups.
    obtain ⟨_, made₄, step₄, fresh₄, traced₄⟩ : Resolves _ _ { listing with analytic := none } having
        (computing groups ++ havingTest.toList.map .expr) :=
      (groups_traced trace atGroups (items_proper (by simp [clauses]))
        (fun output inside => .inr (chosen output inside)) ranGroups).append subset_union_left fun wider later _ =>
          exprs_traced trace (atGroups.later later) (conditionNodes_proper (clause (by simp [clauses]))) ranHaving
    obtain rfl := step₄.allowed rfl
    have atQualify := ((atGroups.past step₄ traced₄).recall (some (listing.analytic.getD []))).into
      (qualifyScope seen (Selected.join items).outputs) fun column listed => .inl <| by
        rcases qualifyScope_shown listed with own | ⟨output, selected, rfl⟩
        · exact atGroups.shown seen mem_cons_self column own
        · exact .inr (chosen output selected)
    obtain ⟨more, made₅, step₅, fresh₅, traced₅⟩ := exprs_traced trace atQualify
      (conditionNodes_proper (clause (by simp [clauses]))) ranQualify
    have all : qualified.analytic.getD [] = calls ++ more := by simp [step₅.calls, step₃.calls]
    have whole := traced.chain ((traced₃.chain (traced₄.chain traced₅)).mono (union_assoc ..).subset (Subset.refl _))
    have outer := step₅.outer.trans (step₄.outer.trans (step₃.outer.trans (outer₂.trans step.outer)))
    rw [all]
    refine ⟨⟨[], _, .nothing outer rfl rfl, fresh.union (fresh₂.union (fresh₃.union (fresh₄.union fresh₅))),
      whole.congr (fun column inside => ?_) fun column inside => ?_⟩, fun column listed => ?_⟩
    · cases needed <;>
        simp [groupedRows, mem_held_filtered, mem_held_grouped, mem_held_windowed, Selected.tree] at inside ⊢ <;> grind
    · cases needed <;>
        simp [groupedRows, mem_brought_filtered, mem_brought_grouped, mem_brought_windowed,
          Selected.tree] at inside ⊢ <;>
        grind
    · have := shows column listed
      cases needed <;> simp [groupedRows, mem_held_filtered, mem_held_grouped, mem_held_windowed] at this ⊢ <;> grind

/-! ### Queries -/

theorem nameQueries_traced (proper : ∀ node ∈ nodes, node.Proper)
    (ran : Succeeds tables (each (nameQuery r) nodes) before entries after) :
    Resolves known visible before after (entries.map fun entry => .scan entry.query) := by
  have resolved := each_traced (fun entry : Entry => [.scan entry.query]) ready (fun node inside _ _ _ _ ready ran => by
    obtain ⟨inner, name, scan, columns, middle, found, ranInner, rfl, rfl⟩ := succeeds_nameQuery ran
    exact (trace.query ((proper node inside).child (mem_of_getElem? found)) ready ranInner).naming _) ran
  rwa [← map_eq_flatMap] at resolved

theorem ordered_traced {clause : Option Node} (proper : ∀ key ∈ orderNodes clause, key.Proper) {scan : Scan}
    (resolved : Resolves known visible before middle [.scan scan])
    (listed : outputs.map NamedColumn.column = scan.columns)
    (shown : ∀ column ∈ seen.shown, column ∈ heldBy [.scan scan])
    {keys : List SortKey} {span : Option Span}
    (ran : Succeeds tables (each (orderExpr r outputs seen) (orderNodes clause)) middle (keys.map SortKey.expr) after) :
    Resolves known visible before after [.scan (orderedRows span scan clause keys)] := by
  have whole :
      Resolves known visible before after ([Resolved.Node.scan scan] ++ (keys.map SortKey.expr).map .expr) := by
    rw [map_eq_flatMap (l := keys.map SortKey.expr)]
    refine resolved.append (Subset.refl _) fun wider later held => ?_
    refine each_traced _ (ready.over later held shown) (fun key inside _ _ _ _ ready ran => ?_) ran
    cases succeeds_orderExpr ran with
    | output single chosen =>
      have seen := mem_held_of_mem_columns (listed ▸ mem_map_of_mem chosen)
      have inside : _ ∈ visible ∪ heldBy [.scan scan] := .inr (mem_gatheredBy_cons.mpr (.inl seen))
      exact resolves_visible (by simpa using ⟨ready.within inside, by simpa using inside⟩)
    | value ran => exact trace.expr (proper key inside) ready ran
  cases clause with
  | none =>
    have noKeys : keys = [] := map_eq_nil_iff.mp (succeeds_each_nil.mp ran).1.symm
    simpa [noKeys, orderedRows] using whole
  | some clause =>
    rw [map_map] at whole
    exact whole.wrap_rows _ fun column listed => ⟨scan, mem_cons_self, listed⟩

theorem LimitedRows.traced {nodes : List Node} (proper : ∀ node ∈ nodes, node.Proper) {scan : Scan}
    (resolved : Resolves known visible before middle [.scan scan]) {bounds : List TypedExpr} {span : Option Span}
    (limited : LimitedRows span scan bounds rows) (ran : Succeeds tables (each (r.expr []) nodes) middle bounds after) :
    Resolves known visible before after [.scan rows] := by
  have whole : Resolves known visible before after ([Resolved.Node.scan scan] ++ bounds.map .expr) :=
    resolved.append subset_union_left fun wider later _ => exprs_traced trace (ready.later later) proper ran
  cases limited with
  | all => simpa using whole
  | bounded => exact whole.wrap_rows _ fun column listed => ⟨scan, mem_cons_self, listed⟩

theorem query_traced (proper : node.Proper) {scan : Scan} (form : QueryForm r tables node before scan outputs after) :
    Resolves known visible before after [.scan scan] := by
  cases form with
  | @mk parts bodyNode unsorted outputs seen bounds keys rows named bodied sorted last entries split
      ranEntries given ranBody
      ranOrder ranLimit limited =>
    have within := QueryParts.within_of split
    have entryProper : ∀ entry ∈ parts.entries, entry.Proper := by
      intro entry inside
      obtain ⟨clause, listed, -, inside⟩ := within.entries entry inside
      exact (proper.child listed).child inside
    have orderProper : ∀ key ∈ orderNodes parts.order, key.Proper := by
      intro key inside
      obtain ⟨clause, given, inside⟩ := mem_flatMap.mp inside
      obtain ⟨item, listed, inside⟩ := mem_flatMap.mp inside
      exact ((proper.child (within.order clause (Option.mem_toList.mp given))).child listed).child
        (mem_of_mem_take inside)
    have limitProper : ∀ bound ∈ limitNodes parts.limit, bound.Proper := by
      intro bound inside
      obtain ⟨clause, given, inside⟩ := mem_flatMap.mp inside
      exact (proper.child (within.limit clause (Option.mem_toList.mp given))).child (mem_of_mem_take inside)
    have whole : Resolves known visible before last
        (entries.map (fun entry => Resolved.Node.scan entry.query) ++ [Resolved.Node.scan rows]) := by
      refine (nameQueries_traced trace ready entryProper ranEntries).append subset_union_left fun wider later _ => ?_
      have ready := ready.later later
      obtain ⟨resolved, shown⟩ := trace.body (proper.child (within.body bodyNode given)) ready ranBody
      exact limited.traced trace ready limitProper
        (ordered_traced trace ready orderProper resolved (trace.announced.body ranBody).2 shown ranOrder) ranLimit
    refine Resolves.naming ?_ _
    split
    · rename_i none
      simpa [isEmpty_iff.mp none] using whole
    · exact whole.wrap_rows _ fun column listed => ⟨rows, by simp [children], listed⟩

theorem body_traced (proper : node.Proper) {scan : Scan}
    (form : BodyForm r tables node before scan outputs seen after) :
    Resolves known visible before after [.scan scan] ∧ ∀ column ∈ seen.shown, column ∈ heldBy [.scan scan] := by
  have child {index : Nat} {part : Node} (found : node.children[index]? = some part) : part.Proper :=
    proper.child (mem_of_getElem? found)
  cases form with
  | select kind form => exact select_traced trace ready proper form
  | query kind form => exact ⟨query_traced trace ready proper form, by simp [Scope.shown]⟩
  | setOperation kind foundLeft foundRight ranLeft ranRight sameLength made =>
    refine ⟨?_, by simp [Scope.shown]⟩
    have whole := (trace.body (child foundLeft) ready ranLeft).1.append subset_union_left fun wider later _ =>
      (trace.body (child foundRight) (ready.later later) ranRight).1.append subset_union_left fun wider later' _ =>
        columns_traced ((ready.later later).later later') (fun _ _ _ _ ran => setColumn_fresh ran) made
    refine Resolves.wrap _ whole (fun column listed => .inr ?_) (by simp [introduced])
    simp_all [Resolved.Node.columns, Scan.columns, children]

end

theorem resolvers_trace (height : Nat) : (resolvers height).Trace := by
  induction height with
  | zero =>
    exact ⟨fun _ _ ran => (succeeds_malformed.mp ran).elim, fun _ _ ran => (succeeds_malformed.mp ran).elim,
      fun _ _ ran => (succeeds_malformed.mp ran).elim, fun _ _ ran => (succeeds_malformed.mp ran).elim,
        resolvers_scoped 0,
      (resolvers_collect 0).name⟩
  | succ height ih =>
    exact ⟨fun proper ready ran => expr_traced ih proper ready (succeeds_expr ran),
      fun proper ready ran => query_traced ih ready proper (succeeds_query ran),
      fun proper ready ran => body_traced ih ready proper (succeeds_body ran),
      fun proper ready ran => source_traced ih proper ready (succeeds_source ran), resolvers_scoped _,
      (resolvers_collect _).name⟩

/-! ### Statements -/

theorem statement_traced (proper : node.Proper) (allowed : before.analytic = none) (windows : before.windows = [])
    (ran : Succeeds tables (statement node) before resolved after) :
    ∃ made, Fresh before.nextId after.nextId made ∧
      ∀ column ∈ resolved.columns, column ∈ made ∧ column ∈ resolved.introduced := by
  obtain ⟨queryNode, found, ranQuery⟩ := succeeds_statement ran
  have ready : Ready ∅ ∅ [] { before with common := [], outer := [] } :=
    ⟨Subset.refl _, by simp [Scope.shown], by simp [windows]⟩
  obtain ⟨added, made, step, fresh, traced⟩ :=
    (resolvers_trace _).query (proper.child (mem_of_getElem? found)) ready ranQuery
  obtain rfl := step.allowed allowed
  have listed := ((resolvers_scoped _).query ranQuery).2
  refine ⟨made, fresh, fun column occurs => ?_⟩
  have held : column ∈ heldBy [.scan resolved.query] := by
    rcases mem_gathered.mp (Resolved.Statement.mem_columns.mp occurs) with output | below
    · rw [Resolved.Node.columns, listed] at output
      simpa using mem_held_of_mem_columns output
    · exact below
  have whole : column ∈ heldBy (computing [] ++ [Resolved.Node.scan resolved.query]) :=
    mem_gatheredBy_append.mpr (.inr held)
  refine ⟨(traced.known whole).resolve_left (by simp), Resolved.Statement.mem_introduced.mpr ?_⟩
  have brought := (traced.introduced whole).resolve_left (by simp)
  exact mem_gathered.mpr (.inr (by simpa [computing, children] using brought))

/-- No two of the statements share a number, and within a statement a number stands for one column, which the statement
introduces. -/
theorem statements_traced {nodes : List Node} (proper : ∀ node ∈ nodes, node.Proper) {state : State}
    (allowed : state.analytic = none) (windows : state.windows = []) :
    ((statements tables state nodes).1.filterMap Except.toOption).Pairwise
        (fun first second => ∀ column ∈ first.columns, ∀ other ∈ second.columns, column.id ≠ other.id) ∧
      ∀ resolved ∈ (statements tables state nodes).1.filterMap Except.toOption,
        ∀ column ∈ resolved.columns, state.nextId ≤ column.id ∧ column ∈ resolved.introduced ∧
          ∀ other ∈ resolved.columns, column.id = other.id → column = other := by
  induction nodes generalizing state with
  | nil => simp [statements]
  | cons node rest ih =>
    obtain ⟨nodeProper, restProper⟩ := forall_mem_cons.mp proper
    have kept := keptByStatement_statement node tables state
    cases outcome : (statement node).outcome tables state with
    | mk result next =>
      rw [outcome] at kept
      obtain ⟨added, calls⟩ := kept.calls
      have rested : next.analytic = none ∧ next.windows = [] :=
        ⟨calls.trans (by rw [allowed]; rfl), kept.windows.trans windows⟩
      obtain ⟨apart, traced⟩ := ih restProper rested.1 rested.2
      have results : (statements tables state (node :: rest)).1 = result :: (statements tables next rest).1 := by
        simp [statements, outcome]
      have counted : state.nextId ≤ next.nextId := kept.counted
      rw [results]
      cases result with
      | error failure =>
        rw [filterMap_cons_none (f := Except.toOption) (a := Except.error failure) rfl]
        refine ⟨apart, fun resolved listed column occurs => ?_⟩
        obtain ⟨above, known⟩ := traced resolved listed column occurs
        exact ⟨Nat.le_trans counted above, known⟩
      | ok resolved =>
        obtain ⟨made, fresh, own⟩ := statement_traced nodeProper allowed windows outcome
        rw [filterMap_cons_some (f := Except.toOption) (a := Except.ok resolved) rfl]
        refine ⟨pairwise_cons.mpr ⟨fun later listed column occurs other occurs' => ?_, apart⟩, ?_⟩
        · have below := (fresh.within column (own column occurs).1).2
          have above := (traced later listed other occurs').1
          omega
        · refine forall_mem_cons.mpr ⟨fun column occurs => ?_, fun later listed column occurs => ?_⟩
          · refine ⟨(fresh.within column (own column occurs).1).1, (own column occurs).2, fun other occurs' => ?_⟩
            exact fresh.unique column (own column occurs).1 other (own other occurs').1
          · obtain ⟨above, known⟩ := traced later listed column occurs
            exact ⟨Nat.le_trans counted above, known⟩

end SqlLens.Analysis
