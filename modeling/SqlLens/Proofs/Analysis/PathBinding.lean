import SqlLens.Proofs.Analysis.Inversion
import SqlLens.Proofs.Text.Case

/-!
Which column a path stands for.

A path is looked up in the innermost scope that knows its first name. Of several tables with that name the first one is
taken, and of several columns of one table the first one (`Scope.Reads`); only columns of different tables are rivals
that keep a path from being resolved. Nothing is guessed where names do not repeat (`Scope.Distinct`), but of two
columns of one name in a subquery a path reads the first.
-/

namespace SqlLens.Analysis

open List
open Resolved (NamedColumn TypedExpr)
open Surface (Node)

def Scope.relationsNamed (scope : Scope) (name : String) : List Relation :=
  scope.filter fun relation => relation.name.any (Text.sameName · name)

def Relation.columnsNamed (relation : Relation) (name : String) : List NamedColumn :=
  relation.columns.filter fun column => Text.sameName column.name name

/-- The names of a path stand for one column of a scope and for no other. -/
inductive Scope.Means (seen : Scope) : List (String × Option Span) → NamedColumn → Prop where
  | qualified (table : seen.relationsNamed first = [relation]) (column : relation.columnsNamed name = [found]) :
      Means seen ((first, place) :: (name, columnPlace) :: rest) found
  | bare (free : seen.relationsNamed first = []) (column : seen.flatMap (·.columnsNamed first) = [found]) :
      Means seen ((first, place) :: rest) found

/-- The names of a path stand for the first column of their name. If there is no table of the first name, all columns of
that name are in one table. -/
inductive Scope.Reads (seen : Scope) : List (String × Option Span) → NamedColumn → Prop where
  | qualified (table : (seen.relationsNamed first).head? = some relation)
      (column : (relation.columnsNamed name).head? = some found) :
      Reads seen ((first, place) :: (name, columnPlace) :: rest) found
  | bare (free : seen.relationsNamed first = []) (inside : relation ∈ seen)
      (whole : seen.flatMap (·.columnsNamed first) = relation.columnsNamed first)
      (column : (relation.columnsNamed first).head? = some found) : Reads seen ((first, place) :: rest) found

/-- No two tables have one name, and no two columns of one table. -/
structure Scope.Distinct (scope : Scope) : Prop where
  tables : scope.Pairwise fun a b => ∀ x ∈ a.name, ∀ y ∈ b.name, Text.sameName x y = false
  columns : ∀ relation ∈ scope, relation.columns.Pairwise fun a b => Text.sameName a.name b.name = false

variable {scope : Scope} {name : String} {found : NamedColumn}

theorem Relation.column?_eq (relation : Relation) (name : String) :
    relation.column? name = (relation.columnsNamed name).head? := head?_filter.symm

theorem Scope.relation?_eq (scope : Scope) (name : String) : scope.relation? name = (scope.relationsNamed name).head? :=
  head?_filter.symm

theorem Scope.columnsNamed_eq_singleton (only : scope.columnsNamed name = [found]) : ∃ relation ∈ scope,
    relation.column? name = some found ∧ scope.flatMap (·.columnsNamed name) = relation.columnsNamed name := by
  obtain ⟨front, relation, back, rfl, before, here, behind⟩ := filterMap_eq_cons_iff.mp only
  have without {part : Scope} (none : ∀ other ∈ part, other.column? name = none) :
      part.flatMap (·.columnsNamed name) = [] := by
    refine flatMap_eq_nil_iff.mpr fun other inside => head?_eq_none_iff.mp ?_
    rw [← Relation.column?_eq, none other inside]
  refine ⟨relation, by simp, here, ?_⟩
  rw [flatMap_append, flatMap_cons, without before, without (filterMap_eq_nil_iff.mp behind)]
  simp

theorem filter_eq_singleton {items : List α} (distinct : items.Pairwise R)
    (clash : ∀ {a b}, p a → p b → ¬R a b) (head : (items.filter p).head? = some first) :
    items.filter p = [first] := by
  have apart := distinct.filter p
  have passes : ∀ item ∈ items.filter p, p item = true := fun _ inside => (mem_filter.mp inside).2
  obtain ⟨rest, kept⟩ := head?_eq_some_iff.mp head
  rw [kept] at apart passes ⊢
  cases rest with
  | nil => rfl
  | cons second rest =>
    exact absurd (rel_of_pairwise_cons apart mem_cons_self)
      (clash (passes first (by simp)) (passes second (by simp)))

theorem Scope.Picks.reads (picks : scope.Picks parts found) : scope.Reads parts found := by
  cases picks with
  | qualified known named =>
    rw [Scope.relation?_eq] at known
    rw [Relation.column?_eq] at named
    exact .qualified known named
  | bare free only =>
    obtain ⟨relation, inside, named, whole⟩ := Scope.columnsNamed_eq_singleton only
    rw [Scope.relation?_eq, head?_eq_none_iff] at free
    rw [Relation.column?_eq] at named
    exact .bare free inside whole named

theorem Scope.Reads.means {parts : List (String × Option Span)} (reads : scope.Reads parts found)
    (distinct : scope.Distinct) : scope.Means parts found := by
  have same {x y name : String} (left : Text.sameName x name = true) (right : Text.sameName y name = true) :
      Text.sameName x y = true := (Text.sameName_congr left right).symm.trans (Text.sameName_refl name)
  have only {relation : Relation} {name : String} (inside : relation ∈ scope)
      (first : (relation.columnsNamed name).head? = some found) : relation.columnsNamed name = [found] :=
    filter_eq_singleton (distinct.columns relation inside) (fun left right => by simp [same left right]) first
  cases reads with
  | qualified table column =>
    refine .qualified (filter_eq_singleton distinct.tables (fun {a b} left right apart => ?_) table)
      (only (mem_filter.mp (mem_of_mem_head? table)).1 column)
    obtain ⟨x, named, left⟩ := (Option.any_eq_true _ _).mp left
    obtain ⟨y, named', right⟩ := (Option.any_eq_true _ _).mp right
    simpa [same left right] using apart x named y named'
  | bare free inside whole column => exact .bare free (whole.trans (only inside column))

theorem Scope.Picks.knows (picks : scope.Picks ((first, place) :: rest) found) : scope.knows first := by
  cases picks with
  | qualified known => simp [Scope.knows, known]
  | bare _ only => simp [Scope.knows, only]

theorem find?_of_scopeFor (known : (scopeFor name scope outer).knows name) :
    (scope :: outer).find? (·.knows name) = some (scopeFor name scope outer) := by
  unfold scopeFor at known ⊢
  cases here : (scope :: outer).find? (·.knows name) with
  | some seen => rfl
  | none =>
    rw [here] at known
    exact absurd known (find?_eq_none.mp here scope mem_cons_self)

/-- A path that is resolved reads the first column of its name, or a field of it, in the innermost scope that knows its
first name. Where names do not repeat there is no other column it could stand for. -/
theorem path_reads_first_of_name {tables : Lookup} {node : Node} {before after : State} {value : TypedExpr}
    (ran : Succeeds tables (path scope node) before value after) :
    ∃ first place rest seen found span, pathParts node = (first, place) :: rest ∧
      (scope :: before.outer).find? (·.knows first) = some seen ∧ FieldsFrom (.column found.column span) value ∧
      seen.Reads (pathParts node) found ∧ (seen.Distinct → seen.Means (pathParts node) found) := by
  obtain ⟨⟨first, place, rest, parts, found, span, picks, fields⟩, -⟩ := succeeds_path_picks ran
  exact ⟨first, place, rest, _, found, span, parts, find?_of_scopeFor (parts ▸ picks).knows, fields, picks.reads,
    picks.reads.means⟩

private def twoColumns (second : String) : Scope :=
  [⟨some "t", [⟨"a", ⟨1, "t", "a", .int64⟩⟩, ⟨second, ⟨2, "t", second, .string⟩⟩]⟩]

private def pathTo (names : List String) : Node := .mk .path none (names.map fun name => .leaf (.identifier name) none)

theorem path_reads_second_column : ∃ value found span,
    Succeeds (fun _ => none) (path (twoColumns "b") (pathTo ["T", "B"])) .initial value .initial ∧
      FieldsFrom (.column found.column span) value ∧ (twoColumns "b").Means (pathParts (pathTo ["T", "B"])) found := by
  have ran : Succeeds (fun _ => none) (path (twoColumns "b") (pathTo ["T", "B"])) .initial _ .initial := rfl
  have distinct : (twoColumns "b").Distinct := ⟨by simp [twoColumns], by simp [twoColumns]; decide⟩
  obtain ⟨_, _, _, seen, found, span, parts, known, fields, -, means⟩ := path_reads_first_of_name ran
  cases parts
  cases known
  exact ⟨_, found, span, ran, fields, means distinct⟩

/-- Of two columns of one name the first is taken. -/
theorem repeated_name_reads_first :
    (∃ value, Succeeds (fun _ => none) (path (twoColumns "a") (pathTo ["a"])) .initial value
    .initial) ∧ ((twoColumns "a").flatMap (·.columnsNamed "a")).length = 2 := ⟨⟨_, rfl⟩, by decide⟩

end SqlLens.Analysis
