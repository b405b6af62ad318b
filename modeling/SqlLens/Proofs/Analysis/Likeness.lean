import Mathlib.Data.List.Forall2
import SqlLens.Proofs.Analysis.Outcome
import SqlLens.Proofs.Resolved.WellTyped
import SqlLens.Proofs.Text.Case

/-!
What counts as alike when two analyses are compared.

A `Likeness` says which names, column numbers, expressions and scans are alike. What is built of them, such as scopes
and states, is alike if its parts are. A `Comparison` says besides which trees are compared. It is `Congruent` if
nothing that the analysis asks tells apart what is alike, and if what the analysis builds of what is alike is alike
again. It may also ask that expressions are well typed, or resolved from certain places (`Likeness.Spot`).
-/

namespace SqlLens

open Option (Rel)
open List
open Resolved (Column NamedColumn Scan TypedExpr Computed SortKey Entry SubqueryType Unites)
open Surface (Node Kind)

/-! ### Lists and options -/

section Lists

variable {α β γ δ : Type} {R : α → β → Prop} {S : γ → δ → Prop} {items : List α} {others : List β}

section

variable (alike : Forall₂ R items others)

include alike

theorem find_alike (same : ∀ {a b}, R a b → q b = p a) : Rel R (items.find? p) (others.find? q) := by
  induction alike with
  | nil => exact .none
  | cons first _ ih =>
    rw [find?_cons, find?_cons, same first]
    split
    · exact .some first
    · exact ih

theorem any_alike (same : ∀ {a b}, R a b → q b = p a) : others.any q = items.any p := by
  induction alike with
  | nil => rfl
  | cons first _ ih => rw [any_cons, any_cons, same first, ih]

theorem isEmpty_alike : others.isEmpty = items.isEmpty := by cases alike <;> rfl

theorem getElem_alike (index : Nat) : Rel R items[index]? others[index]? := by
  induction alike generalizing index with
  | nil => exact .none
  | cons first _ ih =>
    cases index with
    | zero => exact .some first
    | succ index => simpa using ih index

theorem getLast_alike : Rel R items.getLast? others.getLast? := by
  rw [getLast?_eq_getElem?, getLast?_eq_getElem?, alike.length_eq]
  exact getElem_alike alike _

theorem zipIdx_alike (index : Nat) :
    Forall₂ (fun a b => R a.1 b.1 ∧ b.2 = a.2) (items.zipIdx index) (others.zipIdx index) := by
  induction alike generalizing index with
  | nil => exact .nil
  | cons first _ ih => exact .cons ⟨first, rfl⟩ (ih _)

end

theorem map_alike (alike : Forall₂ R items others) (same : ∀ {a b}, R a b → S (f a) (g b)) :
    Forall₂ S (items.map f) (others.map g) := rel_map (fun _ _ first => same first) alike

theorem filterMap_alike (alike : Forall₂ R items others) (same : ∀ {a b}, R a b → Rel S (f a) (g b)) :
    Forall₂ S (items.filterMap f) (others.filterMap g) :=
  rel_filterMap (fun _ _ first => same first) alike

theorem filter_alike (alike : Forall₂ R items others) (same : ∀ {a b}, R a b → q b = p a) :
    Forall₂ R (items.filter p) (others.filter q) := by
  refine rel_filter (fun _ _ first => ?_) alike
  simp [same first]

variable {a : Option α} {b : Option β}

theorem isSome_alike (alike : Rel R a b) : b.isSome = a.isSome := by cases alike <;> rfl

theorem or_alike (alike : Rel R a b) (second : Rel R a' b') : Rel R (a.or a') (b.or b') := by
  cases alike with
  | none => exact second
  | some first => exact .some first

theorem getD_alike (alike : Rel R a b) (other : R x y) : R (a.getD x) (b.getD y) := by
  cases alike with
  | none => exact other
  | some first => exact first

theorem bind_alike (alike : Rel R a b) (rest : ∀ {x y}, R x y → Rel S (f x) (g y)) :
    Rel S (a.bind f) (b.bind g) := by
  cases alike with
  | none => exact .none
  | some first => exact rest first

theorem option_alike (alike : Rel R a b) (same : ∀ {x y}, R x y → S (f x) (g y)) :
    Rel S (a.map f) (b.map g) := by
  cases alike with
  | none => exact .none
  | some first => exact .some (same first)

theorem option_refl {R : α → α → Prop} (same : ∀ x, R x x) : Rel R a a := by
  cases a with
  | none => exact .none
  | some x => exact .some (same x)

theorem rel_cases (alike : Rel R a b) : a = none ∧ b = none ∨ ∃ x y, a = some x ∧ b = some y ∧ R x y := by
  cases alike with
  | none => exact .inl ⟨rfl, rfl⟩
  | some first => exact .inr ⟨_, _, rfl, rfl, first⟩

end Lists

/-- Kinds that are the same up to the names that they carry. -/
inductive Surface.Kind.Alike (Names : String → String → Prop) : Kind → Kind → Prop where
  | same (kind : Kind) : Alike Names kind kind
  | identifier (named : Names a b) : Alike Names (.identifier a) (.identifier b)
  | aliasName (named : Names a b) : Alike Names (.aliasName a) (.aliasName b)
  | withEntry (named : Names a b) : Alike Names (.withEntry a) (.withEntry b)
  | namedWindow (named : Names a b) : Alike Names (.namedWindow a) (.namedWindow b)
  | windowSpec (named : Names a b) : Alike Names (.windowSpec (some a)) (.windowSpec (some b))
  | typeName (named : Names a b) : Alike Names (.typeName a) (.typeName b)
  | interval (named : Names a b) : Alike Names (.interval a) (.interval b)

def Analysis.Fault.missingTable? : Fault → Option String
  | unknownTable path => some path
  | _ => none

namespace Analysis

/-- What counts as alike in two analyses. -/
structure Likeness where
  Names : String → String → Prop
  Numbers : Nat → Nat → Prop
  /-- Where failures may be blamed, and what expressions may be resolved from. -/
  Spot : Option Span → Prop
  Known : String → Prop
  /-- Whether computed columns have to have the types of their expressions. -/
  Typed : Prop
  Exprs : TypedExpr → TypedExpr → Prop
  Scans : Scan → Scan → Prop

/-- What counts as alike, and the trees that are compared. -/
structure Comparison extends Likeness where
  Trees : Node → Node → Prop
  Low : Node → Prop

def Comparison.Parts (like : Comparison) (left right : Node) : Prop := like.Trees left right ∧ like.Low left

namespace Likeness

variable (like : Likeness)

structure Columns (left right : Column) : Prop where
  number : like.Numbers left.id right.id
  table : like.Names left.table right.table
  name : like.Names left.name right.name
  type : right.type = left.type

structure Outputs (left right : NamedColumn) : Prop where
  name : like.Names left.name right.name
  column : like.Columns left.column right.column

structure Relations (left right : Relation) : Prop where
  name : Rel like.Names left.name right.name
  columns : Forall₂ like.Outputs left.columns right.columns

abbrev Scopes : Scope → Scope → Prop := Forall₂ like.Relations

structure Commons (left right : CommonTable) : Prop where
  known : like.Known left.name
  name : like.Names left.name right.name
  columns : Forall₂ like.Outputs left.columns right.columns

structure Keys (left right : SortKey) : Prop where
  expr : like.Exprs left.expr right.expr
  descending : right.descending = left.descending

structure Windows (left right : Window) : Prop where
  partition : Forall₂ like.Exprs left.partition right.partition
  order : Forall₂ like.Keys left.order right.order

structure Computeds (left right : Computed) : Prop where
  column : like.Columns left.column right.column
  expr : like.Exprs left.expr right.expr
  type : like.Typed → left.column.type = left.expr.type

structure Entries (left right : Entry) : Prop where
  name : like.Names left.name right.name
  query : like.Scans left.query right.query

structure Tests (left right : TypedExpr) : Prop where
  expr : like.Exprs left right
  type : left.type.IsCondition

structure States (left right : State) : Prop where
  number : like.Numbers left.nextId right.nextId
  common : Forall₂ like.Commons left.common right.common
  outer : Forall₂ like.Scopes left.outer right.outer
  analytic : Rel (Forall₂ like.Computeds) left.analytic right.analytic
  windows : Forall₂ (fun entry entry' => like.Names entry.1 entry'.1 ∧ like.Windows entry.2 entry'.2)
    left.windows right.windows

structure Queries (left right : Scan × List NamedColumn) : Prop where
  scan : like.Scans left.1 right.1
  outputs : Forall₂ like.Outputs left.2 right.2
  columns : left.2.map NamedColumn.column = left.1.columns

structure Bodies (left right : Scan × List NamedColumn × Scope) : Prop where
  query : like.Queries (left.1, left.2.1) (right.1, right.2.1)
  scope : like.Scopes left.2.2 right.2.2

structure Sources (left right : Scan × Scope) : Prop where
  scan : like.Scans left.1 right.1
  scope : like.Scopes left.2 right.2

structure Selections (left right : Selected) : Prop where
  outputs : Forall₂ like.Outputs left.outputs right.outputs
  computed : Forall₂ like.Computeds left.computed right.computed
  aggregate : right.aggregate = left.aggregate

structure Statements (left right : Resolved.Statement) : Prop where
  query : like.Queries (left.query, left.outputs) (right.query, right.outputs)
  span : right.span = left.span

def Literal : Prop := ∀ {a b}, like.Names a b → b = a

structure Failures (left right : Failure) : Prop where
  span : right.span = left.span
  spot : like.Spot left.span
  missing : right.fault.missingTable? = left.fault.missingTable?
  same : like.Literal → right = left

end Likeness

/-- The analysis preserves the likeness: what it asks of what is alike has the same answer, and what it builds of it is
alike. -/
structure Comparison.Congruent (like : Comparison) : Prop where
  refl : ∀ name, like.Names name name
  folded : like.Names a b → Text.sameName a b = true
  analytic : like.Names a b → (b = "$analytic" ↔ a = "$analytic")
  next : like.Numbers i j → like.Numbers (i + 1) (j + 1)
  kind : like.Trees n n' → Kind.Alike like.Names n.kind n'.kind
  span : like.Trees n n' → n'.span = n.span
  spot : like.Trees n n' → like.Spot n.span
  nowhere : like.Spot none
  reaches : like.Trees n n' → ∀ part ∈ pathParts n,
    like.Spot part.2 ∧ like.Spot (reach ((n.span.map Span.start).getD 0) part.2)
  children : like.Trees n n' → Forall₂ like.Parts n.children n'.children
  tablePath : like.Trees n n' → n.kind = .tablePath → n'.tablePath?.map Node.names = n.tablePath?.map Node.names
  known : like.Trees n n' → n.kind = .withClause → ∀ entry ∈ n.children, ∀ name ∈ entry.name?, like.Known name
  type : like.Exprs e e' → e'.type = e.type
  exprSpan : like.Exprs e e' → e'.span = e.span ∧ like.Spot e.span
  hasAggregate : like.Exprs e e' → e'.hasAggregate = e.hasAggregate
  form : like.Exprs e e' →
    (∃ c c' s, e = .column c s ∧ e' = .column c' s ∧ like.Columns c c') ∨
      (∀ c s, e ≠ .column c s) ∧ ∀ c s, e' ≠ .column c s
  columns : like.Scans q q' → Forall₂ like.Columns q.columns q'.columns
  literal : like.Spot s → like.Exprs (.literal text t s) (.literal text t s)
  column : like.Columns c c' → like.Spot s → like.Exprs (.column c s) (.column c' s)
  field : like.Exprs e e' → like.Names a b → e.type.HasField a t → like.Spot s →
    like.Exprs (.field e a t s) (.field e' b t s)
  cast : like.Exprs e e' → t ≠ .unknown → like.Spot s → like.Exprs (.cast e t safe s) (.cast e' t safe s)
  call : Forall₂ like.Exprs es es' →
    (f ≠ Function.case → f ≠ Function.makeArray → f.Gives (es.map TypedExpr.type) t) → like.Spot s →
    like.Exprs (.call f es t s) (.call f es' t s)
  analyticCall : Forall₂ like.Exprs es es' → like.Windows w w' → f.Gives (es.map TypedExpr.type) t → like.Spot s →
    like.Exprs (.analyticCall f es w.partition w.order t s) (.analyticCall f es' w'.partition w'.order t s)
  subquery : like.Scans q q' → Rel like.Exprs e e' → SubqueryType.Gives k q.columns t → like.Spot s →
    like.Exprs (.subquery k q e t s) (.subquery k q' e' t s)
  singleRow : like.Scans .singleRow .singleRow
  table : Rel like.Names a b → Forall₂ like.Columns cs cs' →
    like.Scans (.table name a cs s) (.table name b cs' s)
  reference : Forall₂ like.Columns cs cs' → like.Names a a' → like.Names b b' →
    like.Scans (.reference cs a b s) (.reference cs' a' b' s)
  array : Forall₂ like.Columns cs cs' → Rel like.Scans q q' → like.Exprs e e' → like.Columns c c' →
    Rel like.Columns i i' → Rel like.Tests on on' → e.type.HasElement c.type → (∀ c ∈ i, c.type = .int64) →
    like.Scans (.array cs q e c i on outer s) (.array cs' q' e' c' i' on' outer s)
  join : Forall₂ like.Columns cs cs' → like.Scans l l' → like.Scans r r' → Rel like.Tests on on' →
    like.Scans (.join cs k l r on s) (.join cs' k l' r' on' s)
  project : Forall₂ like.Columns cs cs' → Forall₂ like.Computeds ds ds' → like.Scans q q' →
    like.Scans (.project cs ds q s) (.project cs' ds' q' s)
  filter : Forall₂ like.Columns cs cs' → like.Scans q q' → like.Tests e e' →
    like.Scans (.filter cs q e s) (.filter cs' q' e' s)
  aggregate : Forall₂ like.Columns cs cs' → like.Scans q q' → Forall₂ like.Computeds ds ds' →
    like.Scans (.aggregate cs q ds s) (.aggregate cs' q' ds' s)
  window : Forall₂ like.Columns cs cs' → like.Scans q q' → Forall₂ like.Computeds ds ds' →
    like.Scans (.analytic cs q ds s) (.analytic cs' q' ds' s)
  orderBy : Forall₂ like.Columns cs cs' → like.Scans q q' → Forall₂ like.Keys ks ks' →
    like.Scans (.orderBy cs q ks s) (.orderBy cs' q' ks' s)
  limit : Forall₂ like.Columns cs cs' → like.Scans q q' → like.Exprs e e' → Rel like.Exprs i i' →
    like.Scans (.limit cs q e i s) (.limit cs' q' e' i' s)
  common : Forall₂ like.Columns cs cs' → Forall₂ like.Entries ds ds' → like.Scans q q' →
    like.Scans (.common cs ds q s) (.common cs' ds' q' s)
  setOperation : Forall₂ like.Columns cs cs' → like.Scans l l' → like.Scans r r' → Unites cs l.columns r.columns →
    like.Scans (.setOperation cs op d l r s) (.setOperation cs' op d l' r' s)

namespace Comparison.Congruent

variable {like : Comparison} (congruent : like.Congruent) {node node' : Node}

/-! ### Trees -/

include congruent

theorem sameName (left : like.Names a a') (right : Text.sameName b b') :
    Text.sameName a' b' = Text.sameName a b := Text.sameName_congr (congruent.folded left) right

theorem kindName {kind kind' : Kind} (alike : Kind.Alike like.Names kind kind') :
    Rel like.Names kind.name? kind'.name? := by
  cases alike with
  | same => exact option_refl congruent.refl
  | identifier named | aliasName named | withEntry named | namedWindow named => exact .some named
  | windowSpec | typeName | interval => exact .none

theorem nodeName (trees : like.Trees node node') : Rel like.Names node.name? node'.name? :=
  congruent.kindName (congruent.kind trees)

theorem childOf (same : ∀ {kind kind'}, Kind.Alike like.Names kind kind' → test kind' = test kind)
    (trees : like.Trees node node') : Rel like.Parts (node.childOf? test) (node'.childOf? test) :=
  find_alike (congruent.children trees) fun deeper => same (congruent.kind deeper.1)

section

variable (trees : like.Trees node node')

include trees

theorem aliasName : Rel like.Names node.alias? node'.alias? :=
  bind_alike (congruent.childOf (fun alike => by cases alike <;> rfl) trees) fun deeper => congruent.nodeName deeper.1

theorem names : Forall₂ like.Names node.names node'.names :=
  filterMap_alike (congruent.children trees) fun deeper => congruent.nodeName deeper.1

theorem lastName : Rel like.Names node.names.getLast? node'.names.getLast? :=
  getLast_alike (congruent.names trees)

theorem dotted : Text.sameName node.dotted node'.dotted :=
  Text.sameName_join ((congruent.names trees).imp fun _ _ => congruent.folded)

theorem dotted_eq (literal : like.Literal) : node'.dotted = node.dotted := by
  have same : Forall₂ (· = ·) node.names node'.names :=
    (congruent.names trees).imp fun _ _ named => (literal named).symm
  rw [forall₂_eq_eq_eq] at same
  rw [Node.dotted, Node.dotted, same]

theorem pathParts :
    Forall₂ (fun part part' => like.Names part.1 part'.1 ∧ part'.2 = part.2) (pathParts node) (pathParts node') := by
  refine filterMap_alike (congruent.children trees) fun {part part'} deeper => ?_
  have kind := congruent.kind deeper.1
  have span := congruent.span deeper.1
  obtain ⟨own, place, children⟩ := part
  obtain ⟨own', place', children'⟩ := part'
  cases kind with
  | same => cases own <;> constructor; exact ⟨congruent.refl _, span⟩
  | identifier named => exact .some ⟨named, span⟩
  | _ => exact .none

theorem isKind (kind : Kind) (plain : kind.name? = none)
    (bare : ∀ name, kind ≠ .windowSpec (some name) ∧ kind ≠ .typeName name ∧ kind ≠ .interval name) :
    node'.kind = kind ↔ node.kind = kind := by
  have alike := congruent.kind trees
  generalize node.kind = own, node'.kind = own' at alike ⊢
  cases alike <;> grind [Kind.name?]

theorem singleName : Rel like.Names (singleName? node) (singleName? node') := by
  have names := congruent.names trees
  have path := congruent.isKind trees .path rfl (by simp)
  unfold singleName?
  by_cases kind : node.kind = .path
  · rw [kind, path.mpr kind]
    generalize node.names = own, node'.names = own' at names ⊢
    cases names with
    | nil => exact .none
    | cons first rest =>
      cases rest with
      | nil => exact .some first
      | cons => exact .none
  · split
    · exact absurd ‹_› kind
    · split
      · exact absurd (path.mp ‹_›) kind
      · exact .none

theorem ownName : Rel like.Names (ownName? node) (ownName? node') := by
  have alike := congruent.kind trees
  have last := congruent.lastName trees
  have field := bind_alike (getElem_alike (congruent.children trees) 1) fun deeper => congruent.nodeName deeper.1
  unfold ownName?
  generalize node.kind = own, node'.kind = own' at alike ⊢
  cases alike with
  | same => split <;> first | exact last | exact field | exact .none
  | _ => exact .none

theorem tableNames (kind : node.kind = .tablePath) :
    Rel (fun path path' => node.tablePath? = some path ∧ like.Trees path path' ∧ path'.names = path.names)
      node.tablePath? node'.tablePath? := by
  have same := congruent.tablePath trees kind
  have found : Rel like.Parts node.tablePath? node'.tablePath? :=
    congruent.childOf (fun alike => by cases alike <;> rfl) trees
  rcases rel_cases found with ⟨none, none'⟩ | ⟨path, path', given, given', deeper⟩
  · rw [none, none']
    exact .none
  · rw [given, given'] at same ⊢
    exact .some ⟨rfl, deeper.1, Option.some.inj same⟩

theorem isWindow : isWindow node' = isWindow node := by
  have alike := congruent.kind trees
  unfold Analysis.isWindow
  generalize node.kind = own, node'.kind = own' at alike ⊢
  cases alike <;> rfl

end

omit congruent in
mutual
theorem height (congruent : like.Congruent) : ∀ {node node' : Node}, like.Trees node node' → node'.height = node.height
  | .mk _ _ children, .mk _ _ children', trees => by
    exact congrArg (· + 1) (heightAll congruent (congruent.children trees))

theorem heightAll (congruent : like.Congruent) :
    ∀ {nodes nodes' : List Node}, Forall₂ like.Parts nodes nodes' → Node.heightAll nodes' = Node.heightAll nodes
  | [], _, .nil => rfl
  | _ :: _, _ :: _, .cons first rest => by
    rw [Node.heightAll, Node.heightAll, height congruent first.1, heightAll congruent rest]
end

/-! ### Scopes and states -/

variable {scope scope' : Scope} {name name' : String} (same : Text.sameName name name' = true)

include same

theorem output (alike : Forall₂ like.Outputs outputs outputs') :
    Rel like.Outputs (outputs.find? fun output => Text.sameName output.name name)
      (outputs'.find? fun output => Text.sameName output.name name') :=
  find_alike alike fun output => congruent.sameName output.name same

theorem relation (scopes : like.Scopes scope scope') :
    Rel like.Relations (scope.relation? name) (scope'.relation? name') := by
  refine find_alike scopes fun {relation relation'} alike => ?_
  rcases rel_cases alike.name with ⟨none, none'⟩ | ⟨own, own', given, given', named⟩
  · rw [none, none']
    rfl
  · rw [given, given']
    exact congruent.sameName named same

theorem columnsNamed (scopes : like.Scopes scope scope') :
    Forall₂ like.Outputs (scope.columnsNamed name) (scope'.columnsNamed name') :=
  filterMap_alike scopes fun alike => congruent.output same alike.columns

theorem columnsNamed_isEmpty (scopes : like.Scopes scope scope') :
    (scope'.columnsNamed name').isEmpty = (scope.columnsNamed name).isEmpty :=
  isEmpty_alike (congruent.columnsNamed same scopes)

theorem scopeFor (scopes : like.Scopes scope scope') (enclosing : Forall₂ like.Scopes outer outer') :
    like.Scopes (scopeFor name scope outer) (scopeFor name' scope' outer') := by
  refine getD_alike (find_alike (.cons scopes enclosing) fun alike => ?_) scopes
  rw [Scope.knows, Scope.knows, isSome_alike (congruent.relation same alike), congruent.columnsNamed_isEmpty same alike]

omit same in
theorem isCorrelated (scopes : like.Scopes scope scope') (trees : like.Trees node node') :
    isCorrelated scope' node' = isCorrelated scope node := by
  unfold Analysis.isCorrelated
  by_cases kind : node.kind = .tablePath
  · rw [kind, (congruent.isKind trees _ rfl (by simp)).mpr kind, congruent.tablePath trees kind]
    split
    · exact isSome_alike (congruent.relation (Text.sameName_refl _) scopes)
    · rfl
  · have kind' := mt (congruent.isKind trees _ rfl (by simp)).mp kind
    split
    · exact absurd ‹_› kind'
    · split
      · exact absurd ‹_› kind
      · rfl

theorem namedWindow
    (alike : Forall₂
      (fun entry entry' => like.Names entry.1 entry'.1 ∧ like.Windows entry.2 entry'.2) windows windows') :
    Rel like.Windows (namedWindow? windows name) (namedWindow? windows' name') :=
  option_alike (find_alike alike fun entry => congruent.sameName entry.1 same) And.right

omit same in
theorem commonTable {common common' : List CommonTable} (alike : Forall₂ like.Commons common common')
    (names : List String) : Rel like.Commons (commonTable? common names) (commonTable? common' names) := by
  unfold commonTable?
  split
  · exact find_alike alike fun entry => congruent.sameName entry.name (Text.sameName_refl _)
  · exact .none

omit same in
theorem types (alike : Forall₂ like.Exprs values values') : values'.map TypedExpr.type = values.map TypedExpr.type := by
  induction alike with
  | nil => rfl
  | cons first _ ih => rw [map_cons, map_cons, congruent.type first, ih]

end Comparison.Congruent

end Analysis

end SqlLens
