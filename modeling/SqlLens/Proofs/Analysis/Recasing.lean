import SqlLens.Proofs.Analysis.Lockstep

/-!
The case of names does not matter.

Two trees are taken that differ in the case of names only, apart from the paths that tables are looked up under. Their
statements are resolved to the same, up to the case of the names in the result, or fail at the same place with the same
code (`script_recased`).
-/

namespace SqlLens

open Option (Rel)
open List (Forall₂)

/-- Names that are the same but for the case of letters; those that begin with a dollar sign are the same. -/
def Text.Recased (a b : String) : Prop := a = b ∨ sameName a b = true ∧ a.toList.head? ≠ some '$'

theorem Text.recased_analytic (recased : Recased a b) : b = "$analytic" ↔ a = "$analytic" := by
  obtain rfl | ⟨same, plain⟩ := recased
  · rfl
  · constructor
    · rintro rfl
      have first := congrArg List.head? (sameName_iff.mp same)
      rw [List.head?_map, show (List.map Char.toLower _).head? = some '$' by decide, Option.map_eq_some_iff] at first
      obtain ⟨c, head, lower⟩ := first
      exact absurd (head.trans (congrArg some ((toLower_eq_iff (by decide)).mp lower))) plain
    · rintro rfl
      exact absurd rfl plain

/-! ### Trees that differ in case -/

namespace Surface

/-- Trees that differ in the case of names only, and not in the paths of tables. -/
inductive Node.Recased : Node → Node → Prop where
  | mk (kind : Kind.Alike Text.Recased own own') (children : Forall₂ Node.Recased parts parts')
    (paths : own = .tablePath → parts'.filter (·.kind == .path) = parts.filter (·.kind == .path)) :
    Recased (.mk own place parts) (.mk own' place parts')

mutual
theorem Node.Recased.refl : ∀ node : Node, node.Recased node
  | .mk _ _ parts => .mk (.same _) (all parts) fun _ => rfl

theorem Node.Recased.all : ∀ nodes : List Node, Forall₂ Node.Recased nodes nodes
  | [] => .nil
  | node :: rest => .cons (.refl node) (all rest)
end

end Surface

namespace Resolved

structure Column.Recased (left right : Column) : Prop where
  id : right.id = left.id
  table : Text.Recased left.table right.table
  name : Text.Recased left.name right.name
  type : right.type = left.type

structure NamedColumn.Recased (left right : NamedColumn) : Prop where
  name : Text.Recased left.name right.name
  column : left.column.Recased right.column

mutual
inductive TypedExpr.Recased : TypedExpr → TypedExpr → Prop
  | literal : TypedExpr.Recased (.literal text t s) (.literal text t s)
  | column (column : c.Recased c') : TypedExpr.Recased (.column c s) (.column c' s)
  | call (arguments : Forall₂ TypedExpr.Recased es es') : TypedExpr.Recased (.call f es t s) (.call f es' t s)
  | analyticCall (arguments : Forall₂ TypedExpr.Recased es es') (partition : Forall₂ TypedExpr.Recased ps ps')
    (order : Forall₂ SortKey.Recased ks ks') :
    TypedExpr.Recased (.analyticCall f es ps ks t s) (.analyticCall f es' ps' ks' t s)
  | field (base : TypedExpr.Recased e e') (name : Text.Recased a b) : TypedExpr.Recased (.field e a t s)
      (.field e' b t s)
  | cast (base : TypedExpr.Recased e e') : TypedExpr.Recased (.cast e t safe s) (.cast e' t safe s)
  | subquery (query : Scan.Recased q q') (tested : Rel TypedExpr.Recased e e') :
    TypedExpr.Recased (.subquery k q e t s) (.subquery k q' e' t s)

inductive SortKey.Recased : SortKey → SortKey → Prop
  | mk (expr : TypedExpr.Recased k.expr k'.expr) (descending : k'.descending = k.descending) : SortKey.Recased k k'

inductive Computed.Recased : Computed → Computed → Prop
  | mk (column : d.column.Recased d'.column) (expr : TypedExpr.Recased d.expr d'.expr) : Computed.Recased d d'

inductive Entry.Recased : Entry → Entry → Prop
  | mk (name : Text.Recased d.name d'.name) (query : Scan.Recased d.query d'.query) : Entry.Recased d d'

inductive Scan.Recased : Scan → Scan → Prop
  | singleRow : Scan.Recased .singleRow .singleRow
  | table (aliasName : Rel Text.Recased a b) (columns : Forall₂ Column.Recased cs cs') :
    Scan.Recased (.table name a cs s) (.table name b cs' s)
  | reference (columns : Forall₂ Column.Recased cs cs') (entry : Text.Recased a a') (aliasName : Text.Recased b b') :
    Scan.Recased (.reference cs a b s) (.reference cs' a' b' s)
  | array (columns : Forall₂ Column.Recased cs cs') (input : Rel Scan.Recased q q') (array : TypedExpr.Recased e e')
    (element : c.Recased c') (offset : Rel Column.Recased i i') (condition : Rel TypedExpr.Recased on on') :
    Scan.Recased (.array cs q e c i on outer s) (.array cs' q' e' c' i' on' outer s)
  | join (columns : Forall₂ Column.Recased cs cs') (left : Scan.Recased l l') (right : Scan.Recased r r')
    (condition : Rel TypedExpr.Recased on on') : Scan.Recased (.join cs k l r on s) (.join cs' k l' r' on' s)
  | project (columns : Forall₂ Column.Recased cs cs') (computed : Forall₂ Computed.Recased ds ds')
      (input : Scan.Recased q q') :
    Scan.Recased (.project cs ds q s) (.project cs' ds' q' s)
  | filter (columns : Forall₂ Column.Recased cs cs') (input : Scan.Recased q q') (condition : TypedExpr.Recased e e') :
    Scan.Recased (.filter cs q e s) (.filter cs' q' e' s)
  | aggregate (columns : Forall₂ Column.Recased cs cs') (input : Scan.Recased q q')
      (groups : Forall₂ Computed.Recased ds ds') :
    Scan.Recased (.aggregate cs q ds s) (.aggregate cs' q' ds' s)
  | analytic (columns : Forall₂ Column.Recased cs cs') (input : Scan.Recased q q')
      (calls : Forall₂ Computed.Recased ds ds') :
    Scan.Recased (.analytic cs q ds s) (.analytic cs' q' ds' s)
  | orderBy (columns : Forall₂ Column.Recased cs cs') (input : Scan.Recased q q')
      (items : Forall₂ SortKey.Recased ks ks') :
    Scan.Recased (.orderBy cs q ks s) (.orderBy cs' q' ks' s)
  | limit (columns : Forall₂ Column.Recased cs cs') (input : Scan.Recased q q') (count : TypedExpr.Recased e e')
    (offset : Rel TypedExpr.Recased i i') : Scan.Recased (.limit cs q e i s) (.limit cs' q' e' i' s)
  | common (columns : Forall₂ Column.Recased cs cs') (entries : Forall₂ Entry.Recased ds ds')
      (query : Scan.Recased q q') :
    Scan.Recased (.common cs ds q s) (.common cs' ds' q' s)
  | setOperation (columns : Forall₂ Column.Recased cs cs') (left : Scan.Recased l l') (right : Scan.Recased r r') :
    Scan.Recased (.setOperation cs op d l r s) (.setOperation cs' op d l' r' s)
end

structure Statement.Recased (left right : Statement) : Prop where
  query : left.query.Recased right.query
  outputs : Forall₂ NamedColumn.Recased left.outputs right.outputs
  span : right.span = left.span

namespace TypedExpr

mutual
theorem hasAggregate_recased : ∀ {e e' : TypedExpr}, e.Recased e' → e'.hasAggregate = e.hasAggregate
  | .call .., _, .call arguments => by rw [hasAggregate, hasAggregate, anyAggregate_recased arguments]
  | .field .., _, .field base _ | .cast .., _, .cast base | .subquery _ _ (some _) _ _, _,
      .subquery _ (.some base) => by
    rw [hasAggregate, hasAggregate, hasAggregate_recased base]
  | .subquery _ _ none _ _, _, .subquery _ .none | .literal .., _, .literal | .column .., _, .column _
  | .analyticCall .., _, .analyticCall .. => rfl

theorem anyAggregate_recased : ∀ {es es' : List TypedExpr}, Forall₂ Recased es es' → anyAggregate es' = anyAggregate es
  | [], _, .nil => rfl
  | _ :: _, _, .cons first rest => by
    rw [anyAggregate, anyAggregate, hasAggregate_recased first, anyAggregate_recased rest]
end

end TypedExpr

end Resolved

namespace Analysis

open Resolved (Column NamedColumn Scan TypedExpr Computed SortKey Entry)
open Surface (Node)

def recasing : Comparison where
  Names := Text.Recased
  Numbers i j := j = i
  Trees := Node.Recased
  Low _ := True
  Spot _ := True
  Known _ := True
  Typed := False
  Exprs := TypedExpr.Recased
  Scans := Scan.Recased

namespace recasing

theorem column (alike : recasing.Columns c c') : c.Recased c' := ⟨alike.number, alike.table, alike.name, alike.type⟩

theorem columns (alike : Forall₂ recasing.Columns cs cs') : Forall₂ Column.Recased cs cs' := alike.imp fun _ _ => column

theorem computed (alike : Forall₂ recasing.Computeds ds ds') : Forall₂ Computed.Recased ds ds' :=
  alike.imp fun _ _ each => ⟨column each.column, each.expr⟩

theorem keys (alike : Forall₂ recasing.Keys ks ks') : Forall₂ SortKey.Recased ks ks' :=
  alike.imp fun _ _ each => ⟨each.expr, each.descending⟩

theorem test (alike : Rel recasing.Tests e e') : Rel TypedExpr.Recased e e' := by
  cases alike with
  | none => exact .none
  | some both => exact .some both.expr

theorem congruent : recasing.Congruent where
  refl _ := .inl rfl
  folded named := named.elim (fun same => same ▸ Text.sameName_refl _) And.left
  analytic := Text.recased_analytic
  next := congrArg (· + 1)
  kind trees := by cases trees; assumption
  span trees := by cases trees; rfl
  spot _ := trivial
  nowhere := trivial
  reaches _ _ _ := ⟨trivial, trivial⟩
  children trees := by cases trees with | mk _ children => exact children.imp fun _ _ part => ⟨part, trivial⟩
  tablePath trees kind := by
    cases trees with
    | mk _ _ paths =>
      rw [Node.tablePath?, Node.tablePath?, Node.childOf?, Node.childOf?, ← List.head?_filter, ← List.head?_filter]
      exact congrArg (Option.map Node.names ∘ List.head?) (paths kind)
  known _ _ _ _ _ _ := trivial
  type exprs := by cases exprs <;> try rfl
                   exact ‹Column.Recased _ _›.type
  exprSpan exprs := ⟨by cases exprs <;> rfl, trivial⟩
  hasAggregate := TypedExpr.hasAggregate_recased
  form exprs := by
    cases exprs with
    | column alike => exact .inl ⟨_, _, _, rfl, rfl, ⟨alike.id, alike.table, alike.name, alike.type⟩⟩
    | _ => right; constructor <;> rintro _ _ ⟨⟩
  columns scans := by
    refine List.Forall₂.imp (R := Column.Recased) (fun _ _ alike => ⟨alike.id, alike.table, alike.name, alike.type⟩) ?_
    cases scans <;> first | assumption | exact .nil
  literal _ := .literal
  column alike _ := .column (column alike)
  field exprs named _ _ := .field exprs named
  cast exprs _ _ := .cast exprs
  call exprs _ _ := .call exprs
  analyticCall exprs windows _ _ := .analyticCall exprs windows.partition (keys windows.order)
  subquery scans exprs _ _ := .subquery scans exprs
  singleRow := .singleRow
  table named alike := .table named (columns alike)
  reference alike named called := .reference (columns alike) named called
  array alike scans exprs element index tests _ _ :=
    .array (columns alike) scans exprs (column element) (by cases index <;> constructor; exact column ‹_›) (test tests)
  join alike left right tests := .join (columns alike) left right (test tests)
  project alike values scans := .project (columns alike) (computed values) scans
  filter alike scans tests := .filter (columns alike) scans tests.expr
  aggregate alike scans values := .aggregate (columns alike) scans (computed values)
  window alike scans values := .analytic (columns alike) scans (computed values)
  orderBy alike scans items := .orderBy (columns alike) scans (keys items)
  limit alike scans count offset := .limit (columns alike) scans count offset
  common alike entries scans := .common (columns alike) (entries.imp fun _ _ each => ⟨each.name, each.query⟩) scans
  setOperation alike left right _ := .setOperation (columns alike) left right

end recasing

inductive Recased : Except Failure Resolved.Statement → Except Failure Resolved.Statement → Prop
  | ok (statement : left.Recased right) : Recased (.ok left) (.ok right)
  | error {left right : Failure} (code : right.fault.code = left.fault.code) (span : right.span = left.span) :
    Recased (.error left) (.error right)

theorem Fault.code_eq {fault fault' : Fault} (missing : fault'.missingTable? = fault.missingTable?) :
    fault'.code = fault.code := by
  cases fault <;> cases fault' <;> first | rfl | cases missing

theorem recased_of_alike (alike : recasing.Results recasing.Statements result result') : Recased result result' := by
  cases alike with
  | ok statements =>
    refine .ok ⟨statements.query.scan, ?_, statements.span⟩
    exact statements.query.outputs.imp fun _ _ each => ⟨each.name, recasing.column each.column⟩
  | error failures => exact .error (Fault.code_eq failures.missing) failures.span

/-- Statements whose names are written in another case are resolved to the same but for that case, or fail with the same
code at the same place. -/
theorem script_recased (tables : Lookup) {root root' : Node} (recased : root.Recased root') :
    Forall₂ Recased (script tables root) (script tables root') := by
  have states : recasing.States .initial .initial := ⟨rfl, .nil, .nil, .none, .nil⟩
  have trees : Forall₂ recasing.Parts root.children root'.children := recasing.congruent.children recased
  refine (statements_alike recasing.congruent (fun _ _ _ => rfl) (trees.imp fun _ _ => And.left) states).1.imp ?_
  exact fun _ _ => recased_of_alike

/-- `SELECT RANK() OVER (w ORDER BY v.page.url) FROM visits AS v WINDOW w AS ()`, with the names given. -/
private def rankedPages (call window source page url : String) : Node :=
  .mk .script none [.mk .statement none [.mk .query none [.mk (.select false) none
    [.mk .selectList none [.mk .selectColumn none [.mk (.functionCall false) none
      [.mk .path none [.leaf (.identifier call) none],
        .mk (.windowSpec (some window)) none [.mk .orderBy none [.mk (.orderingItem false) none
          [.mk .path none
            [.leaf (.identifier source) none, .leaf (.identifier page) none, .leaf (.identifier url) none]]]]]]],
      .mk .fromClause none
        [.mk .tablePath none [.mk .path none [.leaf (.identifier "visits") none], .leaf (.aliasName source) none]],
      .mk .windowClause none [.mk (.namedWindow window) none [.leaf (.windowSpec none) none]]]]]]

private def visitedPages : Lookup := fun _ =>
  some (.of "visits" .epoch [.mk "page" "RECORD" none "" [.mk "url" "STRING" none "" []]])

theorem rankedPages_recased :
    (script visitedPages (rankedPages "RANK" "w" "v" "page" "url")).map Except.toBool = [true] ∧
      Forall₂ Recased (script visitedPages (rankedPages "RANK" "w" "v" "page" "url"))
        (script visitedPages (rankedPages "rank" "W" "V" "Page" "URL")) := by
  refine ⟨by decide +kernel, script_recased _ ?_⟩
  unfold rankedPages
  repeat' first
    | exact .refl _
    | exact .inr (by decide)
    | exact fun _ => rfl
    | rintro ⟨⟩
    | constructor

end Analysis

end SqlLens
