import SqlLens.Grammar.Basic
import SqlLens.Proofs.Members
import Mathlib.Data.List.Basic

/-!
The names in a query.

`AllNames` says something of every name in a query, an expression or a part of these that the tree builder looks at.
-/

namespace SqlLens

/-! ### All names of a phrase -/

/-- What may have names in it. A name of one part is the list of that part. -/
class HasNames (α : Type) where
  AllNames : (List Ident → Prop) → α → Prop

export HasNames (AllNames)

instance (priority := low) nameless {α : Type} : HasNames α := ⟨fun _ _ => True⟩

instance : HasNames Ident := ⟨fun P name => P [name]⟩

instance : HasNames TableName := ⟨fun P name => P name.parts⟩

instance : HasNames TableAlias := ⟨fun P aliasName => P [aliasName.name]⟩

instance ofOption {α : Type} [HasNames α] : HasNames (Option α) := ⟨fun P value => ∀ given ∈ value, AllNames P given⟩

instance ofList {α : Type} [HasNames α] : HasNames (List α) := ⟨fun P values => ∀ value ∈ values, AllNames P value⟩

instance {α β : Type} [HasNames α] [HasNames β] : HasNames (α × β) :=
  ⟨fun P pair => AllNames P pair.1 ∧ AllNames P pair.2⟩

instance : HasNames Star := ⟨fun P star => AllNames P star.except⟩

mutual
def Expr.AllNames (P : List Ident → Prop) : Expr → Prop
  | .name parts | .constant parts => P parts
  | .literal _ | .typed .. | .star | .foreign .. => True
  | .nested value | .unary _ value | .isNull value _ | .cast _ value _ | .extract _ value | .rounding _ value _
  | .interval value .. => value.AllNames P
  | .binary first _ second | .like first _ second | .inUnnest first _ second | .index first second
  | .dot first second => first.AllNames P ∧ second.AllNames P
  | .inList value _ items | .trim value items => value.AllNames P ∧ exprsNames P items
  | .inQuery value _ query => value.AllNames P ∧ query.AllNames P
  | .between value _ low high => value.AllNames P ∧ low.AllNames P ∧ high.AllNames P
  | .substring value start length _ => value.AllNames P ∧ exprNames? P start ∧ exprNames? P length
  | .callQuery name query => P name ∧ query.AllNames P
  | .call name _ arguments _ window => P name ∧ exprsNames P arguments ∧ windowNames? P window
  | .case operand branches otherwise => exprNames? P operand ∧ branchesNames P branches ∧ exprNames? P otherwise
  | .exist _ query | .subquery query => query.AllNames P
  | .array _ items => exprsNames P items
  | .field value name => value.AllNames P ∧ P [name]

def exprsNames (P : List Ident → Prop) : List Expr → Prop
  | [] => True
  | value :: rest => value.AllNames P ∧ exprsNames P rest

def exprNames? (P : List Ident → Prop) : Option Expr → Prop
  | none => True
  | some value => value.AllNames P

def Branch.AllNames (P : List Ident → Prop) : Branch → Prop
  | .mk condition result => condition.AllNames P ∧ result.AllNames P

def branchesNames (P : List Ident → Prop) : List Branch → Prop
  | [] => True
  | branch :: rest => branch.AllNames P ∧ branchesNames P rest

def Window.AllNames (P : List Ident → Prop) : Window → Prop
  | .named name => P [name]
  | .spec base partitionBy orderBy _ => AllNames P base ∧ exprsNames P partitionBy ∧ orderNames P orderBy

def windowNames? (P : List Ident → Prop) : Option Window → Prop
  | none => True
  | some window => window.AllNames P

def OrderItem.AllNames (P : List Ident → Prop) : OrderItem → Prop
  | .mk value _ _ => value.AllNames P

def orderNames (P : List Ident → Prop) : List OrderItem → Prop
  | [] => True
  | item :: rest => item.AllNames P ∧ orderNames P rest

def Query.AllNames (P : List Ident → Prop) : Query → Prop
  | .mk _ entries body orderBy limit offset _ _ =>
    cteNames P entries ∧ body.AllNames P ∧ orderNames P orderBy ∧ exprNames? P limit ∧ exprNames? P offset

def Cte.AllNames (P : List Ident → Prop) : Cte → Prop
  | .mk aliasName query _ _ => HasNames.AllNames P aliasName ∧ query.AllNames P

def cteNames (P : List Ident → Prop) : List Cte → Prop
  | [] => True
  | entry :: rest => entry.AllNames P ∧ cteNames P rest

def Body.AllNames (P : List Ident → Prop) : Body → Prop
  | .select _ items source selection groupBy having windows qualify =>
    itemNames P items ∧ source.AllNames P ∧ exprNames? P selection ∧ exprsNames P groupBy ∧ exprNames? P having ∧
      namedWindowNames P windows ∧ exprNames? P qualify
  | .query query => query.AllNames P
  | .setOperation _ _ left right => left.AllNames P ∧ right.AllNames P
  | .foreign _ => True

def NamedWindow.AllNames (P : List Ident → Prop) : NamedWindow → Prop
  | .mk name window => P [name] ∧ window.AllNames P

def namedWindowNames (P : List Ident → Prop) : List NamedWindow → Prop
  | [] => True
  | window :: rest => window.AllNames P ∧ namedWindowNames P rest

def SelectItem.AllNames (P : List Ident → Prop) : SelectItem → Prop
  | .expr value aliasName => value.AllNames P ∧ HasNames.AllNames P aliasName
  | .star name star => P name ∧ HasNames.AllNames P star

def itemNames (P : List Ident → Prop) : List SelectItem → Prop
  | [] => True
  | item :: rest => item.AllNames P ∧ itemNames P rest

def Source.AllNames (P : List Ident → Prop) : Source → Prop
  | .nothing | .foreign _ => True
  | .table name aliasName _ => AllNames P name ∧ AllNames P aliasName
  | .derived _ query aliasName => query.AllNames P ∧ AllNames P aliasName
  | .unnest arrays _ aliasName _ offsetAlias =>
    exprsNames P arrays ∧ AllNames P aliasName ∧ AllNames P offsetAlias
  | .nested joined aliasName => joined.AllNames P ∧ AllNames P aliasName
  | .join left _ _ right _ condition => left.AllNames P ∧ right.AllNames P ∧ exprNames? P condition
  | .comma left right => left.AllNames P ∧ right.AllNames P
end

instance : HasNames Expr := ⟨Expr.AllNames⟩

instance : HasNames Branch := ⟨Branch.AllNames⟩

instance : HasNames Window := ⟨Window.AllNames⟩

instance : HasNames OrderItem := ⟨OrderItem.AllNames⟩

instance : HasNames Query := ⟨Query.AllNames⟩

instance : HasNames Cte := ⟨Cte.AllNames⟩

instance : HasNames Body := ⟨Body.AllNames⟩

instance : HasNames NamedWindow := ⟨NamedWindow.AllNames⟩

instance : HasNames SelectItem := ⟨SelectItem.AllNames⟩

instance : HasNames Source := ⟨Source.AllNames⟩

section

variable {P : List Ident → Prop} {α : Type}

@[simp, grind =] theorem allNames_nameless : @AllNames α nameless P value ↔ True := Iff.rfl

@[simp, grind =] theorem allNames_option_nameless :
    @AllNames (Option α) (@ofOption α nameless) P value ↔ True := iff_true_intro fun _ _ => trivial

@[simp, grind =] theorem allNames_list_nameless :
    @AllNames (List α) (@ofList α nameless) P values ↔ True := iff_true_intro fun _ _ => trivial

@[simp, grind =] theorem allNames_ident : AllNames P name ↔ P [name] := Iff.rfl

@[simp, grind =] theorem allNames_tableAlias : AllNames P (TableAlias.mk name columns) ↔ P [name] := Iff.rfl

@[simp, grind =] theorem allNames_none [HasNames α] : AllNames P (none : Option α) ↔ True := by
  simp [AllNames]

@[simp, grind =] theorem allNames_some [HasNames α] {value : α} :
    AllNames P (some value) ↔ AllNames P value := by simp [AllNames]

@[simp, grind =] theorem allNames_nil [HasNames α] : AllNames P ([] : List α) ↔ True := by simp [AllNames]

@[simp, grind =] theorem allNames_cons [HasNames α] {value : α} :
    AllNames P (value :: rest) ↔ AllNames P value ∧ AllNames P rest := by simp [AllNames]

@[simp, grind =] theorem allNames_pair [HasNames α] [HasNames β] {first : α} {second : β} :
    AllNames P (first, second) ↔ AllNames P first ∧ AllNames P second := Iff.rfl

@[simp, grind =] theorem allNames_star : AllNames P (Star.mk place except replacing) ↔ AllNames P except := Iff.rfl

/-! The parts of a phrase are asked one by one. -/

@[simp, grind =] theorem exprsNames_iff {values : List Expr} : exprsNames P values ↔ AllNames P values :=
  iff_forall_mem trivial fun _ _ => .rfl

@[simp, grind =] theorem exprNames?_iff {value : Option Expr} : exprNames? P value ↔ AllNames P value := by
  cases value with
  | none => simp [exprNames?]
  | some value => rw [exprNames?, allNames_some]; rfl

@[simp, grind =] theorem branchesNames_iff {branches : List Branch} : branchesNames P branches ↔ AllNames P branches :=
  iff_forall_mem trivial fun _ _ => .rfl

@[simp, grind =] theorem orderNames_iff {items : List OrderItem} : orderNames P items ↔ AllNames P items :=
  iff_forall_mem trivial fun _ _ => .rfl

@[simp, grind =] theorem cteNames_iff {entries : List Cte} : cteNames P entries ↔ AllNames P entries :=
  iff_forall_mem trivial fun _ _ => .rfl

@[simp, grind =] theorem namedWindowNames_iff {windows : List NamedWindow} :
    namedWindowNames P windows ↔ AllNames P windows :=
  iff_forall_mem trivial fun _ _ => .rfl

@[simp, grind =] theorem itemNames_iff {items : List SelectItem} : itemNames P items ↔ AllNames P items :=
  iff_forall_mem trivial fun _ _ => .rfl

@[simp, grind =] theorem windowNames?_iff {window : Option Window} : windowNames? P window ↔ AllNames P window := by
  cases window with
  | none => simp [windowNames?]
  | some window => rw [windowNames?, allNames_some]; rfl

@[simp, grind =] theorem allNames_expr {value : Expr} : AllNames P value ↔ value.AllNames P := Iff.rfl

@[simp, grind =] theorem allNames_branch {branch : Branch} : AllNames P branch ↔ branch.AllNames P := Iff.rfl

@[simp, grind =] theorem allNames_window {window : Window} : AllNames P window ↔ window.AllNames P := Iff.rfl

@[simp, grind =] theorem allNames_orderItem {item : OrderItem} : AllNames P item ↔ item.AllNames P := Iff.rfl

@[simp, grind =] theorem allNames_query {query : Query} : AllNames P query ↔ query.AllNames P := Iff.rfl

@[simp, grind =] theorem allNames_cte {entry : Cte} : AllNames P entry ↔ entry.AllNames P := Iff.rfl

@[simp, grind =] theorem allNames_body {body : Body} : AllNames P body ↔ body.AllNames P := Iff.rfl

@[simp, grind =] theorem allNames_namedWindow {window : NamedWindow} : AllNames P window ↔ window.AllNames P := Iff.rfl

@[simp, grind =] theorem allNames_selectItem {item : SelectItem} : AllNames P item ↔ item.AllNames P := Iff.rfl

@[simp, grind =] theorem allNames_source {source : Source} : AllNames P source ↔ source.AllNames P := Iff.rfl

attribute [simp, grind =] Expr.AllNames Branch.AllNames Window.AllNames OrderItem.AllNames Query.AllNames Cte.AllNames
  Body.AllNames NamedWindow.AllNames SelectItem.AllNames Source.AllNames

end

end SqlLens
