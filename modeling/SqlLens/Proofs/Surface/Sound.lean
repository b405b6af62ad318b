import SqlLens.Proofs.Surface.NameSpans
import SqlLens.Proofs.Surface.TablePaths

/-!
Sound trees.

In a sound tree every span lies within the span of its parent, all of them within one span (`Node.Nests`), no part of a
table's name has a dot, no part of a window is given twice, and `WITH` clauses hold named queries (`Node.Proper`). A
node on top of sound trees makes a sound tree, if what it covers besides them lies within the span, too
(`Node.Sound.covering`).
-/

namespace SqlLens

open List

namespace Span

theorem Inside.refl (span : Span) : span.Inside span := ⟨Nat.le_refl _, Nat.le_refl _⟩

theorem Inside.trans {inner : Span} (first : inner.Inside middle) (second : middle.Inside outer) :
    inner.Inside outer := ⟨Nat.le_trans second.1 first.1, Nat.le_trans first.2 second.2⟩

theorem cover_inside {first : Span} : (first.cover second).Inside outer ↔ first.Inside outer ∧ second.Inside outer := by
  simp only [Inside, cover]
  omega

theorem foldl_cover_inside {first : Span} {rest : List Span} :
    (rest.foldl cover first).Inside outer ↔ first.Inside outer ∧ ∀ span ∈ rest, span.Inside outer := by
  induction rest generalizing first with
  | nil => simp
  | cons next rest ih => simp [ih, cover_inside, and_assoc]

theorem coverAll_inside {spans : List Span} {whole : Span} (covers : coverAll spans = some whole) :
    (∀ span ∈ spans, span.Inside whole) ∧ ∀ outer, (∀ span ∈ spans, span.Inside outer) → whole.Inside outer := by
  cases spans with
  | nil => cases covers
  | cons first rest =>
    cases covers
    have each := foldl_cover_inside.mp (Inside.refl (rest.foldl cover first))
    exact ⟨forall_mem_cons.mpr each, fun outer all => foldl_cover_inside.mpr (forall_mem_cons.mp all)⟩

end Span

namespace Surface

variable {kind : Kind} {span : Option Span} {children : List Node} {node : Node}

/-- The spans of the tree lie within a span, each within that of its parent. -/
def Node.Nests (bound : Span) (node : Node) : Prop :=
  ∀ below ∈ node.preorder, ∀ span ∈ below.span,
    span.Inside bound ∧ ∀ child ∈ below.children, ∀ inner ∈ child.span, inner.Inside span

variable {bound : Span}

theorem Node.Nests.mk (below : ∀ child ∈ children, child.Nests bound)
    (here : ∀ own ∈ span, own.Inside bound ∧ ∀ child ∈ children, ∀ inner ∈ child.span, inner.Inside own) :
    (Node.mk kind span children).Nests bound := Node.forall_preorder here below

theorem Node.Nests.inside (nests : node.Nests bound) : ∀ span ∈ node.span, span.Inside bound :=
  fun span own => (nests node (Node.mem_preorder_self node) span own).1

def Lies (bound : Span) (span : Option Span) : Prop := ∀ own ∈ span, own.Inside bound

@[simp] theorem lies_none : Lies bound none := by simp [Lies]

theorem lies_coverAll (all : ∀ span ∈ spans, span.Inside bound) : Lies bound (Span.coverAll spans) :=
  fun _ covers => (Span.coverAll_inside covers).2 bound all

theorem lies_ends (starts : Lies bound first) (ends : Lies bound last) :
    Lies bound (Span.coverAll (first.toList ++ last.toList)) := by
  refine lies_coverAll fun span listed => ?_
  simp only [mem_append, Option.mem_toList] at listed
  exact listed.elim (starts span) (ends span)

theorem Node.Nests.leaf (lies : Lies bound span) : (Node.leaf kind span).Nests bound :=
  .mk (by simp) fun own given => ⟨lies own given, by simp⟩

theorem Node.Nests.path (lies : Lies bound span) :
    (Node.mk .path span [.leaf (.identifier name) span]).Nests bound := by
  refine .mk (by simpa using Node.Nests.leaf lies) fun own given => ⟨lies own given, ?_⟩
  intro child listed inner same
  rw [mem_singleton.mp listed] at same
  cases given.symm.trans same
  exact .refl own

theorem Node.Nests.covering (below : ∀ child ∈ children, child.Nests bound) (extra : ∀ span ∈ spans, Lies bound span) :
    (Node.covering kind children spans).Nests bound := by
  refine .mk below fun own covers => ?_
  obtain ⟨parts, least⟩ := Span.coverAll_inside covers
  refine ⟨least bound fun span listed => ?_, fun child listed inner given => parts inner ?_⟩
  · obtain ⟨found, among, rfl⟩ := mem_filterMap.mp listed
    rcases mem_append.mp among with among | among
    · obtain ⟨child, listed, given⟩ := mem_map.mp among
      exact (below child listed).inside span given
    · exact extra _ among span rfl
  · exact mem_filterMap.mpr ⟨child.span, mem_append_left _ (mem_map_of_mem listed), given⟩

/-- The laws of a single node: no part of a table's name has a dot, the parts of a window differ in kind, and what a
`WITH` clause holds are named queries. -/
structure Node.Lawful (node : Node) : Prop where
  name : ∀ path ∈ node.sourcePath?, ∀ name ∈ path.names, '.' ∉ name.toList
  window : ∀ base, node.kind = .windowSpec base → (node.children.map Node.kind).Nodup
  entries : node.kind = .withClause → ∀ entry ∈ node.children, ∃ name, entry.kind = .withEntry name

/-- All nodes of the tree keep the laws. -/
def Node.Proper (node : Node) : Prop := ∀ below ∈ node.preorder, below.Lawful

theorem Node.Proper.of (own : (Node.mk kind span children).Lawful) (below : ∀ child ∈ children, child.Proper) :
    (Node.mk kind span children).Proper := Node.forall_preorder own below

theorem Node.Proper.child {child : Node} (proper : node.Proper) (inside : child ∈ node.children) : child.Proper :=
  fun below reached => proper below (Node.preorder_subset inside reached)

/-- The kinds that no law is about. -/
@[simp] def Kind.Free (kind : Kind) : Prop := kind ≠ .tablePath ∧ kind ≠ .withClause ∧ ∀ base, kind ≠ .windowSpec base

theorem Node.Proper.mk (other : kind.Free)
    (below : ∀ child ∈ children, child.Proper) : (Node.mk kind span children).Proper := by
  refine .of
    ⟨fun path named => ?_, fun base same => absurd same (other.2.2 base), fun same => absurd same other.2.1⟩ below
  simp [Node.sourcePath?, Node.kind, other.1] at named

theorem Node.Proper.leaf (other : kind.Free) :
    (Node.leaf kind span).Proper := .mk other (by simp)

theorem Node.Proper.window (differ : (children.map Node.kind).Nodup) (below : ∀ child ∈ children, child.Proper) :
    (Node.covering (.windowSpec base) children spans).Proper := by
  refine .of ⟨fun path named => ?_, fun _ _ => differ, nofun⟩ below
  simp [Node.sourcePath?, Node.kind] at named

theorem Node.Proper.withClause
    (entries : ∀ child ∈ children, ∃ name, child.kind = .withEntry name) (below : ∀ child ∈ children, child.Proper) :
    (Node.covering .withClause children spans).Proper := by
  refine .of ⟨fun path named => ?_, nofun, fun _ => entries⟩ below
  simp [Node.sourcePath?, Node.kind] at named

namespace Build

variable {idents : List Ident}

/-! ### Paths -/

/-- The nodes of names: each stands for one of the names. -/
def NamedBy (idents : List Ident) (node : Node) : Prop :=
  ∃ ident ∈ idents, ∃ span, node = .leaf (.identifier ident.value) span

theorem sharedParts_named (inside : parts ⊆ idents) :
    ∀ part ∈ sharedParts outer offset parts, ∃ ident ∈ idents, ident.value = part.1 := by
  induction parts generalizing offset with
  | nil => simp [sharedParts]
  | cons ident rest ih =>
    intro part cut
    rcases mem_cons.mp cut with rfl | later
    · exact ⟨ident, inside mem_cons_self, rfl⟩
    · exact ih (fun _ listed => inside (mem_cons_of_mem _ listed)) part later

structure PathOf (idents : List Ident) (node : Node) : Prop where
  kind : node.kind = .path
  children : ∀ child ∈ node.children, NamedBy idents child

theorem PathOf.proper (path : PathOf idents node) : node.Proper := by
  obtain ⟨kind, span, children⟩ := node
  have isPath : kind = .path := path.kind
  refine .mk (by simp [isPath]) fun child inside => ?_
  obtain ⟨ident, -, span, rfl⟩ := path.children child inside
  exact .leaf (by simp)

theorem PathOf.names (path : PathOf idents node) :
    ∀ name ∈ node.names, ∃ ident ∈ idents, ident.value = name := by
  intro name listed
  obtain ⟨child, inside, given⟩ := mem_filterMap.mp listed
  obtain ⟨ident, known, span, rfl⟩ := path.children child inside
  exact ⟨ident, known, Option.some.inj given⟩

theorem PathOf.tablePath_proper {path : Node} (name : TableName) (made : PathOf name.parts path)
    (holds : ∀ node ∈ aliases, node.Proper) : (Node.covering .tablePath (path :: aliases) []).Proper := by
  have first : Node.tablePath? (.covering .tablePath (path :: aliases) []) = some path := by
    simp [Node.tablePath?, Node.childOf?, Node.covering, Node.children, made.kind]
  refine .of ⟨fun found named => ?_, fun _ => by simp [Node.kind], by simp [Node.kind]⟩
    (forall_mem_cons.mpr ⟨made.proper, holds⟩)
  have same : found = path := Option.some.inj (named.symm.trans first)
  rw [same]
  intro part listed
  obtain ⟨ident, known, rfl⟩ := made.names part listed
  exact name.dotless ident known

end Build

/-! ### Soundness -/

/-- The spans of a tree nest within a span, and its nodes keep their laws. -/
structure Node.Sound (bound : Span) (node : Node) : Prop where
  nests : node.Nests bound
  proper : node.Proper

theorem Node.Sound.mono {inner : Span} (sound : node.Sound inner) (inside : inner.Inside bound) :
    node.Sound bound :=
  ⟨fun below reached span own => (sound.nests below reached span own).imp_left (·.trans inside), sound.proper⟩

theorem Node.Sound.leaf (other : kind.Free) (lies : Lies bound span) :
    (Node.leaf kind span).Sound bound := ⟨.leaf lies, .leaf other⟩

theorem Node.Sound.word (lies : Lies bound span) :
    (Node.mk .path span [.leaf (.identifier name) span]).Sound bound :=
  ⟨.path lies, .mk (by simp) (by simpa using Node.Proper.leaf (by simp))⟩

theorem Node.Sound.covering (other : kind.Free) (below : ∀ child ∈ children, child.Sound bound)
    (extra : ∀ span ∈ spans, Lies bound span) : (Node.covering kind children spans).Sound bound :=
  ⟨.covering (fun child listed => (below child listed).nests) extra,
    .mk other fun child listed => (below child listed).proper⟩

theorem Node.Sound.tablePath (name : TableName) (made : Build.PathOf name.parts path)
    (below : ∀ child ∈ path :: aliases, child.Sound bound) :
    (Node.covering .tablePath (path :: aliases) []).Sound bound :=
  ⟨.covering (fun child listed => (below child listed).nests) (by simp),
    made.tablePath_proper name fun child listed => (below child (mem_cons_of_mem _ listed)).proper⟩

theorem Node.Sound.window (differ : (children.map Node.kind).Nodup) (extra : ∀ span ∈ spans, Lies bound span)
    (below : ∀ child ∈ children, child.Sound bound) : (Node.covering (.windowSpec base) children spans).Sound bound :=
  ⟨.covering (fun child listed => (below child listed).nests) extra,
    .window differ fun child listed => (below child listed).proper⟩

theorem Node.Sound.withClause
    (entries : ∀ child ∈ children, ∃ name, child.kind = .withEntry name) (extra : ∀ span ∈ spans, Lies bound span)
    (below : ∀ child ∈ children, child.Sound bound) : (Node.covering .withClause children spans).Sound bound :=
  ⟨.covering (fun child listed => (below child listed).nests) extra,
    .withClause entries fun child listed => (below child listed).proper⟩

end Surface

end SqlLens
