import SqlLens.Proofs.Surface.Forest
import SqlLens.Proofs.Surface.Sound
import SqlLens.Surface.Build

/-!
Building into an arena goes as building trees does.

Every step of the tree builder that is taken in an arena is taken alike when nodes are trees (`Build.Mirrors`): the
cursor moves alike, both fail at the same token or neither does, and the trees lie in the arena behind one another and
behind what was there before. The trees that wait for a parent are a stack: each construct puts its own on top of it
(`Build.Adds`), and a node takes its children from the top.

On the way the trees stay sound (`Node.Sound`): a node covers its children and the keywords and brackets of its own.
-/

namespace SqlLens.Surface

open List hiding after span

namespace Build

/-- Where a statement is put: its tokens, a span they lie in, which names lie there too, and what the arena holds
already. -/
structure Site where
  tokens : Tokens
  bound : Span
  Named : List Ident → Prop
  before : List Entry
  token : ∀ piece ∈ tokens.pieces, piece.span.Inside bound
  name : ∀ parts, Named parts → Fits tokens bound parts

variable {α β γ δ : Type} {site : Site} {arena : Arena} {stack after : List Node} {number : Nat}
  {like : Build (List Node)}

abbrev Lowering := BuildT (StateM Arena)

structure Site.Keeps (site : Site) (arena : Arena) (stack : List Node) : Prop where
  holds : arena.Holds site.before stack
  sound : ∀ node ∈ stack, node.Sound site.bound

/-! ### Rules -/

/-- How building trees ended and how building in an arena did. -/
inductive Agrees (site : Site) (R : List Node → α → β → Prop) :
    Except Unsupported β × Cursor → (Except Unsupported α × Cursor) × Arena → Prop
  | made {one : α} {other : β} {cursor : Cursor} {arena : Arena} {stack : List Node} (kept : site.Keeps arena stack)
    (related : R stack one other) : Agrees site R (.ok other, cursor) ((.ok one, cursor), arena)
  | failed {construct : Unsupported} {cursor : Cursor} {arena : Arena} {stack : List Node}
      (kept : site.Keeps arena stack)
    (place : construct.span = site.tokens.span? cursor.place) :
    Agrees site R (.error construct, cursor) ((.error construct, cursor), arena)

/-- A step that is taken in an arena with a stack of trees is taken alike with trees. -/
def Mirrors (site : Site) (stack : List Node) (step : Lowering α) (like : Build β)
    (R : List Node → α → β → Prop) : Prop :=
  ∀ cursor arena, site.Keeps arena stack →
    Agrees site R ((like.run site.tokens).run.run cursor) (((step.run site.tokens).run.run cursor).run arena)

structure Adds (site : Site) (stack after : List Node) (numbers : List Nat) (nodes : List Node) : Prop where
  top : after = stack ++ nodes
  numbered : numbers = Node.roots (site.before.length + Node.sizeAll stack) nodes

theorem Adds.nil : Adds site stack stack [] [] := ⟨by simp, rfl⟩

theorem Adds.append (first : Adds site stack now numbers nodes) (second : Adds site now after others more) :
    Adds site stack after (numbers ++ others) (nodes ++ more) := by
  obtain ⟨rfl, rfl⟩ := first
  obtain ⟨rfl, rfl⟩ := second
  exact ⟨append_assoc _ _ _, by rw [Node.roots_append, Node.sizeAll_append, Nat.add_assoc]⟩

theorem Adds.cons {node : Node} (first : Adds site stack now [number] [node])
    (second : Adds site now after others more) :
    Adds site stack after (number :: others) (node :: more) := first.append second

theorem Adds.isEmpty_eq (added : Adds site stack after numbers nodes) : numbers.isEmpty = nodes.isEmpty := by
  rw [added.numbered]
  cases nodes <;> rfl

variable {R : List Node → γ → δ → Prop}

protected theorem Mirrors.pure (related : R stack one other) :
    Mirrors site stack (pure one) (pure other) R := fun _ _ kept => .made kept related

protected theorem Mirrors.bind {step : Lowering α} {like : Build β} {f : α → Lowering γ}
    {g : β → Build δ} (first : Mirrors site stack step like Q)
    (rest : ∀ {now one other}, Q now one other → Mirrors site now (f one) (g other) R) :
    Mirrors site stack (step >>= f) (like >>= g) R := by
  intro cursor arena kept
  have ran := first cursor arena kept
  change Agrees site R
    (match (like.run site.tokens).run.run cursor with
      | (outcome, middle) => ExceptT.bindCont (fun value => g value site.tokens) outcome middle)
    (match ((step.run site.tokens).run.run cursor).run arena with
      | ((outcome, middle), between) => ExceptT.bindCont (fun value => f value site.tokens) outcome middle between)
  cases trees : (like.run site.tokens).run.run cursor with
  | mk outcome middle =>
    cases nodes : ((step.run site.tokens).run.run cursor).run arena with
    | mk result between =>
      rw [trees, nodes] at ran
      cases ran with
      | made kept related => exact rest related middle between kept
      | failed kept place => exact .failed kept place

protected theorem Mirrors.value (rest : Mirrors site stack (f value) (g value) R) :
    Mirrors site stack (pure value >>= f) (pure value >>= g) R := rest

protected theorem Mirrors.read (rest : Mirrors site stack (f site.tokens) (g site.tokens) R) :
    Mirrors site stack (read >>= f) (read >>= g) R := rest

protected theorem Mirrors.get (rest : ∀ cursor, Mirrors site stack (f cursor) (g cursor) R) :
    Mirrors site stack (get >>= f) (get >>= g) R := fun cursor => rest cursor cursor

protected theorem Mirrors.unsupported : Mirrors site stack (search (unsupported what)) (search (unsupported what)) R :=
  fun _ _ kept => .failed kept rfl

protected theorem Mirrors.unsupported_bind :
    Mirrors site stack (search (unsupported what) >>= f) (search (unsupported what) >>= g) R :=
  fun _ _ kept => .failed kept rfl

protected theorem Mirrors.ite {c : Prop} [Decidable c] (one : Mirrors site stack first left R)
    (two : Mirrors site stack second right R) :
    Mirrors site stack (if c then first else second) (if c then left else right) R := by
  split
  · exact one
  · exact two

/-! ### Searches -/

def Finds (site : Site) (P : α → Prop) (step : Build α) : Prop :=
  ∀ cursor, ∃ value after, (step.run site.tokens).run.run cursor = (.ok value, after) ∧ P value

variable {P : α → Prop}

protected theorem Finds.pure (known : P value) : Finds site P (pure value) :=
  fun cursor => ⟨value, cursor, rfl, known⟩

protected theorem Finds.bind (first : Finds site P step) (rest : ∀ value, P value → Finds site S (f value)) :
    Finds site S (step >>= f) := by
  intro cursor
  obtain ⟨value, middle, ran, known⟩ := first cursor
  obtain ⟨result, after, followed, found⟩ := rest value known middle
  refine ⟨result, after, ?_, found⟩
  change (match (step.run site.tokens).run.run cursor with
    | (outcome, middle) => ExceptT.bindCont (fun value => f value site.tokens) outcome middle) = _
  rw [ran]
  exact followed

protected theorem Finds.read (rest : Finds site P (f site.tokens)) : Finds site P (read >>= f) := rest

protected theorem Finds.get (rest : ∀ cursor, Finds site P (f cursor)) : Finds site P (get >>= f) :=
  fun cursor => rest cursor cursor

theorem finds_modify (f : Cursor → Cursor) : Finds site (fun _ => True) (modify f : Build PUnit) :=
  fun cursor => ⟨⟨⟩, f cursor, rfl, trivial⟩

protected theorem Finds.moveTo (index : Nat) : Finds site (fun _ => True) (moveTo index) := finds_modify _

theorem finds_passOver (offset : Nat) : Finds site (fun _ => True) (passOver offset) := .read (finds_modify _)

protected theorem Finds.closerOf (index : Option Nat) : Finds site (fun _ => True) (closerOf index) :=
  .bind (finds_modify _) fun _ _ => .read (.pure trivial)

protected theorem Finds.take (test : Shape → Bool) : Finds site (fun _ => True) (take test) := by
  refine .read (.get fun cursor => ?_)
  split
  · exact .bind (finds_modify _) fun _ _ => .pure trivial
  · exact .pure trivial

theorem finds_takeOpenParen : Finds site (fun _ => True) takeOpenParen := by
  refine .get fun cursor => .read ?_
  split
  · exact .bind (finds_modify _) fun _ _ => .pure trivial
  · exact .pure trivial

theorem Site.span? (site : Site) (index : Nat) : Lies site.bound (site.tokens.span? index) := by
  intro own found
  obtain ⟨piece, here, rfl⟩ := Option.map_eq_some_iff.mp found
  exact site.token piece (mem_of_getElem? here)

theorem Site.before? (site : Site) (floor : Nat) (span : Option Span) (test : Shape → Bool) :
    Lies site.bound (span.bind fun span => site.tokens.before? floor span.start test) := by
  intro own found
  obtain ⟨span, -, found⟩ := Option.bind_eq_some_iff.mp found
  obtain ⟨piece, here, rfl⟩ := Option.map_eq_some_iff.mp found
  have listed := mem_reverse.mp (mem_of_find?_eq_some here)
  exact site.token piece ((takeWhile_sublist _).subset (mem_of_mem_drop listed))

protected theorem Finds.spanOf (index : Option Nat) : Finds site (Lies site.bound) (spanOf index) := by
  refine .bind (finds_modify _) fun _ _ => .read (.pure fun own found => ?_)
  obtain ⟨index, -, found⟩ := Option.bind_eq_some_iff.mp found
  exact site.span? index own found

protected theorem Finds.takeSpan (test : Shape → Bool) : Finds site (Lies site.bound) (takeSpan test) :=
  .bind (.take _) fun _ _ => .spanOf _

protected theorem Finds.kept (place : Option Nat) : Finds site (Lies site.bound) (kept place) := by
  refine .read ?_
  split
  · exact .bind (.moveTo _) fun _ _ => .pure (site.span? _)
  · exact .pure lies_none

protected theorem Finds.close (index : Option Nat) : Finds site (Lies site.bound) (close index) := by
  cases index with
  | none => exact .pure lies_none
  | some index => exact .bind (.moveTo _) fun _ _ => .spanOf _

protected theorem Finds.enclosing (span : Option Span) : Finds site (Lies site.bound) (enclosing span) := by
  refine .read ?_
  split
  · split
    · exact .bind (.moveTo _) fun _ _ => .pure (lies_ends (site.span? _) (site.span? _))
    · exact .pure lies_none
  · exact .pure lies_none

protected theorem Finds.identSpan (named : site.Named parts) (listed : ident ∈ parts) :
    Finds site (Lies site.bound) (identSpan ident) := by
  refine .read ?_
  extract_lets next
  have goesOn (found : Option Span) (lies : Lies site.bound found) : Finds site (Lies site.bound) (next found) := by
    simp only [next]
    split
    · exact .bind (finds_passOver _) fun _ _ => .pure lies
    · exact .pure lies_none
  clear_value next
  split
  · rename_i piece sought
    refine .bind (.pure ?_) goesOn
    rintro own ⟨⟩
    exact (site.name parts named).alone ident listed piece sought
  · exact .get fun _ => .bind (.spanOf _) goesOn

theorem eq_of_fieldName? (found : fieldName? key = some name) : key = .name [name] := by
  unfold fieldName? at found
  split at found <;> cases found
  rfl

theorem finds_direction (ascending nullsFirst : Option Bool) :
    Finds site (fun spans => ∀ span ∈ spans, Lies site.bound span) (direction ascending nullsFirst) := by
  unfold direction
  extract_lets next
  have goesOn (word : Option Span) (lies : Lies site.bound word) :
      Finds site (fun spans => ∀ span ∈ spans, Lies site.bound span) (next word) := by
    simp only [next]
    split
    · refine .bind (.takeSpan _) fun _ _ => .bind (.takeSpan _) fun _ last => ?_
      exact .pure (by simp [lies, last])
    · exact .bind (P := Lies site.bound) (.pure lies_none) fun _ last => .pure (by simp [lies, last])
  clear_value next
  split
  · exact .bind (.takeSpan _) goesOn
  · exact .bind (.takeSpan _) goesOn
  · exact .bind (.pure lies_none) goesOn

protected theorem Mirrors.search {step : Build α} {f : α → Lowering γ} {g : α → Build δ} (finds : Finds site P step)
    (rest : ∀ value, P value → Mirrors site stack (f value) (g value) R) :
    Mirrors site stack (search step >>= f) (search step >>= g) R := by
  refine .bind (Q := fun now one other => now = stack ∧ one = other ∧ P one) (fun cursor arena kept => ?_) ?_
  · obtain ⟨value, after, ran, known⟩ := finds cursor
    change Agrees _ _ ((step.run site.tokens).run.run cursor) ((step.run site.tokens).run.run cursor, arena)
    rw [ran]
    exact .made kept ⟨rfl, rfl, known⟩
  · rintro now one other ⟨rfl, rfl, known⟩
    exact rest one known

/-! ### Nodes -/

def Puts (site : Site) (stack after : List Node) (number : Nat) (node : Node) : Prop :=
  Adds site stack after [number] [node]

variable {numbers : List Nat} {nodes : List Node}

/-- A node takes its children from the top of the stack, if it makes a sound tree of them. -/
protected theorem Mirrors.node (children : Adds site stack now numbers nodes)
    (sound : (∀ child ∈ nodes, child.Sound site.bound) → (Node.mk kind span nodes).Sound site.bound) :
    Mirrors site now (node kind span numbers) (node kind span nodes) fun after number made =>
      Puts site stack after number made ∧ made = .mk kind span nodes := by
  obtain ⟨rfl, rfl⟩ := children
  intro cursor arena kept
  obtain ⟨grown, put, lies⟩ := kept.holds.put kind span
  obtain ⟨others, below⟩ := forall_mem_append.mp kept.sound
  change Agrees _ _ _
    ((.ok (arena.put kind span (Node.roots (site.before.length + Node.sizeAll stack) nodes)).1, cursor),
      (arena.put kind span (Node.roots (site.before.length + Node.sizeAll stack) nodes)).2)
  rw [put]
  exact .made ⟨lies, forall_mem_append.mpr ⟨others, by simpa using sound below⟩⟩ ⟨⟨rfl, rfl⟩, rfl⟩

theorem Mirrors.mono {step : Lowering γ} {like : Build δ} {S : List Node → γ → δ → Prop}
    (mirrors : Mirrors site stack step like S) (weaker : ∀ {now one other}, S now one other → R now one other) :
    Mirrors site stack step like R := by
  intro cursor arena kept
  have ran := mirrors cursor arena kept
  revert ran
  generalize (like.run site.tokens).run.run cursor = made
  generalize ((step.run site.tokens).run.run cursor).run arena = put
  rintro (⟨kept, related⟩ | ⟨kept, place⟩)
  · exact .made kept (weaker related)
  · exact .failed kept place

protected theorem Mirrors.leaf (lies : Lies site.bound span) (other : kind.Free := by simp) :
    Mirrors site stack (leaf kind span) (leaf kind span) fun after number made =>
      Puts site stack after number made ∧ made = .leaf kind span :=
  .node .nil fun _ => .leaf other lies

protected theorem Mirrors.leaf_only (lies : Lies site.bound span) (other : kind.Free := by simp) :
    Mirrors site stack (leaf kind span) (leaf kind span) (Puts site stack) :=
  (Mirrors.leaf lies other).mono fun put => put.1

protected theorem Mirrors.word {name : String} {f : Nat → Lowering γ} {g : Node → Build δ} (lies : Lies site.bound span)
    (rest : ∀ {now number made}, Puts site stack now number made → Mirrors site now (f number) (g made) R) :
    Mirrors site stack (leaf (.identifier name) span >>= fun word => node .path span [word] >>= f)
      (leaf (.identifier name) span >>= fun word => node .path span [word] >>= g) R := by
  refine .bind (.leaf lies) @fun now number made word => ?_
  obtain ⟨put, rfl⟩ := word
  exact .bind (.node put fun _ => .word lies) fun path => rest path.1

protected theorem Mirrors.cover (children : Adds site stack now numbers nodes)
    (sound : (∀ child ∈ nodes, child.Sound site.bound) → (Node.covering kind nodes spans).Sound site.bound) :
    Mirrors site now (covering kind numbers spans) (covering kind nodes spans) fun after number made =>
      Puts site stack after number made ∧ made = .covering kind nodes spans := by
  intro cursor arena kept
  have spans_eq : numbers.map arena.span? = nodes.map Node.span := by
    obtain ⟨rfl, rfl⟩ := children
    exact kept.holds.spans
  let cover (own : List (Option Span)) := Span.coverAll ((own ++ spans).filterMap id)
  change Agrees _ _ (((node kind (cover (nodes.map Node.span)) nodes : Build Node).run site.tokens).run.run cursor)
    ((((node kind (cover (numbers.map arena.span?)) numbers : Lowering Nat).run site.tokens).run.run
      cursor).run arena)
  rw [spans_eq]
  exact Mirrors.node children sound cursor arena kept

protected theorem Mirrors.covering (children : Adds site stack now numbers nodes)
    (extra : ∀ span ∈ spans, Lies site.bound span := by simp) (other : kind.Free := by simp) :
    Mirrors site now (covering kind numbers spans) (covering kind nodes spans) (Puts site stack) :=
  (Mirrors.cover children fun below => .covering other below extra).mono fun put => put.1

protected theorem Mirrors.spanOfNode (added : Puts site stack now number made)
    (rest : Mirrors site now (f made.span) (g made.span) R) :
    Mirrors site now (spanOfNode number >>= f) (spanOfNode made >>= g) R := by
  obtain ⟨rfl, numbered⟩ := added
  intro cursor arena kept
  have spans := kept.holds.spans
  rw [← numbered] at spans
  have same : arena.span? number = made.span := cons.inj spans |>.1
  change Agrees _ _ _ (((f (arena.span? number)).run site.tokens |>.run.run cursor).run arena)
  rw [same]
  exact rest cursor arena kept

/-- Steps one by one, each of which puts trees on top of which something holds. -/
protected theorem Mirrors.mapM (view : γ → List Nat) (like : δ → List Node) {f : α → Lowering γ} {g : α → Build δ}
    {items : List α} {P : Node → Prop} (every : ∀ item ∈ items, ∀ stack, Mirrors site stack (f item) (g item)
      fun after one other => Adds site stack after (view one) (like other) ∧ ∀ node ∈ like other, P node) :
    Mirrors site stack (items.mapM f) (items.mapM g) fun after ones others =>
      Adds site stack after (ones.flatMap view) (others.flatMap like) ∧ ∀ node ∈ others.flatMap like, P node := by
  induction items generalizing stack with
  | nil => exact .pure ⟨.nil, by simp⟩
  | cons item rest ih =>
    rw [mapM_cons, mapM_cons]
    refine .bind (every item mem_cons_self stack) @fun now one other first => ?_
    refine .bind (ih fun item listed => every item (mem_cons_of_mem _ listed)) @fun after ones others more => ?_
    refine .pure ⟨first.1.append more.1, ?_⟩
    exact forall_mem_append.mpr ⟨first.2, more.2⟩

protected theorem Mirrors.nodes {f : α → Lowering Nat} {g : α → Build Node} {items : List α} {P : Node → Prop}
    (every : ∀ item ∈ items, ∀ stack, Mirrors site stack (f item) (g item) fun after number made =>
      Puts site stack after number made ∧ P made) :
    Mirrors site stack (items.mapM f) (items.mapM g) fun after numbers nodes =>
      Adds site stack after numbers nodes ∧ ∀ node ∈ nodes, P node := by
  have each : Mirrors site stack (items.mapM f) (items.mapM g) _ :=
    .mapM (fun number => [number]) (fun node => [node]) fun item listed stack =>
      (every item listed stack).mono fun put => ⟨put.1, by simpa using put.2⟩
  simpa only [flatMap_singleton'] using each

protected theorem Mirrors.mapM_puts {f : α → Lowering Nat} {g : α → Build Node} {items : List α}
    (every : ∀ item ∈ items, ∀ stack, Mirrors site stack (f item) (g item) (Puts site stack)) :
    Mirrors site stack (items.mapM f) (items.mapM g) (Adds site stack) :=
  (Mirrors.nodes (P := fun _ => True) fun item listed stack =>
    (every item listed stack).mono fun put => ⟨put, trivial⟩).mono fun added => added.1

/-! ### Names -/

protected theorem Mirrors.identifier {parts : List Ident} (named : site.Named parts) (listed : ident ∈ parts) :
    Mirrors site stack (identifier ident) (identifier ident) fun after number made =>
      Puts site stack after number made ∧ NamedBy parts made :=
  .search (.identSpan named listed) fun span lies =>
    (Mirrors.leaf lies).mono fun put => ⟨put.1, ident, listed, span, put.2⟩

protected theorem Mirrors.aliasName (named : site.Named [name]) :
    Mirrors site stack (aliasName name) (aliasName name) (Puts site stack) :=
  .search (.identSpan named mem_cons_self) fun _ lies => .leaf_only lies

theorem mirrors_sharedNodes {parts : List Ident} (named : site.Named parts) (grouped : group ∈ groupShared parts) :
    Mirrors site stack (sharedNodes group) (sharedNodes group) fun after numbers nodes =>
      Adds site stack after numbers nodes ∧ ∀ node ∈ nodes, NamedBy parts node := by
  have inside := (sublist_of_mem_groupShared grouped).subset
  have oneByOne : Mirrors site stack (group.mapM identifier) (group.mapM identifier) fun after numbers nodes =>
      Adds site stack after numbers nodes ∧ ∀ node ∈ nodes, NamedBy parts node :=
    .nodes fun ident listed stack => .identifier named (inside listed)
  refine .read ?_
  split
  · rename_i first second rest
    split
    · rename_i outer sought
      refine .bind (.nodes (P := NamedBy parts) fun part cut stack => ?_) fun added =>
        .search (finds_passOver _) fun _ _ => .pure added
      obtain ⟨index, numbered, covered⟩ := Option.bind_eq_some_iff.mp sought
      obtain ⟨piece, here, rfl⟩ := Option.map_eq_some_iff.mp covered
      have found : piece ∈ site.tokens.named? first := Option.bind_eq_some_iff.mpr ⟨index, numbered, here⟩
      have room := (site.name parts named).together _ grouped (by simp) first mem_cons_self piece found
      have starts := site.token piece (mem_of_getElem? here)
      have lies := sharedParts_inside (Nat.le_succ_of_le starts.1) (by omega) part cut
      obtain ⟨ident, listed, same⟩ := sharedParts_named inside part cut
      refine (Mirrors.leaf (by simpa [Lies] using lies)).mono fun put => ?_
      exact ⟨put.1, ident, listed, some part.2, by rw [same]; exact put.2⟩
    · exact oneByOne
  · exact oneByOne

protected theorem Mirrors.path {parts : List Ident} (named : site.Named parts) :
    Mirrors site stack (path parts) (path parts) fun after number made =>
      Puts site stack after number made ∧ PathOf parts made := by
  refine .bind (.mapM id id fun group grouped _ => mirrors_sharedNodes named grouped)
    @fun now numbers nodes added => ?_
  rw [flatMap_id, flatMap_id] at added
  refine (Mirrors.cover added.1 fun below => .covering (by simp) below (by simp)).mono fun put => ⟨put.1, ?_⟩
  rw [put.2]
  exact ⟨rfl, added.2⟩

/-! ### Parts of constructs -/

protected theorem Mirrors.literal (value : Literal) :
    Mirrors site stack (literal value) (literal value) (Puts site stack) := by
  unfold literal
  split
  · exact .search (.takeSpan _) fun _ lies => .leaf_only lies
  · exact .unsupported

protected theorem Mirrors.tableAlias? {aliasName : Option TableAlias} (named : AllNames site.Named aliasName) :
    Mirrors site stack (tableAlias? aliasName) (tableAlias? aliasName) (Adds site stack) := by
  cases aliasName with
  | none => exact .pure .nil
  | some aliasName =>
    refine .bind (Q := Puts site stack) ?_ fun added => .pure added
    exact .ite (.aliasName (allNames_some.mp named)) .unsupported

protected theorem Mirrors.star {all : Star} (named : AllNames site.Named all) :
    Mirrors site stack (star all) (star all) (Puts site stack) := by
  unfold star
  refine .ite .unsupported (.search (.kept _) fun symbol symbolLies => ?_)
  refine .bind (.mapM_puts fun ident listed _ =>
    (Mirrors.identifier (named ident listed) mem_cons_self).mono fun put => put.1)
    @fun now numbers nodes excluded => ?_
  rw [excluded.isEmpty_eq]
  extract_lets next nextTree
  have goesOn (close : Option Span) (lies : Lies site.bound close) :
      Mirrors site now (next close) (nextTree close) (Puts site stack) :=
    .covering excluded (by simp [symbolLies, lies])
  clear_value next nextTree
  refine .ite ?_ (.search (.takeSpan _) goesOn)
  exact .value (goesOn none lies_none)

protected theorem Mirrors.openKeywordCall (keyword : String) :
    Mirrors site stack (openKeywordCall keyword) (openKeywordCall keyword) fun after one other =>
      Puts site stack after one.1 other.1 ∧ one.2 = other.2 := by
  unfold openKeywordCall
  refine .search (.take _) fun index _ => .search (.spanOf _) fun span lies => ?_
  refine .word lies fun name => .read ?_
  dsimp only
  split
  · exact .search (finds_modify _) fun _ _ => .pure ⟨name, rfl⟩
  · exact .pure ⟨name, rfl⟩

protected theorem Mirrors.closeKeywordCall (children : Adds site stack now (number :: numbers) (name :: nodes)) :
    Mirrors site now (closeKeywordCall number stop numbers) (closeKeywordCall name stop nodes) (Puts site stack) :=
  .search (.close _) fun _ lies => .covering children (by simp [lies])

protected theorem Mirrors.partOf (every : Mirrors site stack items like (Adds site stack))
    (other : kind.Free := by simp) :
    Mirrors site stack (part present keyword kind items) (part present keyword kind like) fun after numbers nodes =>
      Adds site stack after numbers nodes ∧ (nodes.map Node.kind).Sublist [kind] := by
  refine .ite (.search (.takeSpan _) fun keyword lies => ?_) (.pure ⟨.nil, by simp⟩)
  refine .bind every fun children => ?_
  refine .bind (.cover children fun below => .covering other below (by simp [lies])) fun added => ?_
  refine .pure ⟨added.1, ?_⟩
  rw [added.2]
  exact .refl _

protected theorem Mirrors.part (every : Mirrors site stack items like (Adds site stack))
    (other : kind.Free := by simp) :
    Mirrors site stack (part present keyword kind items) (part present keyword kind like) (Adds site stack) :=
  (Mirrors.partOf every other).mono fun added => added.1

protected theorem Mirrors.windowSpec {base : Option String} (children : Adds site stack now numbers nodes)
    (differ : (nodes.map Node.kind).Nodup) (extra : ∀ span ∈ spans, Lies site.bound span) :
    Mirrors site now (covering (.windowSpec base) numbers spans) (covering (.windowSpec base) nodes spans)
      (Puts site stack) :=
  (Mirrors.cover children (.window differ extra)).mono fun put => put.1

theorem mirrors_bounds {hasLimit hasOffset : Bool} {limit : Lowering (List Nat)}
    (first : ∀ stack, Mirrors site stack limit likeLimit (Adds site stack))
    (second : ∀ stack, Mirrors site stack offset likeOffset (Adds site stack)) :
    Mirrors site stack (bounds hasLimit hasOffset limit offset) (bounds hasLimit hasOffset likeLimit likeOffset)
      (Adds site stack) := by
  refine .ite (.search (.takeSpan _) fun keyword lies => ?_)
    (.ite .unsupported (.pure .nil))
  refine .bind (first stack) @fun counted _ _ count => ?_
  extract_lets next nextTree
  have goesOn {now numbers nodes} (more : Adds site counted now numbers nodes) :
      Mirrors site now (next numbers) (nextTree nodes) (Adds site stack) := by
    refine .bind (.covering (count.append more) (by simp [lies])) fun added => ?_
    exact .pure added
  clear_value next nextTree
  refine .ite (.search (.takeSpan _) fun _ _ => ?_) ?_
  · exact .bind (second _) goesOn
  · exact .bind (.pure .nil) goesOn

/-! ### The tree builder -/

mutual
protected theorem Mirrors.query : (source : Query) → source.AllNames site.Named → ∀ stack,
    Mirrors site stack (query source) (query source) (Puts site stack)
  | .mk withHead entries body orderBy limit offset offsetRows extra, named, stack => by
    obtain ⟨entriesNamed, bodyNamed, orderNamed, limitNamed, offsetNamed⟩ := named
    unfold query
    refine .ite .unsupported ?_
    extract_lets next nextTree
    have goesOn {now numbers nodes} (common : Adds site stack now numbers nodes) :
        Mirrors site now (next numbers) (nextTree nodes) (Puts site stack) := by
      refine .bind (.queryBody body bodyNamed now) fun rows => ?_
      refine .bind (.part (.orderItems orderBy orderNamed _)) fun order => ?_
      refine .bind (mirrors_bounds (.expr? limit limitNamed) (.expr? offset offsetNamed))
        fun bounds => ?_
      exact .covering ((common.append (rows.cons order)).append bounds)
    clear_value next nextTree
    cases withHead with
    | none => exact .bind (.pure .nil) goesOn
    | some head =>
      refine .ite .unsupported_bind (.search (.kept _) fun keyword lies => ?_)
      refine .bind (.ctes entries entriesNamed stack) fun children => ?_
      refine .bind (.cover children.1 fun below => .withClause children.2 (by simp [lies]) below)
        fun clause => ?_
      exact .bind (.pure clause.1) goesOn

protected theorem Mirrors.ctes : (entries : List Cte) → cteNames site.Named entries → ∀ stack,
    Mirrors site stack (ctes entries) (ctes entries) fun after numbers nodes =>
      Adds site stack after numbers nodes ∧ ∀ node ∈ nodes, ∃ name, node.kind = .withEntry name
  | [], _, _ => .pure ⟨.nil, by simp⟩
  | .mk aliasName body source place :: rest, named, stack => by
    obtain ⟨⟨aliasNamed, bodyNamed⟩, restNamed⟩ := named
    refine .ite .unsupported ?_
    refine .search (.identSpan aliasNamed mem_cons_self) fun name nameLies => ?_
    refine .bind (.query body bodyNamed stack) fun rows => ?_
    refine .search (.kept _) fun close closeLies => ?_
    refine .bind (.cover rows fun below => .covering (by simp) below (by simp [nameLies, closeLies]))
      fun entry => ?_
    obtain ⟨put, rfl⟩ := entry
    exact .bind (.ctes rest restNamed _) fun others =>
      .pure ⟨put.cons others.1, forall_mem_cons.mpr ⟨⟨_, rfl⟩, others.2⟩⟩

protected theorem Mirrors.queryBody : (body : Body) → body.AllNames site.Named → ∀ stack,
    Mirrors site stack (queryBody body) (queryBody body) (Puts site stack)
  | .select head items source selection groupBy having windows qualify, named, stack => by
    obtain ⟨itemsNamed, sourceNamed, selectionNamed, groupNamed, havingNamed, windowsNamed, qualifyNamed⟩ := named
    unfold queryBody
    refine .ite .unsupported (.ite .unsupported ?_)
    refine .search (.kept _) fun keyword lies => ?_
    extract_lets definitions filter next definitionTrees filterTrees nextTree
    have defined (stack : List Node) : Mirrors site stack definitions definitionTrees (Adds site stack) :=
      .part (.namedWindows windows windowsNamed stack)
    have qualified (stack : List Node) : Mirrors site stack filter filterTrees (Adds site stack) :=
      .part (.expr? qualify qualifyNamed stack)
    clear_value definitions filter definitionTrees filterTrees
    have goesOn (distinct : Bool) :
        Mirrors site stack (next distinct) (nextTree distinct) (Puts site stack) := by
      refine .bind (.selectColumns items itemsNamed stack) fun columns => ?_
      refine .bind (.covering columns) @fun listed _ _ list => ?_
      have tables : Mirrors site listed (do return [← fromItem source]) (do return [← fromItem source])
          (Adds site listed) :=
        .bind (.fromItem source sourceNamed listed) fun item => .pure item
      refine .bind (.part tables) fun sources => ?_
      refine .bind (.part (.expr? selection selectionNamed _)) @fun filtered _ _ selected => ?_
      extract_lets next nextTree
      have goesOn {now numbers nodes}
          (groups : Adds site filtered now numbers nodes) :
          Mirrors site now (next numbers) (nextTree nodes) (Puts site stack) := by
        refine .bind (.part (.expr? having havingNamed _)) @fun kept _ _ havings => ?_
        extract_lets next nextTree
        have goesOn {now numbers nodes}
            (last : Adds site kept now numbers nodes) :
            Mirrors site now (next numbers) (nextTree nodes) (Puts site stack) :=
          .covering
            (((((list.cons sources).append selected).append groups).append havings).append last) (by simp [lies])
        clear_value next nextTree
        refine .ite ?_ ?_
        · refine .bind (defined _) fun one => .bind (qualified _) fun two => ?_
          exact .bind (.pure (one.append two)) goesOn
        · refine .bind (qualified _) fun one => .bind (defined _) fun two => ?_
          exact .bind (.pure (one.append two)) goesOn
      clear_value next nextTree
      refine .ite .unsupported_bind ?_
      exact .bind (.part (.exprs groupBy groupNamed _)) goesOn
    clear_value next nextTree
    cases head.distinct with
    | no => exact .value (goesOn false)
    | yes => exact .search (.takeSpan _) fun _ _ => .value (goesOn true)
    | on _ => exact .unsupported_bind
  | .query body, named, stack => .query body named stack
  | .setOperation op quantifier left right, named, stack => by
    obtain ⟨leftNamed, rightNamed⟩ := named
    have both (kind : Kind) (other : kind.Free) : Mirrors site stack (do
        let left ← queryBody left
        let right ← queryBody right
        covering kind [left, right] []) (do
        let left ← queryBody left
        let right ← queryBody right
        covering kind [left, right] []) (Puts site stack) := by
      refine .bind (.queryBody left leftNamed stack) fun first => ?_
      refine .bind (.queryBody right rightNamed _) fun second => ?_
      exact .covering (first.cons second) (by simp) other
    cases quantifier with
    | all | distinct => exact both _ (by simp)
    | _ => exact .unsupported
  | .foreign _, _, _ => .unsupported

protected theorem Mirrors.namedWindows : (windows : List NamedWindow) → namedWindowNames site.Named windows → ∀ stack,
    Mirrors site stack (namedWindows windows) (namedWindows windows) (Adds site stack)
  | [], _, _ => .pure .nil
  | .mk name definition :: rest, named, stack => by
    obtain ⟨⟨nameNamed, windowNamed⟩, restNamed⟩ := named
    refine .search (.identSpan nameNamed mem_cons_self) fun _ lies => ?_
    refine .search (.takeSpan _) fun _ _ => ?_
    refine .bind (.window none lies_none definition windowNamed stack) fun spec => ?_
    refine .bind (.covering spec (by simp [lies])) fun defined => ?_
    exact .bind (.namedWindows rest restNamed _) fun others => .pure (defined.cons others)

protected theorem Mirrors.window (keyword : Option Span) (lies : Lies site.bound keyword) :
    (definition : Window) → definition.AllNames site.Named → ∀ stack,
      Mirrors site stack (window keyword definition) (window keyword definition) (Puts site stack)
  | .named name, named, _ =>
    .search (.identSpan named mem_cons_self) fun _ nameLies =>
      .windowSpec .nil (by simp) (by simp [lies, nameLies])
  | .spec base partitionBy orderBy _, named, stack => by
    obtain ⟨baseNamed, partitionNamed, orderNamed⟩ := named
    refine .search (.take _) fun start _ => .search (.closerOf _) fun stop _ => ?_
    extract_lets next nextTree
    have goesOn (base : Option String) :
        Mirrors site stack (next base) (nextTree base) (Puts site stack) := by
      refine .bind (.partOf (.exprs partitionBy partitionNamed stack))
        fun partition => ?_
      refine .bind (.partOf (.orderItems orderBy orderNamed _)) fun order => ?_
      refine .search (.spanOf _) fun _ starts => .search (.close _) fun _ stops => ?_
      refine .windowSpec (partition.1.append order.1) ?_ (by simp [lies, starts, stops])
      rw [map_append]
      exact (partition.2.append order.2).nodup (by simp)
    clear_value next nextTree
    cases base with
    | none => exact .value (goesOn none)
    | some name =>
      refine .search (.identSpan (allNames_some.mp baseNamed) mem_cons_self) fun _ _ => ?_
      exact .value (goesOn _)

protected theorem Mirrors.selectColumns : (items : List SelectItem) → itemNames site.Named items → ∀ stack,
    Mirrors site stack (selectColumns items) (selectColumns items) (Adds site stack)
  | [], _, _ => .pure .nil
  | .expr value name :: rest, named, stack => by
    obtain ⟨⟨valueNamed, aliasNamed⟩, restNamed⟩ := named
    refine .bind (.expr value valueNamed stack) @fun valued _ _ value => ?_
    extract_lets next nextTree
    have goesOn {now numbers nodes} (aliases : Adds site valued now numbers nodes) :
        Mirrors site now (next numbers) (nextTree nodes) (Adds site stack) := by
      refine .bind (.covering (value.cons aliases)) fun column => ?_
      exact .bind (.selectColumns rest restNamed _) fun others => .pure (column.cons others)
    clear_value next nextTree
    cases name with
    | none => exact .bind (.pure .nil) goesOn
    | some name =>
      refine .bind (.aliasName (allNames_some.mp aliasNamed)) fun given => ?_
      exact .bind (.pure given) goesOn
  | .star [] all :: rest, named, stack => by
    obtain ⟨⟨_, allNamed⟩, restNamed⟩ := named
    refine .bind (.star allNamed) fun all => ?_
    refine .bind (.covering all) fun column => ?_
    exact .bind (.selectColumns rest restNamed _) fun others => .pure (column.cons others)
  | .star (first :: more) all :: rest, named, stack => by
    obtain ⟨⟨nameNamed, allNamed⟩, restNamed⟩ := named
    refine .bind (.path nameNamed) fun name => .bind (.star allNamed) fun all => ?_
    refine .bind (.covering (name.1.cons all)) fun qualified => ?_
    refine .bind (.covering qualified) fun column => ?_
    exact .bind (.selectColumns rest restNamed _) fun others => .pure (column.cons others)

protected theorem Mirrors.fromItem : (source : Source) → source.AllNames site.Named → ∀ stack,
    Mirrors site stack (fromItem source) (fromItem source) (Puts site stack)
  | .nothing, _, _ => .unsupported
  | .table name aliasName notes, named, stack => by
    obtain ⟨nameNamed, aliasNamed⟩ := named
    refine .ite .unsupported (.bind (.path nameNamed) fun path => ?_)
    refine .bind (.tableAlias? aliasNamed) fun aliased => ?_
    exact (Mirrors.cover (path.1.cons aliased) (.tablePath name path.2)).mono fun put => put.1
  | .derived lateral body aliasName, named, stack => by
    obtain ⟨bodyNamed, aliasNamed⟩ := named
    refine .ite .unsupported (.bind (.query body bodyNamed stack) fun rows => ?_)
    refine .spanOfNode rows (.search (.enclosing _) fun parens lies => ?_)
    refine .bind (.tableAlias? aliasNamed) fun aliased => ?_
    exact .covering (rows.cons aliased) (by simp [lies])
  | .unnest [array] ordinality aliasName offset offsetAlias, named, stack => by
    obtain ⟨⟨arrayNamed, _⟩, aliasNamed, offsetNamed⟩ := named
    refine .ite .unsupported (.search (.take _) fun index _ => .read ?_)
    extract_lets parens
    refine .bind (.expr array arrayNamed stack) fun array => ?_
    refine .search (.close _) fun stop stops => ?_
    refine .bind (.tableAlias? aliasNamed) @fun aliased _ _ aliases => ?_
    extract_lets next nextTree
    have goesOn {now numbers nodes}
        (numbering : Adds site aliased now numbers nodes) :
        Mirrors site now (next numbers) (nextTree nodes) (Puts site stack) :=
      .search (.spanOf _) fun _ starts =>
        .covering ((array.cons aliases).append numbering) (by simp [starts, stops])
    clear_value next nextTree
    refine .ite ?_ (.bind (.pure .nil) goesOn)
    refine .search (.takeSpan _) fun _ first => .search (.takeSpan _) fun _ second => ?_
    refine .bind (.mapM_puts fun name listed _ =>
      .aliasName (offsetNamed name (by simpa using listed))) fun names => ?_
    refine .bind (.covering names (by simp [first, second])) fun numbering => ?_
    exact .bind (.pure numbering) goesOn
  | .unnest [] _ _ _ _, _, _ | .unnest (_ :: _ :: _) _ _ _ _, _, _ => .unsupported
  | .nested joined none, named, stack => .fromItem joined named.1 stack
  | .nested _ (some _), _, _ => .unsupported
  | .join left isGlobal op right words condition, named, stack => by
    obtain ⟨leftNamed, rightNamed, conditionNamed⟩ := named
    refine .bind (.fromItem left leftNamed stack) fun first => ?_
    split
    · refine .bind (.fromItem right rightNamed _) fun second => ?_
      split
      · refine .bind (.part (.expr? condition conditionNamed _)) fun on => ?_
        exact .covering (first.cons (second.cons on))
      · exact .unsupported
    · exact .unsupported
  | .comma left right, named, stack => by
    refine .bind (.fromItem left named.1 stack) fun first => ?_
    refine .bind (.fromItem right named.2 _) fun second => ?_
    exact .covering (first.cons second)
  | .foreign _, _, _ => .unsupported

protected theorem Mirrors.orderItems : (items : List OrderItem) → orderNames site.Named items → ∀ stack,
    Mirrors site stack (orderItems items) (orderItems items) (Adds site stack)
  | [], _, _ => .pure .nil
  | .mk value ascending nullsFirst :: rest, named, stack => by
    refine .bind (.expr value named.1 stack) fun value => ?_
    refine .search (finds_direction _ _) fun words lie => ?_
    refine .bind (.covering value lie) fun item => ?_
    exact .bind (.orderItems rest named.2 _) fun others => .pure (item.cons others)

protected theorem Mirrors.exprs : (values : List Expr) → exprsNames site.Named values → ∀ stack,
    Mirrors site stack (exprs values) (exprs values) (Adds site stack)
  | [], _, _ => .pure .nil
  | value :: rest, named, stack =>
    .bind (.expr value named.1 stack) fun value =>
      .bind (.exprs rest named.2 _) fun others => .pure (value.cons others)

protected theorem Mirrors.expr? : (value : Option Expr) → exprNames? site.Named value → ∀ stack,
    Mirrors site stack (expr? value) (expr? value) (Adds site stack)
  | none, _, _ => .pure .nil
  | some value, named, stack => .bind (.expr value named stack) fun value => .pure value

theorem mirrors_overClause : (analytic : Option Window) → windowNames? site.Named analytic → ∀ stack,
    Mirrors site stack (overClause analytic) (overClause analytic) (Adds site stack)
  | none, _, _ => .pure .nil
  | some definition, named, stack =>
    .search (.takeSpan _) fun keyword lies =>
      .bind (.window keyword lies definition named stack) fun spec => .pure spec

protected theorem Mirrors.branches : (whens : List Branch) → branchesNames site.Named whens → ∀ stack,
    Mirrors site stack (branches whens) (branches whens) (Adds site stack)
  | [], _, _ => .pure .nil
  | .mk condition result :: rest, named, stack => by
    obtain ⟨⟨conditionNamed, resultNamed⟩, restNamed⟩ := named
    refine .search (.takeSpan _) fun keyword lies => ?_
    refine .bind (.expr condition conditionNamed stack) fun condition => ?_
    refine .search (.takeSpan _) fun _ _ => ?_
    refine .bind (.expr result resultNamed _) fun result => ?_
    refine .bind (.covering (condition.cons result) (by simp [lies])) fun branch => ?_
    exact .bind (.branches rest restNamed _) fun others => .pure (branch.cons others)

theorem mirrors_soleArgument : (call : Expr) → call.AllNames site.Named → ∀ stack,
    Mirrors site stack (soleArgument call) (soleArgument call) (Puts site stack)
  | .call _ _ [index] _ _, named, stack => .expr index named.2.1.1 stack
  | .call _ _ [] _ _, _, _ | .call _ _ (_ :: _ :: _) _ _, _, _
  | .name _, _, _ | .literal _, _, _ | .nested _, _, _ | .typed .., _, _ | .unary .., _, _ | .binary .., _, _
  | .like .., _, _ | .isNull .., _, _ | .inList .., _, _ | .inQuery .., _, _ | .inUnnest .., _, _ | .between .., _, _
  | .cast .., _, _ | .extract .., _, _ | .rounding .., _, _ | .substring .., _, _ | .trim .., _, _ | .constant _, _, _
  | .callQuery .., _, _ | .star, _, _ | .case .., _, _ | .exist .., _, _ | .subquery _, _, _ | .array .., _, _
  | .index .., _, _ | .dot .., _, _ | .field .., _, _ | .interval .., _, _ | .foreign .., _, _ => .unsupported

protected theorem Mirrors.expr : (value : Expr) → value.AllNames site.Named → ∀ stack,
    Mirrors site stack (expr value) (expr value) (Puts site stack)
  | .name parts, named, _ => (Mirrors.path named).mono fun put => put.1
  | .literal value, _, _ => .literal value
  | .nested inner, named, stack => .expr inner named stack
  | .typed type text, _, stack => by
    refine .search (.take _) fun index _ => .search (.spanOf _) fun _ lies => ?_
    refine .bind (.leaf_only lies) fun value => ?_
    refine .search (.spanOf _) fun _ typeLies => ?_
    refine .bind (.leaf_only typeLies) fun typeName => ?_
    exact .covering (value.cons typeName)
  | .unary .plus operand, named, stack => .expr operand named stack
  | .unary .not operand, named, stack | .unary .minus operand, named, stack => by
    refine .get fun floor => .bind (.expr operand named stack) fun operand => .read ?_
    exact .spanOfNode operand (.covering operand (by simpa using site.before? floor _ _))
  | .binary left op right, named, stack => by
    unfold expr
    split
    · refine .bind (.expr left named.1 stack) fun first => ?_
      refine .bind (.expr right named.2 _) fun second => ?_
      exact .covering (first.cons second)
    · exact .unsupported
  | .like operand negated pattern, named, stack => by
    refine .bind (.expr operand named.1 stack) fun first => ?_
    refine .bind (.expr pattern named.2 _) fun second => ?_
    exact .covering (first.cons second)
  | .isNull operand negated, named, stack => by
    refine .bind (.expr operand named stack) fun operand => ?_
    exact .search (.takeSpan _) fun _ lies => .covering operand (by simp [lies])
  | .inList operand negated items, named, stack => by
    refine .bind (.expr operand named.1 stack) fun operand => ?_
    refine .bind (.exprs items named.2 _) fun items => ?_
    refine .search (.takeSpan _) fun _ lies => ?_
    exact .covering (operand.cons items) (by simp [lies])
  | .inQuery operand negated body, named, stack => by
    refine .bind (.expr operand named.1 stack) fun operand => ?_
    refine .bind (.query body named.2 _) fun rows => .spanOfNode rows ?_
    refine .search (.enclosing _) fun _ lies => ?_
    exact .covering (operand.cons rows) (by simp [lies])
  | .inUnnest operand negated array, named, stack => by
    refine .bind (.expr operand named.1 stack) fun operand => ?_
    refine .bind (.expr array named.2 _) fun array => .spanOfNode array ?_
    refine .search (.enclosing _) fun _ lies => ?_
    exact .covering (operand.cons array) (by simp [lies])
  | .between operand negated low high, named, stack => by
    obtain ⟨operandNamed, lowNamed, highNamed⟩ := named
    refine .bind (.expr operand operandNamed stack) fun operand => ?_
    refine .bind (.expr low lowNamed _) fun low => ?_
    refine .bind (.expr high highNamed _) fun high => ?_
    exact .covering (operand.cons (low.cons high))
  | .cast safe operand type, named, stack => by
    refine .search (.take _) fun index _ => .read ?_
    extract_lets parens next nextTree
    clear_value parens
    have goesOn (moved : Unit) : Mirrors site stack (next moved) (nextTree moved) (Puts site stack) := by
      refine .bind (.expr operand named stack) @fun built _ _ operand => ?_
      refine .search (.take _) fun as _ => ?_
      refine .search (.spanOf _) fun _ first => .search (.spanOf _) fun _ last => ?_
      refine .bind (.leaf_only (lies_ends first last)) fun typeName => ?_
      refine .search (.spanOf _) fun _ starts => .search (.close _) fun _ stops => ?_
      exact .covering (operand.cons typeName) (by simp [starts, stops])
    clear_value next nextTree
    split
    · exact .search (finds_modify _) fun _ _ => goesOn _
    · exact .value (goesOn ())
  | .extract part operand, named, stack => by
    refine .bind (.openKeywordCall _) ?_
    rintro _ ⟨_, stop⟩ ⟨_, _⟩ ⟨name, rfl⟩
    refine .search (.takeSpan _) fun span lies => .word lies fun part => ?_
    refine .search (.takeSpan _) fun _ _ => ?_
    refine .bind (.expr operand named _) fun operand => ?_
    exact .closeKeywordCall (name.cons (part.cons operand))
  | .rounding keyword operand scale, named, stack => by
    refine .bind (.openKeywordCall _) ?_
    rintro _ ⟨_, stop⟩ ⟨_, _⟩ ⟨name, rfl⟩
    refine .bind (.expr operand named _) fun operand => ?_
    refine .bind (.mapM_puts fun value _ _ => .literal value) fun scale => ?_
    exact .closeKeywordCall (name.cons (operand.cons scale))
  | .substring operand start length _, named, stack => by
    obtain ⟨operandNamed, startNamed, lengthNamed⟩ := named
    refine .bind (.openKeywordCall _) ?_
    rintro _ ⟨_, stop⟩ ⟨_, _⟩ ⟨name, rfl⟩
    refine .bind (.expr operand operandNamed _) fun operand => ?_
    refine .bind (.expr? start startNamed _) fun start => ?_
    refine .bind (.expr? length lengthNamed _) fun length => ?_
    exact .closeKeywordCall (name.cons ((operand.cons start).append length))
  | .trim operand characters, named, stack => by
    refine .bind (.openKeywordCall _) ?_
    rintro _ ⟨_, stop⟩ ⟨_, _⟩ ⟨name, rfl⟩
    refine .bind (.expr operand named.1 _) fun operand => ?_
    refine .bind (.exprs characters named.2 _) fun characters => ?_
    exact .closeKeywordCall (name.cons (operand.cons characters))
  | .constant name, named, stack =>
    .bind (.path named) fun name => .covering name.1
  | .callQuery [name] body, named, stack => by
    refine .search (.identSpan named.1 mem_cons_self) fun keyword nameLies => ?_
    refine .bind (.query body named.2 stack) fun rows => .spanOfNode rows ?_
    refine .search (.enclosing _) fun _ lies => ?_
    exact .covering rows (by simp [nameLies, lies])
  | .callQuery [] _, _, _ | .callQuery (_ :: _ :: _) _, _, _ => .unsupported_bind
  | .call name duplicates arguments notes analytic, named, stack => by
    obtain ⟨nameNamed, argumentsNamed, analyticNamed⟩ := named
    refine .ite .unsupported (.bind (.path nameNamed) fun name => ?_)
    refine .search finds_takeOpenParen fun start _ => ?_
    refine .bind (.exprs arguments argumentsNamed _) fun arguments => ?_
    refine .search (.closerOf _) fun _ _ => .search (.close _) fun _ lies => ?_
    refine .bind (mirrors_overClause analytic analyticNamed _) fun rows => ?_
    exact .covering ((name.1.cons arguments).append rows) (by simp [lies])
  | .star, _, _ => .search (.takeSpan _) fun _ lies => .leaf_only lies
  | .case operand whens otherwise, named, stack => by
    obtain ⟨operandNamed, whensNamed, otherwiseNamed⟩ := named
    refine .search (.takeSpan _) fun keyword starts => ?_
    refine .bind (.expr? operand operandNamed stack) fun operand => ?_
    refine .bind (.branches whens whensNamed _) fun whens => ?_
    refine .bind (.part (.expr? otherwise otherwiseNamed _)) fun otherwise => ?_
    rw [operand.isEmpty_eq]
    refine .search (.takeSpan _) fun _ stops => ?_
    exact .covering ((operand.append whens).append otherwise) (by simp [starts, stops])
  | .exist negated body, named, stack => by
    refine .get fun floor => .search (.takeSpan _) fun keyword lies => .read ?_
    extract_lets not
    have notLies : Lies site.bound not := by
      simp only [not]
      split
      · exact site.before? floor keyword _
      · exact lies_none
    refine .bind (.query body named stack) fun rows => .spanOfNode rows ?_
    refine .search (.enclosing _) fun _ parensLie => ?_
    exact .covering rows (by simp [notLies, lies, parensLie])
  | .subquery body, named, stack => by
    refine .bind (.query body named stack) fun rows => .spanOfNode rows ?_
    exact .search (.enclosing _) fun _ lies => .covering rows (by simp [lies])
  | .array bracketed items, named, stack => by
    refine .search (.take _) fun start _ => .search (.spanOf _) fun _ lies => ?_
    refine .bind (.exprs items named stack) fun items => ?_
    refine .search (.spanOf _) fun _ starts => .search (.closerOf _) fun _ _ => ?_
    exact .search (.close _) fun _ stops => .covering items (by simp [lies, starts, stops])
  | .index base key, named, stack => by
    refine .bind (.expr base named.1 stack) @fun based _ _ base => ?_
    extract_lets position next nextTree
    have goesOn {now number node} (key : Puts site based now number node) :
        Mirrors site now (next number) (nextTree node) (Puts site stack) :=
      .search (.takeSpan _) fun _ lies => .covering (base.cons key) (by simp [lies])
    clear_value next nextTree
    refine .ite ?_ ?_
    · exact .bind (mirrors_soleArgument key named.2 _) goesOn
    · exact .bind (.expr key named.2 _) goesOn
  | .dot base key, named, stack => by
    obtain ⟨baseNamed, keyNamed⟩ := named
    refine .bind (.expr base baseNamed stack) fun base => ?_
    split
    · rename_i found
      rw [eq_of_fieldName? found] at keyNamed
      refine .bind (.identifier keyNamed mem_cons_self) fun field => ?_
      exact .covering (base.cons field.1)
    · exact .unsupported
  | .field base field, named, stack => by
    refine .bind (.expr base named.1 stack) fun base => ?_
    refine .bind (.identifier named.2 mem_cons_self) fun field => ?_
    exact .covering (base.cons field.1)
  | .interval value unit _ final _, named, stack => by
    refine .search (.takeSpan _) fun keyword starts => ?_
    refine .bind (.expr value named stack) @fun built _ _ value => ?_
    refine .search (.takeSpan _) fun unitSpan unitLies => ?_
    extract_lets next nextTree
    have goesOn (span : Option Span) (lies : Lies site.bound span) :
        Mirrors site built (next span) (nextTree span) (Puts site stack) :=
      .covering value (by simp [starts, unitLies, lies])
    clear_value next nextTree
    cases final with
    | none => exact .value (goesOn none lies_none)
    | some final => exact .search (.takeSpan _) goesOn
  | .foreign kind _, _, _ => by cases kind <;> exact .unsupported
end

theorem mirrors_statement (named : source.AllNames site.Named) :
    Mirrors site stack (statement source site.bound) (statement source site.bound) (Puts site stack) := by
  refine .bind (.query source named stack) @fun _ _ rows put => ?_
  refine (Mirrors.node put fun sound => ?_).mono fun made => made.1
  have sound := sound rows mem_cons_self
  refine ⟨.mk (by simpa using sound.nests) fun own same => ?_, .mk (by simp) (by simpa using sound.proper)⟩
  cases same
  exact ⟨.refl _, by simpa using sound.nests.inside⟩

end Build

/-- A statement is put into an arena as it is made a tree by itself: behind the trees that are there, or in vain at the
same token. Its tree is sound. -/
theorem Build.Site.Keeps.lower {site : Build.Site} {query : Query} (kept : site.Keeps arena stack)
    (tokens : site.tokens = .of pieces) (named : query.AllNames site.Named) :
    (∃ node number grown, Node.ofQuery query pieces site.bound = .ok node ∧
      (Arena.lower query pieces site.bound).run arena = (.ok number, grown) ∧
      number = node.root (site.before.length + Node.sizeAll stack) ∧ site.Keeps grown (stack ++ [node])) ∨
    (∃ construct grown after index, Node.ofQuery query pieces site.bound = .error construct ∧
      (Arena.lower query pieces site.bound).run arena = (.error construct, grown) ∧
      construct.span = site.tokens.span? index ∧ grown.Holds site.before after) := by
  have agrees := Build.mirrors_statement named .start arena kept
  have tree : Node.ofQuery query pieces site.bound =
    (((Build.statement query site.bound : Build Node).run site.tokens).run.run .start).1 := by rw [tokens]; rfl
  have node : (Arena.lower query pieces site.bound).run arena =
    match (((Build.statement query site.bound : Lowering Nat).run site.tokens).run.run .start).run arena with
    | ((outcome, _), grown) => (outcome, grown) := by rw [tokens]; rfl
  rw [tree, node]
  revert agrees
  generalize ((Build.statement query site.bound : Build Node).run site.tokens).run.run .start = made
  generalize (((Build.statement query site.bound : Lowering Nat).run site.tokens).run.run .start).run arena = put
  rintro (⟨kept, rfl, numbered⟩ | ⟨kept, place⟩)
  · exact .inl ⟨_, _, _, rfl, rfl, (cons.inj numbered).1, kept⟩
  · exact .inr ⟨_, _, _, _, rfl, rfl, place, kept.holds⟩

end SqlLens.Surface
