import SqlLens.Proofs.Surface.Brackets
import SqlLens.Proofs.Surface.TablePaths
import SqlLens.Surface.Build
import Mathlib.Data.List.TakeWhile

/-!
Where the cursor finds tokens.

The tokens of a statement lie one behind the other (`Tokens.Rising`), and brackets close behind the token that opens
them. What a construct is made of lies from the token on where the cursor rested before, and ends before the token where
it rests then: `Row` says so of several nodes in a row, and of spans that belong to no node yet.
-/

namespace SqlLens.Surface

open List

variable {span : Option Span} {kind : Kind} {first second : Nat} {children : List Node}

/-! ### Tokens one behind the other -/

namespace Tokens

/-- The tokens follow one another and none is empty; their brackets are paired. -/
structure Rising (tokens : Tokens) : Prop where
  apart : tokens.pieces.Pairwise fun before after => before.span.stop ≤ after.span.start
  wide : ∀ piece ∈ tokens.pieces, piece.span.start < piece.span.stop
  paired : tokens.pairs = bracketPairs (tokens.pieces.map Piece.shape)

variable {tokens : Tokens}

section

variable {before after : Piece} (rising : tokens.Rising) (here : tokens.pieces[first]? = some before)
  (there : tokens.pieces[second]? = some after)

include rising here there

theorem Rising.stop_le (less : first < second) : before.span.stop ≤ after.span.start := by
  obtain ⟨inFirst, rfl⟩ := List.getElem?_eq_some_iff.mp here
  obtain ⟨inSecond, rfl⟩ := List.getElem?_eq_some_iff.mp there
  exact pairwise_iff_getElem.mp rising.apart first second inFirst inSecond less

theorem Rising.start_lt (less : first < second) : before.span.start < after.span.start :=
  Nat.lt_of_lt_of_le (rising.wide before (mem_of_getElem? here)) (rising.stop_le here there less)

theorem Rising.start_le (less : first ≤ second) : before.span.start ≤ after.span.start := by
  rcases Nat.lt_or_eq_of_le less with less | rfl
  · exact Nat.le_of_lt (rising.start_lt here there less)
  · cases here.symm.trans there
    exact Nat.le_refl _

end

theorem exists_of_le (there : tokens.pieces[second]? = some piece) (le : first ≤ second) :
    ∃ earlier, tokens.pieces[first]? = some earlier := by
  obtain ⟨inside, -⟩ := List.getElem?_eq_some_iff.mp there
  exact ⟨_, List.getElem?_eq_getElem (by omega)⟩

theorem from?_le (found : tokens.from? first test = some index) : first ≤ index := by
  obtain ⟨offset, -, rfl⟩ := Option.map_eq_some_iff.mp found
  exact Nat.le_add_left _ _

theorem past_spec (first offset : Nat) :
    first ≤ tokens.past first offset ∧
      ∀ piece, tokens.pieces[tokens.past first offset]? = some piece → offset ≤ piece.span.start := by
  refine ⟨Nat.le_add_right _ _, fun piece here => ?_⟩
  unfold past at here
  rw [← getElem?_drop] at here
  generalize tokens.pieces.drop first = rest at here
  induction rest with
  | nil => cases here
  | cons head rest ih =>
    by_cases starts : head.span.start < offset
    · rw [takeWhile_cons_of_pos (by simpa using starts), length_cons, getElem?_cons_succ] at here
      exact ih here
    · rw [takeWhile_cons_of_neg (by simpa using starts)] at here
      cases here
      omega

theorem before?_eq_some {span : Span} (found : tokens.before? floor offset test = some span) :
    ∃ index, floor ≤ index ∧ tokens.span? index = some span ∧ span.start < offset := by
  obtain ⟨piece, sought, rfl⟩ := Option.map_eq_some_iff.mp found
  have listed := mem_reverse.mp (mem_of_find?_eq_some sought)
  obtain ⟨number, bound, same⟩ := mem_drop_iff_getElem.mp listed
  have starts := mem_takeWhile_imp (mem_of_mem_drop listed)
  refine ⟨floor + number, Nat.le_add_right _ _, ?_, of_decide_eq_true starts⟩
  obtain ⟨rest, whole⟩ : (tokens.pieces.takeWhile fun piece => decide (piece.span.start < offset)) <+: tokens.pieces :=
    takeWhile_prefix _
  have inside := Nat.add_comm number floor ▸ bound
  rw [span?, ← whole, getElem?_append_left inside, getElem?_eq_some_iff.mpr ⟨inside, same⟩, Option.map_some]

theorem Rising.lt_closer (rising : tokens.Rising) (closed : tokens.closer? start = some stop) : start < stop := by
  have paired := mem_pairs closed
  rw [rising.paired] at paired
  exact ((pairing_pairsFrom .nil (by simp)).forward paired).1

end Tokens

variable {tokens : Tokens}

/-! ### Stretches of tokens -/

/-- A span that may be missing lies from one token on and before another. -/
def Lying (tokens : Tokens) (low high : Nat) (span : Option Span) : Prop :=
  ∀ own ∈ span, (∃ piece, tokens.pieces[low]? = some piece ∧ piece.span.start ≤ own.start) ∧
    ∀ piece, tokens.pieces[high]? = some piece → own.stop ≤ piece.span.start

theorem lying_none : Lying tokens low high none := by
  intro own given
  cases given

variable (rising : tokens.Rising)
include rising

theorem Lying.mono (lying : Lying tokens low high span) (below : lower ≤ low) (above : high ≤ higher) :
    Lying tokens lower higher span := by
  intro own given
  obtain ⟨⟨piece, here, starts⟩, ends⟩ := lying own given
  constructor
  · obtain ⟨earlier, there⟩ := Tokens.exists_of_le here below
    exact ⟨earlier, there, Nat.le_trans (rising.start_le there here below) starts⟩
  · intro later there
    obtain ⟨middle, between⟩ := Tokens.exists_of_le there above
    exact Nat.le_trans (ends middle between) (rising.start_le between there above)

theorem lying_span? (above : low ≤ index) (below : index < high) : Lying tokens low high (tokens.span? index) := by
  intro own found
  obtain ⟨piece, here, rfl⟩ := Option.map_eq_some_iff.mp found
  constructor
  · obtain ⟨earlier, there⟩ := Tokens.exists_of_le here above
    exact ⟨earlier, there, rising.start_le there here above⟩
  · intro later there
    exact rising.stop_le here there below

theorem Lying.stop_le {low middle between high : Nat} {first second : Option Span}
    (before : Lying tokens low middle first)
    (after : Lying tokens between high second) (le : middle ≤ between) (here : left ∈ first)
    (there : right ∈ second) : left.stop ≤ right.start := by
  obtain ⟨⟨later, at_, starts⟩, -⟩ := after right there
  obtain ⟨piece, found⟩ := Tokens.exists_of_le at_ le
  exact Nat.le_trans ((before left here).2 piece found) (Nat.le_trans (rising.start_le found at_ le) starts)

omit rising in
theorem Lying.cover {low high : Nat} {first second : Span} (before : Lying tokens low high (some first))
    (after : Lying tokens low high (some second)) : Lying tokens low high (some (first.cover second)) := by
  intro own same
  cases same
  obtain ⟨⟨piece, here, starts⟩, ends⟩ := before first rfl
  obtain ⟨⟨_, there, startsToo⟩, endsToo⟩ := after second rfl
  cases here.symm.trans there
  exact ⟨⟨piece, here, Nat.le_min.mpr ⟨starts, startsToo⟩⟩,
    fun later at_ => Nat.max_le.mpr ⟨ends later at_, endsToo later at_⟩⟩

omit rising in
theorem lying_coverAll (all : ∀ span ∈ spans, Lying tokens low high (some span)) :
    Lying tokens low high (Span.coverAll spans) := by
  cases spans with
  | nil => exact lying_none
  | cons first rest =>
    obtain ⟨here, later⟩ := forall_mem_cons.mp all
    clear all
    unfold Span.coverAll
    induction rest generalizing first with
    | nil => exact here
    | cons next rest ih =>
      obtain ⟨there, later⟩ := forall_mem_cons.mp later
      exact ih (first.cover next) (here.cover there) later

theorem Lying.before? {low : Nat} (lies : Lying tokens low high span) (test : Shape → Bool) :
    Lying tokens low high (span.bind fun span => tokens.before? low span.start test) := by
  intro own found
  obtain ⟨given, here, found⟩ := Option.bind_eq_some_iff.mp found
  obtain ⟨index, above, place, starts⟩ := Tokens.before?_eq_some found
  have ends := (lies given here).2
  have ordered := given.ordered
  obtain ⟨piece, at_, rfl⟩ := Option.map_eq_some_iff.mp place
  refine lying_span? rising above ?_ piece.span place
  by_contra behind
  obtain ⟨later, there⟩ := Tokens.exists_of_le at_ (Nat.le_of_not_lt behind)
  have first := ends later there
  have second := rising.start_le there at_ (Nat.le_of_not_lt behind)
  omega

omit rising

/-! ### Nodes in a row -/

def Kind.isCast : Kind → Bool
  | .cast _ => true
  | _ => false

def Node.Before (first second : Node) : Prop :=
  ∀ left ∈ first.span, ∀ right ∈ second.span, left.stop ≤ right.start

/-- The children of every node of the tree that is not a cast stand in order. -/
def Node.Ordered (node : Node) : Prop :=
  ∀ below ∈ node.preorder, below.kind.isCast = false → below.children.Pairwise Node.Before

theorem Node.Ordered.mk (below : ∀ child ∈ children, child.Ordered)
    (here : kind.isCast = false → children.Pairwise Node.Before) :
    (Node.mk kind span children).Ordered := Node.forall_preorder here below

theorem Node.Ordered.leaf : (Node.leaf kind span).Ordered :=
  .mk (by simp) fun _ => .nil

theorem lying_covering (below : ∀ child ∈ children, Lying tokens low high child.span)
    (extra : ∀ span ∈ spans, Lying tokens low high span) :
    Lying tokens low high (Span.coverAll ((children.map Node.span ++ spans).filterMap id)) := by
  refine lying_coverAll fun span listed => ?_
  obtain ⟨found, among, rfl⟩ := mem_filterMap.mp listed
  rcases mem_append.mp among with among | among
  · obtain ⟨child, inside, given⟩ := mem_map.mp among
    exact given ▸ below child inside
  · exact extra _ among

/-- Tokens that follow one another. -/
structure Line where
  tokens : Tokens
  rising : tokens.Rising

variable {line : Line} {low high : Nat} {nodes : List Node} {spans : List (Option Span)}

/-- Trees in order, one behind the other, from one token up to another, and spans that lie there too. -/
structure Row (line : Line) (low high : Nat) (nodes : List Node) (spans : List (Option Span)) : Prop where
  le : low ≤ high
  lies : ∀ node ∈ nodes, Lying line.tokens low high node.span
  ordered : ∀ node ∈ nodes, node.Ordered
  apart : nodes.Pairwise Node.Before
  found : ∀ span ∈ spans, Lying line.tokens low high span

theorem Row.start (cursor : Nat) : Row line cursor cursor [] [] := ⟨Nat.le_refl _, by simp, by simp, .nil, by simp⟩

theorem Row.append (first : Row line low middle nodes spans) (second : Row line middle high more others) :
    Row line low high (nodes ++ more) (others ++ spans) where
  le := Nat.le_trans first.le second.le
  lies := forall_mem_append.mpr
    ⟨fun node listed => (first.lies node listed).mono line.rising (Nat.le_refl _) second.le,
      fun node listed => (second.lies node listed).mono line.rising first.le (Nat.le_refl _)⟩
  ordered := forall_mem_append.mpr ⟨first.ordered, second.ordered⟩
  apart := by
    refine pairwise_append.mpr ⟨first.apart, second.apart, fun left here right there => ?_⟩
    intro one given other givenToo
    exact (first.lies left here).stop_le line.rising (second.lies right there) (Nat.le_refl _) given givenToo
  found := forall_mem_append.mpr
    ⟨fun span listed => (second.found span listed).mono line.rising first.le (Nat.le_refl _),
      fun span listed => (first.found span listed).mono line.rising (Nat.le_refl _) second.le⟩

theorem Row.forward (row : Row line low middle nodes spans) (le : middle ≤ high) : Row line low high nodes spans where
  le := Nat.le_trans row.le le
  lies node listed := (row.lies node listed).mono line.rising (Nat.le_refl _) le
  ordered := row.ordered
  apart := row.apart
  found span listed := (row.found span listed).mono line.rising (Nat.le_refl _) le

theorem Row.also (row : Row line low high nodes spans) (lies : Lying line.tokens low high span) :
    Row line low high nodes (span :: spans) :=
  { row with found := forall_mem_cons.mpr ⟨lies, row.found⟩ }

theorem Row.covering (row : Row line low high nodes spans) (among : ∀ span ∈ own, span ∈ spans := by simp) :
    Row line low high [.covering kind nodes own] [] where
  le := row.le
  lies := forall_mem_singleton.mpr (lying_covering row.lies fun span listed => row.found span (among span listed))
  ordered := forall_mem_singleton.mpr (.mk row.ordered fun _ => row.apart)
  apart := pairwise_singleton _ _
  found := by simp

theorem Row.leaf (row : Row line low high nodes spans) (listed : span ∈ spans) :
    Row line low high [.leaf kind span] [] where
  le := row.le
  lies := forall_mem_singleton.mpr (row.found span listed)
  ordered := forall_mem_singleton.mpr .leaf
  apart := pairwise_singleton _ _
  found := by simp

theorem Row.cast
    (row : Row line low high [node] spans) (listed : type ∈ spans) (among : ∀ span ∈ own, span ∈ spans) :
    Row line low high [.covering (.cast safe) [node, .leaf kind type] own] [] where
  le := row.le
  lies := forall_mem_singleton.mpr <| lying_covering
    (forall_mem_cons.mpr ⟨row.lies node mem_cons_self, forall_mem_singleton.mpr (row.found type listed)⟩)
    fun span given => row.found span (among span given)
  ordered := forall_mem_singleton.mpr <| .mk
    (forall_mem_cons.mpr ⟨row.ordered node mem_cons_self, forall_mem_singleton.mpr .leaf⟩)
    fun other => by cases other
  apart := pairwise_singleton _ _
  found := by simp

theorem Row.word (row : Row line low high nodes spans) (listed : span ∈ spans) :
    Row line low high [.mk .path span [.leaf (.identifier name) span]] [] where
  le := row.le
  lies := forall_mem_singleton.mpr (row.found span listed)
  ordered := forall_mem_singleton.mpr (.mk (by simpa using Node.Ordered.leaf) fun _ => pairwise_singleton _ _)
  apart := pairwise_singleton _ _
  found := by simp

end SqlLens.Surface
