import Mathlib.Data.List.Pairwise
import SqlLens.Surface.Cursor

/-!
Which bracket closes which.

The brackets that are open are a stack of falling numbers. Whatever was opened above a bracket is closed before it, and
what closes a bracket in between closes one that was opened in between (`Pairing`). So pairs never cross, and where no
prefix closes more than it opens every bracket that is opened is closed (`exists_pair`).
-/

namespace SqlLens.Surface

open List

variable {index start i j k l : Nat} {stack : List Nat} {shapes rest : List Shape} {pairs : List (Nat × Nat)}
  {shape : Shape} {pieces : List Piece} {test : Shape → Bool} {opening closing : Nat → Prop}

/-! ### Brackets by number -/

def Stands (test : Shape → Bool) (index : Nat) (shapes : List Shape) (k : Nat) : Prop :=
  ∃ n, k = index + n ∧ ∃ shape ∈ shapes[n]?, test shape

theorem stands_cons :
    Stands test index (shape :: rest) k ↔ k = index ∧ test shape ∨ Stands test (index + 1) rest k := by
  constructor
  · rintro ⟨_ | n, rfl, found, here, passes⟩
    · cases here
      exact .inl ⟨rfl, passes⟩
    · exact .inr ⟨n, by omega, found, here, passes⟩
  · rintro (⟨rfl, passes⟩ | ⟨n, rfl, found, here, passes⟩)
    · exact ⟨0, rfl, shape, rfl, passes⟩
    · exact ⟨n + 1, by omega, found, here, passes⟩

theorem Stands.le (stands : Stands test index shapes k) : index ≤ k := by
  obtain ⟨n, rfl, -⟩ := stands
  exact Nat.le_add_right _ _

def Opening (index : Nat) (stack : List Nat) (shapes : List Shape) (k : Nat) : Prop :=
  k ∈ stack ∨ Stands opens index shapes k

theorem closes_of_opens (opening : opens shape) : closes shape = false := by
  unfold opens at opening
  split at opening
  · rfl
  · rfl
  · cases opening

theorem opening_push (opened : opens shape) :
    Opening index stack (shape :: rest) k ↔ Opening (index + 1) (index :: stack) rest k := by
  simp [Opening, stands_cons, opened, or_left_comm, or_assoc]

theorem opening_skip (inert : ¬opens shape) :
    Opening index stack (shape :: rest) k ↔ Opening (index + 1) stack rest k := by
  simp [Opening, stands_cons, inert]

/-! ### Pairs -/

/-- Pairs of brackets. Each leads forward from a bracket that opens to one that closes, and what lies between the two is
paired between them. -/
structure Pairing (opening closing : Nat → Prop) (pairs : List (Nat × Nat)) : Prop where
  forward : ∀ {i j}, (i, j) ∈ pairs → i < j ∧ opening i ∧ closing j
  opened : ∀ {i j k}, (i, j) ∈ pairs → opening k → i < k → k < j → ∃ l < j, (k, l) ∈ pairs
  closed : ∀ {i j k}, (i, j) ∈ pairs → closing k → i < k → k < j → ∃ l > i, (l, k) ∈ pairs
  apart : pairs.Pairwise fun one other => one.1 ≠ other.1 ∧ one.2 ≠ other.2

theorem Pairing.congr {opening' closing' : Nat → Prop} (pairing : Pairing opening closing pairs)
    (opens : ∀ k, opening' k ↔ opening k) (closes : ∀ k, closing' k ↔ closing k) : Pairing opening' closing' pairs := by
  obtain rfl : opening' = opening := funext fun k => propext (opens k)
  obtain rfl : closing' = closing := funext fun k => propext (closes k)
  exact pairing

/-- A closing bracket before everything that is open is passed over. -/
theorem Pairing.pass (index : Nat) (pairing : Pairing opening closing pairs) (ahead : ∀ k, opening k → index < k) :
    Pairing opening (fun k => k = index ∨ closing k) pairs where
  forward paired := (pairing.forward paired).imp_right (And.imp_right .inr)
  opened := pairing.opened
  closed paired closes above below := by
    rcases closes with rfl | closes
    · exact absurd (ahead _ (pairing.forward paired).2.1) (Nat.not_lt_of_lt above)
    · exact pairing.closed paired closes above below
  apart := pairing.apart

/-- The last bracket that was opened is closed. -/
theorem Pairing.pop (pairing : Pairing opening closing pairs) (less : start < index)
    (under : ∀ k ≤ index, opening k → k < start) (behind : ∀ k, closing k → index < k) :
    Pairing (fun k => k = start ∨ opening k) (fun k => k = index ∨ closing k) ((start, index) :: pairs) where
  forward {i j} paired := by
    rcases mem_cons.mp paired with same | among
    · cases same
      exact ⟨less, .inl rfl, .inl rfl⟩
    · exact (pairing.forward among).imp_right (And.imp .inr .inr)
  opened {i j k} paired opens above below := by
    rcases mem_cons.mp paired with same | among
    · cases same
      rcases opens with rfl | opens
      · omega
      · have := under k (Nat.le_of_lt below) opens
        omega
    · rcases opens with rfl | opens
      · exact ⟨index, behind j (pairing.forward among).2.2, mem_cons_self⟩
      · obtain ⟨l, before, found⟩ := pairing.opened among opens above below
        exact ⟨l, before, mem_cons_of_mem _ found⟩
  closed {i j k} paired closes above below := by
    rcases mem_cons.mp paired with same | among
    · cases same
      rcases closes with rfl | closes
      · omega
      · have := behind k closes
        omega
    · rcases closes with rfl | closes
      · exact ⟨start, under i (Nat.le_of_lt above) (pairing.forward among).2.1, mem_cons_self⟩
      · obtain ⟨l, more, found⟩ := pairing.closed among closes above below
        exact ⟨l, more, mem_cons_of_mem _ found⟩
  apart := by
    refine pairwise_cons.mpr ⟨fun (i, j) among => ?_, pairing.apart⟩
    obtain ⟨-, opens, closes⟩ := pairing.forward among
    refine ⟨?_, Nat.ne_of_lt (behind j closes)⟩
    rintro rfl
    exact Nat.lt_irrefl _ (under _ (Nat.le_of_lt less) opens)

theorem pairing_pairsFrom (falling : stack.Pairwise (· > ·)) (below : ∀ entry ∈ stack, entry < index) :
    Pairing (Opening index stack shapes) (Stands closes index shapes) (pairsFrom index stack shapes) := by
  have next {n : Nat} {stack : List Nat} (below : ∀ entry ∈ stack, entry < n) : ∀ entry ∈ stack, entry < n + 1 :=
    fun entry listed => Nat.lt_succ_of_lt (below entry listed)
  fun_induction pairsFrom index stack shapes with
  | case1 => exact ⟨by simp, by simp, by simp, .nil⟩
  | case2 index stack shape rest opened ih =>
    refine (ih (pairwise_cons.mpr ⟨below, falling⟩) (forall_mem_cons.mpr ⟨Nat.lt_succ_self _, next below⟩)).congr
      (fun _ => opening_push opened) fun _ => ?_
    simp [stands_cons, closes_of_opens opened]
  | case3 index shape rest inert closed start under ih =>
    obtain ⟨above, falls⟩ := pairwise_cons.mp falling
    obtain ⟨less, lower⟩ := forall_mem_cons.mp below
    refine ((ih falls (next lower)).pop less (fun k before opens => ?_) fun k closes => closes.le).congr
      (fun _ => ?_) fun _ => ?_
    -- What else is open when a bracket is closed lies under the one that it closes.
    · exact opens.elim (above k) fun stands => absurd stands.le (by omega)
    · simp [Opening, stands_cons, inert, or_assoc]
    · simp [stands_cons, closed]
  | case4 index shape rest inert closed ih =>
    refine ((ih falling (next below)).pass index fun k opens => ?_).congr (fun _ => opening_skip inert) fun _ => ?_
    · exact opens.elim (by simp) Stands.le
    · simp [stands_cons, closed]
  | case5 index stack shape rest inert other ih =>
    refine (ih falling (next below)).congr (fun _ => opening_skip inert) fun _ => ?_
    simp [stands_cons, other]

theorem pairing_of (pieces : List Piece) : Pairing (Opening 0 [] (pieces.map Piece.shape))
    (Stands closes 0 (pieces.map Piece.shape)) (Tokens.of pieces).pairs := pairing_pairsFrom .nil (by simp)

/-- Where no prefix closes more than is open, and the whole closes all of it, everything that is opened is closed. -/
theorem exists_pair
    (prefixes : ∀ n, (shapes.take n).countP closes ≤ (shapes.take n).countP opens + stack.length)
    (total : shapes.countP closes = shapes.countP opens + stack.length) (opening : Opening index stack shapes k) :
    ∃ l, (k, l) ∈ pairsFrom index stack shapes := by
  fun_induction pairsFrom index stack shapes with
  | case1 =>
    obtain rfl := length_eq_zero_iff.mp (by simpa using total.symm)
    simp [Opening, Stands] at opening
  | case2 index stack shape rest opened ih =>
    have other := closes_of_opens opened
    refine ih (fun n => ?_) ?_ ((opening_push opened).mp opening)
    · have counted := prefixes (n + 1)
      simp [opened, other] at counted ⊢
      omega
    · simp [opened, other] at total ⊢
      omega
  | case3 index shape rest inert closed start under ih =>
    have either : k = start ∨ Opening (index + 1) under rest k := by
      simpa [Opening, or_assoc] using (opening_skip inert).mp opening
    rcases either with rfl | opening
    · exact ⟨index, mem_cons_self⟩
    · obtain ⟨l, found⟩ := ih (fun n => by simpa [inert, closed, ← Nat.add_assoc] using prefixes (n + 1))
        (by simpa [inert, closed, ← Nat.add_assoc] using total) opening
      exact ⟨l, mem_cons_of_mem _ found⟩
  | case4 index shape rest inert closed ih => simpa [inert, closed] using prefixes 1
  | case5 index stack shape rest inert other ih =>
    refine ih (fun n => ?_) ?_ ((opening_skip inert).mp opening)
    · simpa [inert, other] using prefixes (n + 1)
    · simpa [inert, other] using total

theorem Pairing.eq_of_mem (pairing : Pairing opening closing pairs) (one : (i, j) ∈ pairs) (other : (k, l) ∈ pairs)
    (same : i = k ∨ j = l) : i = k ∧ j = l := by
  have symmetric : Std.Symm fun (one other : Nat × Nat) => one.1 ≠ other.1 ∧ one.2 ≠ other.2 :=
    ⟨fun _ _ differ => ⟨differ.1.symm, differ.2.symm⟩⟩
  by_contra apart
  obtain ⟨first, second⟩ := pairing.apart.forall one other fun equal => apart (Prod.mk.inj equal)
  exact same.elim first second

theorem Tokens.mem_pairs {tokens : Tokens} (closed : tokens.closer? i = some j) : (i, j) ∈ tokens.pairs := by
  obtain ⟨earlier, later, same, -⟩ := lookup_eq_some_iff.mp closed
  rw [same]
  simp

theorem closer?_eq_some_iff : (Tokens.of pieces).closer? i = some j ↔ (i, j) ∈ (Tokens.of pieces).pairs := by
  refine ⟨Tokens.mem_pairs, fun listed => lookup_eq_some_iff.mpr ?_⟩
  obtain ⟨earlier, later, same⟩ := append_of_mem listed
  refine ⟨earlier, later, same, fun other before => ?_⟩
  have apart := same ▸ (pairing_of pieces).apart
  simpa using ((pairwise_append.mp apart).2.2 other before (i, j) mem_cons_self).1.symm

/-- Brackets are matched as they nest. A pair leads from an opening bracket forward to a closing one, no bracket closes
two others, and whatever lies between the two of a pair is paired between them. Where no prefix of the tokens closes
more than it opens, and all of them close what they open, every opening bracket is closed. -/
theorem brackets_match_as_nested (pieces : List Piece) :
    let tokens := Tokens.of pieces
    let opened (i : Nat) : Prop := ∃ shape ∈ tokens.shape? i, opens shape
    let closed (j : Nat) : Prop := ∃ shape ∈ tokens.shape? j, closes shape
    (∀ i j, tokens.closer? i = some j → i < j ∧ opened i ∧ closed j) ∧
      (∀ i k j, tokens.closer? i = some j → tokens.closer? k = some j → i = k) ∧
      (∀ i j k l, tokens.closer? i = some j → tokens.closer? k = some l → i < k → k < j → l < j) ∧
      (∀ i j k, tokens.closer? i = some j → i < k → k < j →
        (opened k → ∃ l, tokens.closer? k = some l ∧ k < l ∧ l < j) ∧
        (closed k → ∃ l, tokens.closer? l = some k ∧ i < l ∧ l < k)) ∧
      ((∀ n, (pieces.take n).countP (closes ·.shape) ≤ (pieces.take n).countP (opens ·.shape)) →
        pieces.countP (closes ·.shape) = pieces.countP (opens ·.shape) →
        ∀ i, opened i → ∃ j, tokens.closer? i = some j) := by
  intro tokens opened closed
  have pairing : Pairing opened closed tokens.pairs := by
    refine (pairing_of pieces).congr (fun _ => ?_) fun _ => ?_
    · simp [Opening, Stands, opened, tokens, Tokens.shape?, Tokens.of]
    · simp [Stands, closed, tokens, Tokens.shape?, Tokens.of]
  simp only [tokens, closer?_eq_some_iff]
  refine ⟨fun i j => pairing.forward, fun i k j one other => (pairing.eq_of_mem one other (.inr rfl)).1,
    fun i j k l outer inner above below => ?_, fun i j k paired above below => ⟨fun opens => ?_, fun closes => ?_⟩,
    fun prefixes total i opens => ?_⟩
  · obtain ⟨m, less, found⟩ := pairing.opened outer (pairing.forward inner).2.1 above below
    exact (pairing.eq_of_mem inner found (.inl rfl)).2 ▸ less
  · obtain ⟨l, less, found⟩ := pairing.opened paired opens above below
    exact ⟨l, found, (pairing.forward found).1, less⟩
  · obtain ⟨l, more, found⟩ := pairing.closed paired closes above below
    exact ⟨l, found, more, (pairing.forward found).1⟩
  · refine exists_pair (fun n => ?_) ?_ ?_
    · simpa [← map_take, countP_map, Function.comp_def] using prefixes n
    · simpa [countP_map, Function.comp_def] using total
    · simpa [Opening, Stands, opened, tokens, Tokens.shape?, Tokens.of] using opens

end SqlLens.Surface
