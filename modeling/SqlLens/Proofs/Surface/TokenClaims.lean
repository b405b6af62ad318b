import SqlLens.Proofs.Surface.Lowering
import SqlLens.Proofs.Surface.Order

/-!
Each token is claimed once.

The cursor of the tree builder keeps its course: each time that it is put to a token, and each token that is taken or
looked up. Whatever the query and the tokens are, no act leads back (`Build.Advances`), and a literal is made of a token
that was just taken. Each step that the builder is made of has a rule that says so (`Build.Steady`). Where the cursor is
put to a token wherever it rests, that token follows an opening parenthesis right behind the token that was taken last.
-/

namespace SqlLens.Surface

open List

namespace Build

def runFrom {α : Type} (tokens : Tokens) (step : Lowering α) (cursor : Cursor) (arena : Arena) :
    (Except Unsupported α × Cursor) × Arena :=
  ((step.run tokens).run.run cursor).run arena

variable {α β : Type} {tokens : Tokens} {cursor : Cursor} {place after count : Nat} {arena grown : Arena}
  {acts more : List Act} {P : α → Prop}
  {Q : β → Prop} {index : Option Nat}

theorem runFrom_bind {step : Lowering α} {next : α → Lowering β} :
    runFrom tokens (step >>= next) cursor arena = match runFrom tokens step cursor arena with
      | ((.ok value, middle), grown) => runFrom tokens (next value) middle grown
      | ((.error construct, middle), grown) => ((.error construct, middle), grown) := by
  change (match runFrom tokens step cursor arena with
    | ((outcome, middle), grown) => ExceptT.bindCont (fun value => next value tokens) outcome middle grown) = _
  rcases runFrom tokens step cursor arena with ⟨⟨_ | _, _⟩, _⟩ <;> rfl

theorem runFrom_lift {step : Build α} :
    runFrom tokens (liftM step) cursor arena = ((step.run tokens).run.run cursor, arena) := rfl

instance : LawfulMonadLift Build Lowering where
  monadLift_pure _ := rfl
  monadLift_bind step next := by
    funext tokens cursor arena
    change (((step >>= next).run tokens).run.run cursor, arena) = runFrom tokens (liftM step >>= _) cursor arena
    rw [runFrom_bind, runFrom_lift, ReaderT.run_bind, ExceptT.run_bind, StateT.run_bind]
    rcases (step.run tokens).run.run cursor with ⟨_ | _, _⟩ <;> rfl

/-- The acts lead a cursor forward from one token to another and not past the last one. What is taken lies from the
cursor on, and what is looked up is a token. -/
def Advances (count : Nat) : Nat → List Act → Nat → Prop
  | place, [], after => place = after
  | place, .move next :: rest, after => place ≤ next ∧ next ≤ count ∧ Advances count next rest after
  | place, .take index :: rest, after => place ≤ index ∧ index < count ∧ Advances count (index + 1) rest after
  | place, .look index :: rest, after => index < count ∧ Advances count place rest after

def taken? : Act → Option Nat
  | .take index => some index
  | _ => none

@[reducible] def literal? (kind : Kind) (span : Option Span) : Option Span :=
  match kind with
  | .literal _ => span
  | _ => none

theorem Advances.append (first : Advances count place acts middle) (rest : Advances count middle more after) :
    Advances count place (acts ++ more) after := by
  fun_induction Advances count place acts middle with
  | case1 => subst first; exact rest
  | case2 _ _ _ _ ih | case3 _ _ _ _ ih => exact ⟨first.1, first.2.1, ih first.2.2 rest⟩
  | case4 _ _ _ _ ih => exact ⟨first.1, ih first.2 rest⟩

theorem Advances.le (forward : Advances count place acts after) (inside : place ≤ count) : after ≤ count := by
  fun_induction Advances count place acts after with
  | case1 => subst forward; exact inside
  | case2 _ _ _ _ ih | case3 _ _ _ _ ih => exact ih forward.2.2 forward.2.1
  | case4 _ _ _ _ ih => exact ih forward.2 inside

variable {pieces : List Piece} {step : Lowering α} {next : α → Lowering β} {test : Shape → Bool}

theorem Tokens.span?_of (high : i < pieces.length) : (Tokens.of pieces).span? i = some pieces[i].span := by
  simp [Tokens.span?, Tokens.of, high]

/-- The tokens that are taken stand behind the cursor, in the order in which they are taken. -/
theorem Advances.taken (forward : Advances count place acts after) :
    acts.filterMap taken? <+ (range count).drop place := by
  fun_induction Advances count place acts after with
  | case1 => exact nil_sublist _
  | case2 _ _ _ _ ih => exact (ih forward.2.2).trans (drop_sublist_drop_left _ forward.1)
  | case3 _ _ _ _ ih =>
    obtain ⟨low, high, forward⟩ := forward
    refine Sublist.trans ?_ (drop_sublist_drop_left _ low)
    rw [drop_eq_getElem_cons (by simpa using high), getElem_range]
    exact (ih forward).cons_cons _
  | case4 _ _ _ _ ih => exact ih forward.2

def literalSpans (arena : Arena) : List Span :=
  arena.entries.toList.filterMap fun entry => literal? entry.kind entry.span

theorem literalSpans_put {span : Option Span} :
    literalSpans (arena.put kind span children).2 = literalSpans arena ++ (literal? kind span).toList := by
  simp only [literalSpans, Arena.put, Array.toList_push, filterMap_append, Arena.toList_adopt]
  congr 1
  generalize arena.entries.toList = entries
  induction children generalizing entries with
  | nil => rfl
  | cons child rest ih =>
    rw [foldl_cons, ih]
    induction entries generalizing child with
    | nil => simp
    | cons entry others same => cases child <;> simp_all [filterMap_cons, Entry.under]

/-- A run from a cursor and an arena adds acts to its course that lead it forward to where it ends. The literals that it
puts are tokens that it takes, and something holds of what it gives. -/
def Goes (pieces : List Piece) (P : α → Prop) (step : Lowering α) (cursor : Cursor) (arena : Arena) : Prop :=
  ∃ acts literals result after grown, runFrom (.of pieces) step cursor arena = ((result, after), grown) ∧
    after.course = acts.reverse ++ cursor.course ∧ Advances pieces.length cursor.place acts after.place ∧
    literalSpans grown = literalSpans arena ++ literals ∧
    literals <+ (acts.filterMap taken?).filterMap (Tokens.of pieces).span? ∧ ∀ value, result = .ok value → P value

/-- A step goes so from every token. What is made of such steps is found to be one by instances. -/
class Steady (pieces : List Piece) (P : outParam (α → Prop)) (step : Lowering α) : Prop where
  runs {cursor : Cursor} (arena : Arena) : cursor.place ≤ pieces.length → Goes pieces P step cursor arena

def Any (_ : α) : Prop := True

class Within (pieces : List Piece) (index : Option Nat) : Prop where
  lt {i : Nat} : i ∈ index → i < pieces.length

instance (index : Subtype (Within pieces)) : Within pieces index.1 := index.2

instance (pair : {pair : Nat × Option Nat // Within pieces pair.2}) : Within pieces pair.1.2 := pair.2

instance : Within pieces none := ⟨nofun⟩

theorem Within.some (high : i < pieces.length) : Within pieces (some i) := ⟨by simpa using high⟩

instance [inside : Within pieces index] : Within pieces (previous index) := by
  refine ⟨fun given => ?_⟩
  unfold previous at given
  split at given <;> cases given
  exact Nat.lt_of_succ_lt (inside.lt rfl)

instance {c : Prop} [Decidable c] {other : Option Nat} [one : Within pieces index] [two : Within pieces other] :
    Within pieces (if c then index else other) := by
  split
  · exact one
  · exact two

class Plain (literal : Option Span) : Prop where
  none : literal = none

instance : Plain none := ⟨rfl⟩

theorem Goes.bind (inside : cursor.place ≤ pieces.length) (first : Goes pieces P step cursor arena)
    (rest : ∀ value middle grown, runFrom (.of pieces) step cursor arena = ((.ok value, middle), grown) → P value →
      middle.place ≤ pieces.length → Goes pieces Q (next value) middle grown) :
    Goes pieces Q (step >>= next) cursor arena := by
  obtain ⟨acts, literals, result, middle, grown, ran, course, forward, put, claimed, known⟩ := first
  cases result with
  | error construct =>
    exact ⟨acts, literals, .error construct, middle, grown,
      by rw [runFrom_bind, ran], course, forward, put, claimed, by simp⟩
  | ok value =>
    obtain ⟨more, others, result, last, whole, goes, further, onward, puts, claims, holds⟩ :=
      rest value middle grown ran (known value rfl) (forward.le inside)
    refine ⟨acts ++ more, literals ++ others, result, last, whole, by rw [runFrom_bind, ran]; exact goes, ?_,
      forward.append onward, ?_, ?_, holds⟩
    · rw [further, course, reverse_append, append_assoc]
    · rw [puts, put, append_assoc]
    · simp only [filterMap_append]
      exact claimed.append claims

namespace Steady

theorem andThen (first : Steady pieces P step) (rest : ∀ value, P value → Steady pieces Q (next value)) :
    Steady pieces Q (step >>= next) :=
  ⟨fun arena inside => (first.runs arena inside).bind inside fun value _ grown _ known => (rest value known).runs grown⟩

instance bind [first : Steady pieces P step] [rest : ∀ value : Subtype P, Steady pieces Q (next value.1)] :
    Steady pieces Q (step >>= next) := andThen first fun value known => rest ⟨value, known⟩

/-- A step that leaves the cursor as it is and puts no node. -/
theorem idle (stays : ∀ cursor arena, ∃ result, runFrom (.of pieces) step cursor arena = ((result, cursor), arena) ∧
    ∀ value, result = .ok value → P value) : Steady pieces P step := by
  refine ⟨fun {cursor} arena _ => ?_⟩
  obtain ⟨result, ran, known⟩ := stays cursor arena
  exact ⟨[], [], result, cursor, arena, ran, rfl, rfl, (append_nil _).symm, .slnil, known⟩

theorem returns {value : α} (known : P value) : Steady pieces P (pure value) :=
  idle fun _ _ => ⟨_, rfl, by rintro _ ⟨⟩; exact known⟩

instance pure {value : α} : Steady pieces Any (pure value) := returns trivial

instance unsupported : Steady pieces (Any (α := α)) (liftM (unsupported what : Build α)) :=
  idle fun _ _ => ⟨_, rfl, by rintro _ ⟨⟩⟩

theorem goes_read {next : Tokens → Lowering β} (rest : Goes pieces Q (next (.of pieces)) cursor arena) :
    Goes pieces Q (MonadReader.read >>= next) cursor arena := rest

instance read {next : Tokens → Lowering β} [rest : Steady pieces Q (next (.of pieces))] :
    Steady pieces Q (read >>= next) := ⟨fun arena inside => goes_read (rest.runs arena inside)⟩

instance get : Steady pieces Any (get : Lowering Cursor) := idle fun _ _ => ⟨_, rfl, fun _ _ => trivial⟩

instance : Steady pieces Any (liftM (MonadState.get : Build Cursor)) := get

instance ite {c : Prop} [Decidable c] {other : Lowering α} [one : Steady pieces P step]
    [two : Steady pieces P other] : Steady pieces P (if c then step else other) := by
  split
  · exact one
  · exact two

/-! ### Searches -/

/-- A step that only puts the cursor to a token. -/
theorem goes_move {next : Cursor → Nat} (low : cursor.place ≤ next cursor) (high : next cursor ≤ pieces.length) :
    Goes pieces Any (liftM (modify fun cursor => cursor.move (next cursor) : Build Unit)) cursor arena :=
  ⟨[.move (next cursor)], [], .ok (), cursor.move (next cursor), arena, rfl, rfl, ⟨low, high, rfl⟩, (append_nil _).symm,
    .slnil, fun _ _ => trivial⟩

instance moveTo [inside : Within pieces (some i)] : Steady pieces Any (liftM (moveTo (i + 1))) :=
  ⟨fun _ below => goes_move (Nat.le_max_left _ _) (Nat.max_le.mpr ⟨below, inside.lt rfl⟩)⟩

instance passOver : Steady pieces Any (liftM (passOver offset)) := by
  rw [Build.passOver, liftM_bind]
  refine @read _ _ _ _ ⟨fun {cursor} _ inside => goes_move (Nat.le_add_right _ _) ?_⟩
  have shorter := (takeWhile_sublist (l := pieces.drop cursor.place) fun piece =>
    decide (piece.span.start < offset)).length_le
  rw [length_drop] at shorter
  simp only [Tokens.past, Tokens.of]
  omega

theorem closer?_lt (closed : (Tokens.of pieces).closer? i = some stop) : stop < pieces.length := by
  obtain ⟨n, rfl, shape, here, -⟩ := ((pairing_of pieces).forward (closer?_eq_some_iff.mp closed)).2.2
  simpa using (List.getElem?_eq_some_iff.mp here).1

theorem at?_lt (found : (Tokens.of pieces).at? offset = some i) : i < pieces.length :=
  (findIdx?_eq_some_iff_findIdx_eq.mp found).1

theorem from?_lt (found : (Tokens.of pieces).from? cursor test = some i) : i < pieces.length := by
  obtain ⟨offset, there, rfl⟩ := Option.map_eq_some_iff.mp found
  have inside := (findIdx?_eq_some_iff_findIdx_eq.mp there).1
  rw [length_drop] at inside
  exact Nat.add_lt_of_lt_sub inside

instance : Within pieces ((Tokens.of pieces).from? cursor test) := ⟨from?_lt⟩

/-- A step that only looks up a token. -/
theorem looks {value : α} [inside : Within pieces index] (known : P value)
    (ran : ∀ cursor arena, runFrom (.of pieces) step cursor arena = ((.ok value, cursor.look index), arena)) :
    Steady pieces P step := by
  refine ⟨fun {cursor} arena _ => ?_⟩
  refine ⟨index.toList.map .look, [], _, _, _, ran cursor arena, ?_, ?_, (append_nil _).symm, nil_sublist _, ?_⟩
  · cases index <;> rfl
  · cases index with
    | none => rfl
    | some index => exact ⟨inside.lt rfl, rfl⟩
  · rintro _ ⟨⟩
    exact known

instance spanOf [Within pieces index] : Steady pieces Any (liftM (spanOf index)) := looks trivial fun _ _ => rfl

instance closerOf [Within pieces index] : Steady pieces (Within pieces) (liftM (closerOf index)) := by
  refine @looks _ _ index _ _ _ _ ⟨fun given => ?_⟩ fun _ _ => rfl
  obtain ⟨_, -, closed⟩ := Option.bind_eq_some_iff.mp given
  exact closer?_lt closed

theorem runFrom_take : runFrom tokens (liftM (Build.take test)) cursor arena =
    ((.ok (tokens.from? cursor.place test), (tokens.from? cursor.place test).elim cursor cursor.take), arena) := by
  rw [runFrom_lift, take_run]
  cases tokens.from? cursor.place test <;> rfl

instance take : Steady pieces (Within pieces) (liftM (take test)) := by
  refine ⟨fun {cursor} arena inside => ?_⟩
  refine ⟨((Tokens.of pieces).from? cursor.place test).toList.map .take, [], _, _, _, runFrom_take, ?_, ?_,
    (append_nil _).symm, nil_sublist _, ?_⟩
  · cases (Tokens.of pieces).from? cursor.place test <;> rfl
  · cases found : (Tokens.of pieces).from? cursor.place test with
    | none => rfl
    | some index => exact ⟨Tokens.from?_le found, from?_lt found, rfl⟩
  · rintro _ ⟨⟩
    infer_instance

/-- Behind a token that was taken the cursor rests on the next one. -/
theorem behind {next : Option Nat → Lowering β} (rest : ∀ (index : Option Nat) (cursor : Cursor) (arena : Arena),
      Within pieces index → cursor.place ≤ pieces.length → (∀ i ∈ index, cursor.place = i + 1) →
      Goes pieces Q (next index) cursor arena) : Steady pieces Q (liftM (Build.take test) >>= next) := by
  refine ⟨fun {cursor} arena inside =>
    (take.runs arena inside).bind inside fun index middle grown ran known below => ?_⟩
  refine rest index middle grown known below fun i given => ?_
  rw [runFrom_take] at ran
  cases ran
  rw [Option.mem_def.mp given]
  rfl

/-- A literal is made of a token that is taken. -/
theorem claims : Steady pieces (fun made : Option Nat × Nat => Within pieces made.1)
    (liftM (Build.take test) >>= fun index => liftM (Build.spanOf index) >>= fun span =>
      Build.leaf (.literal constant) span >>= fun number => Pure.pure (index, number)) := by
  refine ⟨fun {cursor} arena inside => ?_⟩
  have put {span : Option Span} :
      literalSpans (arena.put (.literal constant) span []).2 = literalSpans arena ++ span.toList :=
    literalSpans_put
  cases found : (Tokens.of pieces).from? cursor.place test with
  | none =>
    refine ⟨[], [], .ok (none, arena.size), cursor, (arena.put (.literal constant) none []).2, ?_, rfl, rfl,
      put, .slnil, ?_⟩
    · rw [runFrom_bind, runFrom_take, found]
      rfl
    · rintro _ ⟨⟩
      infer_instance
  | some index =>
    have high := from?_lt found
    refine ⟨[.take index, .look index], [pieces[index].span], .ok (some index, arena.size),
      (cursor.take index).look (some index), (arena.put (.literal constant) (some pieces[index].span) []).2, ?_, rfl,
      ⟨Tokens.from?_le found, high, high, rfl⟩, put, ?_, ?_⟩
    · rw [runFrom_bind, runFrom_take, found, ← Tokens.span?_of high]
      rfl
    · simp [taken?, Tokens.span?_of high]
    · rintro _ ⟨⟩
      exact .some high

instance claim {next : Option Nat → Nat → Lowering β}
    [rest : ∀ (index : Subtype (Within pieces)) (number : Nat), Steady pieces Q (next index.1 number)] :
    Steady pieces Q (liftM (Build.take test) >>= fun index => liftM (Build.spanOf index) >>= fun span =>
      leaf (.literal constant) span >>= next index) := by
  have whole : Steady pieces Q (_ >>= fun made : Option Nat × Nat => next made.1 made.2) :=
    andThen (@claims pieces test constant) fun made known => rest ⟨made.1, known⟩ made.2
  simpa only [bind_assoc, pure_bind] using whole

instance takeSpan : Steady pieces Any (liftM (takeSpan test)) := by
  rw [Build.takeSpan, liftM_bind]
  infer_instance

instance takeWord : Steady pieces Any (liftM (takeWord keyword)) := takeSpan

instance takeOpenParen : Steady pieces (Within pieces) (liftM takeOpenParen) := by
  refine ⟨fun {cursor} arena inside => ?_⟩
  by_cases found : (Tokens.of pieces).shape? cursor.place = some (.mark .openParen)
  · obtain ⟨piece, here, -⟩ := Option.map_eq_some_iff.mp found
    have high : cursor.place < pieces.length := (List.getElem?_eq_some_iff.mp here).1
    refine ⟨[.take cursor.place], [], .ok (some cursor.place), cursor.take cursor.place, arena, ?_, rfl,
      ⟨Nat.le_refl _, high, rfl⟩, (append_nil _).symm, nil_sublist _, by rintro _ ⟨⟩; exact .some high⟩
    rw [runFrom_lift, takeOpenParen_run, found]
    rfl
  · refine ⟨[], [], .ok none, cursor, arena, ?_, rfl, rfl, (append_nil _).symm, .slnil, by rintro _ ⟨⟩; infer_instance⟩
    rw [runFrom_lift, takeOpenParen_run]
    split
    · exact absurd ‹_› found
    · rfl

instance kept {place : Option Nat} : Steady pieces Any (liftM (kept place)) := by
  rw [Build.kept, liftM_bind]
  refine @read _ _ _ _ ?_
  split
  · rename_i index found
    obtain ⟨offset, -, found⟩ := Option.bind_eq_some_iff.mp found
    have := Within.some (at?_lt found)
    rw [liftM_bind, liftM_pure]
    infer_instance
  · exact pure

instance close [Within pieces index] : Steady pieces Any (liftM (close index)) := by
  cases index with
  | none => exact pure
  | some index =>
    rw [Build.close, liftM_bind]
    infer_instance

instance enclosing : Steady pieces Any (liftM (enclosing around)) := by
  rw [Build.enclosing, liftM_bind]
  refine @read _ _ _ _ ?_
  split
  · split
    · have := Within.some (closer?_lt ‹_›)
      rw [liftM_bind, liftM_pure]
      infer_instance
    · exact pure
  · exact pure

instance identSpan : Steady pieces Any (liftM (identSpan ident)) := by
  rw [Build.identSpan, liftM_bind]
  refine @read _ _ _ _ ?_
  extract_lets next
  have goesOn (found : Option Span) : Steady pieces Any (liftM (next found)) := by
    cases found <;> simp only [next, liftM_bind, liftM_pure] <;> infer_instance
  clear_value next
  split <;> simp only [liftM_bind, liftM_pure] <;> infer_instance

instance direction : Steady pieces Any (liftM (direction ascending nullsFirst)) := by
  rcases ascending with _ | ⟨_ | _⟩ <;> cases nullsFirst <;> simp only [Build.direction, liftM_bind, liftM_pure] <;>
    infer_instance

/-! ### Nodes -/

instance node {own : Option Span} {children : List Nat} [plain : Plain (literal? kind own)] :
    Steady pieces Any (node kind own children) := by
  refine ⟨fun {cursor} arena _ =>
    ⟨[], [], .ok arena.size, cursor, (arena.put kind own children).2, rfl, rfl, rfl, ?_, .slnil,
    fun _ _ => trivial⟩⟩
  rw [literalSpans_put, plain.none]
  rfl

instance leaf {own : Option Span} [Plain (literal? kind own)] :
    Steady pieces Any (leaf kind own : Lowering Nat) := node

instance spans : Steady pieces Any (liftM (NodeStore.spans : StateM Arena (Nat → Option Span)) : Lowering _) :=
  idle fun _ _ => ⟨_, rfl, fun _ _ => trivial⟩

instance covering {children : List Nat} {spans : List (Option Span)} [∀ own, Plain (literal? kind own)] :
    Steady pieces Any (covering kind children spans) := bind

instance spanOfNode {number : Nat} : Steady pieces Any (spanOfNode number : Lowering _) := bind

instance mapM {f : α → Lowering β} [∀ item, Steady pieces Any (f item)] {items : List α} :
    Steady pieces Any (items.mapM f) := by
  induction items with
  | nil => exact pure
  | cons item rest ih =>
    rw [mapM_cons]
    infer_instance

instance identifier : Steady pieces Any (identifier ident : Lowering Nat) := bind

instance aliasName : Steady pieces Any (aliasName ident : Lowering Nat) := bind

instance sharedNodes : Steady pieces Any (sharedNodes parts : Lowering (List Nat)) := by
  refine @read _ _ _ _ ?_
  split
  · split <;> infer_instance
  · infer_instance

instance path : Steady pieces Any (path parts : Lowering Nat) := bind

instance literal : Steady pieces Any (literal value : Lowering Nat) := by
  unfold Build.literal
  split
  · simp only [Build.takeSpan, liftM_bind, bind_assoc]
    rw [← bind_pure (liftM _ >>= _)]
    simp only [bind_assoc]
    infer_instance
  · infer_instance

instance tableAlias? : (name : Option TableAlias) → Steady pieces Any (tableAlias? name : Lowering (List Nat))
  | some _ => by unfold Build.tableAlias? Build.tableAlias; infer_instance
  | none => pure

instance star {all : Star} : Steady pieces Any (star all : Lowering Nat) := by
  unfold Build.star
  infer_instance

/-- Parentheses behind a token are tokens. -/
theorem parens_lt {pair : Nat × Nat} (given : index.bind (Tokens.of pieces).parensAfter? = some pair) :
    Within pieces (some pair.1) ∧ Within pieces (some pair.2) := by
  obtain ⟨_, -, found⟩ := Option.bind_eq_some_iff.mp given
  unfold Tokens.parensAfter? at found
  split at found
  · rename_i here
    obtain ⟨_, closed, rfl⟩ := Option.map_eq_some_iff.mp found
    obtain ⟨piece, there, -⟩ := Option.map_eq_some_iff.mp here
    exact ⟨.some (List.getElem?_eq_some_iff.mp there).1, .some (closer?_lt closed)⟩
  · cases found

instance : Within pieces ((index.bind (Tokens.of pieces).parensAfter?).map Prod.snd) := by
  refine ⟨fun given => ?_⟩
  obtain ⟨pair, found, rfl⟩ := Option.map_eq_some_iff.mp given
  exact (parens_lt found).2.lt rfl

instance {parens : Option (Nat × Nat)} [inside : Within pieces (parens.map Prod.snd)] :
    Within pieces (typeTokens as parens).1 := by
  refine ⟨fun given => ?_⟩
  unfold typeTokens at given
  split at given
  · split at given <;> cases given
    exact Nat.lt_trans ‹_› (inside.lt rfl)
  · cases given

instance {parens : Option (Nat × Nat)} [inside : Within pieces (parens.map Prod.snd)] :
    Within pieces (typeTokens as parens).2 := by
  refine ⟨fun given => ?_⟩
  unfold typeTokens at given
  split at given
  · split at given <;> cases given
    exact Nat.lt_of_le_of_lt (Nat.sub_le _ 1) (inside.lt rfl)
  · cases given

/-- The cursor is put behind an opening parenthesis that it rests on. -/
theorem goes_jumpTo {parens : Nat × Nat} (rests : ∀ i ∈ index, cursor.place = i + 1)
    (given : index.bind (Tokens.of pieces).parensAfter? = some parens) :
    Goes pieces Any (liftM (jumpTo (parens.1 + 1))) cursor arena :=
  goes_move (le_parens_start rests given) ((parens_lt given).1.lt rfl)

instance openKeywordCall :
    Steady pieces (fun call => Within pieces call.2) (openKeywordCall keyword : Lowering (Nat × Option Nat)) := by
  refine behind fun index cursor arena known inside rests => ?_
  -- The name of the call is put without moving the cursor, so it still rests behind the keyword.
  refine (spanOf.runs arena inside).bind inside fun span second grown ran _ inside => ?_
  have rests : ∀ i ∈ index, second.place = i + 1 := by
    cases ran
    exact rests
  clear ran
  refine (leaf.runs grown inside).bind inside fun word third grown ran _ inside => ?_
  have rests : ∀ i ∈ index, third.place = i + 1 := by
    cases ran
    exact rests
  clear ran
  refine (node.runs grown inside).bind inside fun name fourth grown ran _ inside => ?_
  have rests : ∀ i ∈ index, fourth.place = i + 1 := by
    cases ran
    exact rests
  clear ran
  refine goes_read ?_
  dsimp only
  split
  · rename_i given
    refine (goes_jumpTo rests given).bind inside fun _ _ grown _ _ inside => ?_
    exact (returns (P := fun call : Nat × Option Nat => Within pieces call.2) (parens_lt given).2).runs grown inside
  · exact (returns (P := fun call : Nat × Option Nat => Within pieces call.2)
      (inferInstanceAs (Within pieces none))).runs grown inside

instance closeKeywordCall {name : Nat} {arguments : List Nat} [Within pieces stop] :
    Steady pieces Any (closeKeywordCall name stop arguments : Lowering Nat) := bind

instance part {present : Bool} {items : Lowering (List Nat)} [Steady pieces Any items]
    [∀ own, Plain (literal? kind own)] : Steady pieces Any (part present keyword kind items) := ite

instance bounds {hasLimit hasOffset : Bool} {limit offset : Lowering (List Nat)} [Steady pieces Any limit]
    [Steady pieces Any offset] : Steady pieces Any (bounds hasLimit hasOffset limit offset) := by
  unfold Build.bounds
  infer_instance

/-! ### The tree builder -/

theorem query (source : Query) : Steady pieces Any (Build.query source) := by
  revert source
  apply And.left
  apply @Build.query.mutual_induct (StateM Arena) Nat _ _ (Steady pieces Any <| Build.query ·)
    (Steady pieces Any <| Build.ctes ·) (Steady pieces Any <| Build.expr? ·) (Steady pieces Any <| Build.expr ·)
    (Steady pieces Any <| Build.soleArgument ·) (Steady pieces Any <| Build.branches ·)
    (Steady pieces Any <| Build.overClause ·) (Steady pieces Any <| Build.window · ·)
    (Steady pieces Any <| Build.orderItems ·) (Steady pieces Any <| Build.exprs ·)
    (Steady pieces Any <| Build.queryBody ·) (Steady pieces Any <| Build.namedWindows ·)
    (Steady pieces Any <| Build.fromItem ·) (Steady pieces Any <| Build.selectColumns ·)
  all_goals intros
  all_goals first
    | unfold Build.fromItem
    | simp only [Build.query, Build.ctes, Build.expr?, Build.expr, Build.soleArgument, Build.branches, Build.overClause,
        Build.window, Build.orderItems, Build.exprs, Build.queryBody, Build.namedWindows, Build.selectColumns]
  all_goals try simp only [*, ↓reduceIte, Bool.false_eq_true]
  all_goals try infer_instance
  case self.case16 ih =>
    refine behind fun index cursor arena known inside rests => goes_read ?_
    split
    · rename_i parens
      have : Within pieces (Option.map Prod.snd (some _)) := (parens_lt parens).2
      refine (goes_jumpTo rests parens).bind inside fun _ _ grown _ _ inside => ?_
      exact Steady.runs (P := Any) grown inside
    · have : Within pieces (Option.map Prod.snd (none : Option (Nat × Nat))) := inferInstanceAs (Within pieces none)
      exact Steady.runs (P := Any) arena inside
  all_goals repeat' first
    | infer_instance
    | refine andThen inferInstance fun _ _ => ?_
    | split

end Steady

end Build

end SqlLens.Surface
