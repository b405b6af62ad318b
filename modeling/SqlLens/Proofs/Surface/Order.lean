import SqlLens.Proofs.Surface.Cursor
import SqlLens.Proofs.Surface.Forward
import SqlLens.Proofs.Surface.NameSpans

/-!
The children of a node stand in the order of the text.

Where no token of a query lies before the cursor when the tree builder looks for it (`Forward.query`), each construct is
made of tokens from the cursor on (`Row`), so that siblings follow one another. The builder and the check take the same
steps (`Build.Tracks`). A cast is the one node that lists what stands first as its second child.
-/

namespace SqlLens.Surface

open List

namespace Build

variable {α β γ δ : Type} {line : Line} {cursor after : Cursor} {index : Option Nat} {span : Option Span}

/-! ### Rules -/

theorem exists_of_bind {m : Build α} {f : α → Build β} {result : β} {last : Cursor}
    (ran : ((m >>= f).run tokens).run.run cursor = (.ok result, last)) :
    ∃ value middle, (m.run tokens).run.run cursor = (.ok value, middle) ∧
      ((f value).run tokens).run.run middle = (.ok result, last) := by
  change (match (m.run tokens).run.run cursor with
    | (outcome, middle) => ExceptT.bindCont (fun value => f value tokens) outcome middle) = (.ok result, last) at ran
  cases first : (m.run tokens).run.run cursor with
  | mk outcome middle =>
    rw [first] at ran
    cases outcome with
    | error unsupported => cases ran
    | ok value => exact ⟨value, middle, rfl, ran⟩

/-- When a check and a building step both succeed from a token, their cursors take the same course, and something holds
of what was built. -/
def Tracks (line : Line) (cursor : Cursor) (check : Build β) (step : Build α) (R : α → Cursor → Prop) : Prop :=
  ∀ noted last, (check.run line.tokens).run.run cursor = (.ok noted, last) →
    ∀ value after, (step.run line.tokens).run.run cursor = (.ok value, after) → after = last ∧ R value after

def Builds (line : Line) (cursor : Cursor) (check : Build β) (step : Build Node) : Prop :=
  Tracks line cursor check step fun made after => Row line cursor after [made] []

def BuildsAll (line : Line) (cursor : Cursor) (check : Build β) (step : Build (List Node)) : Prop :=
  Tracks line cursor check step fun made after => Row line cursor after made []

def Spots (line : Line) (cursor : Cursor) (check : Build β) (step : Build (Option Span)) : Prop :=
  Tracks line cursor check step fun span after => Row line cursor after [] [span]

variable {check : Build β} {step : Build γ} {R : γ → Cursor → Prop}

protected theorem Tracks.pure (holds : R value cursor) : Tracks line cursor (pure noted) (pure value) R := by
  intro _ last checked _ after ran
  cases checked
  cases ran
  exact ⟨rfl, holds⟩

protected theorem Tracks.bind {m : Build α} {f : α → Build γ} {Q : α → Cursor → Prop}
    (first : Tracks line cursor check m Q)
    (rest : ∀ noted value middle, Q value middle → Tracks line middle (k noted) (f value) R) :
    Tracks line cursor (check >>= k) (m >>= f) R := by
  intro result last checked value after ran
  obtain ⟨noted, between, early, late⟩ := exists_of_bind checked
  obtain ⟨made, middle, here, there⟩ := exists_of_bind ran
  obtain ⟨rfl, holds⟩ := first noted between early made middle here
  exact rest noted made middle holds result last late value after there

protected theorem Tracks.both {m : Build α} {k : α → Build δ} {f : α → Build γ}
    (rest : ∀ value middle, (m.run line.tokens).run.run cursor = (.ok value, middle) →
      Tracks line middle (k value) (f value) R) : Tracks line cursor (m >>= k) (m >>= f) R := by
  intro result last checked value after ran
  obtain ⟨noted, between, early, late⟩ := exists_of_bind checked
  obtain ⟨made, middle, here, there⟩ := exists_of_bind ran
  cases early.symm.trans here
  exact rest noted between early result last late value after there

protected theorem Tracks.same
    (holds : ∀ value after, (step.run line.tokens).run.run cursor = (.ok value, after) → R value after) :
    Tracks line cursor step step R := by
  intro noted last checked value after ran
  cases checked.symm.trans ran
  exact ⟨rfl, holds _ _ ran⟩

protected theorem Tracks.done (first : Tracks line cursor check step R) :
    Tracks line cursor (check >>= fun _ => pure noted) step R := by
  rw [← bind_pure step]
  exact .bind first fun _ _ _ holds => .pure holds

protected theorem Tracks.last (rest : Tracks line cursor (check >>= pure) step R) :
    Tracks line cursor check step R := by
  rwa [bind_pure] at rest

protected theorem Tracks.unsupported : Tracks line cursor check (unsupported what : Build γ) R := by
  intro _ _ _ _ _ ran
  cases ran

protected theorem Tracks.unsupported_bind : Tracks line cursor check ((unsupported what : Build α) >>= f) R := by
  intro _ _ _ _ _ ran
  cases ran

protected theorem Tracks.stop : Tracks line cursor (unsupported what : Build β) step R := by
  intro _ _ checked
  cases checked

protected theorem Tracks.ite [Decidable c] (left : Tracks line cursor check first R)
    (right : Tracks line cursor check second R) : Tracks line cursor check (if c then first else second) R := by
  split
  · exact left
  · exact right

theorem notPast_run
    (ran : ((Forward.notPast index floor).run tokens).run.run cursor = (.ok passed, after)) :
    after = cursor ∧ ∀ i ∈ index, floor ≤ i := by
  unfold Forward.notPast at ran
  split at ran
  · cases ran
  · rename_i behind
    cases ran
    refine ⟨rfl, fun i given => ?_⟩
    cases given
    simpa using behind

protected theorem Tracks.notPast {k : Unit → Build δ}
    (rest : (∀ i ∈ index, floor ≤ i) → Tracks line cursor (k ()) step R) :
    Tracks line cursor (Forward.notPast index floor >>= k) step R := by
  intro result last checked
  obtain ⟨_, _, passed, goes⟩ := exists_of_bind checked
  obtain ⟨rfl, behind⟩ := notPast_run passed
  exact rest behind result last goes

protected theorem Tracks.ahead
    (rest : (∀ i ∈ place.bind line.tokens.at?, cursor.place ≤ i) → Tracks line cursor (k ()) step R) :
    Tracks line cursor (Forward.ahead place >>= k) step R := .notPast rest

/-! What leaves the cursor where it is. -/

protected theorem Tracks.read (rest : Tracks line cursor check (f line.tokens) R) :
    Tracks line cursor check (read >>= f) R := rest

protected theorem Tracks.reads (rest : Tracks line cursor (k line.tokens) (f line.tokens) R) :
    Tracks line cursor (read >>= k) (read >>= f) R := rest

protected theorem Tracks.get (rest : Tracks line cursor check (f cursor) R) : Tracks line cursor check (get >>= f) R :=
  rest

protected theorem Tracks.readAhead (rest : Tracks line cursor (k line.tokens) step R) :
    Tracks line cursor (read >>= k) step R := rest

protected theorem Tracks.gets (rest : Tracks line cursor (k cursor) step R) :
    Tracks line cursor (get >>= k) step R := rest

protected theorem Tracks.leaf (rest : Tracks line cursor check (f (.leaf kind span)) R) :
    Tracks line cursor check (leaf kind span >>= f) R := rest

theorem tracks_put (rest : Tracks line cursor check (f (.mk kind span children)) R) :
    Tracks line cursor check (node kind span children >>= f) R := rest

theorem tracks_spanOfNode (rest : Tracks line cursor check (f made.span) R) :
    Tracks line cursor check (spanOfNode made >>= f) R := rest

protected theorem Tracks.covering (rest : Tracks line cursor check (f (.covering kind children own)) R) :
    Tracks line cursor check (covering kind children own >>= f) R := rest

protected theorem Tracks.covers (row : Row line low cursor nodes spans)
    (among : ∀ span ∈ own, span ∈ spans := by simp) :
    Tracks line cursor (pure noted) (covering kind nodes own) fun made after => Row line low after [made] [] :=
  .pure (row.covering among)

/-! ### Rows that grow -/

section Grow

variable (row : Row line low cursor nodes spans)
include row

protected theorem Tracks.node (first : Builds line cursor check m)
    (rest : ∀ {noted made} {after : Cursor}, Row line low after (nodes ++ [made]) spans →
      Tracks line after (k noted) (f made) R) :
    Tracks line cursor (check >>= k) (m >>= f) R :=
  .bind first fun _ _ _ more => rest (row.append more)

protected theorem Tracks.nodes (first : BuildsAll line cursor check m)
    (rest : ∀ {noted made} {after : Cursor}, Row line low after (nodes ++ made) spans →
      Tracks line after (k noted) (f made) R) :
    Tracks line cursor (check >>= k) (m >>= f) R :=
  .bind first fun _ _ _ more => rest (row.append more)

protected theorem Tracks.span (first : Spots line cursor check m)
    (rest : ∀ {noted span} {after : Cursor}, Row line low after nodes (span :: spans) →
      Tracks line after (k noted) (f span) R) :
    Tracks line cursor (check >>= k) (m >>= f) R := by
  refine .bind first fun _ _ _ more => rest ?_
  have grown := row.append more
  rwa [append_nil] at grown

omit row in
theorem take_run (test : Shape → Bool) : ((take test).run tokens).run.run cursor =
    ((match tokens.from? cursor.place test with
      | some index => do modify (·.take index); return some index
      | none => return none : Build (Option Nat)).run tokens).run.run cursor := rfl

protected theorem Tracks.take (test : Shape → Bool) {k : Option Nat → Build δ} {f : Option Nat → Build γ}
    (rest : ∀ index (after : Cursor), (∀ i ∈ index, low ≤ i ∧ after.place = i + 1) →
      Row line low after nodes (index.bind line.tokens.span? :: spans) → Tracks line after (k index) (f index) R) :
    Tracks line cursor (take test >>= k) (take test >>= f) R := by
  refine .both fun index after ran => ?_
  rw [take_run] at ran
  split at ran
  · rename_i index found
    cases ran
    have behind := Tokens.from?_le found
    have start := Nat.le_trans row.le behind
    refine rest _ _ (by simp [start, Cursor.take]) ((row.forward (Nat.le_succ_of_le behind)).also ?_)
    exact lying_span? line.rising start (Nat.lt_succ_self _)
  · cases ran
    exact rest _ _ (by simp) (row.also lying_none)

protected theorem Tracks.takeSpan (test : Shape → Bool)
    (rest : ∀ {span} {after : Cursor}, Row line low after nodes (span :: spans) →
      Tracks line after (k span) (f span) R) :
    Tracks line cursor (takeSpan test >>= k) (takeSpan test >>= f) R := by
  unfold takeSpan
  rw [bind_assoc, bind_assoc]
  exact .take row test fun _ _ _ row => rest row

protected theorem Tracks.spanOf
    (rest : ∀ {after : Cursor}, after.place = cursor.place → Row line low after nodes spans →
      Tracks line after (k (index.bind line.tokens.span?)) (f (index.bind line.tokens.span?)) R) :
    Tracks line cursor (spanOf index >>= k) (spanOf index >>= f) R := @rest (cursor.look index) rfl row

protected theorem Tracks.closerOf (rest : ∀ {after : Cursor}, Row line low after nodes spans →
      Tracks line after (k (index.bind line.tokens.closer?)) (f (index.bind line.tokens.closer?)) R) :
    Tracks line cursor (closerOf index >>= k) (closerOf index >>= f) R := @rest (cursor.look index) row

theorem tracks_jumpTo {start : Nat} (le : cursor.place ≤ start)
    (rest : ∀ {after : Cursor}, Row line low after nodes spans → Tracks line after (k ()) (f ()) R) :
    Tracks line cursor (jumpTo start >>= k) (jumpTo start >>= f) R :=
  @rest (cursor.move start) (row.forward le)

protected theorem Tracks.close (behind : ∀ i ∈ stop, low ≤ i)
    (rest : ∀ {span} {after : Cursor}, (∀ i ∈ stop, i < after.place) → Row line low after nodes (span :: spans) →
      Tracks line after (k span) (f span) R) : Tracks line cursor (close stop >>= k) (close stop >>= f) R := by
  cases stop with
  | none => exact rest (by simp) (row.also lying_none)
  | some index =>
    have passed : index < max cursor.place (index + 1) := Nat.le_max_right _ _
    refine @rest _ ((cursor.move (max cursor.place (index + 1))).look (some index)) (by simp [Cursor.look, Cursor.move])
      ((row.forward (Nat.le_max_left _ _)).also ?_)
    exact lying_span? line.rising (behind index rfl) passed

omit row in
theorem takeOpenParen_run : (takeOpenParen.run tokens).run.run cursor =
    ((match tokens.shape? cursor.place with
      | some (.mark .openParen) => do modify (·.take cursor.place); return some cursor.place
      | _ => return none : Build (Option Nat)).run tokens).run.run cursor := rfl

theorem tracks_takeOpenParen {k : Option Nat → Build δ}
    (rest : ∀ index (after : Cursor), (∀ i ∈ index, low ≤ i) → Row line low after nodes spans →
      Tracks line after (k index) (f index) R) : Tracks line cursor (takeOpenParen >>= k) (takeOpenParen >>= f) R := by
  refine .both fun index after ran => ?_
  rw [takeOpenParen_run] at ran
  split at ran
  · cases ran
    exact rest _ _ (by simpa using row.le) (row.forward (Nat.le_succ _))
  · cases ran
    exact rest _ _ (by simp) row

omit row in
theorem enclosing_run : ((enclosing span).run tokens).run.run cursor =
    ((match span.bind fun span => tokens.at? span.start with
      | some (first + 1) =>
        match tokens.shape? first, tokens.closer? first with
        | some (.mark .openParen), some last => do
          moveTo (last + 1)
          return Span.coverAll ((tokens.span? first).toList ++ (tokens.span? last).toList)
        | _, _ => return none
      | _ => return none : Build (Option Span)).run tokens).run.run cursor := rfl

theorem row_enclosing
    (behind : ∀ i ∈ (span.bind fun span => line.tokens.at? span.start).map (· - 1), low ≤ i)
    (ran : ((enclosing span).run line.tokens).run.run cursor = (.ok parens, after)) :
    Row line low after nodes (parens :: spans) := by
  rw [enclosing_run] at ran
  split at ran
  · rename_i first found
    split at ran
    · rename_i last opens closed
      cases ran
      have start : low ≤ first := behind first (by simp [found])
      have nested := line.rising.lt_closer closed
      refine (row.forward (Nat.le_max_left _ _)).also (lying_coverAll fun own listed => ?_)
      simp only [mem_append, Option.mem_toList] at listed
      rcases listed with listed | listed
      · exact listed ▸ lying_span? line.rising start (by omega)
      · exact listed ▸ lying_span? line.rising (by omega) (by omega)
    · cases ran
      exact row.also lying_none
  · cases ran
    exact row.also lying_none

protected theorem Tracks.enclosed {check : Build Unit} {k : Unit → Build δ} {f : Node → Option Span → Build γ}
    (first : Builds line cursor check m)
    (rest : ∀ {made span} {after : Cursor}, Row line low after (nodes ++ [made]) (span :: spans) →
      Tracks line after (k ()) (f made span) R) : Tracks line cursor (Forward.enclosed check m >>= k)
      (m >>= fun made => spanOfNode made >>= fun span => enclosing span >>= f made) R := by
  intro result last checked value after ran
  obtain ⟨_, _, encloses, goes⟩ := exists_of_bind checked
  -- The check runs the builder once more from where it started.
  obtain ⟨_, _, got, checks⟩ := exists_of_bind encloses
  cases got
  obtain ⟨_, _, early, returns⟩ := exists_of_bind checks
  obtain ⟨_, _, back, builds⟩ := exists_of_bind returns
  cases back
  obtain ⟨made, place, again, reads⟩ := exists_of_bind builds
  obtain ⟨_, _, here, spans⟩ := exists_of_bind ran
  cases again.symm.trans here
  obtain ⟨same, more⟩ := first _ _ early made place again
  obtain ⟨_, _, read, passes⟩ := exists_of_bind reads
  cases read
  obtain ⟨_, _, passed, found⟩ := exists_of_bind passes
  obtain ⟨stays, behind⟩ := notPast_run passed
  subst stays
  obtain ⟨span, end_, parens, done⟩ := exists_of_bind found
  cases done
  obtain ⟨_, _, spanned, finds⟩ := exists_of_bind spans
  cases spanned
  obtain ⟨_, _, alike, rests⟩ := exists_of_bind finds
  cases parens.symm.trans alike
  refine rest ?_ result last goes value after rests
  exact row_enclosing (row.append more) (fun i given => Nat.le_trans row.le (behind i given)) parens

end Grow

/-! ### Names -/

theorem kept_run (place : Option Nat) : ((kept place).run tokens).run.run cursor =
    ((match place.bind tokens.at? with
      | some index => do moveTo (index + 1); return tokens.span? index
      | none => return none : Build (Option Span)).run tokens).run.run cursor := rfl

theorem spots_kept (place : Option Nat) : Spots line cursor (Forward.kept place) (kept place) := by
  refine .ahead fun behind => .same fun span after ran => ?_
  rw [kept_run] at ran
  split at ran
  · rename_i index found
    cases ran
    refine ((Row.start cursor).forward (Nat.le_max_left _ _)).also ?_
    exact lying_span? line.rising (behind index found) (Nat.le_max_right _ _)
  · cases ran
    exact (Row.start cursor).also lying_none

theorem start_le_nameSpan (piece : Piece) (value : String) : piece.span.start ≤ (nameSpan piece value).start := by
  unfold nameSpan
  split
  · split
    · exact Nat.le_succ _
    · exact Nat.le_refl _
  · exact Nat.le_refl _

theorem lying_past {cursor index : Nat} {piece : Piece} {span : Span} (here : line.tokens.pieces[index]? = some piece)
    (behind : cursor ≤ index) (starts : piece.span.start ≤ span.start) :
    Lying line.tokens cursor (line.tokens.past cursor span.stop) (some span) := by
  rintro own ⟨⟩
  obtain ⟨earlier, there⟩ := Tokens.exists_of_le here behind
  exact ⟨⟨earlier, there, Nat.le_trans (line.rising.start_le there here behind) starts⟩,
    (Tokens.past_spec cursor span.stop).2⟩

theorem identSpan_run (ident : Ident) : ((identSpan ident).run tokens).run.run cursor =
    ((match (ident.place.bind tokens.at?).bind (tokens.pieces[·]?) with
      | some piece => do
        passOver (nameSpan piece ident.value).stop
        return some (nameSpan piece ident.value)
      | none => do
        let isName : Shape → Bool
          | .word value _ => value == ident.value
          | _ => false
        match ← spanOf (tokens.from? (← get).place isName) with
        | some span => do passOver span.stop; return some span
        | none => return none : Build (Option Span)).run tokens).run.run cursor := rfl

theorem spots_name (ident : Ident) : Spots line cursor (Forward.name ident) (identSpan ident) := by
  refine .ahead fun behind => .same fun span after ran => ?_
  rw [identSpan_run] at ran
  have moved {own} (lies : Lying line.tokens cursor (line.tokens.past cursor own.stop) (some own)) :
      Row line cursor (line.tokens.past cursor own.stop) [] [some own] :=
    ((Row.start cursor.place).forward (Tokens.past_spec cursor.place own.stop).1).also lies
  split at ran
  · rename_i piece placed
    cases ran
    obtain ⟨index, sought, here⟩ := Option.bind_eq_some_iff.mp placed
    exact moved (lying_past here (behind index sought) (start_le_nameSpan piece ident.value))
  · obtain ⟨_, _, ⟨⟩, ran⟩ := exists_of_bind ran
    obtain ⟨_, _, ⟨⟩, ran⟩ := exists_of_bind ran
    split at ran
    · rename_i own found
      cases ran
      obtain ⟨index, sought, here⟩ := Option.bind_eq_some_iff.mp found
      obtain ⟨piece, token, rfl⟩ := Option.map_eq_some_iff.mp here
      exact moved (lying_past token (Tokens.from?_le sought) (Nat.le_refl _))
    · cases ran
      exact (Row.start cursor).also lying_none

theorem builds_identifier (ident : Ident) : Builds line cursor (Forward.name ident) (identifier ident) :=
  .last (.span (.start cursor) (spots_name ident) fun row => .pure (row.leaf (by simp)))

theorem builds_aliasName (name : Ident) : Builds line cursor (Forward.name name) (aliasName name) :=
  .last (.span (.start cursor) (spots_name name) fun row => .pure (row.leaf (by simp)))

protected theorem Tracks.mapM (view : γ → List Node) {f : α → Build β} {items : List α}
    (every : ∀ item cursor,
      Tracks line cursor (f item) (g item) fun made after => Row line cursor after (view made) []) :
    Tracks line cursor (items.mapM f) (items.mapM g) fun made after =>
      Row line cursor after (made.flatMap view) [] ∧ made.length = items.length := by
  induction items generalizing cursor with
  | nil => exact .pure ⟨.start cursor, rfl⟩
  | cons item rest ih =>
    rw [mapM_cons, mapM_cons]
    refine .bind (every item cursor) fun _ one middle first => ?_
    refine .bind ih fun _ others after more => .pure ⟨first.append more.1, ?_⟩
    rw [length_cons, more.2, length_cons]

protected theorem Tracks.mapM_nodes {f : α → Build β} {g : α → Build Node} {items : List α}
    (every : ∀ item cursor, Builds line cursor (f item) (g item)) :
    Tracks line cursor (items.mapM f) (items.mapM g) fun made after =>
      Row line cursor after made [] ∧ made.length = items.length := by
  have each : Tracks line cursor (items.mapM f) (items.mapM g) _ := .mapM (fun node => [node]) every
  simpa only [flatMap_singleton'] using each

theorem sharedParts_apart (outer : Span) (parts : List Ident) (offset : Nat) :
    (sharedParts outer offset parts).Pairwise (fun left right => left.2.stop ≤ right.2.start) ∧
      ∀ part ∈ sharedParts outer offset parts, offset ≤ part.2.start := by
  induction parts generalizing offset with
  | nil => simp [sharedParts]
  | cons part rest ih =>
    unfold sharedParts
    extract_lets stop
    have least : offset ≤ stop := Nat.le_max_right _ _
    obtain ⟨apart, behind⟩ := ih (stop + 1)
    refine ⟨pairwise_cons.mpr ⟨fun later listed => ?_, apart⟩, forall_mem_cons.mpr ⟨Nat.le_refl _, ?_⟩⟩
    · have := behind later listed
      simp only [Span.upTo]
      omega
    · intro later listed
      have := behind later listed
      omega

theorem leaves_run (tokens : Tokens) (parts : List (String × Span)) :
    ((parts.mapM fun (name, span) => (leaf (.identifier name) (some span) : Build Node)).run tokens).run.run cursor =
      (.ok (parts.map fun part => .leaf (.identifier part.1) (some part.2)), cursor) := by
  induction parts with
  | nil => rfl
  | cons part rest ih =>
    rw [mapM_cons]
    change (match
      ((rest.mapM fun (name, span) => (leaf (.identifier name) (some span) : Build Node)).run tokens).run.run
        cursor with
      | (outcome, middle) => ExceptT.bindCont (fun others =>
          (pure (Node.leaf (.identifier part.1) (some part.2) :: others) : Build (List Node)) tokens) outcome middle) =
            _
    rw [ih]
    rfl

theorem row_shared
    (whole : Lying line.tokens cursor after (some outer)) (le : cursor.place ≤ after.place)
    (room : outer.start + (parts.map fun part => Text.size part.value + 1).sum ≤ outer.stop) :
    Row line cursor after ((sharedParts outer (outer.start + 1) parts).map fun part =>
      .leaf (.identifier part.1) (some part.2)) [] where
  le := le
  lies := by
    intro node listed
    obtain ⟨part, cut, rfl⟩ := mem_map.mp listed
    have inside := sharedParts_inside (Nat.le_succ _) (by omega) part cut
    rintro own ⟨⟩
    obtain ⟨⟨piece, here, starts⟩, ends⟩ := whole outer rfl
    exact ⟨⟨piece, here, Nat.le_trans starts inside.1⟩, fun later there => Nat.le_trans inside.2 (ends later there)⟩
  ordered := by
    intro node listed
    obtain ⟨part, -, rfl⟩ := mem_map.mp listed
    exact .leaf
  apart := by
    refine pairwise_map.mpr ((sharedParts_apart outer parts _).1.imp fun {left right} before => ?_)
    rintro _ ⟨⟩ _ ⟨⟩
    exact before
  found := by simp

theorem builds_group (parts : List Ident) : BuildsAll line cursor (Forward.group parts) (sharedNodes parts) := by
  have oneByOne : BuildsAll line cursor (do let _ ← parts.mapM Forward.name) (parts.mapM identifier) :=
    .done fun noted last checked made after ran =>
      (Tracks.mapM_nodes (fun ident _ => builds_identifier ident) noted last checked made after ran).imp_right (·.1)
  match parts with
  | [] | [_] => exact oneByOne
  | first :: second :: more =>
    refine .readAhead (.readAhead ?_)
    cases found : (first.place.bind line.tokens.at?).bind line.tokens.span? with
    | none => exact .stop
    | some outer =>
      refine .ahead fun behind => ?_
      split
      · rename_i room
        refine .done (.same fun made after ran => ?_)
        obtain ⟨_, _, ⟨⟩, ran⟩ := exists_of_bind ran
        dsimp only at ran
        rw [found] at ran
        obtain ⟨leaves, middle, cut, moves⟩ := exists_of_bind ran
        cases (leaves_run _ _).symm.trans cut
        cases moves
        obtain ⟨index, placed, here⟩ := Option.bind_eq_some_iff.mp found
        obtain ⟨piece, token, rfl⟩ := Option.map_eq_some_iff.mp here
        exact row_shared (lying_past token (behind index placed) (Nat.le_refl _)) (Tokens.past_spec _ _).1 room
      · exact .stop

theorem builds_path (parts : List Ident) : Builds line cursor (Forward.path parts) (path parts) := by
  refine .bind (.mapM id fun group _ => builds_group group) fun _ groups after row => .pure ?_
  rw [flatMap_id] at row
  exact row.1.covering

/-! ### Parts of constructs -/

theorem builds_literal (value : Literal) : Builds line cursor (literal value) (literal value) := by
  unfold literal
  split
  · exact .takeSpan (.start cursor) _ fun row => .pure (row.leaf (by simp))
  · exact .unsupported

theorem builds_tableAlias? (aliasName : Option TableAlias) :
    BuildsAll line cursor (Forward.name? (aliasName.map (·.name))) (tableAlias? aliasName) := by
  cases aliasName with
  | none => exact .pure (.start cursor)
  | some aliasName =>
    refine .node (.start cursor) (show Builds line cursor _ (tableAlias aliasName) from ?_) fun row => .pure row
    exact .ite (builds_aliasName _) .unsupported

theorem builds_star (all : Star) : Builds line cursor (Forward.star all) (star all) := by
  unfold star
  refine .ite .unsupported (.span (.start cursor) (spots_kept _) @fun _ symbol _ row => ?_)
  refine .bind (.mapM_nodes fun ident _ => builds_identifier ident) fun _ excluded after more => ?_
  have empty : excluded.isEmpty = all.except.isEmpty := by
    rw [Bool.eq_iff_iff, List.isEmpty_iff, List.isEmpty_iff, ← List.length_eq_zero_iff, more.2, List.length_eq_zero_iff]
  rw [empty]
  have row := row.append more.1
  split
  · exact .pure ((row.also lying_none).covering)
  · exact .takeSpan row _ fun row => .covers row

theorem spots_direction (ascending nullsFirst : Option Bool) :
    Tracks line cursor (direction ascending nullsFirst) (direction ascending nullsFirst) fun words after =>
      Row line cursor after [] words := by
  unfold direction
  extract_lets next
  have goesOn {word} {middle : Cursor} (row : Row line cursor middle [] [word]) :
      Tracks line middle (next word) (next word) fun words after => Row line cursor after [] words := by
    have done (nulls : Option Span) (after : Cursor) {spans : List (Option Span)}
        (row : Row line cursor after [] (nulls :: spans)) (listed : word ∈ spans) :
        Row line cursor after [] [word, nulls] :=
      { row with found := fun span given => row.found span (by simp at given ⊢; grind) }
    simp only [next]
    split
    · refine .takeSpan row _ fun row => .takeSpan row _ @fun nulls after row => .pure ?_
      exact done nulls after row (by simp)
    · exact .pure (done none middle (row.also lying_none) (by simp))
  clear_value next
  split
  · exact .takeSpan (.start cursor) _ goesOn
  · exact .takeSpan (.start cursor) _ goesOn
  · exact goesOn ((Row.start cursor).also lying_none)

theorem builds_part {present : Bool} {keyword : String} {check : Build Unit}
    (every : ∀ cursor, BuildsAll line cursor check items) :
    BuildsAll line cursor (Forward.part present keyword check) (part present keyword kind items) := by
  unfold part Forward.part
  split
  · refine .takeSpan (.start cursor) _ fun row => .last (.nodes row (every _) fun row => ?_)
    exact .pure row.covering
  · exact .pure (.start cursor)

theorem builds_bounds (first : ∀ cursor, BuildsAll line cursor checkLimit limit)
    (second : ∀ cursor, BuildsAll line cursor checkOffset offset) :
    BuildsAll line cursor (Forward.part hasLimit "LIMIT" (do
      checkLimit
      Forward.part hasOffset "OFFSET" checkOffset)) (bounds hasLimit hasOffset limit offset) := by
  unfold bounds Forward.part
  split
  · refine .takeSpan (.start cursor) _ @fun keyword _ row => .nodes row (first _) @fun _ count _ row => ?_
    split
    · refine .takeSpan row _ fun row => .last (.nodes row (second _) fun row => ?_)
      exact .pure row.covering
    · exact .pure ((append_nil count ▸ row).covering)
  · split
    · exact .unsupported
    · exact .pure (.start cursor)

theorem le_closer (line : Line) {start : Option Nat} (behind : ∀ i ∈ start, low ≤ i) :
    ∀ stop ∈ start.bind line.tokens.closer?, low ≤ stop := by
  intro stop given
  obtain ⟨i, known, closed⟩ := Option.bind_eq_some_iff.mp given
  exact Nat.le_trans (behind i known) (Nat.le_of_lt (line.rising.lt_closer closed))

theorem le_parens (line : Line) (behind : ∀ i ∈ index, low ≤ i) :
    ∀ stop ∈ (index.bind line.tokens.parensAfter?).map Prod.snd, low ≤ stop := by
  intro stop given
  obtain ⟨⟨start, _⟩, found, rfl⟩ := Option.map_eq_some_iff.mp given
  obtain ⟨i, known, after⟩ := Option.bind_eq_some_iff.mp found
  unfold Tokens.parensAfter? at after
  split at after
  · obtain ⟨_, closed, same⟩ := Option.map_eq_some_iff.mp after
    cases same
    have := line.rising.lt_closer closed
    have := behind i known
    dsimp only
    omega
  · cases after

/-- The type in a cast lies behind what comes before and in the parentheses of the cast. -/
theorem lying_typeTokens {as : Option Nat} {parens : Option (Nat × Nat)} {after : Nat} (behind : ∀ i ∈ as, low ≤ i)
    (within : ∀ i ∈ parens.map Prod.snd, i < after) :
    Lying line.tokens low after (Span.coverAll (((typeTokens as parens).1.bind line.tokens.span?).toList ++
      ((typeTokens as parens).2.bind line.tokens.span?).toList)) := by
  refine lying_coverAll fun own listed => ?_
  unfold typeTokens at listed
  split at listed
  · rename_i as start stop
    split at listed
    · have starts := behind as rfl
      have ends := within stop (by simp)
      simp only [mem_append, Option.mem_toList, Option.bind_some] at listed
      rcases listed with listed | listed
      · exact listed ▸ lying_span? line.rising (by omega) (by omega)
      · exact listed ▸ lying_span? line.rising (by omega) (by omega)
    · simp at listed
  · simp at listed

/-- Parentheses right behind a token open where the cursor rests. -/
theorem le_parens_start {tokens : Tokens} {parens : Nat × Nat} (rests : ∀ i ∈ index, place = i + 1)
    (found : index.bind tokens.parensAfter? = some parens) : place ≤ parens.1 + 1 := by
  obtain ⟨i, known, after⟩ := Option.bind_eq_some_iff.mp found
  have := rests i known
  unfold Tokens.parensAfter? at after
  split at after
  · obtain ⟨_, -, rfl⟩ := Option.map_eq_some_iff.mp after
    dsimp only
    omega
  · cases after

protected theorem Tracks.openKeywordCall (keyword : String) {k : Node × Option Nat → Build δ}
    {f : Node × Option Nat → Build γ}
    (rest : ∀ name stop (after : Cursor), (∀ i ∈ stop, cursor.place ≤ i) → Row line cursor after [name] [] →
      Tracks line after (k (name, stop)) (f (name, stop)) R) :
    Tracks line cursor (openKeywordCall keyword >>= k) (openKeywordCall keyword >>= f) R := by
  have opens : Tracks line cursor (openKeywordCall keyword : Build (Node × Option Nat)) (openKeywordCall keyword)
      fun call after => Row line cursor after [call.1] [] ∧ ∀ i ∈ call.2, cursor.place ≤ i := by
    refine .take (.start cursor) _ fun index middle behind row => ?_
    have closes := le_parens line fun i known => (behind i known).1
    have named := @Row.word _ _ _ _ _ _ keyword row mem_cons_self
    refine .same fun call after ran => ?_
    obtain ⟨_, _, ⟨⟩, ran⟩ := exists_of_bind ran
    obtain ⟨_, _, ⟨⟩, ran⟩ := exists_of_bind ran
    obtain ⟨_, _, ⟨⟩, ran⟩ := exists_of_bind ran
    obtain ⟨_, _, ⟨⟩, ran⟩ := exists_of_bind ran
    dsimp only at ran
    split at ran
    · rename_i start stop found
      cases ran
      rw [found] at closes
      exact ⟨named.forward (le_parens_start (fun i known => (behind i known).2) found), by simpa using closes⟩
    · cases ran
      exact ⟨named, by simp⟩
  refine .both fun call after ran => ?_
  obtain ⟨-, row, behind⟩ := opens _ _ ran _ _ ran
  exact rest call.1 call.2 after behind row

/-! ### The tree builder -/

mutual
protected theorem Builds.query : (source : Query) → ∀ cursor, Builds line cursor (Forward.query source) (query source)
  | .mk withHead entries body orderBy limit offset offsetRows extra, cursor => by
    unfold query Forward.query
    refine .ite .unsupported ?_
    extract_lets nextCheck next
    have goesOn (common : List Node) (middle : Cursor) (row : Row line cursor middle common []) :
        Tracks line middle (nextCheck ()) (next common) fun made after => Row line cursor after [made] [] := by
      refine .node row (.queryBody body _) fun row => ?_
      refine .nodes row (builds_part (.orderItems orderBy)) fun row => .last ?_
      rw [append_assoc] at row
      refine .nodes row (builds_bounds (.expr? limit) (.expr? offset)) fun row => ?_
      exact .covers row
    clear_value nextCheck next
    cases withHead with
    | none => exact goesOn [] cursor (.start cursor)
    | some head =>
      refine .ite .unsupported_bind (.span (.start cursor) (spots_kept _) @fun _ keyword _ row => ?_)
      refine .nodes row (.ctes entries _) fun row => ?_
      exact goesOn _ _ row.covering

protected theorem BuildsAll.ctes :
    (entries : List Cte) → ∀ cursor, BuildsAll line cursor (Forward.ctes entries) (ctes entries)
  | [], cursor => .pure (.start cursor)
  | .mk aliasName body source place :: rest, cursor => by
    refine .ite .unsupported (.span (.start cursor) (spots_name _) fun row => ?_)
    refine .node row (.query body _) fun row => .span row (spots_kept _) fun row => ?_
    refine .covering (.last ?_)
    exact .nodes row.covering (.ctes rest _) fun row => .pure row

protected theorem Builds.queryBody :
    (body : Body) → ∀ cursor, Builds line cursor (Forward.queryBody body) (queryBody body)
  | .select head items source selection groupBy having windows qualify, cursor => by
    unfold queryBody Forward.queryBody
    refine .ite .unsupported (.ite .unsupported ?_)
    refine .span (.start cursor) (spots_kept _) @fun _ keyword _ row => ?_
    extract_lets nextCheck definitions filter next
    have goesOn (distinct : Bool) (middle : Cursor) {spans : List (Option Span)} (row : Row line cursor middle [] spans)
        (listed : keyword ∈ spans) :
        Tracks line middle (nextCheck ()) (next distinct) fun made after => Row line cursor after [made] [] := by
      refine .nodes (.start middle) (.selectColumns items _) fun columns => ?_
      refine .covering ?_
      have list : Row line middle _ [.covering .selectList _ []] [] := columns.covering
      have row := row.append list
      have tables (cursor : Cursor) :
          BuildsAll line cursor (Forward.fromItem source) (do return [← fromItem source]) :=
        .last (.node (.start cursor) (.fromItem source cursor) fun row => .pure row)
      refine .nodes row (builds_part tables) fun row => ?_
      refine .nodes row (builds_part (.expr? selection)) fun row => ?_
      refine .ite .unsupported_bind (.nodes row (builds_part (.exprs groupBy)) fun row => ?_)
      refine .nodes row (builds_part (.expr? having)) fun row => ?_
      split
      · refine .nodes row (builds_part (.namedWindows windows)) fun row => .last ?_
        refine .nodes row (builds_part (.expr? qualify)) fun row => ?_
        rw [append_assoc] at row
        exact .pure (row.covering (by simpa using listed))
      · refine .nodes row (builds_part (.expr? qualify)) fun row => .last ?_
        refine .nodes row (builds_part (.namedWindows windows)) fun row => ?_
        rw [append_assoc] at row
        exact .pure (row.covering (by simpa using listed))
    clear_value nextCheck next
    cases head.distinct with
    | no => exact goesOn false _ row (by simp)
    | yes => exact .takeSpan row _ fun row => goesOn true _ row (by simp)
    | on _ => exact .unsupported_bind
  | .query body, cursor => .query body cursor
  | .setOperation op quantifier left right, cursor => by
    have both (kind : Kind) : Builds line cursor (Forward.queryBody (.setOperation op quantifier left right)) (do
        let left ← queryBody left
        let right ← queryBody right
        covering kind [left, right] []) := by
      refine .node (.start cursor) (.queryBody left _) fun row => .last ?_
      exact .node row (.queryBody right _) fun row => .covers row
    cases quantifier with
    | all | distinct => exact both _
    | _ => exact .unsupported
  | .foreign _, _ => .unsupported

protected theorem BuildsAll.namedWindows : (windows : List NamedWindow) → ∀ cursor,
    BuildsAll line cursor (Forward.namedWindows windows) (namedWindows windows)
  | [], cursor => .pure (.start cursor)
  | .mk name definition :: rest, cursor => by
    refine .span (.start cursor) (spots_name _) fun row => .takeSpan row _ fun row => ?_
    refine .node row (.window none definition _ _ _ ((Row.start _).also lying_none)) fun row => ?_
    refine .covering (.last ?_)
    exact .nodes row.covering (.namedWindows rest _) fun row => .pure row

protected theorem Tracks.window (keyword : Option Span) : (definition : Window) → ∀ low (cursor : Cursor) spans,
    Row line low cursor [] (keyword :: spans) →
      Tracks line cursor (Forward.window definition) (window keyword definition) fun made after =>
        Row line low after [made] []
  | .named name, low, cursor, spans, row =>
    .span row (spots_name _) fun row => .covers row
  | .spec base partitionBy orderBy _, low, cursor, spans, row => by
    unfold window Forward.window
    refine .take row _ fun start _ behind row => .closerOf row fun row => ?_
    have closes := le_closer line fun i known => (behind i known).1
    extract_lets next
    have goesOn (base : Option String) (middle : Cursor) {spans : List (Option Span)}
        (row : Row line low middle [] spans)
        (listed : ∀ span ∈ [keyword, start.bind line.tokens.span?], span ∈ spans) :
        Tracks line middle (Forward.part (!partitionBy.isEmpty) "PARTITION" (Forward.exprs partitionBy) >>= fun _ =>
          Forward.part (!orderBy.isEmpty) "ORDER" (Forward.orderItems orderBy) >>= fun _ => spanOf start >>= fun _ =>
          close (start.bind line.tokens.closer?) >>= fun _ => pure ()) (next base) fun made after =>
            Row line low after [made] [] := by
      refine .nodes row (builds_part (.exprs partitionBy)) fun row => ?_
      refine .nodes row (builds_part (.orderItems orderBy)) fun row => .spanOf row fun _ row => ?_
      refine .close row closes fun _ row => .pure (row.covering fun span given => ?_)
      rcases mem_cons.mp given with rfl | given
      · exact mem_cons_of_mem _ (listed _ (by simp))
      · rcases mem_cons.mp given with rfl | given
        · exact mem_cons_of_mem _ (listed _ (by simp))
        · exact mem_singleton.mp given ▸ mem_cons_self
    clear_value next
    cases base with
    | none => exact goesOn none _ row (by simp)
    | some name =>
      refine .bind (.done (spots_name name)) fun _ _ _ more => ?_
      exact goesOn (some name.value) _ (row.append more) (by simp)

protected theorem BuildsAll.selectColumns : (items : List SelectItem) → ∀ cursor,
    BuildsAll line cursor (Forward.selectColumns items) (selectColumns items)
  | [], cursor => .pure (.start cursor)
  | .expr value name :: rest, cursor => by
    refine .node (.start cursor) (.expr value _) @fun _ valued middle row => ?_
    extract_lets next
    have goesOn (aliases : List Node) (middle : Cursor) (row : Row line cursor middle (valued :: aliases) []) :
        Tracks line middle (Forward.selectColumns rest) (next aliases) fun made after =>
            Row line cursor after made [] := by
      refine .covering (.last ?_)
      exact .nodes row.covering (.selectColumns rest _) fun row => .pure row
    clear_value next
    cases name with
    | none => exact goesOn [] _ row
    | some name =>
      exact .bind (.done (builds_aliasName name)) fun _ _ _ more => goesOn [_] _ (row.append more)
  | .star [] all :: rest, cursor => by
    refine .node (.start cursor) (builds_star all) fun row => .covering (.last ?_)
    exact .nodes row.covering (.selectColumns rest _) fun row => .pure row
  | .star (first :: more) all :: rest, cursor => by
    refine .node (.start cursor) (builds_path _) fun row => .node row (builds_star all) fun row => ?_
    refine .covering (.covering (.last ?_))
    exact .nodes (row.covering.covering) (.selectColumns rest _) fun row =>
      .pure row

protected theorem Builds.fromItem : (source : Source) → ∀ cursor,
    Builds line cursor (Forward.fromItem source) (fromItem source)
  | .nothing, _ => .unsupported
  | .table name aliasName notes, cursor => by
    refine .ite .unsupported (.node (.start cursor) (builds_path _) fun row => .last ?_)
    exact .nodes row (builds_tableAlias? aliasName) fun row => .covers row
  | .derived lateral body aliasName, cursor => by
    refine .ite .unsupported ?_
    refine .enclosed (.start cursor) (.query body _) fun row => .last ?_
    exact .nodes row (builds_tableAlias? aliasName) fun row => .covers row
  | .unnest [array] ordinality aliasName offset offsetAlias, cursor => by
    refine .ite .unsupported (.take (.start cursor) _ fun index _ behind row => .reads ?_)
    have closes := le_parens line fun i known => (behind i known).1
    refine .node row (.expr array _) fun row => .close row closes fun _ row => ?_
    refine .nodes row (builds_tableAlias? aliasName) @fun _ _ middle row => ?_
    extract_lets next
    have goesOn (numbering : List Node) (after : Cursor) (more : Row line middle after numbering []) :
        Tracks line after (spanOf index >>= fun _ => pure ()) (next numbering) fun made after =>
          Row line cursor after [made] [] :=
      .spanOf (row.append more) fun _ row => .pure row.covering
    clear_value next
    unfold Forward.part
    split
    · simp only [bind_assoc, pure_bind]
      refine .takeSpan (.start middle) _ fun words => .takeSpan words _ fun words => ?_
      refine .bind (.mapM_nodes fun name _ => builds_aliasName name) fun _ names _ more => ?_
      exact goesOn _ _ ((words.append more.1).covering)
    · exact goesOn [] _ (.start middle)
  | .unnest [] _ _ _ _, _ | .unnest (_ :: _ :: _) _ _ _ _, _ => .unsupported
  | .nested joined none, cursor => .fromItem joined cursor
  | .nested _ (some _), _ => .unsupported
  | .join left isGlobal op right words condition, cursor => by
    refine .node (.start cursor) (.fromItem left _) fun row => ?_
    split
    · refine .node row (.fromItem right _) fun row => .last ?_
      split
      · exact .nodes row (builds_part (.expr? condition)) fun row => .covers row
      · exact .unsupported
    · exact .unsupported
  | .comma left right, cursor => by
    refine .node (.start cursor) (.fromItem left _) fun row => .last ?_
    exact .node row (.fromItem right _) fun row => .covers row
  | .foreign _, _ => .unsupported

protected theorem BuildsAll.orderItems : (items : List OrderItem) → ∀ cursor,
    BuildsAll line cursor (Forward.orderItems items) (orderItems items)
  | [], cursor => .pure (.start cursor)
  | .mk value ascending nullsFirst :: rest, cursor => by
    refine .node (.start cursor) (.expr value _) fun row => ?_
    refine .bind (spots_direction _ _) fun _ words _ found => .covering (.last ?_)
    have row := row.append found
    exact .nodes row.covering (.orderItems rest _) fun row => .pure row

protected theorem BuildsAll.exprs :
    (values : List Expr) → ∀ cursor, BuildsAll line cursor (Forward.exprs values) (exprs values)
  | [], cursor => .pure (.start cursor)
  | value :: rest, cursor => by
    refine .node (.start cursor) (.expr value _) fun row => .last ?_
    exact .nodes row (.exprs rest _) fun row => .pure row

protected theorem BuildsAll.expr? :
    (value : Option Expr) → ∀ cursor, BuildsAll line cursor (Forward.expr? value) (expr? value)
  | none, cursor => .pure (.start cursor)
  | some value, cursor =>
    .last (.node (.start cursor) (.expr value cursor) fun row => .pure row)

theorem builds_overClause : (analytic : Option Window) → ∀ cursor,
    BuildsAll line cursor (Forward.overClause analytic) (overClause analytic)
  | none, cursor => .pure (.start cursor)
  | some definition, cursor =>
    .takeSpan (.start cursor) _ @fun keyword _ row =>
      .last (.bind (.window keyword definition _ _ _ row) fun _ _ _ row => .pure row)

protected theorem BuildsAll.branches : (whens : List Branch) → ∀ cursor,
    BuildsAll line cursor (Forward.branches whens) (branches whens)
  | [], cursor => .pure (.start cursor)
  | .mk condition result :: rest, cursor => by
    refine .takeSpan (.start cursor) _ fun row => .node row (.expr condition _) fun row => ?_
    refine .takeSpan row _ fun row => .node row (.expr result _) fun row => ?_
    refine .covering (.last ?_)
    exact .nodes row.covering (.branches rest _) fun row => .pure row

theorem builds_soleArgument : (call : Expr) → ∀ cursor,
    Builds line cursor (Forward.soleArgument call) (soleArgument call)
  | .call _ _ [index] _ _, cursor => .expr index cursor
  | .call _ _ [] _ _, _ | .call _ _ (_ :: _ :: _) _ _, _
  | .name _, _ | .literal _, _ | .nested _, _ | .typed .., _ | .unary .., _ | .binary .., _ | .like ..,
      _ | .isNull .., _
  | .inList .., _ | .inQuery .., _ | .inUnnest .., _ | .between .., _ | .cast .., _ | .extract .., _ | .rounding .., _
  | .substring .., _ | .trim .., _ | .constant _, _ | .callQuery .., _ | .star, _ | .case .., _ | .exist .., _
  | .subquery _, _ | .array .., _ | .index .., _ | .dot .., _ | .field .., _ | .interval .., _ | .foreign .., _ =>
    .unsupported

protected theorem Builds.expr : (value : Expr) → ∀ cursor, Builds line cursor (Forward.expr value) (expr value)
  | .name parts, _ => builds_path parts
  | .literal value, _ => .done (builds_literal value)
  | .nested inner, cursor => .expr inner cursor
  | .typed type text, cursor => by
    refine .gets (.take (.start cursor) _ fun index after behind row => .notPast fun ahead => ?_)
    have lies : Lying line.tokens cursor after ((previous index).bind line.tokens.span?) := by
      unfold previous
      split
      · rename_i earlier
        have starts := ahead earlier rfl
        have ends := (behind (earlier + 1) rfl).2
        exact lying_span? line.rising starts (by omega)
      · exact lying_none
    have value : Row line cursor after [.leaf (.literal (.string text)) (index.bind line.tokens.span?)] [] :=
      row.leaf (by simp)
    refine .spanOf (value.also lies) fun _ row => .leaf (.spanOf row fun _ row => .leaf (.pure ?_))
    exact row.cast (by simp) (by simp)
  | .unary .plus operand, cursor => .expr operand cursor
  | .unary .not operand, cursor | .unary .minus operand, cursor => by
    refine .get (.last (.node (.start cursor) (.expr operand _) @fun _ made _ row => ?_))
    have lies := (row.lies made (by simp)).before? line.rising
    exact .read (tracks_spanOfNode (.pure ((row.also (lies _)).covering fun _ => id)))
  | .binary left op right, cursor => by
    unfold expr Forward.expr
    split
    · refine .node (.start cursor) (.expr left _) fun row => .last ?_
      exact .node row (.expr right _) fun row => .covers row
    · exact .unsupported
  | .like operand negated pattern, cursor => by
    refine .node (.start cursor) (.expr operand _) fun row => .last ?_
    exact .node row (.expr pattern _) fun row => .covers row
  | .isNull operand negated, cursor => by
    refine .node (.start cursor) (.expr operand _) fun row => ?_
    exact .takeSpan row _ fun row => .covers row
  | .inList operand negated items, cursor => by
    refine .node (.start cursor) (.expr operand _) fun row => ?_
    refine .nodes row (.exprs items _) fun row => ?_
    exact .takeSpan row _ fun row => .covers row
  | .inQuery operand negated body, cursor => by
    refine .node (.start cursor) (.expr operand _) fun row => .last ?_
    exact .enclosed row (.query body _) fun row => .covers row
  | .inUnnest operand negated array, cursor => by
    refine .node (.start cursor) (.expr operand _) fun row => .last ?_
    exact .enclosed row (.expr array _) fun row => .covers row
  | .between operand negated low high, cursor => by
    refine .node (.start cursor) (.expr operand _) fun row => ?_
    refine .node row (.expr low _) fun row => .last ?_
    exact .node row (.expr high _) fun row => .covers row
  | .cast safe operand type, cursor => by
    refine .take (.start cursor) _ fun index middle behind row => .reads ?_
    have closes := le_parens line fun i known => (behind i known).1
    extract_lets parens nextCheck next
    have goesOn {middle : Cursor} (row : Row line cursor middle [] [index.bind line.tokens.span?]) :
        Tracks line middle (nextCheck ()) (next ()) fun made after => Row line cursor after [made] [] := by
      refine .node row (.expr operand _) fun row => .take row _ fun as last found row => ?_
      refine .spanOf row fun _ row => .spanOf row fun _ row => .leaf (.spanOf row fun _ row => ?_)
      refine .close row closes @fun _ after within row => .pure ?_
      exact (row.also (lying_typeTokens (fun i known => (found i known).1) within)).cast (by simp) (by simp)
    have starts : ∀ pair ∈ parens, middle.place ≤ pair.1 + 1 :=
      fun _ found => le_parens_start (fun i known => (behind i known).2) found
    clear_value nextCheck next parens
    split
    · exact tracks_jumpTo row (starts _ rfl) goesOn
    · exact goesOn row
  | .extract part operand, cursor => by
    refine .openKeywordCall _ fun name stop _ behind row => .takeSpan (.start _) _ fun word => ?_
    refine .leaf (tracks_put ?_)
    have row := row.append (@Row.word _ _ _ _ _ _ part word mem_cons_self)
    refine .takeSpan row _ fun row => .node row (.expr operand _) fun row => ?_
    exact .close row behind fun _ row => .covers row
  | .rounding keyword operand scale, cursor => by
    refine .openKeywordCall _ fun name stop _ behind row => .node row (.expr operand _) fun row => ?_
    refine .bind (.mapM_nodes fun value _ => builds_literal value) fun _ _ _ more => ?_
    exact .close (row.append more.1) behind fun _ row => .covers row
  | .substring operand start length _, cursor => by
    refine .openKeywordCall _ fun name stop _ behind row => .node row (.expr operand _) fun row => ?_
    refine .nodes row (.expr? start _) fun row => .nodes row (.expr? length _) fun row => ?_
    exact .close row behind fun _ row => .covers row
  | .trim operand characters, cursor => by
    refine .openKeywordCall _ fun name stop _ behind row => .node row (.expr operand _) fun row => ?_
    refine .nodes row (.exprs characters _) fun row => ?_
    exact .close row behind fun _ row => .covers row
  | .constant name, cursor =>
    .last (.node (.start cursor) (builds_path name) fun row => .covers row)
  | .callQuery [name] body, cursor => by
    refine .span (.start cursor) (spots_name name) fun row => .last ?_
    exact .enclosed row (.query body _) fun row => .covers row
  | .callQuery [] _, _ | .callQuery (_ :: _ :: _) _, _ => .unsupported_bind
  | .call name duplicates arguments notes analytic, cursor => by
    refine .ite .unsupported (.node (.start cursor) (builds_path name) fun row => ?_)
    refine tracks_takeOpenParen row fun start _ behind row => .nodes row (.exprs arguments _) fun row => ?_
    refine .closerOf row fun row => .close row (le_closer line behind) fun _ row => .last ?_
    exact .nodes row (builds_overClause analytic _) fun row => .covers row
  | .star, cursor => .takeSpan (.start cursor) _ fun row => .pure (row.leaf (by simp))
  | .case operand whens otherwise, cursor => by
    refine .takeSpan (.start cursor) _ fun row => .nodes row (.expr? operand _) fun row => ?_
    refine .nodes row (.branches whens _) fun row => ?_
    refine .nodes row (builds_part (.expr? otherwise)) fun row => ?_
    exact .takeSpan row _ fun row => .covers row
  | .exist negated body, cursor => by
    refine .get (.takeSpan (.start cursor) _ @fun keyword middle row => .read ?_)
    extract_lets not
    have lies : Lying line.tokens cursor middle not := by
      simp only [not]
      split
      · exact (row.found keyword (by simp)).before? line.rising _
      · exact lying_none
    refine .last (.enclosed (row.also lies) (.query body _) fun row => .pure ?_)
    exact row.covering
  | .subquery body, cursor =>
    .last (.enclosed (.start cursor) (.query body _) fun row => .covers row)
  | .array bracketed items, cursor => by
    refine .gets (.take (.start cursor) _ fun start middle behind row => .notPast fun ahead => ?_)
    have closes := le_closer line fun i known => (behind i known).1
    have lies : Lying line.tokens cursor middle
        ((if bracketed then previous start else none).bind line.tokens.span?) := by
      cases bracketed with
      | false => exact lying_none
      | true =>
        rw [if_pos rfl]
        unfold previous
        split
        · rename_i before
          have starts := ahead before (by simp)
          have ends := (behind (before + 1) rfl).2
          exact lying_span? line.rising starts (by omega)
        · exact lying_none
    refine .spanOf (row.also lies) fun _ row => .nodes row (.exprs items _) fun row => ?_
    refine .spanOf row fun _ row => .closerOf row fun row => ?_
    exact .close row closes fun _ row => .covers row
  | .index base key, cursor => by
    refine .node (.start cursor) (.expr base _) @fun _ _ middle row => ?_
    extract_lets nextCheck position next
    have goesOn (made : Node) (after : Cursor) (key : Row line middle after [made] []) :
        Tracks line after (nextCheck ()) (next made) fun made after => Row line cursor after [made] [] :=
      .takeSpan (row.append key) _ fun row => .covers row
    clear_value next nextCheck
    split
    · exact .bind (builds_soleArgument key _) fun _ => goesOn
    · have inner : Builds line middle (Forward.expr key) (expr key) := .expr key _
      exact .bind inner fun _ => goesOn
  | .dot base key, cursor => by
    refine .node (.start cursor) (.expr base _) fun row => ?_
    cases fieldName? key with
    | some field => exact .node row (builds_identifier field) fun row => .covers row
    | none => exact .unsupported
  | .field base field, cursor => by
    refine .node (.start cursor) (.expr base _) fun row => ?_
    exact .node row (builds_identifier field) fun row => .covers row
  | .interval value unit _ final _, cursor => by
    refine .takeSpan (.start cursor) _ fun row => .node row (.expr value _) fun row => ?_
    refine .takeSpan row _ fun row => ?_
    cases final with
    | none => exact .pure ((row.also lying_none).covering)
    | some final => exact .takeSpan row _ fun row => .covers row
  | .foreign kind _, _ => by cases kind <;> exact .unsupported
end

end Build

theorem Node.ofQuery_eq {query : Query} {pieces : List Piece} {span : Span}
    (built : Node.ofQuery query pieces span = .ok node) :
    ∃ rows last, ((Build.query query : Build Node).run (.of pieces)).run.run .start = (.ok rows, last) ∧
      node = .mk .statement (some span) [rows] := by
  have ran : ((Build.statement query span : Build Node).run (.of pieces)).run.run .start = (.ok node, _) :=
    Prod.ext built rfl
  obtain ⟨rows, last, here, done⟩ := Build.exists_of_bind ran
  exact ⟨rows, last, here, (Except.ok.inj (Prod.ext_iff.mp done).1).symm⟩

/-- Whether no token of a query lies before the cursor when it is looked for, unless the query has no tree. -/
def runsForward (query : Query) (pieces : List Piece) : Bool :=
  match (((Build.query query : Build Node).run (.of pieces)).run.run .start).1 with
  | .ok _ => (((Forward.query query).run (.of pieces)).run.run .start).1.toOption.isSome
  | .error _ => true

theorem Node.ofQuery_ordered {query : Query} {pieces : List Piece} {span : Span} {node : Node}
    (built : Node.ofQuery query pieces span = .ok node)
    (rising : (Tokens.of pieces).Rising) (forward : runsForward query pieces) : node.Ordered := by
  obtain ⟨rows, last, here, rfl⟩ := Node.ofQuery_eq built
  cases checked : ((Forward.query query).run (.of pieces)).run.run .start with
  | mk result after =>
    rw [runsForward, here, checked] at forward
    cases result with
    | error construct => cases forward
    | ok _ =>
      have row := (@Build.Builds.query ⟨.of pieces, rising⟩ query .start _ _ checked rows last here).2
      exact .mk row.ordered fun _ => row.apart

end SqlLens.Surface
