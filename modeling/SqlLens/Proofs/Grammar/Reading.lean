import SqlLens.Proofs.Grammar.AllNames

/-!
Readers take lexemes from the front and keep their order.

`Reads held chunk m` says what a reader of a chunk does while the lexemes `held` are in hand: what it leaves are lexemes
that were there or in hand, in their order, and every name in what it gives is spelled in the chunk. `Uses R m` says
which lexemes a reader of names uses up. Each combinator has a rule.
-/

namespace SqlLens.Grammar

open List

variable {failure : Failure} {lexeme : Option Lexeme} {wanted : List String}

/-! ### How names are spelled -/

/-- Dashes, each with the word or number behind it, spell the rest of a name. -/
inductive Dashes : List Lexeme → String → Prop
  | nil : Dashes [] ""
  | cons {dash part : Lexeme} {rest : List Lexeme} {text more : String} (minus : dash.token = .symbol .minus)
    (spelled : part.token = .word text none ∨ part.token = .number text false ∧ '.' ∉ text.toList)
    (behind : Dashes rest more) : Dashes (dash :: part :: rest) ("-" ++ text ++ more)

/-- Lexemes spell a name. Nothing is asked of those of a name that has no place. -/
inductive Spells : List Lexeme → Ident → Prop
  | unplaced {used : List Lexeme} {name : Ident} (nowhere : name.place = none) : Spells used name
  | word {lexeme : Lexeme} {value : String} {quote : Option Char} (spelled : lexeme.token = .word value quote) :
    Spells [lexeme] ⟨value, quote, some lexeme.span.start⟩
  | dashed {lexeme : Lexeme} {value more : String} {rest : List Lexeme} (spelled : lexeme.token = .word value none)
    (behind : Dashes rest more) : Spells (lexeme :: rest) ⟨value ++ more, none, some lexeme.span.start⟩

inductive Spelled : List Lexeme → List Ident → Prop
  | nil : Spelled [] []
  | cons {first more : List Lexeme} {name : Ident} {rest : List Ident} (here : Spells first name)
    (behind : Spelled more rest) : Spelled (first ++ more) (name :: rest)

theorem Spells.alone (spells : Spells used name) : Spelled used [name] := by
  simpa using Spelled.cons spells .nil

/-- The parts of a name are spelled in a chunk, as they are or cut at dots. -/
def Named (chunk : List Lexeme) (parts : List Ident) : Prop :=
  ∃ used words, Spelled used words ∧ used.Sublist chunk ∧ (parts.Sublist words ∨ parts.Sublist (splitDotted words))

theorem Spelled.named (spelled : Spelled used names) (inside : used.Sublist chunk) :
    Named chunk names := ⟨used, names, spelled, inside, .inl (Sublist.refl _)⟩

theorem Spelled.named_splitDotted {chunk used : List Lexeme} {words : List Ident} (spelled : Spelled used words)
    (inside : used.Sublist chunk) : Named chunk (splitDotted words) :=
  ⟨used, words, spelled, inside, .inr (Sublist.refl _)⟩

theorem Named.each (named : Named chunk parts) : AllNames (Named chunk) parts := by
  intro part inside
  obtain ⟨used, words, spelled, among, cut⟩ := named
  have alone := singleton_sublist.mpr inside
  exact ⟨used, words, spelled, among, cut.imp alone.trans alone.trans⟩

/-! ### What readers do -/

/-- A reader of a chunk, with lexemes in hand: it leaves lexemes that were there, and every name it gives is spelled in
the chunk. -/
def Reads {α : Type} [HasNames α] (held chunk : List Lexeme) (m : Reader α) : Prop :=
  ∀ before, (held ++ before).Sublist chunk →
    (m.run.run before).2.Sublist (held ++ before) ∧
      ∀ value, (m.run.run before).1 = .ok value → AllNames (Named chunk) value

/-- A reader that uses up lexemes for what it gives. -/
def Uses {α : Type} (R : List Lexeme → α → Prop) (m : Reader α) : Prop :=
  ∀ before, (m.run.run before).2.Sublist before ∧
    ∀ value, (m.run.run before).1 = .ok value → ∃ used, R used value ∧ (used ++ (m.run.run before).2).Sublist before

variable {α β : Type} [HasNames α] [HasNames β] {held chunk : List Lexeme} {m : Reader α} {f : α → Reader β}

theorem run_bind {α β : Type} (m : Reader α) (f : α → Reader β) (before : List Lexeme) :
    (m >>= f).run.run before =
      match m.run.run before with
      | (.ok value, after) => (f value).run.run after
      | (.error failure, after) => (.error failure, after) := by
  change (match m.run.run before with
    | (outcome, after) => ExceptT.bindCont (fun value => f value) outcome after) = _
  cases m.run.run before with
  | mk outcome after => cases outcome <;> rfl

theorem run_bind_within {α β : Type} {m : Reader α} {f : α → Reader β} {P : β → Prop}
    (left : (m.run.run before).2.Sublist bound)
    (rest : ∀ value, (m.run.run before).1 = .ok value → ((f value).run.run (m.run.run before).2).2.Sublist bound ∧
      ∀ result, ((f value).run.run (m.run.run before).2).1 = .ok result → P result) :
    ((m >>= f).run.run before).2.Sublist bound ∧ ∀ result, ((m >>= f).run.run before).1 = .ok result → P result := by
  rw [run_bind]
  revert left rest
  rcases m.run.run before with ⟨failure | value, after⟩ <;> intro left rest
  · exact ⟨left, fun _ same => by cases same⟩
  · exact rest value rfl

@[grind ←] protected theorem Reads.pure {value : α} (fine : AllNames (Named chunk) value) :
    Reads held chunk (pure value) := by
  intro before inside
  exact ⟨sublist_append_right _ _, fun result same => by cases same; exact fine⟩

@[grind ←] protected theorem Reads.throw : Reads held chunk (throw failure : Reader α) := by
  intro before inside
  exact ⟨sublist_append_right _ _, fun result same => by cases same⟩

theorem Reads.holding (reads : Reads [] chunk m) : Reads held chunk m := by
  intro before inside
  obtain ⟨left, fine⟩ := reads before ((sublist_append_right held before).trans inside)
  exact ⟨left.trans (sublist_append_right held before), fine⟩

@[grind ←] protected theorem Reads.bind (first : Reads [] chunk m)
    (rest : ∀ value, AllNames (Named chunk) value → Reads held chunk (f value)) : Reads held chunk (m >>= f) := by
  intro before inside
  obtain ⟨left, fine⟩ := first before ((sublist_append_right held before).trans inside)
  rw [nil_append] at left
  have kept := (append_sublist_append_left held).mpr left
  refine run_bind_within (left.trans (sublist_append_right held before)) fun value ok => ?_
  obtain ⟨last, fineLast⟩ := rest value (fine value ok) _ (kept.trans inside)
  exact ⟨last.trans kept, fineLast⟩

protected theorem Reads.branch {c : Prop} [Decidable c] (left : c → Reads [] chunk yes) (right : ¬c → Reads [] chunk no)
    (rest : ∀ value, AllNames (Named chunk) value → Reads held chunk (f value)) :
    Reads held chunk (if c then yes >>= f else no >>= f) := by
  split
  · rename_i holds
    exact .bind (left holds) rest
  · rename_i fails
    exact .bind (right fails) rest

protected theorem Reads.choice {m : Reader Bool} {yes : Reader α} (asked : Reads [] chunk m)
    (left : Reads held chunk yes)
    (right : Reads held chunk no) : Reads held chunk (do if ← m then yes else no) := by
  refine .bind asked fun taken _ => ?_
  split
  · exact left
  · exact right

protected theorem Reads.bind_held (first : Reads held chunk m)
    (rest : ∀ value, AllNames (Named chunk) value → Reads [] chunk (f value)) : Reads held chunk (m >>= f) := by
  intro before inside
  obtain ⟨left, fine⟩ := first before inside
  refine run_bind_within left fun value ok => ?_
  obtain ⟨last, fineLast⟩ := rest value (fine value ok) _ (left.trans inside)
  exact ⟨last.trans left, fineLast⟩

protected theorem Reads.bind_uses {α : Type} {R : List Lexeme → α → Prop} {m : Reader α} {f : α → Reader β}
    (first : Uses R m)
    (rest : ∀ used value, R used value → Reads (held ++ used) chunk (f value)) : Reads held chunk (m >>= f) := by
  intro before inside
  obtain ⟨left, gives⟩ := first before
  refine run_bind_within (left.trans (sublist_append_right held before)) fun value ok => ?_
  obtain ⟨used, holds, spent⟩ := gives value ok
  have kept := (append_sublist_append_left held).mpr spent
  rw [← append_assoc] at kept
  obtain ⟨last, fineLast⟩ := rest used value holds _ (kept.trans inside)
  exact ⟨last.trans kept, fineLast⟩

protected theorem Reads.of_held (reads : held.Sublist chunk → Reads held chunk m) : Reads held chunk m :=
  fun before inside => reads ((sublist_append_left held before).trans inside) before inside

section

variable {R : List Lexeme → β → Prop}

omit [HasNames β] in
protected theorem Uses.pure (holds : R [] value) : Uses R (pure value) := by
  intro before
  exact ⟨Sublist.refl _, fun result same => by cases same; exact ⟨[], holds, Sublist.refl _⟩⟩

omit [HasNames β] in
protected theorem Uses.throw : Uses R (throw failure) := by
  intro before
  exact ⟨Sublist.refl _, fun result same => by cases same⟩

omit [HasNames α] [HasNames β] in
protected theorem Uses.bind (first : Uses Q m)
    (rest : ∀ used value, Q used value → Uses (fun more => R (used ++ more)) (f value)) : Uses R (m >>= f) := by
  intro before
  obtain ⟨left, gives⟩ := first before
  rw [run_bind]
  cases ran : m.run.run before with
  | mk outcome after =>
    rw [ran] at left gives
    cases outcome with
    | error failure => exact ⟨left, fun result same => by cases same⟩
    | ok value =>
      obtain ⟨used, holds, spent⟩ := gives value rfl
      obtain ⟨last, givesLast⟩ := rest used value holds after
      refine ⟨last.trans left, fun result same => ?_⟩
      obtain ⟨more, holdsLast, spentLast⟩ := givesLast result same
      refine ⟨used ++ more, holdsLast, ?_⟩
      rw [append_assoc]
      exact ((append_sublist_append_left used).mpr spentLast).trans spent

end

def Rewinds {α : Type} [HasNames α] (held start chunk : List Lexeme) (m : Reader α) : Prop :=
  start.Sublist chunk → ∀ before, (held ++ before).Sublist start →
    (m.run.run before).2.Sublist start ∧ ∀ value, (m.run.run before).1 = .ok value → AllNames (Named chunk) value

section

variable {start : List Lexeme}

theorem Reads.rewinds (reads : Reads [] chunk m) : Rewinds held start chunk m := by
  intro among before inside
  have rest := (sublist_append_right held before).trans inside
  obtain ⟨left, fine⟩ := reads before (rest.trans among)
  exact ⟨left.trans rest, fine⟩

theorem reads_of_rewinds (rewinds : ∀ start, Rewinds [] start chunk m) : Reads held chunk m := by
  intro before inside
  have among := (sublist_append_right held before).trans inside
  obtain ⟨left, fine⟩ := rewinds before among before (Sublist.refl _)
  exact ⟨left.trans (sublist_append_right held before), fine⟩

protected theorem Rewinds.pure {value : α} (fine : AllNames (Named chunk) value) :
    Rewinds held start chunk (pure value) :=
  (Reads.pure fine).rewinds

protected theorem Rewinds.bind (first : Rewinds held start chunk m)
    (rest : ∀ value, AllNames (Named chunk) value → Rewinds [] start chunk (f value)) :
    Rewinds held start chunk (m >>= f) := by
  intro among before inside
  obtain ⟨left, fine⟩ := first among before inside
  exact run_bind_within left fun value ok => rest value (fine value ok) among _ left

protected theorem Rewinds.bind_uses {α : Type} {R : List Lexeme → α → Prop} {m : Reader α} {f : α → Reader β}
    (first : Uses R m)
    (rest : ∀ used value, R used value → Rewinds (held ++ used) start chunk (f value)) :
    Rewinds held start chunk (m >>= f) := by
  intro among before inside
  obtain ⟨left, gives⟩ := first before
  refine run_bind_within (left.trans ((sublist_append_right held before).trans inside)) fun value ok => ?_
  obtain ⟨used, holds, spent⟩ := gives value ok
  refine rest used value holds among _ ?_
  rw [append_assoc]
  exact ((append_sublist_append_left held).mpr spent).trans inside

theorem rewinds_of_held (rewinds : held.Sublist chunk → Rewinds held start chunk m) :
    Rewinds held start chunk m :=
  fun among before inside =>
    rewinds (((sublist_append_left held before).trans inside).trans among) among before inside

protected theorem Rewinds.set : Rewinds held start chunk (set start : Reader PUnit) :=
  fun _ _ _ => ⟨Sublist.refl _, fun _ _ => by simp⟩

protected theorem Reads.get_bind {f : List Lexeme → Reader α} (rest : ∀ start, Rewinds [] start chunk (f start)) :
    Reads held chunk (get >>= f) := by
  intro before inside
  have among := (sublist_append_right held before).trans inside
  obtain ⟨left, fine⟩ := rest before among before (Sublist.refl _)
  exact ⟨left.trans (sublist_append_right held before), fine⟩

protected theorem Rewinds.forIn {γ σ : Type} [HasNames σ] {items : List γ} {state : σ}
    {step : γ → σ → Reader (ForInStep σ)}
    (plain : ∀ state : σ, AllNames (Named chunk) state)
    (each : ∀ item state, Rewinds [] start chunk (step item state)) :
    Rewinds [] start chunk (forIn items state step) := by
  induction items generalizing state with
  | nil => exact .pure (plain state)
  | cons item rest ih =>
    rw [forIn_cons]
    refine .bind (each item state) fun next _ => ?_
    cases next with
    | done state => exact .pure (plain state)
    | yield state => exact ih

end

protected theorem Reads.putBack {f : Unit → Reader α} (rest : Reads [] chunk (f ())) :
    Reads held chunk (modify (held ++ ·) >>= f) := by
  intro before inside
  exact rest (held ++ before) inside

/-! ### Combinators -/

theorem dropBlanks_sublist (lexemes : List Lexeme) : (dropBlanks lexemes).Sublist lexemes := dropWhile_sublist _

@[grind ←] protected theorem Reads.get : Reads held chunk (get : Reader (List Lexeme)) :=
  fun before _ => ⟨sublist_append_right _ _, fun _ _ => by simp⟩

@[grind ←] protected theorem Reads.peek : Reads held chunk peek :=
  fun before _ => ⟨sublist_append_right _ _, fun _ _ => by simp⟩

@[grind ←] theorem reads_peekAfter : Reads held chunk (peekAfter n) :=
  fun before _ => ⟨sublist_append_right _ _, fun _ _ => by simp⟩

@[grind ←] protected theorem Reads.failAt : Reads held chunk (failAt message lexeme : Reader α) := .throw

@[grind ←] theorem reads_fail : Reads held chunk (fail message : Reader α) := .throw

@[grind ←] protected theorem Reads.expected : Reads held chunk (expected what lexeme : Reader α) := .throw

theorem run_next (before : List Lexeme) :
    next.run.run before = match dropBlanks before with
      | [] => (.ok none, [])
      | lexeme :: rest => (.ok (some lexeme), rest) := by
  unfold next
  rw [run_bind]
  change ((match dropBlanks before with
    | [] => (do set ([] : List Lexeme); return none : Reader (Option Lexeme))
    | lexeme :: rest => (do set rest; return some lexeme)).run.run before) = _
  cases dropBlanks before <;> rfl

theorem uses_next : Uses (fun used lexeme => used = lexeme.toList) next := by
  intro before
  have rest := dropBlanks_sublist before
  rw [run_next]
  cases found : dropBlanks before with
  | nil => exact ⟨nil_sublist _, fun value same => by cases same; exact ⟨[], rfl, nil_sublist _⟩⟩
  | cons lexeme others =>
    rw [found] at rest
    exact ⟨(sublist_cons_self _ _).trans rest, fun value same => by cases same; exact ⟨[lexeme], rfl, rest⟩⟩

theorem uses_nextClose : Uses (fun used lexeme => used = lexeme.toList) nextClose := by
  intro before
  cases before with
  | nil => exact ⟨Sublist.refl _, fun value same => by cases same; exact ⟨[], rfl, Sublist.refl _⟩⟩
  | cons lexeme others =>
    exact ⟨sublist_cons_self _ _, fun value same => by cases same; exact ⟨[lexeme], rfl, Sublist.refl _⟩⟩

omit [HasNames α] in
theorem Uses.reads [HasNames α] (uses : Uses R m)
    (fine : ∀ used value, R used value → used.Sublist chunk → AllNames (Named chunk) value) : Reads held chunk m := by
  intro before inside
  obtain ⟨left, gives⟩ := uses before
  refine ⟨left.trans (sublist_append_right held before), fun value same => ?_⟩
  obtain ⟨used, holds, spent⟩ := gives value same
  have among := (sublist_append_right held before).trans inside
  exact fine used value holds ((sublist_append_left used _).trans (spent.trans among))

@[grind ←] protected theorem Reads.next : Reads held chunk next := uses_next.reads fun _ _ _ _ => by simp

theorem run_tryCatch {α : Type} (m : Reader α) (handle : Failure → Reader α) (before : List Lexeme) :
    (tryCatch m handle : Reader α).run.run before =
      match m.run.run before with
      | (.ok value, after) => (.ok value, after)
      | (.error failure, after) => (handle failure).run.run after := by
  change (ExceptT.tryCatch m handle).run.run before = _
  simp only [ExceptT.tryCatch, ExceptT.run_mk, StateT.run_bind, show m.run.run before = StateT.run m before from rfl]
  generalize StateT.run m before = ran
  obtain ⟨outcome, after⟩ := ran
  cases outcome <;> rfl

theorem run_attempt {α : Type} (m : Reader α) (before : List Lexeme) :
    (attempt m).run.run before =
      match m.run.run before with
      | (.ok value, after) => (.ok value, after)
      | (.error failure, _) => (.error failure, before) := by
  unfold attempt
  rw [run_bind]
  change (tryCatch m (fun failure => do set before; throw failure) : Reader α).run.run before = _
  rw [run_tryCatch]
  rfl

theorem run_optionally {α : Type} (m : Reader α) (before : List Lexeme) :
    (optionally m).run.run before =
      match m.run.run before with
      | (.ok value, after) => (.ok (some value), after)
      | (.error (.malformed _), _) => (.ok none, before)
      | (.error .tooDeep, _) => (.error .tooDeep, before) := by
  unfold optionally
  rw [run_bind, run_tryCatch, run_bind, run_attempt]
  cases m.run.run before with
  | mk outcome after =>
    cases outcome with
    | ok value => rfl
    | error failure => cases failure <;> rfl

@[grind ←] theorem reads_optionally (reads : Reads [] chunk m) : Reads held chunk (optionally m) := by
  intro before inside
  obtain ⟨left, fine⟩ := reads before ((sublist_append_right held before).trans inside)
  rw [run_optionally]
  cases ran : m.run.run before with
  | mk outcome after =>
    rw [ran] at left fine
    cases outcome with
    | ok value =>
      exact ⟨left.trans (sublist_append_right held before), fun result same => by
        cases same
        simpa using fine value rfl⟩
    | error failure =>
      cases failure with
      | malformed message =>
        exact ⟨sublist_append_right _ _, fun result same => by cases same; simp⟩
      | tooDeep => exact ⟨sublist_append_right _ _, fun result same => by cases same⟩

instance ofOutcome {ε : Type} : HasNames (Except ε α) :=
  ⟨fun P outcome => ∀ value, outcome = .ok value → AllNames P value⟩

@[simp, grind =] theorem allNames_ok {ε : Type} :
    AllNames P (.ok value : Except ε α) ↔ AllNames P value := by simp [AllNames]

theorem run_outcome {α : Type} (m : Reader α) (before : List Lexeme) :
    (outcome m).run.run before = (.ok (m.run.run before).1, (m.run.run before).2) := rfl

theorem reads_outcome_attempt (reads : Reads held chunk m) :
    Reads held chunk (outcome (attempt m)) := by
  intro before inside
  obtain ⟨left, fine⟩ := reads before inside
  rw [run_outcome, run_attempt]
  cases ran : m.run.run before with
  | mk outcome after =>
    rw [ran] at left fine
    cases outcome with
    | ok value =>
      exact ⟨left, fun result same => by
        cases same
        simpa using fine value rfl⟩
    | error failure =>
      exact ⟨sublist_append_right _ _, fun result same => by
        cases same
        intro value given
        cases given⟩

@[grind ←] theorem reads_repeated {item : Reader α} (each : Reads [] chunk item) (asks : Reads [] chunk more) :
    Reads held chunk (repeated item more fuel) := by
  refine Reads.holding ?_
  induction fuel with
  | zero => exact .pure (by simp)
  | succ fuel ih =>
    refine .bind each fun value fine => .bind asks fun again _ => ?_
    split
    · exact .bind ih fun rest others => .pure (by simp [fine, others])
    · exact .pure (by simp [fine])

@[grind ←] protected theorem Reads.word {wanted : String} : Reads held chunk (word wanted) := by
  unfold word
  grind

@[grind ←] protected theorem Reads.symbol {wanted : Symbol} : Reads held chunk (symbol wanted) := by
  unfold symbol
  grind

@[grind ←] theorem reads_commaSeparated {item : Reader α} (each : Reads [] chunk item) :
    Reads held chunk (commaSeparated item) := by
  unfold commaSeparated
  grind

@[grind ←] theorem reads_peekWord {wanted : String} : Reads held chunk (peekWord wanted) := by
  unfold peekWord
  grind

@[grind ←] theorem reads_peekSymbol {wanted : Symbol} : Reads held chunk (peekSymbol wanted) := by
  unfold peekSymbol
  grind

@[grind ←] protected theorem Reads.oneOf : Reads held chunk (oneOf wanted) := by
  unfold oneOf
  grind

@[grind ←] theorem reads_expectedWord {wanted : String} : Reads held chunk (expectedWord wanted) := by
  unfold expectedWord
  grind

@[grind ←] protected theorem Reads.expectWord {wanted : String} : Reads held chunk (expectWord wanted) := by
  unfold expectWord
  grind

@[grind ←] theorem reads_expectedSymbol {wanted : Symbol} : Reads held chunk (expectedSymbol wanted) := by
  unfold expectedSymbol
  grind

@[grind ←] protected theorem Reads.expectSymbol {wanted : Symbol} : Reads held chunk (expectSymbol wanted) := by
  unfold expectSymbol
  grind

@[grind ←] theorem reads_expectOneOf : Reads held chunk (expectOneOf wanted) := by
  unfold expectOneOf
  grind

@[grind ←] theorem reads_parenthesized {item : Reader α} (each : Reads [] chunk item) :
    Reads held chunk (parenthesized item) := by
  unfold parenthesized
  grind

@[grind ←] protected theorem Reads.words : Reads held chunk (words wanted) := by
  unfold words
  refine .get_bind fun start => .bind (.forIn (by simp) fun wanted state => ?_) fun state _ => ?_
  · refine .bind Reads.word.rewinds fun taken _ => ?_
    split
    · exact .bind .set fun _ _ => .pure (by simp)
    · exact .pure (by simp)
  · dsimp only
    split <;> exact .pure (by simp)

@[grind ←] theorem reads_expectWords : Reads held chunk (expectWords wanted) := by
  unfold expectWords
  refine reads_of_rewinds fun start => .bind (.forIn (by simp) fun wanted _ => ?_) fun _ _ => ?_
  · exact .bind Reads.expectWord.rewinds fun _ _ => .pure (by simp)
  · exact .pure (by simp)

end SqlLens.Grammar
