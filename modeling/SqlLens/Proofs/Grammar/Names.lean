import SqlLens.Proofs.Grammar.Reading

/-!
Names and literals are read from the lexemes that spell them.
-/

namespace SqlLens.Grammar

open List

variable {α β : Type} [HasNames α] [HasNames β] {held chunk : List Lexeme} {lexeme : Lexeme}

omit [HasNames α] in
protected theorem Uses.of_reads [HasNames α] {m : Reader α} (reads : ∀ chunk, Reads [] chunk m) :
    Uses (fun used _ => used = []) m := by
  intro before
  have left := (reads before before (Sublist.refl _)).1
  exact ⟨left, fun value _ => ⟨[], rfl, left⟩⟩

theorem spells_identOf (is : identOf lexeme = some name) : Spells [lexeme] name := by
  unfold identOf at is
  split at is
  · rename_i value quote spelled
    cases is
    exact .word spelled
  · cases is

theorem unplaced_stringName? (is : stringName? token = some name) : name.place = none := by
  unfold stringName? at is
  split at is <;> cases is
  rfl

protected theorem Uses.identifier : Uses Spells identifier := by
  refine .bind uses_next fun used lexeme same => ?_
  subst same
  cases lexeme with
  | none => exact .throw
  | some lexeme =>
    dsimp only [Option.bind_some, Option.toList_some]
    split
    · rename_i name is
      exact .pure (spells_identOf is)
    · rename_i name _ is
      exact .pure (.unplaced (unplaced_stringName? is))
    · exact .throw

theorem run_next_of (found : dropBlanks before = lexeme :: rest) :
    next.run.run before = (.ok (some lexeme), rest) := by rw [run_next, found]

def UsesNext {α : Type} (lexeme : Lexeme) (R : List Lexeme → α → Prop) (m : Reader α) : Prop :=
  ∀ before, (dropBlanks before).head? = some lexeme → (m.run.run before).2.Sublist before ∧
    ∀ value, (m.run.run before).1 = .ok value → ∃ used, R used value ∧ (used ++ (m.run.run before).2).Sublist before

section
variable {R : List Lexeme → β → Prop}

omit [HasNames β] in
theorem Uses.next (uses : Uses R m) : UsesNext lexeme R m := fun before _ => uses before

omit [HasNames β] in
theorem uses_peek_bind (last : Uses R (f none)) (more : ∀ lexeme, UsesNext lexeme R (f (some lexeme))) :
    Uses R (peek >>= f) := by
  intro before
  rw [run_bind]
  change (let ran := (f (dropBlanks before).head?).run.run before
    ran.2.Sublist before ∧ ∀ value, ran.1 = .ok value → ∃ used, R used value ∧ (used ++ ran.2).Sublist before)
  cases found : (dropBlanks before).head? with
  | none => exact last before
  | some lexeme => exact more lexeme before found

omit [HasNames β] in
theorem usesNext_next_bind (rest : Uses (fun used => R (lexeme :: used)) (f (some lexeme))) :
    UsesNext lexeme R (next >>= f) := by
  intro before found
  obtain ⟨others, cut⟩ := head?_eq_some_iff.mp found
  have inside := dropBlanks_sublist before
  rw [cut] at inside
  rw [run_bind, run_next_of cut]
  obtain ⟨left, gives⟩ := rest others
  refine ⟨left.trans ((sublist_cons_self _ _).trans inside), fun value same => ?_⟩
  obtain ⟨used, holds, spent⟩ := gives value same
  exact ⟨lexeme :: used, holds, (cons_sublist_cons.mpr spent).trans inside⟩
end

omit [HasNames β] in
theorem uses_nextClose_if {test : Option Lexeme → Bool}
    (ends : test none = false) (stops : Uses R otherwise)
    (goes : ∀ lexeme, test (some lexeme) → Uses (fun used => R (lexeme :: used)) (f (some lexeme))) :
    Uses R (do if test (← peekClose) then nextClose >>= f else otherwise) := by
  intro before
  rw [run_bind]
  cases before with
  | nil =>
    change (let ran := (if test none then nextClose >>= f else otherwise).run.run []
      ran.2.Sublist [] ∧ ∀ value, ran.1 = .ok value → ∃ used, R used value ∧ (used ++ ran.2).Sublist [])
    rw [ends]
    exact stops []
  | cons lexeme rest =>
    change (let ran := (if test (some lexeme) then nextClose >>= f else otherwise).run.run (lexeme :: rest)
      ran.2.Sublist (lexeme :: rest) ∧
        ∀ value, ran.1 = .ok value → ∃ used, R used value ∧ (used ++ ran.2).Sublist (lexeme :: rest))
    split
    · rename_i passes
      obtain ⟨left, gives⟩ := goes lexeme passes rest
      refine ⟨left.trans (sublist_cons_self _ _), fun value same => ?_⟩
      obtain ⟨used, holds, spent⟩ := gives value same
      exact ⟨lexeme :: used, holds, cons_sublist_cons.mpr spent⟩
    · exact stops (lexeme :: rest)

theorem uses_dashedParts (fuel : Nat) (value : String) (numeric : Bool) :
    Uses (fun used name => ∃ more, Dashes used more ∧ name.1 = value ++ more) (dashedParts fuel value numeric) := by
  induction fuel generalizing value numeric with
  | zero => exact .pure ⟨"", .nil, by simp⟩
  | succ fuel ih =>
    refine uses_nextClose_if rfl (.pure ⟨"", .nil, by simp⟩) fun dash minus => ?_
    have minus : dash.token = .symbol .minus := by simpa [isSymbol, Lexeme.isSymbol] using minus
    refine .bind uses_nextClose fun used part same => ?_
    subst same
    -- One more dash with what stands behind it.
    have goesOn {part text numeric}
        (spelled : part.token = .word text none ∨ part.token = .number text false ∧ '.' ∉ text.toList) :
        Uses (fun used name => ∃ more, Dashes (dash :: ([part] ++ used)) more ∧ name.1 = value ++ more)
          (dashedParts fuel (value ++ "-" ++ text) numeric) := by
      intro before
      obtain ⟨left, gives⟩ := ih (value ++ "-" ++ text) numeric before
      refine ⟨left, fun name same => ?_⟩
      obtain ⟨used, ⟨more, dashes, joined⟩, spent⟩ := gives name same
      exact ⟨used, ⟨_, .cons minus spelled dashes, by simp [joined, String.append_assoc]⟩, spent⟩
    cases part with
    | none => exact .throw
    | some part =>
      dsimp only [Option.map_some, Option.toList_some]
      split
      · rename_i text spelled
        exact goesOn (.inl (Option.some.inj spelled))
      · rename_i digits spelled
        split
        · rename_i whole
          refine goesOn (.inr ⟨Option.some.inj spelled, fun dot => ?_⟩)
          exact absurd (all_eq_true.mp whole '.' dot) (by decide)
        · exact .throw
      · exact .throw

theorem uses_tableIdentifier : Uses Spells tableIdentifier := by
  refine uses_peek_bind .identifier fun lexeme => ?_
  dsimp only
  split
  · rename_i value spelled
    refine usesNext_next_bind (.bind (.of_reads fun _ => .get) fun _ left none => ?_)
    subst none
    refine .bind (uses_dashedParts _ value false) fun used name dashes => ?_
    obtain ⟨name, numeric⟩ := name
    obtain ⟨more, dashes, rfl⟩ := dashes
    have done : Spells (lexeme :: used) ⟨value ++ more, none, some lexeme.span.start⟩ := .dashed spelled dashes
    dsimp only
    split
    · refine .bind (.of_reads fun _ => .next) fun _ after none => ?_
      subst none
      split
      · exact .throw
      · exact .pure (by simpa using done)
    · exact .pure (by simpa using done)
  · exact Uses.identifier.next

theorem uses_dotSeparated {part : Reader Ident} (each : Uses Spells part) : Uses Spelled (dotSeparated part) := by
  refine .bind (.of_reads fun _ => .get) fun _ start none => ?_
  subst none
  simp only [nil_append]
  generalize start.length + 1 = fuel
  induction fuel with
  | zero => exact .pure .nil
  | succ fuel ih =>
    refine .bind each fun used name spells => ?_
    refine .bind (.of_reads fun _ => .symbol) fun _ again none => ?_
    subst none
    split
    · refine .bind ih fun more names spelled => .pure ?_
      simpa using Spelled.cons spells spelled
    · exact .pure (by simpa using spells.alone)

@[grind ←] protected theorem Reads.identifier : Reads held chunk identifier :=
  Uses.identifier.reads fun _ _ spells inside => spells.alone.named inside

def CutAtDots (used : List Lexeme) (parts : List Ident) : Prop :=
  ∃ words, Spelled used words ∧ parts = splitDotted words

theorem uses_objectName : Uses CutAtDots objectName := by
  refine .bind (uses_dotSeparated .identifier) fun used words spelled => .pure ?_
  exact ⟨words, by simpa using spelled, rfl⟩

@[grind ←] theorem reads_objectName : Reads held chunk objectName := by
  refine uses_objectName.reads fun used parts cut inside => Named.each ?_
  obtain ⟨words, spelled, rfl⟩ := cut
  exact spelled.named_splitDotted inside

@[grind ←] theorem reads_tableName : Reads held chunk tableName := by
  refine .bind_uses (uses_dotSeparated uses_tableIdentifier) fun used words spelled => ?_
  refine .of_held fun inside => .pure (spelled.named_splitDotted ?_)
  exact (sublist_append_right held used).trans inside

@[grind ←] theorem reads_optionalColumns : Reads held chunk optionalColumns := by
  unfold optionalColumns
  grind

@[grind ←] theorem reads_mandatoryColumns : Reads held chunk mandatoryColumns := by
  unfold mandatoryColumns
  grind

@[grind ←] theorem reads_natural : Reads held chunk natural := by
  unfold natural naturalOf
  grind

@[grind ←] theorem reads_literalString : Reads held chunk literalString := by
  unfold literalString
  grind

@[grind ←] protected theorem Reads.literal : Reads held chunk literal := by
  unfold literal
  refine .bind .next fun lexeme _ => ?_
  split
  · split <;> grind
  · grind

@[grind ←] theorem reads_numberLiteral : Reads held chunk numberLiteral := by
  unfold numberLiteral
  refine .get_bind fun start => .bind Reads.peek.rewinds fun lexeme _ => ?_
  refine .bind Reads.literal.rewinds fun value _ => ?_
  split
  · exact .pure (by simp)
  · exact .pure (by simp)
  · exact .bind .set fun _ _ => Reads.expected.rewinds

@[grind ←] theorem reads_signedNumber : Reads held chunk signedNumber := by
  unfold signedNumber
  grind

@[grind ←] theorem reads_ascDesc : Reads held chunk ascDesc := by
  unfold ascDesc
  grind

theorem reads_peek_bind {f : Option Lexeme → Reader α} (last : Reads held chunk (f none))
    (more : ∀ lexeme, [lexeme].Sublist chunk → Reads held chunk (f (some lexeme))) : Reads held chunk (peek >>= f) := by
  intro before inside
  rw [run_bind]
  change (let ran := (f (dropBlanks before).head?).run.run before
    ran.2.Sublist (held ++ before) ∧ ∀ value, ran.1 = .ok value → AllNames (Named chunk) value)
  cases found : (dropBlanks before).head? with
  | none => exact last before inside
  | some lexeme =>
    have here : lexeme ∈ before := (dropBlanks_sublist before).subset (mem_of_mem_head? found)
    have there := (sublist_append_right held before).trans inside
    exact more lexeme (singleton_sublist.mpr (there.subset here)) before inside

@[grind ←] theorem reads_optionalAlias {reserved : List String} : Reads held chunk (optionalAlias reserved) := by
  unfold optionalAlias
  refine .bind .word fun afterAs _ => reads_peek_bind ?_ fun lexeme here => ?_
  · dsimp only [Option.bind_none]
    grind
  · dsimp only [Option.bind_some]
    split
    · rename_i name is
      have fine : Named chunk [name] := (spells_identOf is).alone.named here
      grind
    · rename_i name _ is
      have fine : Named chunk [name] := (Spells.unplaced (unplaced_stringName? is)).alone.named here
      grind
    · grind

end SqlLens.Grammar
