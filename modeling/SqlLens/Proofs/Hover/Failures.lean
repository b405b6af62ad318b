import SqlLens.Proofs.Hover.Tables
import SqlLens.Proofs.Workspace.Course

/-!
What can go wrong when something is shown at a position.

The store is asked three times: for the tables of the text, for a table that is pointed at, and for the table of a
column. Only the second may spoil the answer (`hover_fails_iff`). `Job.Ends` lists what came of the actions of a job,
where between two of them anything may happen to the workspace.
-/

namespace SqlLens

open Attempt

structure Reply where
  action : Action
  result : action.Result

/-- The job comes to a value after some replies. Each of them is what some state of the workspace gives. -/
inductive Job.Ends : Job α → List Reply → α → Prop where
  | done : Ends (.done value) [] value
  | act (workspace : Workspace) {action : Action} {next : action.Result → Job α} {result : action.Result}
      (finds : workspace.Finds action result) (rest : (next result).Ends replies value) :
      Ends (.act action next) (⟨action, result⟩ :: replies) value

def Attempt.Ends (attempt : Attempt α) (replies : List Reply) (outcome : Except WorkspaceError α) : Prop :=
  attempt.run.Ends replies outcome

variable {α β : Type} {replies front back : List Reply}

namespace Job.Ends

theorem bind {job : Job α} (first : job.Ends front value) (second : (f value).Ends back last) :
    (job.bind f).Ends (front ++ back) last := by
  induction first with
  | done => exact second
  | act _ finds _ ih => exact .act _ finds (ih second)

theorem of_bind {job : Job α} (ran : (job.bind f).Ends replies last) :
    ∃ front back value, replies = front ++ back ∧ job.Ends front value ∧ (f value).Ends back last := by
  induction job generalizing replies with
  | done value => exact ⟨[], replies, value, rfl, .done, ran⟩
  | act action next ih =>
    cases ran with
    | act _ finds rest =>
      obtain ⟨front, back, value, rfl, first, second⟩ := ih _ rest
      exact ⟨_ :: front, back, value, rfl, .act _ finds first, second⟩

theorem rest {job : Job α} (first : job.Ends front value) (whole : (job.bind f).Ends (front ++ back) last) :
    (f value).Ends back last := by
  induction first with
  | done => exact whole
  | act _ _ _ ih =>
    cases whole with
    | act _ _ rest => exact ih rest

end Job.Ends

namespace Attempt

theorem ends_pure : (pure value : Attempt α).Ends replies outcome ↔ replies = [] ∧ outcome = .ok value := by
  constructor
  · rintro ⟨⟩
    exact ⟨rfl, rfl⟩
  · rintro ⟨rfl, rfl⟩
    exact .done

theorem ends_throw : (throw error : Attempt α).Ends replies outcome ↔ replies = [] ∧ outcome = .error error := by
  constructor
  · rintro ⟨⟩
    exact ⟨rfl, rfl⟩
  · rintro ⟨rfl, rfl⟩
    exact .done

theorem ends_after (ran : (perform action >>= f).Ends replies outcome) :
    ∃ back result, (∃ workspace : Workspace, workspace.Finds action result) ∧ replies = ⟨action, result⟩ :: back ∧
      (f result).Ends back outcome := by
  cases ran with
  | act _ finds rest => exact ⟨_, _, ⟨_, finds⟩, rfl, rest⟩

theorem ends_bind {attempt : Attempt α} (ran : (attempt >>= f).Ends replies outcome) :
    (∃ error, outcome = .error error ∧ attempt.Ends replies (.error error)) ∨
      ∃ front back value, replies = front ++ back ∧ attempt.Ends front (.ok value) ∧ (f value).Ends back outcome := by
  obtain ⟨front, back, middle, rfl, first, second⟩ := Job.Ends.of_bind (f := ExceptT.bindCont f) ran
  cases middle with
  | error error =>
    cases second
    exact .inl ⟨error, rfl, by rwa [List.append_nil]⟩
  | ok value => exact .inr ⟨front, back, value, rfl, first, second⟩

theorem ends_rest {attempt : Attempt α} (first : attempt.Ends front (.ok value))
    (whole : (attempt >>= f).Ends (front ++ back) outcome) :
    (f value).Ends back outcome := Job.Ends.rest (f := ExceptT.bindCont f) first whole

end Attempt

/-! ### Files -/

theorem gather_ends : ¬ (gather none supply paths).Ends replies (.error error) := by
  induction paths generalizing supply replies with
  | nil =>
    intro ran
    cases (ends_pure.mp ran).2
  | cons path rest ih =>
    intro ran
    obtain ⟨_, result, ⟨_, finds⟩, -, went⟩ := ends_after ran
    split at went
    · exact ih went
    · rename_i noted
      obtain ⟨failed, other⟩ := Supply.note_error noted
      rcases finds _ failed with ⟨cause, same⟩ | ⟨-, ticketed⟩
      · exact other cause same
      · exact ticketed rfl

theorem buildFile_ends {document : Document} : ¬ (buildFile document none).Ends replies (.error error) := by
  intro ran
  rcases ends_bind ran with ⟨_, _, failed⟩ | ⟨_, _, supply, -, -, went⟩
  · exact gather_ends failed
  · split at went
    · obtain ⟨_, _, -, -, ended⟩ := ends_after went
      cases (ends_pure.mp ended).2
    · cases (ends_pure.mp went).2

theorem parseFile_ends (ran : (parseFile uri none).Ends replies outcome) :
    (∃ error, outcome = .error error) ↔ replies.head? = some ⟨.readDocument uri, none⟩ := by
  obtain ⟨_, found, -, rfl, went⟩ := ends_after ran
  cases found with
  | none =>
    obtain ⟨rfl, rfl⟩ := ends_throw.mp went
    simp
  | some document =>
    refine iff_of_false ?_ (by simp)
    rintro ⟨error, rfl⟩
    obtain ⟨_, kept, -, -, ended⟩ := ends_after went
    cases kept with
    | none => exact buildFile_ends ended
    | some kept =>
      dsimp only at ended
      split at ended
      · cases (ends_pure.mp ended).2
      · exact buildFile_ends ended

theorem Position.offset_error_iff {text : String} {position : Position} :
    (∃ error, position.offset? text = .error error) ↔ (Text.lines text.toList).length ≤ position.line := by
  have none_iff (lines : List (List Char)) (line : Nat) : lineStart? lines line = none ↔ lines.length ≤ line := by
    induction lines generalizing line with
    | nil => simp [lineStart?]
    | cons head rest ih => cases line <;> simp [lineStart?, ih]
  rw [← none_iff]
  unfold Position.offset?
  dsimp only
  split <;> simp_all

/-! ### Targets -/

namespace Hover

variable {output : Resolved.Statement} {outcome : Except WorkspaceError (List Content)}

/-- What is found at an offset within a resolved statement: a call, a field, a column, or the column of a selected item.
-/
def Finds (output : Resolved.Statement) (offset : Nat) (place : Surface.Place) : Prop :=
  (∃ function, calledFunction? output offset = some function) ∨
  (∃ field, output.deepest? offset Resolved.Node.field? = some field) ∨
  (∃ column, output.deepest? offset Resolved.Node.column? = some column) ∨
  ∃ item column, place.ancestor? Surface.Kind.isSelectColumn = some item ∧
    selected? output offset item place.node = some column

theorem within_isSome (found : Finds output offset place) :
    ∃ target, within? output offset place = some target ∧ ∀ written, target ≠ .table written := by
  unfold within?
  cases called : calledFunction? output offset with
  | some function => exact ⟨_, rfl, nofun⟩
  | none =>
    cases field : output.deepest? offset Resolved.Node.field? with
    | some field => exact ⟨_, rfl, nofun⟩
    | none =>
      cases column : output.deepest? offset Resolved.Node.column? with
      | some column => exact ⟨_, rfl, nofun⟩
      | none =>
        obtain ⟨_, same⟩ | ⟨_, same⟩ | ⟨_, same⟩ | ⟨item, column, above, chosen⟩ := found
        · cases called.symm.trans same
        · cases field.symm.trans same
        · cases column.symm.trans same
        · exact ⟨.column column, by simp [above, chosen], nofun⟩

theorem within_ne_table : within? output offset place ≠ some (.table written) := by
  intro given
  unfold within? at given
  split at given
  · cases given
  · split at given
    · cases given
    · split at given
      · cases given
      · obtain ⟨item, -, given⟩ := Option.bind_eq_some_iff.mp given
        obtain ⟨column, -, given⟩ := Option.bind_eq_some_iff.mp given
        cases given

theorem target_table_iff :
    target? file offset = some (.table written) ↔
      ∃ place, Surface.Place.deepest? offset Surface.Kind.isPath file.tree.places = some place ∧ NamesTable place ∧
        written = place.node.dotted := by
  unfold target?
  cases Surface.Place.deepest? offset Surface.Kind.isPath file.tree.places with
  | none => simp
  | some place =>
    simp only [Option.bind_eq_bind, Option.bind_some, Option.some.injEq, exists_eq_left', ← tableReference_eq_some]
    cases tableReference? place with
    | some other => simp [eq_comm]
    | none =>
      simp only [reduceCtorEq, iff_false]
      intro given
      obtain ⟨output, -, given⟩ := Option.bind_eq_some_iff.mp given
      exact within_ne_table given

theorem contents_ends (ran : (contents target).Ends replies outcome) :
    (∃ written result, target = .table written ∧ replies = [⟨.fetch written none, result⟩] ∧
        outcome = result.map tableContents) ∨
      (∀ written, target ≠ .table written) ∧ ∃ content, outcome = .ok [content] := by
  cases target with
  | table written =>
    refine .inl ⟨written, ?_⟩
    cases ran with
    | @act _ _ _ _ _ result _ rest =>
      refine ⟨result, rfl, ?_⟩
      cases result <;> cases rest <;> exact ⟨rfl, rfl⟩
  | call function => exact .inr ⟨nofun, _, (ends_pure.mp ran).2⟩
  | field type => exact .inr ⟨nofun, _, (ends_pure.mp ran).2⟩
  | column column =>
    obtain ⟨_, _, -, -, ended⟩ := ends_after ran
    exact .inr ⟨nofun, _, (ends_pure.mp ended).2⟩

/-- Why nothing can be shown at a position: the document is not open, the text has too few lines, or the innermost path
names a table that cannot be fetched. -/
inductive Spoiled (uri : Uri) (position : Position) : List Reply → Prop where
  | unopened {back : List Reply} : Spoiled uri position (⟨.readDocument uri, none⟩ :: back)
  | outside {front back : List Reply} {file : Artifact} (parsed : (parseFile uri none).Ends front (.ok file))
      (short : (Text.lines file.text.toList).length ≤ position.line) : Spoiled uri position (front ++ back)
  | table {front : List Reply} {file : Artifact} (parsed : (parseFile uri none).Ends front (.ok file))
      (inside : position.offset? file.text = .ok offset)
      (deepest : Surface.Place.deepest? offset Surface.Kind.isPath file.tree.places = some place)
      (names : NamesTable place) :
      Spoiled uri position (front ++ [⟨.fetch place.node.dotted none, .error error⟩])

theorem spoiled_of_failed {uri : Uri} (ran : (Hover.at? uri position).Ends replies (.error error)) :
    Spoiled uri position replies := by
  rcases ends_bind ran with ⟨other, -, failed⟩ | ⟨front, back, file, rfl, parsed, went⟩
  · obtain ⟨back, rfl⟩ := List.head?_eq_some_iff.mp ((parseFile_ends failed).mp ⟨other, rfl⟩)
    exact .unopened
  · split at went
    · rename_i outside
      exact .outside parsed (Position.offset_error_iff.mp ⟨_, outside⟩)
    · rename_i offset inside
      split at went
      · rename_i target pointed
        obtain ⟨written, result, rfl, rfl, same⟩ | ⟨-, content, same⟩ := contents_ends went
        · obtain ⟨place, deepest, names, rfl⟩ := target_table_iff.mp pointed
          cases result with
          | ok table => cases same
          | error failure => exact .table parsed inside deepest names
        · cases same
      · cases (ends_pure.mp went).2

theorem failed_of_spoiled {uri : Uri} (ran : (Hover.at? uri position).Ends replies outcome)
    (spoiled : Spoiled uri position replies) : ∃ error, outcome = .error error := by
  cases spoiled with
  | unopened =>
    rcases ends_bind ran with ⟨error, same, -⟩ | ⟨front, back, file, all, parsed, -⟩
    · exact ⟨error, same⟩
    · obtain ⟨_, found, -, rfl, -⟩ := ends_after parsed
      cases all
      obtain ⟨_, same⟩ := (parseFile_ends parsed).mpr rfl
      cases same
  | outside parsed short =>
    have went := ends_rest parsed ran
    obtain ⟨error, same⟩ := Position.offset_error_iff.mpr short
    rw [same] at went
    exact ⟨_, (ends_throw.mp went).2⟩
  | table parsed inside deepest names =>
    have went := ends_rest parsed ran
    rw [inside] at went
    dsimp only at went
    rw [target_table_iff.mpr ⟨_, deepest, names, rfl⟩] at went
    obtain ⟨written, result, named, same, rfl⟩ | ⟨other, -⟩ := contents_ends went
    · cases same
      exact ⟨_, rfl⟩
    · exact absurd rfl (other _)

theorem shown_of_finds {position : Position} (ran : (Hover.at? uri position).Ends (front ++ back) outcome)
    (parsed : (parseFile uri none).Ends front (.ok file)) (inside : position.offset? file.text = .ok offset)
    (deepest : Surface.Place.deepest? offset Surface.Kind.isPath file.tree.places = some place)
    (noTable : ¬ NamesTable place)
    (within : file.outputAt? offset = some output) (found : Finds output offset place) :
    ∃ content, outcome = .ok [content] := by
  have went := ends_rest parsed ran
  obtain ⟨target, pointed, noTarget⟩ := within_isSome found
  have none : tableReference? place = none := by
    cases reference : tableReference? place with
    | none => rfl
    | some written => exact absurd (tableReference_eq_some.mp reference).1 noTable
  have shown : target? file offset = some target := by simp [target?, deepest, none, within, pointed]
  rw [inside] at went
  dsimp only at went
  rw [shown] at went
  obtain ⟨written, _, same, -⟩ | ⟨-, shows⟩ := contents_ends went
  · exact absurd same (noTarget written)
  · exact shows

end Hover

/-! ### Failures -/

open Hover Surface in
/-- Nothing can be shown at a position exactly if the document is not open, the text has too few lines, or the innermost
path there names a table that cannot be fetched. Where the path names no table and something is found in its statement,
something is shown, whatever the store answers. -/
theorem hover_fails_iff {uri : Uri} {position : Position} {outcome : Except WorkspaceError (List Content)}
    (ran : (Hover.at? uri position).Ends replies outcome) :
    ((∃ error, outcome = .error error) ↔ Spoiled uri position replies) ∧
    ∀ front back file offset place output, replies = front ++ back → (parseFile uri none).Ends front (.ok file) →
      position.offset? file.text = .ok offset →
        Surface.Place.deepest? offset Kind.isPath file.tree.places = some place →
      ¬ NamesTable place → file.outputAt? offset = some output → Finds output offset place →
        ∃ content, outcome = .ok [content] := by
  refine ⟨⟨fun ⟨error, same⟩ => spoiled_of_failed (same ▸ ran), failed_of_spoiled ran⟩, ?_⟩
  rintro front back file offset place output rfl parsed inside deepest noTable within found
  exact shown_of_finds ran parsed inside deepest noTable within found

theorem Hover.ends_table (parsed : (parseFile uri none).Ends front (.ok file))
    (inside : position.offset? file.text = .ok offset) (pointed : target? file offset = some (.table written))
    (workspace : Workspace) (fetched : Fetched none result) :
    (Hover.at? uri position).Ends (front ++ [⟨.fetch written none, result⟩]) (result.map tableContents) := by
  refine Job.Ends.bind parsed ?_
  dsimp only [ExceptT.bindCont]
  rw [inside]
  dsimp only
  rw [pointed]
  cases result <;> exact .act workspace fetched .done

theorem buildFile_ends_unavailable (paths : (Script.read document.text).tree.tablePaths = [(path, span)])
    (lost : error.isNotFound = false) (workspace : Workspace) :
    (buildFile document none).Ends [⟨.fetch path none, .error (.metadata error)⟩]
      (.ok (Supply.artifact ⟨.empty, [(path, span, error)]⟩ document.text (Script.read document.text))) := by
  let supply : Supply := ⟨.empty, [(path, span, error)]⟩
  have noted : Supply.empty.note path span (.error (.metadata error)) = .ok supply := by
    simp [Supply.note, lost, Supply.empty, supply]
  have gathered :
      (gather none .empty [(path, span)]).Ends [⟨.fetch path none, .error (.metadata error)⟩] (.ok supply) := by
    refine .act workspace (.metadata _ _) ?_
    dsimp only [Job.bind, Function.comp, ExceptT.bindCont]
    rw [noted]
    exact .done
  unfold buildFile
  dsimp only
  rw [paths]
  exact Job.Ends.bind gathered .done

private def barePath : Document := ⟨⟨"file:///work/query.sql"⟩, "SELECT a FROM d.t", 1⟩

private def bareWorkspace : Workspace :=
  { Workspace.empty (.default "/work") .empty ⟨.memory .empty, none⟩ 0 with documents := ⟨[barePath]⟩ }

theorem barePath_paths : (Script.read barePath.text).tree.tablePaths = [("d.t", ⟨14, 17, by decide⟩)] := by
  decide +kernel

private def bareFile : Artifact :=
  Supply.artifact ⟨.empty, [("d.t", ⟨14, 17, by decide⟩, .timeout 5000)]⟩ barePath.text (Script.read barePath.text)

theorem bareFile_target : (match Hover.target? bareFile 14 with
    | some (.table written) => written == "d.t"
    | _ => false) = true := by decide +kernel

/-- The text is resolved although the store never answers in time, but a table that is pointed at cannot be shown. -/
theorem unanswered_table_fails :
    ∃ replies error, (Hover.at? barePath.uri ⟨0, 14⟩).Ends replies (.error error) ∧
      Hover.Spoiled barePath.uri ⟨0, 14⟩ replies := by
  have opened : some barePath = bareWorkspace.documents.find? barePath.uri := by simp [bareWorkspace, Documents.find?]
  have built : (buildFile barePath none).Ends _ (.ok bareFile) :=
    buildFile_ends_unavailable barePath_paths rfl bareWorkspace
  have parsed : (parseFile barePath.uri none).Ends _ (.ok bareFile) :=
    .act bareWorkspace opened (.act bareWorkspace rfl built)
  have inside : Position.offset? bareFile.text ⟨0, 14⟩ = .ok 14 := by decide +kernel
  have shown := bareFile_target
  split at shown
  · rename_i written pointed
    have ran := Hover.ends_table parsed inside pointed bareWorkspace (.metadata none (.timeout 5000))
    exact ⟨_, _, ran, (hover_fails_iff ran).1.mp ⟨_, rfl⟩⟩
  · cases shown

end SqlLens
