import SqlLens.Proofs.Script.Prefetch
import SqlLens.Store.Basic
import SqlLens.Workspace.File

/-!
Files whose tables cannot all be fetched.

A `Desk` is what a job has before it when nobody disturbs it: a document, the artifact that is kept for it, and what
fetching each path comes to. A table that cannot be fetched is reported as such, once, and never as missing, and the
artifact is kept only if nothing stood in the way, so that the next job tries again (`unavailable_tables_reported`).

A text may be resolved although one of its paths could not be fetched, if that is no table after all
(`correlated_array_unavailable`). Then only the warning is left (`resolved_file_has_only_warnings`).
-/

namespace SqlLens

open List
open SqlLens.Analysis (Lookup Extends)

structure Desk where
  document : Document
  kept : Option Artifact
  /-- What fetching comes to, by the path as written. -/
  outcomes : String → Except FetchError Table

namespace Desk

def fetch (desk : Desk) (written : String) : Except WorkspaceError Table :=
  match desk.outcomes written with
  | .ok table => .ok table
  | .error error => .error (.metadata error)

def act (desk : Desk) : (action : Action) → action.Result × Desk
  | .readDocument _ => (some desk.document, desk)
  | .readArtifact _ => (desk.kept, desk)
  | .keepArtifact _ artifact => ((), { desk with kept := some artifact })
  | .dropArtifact _ => ((), { desk with kept := none })
  | .fetch written _ => (desk.fetch written, desk)
  | .isCancelled _ => (false, desk)
  | .putDocument _ | .dropDocument _ | .enterGate | .leaveGate | .publish .. | .log .. | .emit _ | .sleep _ =>
      ((), desk)

end Desk

def Job.atDesk : Job α → Desk → α × Desk
  | .done value, desk => (value, desk)
  | .act action next, desk => (next (desk.act action).1).atDesk (desk.act action).2

theorem Job.atDesk_bind (job : Job α) (f : α → Job β) (desk : Desk) :
    (job.bind f).atDesk desk = (f (job.atDesk desk).1).atDesk (job.atDesk desk).2 := by
  induction job generalizing desk with
  | done value => rfl
  | act action next ih => exact ih _ _

def Attempt.atDesk (attempt : Attempt α) (desk : Desk) : Except WorkspaceError α × Desk := attempt.run.atDesk desk

theorem Attempt.atDesk_perform (action : Action) (desk : Desk) :
    (Attempt.perform action).atDesk desk = (.ok (desk.act action).1, (desk.act action).2) := rfl

theorem Attempt.atDesk_bind (attempt : Attempt α) (f : α → Attempt β) (desk : Desk) :
    (attempt >>= f).atDesk desk =
      match attempt.atDesk desk with
      | (.ok value, middle) => (f value).atDesk middle
      | (.error error, middle) => (.error error, middle) := by
  have opened : (attempt >>= f).atDesk desk = (attempt.run.bind (ExceptT.bindCont f)).atDesk desk := rfl
  rw [opened, Job.atDesk_bind]
  unfold Attempt.atDesk
  rcases attempt.run.atDesk desk with ⟨error | value, middle⟩ <;> rfl

namespace Desk

def text (desk : Desk) : String := desk.document.text

def script (desk : Desk) : Script := Script.read desk.text

def paths (desk : Desk) : List (String × Span) := desk.script.tree.tablePaths

def failure? (desk : Desk) (path : String) : Option FetchError :=
  match desk.outcomes path with
  | .ok _ => none
  | .error error => if error.isNotFound then none else some error

def fetched (desk : Desk) : Catalog := .fetched (fun path => (desk.outcomes path).toOption) desk.paths

def unavailable (desk : Desk) : List (String × Span × FetchError) :=
  desk.paths.filterMap fun path => (desk.failure? path.1).map fun error => (path.1, path.2, error)

def supply (desk : Desk) : Supply := ⟨desk.fetched, desk.unavailable⟩

def plain (desk : Desk) : Artifact := .build desk.text desk.script desk.fetched.find? []

def report (desk : Desk) : Artifact := desk.supply.artifact desk.text desk.script

/-- Every table is fetched or known to be missing. -/
def Complete (desk : Desk) : Prop := ∀ path ∈ desk.paths, desk.failure? path.1 = none

instance (desk : Desk) : Decidable desk.Complete :=
  inferInstanceAs (Decidable (∀ path ∈ desk.paths, desk.failure? path.1 = none))

def isCurrent (desk : Desk) : Bool := desk.kept.any (·.isCurrent desk.text)

/-- An artifact is kept only if nothing stood in the way. -/
def filed (desk : Desk) (artifact : Artifact) : Desk :=
  if desk.Complete then { desk with kept := some artifact } else desk

def later (desk : Desk) (outcomes : String → Except FetchError Table) : Desk := { desk with outcomes := outcomes }

def warnings (desk : Desk) : List Diagnostic :=
  desk.paths.filterMap fun path => (desk.failure? path.1).map fun error =>
    ⟨.metadataUnavailable, .warn, "Metadata unavailable for " ++ path.1 ++ ": " ++ error.message, some path.2⟩

/-- The diagnostic says of a table that it is missing, which only cannot be fetched. -/
def Excused (desk : Desk) (diagnostic : Diagnostic) : Prop :=
  diagnostic.code = .tableNotFound ∧
    ∃ path ∈ desk.paths, desk.failure? path.1 ≠ none ∧ diagnostic.message = "Table not found: " ++ path.1

instance (desk : Desk) (diagnostic : Diagnostic) : Decidable (desk.Excused diagnostic) :=
  inferInstanceAs (Decidable (_ ∧ ∃ path ∈ desk.paths, _))

/-! ### Making a file -/

def noted (desk : Desk) (supply : Supply) (path : String × Span) : Supply :=
  ⟨((desk.outcomes path.1).toOption.map (supply.tables.insert path.1)).getD supply.tables,
    supply.unavailable ++ ((desk.failure? path.1).map fun error => (path.1, path.2, error)).toList⟩

theorem note_fetched (desk : Desk) (supply : Supply) (path : String) (span : Span) :
    supply.note path span (desk.fetch path) = .ok (desk.noted supply (path, span)) := by
  unfold fetch noted failure? Supply.note
  cases desk.outcomes path with
  | ok table => simp [Except.toOption]
  | error error => by_cases missing : error.isNotFound <;> simp [Except.toOption, missing]

theorem gather_atDesk (desk : Desk) (ticket : Option Ticket) (supply : Supply) (paths : List (String × Span)) :
    (gather ticket supply paths).atDesk desk = (.ok (paths.foldl desk.noted supply), desk) := by
  induction paths generalizing supply with
  | nil => rfl
  | cons path rest ih =>
    rw [gather, Attempt.atDesk_bind, Attempt.atDesk_perform]
    dsimp only [act]
    rw [note_fetched]
    exact ih _

theorem foldl_noted (desk : Desk) (paths : List (String × Span)) (supply : Supply) :
    paths.foldl desk.noted supply =
      ⟨paths.foldl (fun catalog path =>
          ((desk.outcomes path.1).toOption.map (catalog.insert path.1)).getD catalog) supply.tables,
        supply.unavailable ++
          paths.filterMap fun path => (desk.failure? path.1).map fun error => (path.1, path.2, error)⟩ := by
  induction paths generalizing supply with
  | nil => simp
  | cons path rest ih =>
    rw [foldl_cons, ih]
    cases failed : desk.failure? path.1 <;> simp [noted, failed]

theorem gather_supply (desk : Desk) (ticket : Option Ticket) :
    (gather ticket .empty desk.paths).atDesk desk = (.ok desk.supply, desk) := by
  rw [gather_atDesk, foldl_noted]
  rfl

theorem isComplete_supply (desk : Desk) : desk.supply.isComplete ↔ desk.Complete := by
  simp [Supply.isComplete, supply, unavailable, Complete]

theorem buildFile_atDesk (desk : Desk) (ticket : Option Ticket) :
    (buildFile desk.document ticket).atDesk desk = (.ok desk.report, desk.filed desk.report) := by
  have gathered : (gather ticket .empty (Script.read desk.document.text).tree.tablePaths).atDesk desk =
    (.ok desk.supply, desk) := gather_supply desk ticket
  unfold buildFile filed
  dsimp only
  rw [Attempt.atDesk_bind, gathered]
  dsimp only
  by_cases complete : desk.Complete
  · rw [if_pos complete, if_pos ((isComplete_supply desk).mpr complete)]
    rfl
  · rw [if_neg complete, if_neg fun all => complete ((isComplete_supply desk).mp all)]
    rfl

theorem parseFile_atDesk (desk : Desk) (uri : Uri) (ticket : Option Ticket) :
    (parseFile uri ticket).atDesk desk =
      match desk.kept.filter (·.isCurrent desk.text) with
      | some kept => (.ok kept, desk)
      | none => (.ok desk.report, desk.filed desk.report) := by
  have made := buildFile_atDesk desk ticket
  unfold parseFile
  rw [Attempt.atDesk_bind, Attempt.atDesk_perform]
  dsimp only [act]
  rw [Attempt.atDesk_bind, Attempt.atDesk_perform]
  dsimp only [act]
  cases desk.kept with
  | none => exact made
  | some kept =>
    dsimp only
    by_cases current : kept.isCurrent desk.document.text
    · rw [if_pos current]
      simp only [Option.filter, text, current, if_true]
      rfl
    · rw [if_neg current]
      simp only [Option.filter, text, current]
      exact made

theorem parseFile_made (stale : desk.isCurrent = false) (uri : Uri) (ticket : Option Ticket) :
    (parseFile uri ticket).atDesk desk = (.ok desk.report, desk.filed desk.report) := by
  rw [parseFile_atDesk]
  cases kept : desk.kept with
  | none => rfl
  | some artifact =>
    have other : artifact.isCurrent desk.text = false := by simpa [isCurrent, kept] using stale
    simp [Option.filter, other]

theorem parseFile_kept {desk : Desk} {kept : Artifact} (given : desk.kept = some kept)
    (current : kept.isCurrent desk.text) (uri : Uri) (ticket : Option Ticket) :
    (parseFile uri ticket).atDesk desk = (.ok kept, desk) := by
  have found : desk.kept.filter (·.isCurrent desk.text) = some kept :=
    Option.filter_eq_some_iff.mpr ⟨given, current⟩
  rw [parseFile_atDesk, found]

theorem report_isCurrent (desk : Desk) : desk.report.isCurrent desk.text := by
  have fingerprint : desk.report.fingerprint = Digest.fingerprint desk.text := rfl
  unfold Artifact.isCurrent
  rw [fingerprint, beq_self_eq_true]

/-! ### Diagnostics -/

theorem warnings_supply (desk : Desk) : desk.supply.warnings = desk.warnings := by
  simp only [Supply.warnings, supply, unavailable, map_filterMap, Option.map_map]
  rfl

theorem disproves_iff (desk : Desk) (diagnostic : Diagnostic) :
    desk.supply.disproves diagnostic ↔ desk.Excused diagnostic := by
  have entries : (∃ entry ∈ desk.unavailable, diagnostic.message = "Table not found: " ++ entry.1) ↔
      ∃ path ∈ desk.paths, desk.failure? path.1 ≠ none ∧ diagnostic.message = "Table not found: " ++ path.1 := by
    constructor
    · rintro ⟨entry, listed, same⟩
      obtain ⟨path, named, made⟩ := mem_filterMap.mp listed
      obtain ⟨error, failed, rfl⟩ := Option.map_eq_some_iff.mp made
      exact ⟨path, named, by simp [failed], same⟩
    · rintro ⟨path, named, failed, same⟩
      obtain ⟨error, failed⟩ := Option.ne_none_iff_exists'.mp failed
      exact ⟨(path.1, path.2, error), mem_filterMap.mpr ⟨path, named, by simp [failed]⟩, same⟩
  unfold Excused
  rw [← entries]
  simp [Supply.disproves, supply]

/-- What comes from the text itself is never a warning, and a table that is said to be missing was not fetched. -/
theorem plain_diagnostics {desk : Desk} (given : diagnostic ∈ desk.plain.diagnostics) :
    diagnostic.code ≠ .metadataUnavailable ∧
      (diagnostic.code = .tableNotFound →
        ∃ path, diagnostic.message = "Table not found: " ++ path ∧ desk.fetched.find? path = none) := by
  unfold plain Artifact.build at given
  simp only [append_nil] at given
  rcases mem_append.mp given with read | resolved
  · obtain ⟨problem, -, rfl⟩ := mem_map.mp read
    cases problem <;> simp [Problem.diagnostic]
  · obtain ⟨result, listed, made⟩ := mem_filterMap.mp resolved
    cases result with
    | ok statement => cases made
    | error failure =>
      cases made
      constructor
      · show failure.fault.code ≠ .metadataUnavailable
        unfold Analysis.Fault.code
        split <;> simp
      · intro code
        obtain ⟨path, missing, message⟩ := Analysis.Fault.missingTable_of_code code
        exact ⟨path, message, Analysis.statements_missing _ _ listed missing⟩

/-- What an artifact says about the tables of a text. -/
structure Reported (desk : Desk) (artifact : Artifact) : Prop where
  /-- Besides the diagnostics everything is as the fetched tables give it. -/
  same : artifact = { desk.plain with diagnostics := artifact.diagnostics }
  diagnostics : artifact.diagnostics = desk.plain.diagnostics.filter (¬ desk.Excused ·) ++ desk.warnings
  warned : artifact.diagnostics.filter (·.code = .metadataUnavailable) = desk.warnings
  once : (desk.paths.map Prod.fst).Nodup
  /-- A warning stands where the path is named first. -/
  first : ∀ path ∈ desk.paths,
    (desk.script.tree.tableReferences.find? (·.dotted = path.1)).bind Surface.Node.span = some path.2
  excused : ∀ path ∈ desk.paths, desk.failure? path.1 ≠ none → ∀ diagnostic ∈ artifact.diagnostics,
    diagnostic.code = .tableNotFound → diagnostic.message ≠ "Table not found: " ++ path.1
  missing : ∀ diagnostic ∈ artifact.diagnostics, diagnostic.code = .tableNotFound →
    ∃ path, diagnostic.message = "Table not found: " ++ path ∧ desk.fetched.find? path = none

theorem warnings_nil_iff (desk : Desk) : desk.warnings = [] ↔ desk.Complete := by
  simp [warnings, Complete]

theorem warnings_code {desk : Desk} (given : diagnostic ∈ desk.warnings) : diagnostic.code = .metadataUnavailable := by
  obtain ⟨path, -, made⟩ := mem_filterMap.mp given
  obtain ⟨error, -, rfl⟩ := Option.map_eq_some_iff.mp made
  rfl

theorem report_diagnostics (desk : Desk) :
    desk.report.diagnostics = desk.plain.diagnostics.filter (¬ desk.Excused ·) ++ desk.warnings := by
  have parts : desk.report.diagnostics =
      (desk.plain.diagnostics ++ desk.warnings).filter fun diagnostic => !desk.supply.disproves diagnostic := by
    rw [← warnings_supply]
    simp [report, Supply.artifact, plain, Artifact.build, supply]
  have kept : desk.warnings.filter (¬ desk.Excused ·) = desk.warnings := by
    refine filter_eq_self.mpr fun diagnostic given => ?_
    have code := warnings_code given
    simp [Excused, code]
  have test :
      (fun diagnostic => !desk.supply.disproves diagnostic) = fun diagnostic => decide (¬ desk.Excused diagnostic) := by
    funext diagnostic
    rw [Bool.eq_iff_iff]
    simp [← disproves_iff]
  rw [parts, test, filter_append, kept]

theorem reported (desk : Desk) : desk.Reported desk.report := by
  have diagnostics := desk.report_diagnostics
  have origin {diagnostic} (given : diagnostic ∈ desk.report.diagnostics)
      (code : diagnostic.code = .tableNotFound) : diagnostic ∈ desk.plain.diagnostics ∧ ¬ desk.Excused diagnostic := by
    rw [diagnostics] at given
    rcases mem_append.mp given with plain | warning
    · simpa using mem_filter.mp plain
    · rw [warnings_code warning] at code
      cases code
  refine ⟨rfl, diagnostics, ?_, desk.script.tree.tablePaths_nodup, fun _ => Surface.Node.tablePaths_first, ?_, ?_⟩
  · have none : (desk.plain.diagnostics.filter (¬ desk.Excused ·)).filter (·.code = .metadataUnavailable) = [] := by
      refine filter_eq_nil_iff.mpr fun diagnostic given => ?_
      simpa using (plain_diagnostics (mem_filter.mp given).1).1
    have all : desk.warnings.filter (·.code = .metadataUnavailable) = desk.warnings :=
      filter_eq_self.mpr fun diagnostic given => by simpa using warnings_code given
    rw [diagnostics, filter_append, none, all, nil_append]
  · intro path named failed diagnostic given code message
    exact (origin given code).2 ⟨code, path, named, failed, message⟩
  · intro diagnostic given code
    exact (plain_diagnostics (origin given code).1).2 code

end Desk

/-- Whatever becomes of the tables a text names, a file that has to be made is made. What could not be fetched is
reported once, where it is named first and after everything else, and never as missing; what is said to be missing was
not fetched. The file is kept exactly if each table was fetched or is known to be missing, and the next job finds it.
Otherwise the next job makes it again, whatever becomes of the tables then. -/
theorem unavailable_tables_reported (desk : Desk) (stale : desk.isCurrent = false) (uri : Uri)
    (ticket : Option Ticket) :
    ∃ artifact, (parseFile uri ticket).atDesk desk = (.ok artifact, desk.filed artifact) ∧ desk.Reported artifact ∧
      ∀ outcomes,
        (desk.Complete → (parseFile uri ticket).atDesk ((desk.filed artifact).later outcomes) =
          (.ok artifact, (desk.filed artifact).later outcomes)) ∧
        (¬ desk.Complete → ∃ other after,
          (parseFile uri ticket).atDesk ((desk.filed artifact).later outcomes) = (.ok other, after) ∧
            (desk.later outcomes).Reported other) := by
  refine ⟨desk.report, desk.parseFile_made stale uri ticket, desk.reported, fun outcomes => ⟨?_, ?_⟩⟩
  · intro complete
    have text : (({ desk with kept := some desk.report } : Desk).later outcomes).text = desk.text := rfl
    rw [Desk.filed, if_pos complete]
    refine Desk.parseFile_kept rfl ?_ uri ticket
    rw [text]
    exact desk.report_isCurrent
  · intro incomplete
    have stale : (desk.later outcomes).isCurrent = false := stale
    rw [Desk.filed, if_neg incomplete]
    exact ⟨_, _, Desk.parseFile_made stale uri ticket, Desk.reported _⟩

def usersMemory : MemoryStore :=
  MemoryStore.empty.addTable "proj.ds.users"
    (.of "proj:ds.users" .epoch [.mk "id" "INTEGER" none "" [], .mk "tags" "STRING" (some .repeated) "" []])

def Desk.onUsers (text : String) : Desk where
  document := ⟨⟨"file:///work/query.sql"⟩, text, 1⟩
  kept := none
  outcomes written := TablePath.parse none written >>= usersMemory.answer

def taggedUsers : Desk := .onUsers "SELECT t FROM proj.ds.users AS u, u.tags AS t"

theorem taggedUsers_diagnostics :
    taggedUsers.report.diagnostics =
      [⟨.metadataUnavailable, .warn, "Metadata unavailable for u.tags: Configuration error: " ++
      "Table u.tags has no project and no default project_id is configured", some ⟨34, 40, by decide⟩⟩] := by
  decide +kernel

/-- The path of the array cannot be fetched, so the file is made again each time. -/
theorem taggedUsers_reported :
    taggedUsers.isCurrent = false ∧
      ∃ artifact, (parseFile ⟨"file:///work/query.sql"⟩ none).atDesk taggedUsers = (.ok artifact, taggedUsers) ∧
        taggedUsers.Reported artifact := by
  have incomplete : ¬ taggedUsers.Complete := by
    intro complete
    have none : taggedUsers.warnings = [] := taggedUsers.warnings_nil_iff.mpr complete
    rw [← taggedUsers.reported.warned, taggedUsers_diagnostics] at none
    cases none
  obtain ⟨artifact, parsed, reported, -⟩ :=
    unavailable_tables_reported taggedUsers rfl ⟨"file:///work/query.sql"⟩ none
  rw [Desk.filed, if_neg incomplete] at parsed
  exact ⟨rfl, artifact, parsed, reported⟩

/-! ### Files that are resolved -/

namespace Analysis

theorem length_statements (tables : Lookup) (state : State) (nodes : List Surface.Node) :
    (statements tables state nodes).1.length = nodes.length := by
  induction nodes generalizing state with
  | nil => rfl
  | cons node rest ih => exact congrArg (· + 1) (ih _)

end Analysis

theorem Artifact.all_resolved {script : Script} {text : String}
    (resolved : (Artifact.build text script tables extra).outputs.length = script.tree.children.length) :
    ∀ result ∈ Analysis.script tables script.tree, result.toBool := by
  intro result listed
  unfold Artifact.build at resolved
  rw [← Analysis.length_statements tables .initial script.tree.children] at resolved
  have found := filterMap_length_eq_length.mp resolved result listed
  cases result with
  | error failure => cases found
  | ok statement => rfl

theorem Artifact.build_extends {script : Script} {text : String} (extended : Extends others tables)
    (resolved : ∀ result ∈ Analysis.script tables script.tree, result.toBool) (extra : List Diagnostic) :
    Artifact.build text script others extra = Artifact.build text script tables extra := by
  have same : Analysis.script others script.tree = Analysis.script tables script.tree :=
    congrArg Prod.fst (Analysis.statements_extends extended _ _ resolved)
  unfold Artifact.build
  rw [same]

theorem Artifact.build_diagnostics {script : Script} {text : String} (read : script.problems = [])
    (resolved : ∀ result ∈ Analysis.script tables script.tree, result.toBool) (extra : List Diagnostic) :
    (Artifact.build text script tables extra).diagnostics = extra := by
  unfold Artifact.build
  simp only [read, map_nil, nil_append, append_left_eq_self, filterMap_eq_nil_iff]
  intro result listed
  have fine := resolved result listed
  cases result with
  | error failure => cases fine
  | ok statement => rfl

namespace Desk

/-- An artifact that is kept and was made from the text was made when nothing stood in the way. -/
def Sound (desk : Desk) : Prop :=
  ∀ kept ∈ desk.kept, kept.isCurrent desk.text = true →
    ∃ outcomes, (desk.later outcomes).Complete ∧ kept = (desk.later outcomes).report

theorem Sound.filed {desk : Desk} (sound : desk.Sound) : (desk.filed desk.report).Sound := by
  unfold Desk.filed
  split
  · rename_i complete
    intro kept given _
    cases given
    exact ⟨desk.outcomes, complete, rfl⟩
  · exact sound

/-- Where all statements were read and resolved, the warnings are all there is to say, and what could not be fetched
does not matter. -/
theorem report_resolved {desk : Desk} (read : desk.script.problems = [])
    (resolved : desk.report.outputs.length = desk.script.tree.children.length) :
    desk.report.diagnostics = desk.warnings ∧
      ∀ tables, Extends tables desk.fetched.find? →
        Artifact.build desk.text desk.script tables [] = { desk.report with diagnostics := [] } := by
  have all := Artifact.all_resolved
      (show (Artifact.build desk.text desk.script desk.fetched.find? []).outputs.length = _ from resolved)
  have silent : desk.plain.diagnostics = [] := Artifact.build_diagnostics read all []
  refine ⟨by rw [report_diagnostics, silent, filter_nil, nil_append], fun tables extended => ?_⟩
  rw [Artifact.build_extends extended all]
  have same : desk.plain = { desk.report with diagnostics := desk.plain.diagnostics } := rfl
  rw [silent] at same
  exact same

end Desk

/-- In a file whose statements are all read and resolved, the warnings about tables that could not be fetched are all
there is, and in a file that was kept there are none. Such a table does not matter: if any table had been fetched in its
place, the statements would have been resolved in the same way. -/
theorem resolved_file_has_only_warnings (desk : Desk) (sound : desk.Sound) (uri : Uri) (ticket : Option Ticket) :
    ∃ artifact after, (parseFile uri ticket).atDesk desk = (.ok artifact, after) ∧ after.Sound ∧
      (desk.script.problems = [] → artifact.outputs.length = desk.script.tree.children.length →
        artifact.diagnostics = (if desk.isCurrent then [] else desk.warnings) ∧
        (artifact.diagnostics = [] ↔ desk.isCurrent = true ∨ desk.Complete) ∧
        (desk.isCurrent = false → ∀ tables, Extends tables desk.fetched.find? →
          Artifact.build desk.text desk.script tables [] = { artifact with diagnostics := [] })) := by
  cases current : desk.isCurrent with
  | false =>
    refine ⟨_, _, desk.parseFile_made current uri ticket, sound.filed, fun read resolved => ?_⟩
    obtain ⟨warned, immaterial⟩ := Desk.report_resolved read resolved
    refine ⟨warned, ?_, fun _ => immaterial⟩
    simp [warned, Desk.warnings_nil_iff]
  | true =>
    cases given : desk.kept with
    | none => simp [Desk.isCurrent, given] at current
    | some kept =>
      have own : kept.isCurrent desk.text = true := by simpa [Desk.isCurrent, given] using current
      refine ⟨_, _, Desk.parseFile_kept given own uri ticket, sound, fun read resolved => ?_⟩
      obtain ⟨outcomes, complete, rfl⟩ := sound kept given own
      have warned := (@Desk.report_resolved (desk.later outcomes) read resolved).1
      rw [(Desk.warnings_nil_iff _).mpr complete] at warned
      simp [warned]

theorem taggedUsers_read : taggedUsers.script.problems = [] := by decide +kernel

theorem taggedUsers_resolved : taggedUsers.report.outputs.length = taggedUsers.script.tree.children.length := by
  decide +kernel

/-- Of the table in front of the array everything is known, and a warning is left. -/
theorem taggedUsers_only_warned :
    taggedUsers.Sound ∧ taggedUsers.script.problems = [] ∧
      ∃ artifact after, (parseFile ⟨"file:///work/query.sql"⟩ none).atDesk taggedUsers = (.ok artifact, after) ∧
        artifact.outputs.length = taggedUsers.script.tree.children.length ∧
        artifact.diagnostics = taggedUsers.warnings := by
  have sound : taggedUsers.Sound := by
    rintro kept ⟨⟩
  obtain ⟨artifact, after, parsed, -, only⟩ :=
    resolved_file_has_only_warnings taggedUsers sound ⟨"file:///work/query.sql"⟩ none
  have made := taggedUsers.parseFile_made rfl ⟨"file:///work/query.sql"⟩ none
  rw [parsed] at made
  cases made
  exact ⟨sound, taggedUsers_read, _, _, parsed, taggedUsers_resolved, (only taggedUsers_read taggedUsers_resolved).1⟩

/-- A file whose statements are all read and resolved may have a diagnostic. Before it is known that `u.tags` is an
array of the table in front of it, it is taken for the path of a table, and without a default project there is no such
path. -/
theorem correlated_array_unavailable :
    ∃ artifact after, (parseFile ⟨"file:///work/query.sql"⟩ none).atDesk taggedUsers = (.ok artifact, after) ∧
      taggedUsers.script.problems = [] ∧ artifact.outputs.length = taggedUsers.script.tree.children.length ∧
      artifact.diagnostics ≠ [] := by
  refine ⟨_, _, taggedUsers.parseFile_made rfl _ none, taggedUsers_read, taggedUsers_resolved, ?_⟩
  rw [taggedUsers_diagnostics]
  exact List.cons_ne_nil _ _

end SqlLens
