import SqlLens.Hover.Basic
import SqlLens.Proofs.Workspace.Protocol

/-!
What jobs make of the texts they read.

Artifacts are kept from one job to the next and may be about a text that is gone. `Job.Ensures` says what a job does
while every document it reads has one of its own texts and every artifact it finds was made from one of them: it keeps
only such artifacts, publishes only what it may, and ends with a value of a given property.
-/

namespace SqlLens

def Artifact.BuiltFrom (artifact : Artifact) (text : String) : Prop :=
  ∃ supply : Supply, artifact = supply.artifact text (Script.read text)

theorem Artifact.BuiltFrom.text_eq {artifact : Artifact} {text : String} (built : artifact.BuiltFrom text) :
    artifact.text = text := by
  obtain ⟨supply, rfl⟩ := built
  rfl

theorem Artifact.BuiltFrom.fingerprint_eq {artifact : Artifact} {text : String} (built : artifact.BuiltFrom text) :
    artifact.fingerprint = Digest.fingerprint text := by
  obtain ⟨supply, rfl⟩ := built
  rfl

def DiagnosedFrom (text : String) (markers : List Editor.Marker) : Prop :=
  ∃ artifact : Artifact, artifact.BuiltFrom text ∧ markers = artifact.diagnostics.map (Editor.Marker.of text)

/-- The texts that each document has at some time. -/
abbrev Texts := Uri → String → Prop

namespace Texts

def Genuine (texts : Texts) (uri : Uri) (artifact : Artifact) : Prop := ∃ text, texts uri text ∧ artifact.BuiltFrom text

def Has (texts : Texts) (uri : Uri) (document : Document) : Prop := document.uri = uri ∧ texts uri document.text

/-- No two texts of the document have the same fingerprint. -/
def Distinct (texts : Texts) (uri : Uri) : Prop :=
  ∀ first second, texts uri first → texts uri second → Digest.fingerprint first = Digest.fingerprint second →
    first = second

theorem Genuine.builtFrom {texts : Texts} (genuine : texts.Genuine uri artifact) (distinct : texts.Distinct uri)
    (given : texts uri text) (current : artifact.isCurrent text) : artifact.BuiltFrom text := by
  obtain ⟨own, known, built⟩ := genuine
  have same : Digest.fingerprint own = Digest.fingerprint text := by
    rw [← built.fingerprint_eq]
    exact eq_of_beq current
  rw [← distinct own text known given same]
  exact built

end Texts

/-! ### Contracts -/

/-- Whether an action neither reads nor changes documents and artifacts, fetches and publishes nothing, and is no event.
-/
def Action.isPlain : Action → Bool
  | .isCancelled _ | .enterGate | .leaveGate | .log .. | .sleep _ => true
  | _ => false

/-- What may be published: under which number, about which document, and with which markers. -/
abbrev Licence := Nat → Uri → List Editor.Marker → Prop

/-- The error of work that was given up; only work under a ticket is. -/
def GivenUp (ticket : Option Ticket) (error : WorkspaceError) : Prop := error = .cancelled ∧ ticket ≠ none

/-- What fetching under a ticket may come to. -/
def Fetched (ticket : Option Ticket) (outcome : Except WorkspaceError Table) : Prop :=
  ∀ error, outcome = .error error → (∃ cause, error = .metadata cause) ∨ GivenUp ticket error

/-- The job keeps only genuine artifacts, publishes only what it may, and ends with a value that has the property,
provided that the documents and artifacts it finds are genuine. -/
inductive Job.Ensures (texts : Texts) (may : Licence) (post : α → Prop) : Job α → Prop where
  | done (holds : post value) : Ensures texts may post (.done value)
  | readDocument {next : Option Document → Job α}
      (rest : ∀ found, (∀ document ∈ found, texts.Has uri document) → Ensures texts may post (next found)) :
      Ensures texts may post (.act (.readDocument uri) next)
  | readArtifact {next : Option Artifact → Job α}
      (rest : ∀ found, (∀ kept ∈ found, texts.Genuine uri kept) → Ensures texts may post (next found)) :
      Ensures texts may post (.act (.readArtifact uri) next)
  | keepArtifact {next : Unit → Job α} (genuine : texts.Genuine uri artifact)
      (rest : Ensures texts may post (next ())) :
      Ensures texts may post (.act (.keepArtifact uri artifact) next)
  | fetch {next : Except WorkspaceError Table → Job α}
      (rest : ∀ outcome, Fetched ticket outcome → Ensures texts may post (next outcome)) :
      Ensures texts may post (.act (.fetch written ticket) next)
  | publish {next : Unit → Job α} (allowed : may turn uri markers) (rest : Ensures texts may post (next ())) :
      Ensures texts may post (.act (.publish turn uri markers) next)
  | plain {next : action.Result → Job α} (plain : action.isPlain = true)
      (rest : ∀ result, Ensures texts may post (next result)) : Ensures texts may post (.act action next)

theorem Job.Ensures.mono {job : Job α} (ensures : job.Ensures texts may P)
    (more : ∀ turn uri markers, may turn uri markers → may' turn uri markers) (weaker : ∀ value, P value → Q value) :
    job.Ensures texts may' Q := by
  induction ensures with
  | done holds => exact .done (weaker _ holds)
  | readDocument _ ih => exact .readDocument ih
  | readArtifact _ ih => exact .readArtifact ih
  | keepArtifact genuine _ ih => exact .keepArtifact genuine ih
  | fetch _ ih => exact .fetch ih
  | publish allowed _ ih => exact .publish (more _ _ _ allowed) ih
  | plain plain _ ih => exact .plain plain ih

theorem Job.Ensures.bind {P : α → Prop} {Q : β → Prop} {job : Job α} (first : job.Ensures texts may P)
    (second : ∀ value, P value → (f value).Ensures texts may Q) : (job.bind f).Ensures texts may Q := by
  induction first with
  | done holds => exact second _ holds
  | readDocument _ ih => exact .readDocument ih
  | readArtifact _ ih => exact .readArtifact ih
  | keepArtifact genuine _ ih => exact .keepArtifact genuine ih
  | fetch _ ih => exact .fetch ih
  | publish allowed _ ih => exact .publish allowed ih
  | plain plain _ ih => exact .plain plain ih

def Attempt.Ensures (texts : Texts) (may : Licence) (fails : WorkspaceError → Prop) (post : α → Prop)
    (attempt : Attempt α) : Prop :=
  attempt.run.Ensures texts may fun
    | .ok value => post value
    | .error error => fails error

namespace Attempt.Ensures

variable {texts : Texts} {may : Licence} {fails : WorkspaceError → Prop} {P : α → Prop}

theorem mono {attempt : Attempt α} (ensures : Ensures texts may fails P attempt)
    (failing : ∀ error, fails error → fails' error) (weaker : ∀ value, P value → P' value) :
    Ensures texts may fails' P' attempt := by
  refine Job.Ensures.mono ensures (fun _ _ _ allowed => allowed) fun outcome holds => ?_
  cases outcome with
  | error error => exact failing error holds
  | ok value => exact weaker value holds

theorem pure (holds : P value) : Ensures texts may fails P (Pure.pure value) := .done holds

theorem throw (holds : fails error) : Ensures texts may fails P (throw error : Attempt α) := .done holds

theorem bind {attempt : Attempt α} (first : Ensures texts may fails P attempt)
    (second : ∀ value, P value → Ensures texts may fails Q (f value)) : Ensures texts may fails Q (attempt >>= f) := by
  refine Job.Ensures.bind first fun outcome holds => ?_
  cases outcome with
  | error error => exact .done holds
  | ok value => exact second value holds

theorem perform {action : Action} {f : action.Result → Attempt β} (plain : action.isPlain)
    (rest : ∀ result, Ensures texts may fails Q (f result)) :
    Ensures texts may fails Q (Attempt.perform action >>= f) :=
  Job.Ensures.plain plain rest

theorem fetch {f : Except WorkspaceError Table → Attempt β}
    (rest : ∀ outcome, Fetched ticket outcome → Ensures texts may fails Q (f outcome)) :
    Ensures texts may fails Q (Attempt.perform (.fetch written ticket) >>= f) := Job.Ensures.fetch rest

theorem readDocument
    (rest : ∀ found, (∀ document ∈ found, texts.Has uri document) → Ensures texts may fails Q (f found)) :
    Ensures texts may fails Q (Attempt.perform (.readDocument uri) >>= f) := Job.Ensures.readDocument rest

theorem readArtifact (rest : ∀ found, (∀ kept ∈ found, texts.Genuine uri kept) → Ensures texts may fails Q (f found)) :
    Ensures texts may fails Q (Attempt.perform (.readArtifact uri) >>= f) := Job.Ensures.readArtifact rest

theorem keepArtifact (genuine : texts.Genuine uri artifact) (rest : Ensures texts may fails Q (f ())) :
    Ensures texts may fails Q (Attempt.perform (.keepArtifact uri artifact) >>= f) :=
  Job.Ensures.keepArtifact genuine rest

end Attempt.Ensures

/-! ### Files -/

variable {texts : Texts} {may : Licence}

theorem Supply.note_error {supply : Supply} (noted : supply.note path span outcome = .error error) :
    outcome = .error error ∧ ∀ cause, error ≠ .metadata cause := by
  unfold Supply.note at noted
  split at noted
  · cases noted
  · split at noted <;> cases noted
  · rename_i other
    cases noted
    exact ⟨rfl, other⟩

theorem ensures_gather (ticket : Option Ticket) (supply : Supply) (paths : List (String × Span)) :
    (gather ticket supply paths).Ensures texts may (GivenUp ticket) fun _ => True := by
  induction paths generalizing supply with
  | nil => exact .pure trivial
  | cons path rest ih =>
    refine .fetch fun outcome fetched => ?_
    split
    · exact ih _
    · rename_i noted
      obtain ⟨failed, other⟩ := Supply.note_error noted
      exact .throw ((fetched _ failed).resolve_left fun ⟨cause, same⟩ => other cause same)

theorem ensures_buildFile (given : texts document.uri document.text) (ticket : Option Ticket) :
    (buildFile document ticket).Ensures texts may (GivenUp ticket) fun artifact =>
      artifact.BuiltFrom document.text := by
  refine .bind (ensures_gather _ _ _) fun supply _ => ?_
  have built : (supply.artifact document.text (Script.read document.text)).BuiltFrom document.text := ⟨supply, rfl⟩
  split
  · exact .keepArtifact ⟨_, given, built⟩ (.pure built)
  · exact .pure built

/-- What `parseFile` does once it has read the document. -/
def parseDocument (uri : Uri) (document : Document) (ticket : Option Ticket) : Attempt Artifact := do
  match ← Attempt.perform (.readArtifact uri) with
  | some kept => if kept.isCurrent document.text then return kept else buildFile document ticket
  | none => buildFile document ticket

theorem parseFile_run (uri : Uri) (ticket : Option Ticket) :
    (parseFile uri ticket).run = .act (.readDocument uri) fun found =>
      match found with
      | none => .done (.error (.documentNotFound uri))
      | some document => (parseDocument uri document ticket).run := by
  refine congrArg (Job.act _) (funext fun found => ?_)
  cases found <;> rfl

theorem ensures_parseDocument {document : Document} (given : texts.Has uri document) (ticket : Option Ticket) :
    (parseDocument uri document ticket).Ensures texts may (GivenUp ticket) fun artifact =>
      texts.Distinct uri → artifact.BuiltFrom document.text := by
  obtain ⟨rfl, known⟩ := given
  have builds : (buildFile document ticket).Ensures texts may (GivenUp ticket) fun artifact =>
      texts.Distinct document.uri → artifact.BuiltFrom document.text :=
    (ensures_buildFile known ticket).mono (fun _ failed => failed) fun _ built _ => built
  refine .readArtifact fun found genuine => ?_
  cases found with
  | none => exact builds
  | some kept =>
    dsimp only
    split
    · rename_i current
      exact .pure fun distinct => (genuine kept rfl).builtFrom distinct known current
    · exact builds

theorem ensures_parseFile (uri : Uri) (ticket : Option Ticket) :
    (parseFile uri ticket).Ensures texts may (fun _ => True) fun _ => True := by
  refine .readDocument fun found given => ?_
  cases found with
  | none => exact .throw trivial
  | some document =>
      exact (ensures_parseDocument (given document rfl) ticket).mono (fun _ _ => trivial) fun _ _ => trivial

theorem ensures_hover (uri : Uri) (position : Position) :
    (Hover.at? uri position).Ensures texts may (fun _ => True) fun _ => True := by
  refine .bind (ensures_parseFile uri none) fun file _ => ?_
  split
  · exact .throw trivial
  · split
    · rename_i target _
      cases target with
      | table written =>
        refine Job.Ensures.fetch fun outcome _ => ?_
        cases outcome <;> exact .done trivial
      | call function => exact .pure trivial
      | field type => exact .pure trivial
      | column column => exact .fetch fun _ _ => .pure trivial
    · exact .pure trivial

/-! ### Runs -/

/-- What `diagnose` does once it has read the document. -/
def diagnoseDocument (uri : Uri) (document : Document) (ticket : Option Ticket) : Attempt (List Editor.Marker) := do
  let file ← parseDocument uri document ticket
  if ← Attempt.perform (.isCancelled ticket) then throw .cancelled
  return file.diagnostics.map (Editor.Marker.of file.text)

theorem ensures_diagnoseDocument {document : Document} (given : texts.Has uri document) (ticket : Option Ticket) :
    (diagnoseDocument uri document ticket).Ensures texts may (fun _ => True) fun markers =>
      texts.Distinct uri → DiagnosedFrom document.text markers := by
  have parses : (parseDocument uri document ticket).Ensures texts may (fun _ => True) fun file =>
      texts.Distinct uri → file.BuiltFrom document.text :=
    (ensures_parseDocument given ticket).mono (fun _ _ => trivial) fun _ built => built
  refine .bind parses fun file built => .perform rfl fun cancelled => ?_
  split
  · exact .throw trivial
  · refine .pure fun distinct => ⟨file, built distinct, ?_⟩
    rw [(built distinct).text_eq]

theorem publishRun_act (uri : Uri) (ticket : Ticket) :
    publishRun uri ticket = .act (.readDocument uri) fun found =>
      match found with
      | none => .done ()
      | some document => (diagnoseDocument uri document (some ticket)).run.bind (conclude uri ticket) := by
  refine congrArg (Job.act _) (funext fun found => ?_)
  cases found <;> rfl

theorem ensures_announce (allowed : may ticket.number uri markers) :
    (announce uri ticket markers).Ensures texts may fun _ => True := by
  refine .plain rfl fun _ => .plain rfl fun cancelled => ?_
  cases cancelled with
  | true => exact .plain rfl fun _ => .done trivial
  | false => exact .publish allowed (.plain rfl fun _ => .done trivial)

theorem ensures_report {ticket : Ticket} (given : texts.Has uri document)
    (allowed : ∀ markers, (texts.Distinct uri → DiagnosedFrom document.text markers) → may ticket.number uri markers) :
    ((diagnoseDocument uri document (some ticket)).run.bind (conclude uri ticket)).Ensures texts may fun _ => True := by
  refine Job.Ensures.bind (ensures_diagnoseDocument given (some ticket)) fun outcome diagnosed => ?_
  cases outcome with
  | error error => exact .done trivial
  | ok markers => exact ensures_announce (allowed markers diagnosed)

theorem ensures_publishRun (allowed : ∀ markers, may ticket.number uri markers) :
    (publishRun uri ticket).Ensures texts may fun _ => True := by
  rw [publishRun_act]
  refine .readDocument fun found given => ?_
  cases found with
  | none => exact .done trivial
  | some document => exact ensures_report (given document rfl) fun markers _ => allowed markers

end SqlLens
