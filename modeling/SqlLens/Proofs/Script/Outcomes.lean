import Mathlib.Data.List.Forall2
import SqlLens.Proofs.Analysis.Inversion
import SqlLens.Proofs.Script.SourceOrder
import SqlLens.Script.Artifact

/-!
What comes of each statement of a text.

A chunk of a text that has tokens is read with a problem, or cannot be resolved, or gives an output, and the artifact of
the text holds the problems, the failures and the outputs of its chunks and no others (`Artifact.statements_come_out`).
At least a semicolon lies between two outputs, so that an offset is in one of them at most.
-/

namespace SqlLens

open List
open Surface (Node)

namespace Script

/-- What comes of a statement: a problem in reading it, a failure to resolve it, or an output. -/
abbrev Fate := Except Problem (Except Analysis.Failure Resolved.Statement)

/-- What comes of a chunk of lexemes. An output stands where the tokens of its chunk do. -/
inductive Befalls (index : LineIndex) (tables : Analysis.Lookup) (chunk : List Lexeme) : Fate → Prop
  | unread (failed : outcome index chunk = some (.error problem)) : Befalls index tables chunk (.error problem)
  | unresolved {failure : Analysis.Failure} (read : outcome index chunk = some (.ok node))
    (failed : ((Analysis.statement node).outcome tables state).1 = .error failure) :
    Befalls index tables chunk (.ok (.error failure))
  | resolved (read : outcome index chunk = some (.ok node))
    (made : ((Analysis.statement node).outcome tables state).1 = .ok output)
    (tokens : chunk.filterMap Lexeme.piece? = first :: others) (place : output.span = some (extent first others)) :
    Befalls index tables chunk (.ok (.ok output))

variable {index : LineIndex} {tables : Analysis.Lookup}

theorem befalls_of_read (read : outcome index chunk = some (.ok node)) (state : Analysis.State) :
    Befalls index tables chunk (.ok ((Analysis.statement node).outcome tables state).1) := by
  rcases ran : (Analysis.statement node).outcome tables state with ⟨failure | output, after⟩
  · exact .unresolved read (congrArg Prod.fst ran)
  · obtain ⟨_, _, tokens, span⟩ := tree_span read
    have place := (Analysis.succeeds_statement_at ran).1
    exact .resolved read (congrArg Prod.fst ran) tokens (place.trans span)

theorem outcome_eq_none {chunk : List Lexeme} : outcome index chunk = none ↔ chunk.any Lexeme.isSolid = false := by
  rw [outcome, any_eq_false]
  split
  · rename_i tokens
    simpa [Lexeme.isSolid] using filterMap_eq_nil_iff.mp tokens
  · rename_i first others tokens
    have listed : first ∈ chunk.filterMap Lexeme.piece? := by rw [tokens]; exact mem_cons_self
    obtain ⟨lexeme, inside, same⟩ := mem_filterMap.mp listed
    simpa using ⟨lexeme, inside, by rw [Lexeme.isSolid, same]; rfl⟩

theorem chunks_befall (cut : List (List Lexeme)) (state : Analysis.State) :
    ∃ fates : List Fate, Forall₂ (Befalls index tables) (cut.filter (·.any Lexeme.isSolid)) fates ∧
      problemsOf fates = problemsOf (cut.filterMap (outcome index)) ∧
      made fates = (Analysis.statements tables state (made (cut.filterMap (outcome index)))).1 := by
  induction cut generalizing state with
  | nil => exact ⟨[], .nil, rfl, rfl⟩
  | cons chunk rest ih =>
    cases here : outcome index chunk with
    | none =>
      rw [filterMap_cons_none here, filter_cons_of_neg (by simp [outcome_eq_none.mp here])]
      exact ih state
    | some result =>
      have solid : chunk.any Lexeme.isSolid = true := by
        rw [← Bool.not_eq_false, ← @outcome_eq_none index, here]
        rintro ⟨⟩
      rw [filterMap_cons_some here, filter_cons_of_pos (by exact solid)]
      cases result with
      | error problem =>
        obtain ⟨fates, befall, problems, results⟩ := ih state
        exact ⟨.error problem :: fates, .cons (.unread here) befall, congrArg (problem :: ·) problems, results⟩
      | ok node =>
        obtain ⟨fates, befall, problems, results⟩ := ih ((Analysis.statement node).outcome tables state).2
        exact ⟨.ok _ :: fates, .cons (befalls_of_read here state) befall, problems, congrArg (_ :: ·) results⟩

theorem fates_pairwise (befall : Forall₂ (Befalls index tables) cut fates) (apart : cut.Pairwise R)
    (step : ∀ {first second fate other}, R first second → Befalls index tables first fate →
      Befalls index tables second other → S fate other) : fates.Pairwise S := by
  rw [pairwise_iff_getElem] at apart ⊢
  intro i j _ _ before
  obtain ⟨same, each⟩ := forall₂_iff_get.mp befall
  exact step (apart i j (by omega) (by omega) before) (each i (by omega) (by omega)) (each j (by omega) (by omega))

end Script

namespace Artifact

open Script

/-- Each chunk of a text that has tokens comes to a problem, a failure or an output, and nothing else comes of the text.
The outputs stand in the order of the text with at least one byte between them; an offset is in one of them at most,
which is the one that is found there. -/
theorem statements_come_out {text : String} {lexemes : List Lexeme} (scanned : scan text = .ok lexemes)
    (tables : Analysis.Lookup) :
    ∃ fates : List Fate,
      Forall₂ (Befalls (LineIndex.of text.toList) tables) ((chunks lexemes).filter (·.any Lexeme.isSolid)) fates ∧
      (analyze text tables).diagnostics = (problemsOf fates).map Problem.diagnostic ++
        (made fates).filterMap (fun | .error failure => some failure.diagnostic | .ok _ => none) ∧
      (analyze text tables).outputs = (made fates).filterMap Except.toOption ∧
      ((analyze text tables).outputs.Pairwise fun first second =>
        ∃ left ∈ first.span, ∃ right ∈ second.span, left.stop < right.start) ∧
      ∀ offset,
        ((analyze text tables).outputs.Pairwise fun first second =>
          ¬(first.contains offset = true ∧ second.contains offset = true)) ∧
        ∀ output ∈ (analyze text tables).outputs, output.contains offset = true →
          (analyze text tables).outputAt? offset = some output := by
  obtain ⟨-, -, problems⟩ := read_of_scan scanned
  have tree : (read text).tree.children = made (outcomes text lexemes) := by
    rw [tree_eq, statementTrees, scanned]
    rfl
  obtain ⟨fates, befall, same, results⟩ := @chunks_befall (LineIndex.of text.toList) tables (chunks lexemes) .initial
  have listed : (analyze text tables).outputs = (made fates).filterMap Except.toOption := by
    rw [results]
    simp only [analyze, build, Analysis.script, tree]
    refine List.filterMap_congr fun result _ => ?_
    cases result <;> rfl
  have apart : (analyze text tables).outputs.Pairwise fun first second =>
      ∃ left ∈ first.span, ∃ right ∈ second.span, left.stop < right.start := by
    rw [listed, made_eq_filterMap, List.filterMap_filterMap, List.pairwise_filterMap]
    refine fates_pairwise befall ((chunks_pairwise (laid_of_scan scanned)).filter _) ?_
    rintro _ _ _ _ between (_ | _ | ⟨_, _, firstTokens, left⟩) (_ | _ | ⟨_, _, secondTokens, right⟩) _ ⟨⟩ _ ⟨⟩
    obtain ⟨-, before, beforeIn, stops⟩ := extent_ends firstTokens
    obtain ⟨⟨after, afterIn, starts⟩, -⟩ := extent_ends secondTokens
    refine ⟨_, left, _, right, ?_⟩
    rw [stops, starts]
    exact between before beforeIn after afterIn
  refine ⟨fates, befall, ?_, listed, apart, fun offset => ?_⟩
  · simp only [analyze, build, Analysis.script, tree, problems, same, results, List.append_nil]
    rfl
  · have alone : (analyze text tables).outputs.Pairwise fun first second =>
        ¬(first.contains offset = true ∧ second.contains offset = true) := by
      refine apart.imp ?_
      rintro first second ⟨left, firstSpan, right, secondSpan, between⟩ ⟨inFirst, inSecond⟩
      simp only
        [Resolved.Statement.contains, Option.mem_def.mp firstSpan, Option.mem_def.mp secondSpan, Option.any_some,
        Span.contains, Bool.and_eq_true, decide_eq_true_eq] at inFirst inSecond
      omega
    refine ⟨alone, fun output inside within => ?_⟩
    obtain ⟨before, after, split⟩ := List.append_of_mem inside
    rw [split, List.pairwise_append] at alone
    refine List.find?_eq_some_iff_append.mpr ⟨within, before, after, split, fun other earlier => ?_⟩
    have := alone.2.2 other earlier output List.mem_cons_self
    simpa [within] using this

private def mixedScript : String := "SELECT 1;SELECT x; SELECT;"

theorem mixedScript_comes_out :
    ∃ lexemes fates, scan mixedScript = .ok lexemes ∧ (chunks lexemes).length = 4 ∧
      Forall₂ (Befalls (LineIndex.of mixedScript.toList) fun _ => none)
        ((chunks lexemes).filter (·.any Lexeme.isSolid)) fates ∧
      (analyze mixedScript fun _ => none).outputs = (made fates).filterMap Except.toOption ∧
      (analyze mixedScript fun _ => none).outputs.length = 1 ∧
          (analyze mixedScript fun _ => none).diagnostics.length = 2 := by
  have four : (scan mixedScript).toOption.map (List.length ∘ chunks) = some 4 := by decide +kernel
  cases scanned : scan mixedScript with
  | error error => rw [scanned] at four; cases four
  | ok lexemes =>
    rw [scanned] at four
    obtain ⟨fates, befall, -, listed, -⟩ := statements_come_out scanned fun _ => none
    exact ⟨lexemes, fates, rfl, Option.some.inj four, befall, listed, by decide +kernel, by decide +kernel⟩

end Artifact

end SqlLens
