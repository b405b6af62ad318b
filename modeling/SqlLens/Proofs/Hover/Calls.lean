import SqlLens.Hover.Target
import SqlLens.Proofs.Analysis.Outcome

/-!
Which call is shown at an offset.

Calls over windows are computed below the rows that use them, apart from the expressions they are written in. So the
calls at an offset are looked up in two lists, each in the order of the resolved tree, and the narrower of the two last
ones is shown. It is the narrowest of all if no call of a list comes after a narrower one. That fails where a call over
a window is an argument of another one, or has calls as arguments.
-/

namespace SqlLens.Hover

open List
open Analysis (Succeeds succeeds_of_toOption)
open Resolved (Statement)

/-- The ways to pick the function of a call: one without a window, or one over a window. -/
def callKinds : List (Resolved.Node → Option Function) := [Resolved.Node.call?, Resolved.Node.analyticCall?]

def callsAt (output : Statement) (offset : Nat) : List (Function × Option Span) :=
  callKinds.flatMap (output.covering offset)

/-- The calls of either kind at an offset stand in such an order that none comes after a narrower one. -/
def Narrowing (output : Statement) (offset : Nat) : Prop :=
  ∀ pick ∈ callKinds, (output.covering offset pick).Pairwise fun earlier later => isNarrower earlier.2 later.2 = false

instance (output : Statement) (offset : Nat) : Decidable (Narrowing output offset) :=
  inferInstanceAs (Decidable (∀ pick ∈ callKinds, _))

@[simp] theorem isNarrower_irrefl (a : Option Span) : isNarrower a a = false := by
  cases a <;> simp [isNarrower]

theorem isNarrower_asymm (narrower : isNarrower a b) : isNarrower b a = false := by
  cases a <;> cases b <;> simp_all [isNarrower]
  omega

theorem isNarrower_trans (first : isNarrower b a = false) (second : isNarrower c b = false) :
    isNarrower c a = false := by
  cases a <;> cases b <;> cases c <;> simp_all [isNarrower]
  omega

variable {output : Statement} {offset : Nat} {function : Function}

theorem calledFunction?_eq_some (shown : calledFunction? output offset = some function) : ∃ place,
    (∃ pick ∈ callKinds, output.deepest? offset pick = some (function, place)) ∧
      ∀ pick ∈ callKinds, ∀ last, output.deepest? offset pick = some last → isNarrower last.2 place = false := by
  unfold calledFunction? at shown
  simp only [callKinds, forall_mem_cons]
  split at shown
  · rename_i plain windowed lastPlain lastWindowed
    split at shown
    · rename_i narrower
      cases shown
      exact ⟨windowed.2,
        by simp [lastWindowed], by simp [-Prod.forall, lastPlain, lastWindowed, isNarrower_asymm narrower]⟩
    · rename_i wide
      cases shown
      exact ⟨plain.2, by simp [lastPlain], by simp [-Prod.forall, lastPlain, lastWindowed, wide]⟩
  · rename_i plain lastPlain none
    cases shown
    exact ⟨plain.2, by simp [lastPlain], by simp [-Prod.forall, lastPlain, none]⟩
  · rename_i windowed none lastWindowed
    cases shown
    exact ⟨windowed.2, by simp [lastWindowed], by simp [-Prod.forall, none, lastWindowed]⟩
  · cases shown

theorem calledFunction?_eq_none (none : calledFunction? output offset = none) : callsAt output offset = [] := by
  have last : ∀ pick ∈ callKinds, output.deepest? offset pick = .none := by
    unfold calledFunction? at none
    simp only [callKinds, mem_cons, not_mem_nil]
    grind
  exact flatMap_eq_nil_iff.mpr fun pick kind => getLast?_eq_none_iff.mp (last pick kind)

theorem narrowest_last {pick : Resolved.Node → Option Function}
    (ordered : (output.covering offset pick).Pairwise fun earlier later => isNarrower earlier.2 later.2 = false)
    (inside : call ∈ output.covering offset pick) :
    ∃ last, output.deepest? offset pick = some last ∧ isNarrower call.2 last.2 = false := by
  unfold Statement.deepest?
  rcases eq_nil_or_concat (output.covering offset pick) with none | ⟨front, last, split⟩
  · rw [none] at inside
    cases inside
  · rw [concat_eq_append] at split
    rw [split] at ordered inside ⊢
    refine ⟨last, getLast?_concat, ?_⟩
    rcases mem_append.mp inside with earlier | same
    · exact (pairwise_append.mp ordered).2.2 _ earlier _ (mem_singleton_self _)
    · cases mem_singleton.mp same
      exact isNarrower_irrefl _

/-- A function is shown exactly where there is a call. It is that of a call at the offset, the narrower one of the last
call without a window and the last one over a window; no call there is narrower if none comes after a narrower one of
its kind. -/
theorem shown_call_narrower_of_last (output : Statement) (offset : Nat) :
    ((calledFunction? output offset).isSome = true ↔ callsAt output offset ≠ []) ∧
    ∀ function, calledFunction? output offset = some function → ∃ place, (function, place) ∈ callsAt output offset ∧
      (∀ pick ∈ callKinds, ∀ last, output.deepest? offset pick = some last → isNarrower last.2 place = false) ∧
      (Narrowing output offset → ∀ call ∈ callsAt output offset, isNarrower call.2 place = false) := by
  have part {function} (shown : calledFunction? output offset = some function) : ∃ place,
      (function, place) ∈ callsAt output offset ∧ ∀ pick ∈ callKinds, ∀ last,
        output.deepest? offset pick = some last → isNarrower last.2 place = false := by
    obtain ⟨place, ⟨pick, kind, last⟩, narrow⟩ := calledFunction?_eq_some shown
    exact ⟨place, List.mem_flatMap.mpr ⟨pick, kind, List.mem_of_getLast? last⟩, narrow⟩
  refine ⟨⟨fun shown => ?_, fun some => ?_⟩, fun function shown => ?_⟩
  · obtain ⟨function, shown⟩ := Option.isSome_iff_exists.mp shown
    obtain ⟨place, call, -⟩ := part shown
    exact List.ne_nil_of_mem call
  · exact Option.isSome_iff_ne_none.mpr fun none => some (calledFunction?_eq_none none)
  · obtain ⟨place, call, narrow⟩ := part shown
    refine ⟨place, call, narrow, fun ordered other called => ?_⟩
    obtain ⟨pick, kind, inside⟩ := List.mem_flatMap.mp called
    obtain ⟨last, found, wide⟩ := narrowest_last (ordered pick kind) inside
    exact isNarrower_trans (narrow pick kind last found) wide

/-- Of the calls in `SELECT ABS(LENGTH('a'))` the inner one is the narrowest at its name. -/
theorem inner_call_is_narrowest : ∃ statement ∈ (Script.read "SELECT ABS(LENGTH('a'))").tree.children, ∃ output after,
    Succeeds (fun _ => none) (Analysis.statement statement) .initial output after ∧ ∃ function place,
      calledFunction? output 13 = some function ∧ (function, place) ∈ callsAt output 13 ∧
        ∀ call ∈ callsAt output 13, isNarrower call.2 place = false := by
  have found : ((Script.read "SELECT ABS(LENGTH('a'))").tree.children.any fun statement =>
      ((Analysis.statement statement).outcome (fun _ => none) .initial).1.toOption.any fun output =>
        (calledFunction? output 13).isSome && decide (Narrowing output 13)) = true := by decide +kernel
  obtain ⟨statement, listed, holds⟩ := List.any_eq_true.mp found
  obtain ⟨output, given, holds⟩ := (Option.any_eq_true _ _).mp holds
  rw [Bool.and_eq_true, decide_eq_true_eq] at holds
  obtain ⟨function, shown⟩ := Option.isSome_iff_exists.mp holds.1
  obtain ⟨place, call, -, narrowest⟩ := (shown_call_narrower_of_last output 13).2 function shown
  exact ⟨statement, listed, output, _, succeeds_of_toOption given, function, place, shown, call, narrowest holds.2⟩

/-- A window takes its call out of the condition, and with it the call of `LENGTH`, at whose name `SUM` is shown. -/
theorem windowed_argument_hidden : ∃ statement ∈ (Script.read
    "SELECT n FROM UNNEST(['a']) AS n QUALIFY ABS(SUM(LENGTH(n)) OVER ()) > 1").tree.children, ∃ output after,
    Succeeds (fun _ => none) (Analysis.statement statement) .initial output after ∧
      ∃ shown, calledFunction? output 50 = some shown ∧ ∃ inner ∈ callsAt output 50,
        ∀ call ∈ callsAt output 50, call.1.name = shown.name → isNarrower inner.2 call.2 = true := by
  have found : ((Script.read
      "SELECT n FROM UNNEST(['a']) AS n QUALIFY ABS(SUM(LENGTH(n)) OVER ()) > 1").tree.children.any fun statement =>
      ((Analysis.statement statement).outcome (fun _ => none) .initial).1.toOption.any fun output =>
        (calledFunction? output 50).any fun shown => (callsAt output 50).any fun inner =>
          (callsAt output 50).all fun call => call.1.name = shown.name → isNarrower inner.2 call.2 = true) = true := by
    decide +kernel
  obtain ⟨statement, listed, holds⟩ := List.any_eq_true.mp found
  obtain ⟨output, given, holds⟩ := (Option.any_eq_true _ _).mp holds
  simp only [Option.any_eq_true, List.any_eq_true, List.all_eq_true, decide_eq_true_eq] at holds
  exact ⟨statement, listed, output, _, succeeds_of_toOption given, holds⟩

end SqlLens.Hover
