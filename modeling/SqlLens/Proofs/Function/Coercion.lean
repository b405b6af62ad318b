import SqlLens.Function.Basic

/-!
Types that fit by coercion.

A type coerces to itself, so arguments that fit a signature exactly also fit it by coercion. Hence there is one way to
say what a call may come to, whichever pass over the signatures found the one it takes (`Function.Gives`).
-/

namespace SqlLens

namespace SqlType

theorem coercesTo_refl : (type : SqlType) → type.coercesTo type
  | scalar _ => by simp [coercesTo]
  | struct _ => by simp [coercesTo]
  | array element => by
    rw [coercesTo]
    exact coercesTo_refl element

theorem unknown_coercesTo (type : SqlType) : unknown.coercesTo type := by
  cases type <;> simp [coercesTo]

theorem coercesTo_of_supertype {left : SqlType} (found : left.supertype? right = some common) :
    left.coercesTo common ∧ right.coercesTo common := by
  unfold supertype? at found
  split at found
  · rename_i same
    cases found
    rw [same]
    exact ⟨unknown_coercesTo _, coercesTo_refl _⟩
  · split at found
    · rename_i same
      cases found
      rw [same]
      exact ⟨coercesTo_refl _, unknown_coercesTo _⟩
    · split at found
      · rename_i widens
        cases found
        exact ⟨widens, coercesTo_refl _⟩
      · split at found
        · rename_i widens
          cases found
          exact ⟨coercesTo_refl _, widens⟩
        · cases found

end SqlType

theorem ParamType.accepts_of_exact {param : ParamType} (accepted : param.accepts true argument) :
    param.accepts false argument := by
  cases param with
  | concrete type =>
    simp only [accepts, if_true, Bool.or_eq_true, decide_eq_true_eq] at accepted
    rcases accepted with rfl | rfl
    · exact SqlType.coercesTo_refl _
    · exact SqlType.unknown_coercesTo _
  | any | anyArray | datePart => exact accepted

theorem Signature.fits_of_exact {params : List Param} (fitting : fits true params arguments) :
    fits false params arguments := by
  fun_induction fits true params arguments with
  | case1 arguments => exact fitting
  | case2 type params argument rest ih | case4 type params argument rest ih =>
    obtain ⟨first, others⟩ := Bool.and_eq_true_iff.mp fitting
    rw [fits, ParamType.accepts_of_exact first, ih others]
    rfl
  | case3 => cases fitting
  | case5 type params ih =>
    rw [fits]
    exact ih fitting
  | case6 type params arguments ih =>
    obtain ⟨all, others⟩ := Bool.and_eq_true_iff.mp fitting
    have accepted : arguments.all (type.accepts false) = true :=
      List.all_eq_true.mpr fun argument inside => ParamType.accepts_of_exact (List.all_eq_true.mp all argument inside)
    rw [fits, accepted, ih others]
    rfl

namespace Function

/-- Some signature of the function takes the arguments by coercion and has the type as its result. -/
def Gives (function : Function) (arguments : List SqlType) (type : SqlType) : Prop :=
  ∃ signature ∈ function.signatures, signature.accepts false arguments = true ∧ signature.resultType arguments = type

theorem gives_of_resolve {function : Function} (resolved : function.resolve? arguments = some (signature, type)) :
    function.Gives arguments type := by
  obtain ⟨found, taken, same⟩ := Option.map_eq_some_iff.mp resolved
  cases same
  rcases Option.or_eq_some_iff.mp taken with exactly | ⟨-, coerced⟩
  · have fitting := List.find?_some exactly
    exact ⟨signature, List.mem_of_find?_eq_some exactly, Signature.fits_of_exact fitting, rfl⟩
  · have fitting := List.find?_some coerced
    exact ⟨signature, List.mem_of_find?_eq_some coerced, fitting, rfl⟩

end Function

end SqlLens
