import Mathlib.Data.List.Forall2
import SqlLens.Function.Builtin
import SqlLens.Proofs.Function.Coercion

/-!
Which signature a call takes.

The parameters of a signature stand in order: those that are required, those that may be left out, and perhaps one that
takes the rest. So arguments fit by their number and by the slot of each (`fits_inOrder_iff`), although `fits` goes
through both lists at once.
-/

namespace SqlLens

namespace Signature

variable {exact : Bool} {required optional : List ParamType} {rest : Option ParamType} {arguments : List SqlType}

/-- Required parameters, optional ones, and perhaps one for the rest. -/
def inOrder (required optional : List ParamType) (rest : Option ParamType) : List Param :=
  required.map .required ++ (optional.map .optional ++ rest.toList.map .repeated)

def slot? (required optional : List ParamType) (rest : Option ParamType) (index : Nat) : Option ParamType :=
  (required ++ optional)[index]?.or rest

def AllAccepted (exact : Bool) (slot : Nat → Option ParamType) (arguments : List SqlType) : Prop :=
  ∀ index argument, arguments[index]? = some argument → ∃ param ∈ slot index, param.accepts exact argument = true

theorem allAccepted_cons {slot : Nat → Option ParamType} : AllAccepted exact slot (argument :: arguments) ↔
    (∃ param ∈ slot 0, param.accepts exact argument) ∧ AllAccepted exact (fun index => slot (index + 1)) arguments := by
  constructor
  · intro all
    exact ⟨all 0 argument rfl, fun index other there => all (index + 1) other there⟩
  · rintro ⟨first, others⟩ (_ | index) other there
    · cases there
      exact first
    · exact others index other there

theorem fits_rest_iff : fits exact (rest.toList.map .repeated) arguments ↔
    (rest = none → arguments = []) ∧ AllAccepted exact (fun _ => rest) arguments := by
  cases rest with
  | none => cases arguments <;> simp [fits, AllAccepted]
  | some type =>
    have each : arguments.all (type.accepts exact) = true ↔ AllAccepted exact (fun _ => some type) arguments := by
      simp only [AllAccepted, List.all_eq_true, List.mem_iff_getElem?, Option.mem_some_iff, exists_eq_left']
      constructor
      · exact fun all index argument there => all argument ⟨index, there⟩
      · rintro all argument ⟨index, there⟩
        exact all index argument there
    simpa [fits] using each

theorem fits_optional_iff : fits exact (inOrder [] optional rest) arguments ↔
    (rest = none → arguments.length ≤ optional.length) ∧ AllAccepted exact (slot? [] optional rest) arguments := by
  induction optional generalizing arguments with
  | nil =>
    have same : slot? [] [] rest = fun _ => rest := rfl
    rw [same]
    simpa [inOrder] using fits_rest_iff
  | cons type optional ih =>
    cases arguments with
    | nil =>
      have none := (@ih []).mpr ⟨fun _ => Nat.zero_le _, by simp [AllAccepted]⟩
      simpa [AllAccepted, inOrder, fits] using none
    | cons argument arguments =>
      have later : slot? [] optional rest = fun index => slot? [] (type :: optional) rest (index + 1) := rfl
      change (type.accepts exact argument && fits exact (inOrder [] optional rest) arguments) = true ↔ _
      rw [Bool.and_eq_true, ih, allAccepted_cons, ← later]
      simp [slot?, and_left_comm]

/-- Arguments fit if there are enough of them and not too many, and the parameter of each slot accepts what stands
there. -/
theorem fits_inOrder_iff : fits exact (inOrder required optional rest) arguments ↔
    required.length ≤ arguments.length ∧ (rest = none → arguments.length ≤ required.length + optional.length) ∧
      AllAccepted exact (slot? required optional rest) arguments := by
  induction required generalizing arguments with
  | nil => simpa using fits_optional_iff
  | cons type required ih =>
    cases arguments with
    | nil => simp [inOrder, fits]
    | cons argument arguments =>
      have later : slot? required optional rest = fun index => slot? (type :: required) optional rest (index + 1) := rfl
      change (type.accepts exact argument && fits exact (inOrder required optional rest) arguments) = true ↔ _
      rw [Bool.and_eq_true, ih, allAccepted_cons, ← later]
      simp [slot?, Nat.add_right_comm, and_left_comm]

end Signature

namespace Function

open Signature

theorem params_of_builtin : ∀ function ∈ builtins, ∀ signature ∈ function.signatures,
    ∃ required optional rest, signature.params = inOrder required optional rest := by
  have listed : ∀ function ∈ builtins, ∀ signature ∈ function.signatures, signature.params = inOrder
      (signature.params.filterMap fun | .required type => some type | _ => none)
      (signature.params.filterMap fun | .optional type => some type | _ => none)
      (signature.params.findSome? fun | .repeated type => some type | _ => none) := by
    decide +kernel
  exact fun function known signature own => ⟨_, _, _, listed function known signature own⟩

def Takes (function : Function) (exact : Bool) (arguments : List SqlType) (signature : Signature) : Prop :=
  signature.accepts exact arguments = true ∧ ∃ earlier later, function.signatures = earlier ++ signature :: later ∧
    ∀ other ∈ earlier, other.accepts exact arguments = false

variable {function : Function} {arguments : List SqlType}

theorem find_accepts_iff (exact : Bool) :
    function.signatures.find? (·.accepts exact arguments) = some signature ↔
        function.Takes exact arguments signature := by
  simp [List.find?_eq_some_iff_append, Takes]

theorem resolve_eq_none_iff : function.resolve? arguments = none ↔
    ∀ signature ∈ function.signatures, signature.accepts false arguments = false := by
  simp only [resolve?, signatureFor?, Option.map_eq_none_iff, Option.or_eq_none_iff, List.find?_eq_none,
    Bool.not_eq_true, and_iff_right_iff_imp]
  intro none signature own
  exact Bool.eq_false_iff.mpr (mt Signature.fits_of_exact (Bool.eq_false_iff.mp (none signature own)))

theorem resolve_eq_some_iff : function.resolve? arguments = some (signature, type) ↔
    type = signature.resultType arguments ∧ (function.Takes true arguments signature ∨
      (∀ other ∈ function.signatures, other.accepts true arguments = false) ∧
          function.Takes false arguments signature) := by
  simp only
    [resolve?, signatureFor?, Option.map_eq_some_iff, Option.or_eq_some_iff, find_accepts_iff, List.find?_eq_none,
    Bool.not_eq_true, Prod.mk.injEq]
  grind

end Function

/-- Arguments are matched with the parameters of a signature slot by slot, as all signatures of builtin functions have
them. What fits exactly fits by coercion. So a call is refused only if no signature takes it by coercion, and otherwise
has the type of the first signature that it fits exactly, or else of the first that it fits by coercion. -/
theorem calls_take_first_fitting :
    (∀ required optional rest result exact arguments,
      (Signature.mk (Signature.inOrder required optional rest) result).accepts exact arguments = true ↔
        required.length ≤ arguments.length ∧ (rest = none → arguments.length ≤ required.length + optional.length) ∧
          Signature.AllAccepted exact (Signature.slot? required optional rest) arguments) ∧
    (∀ function ∈ Function.builtins, ∀ signature ∈ function.signatures,
      ∃ required optional rest, signature.params = Signature.inOrder required optional rest) ∧
    (∀ (signature : Signature) arguments, signature.accepts true arguments = true →
      signature.accepts false arguments = true) ∧
    ∀ (function : Function) arguments,
      (function.resolve? arguments = none ↔
        ∀ signature ∈ function.signatures, signature.accepts false arguments = false) ∧
      ∀ signature type, function.resolve? arguments = some (signature, type) ↔
        type = signature.resultType arguments ∧ (function.Takes true arguments signature ∨
          (∀ other ∈ function.signatures, other.accepts true arguments = false) ∧
            function.Takes false arguments signature) :=
  ⟨fun _ _ _ _ _ _ => Signature.fits_inOrder_iff, Function.params_of_builtin, fun _ _ => Signature.fits_of_exact,
    fun _ _ => ⟨Function.resolve_eq_none_iff, fun _ _ => Function.resolve_eq_some_iff⟩⟩

/-! ### Types that cannot be told -/

def SqlType.untold : SqlType → SqlType
  | .array element => .array element.untold
  | _ => .unknown

/-- What may be left of a type: all of it, nothing, or that it is an array of arrays, however deep. -/
def SqlType.Blurs (type blurred : SqlType) : Prop := blurred = type ∨ blurred = .unknown ∨ blurred = type.untold

namespace SqlType

variable {type blurred target : SqlType}

theorem untold_coercesTo (fitting : type.coercesTo target) : type.untold.coercesTo target := by
  induction type using untold.induct generalizing target with
  | case1 element ih =>
    cases target with
    | scalar other => exact fitting
    | struct fields => cases fitting
    | array inner => exact ih fitting
  | case2 type other =>
    have unknown : type.untold = unknown := by
      cases type with
      | array element => exact absurd rfl (other element)
      | scalar | struct => rfl
    rw [unknown]
    exact unknown_coercesTo target

theorem Blurs.coercesTo (blurs : type.Blurs blurred) (fitting : type.coercesTo target) :
    blurred.coercesTo target := by
  rcases blurs with rfl | rfl | rfl
  · exact fitting
  · exact unknown_coercesTo target
  · exact untold_coercesTo fitting

end SqlType

theorem ParamType.accepts_of_blurs {param : ParamType} (blurs : argument.Blurs blurred)
    (accepted : param.accepts exact argument) : param.accepts false blurred := by
  have coerced : param.accepts false argument = true := by
    cases exact with
    | true => exact accepts_of_exact accepted
    | false => exact accepted
  cases param with
  | concrete type => exact blurs.coercesTo coerced
  | any => rfl
  | anyArray =>
    dsimp only [accepts] at coerced
    split at coerced
    · rcases blurs with rfl | rfl | rfl <;> rfl
    · rcases blurs with rfl | rfl | rfl <;> rfl
    · cases coerced
  | datePart =>
    cases of_decide_eq_true coerced
    rcases blurs with rfl | rfl | rfl <;> rfl

theorem Signature.fits_of_blurs {params : List Param} (blurs : List.Forall₂ SqlType.Blurs arguments blurred)
    (fitting : fits exact params arguments) : fits false params blurred := by
  fun_induction fits exact params arguments generalizing blurred with
  | case1 arguments =>
    cases List.isEmpty_iff.mp fitting
    cases blurs
    rfl
  | case2 type params argument rest ih | case4 type params argument rest ih =>
    obtain ⟨first, others⟩ := Bool.and_eq_true_iff.mp fitting
    cases blurs with
    | cons blurs more => rw [fits, ParamType.accepts_of_blurs blurs first, ih more others, Bool.and_self]
  | case3 => cases fitting
  | case5 type params ih =>
    cases blurs
    exact ih .nil fitting
  | case6 type params arguments ih =>
    obtain ⟨all, others⟩ := Bool.and_eq_true_iff.mp fitting
    have accepted : blurred.all (type.accepts false) = true := by
      clear ih others fitting
      induction blurs with
      | nil => rfl
      | cons blurs _ more =>
        obtain ⟨first, others⟩ := Bool.and_eq_true_iff.mp (List.all_cons ▸ all)
        rw [List.all_cons, ParamType.accepts_of_blurs blurs first, more others, Bool.and_self]
    rw [fits, accepted, ih .nil others, Bool.and_self]

/-- A call is not refused for what cannot be told of its arguments. Any of them may become unknown, and any array may
lose its innermost element type: a signature that took the arguments takes them still, by coercion, and each parameter
does. -/
theorem untold_arguments_never_refused {function : Function} (blurs : List.Forall₂ SqlType.Blurs arguments blurred)
    (resolved : (function.resolve? arguments).isSome = true) :
    (function.resolve? blurred).isSome = true ∧
    (∀ signature ∈ function.signatures, ∀ exact, signature.accepts exact arguments = true →
      signature.accepts false blurred = true) ∧
    ∀ (param : ParamType) exact element, param.accepts exact (.array element) = true →
      param.accepts false (.array element.untold) = true := by
  refine ⟨?_, fun _ _ _ => Signature.fits_of_blurs blurs, fun _ _ _ => ParamType.accepts_of_blurs (.inr (.inr rfl))⟩
  obtain ⟨⟨signature, type⟩, found⟩ := Option.isSome_iff_exists.mp resolved
  obtain ⟨taken, own, fitting, -⟩ := Function.gives_of_resolve found
  refine Option.isSome_iff_ne_none.mpr fun refused => ?_
  have unfit := Function.resolve_eq_none_iff.mp refused taken own
  rw [Signature.accepts, Signature.fits_of_blurs blurs fitting] at unfit
  cases unfit

/-- `ARRAY_TO_STRING` takes an array of strings exactly, and one of unknown elements by coercion. -/
theorem untold_array_joined : ∃ function ∈ Function.builtins, function.name = "ARRAY_TO_STRING" ∧
    (function.resolve? [.array .unknown, .unknown]).isSome = true :=
  ⟨_, List.mem_append_right _ (List.mem_of_getElem? (i := 1) rfl), rfl,
    (untold_arguments_never_refused (.cons (.inr (.inr rfl)) (.cons (.inr (.inl rfl)) .nil))
      (show (Function.resolve? _ [.array .string, .string]).isSome = true by decide)).1⟩

end SqlLens
