import SqlLens.Type.Basic

/-!
Functions with their signatures.

A function has one or more signatures. A call takes the first signature its arguments fit exactly, and only if there is
none the first they fit by coercion; so rounding a `NUMERIC` stays `NUMERIC` while rounding an `INT64` widens.
-/

namespace SqlLens

inductive ParamType where
  | concrete (type : SqlType)
  | any
  | anyArray
  | datePart
deriving DecidableEq

namespace ParamType

/-- Whether an argument fits; exactly, or by coercion. A type that cannot be told always fits. -/
def accepts (param : ParamType) (exact : Bool) (argument : SqlType) : Bool :=
  match param with
  | concrete type => if exact then argument = type || argument = .unknown else argument.coercesTo type
  | any => true
  | anyArray =>
    match argument with
    | .array _ | .unknown => true
    | _ => false
  | datePart => argument = .unknown

def text : ParamType → String
  | concrete type => type.text
  | any => "ANY TYPE"
  | anyArray => "ARRAY<ANY TYPE>"
  | datePart => "DATE_PART"

end ParamType

inductive Param where
  | required (type : ParamType)
  | optional (type : ParamType)
  | repeated (type : ParamType)
deriving DecidableEq

namespace Param

def type : Param → ParamType
  | required type => type
  | optional type => type
  | repeated type => type

def text : Param → String
  | required type => type.text
  | optional type => "[" ++ type.text ++ "]"
  | repeated type => "[" ++ type.text ++ ", ...]"

end Param

inductive ResultType where
  | concrete (type : SqlType)
  | argument (index : Nat)
  | arrayOf (index : Nat)
  | elementOf (index : Nat)
deriving DecidableEq

structure Signature where
  params : List Param
  result : ResultType
deriving DecidableEq

namespace Signature

def fits (exact : Bool) : List Param → List SqlType → Bool
  | [], arguments => arguments.isEmpty
  | .required type :: params, argument :: rest => type.accepts exact argument && fits exact params rest
  | .required _ :: _, [] => false
  | .optional type :: params, argument :: rest => type.accepts exact argument && fits exact params rest
  | .optional _ :: params, [] => fits exact params []
  | .repeated type :: params, arguments => arguments.all (type.accepts exact) && fits exact params []

def accepts (signature : Signature) (exact : Bool) (arguments : List SqlType) : Bool :=
  fits exact signature.params arguments

def resultType (signature : Signature) (arguments : List SqlType) : SqlType :=
  let argument (index : Nat) : SqlType := arguments[index]?.getD .unknown
  match signature.result with
  | .concrete type => type
  | .argument index => argument index
  | .arrayOf index => .array (argument index)
  | .elementOf index =>
    match argument index with
    | .array element => element
    | _ => .unknown

def paramText (signature : Signature) (index : Nat) : String :=
  match signature.params[index]? with
  | some param => param.type.text
  | none => "ANY TYPE"

def text (signature : Signature) (name : String) : String :=
  let result := match signature.result with
    | .concrete type => type.text
    | .argument index => signature.paramText index
    | .arrayOf index => "ARRAY<" ++ signature.paramText index ++ ">"
    | .elementOf _ => "ANY TYPE"
  name ++ "(" ++ Text.join ", " (signature.params.map Param.text) ++ ") -> " ++ result

end Signature

inductive CallKind where
  | scalar
  | aggregate
  | analytic
deriving DecidableEq

/-- A function or operator. The internal names of operators start with a dollar sign. -/
structure Function where
  name : String
  kind : CallKind
  signatures : List Signature
deriving DecidableEq

namespace Function

variable (function : Function)

def isOperator : Bool := Text.startsWith ['$'] function.name.toList

def isAggregate : Bool := function.kind = .aggregate

def isAnalytic : Bool := function.kind = .analytic

def supportsOver : Bool := function.isAnalytic || function.isAggregate

/-- The signature for the given arguments: the first that fits exactly, or else the first that fits by coercion. -/
def signatureFor? (arguments : List SqlType) : Option Signature :=
  (function.signatures.find? (·.accepts true arguments)).or
    (function.signatures.find? (·.accepts false arguments))

def resolve? (arguments : List SqlType) : Option (Signature × SqlType) :=
  (function.signatureFor? arguments).map fun signature => (signature, signature.resultType arguments)

def signatureTexts : List String := function.signatures.map (·.text function.name)

end Function

end SqlLens
