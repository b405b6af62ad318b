import SqlLens.Function.Basic

/-!
The functions and operators of the language.
-/

namespace SqlLens.Function

def req (type : SqlType) : Param := .required (.concrete type)

def opt (type : SqlType) : Param := .optional (.concrete type)

def rep (type : SqlType) : Param := .repeated (.concrete type)

def anyParam : Param := .required .any

def restAny : Param := .repeated .any

def arrayParam : Param := .required .anyArray

def partParam : Param := .required .datePart

def gives (params : List Param) (type : SqlType) : Signature := ⟨params, .concrete type⟩

def givesArgument (params : List Param) (index : Nat) : Signature := ⟨params, .argument index⟩

def numbers : List SqlType := [.int64, .numeric, .bigNumeric, .float64]

/-- One signature for each type of number, with that many parameters of the type and a result of the type. -/
def onNumbers (count : Nat) : List Signature :=
  numbers.map fun type => gives (List.replicate count (req type)) type

def onTexts (signature : SqlType → Signature) : List Signature := [signature .string, signature .bytes]

/-! ### Operators -/

variable (name : String)

def operator (signatures : List Signature) : Function := ⟨name, .scalar, signatures⟩

def comparison : Function := operator name [gives [anyParam, anyParam] .bool]

def add : Function := operator "$add" (onNumbers 2)
def subtract : Function := operator "$subtract" (onNumbers 2)
def multiply : Function := operator "$multiply" (onNumbers 2)
def divide : Function :=
  operator "$divide" ([.numeric, .bigNumeric, .float64].map fun type => gives [req type, req type] type)
def unaryMinus : Function := operator "$unary_minus" (onNumbers 1)
def equal : Function := comparison "$equal"
def notEqual : Function := comparison "$not_equal"
def less : Function := comparison "$less"
def greater : Function := comparison "$greater"
def lessOrEqual : Function := comparison "$less_or_equal"
def greaterOrEqual : Function := comparison "$greater_or_equal"
def like : Function := operator "$like" (onTexts fun type => gives [req type, req type] .bool)
def notLike : Function := operator "$not_like" (onTexts fun type => gives [req type, req type] .bool)
def concat : Function := operator "$concat_op" (onTexts fun type => gives [req type, req type] type)
def and : Function := operator "$and" [gives [req .bool, req .bool] .bool]
def or : Function := operator "$or" [gives [req .bool, req .bool] .bool]
def not : Function := operator "$not" [gives [req .bool] .bool]
def isNull : Function := operator "$is_null" [gives [anyParam] .bool]
def isIn : Function := operator "$in" [gives [anyParam, restAny] .bool]
def between : Function := operator "$between" [gives [anyParam, anyParam, anyParam] .bool]
def case : Function := operator "$case" [givesArgument [restAny] 0]
def makeArray : Function := operator "$make_array" [⟨[restAny], .arrayOf 0⟩]
def inArray : Function := operator "$in_array" [gives [anyParam, arrayParam] .bool]
def arrayAt : Function := operator name [⟨[arrayParam, req .int64], .elementOf 0⟩]
def arrayAtOffset : Function := arrayAt "$array_at_offset"
def safeArrayAtOffset : Function := arrayAt "$safe_array_at_offset"
def arrayAtOrdinal : Function := arrayAt "$array_at_ordinal"
def safeArrayAtOrdinal : Function := arrayAt "$safe_array_at_ordinal"
def interval : Function := operator "$interval" [gives [anyParam] .interval]

def operators : List Function :=
  [add, subtract, multiply, divide, unaryMinus, equal, notEqual, less, greater, lessOrEqual, greaterOrEqual, like,
    notLike, concat, and, or, not, isNull, isIn, between, case, makeArray, inArray, arrayAtOffset, safeArrayAtOffset,
    arrayAtOrdinal, safeArrayAtOrdinal, interval]

/-! ### Functions -/

def families (kind : CallKind) (entries : List (List String × List Signature)) : List Function :=
  entries.flatMap fun (names, signatures) => names.map fun name => ⟨name, kind, signatures⟩

def aggregates : List Function := families .aggregate
  [(["COUNT"], [gives [] .int64, gives [anyParam] .int64]), (["COUNTIF"], [gives [req .bool] .int64]),
    (["SUM"], onNumbers 1),
    (["AVG"], [gives [req .int64] .float64, gives [req .numeric] .numeric, gives [req .bigNumeric] .bigNumeric,
      gives [req .float64] .float64]),
    (["MIN", "MAX", "ANY_VALUE"], [givesArgument [anyParam] 0]),
    (["ARRAY_AGG"], [⟨[anyParam], .arrayOf 0⟩]), (["STRING_AGG"], onTexts fun type => gives [req type, opt type] type),
    (["LOGICAL_AND", "LOGICAL_OR"], [gives [req .bool] .bool])]

def analytics : List Function := families .analytic
  [(["ROW_NUMBER", "RANK", "DENSE_RANK"], [gives [] .int64]), (["NTILE"], [gives [req .int64] .int64]),
    (["PERCENT_RANK", "CUME_DIST"], [gives [] .float64]),
    (["LAG", "LEAD"], [givesArgument [anyParam, opt .int64, .optional .any] 0]),
    (["FIRST_VALUE", "LAST_VALUE"], [givesArgument [anyParam] 0]),
    (["NTH_VALUE"], [givesArgument [anyParam, req .int64] 0])]

def textFunctions : List Function := families .scalar
  [(["UPPER", "LOWER", "REVERSE"], onTexts fun type => gives [req type] type),
    (["TRIM", "LTRIM", "RTRIM"], onTexts fun type => gives [req type, opt type] type),
    (["LENGTH"], onTexts fun type => gives [req type] .int64),
    (["CONCAT"], onTexts fun type => gives [req type, rep type] type),
    (["SUBSTR", "SUBSTRING"], onTexts fun type => gives [req type, req .int64, opt .int64] type),
    (["REPLACE"], [gives [req .string, req .string, req .string] .string]),
    (["SPLIT"], [gives [req .string, opt .string] (.array .string)]),
    (["STARTS_WITH", "ENDS_WITH", "REGEXP_CONTAINS"], [gives [req .string, req .string] .bool]),
    (["REGEXP_EXTRACT"], [gives [req .string, req .string] .string]),
    (["FORMAT"], [gives [req .string, restAny] .string])]

def choiceFunctions : List Function := families .scalar
  [(["COALESCE"], [givesArgument [anyParam, restAny] 0]),
    (["IFNULL", "NULLIF"], [givesArgument [anyParam, anyParam] 0]),
    (["IF"], [givesArgument [req .bool, anyParam, anyParam] 1]),
    (["GREATEST", "LEAST"], [givesArgument [anyParam, restAny] 0])]

def numberFunctions : List Function := families .scalar
  [(["ABS"], onNumbers 1),
    (["ROUND", "TRUNC"], [.float64, .numeric, .bigNumeric].map fun type => gives [req type, opt .int64] type),
    (["CEIL", "FLOOR"], [.float64, .numeric, .bigNumeric].map fun type => gives [req type] type),
    (["SAFE_DIVIDE", "POW", "MOD"], [gives [req .int64, req .int64] .float64,
      gives [req .numeric, req .numeric] .numeric, gives [req .float64, req .float64] .float64])]

def timeFunctions : List Function := families .scalar
  [(["CURRENT_DATE"], [gives [opt .string] .date]), (["CURRENT_DATETIME"], [gives [opt .string] .datetime]),
    (["CURRENT_TIMESTAMP"], [gives [] .timestamp]),
    (["DATE"], [gives [req .timestamp, opt .string] .date, gives [req .datetime] .date,
      gives [req .int64, req .int64, req .int64] .date]),
    (["TIMESTAMP"], [gives [req .string, opt .string] .timestamp, gives [req .date, opt .string] .timestamp,
      gives [req .datetime, opt .string] .timestamp]),
    (["DATE_TRUNC"], [gives [req .date, partParam] .date]),
    (["TIMESTAMP_TRUNC"], [gives [req .timestamp, partParam, opt .string] .timestamp]),
    (["EXTRACT"], [gives [partParam, anyParam] .int64]),
    (["DATE_ADD", "DATE_SUB"], [gives [req .date, req .interval] .date]),
    (["TIMESTAMP_ADD", "TIMESTAMP_SUB"], [gives [req .timestamp, req .interval] .timestamp]),
    (["DATE_DIFF"], [gives [req .date, req .date, partParam] .int64]),
    (["TIMESTAMP_DIFF"], [gives [req .timestamp, req .timestamp, partParam] .int64]),
    (["FORMAT_DATE"], [gives [req .string, req .date] .string]),
    (["FORMAT_TIMESTAMP"], [gives [req .string, req .timestamp, opt .string] .string]),
    (["PARSE_DATE"], [gives [req .string, req .string] .date]),
    (["PARSE_TIMESTAMP"], [gives [req .string, req .string, opt .string] .timestamp])]

def otherFunctions : List Function := families .scalar
  [(["ARRAY_LENGTH"], [gives [arrayParam] .int64]),
    (["ARRAY_TO_STRING"], [gives [req (.array .string), req .string, opt .string] .string]),
    (["ARRAY_REVERSE"], [givesArgument [arrayParam] 0]),
    (["JSON_VALUE"], [gives [req .json, opt .string] .string, gives [req .string, opt .string] .string]),
    (["TO_JSON_STRING"], [gives [anyParam, opt .bool] .string]), (["GENERATE_UUID"], [gives [] .string]),
    (["FARM_FINGERPRINT"], onTexts fun type => gives [req type] .int64)]

def builtins : List Function :=
  operators ++ aggregates ++ analytics ++ textFunctions ++ choiceFunctions ++ numberFunctions ++ timeFunctions ++
    otherFunctions

def byName? : Option Function := builtins.find? fun function => function.name == name

def lookup? : Option Function := byName? (Text.upper name)

def datePartNames : List String := Text.words
  ["MICROSECOND MILLISECOND SECOND MINUTE HOUR DAY DAYOFWEEK DAYOFYEAR WEEK ISOWEEK MONTH QUARTER YEAR ISOYEAR"]

def isDatePart : Bool := datePartNames.any (Text.sameName · name)

end SqlLens.Function
