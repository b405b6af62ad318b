import SqlLens.Grammar.Clause

/-!
Columns and constraints in the definition of a table. Only whether they follow the grammar matters.
-/

namespace SqlLens.Grammar

/-- When and whether a constraint is checked. Each property is said at most once; fuel bounds their number. -/
def characteristics (deferrable initially enforced : Bool) : Nat → Reader Unit
  | 0 => return
  | fuel + 1 => do
    if ← unless_ deferrable (words ["NOT", "DEFERRABLE"]) then characteristics true initially enforced fuel
    else if ← unless_ deferrable (word "DEFERRABLE") then characteristics true initially enforced fuel
    else if ← unless_ initially (word "INITIALLY") then
      if (← oneOf ["DEFERRED", "IMMEDIATE"]).isNone then expected "one of DEFERRED or IMMEDIATE" (← peek)
      characteristics deferrable true enforced fuel
    else if ← unless_ enforced (word "ENFORCED") then characteristics deferrable initially true fuel
    else if ← unless_ enforced (words ["NOT", "ENFORCED"]) then characteristics deferrable initially true fuel
where
  unless_ (said : Bool) (phrase : Reader Bool) : Reader Bool := if said then return false else phrase

def constraintCharacteristics : Reader Unit := do characteristics false false false ((← get).length + 1)

def referentialAction : Reader Unit := do
  if ← word "RESTRICT" then return
  else if ← word "CASCADE" then return
  else if ← words ["SET", "NULL"] then return
  else if ← words ["NO", "ACTION"] then return
  else if ← words ["SET", "DEFAULT"] then return
  else expected "one of RESTRICT, CASCADE, SET NULL, NO ACTION or SET DEFAULT" (← peek)

def referentialActions (onDelete onUpdate : Bool) : Nat → Reader Unit
  | 0 => return
  | fuel + 1 => do
    let deletes ← if onDelete then pure false else words ["ON", "DELETE"]
    if deletes then
      referentialAction
      referentialActions true onUpdate fuel
    else
      let updates ← if onUpdate then pure false else words ["ON", "UPDATE"]
      if updates then
        referentialAction
        referentialActions onDelete true fuel

variable (r : Rules)

def generatedColumn : Reader Bool := do
  if ← words ["ALWAYS", "AS", "IDENTITY"] then
    sequenceOptionsInParens
    return true
  else if ← words ["BY", "DEFAULT", "AS", "IDENTITY"] then
    sequenceOptionsInParens
    return true
  else if ← words ["ALWAYS", "AS"] then
    if ← symbol .openParen then
      let _ ← r.expr 0
      closeParen
      let _ ← oneOf ["STORED", "VIRTUAL"]
      return true
    else return false
  else return false

/-- One property of a column; nothing when none follows, though words that say nothing may have been passed over. -/
def columnOption : Reader Bool := do
  if ← words ["CHARACTER", "SET"] then
    anyObject
    return true
  else if ← words ["NOT", "NULL"] then return true
  else if ← word "COMMENT" then
    let lexeme ← next
    match lexeme.map Lexeme.token with
    | some (.string .plain '\x27' false _) => return true
    | _ => expected "string" lexeme
  else if ← word "NULL" then return true
  else if ← word "DEFAULT" then
    let _ ← r.expr 0
    return true
  else if ← words ["PRIMARY", "KEY"] then
    constraintCharacteristics
    return true
  else if ← word "UNIQUE" then
    constraintCharacteristics
    return true
  else if ← word "REFERENCES" then
    anyObject
    let _ ← optionalColumns
    referentialActions false false ((← get).length + 1)
    constraintCharacteristics
    return true
  else if ← word "CHECK" then
    let _ ← parenthesized (r.expr 0)
    return true
  else
    passOver [["AUTO_INCREMENT"], ["AUTOINCREMENT"], ["ASC"], ["DESC"], ["ON", "UPDATE"]]
    if ← word "GENERATED" then generatedColumn r
    else if ← peekWord "OPTIONS" then
      optionList r "OPTIONS"
      return true
    else
      passOver [["AS"], ["IDENTITY"]]
      return false

def unnamedColumnOptions : Nat → Reader Unit
  | 0 => return
  | fuel + 1 => do
    if ← columnOption r then unnamedColumnOptions fuel

def columnOptions : Nat → Reader Unit
  | 0 => return
  | fuel + 1 => do
    if ← word "CONSTRAINT" then
      anyName
      if ← columnOption r then columnOptions fuel
      else expected "constraint details after CONSTRAINT <name>" (← peek)
    else if ← columnOption r then columnOptions fuel

def columnDefinition : Reader Unit := do
  anyName
  let _ ← dataType
  if ← word "COLLATE" then
    anyObject
  columnOptions r ((← get).length + 1)

def keyColumns : Reader Unit := do
  let _ ← optionally identifier
  let _ ← indexKind
  let _ ← mandatoryColumns
  indexOptions ((← get).length + 1)
  constraintCharacteristics

def tableConstraint : Reader Bool := do
  let named ← word "CONSTRAINT"
  if named then
    anyName
  if ← word "UNIQUE" then
    if (← oneOf ["KEY", "INDEX"]).isSome then
      expected "\x60index_name\x60 or \x60(column_name [, ...])\x60" (← peek)
    nullsDistinct
    keyColumns
    return true
  else if ← word "PRIMARY" then
    expectWord "KEY"
    keyColumns
    return true
  else if ← word "FOREIGN" then
    expectWord "KEY"
    let _ ← mandatoryColumns
    expectWord "REFERENCES"
    anyObject
    let _ ← mandatoryColumns
    referentialActions false false ((← get).length + 1)
    constraintCharacteristics
    return true
  else if ← word "CHECK" then
    let _ ← parenthesized (r.expr 0)
    return true
  else if named then expected "PRIMARY, UNIQUE, FOREIGN, or CHECK" (← next)
  else return false

def tableElements : Nat → Reader Unit
  | 0 => return
  | fuel + 1 => do
    if !(← tableConstraint r) then
      let lexeme ← peek
      if (lexeme.bind identOf).isSome then columnDefinition r
      else expected "column name or constraint definition" lexeme
    let comma ← symbol .comma
    if ← peekSymbol .closeParen then
      if comma then tableElements fuel
      else
        let _ ← symbol .closeParen
    else if comma then tableElements fuel
    else expected "',' or ')' after column definition" (← peek)

def tableColumns : Reader Unit := do
  if ← symbol .openParen then
    if !(← symbol .closeParen) then tableElements r ((← get).length + 1)

end SqlLens.Grammar
