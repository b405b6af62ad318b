import SqlLens.Proofs.Grammar.Names
import SqlLens.Grammar.Expr

/-!
The names in an expression are spelled in the chunk that it is read from (`reads_expression`).

Data types have no names that matter, but their readers take lexemes like all others.
-/

namespace SqlLens.Grammar

open List

variable {chunk : List Lexeme} {name : String}

@[grind ←] theorem reads_optionalPrecision : Reads held chunk optionalPrecision := by
  unfold optionalPrecision
  grind

@[grind ←] theorem reads_sized : Reads held chunk (sized name) := by
  unfold sized
  grind

@[grind ←] theorem reads_integerType : Reads held chunk (integerType name) := by
  unfold integerType
  grind

@[grind ←] theorem reads_characterType : Reads held chunk (characterType name) := by
  unfold characterType
  grind

@[grind ←] theorem reads_characterTypes : Reads held chunk (characterTypes name) := by
  unfold characterTypes
  grind

@[grind ←] theorem reads_exactType : Reads held chunk (exactType name) := by
  unfold exactType
  grind

@[grind ←] theorem reads_timeType : Reads held chunk (timeType name) := by
  unfold timeType
  grind

@[grind ←] theorem reads_enumMember : Reads held chunk enumMember := by
  unfold enumMember
  grind

@[grind ←] theorem reads_preciseTime : Reads held chunk preciseTime := by
  unfold preciseTime
  grind

@[grind ←] theorem reads_setMembers : Reads held chunk (setMembers fuel) := by
  refine Reads.holding ?_
  induction fuel with
  | zero => exact .pure (by simp)
  | succ fuel ih =>
    unfold setMembers
    grind

@[grind ←] theorem reads_typeModifiers : Reads held chunk (typeModifiers fuel) := by
  refine Reads.holding ?_
  induction fuel with
  | zero => exact .pure (by simp)
  | succ fuel ih =>
    unfold typeModifiers
    grind

@[grind ←] theorem reads_customType : Reads held chunk customType := by
  unfold customType
  grind

@[grind ←] theorem reads_closeAngle : Reads held chunk (closeAngle closed) := by
  unfold closeAngle
  grind

@[grind ←] theorem reads_structFields (inner : Reads [] chunk type) :
    Reads held chunk (structFields start type fuel) := by
  refine Reads.holding ?_
  induction fuel with
  | zero => exact .pure (by simp)
  | succ fuel ih =>
    unfold structFields
    refine .bind reads_peekAfter fun first _ => .bind reads_peekAfter fun second _ => ?_
    extract_lets named
    clear_value named
    grind

@[grind ←] theorem reads_structType (inner : Reads [] chunk type) : Reads held chunk (structType start type) := by
  unfold structType
  grind

@[grind ←] theorem reads_namedType (inner : Reads [] chunk type) : Reads [lexeme] chunk (namedType lexeme type) := by
  have plain {name : TypeName} : Reads [lexeme] chunk (namedType.plain name) := .pure (by simp)
  have custom : Reads [lexeme] chunk (namedType.custom lexeme) := by
    refine @Reads.putBack _ _ [lexeme] chunk _ ?_
    grind
  unfold namedType
  split <;> grind

@[grind ←] theorem reads_arraySuffix {name : TypeName} : Reads held chunk (arraySuffix fuel name) := by
  refine Reads.holding ?_
  induction fuel generalizing name with
  | zero => exact .pure (by simp)
  | succ fuel ih =>
    unfold arraySuffix
    grind

@[grind ←] theorem reads_openType : Reads held chunk (openType fuel) := by
  refine Reads.holding ?_
  induction fuel with
  | zero =>
    unfold openType
    grind
  | succ fuel ih =>
    refine .bind_uses uses_next fun used lexeme same => ?_
    subst same
    cases lexeme with
    | none => exact .expected
    | some lexeme =>
      dsimp only
      split
      · refine .bind_held (reads_namedType ih) fun named _ => ?_
        grind
      · exact .expected

@[grind ←] protected theorem Reads.dataType : Reads held chunk dataType := by
  unfold dataType
  grind

@[grind ←] theorem reads_datePart : Reads held chunk datePart := by
  unfold datePart
  grind

structure RulesRead (chunk : List Lexeme) (r : Rules) : Prop where
  expr : ∀ strength, Reads [] chunk (r.expr strength)
  query : Reads [] chunk r.query

section

variable {r : Rules} {strength : Nat}

@[grind ←] theorem RulesRead.reads_expr (rules : RulesRead chunk r) :
    Reads held chunk (r.expr strength) := (rules.expr strength).holding

@[grind ←] theorem RulesRead.reads_query (rules : RulesRead chunk r) : Reads held chunk r.query := rules.query.holding

/-! ### Readers that stay on their level -/

@[grind ←] theorem reads_operatorStrength : Reads held chunk operatorStrength := by
  unfold operatorStrength
  refine .bind .peek fun lexeme _ => ?_
  split
  · exact .pure (by simp)
  · split <;> grind

@[grind ←] protected theorem Reads.peekQuery : Reads held chunk peekQuery := by
  unfold peekQuery
  grind

instance : HasNames Wild := ⟨fun P value =>
  match value with
  | .expr value => value.AllNames P
  | .star _ => True
  | .qualified name _ => P name⟩

@[simp, grind =] theorem allNames_wildExpr : AllNames P (Wild.expr value) ↔ value.AllNames P := Iff.rfl

@[simp, grind =] theorem allNames_wildStar : AllNames P (Wild.star place) ↔ True :=
  Iff.rfl

@[simp, grind =] theorem allNames_wildQualified {P : List Ident → Prop} {name : List Ident} :
    AllNames P (Wild.qualified name place) ↔ P name := Iff.rfl

def StarBehind (parts : List Ident) (used : List Lexeme) (found : Option Wild) : Prop :=
  ∀ star ∈ found, ∃ more place kept,
    star = Wild.qualified (parts ++ more) place ∧ Spelled kept more ∧ kept.Sublist used

theorem uses_qualifiedStar (fuel : Nat) (parts : List Ident) : Uses (StarBehind parts) (qualifiedStar fuel parts) := by
  induction fuel generalizing parts with
  | zero => exact .pure (by simp [StarBehind])
  | succ fuel ih =>
    unfold qualifiedStar
    refine .bind (.of_reads fun _ => .symbol) fun _ dot none => ?_
    subst none
    split
    · refine .bind uses_next fun used lexeme same => ?_
      subst same
      -- One more part of the name.
      have goesOn {lexemes name} (spells : Spells lexemes name) :
          Uses (fun used => StarBehind parts (lexemes ++ used)) (qualifiedStar fuel (parts ++ [name])) := by
        intro before
        obtain ⟨left, gives⟩ := ih (parts ++ [name]) before
        refine ⟨left, fun found same => ?_⟩
        obtain ⟨used, holds, spent⟩ := gives found same
        refine ⟨used, fun star given => ?_, spent⟩
        obtain ⟨more, place, kept, rfl, spelled, among⟩ := holds star given
        exact ⟨name :: more, place, lexemes ++ kept, by simp, .cons spells spelled,
          (append_sublist_append_left lexemes).mpr among⟩
      cases lexeme with
      | none => exact .throw
      | some lexeme =>
        dsimp only [Option.toList_some, nil_append]
        split
        · rename_i value quote spelled
          exact goesOn (.word spelled)
        · exact goesOn (.unplaced rfl)
        · refine .pure fun star given => ?_
          cases given
          exact ⟨[], lexeme.span.start, [], by simp, .nil, nil_sublist _⟩
        · exact .throw
    · exact .pure (by simp [StarBehind])

@[grind ←] theorem reads_frameUnit : Reads held chunk frameUnit := by
  unfold frameUnit
  grind

@[grind ←] theorem reads_nullTreatment : Reads held chunk nullTreatment := by
  unfold nullTreatment
  grind

@[grind ←] theorem reads_jsonNulls : Reads held chunk jsonNulls := by
  unfold jsonNulls
  grind

@[grind ←] theorem reads_duplicates : Reads held chunk duplicates := by
  unfold duplicates
  grind

theorem uses_nameParts (fuel : Nat) : Uses Spelled (nameParts fuel) := by
  induction fuel with
  | zero => exact .pure .nil
  | succ fuel ih =>
    unfold nameParts
    refine .bind (.of_reads fun _ => .symbol) fun _ dot none => ?_
    subst none
    split
    · refine .bind uses_next fun used lexeme same => ?_
      subst same
      have goesOn {lexemes name} (spells : Spells lexemes name) :
          Uses (fun used => Spelled (lexemes ++ used)) (do return name :: (← nameParts fuel)) := by
        refine .bind ih fun used rest spelled => .pure ?_
        rw [append_nil]
        exact .cons spells spelled
      cases lexeme with
      | none => exact .throw
      | some lexeme =>
        dsimp only [Option.toList_some, nil_append]
        split
        · rename_i value quote spelled
          exact goesOn (.word spelled)
        · exact goesOn (.unplaced rfl)
        · exact .throw
        · exact .throw
    · exact .pure .nil

@[grind ←] theorem reads_escapeCharacter : Reads held chunk escapeCharacter := by
  unfold escapeCharacter
  grind

theorem uses_expectedSymbol : Uses (fun used lexeme => used = lexeme.toList) (expectedSymbol wanted) := by
  refine .bind (.of_reads fun _ => .peek) fun _ lexeme none => ?_
  subst none
  split
  · exact uses_next
  · exact .throw

variable (rules : RulesRead chunk r)

include rules

/-! ### Wildcards and arguments -/

@[grind ←] theorem reads_wild : Reads held chunk (wild r) := by
  unfold wild
  refine .get_bind fun start => .bind_uses uses_next fun used lexeme same => ?_
  subst same
  have plain {held} : Rewinds held start chunk (wild.plain r start) :=
    .bind .set fun _ _ => Reads.rewinds (by grind)
  -- A star behind a name that starts with what has been taken.
  have named {lexeme first} (spells : Spells [lexeme] first) :
      Rewinds [lexeme] start chunk (wild.name r start first) := by
    unfold wild.name
    refine .bind_uses (.of_reads fun _ => .get) fun _ lexemes none => ?_
    subst none
    refine .bind_uses (uses_qualifiedStar _ [first]) fun used found behind => rewinds_of_held fun inside => ?_
    split
    · rename_i star
      obtain ⟨more, place, kept, rfl, spelled, among⟩ := behind star rfl
      refine .pure (Spelled.named (.cons spells spelled) ?_)
      exact ((append_sublist_append_left [lexeme]).mpr among).trans (by simpa using inside)
    · exact plain
  cases lexeme with
  | none => exact plain
  | some lexeme =>
    dsimp only [Option.toList_some, nil_append]
    split
    · exact .pure (by simp)
    · rename_i value quote spelled
      exact named (.word spelled)
    · exact named (.unplaced rfl)
    · exact plain

@[grind ←] theorem reads_namedArgument : Reads held chunk (namedArgument r) := by
  unfold namedArgument
  grind

@[grind ←] theorem reads_argument : Reads held chunk (argument r) := by
  unfold argument
  refine .bind (by grind) fun named _ => ?_
  split
  · exact .pure (by simp)
  · exact .bind (reads_wild rules) fun value fine => by grind

/-! ### Orderings and windows -/

@[grind ←] theorem reads_orderItem : Reads held chunk (orderItem r) := by
  unfold orderItem
  grind

@[grind ←] theorem reads_interval : Reads held chunk (interval r) := by
  unfold interval
  refine .bind (rules.expr 0) fun value fine => .bind .peek fun lexeme _ => ?_
  extract_lets next
  have goesOn (unit : String) : Reads held chunk (next unit) := by
    simp only [next]
    split
    · grind
    · refine .bind reads_optionalPrecision fun precision _ => .bind .word fun upTo _ => ?_
      grind
  clear_value next
  split <;> grind

@[grind ←] theorem reads_frameBound : Reads held chunk (frameBound r) := by
  unfold frameBound
  refine .bind .words fun current _ => ?_
  split
  · exact .pure (by simp)
  · refine .bind .word fun unbounded _ => ?_
    extract_lets next
    have goesOn (rows : String) : Reads held chunk (next rows) := by
      simp only [next]
      grind
    clear_value next
    split
    · grind
    · refine .bind .peek fun lexeme _ => ?_
      split <;> grind

@[grind ←] theorem reads_frame : Reads held chunk (frame r) := by
  unfold frame
  grind

@[grind ←] theorem reads_windowSpec : Reads held chunk (windowSpec r) := by
  unfold windowSpec
  refine .bind .peek fun lexeme _ => ?_
  extract_lets next
  have goesOn (base : Option Ident) (named : AllNames (Named chunk) base) : Reads held chunk (next base) := by
    refine .bind .words fun partitioned _ => .branch (by grind) (by grind) fun partitionBy first => ?_
    refine .bind .words fun ordered _ => .branch (by grind) (by grind) fun orderBy second => ?_
    grind
  clear_value next
  split <;> grind

@[grind ←] theorem reads_overWindow : Reads held chunk (overWindow r) := by
  unfold overWindow
  grind

/-! ### Calls -/

@[grind ←] theorem reads_onOverflow : Reads held chunk (onOverflow r) := by
  unfold onOverflow
  refine .bind .words fun given _ => ?_
  split
  · refine .bind .word fun error _ => ?_
    split
    · exact .pure (by simp)
    · refine .bind .expectWord fun _ _ => .bind .peek fun lexeme _ => ?_
      extract_lets next
      have goesOn (filler : Option String) : Reads held chunk (next filler) := by
        simp only [next]
        grind
      clear_value next
      split
      · grind
      · split <;> grind
  · exact .pure (by simp)

@[grind ←] theorem reads_argumentList : Reads held chunk (argumentList r) := by
  unfold argumentList
  refine .bind reads_jsonNulls fun first _ => .bind .symbol fun closed _ => ?_
  split
  · exact .pure (by simp)
  · refine .bind reads_duplicates fun unique _ => .bind (by grind) fun arguments fine => ?_
    refine .bind reads_nullTreatment fun nulls _ => .bind .words fun ordered _ => ?_
    extract_lets next
    have goesOn (order : Option String) : Reads held chunk (next order) := by
      refine .bind .word fun limited _ => .branch (by grind) (by grind) fun limit _ => ?_
      refine .bind .word fun filtered _ => ?_
      extract_lets next
      have goesOn (having : Option String) : Reads held chunk (next having) := by
        refine .bind (reads_onOverflow rules) fun overflow _ => .bind reads_jsonNulls fun last _ => ?_
        grind
      clear_value next
      grind
    clear_value next
    grind

@[grind ←] theorem reads_callOf {name : List Ident} (named : Named chunk name) :
    Reads held chunk (callOf r name braces) := by
  unfold callOf
  refine .bind .expectSymbol fun _ _ => .bind (reads_argumentList rules) fun given fine => ?_
  obtain ⟨unique, arguments, clauses, nullsSaid⟩ := given
  refine .bind .words fun grouped _ => ?_
  extract_lets next
  have goesOn (withinGroup : Option String) : Reads held chunk (next withinGroup) := by
    refine .branch (by grind) (by grind) fun nulls _ => ?_
    refine .bind .word fun analytic _ => .branch (by grind) (by grind) fun window found => ?_
    grind
  clear_value next
  grind

/-! ### Words with a meaning of their own -/

@[grind ←] theorem reads_caseExpr : Reads held chunk (caseExpr r) := by
  unfold caseExpr
  refine .bind .word fun plain _ => ?_
  extract_lets branch next
  have each : Reads [] chunk branch := by grind
  clear_value branch
  have goesOn (operand : Option Expr) (fine : AllNames (Named chunk) operand) : Reads held chunk (next operand) := by
    refine .bind .get fun _ _ => .bind (reads_repeated each .word) fun branches given => ?_
    refine .bind .word fun last _ => .branch (by grind) (by grind) fun otherwise ending => ?_
    grind
  clear_value next
  grind

@[grind ←] theorem reads_castExpr : Reads held chunk (castExpr r name) := by
  unfold castExpr
  refine .bind .expectSymbol fun _ _ => .bind (rules.expr 0) fun operand fine => ?_
  refine .bind .expectWord fun _ _ => .bind .dataType fun type _ => ?_
  refine .bind .word fun formatted _ => ?_
  extract_lets next
  have goesOn (format : Option String) : Reads held chunk (next format) := by
    simp only [next]
    refine .bind .expectSymbol fun _ _ => ?_
    split
    · exact .pure (by simp [foreign])
    · split
      · exact .pure (by simpa using fine)
      · exact .pure (by simpa using fine)
      · exact .pure (by simp)
  clear_value next
  grind

@[grind ←] theorem reads_convertExpr : Reads held chunk (convertExpr r) := by
  unfold convertExpr foreign
  refine .bind .expectSymbol fun _ _ => .bind (rules.expr 0) fun operand fine => ?_
  refine .bind .word fun charset _ => ?_
  grind

@[grind ←] theorem reads_queryInParens : Reads held chunk (queryInParens r) := by
  unfold queryInParens
  grind

@[grind ←] theorem reads_extractExpr : Reads held chunk (extractExpr r) := by
  unfold extractExpr
  grind

@[grind ←] theorem reads_roundingExpr :
    Reads held chunk (roundingExpr r name) := by
  unfold roundingExpr
  refine .bind .expectSymbol fun _ _ => .bind (rules.expr 0) fun operand fine => ?_
  refine .bind .word fun upTo _ => ?_
  split <;> grind

@[grind ←] theorem reads_positionExpr {name : Ident} (named : Named chunk [name]) :
    Reads held chunk (positionExpr r name) := by
  unfold positionExpr foreign
  refine .bind (reads_optionally ?_) fun found fine => ?_
  · refine .bind .expectSymbol fun _ _ => .bind (rules.expr _) fun part _ => ?_
    grind
  · grind

@[grind ←] theorem reads_substringExpr : Reads held chunk (substringExpr r) := by
  unfold substringExpr
  refine .bind .expectSymbol fun _ _ => .bind (rules.expr 0) fun operand fine => ?_
  refine .bind .symbol fun commas _ => ?_
  extract_lets next
  have goesOn (start : Option Expr) (given : AllNames (Named chunk) start) : Reads held chunk (next start) := by
    simp only [next]
    grind
  clear_value next
  grind

@[grind ←] theorem reads_overlayExpr : Reads held chunk (overlayExpr r) := by
  unfold overlayExpr foreign
  refine .bind .expectSymbol fun _ _ => .bind (rules.expr 0) fun operand _ => ?_
  refine .bind .expectWord fun _ _ => .bind (rules.expr 0) fun what _ => ?_
  grind

@[grind ←] theorem reads_trimExpr : Reads held chunk (trimExpr r) := by
  unfold trimExpr foreign
  refine .bind .expectSymbol fun _ _ => .bind .oneOf fun side _ => ?_
  refine .bind (rules.expr 0) fun first fine => .bind .word fun apart _ => ?_
  split
  · grind
  · refine .bind .symbol fun listed _ => ?_
    split
    · grind
    · refine .bind .expectSymbol fun _ _ => ?_
      split
      · exact .pure (by simp)
      · exact .pure (by simpa using fine)

@[grind ←] theorem reads_arrayItems : Reads held chunk (arrayItems r named) := by
  unfold arrayItems
  grind

@[grind ←] theorem reads_notExpr : Reads held chunk (notExpr r) := by
  unfold notExpr
  grind

@[grind ←] theorem reads_structExpr : Reads held chunk (structExpr r lexeme) := by
  unfold structExpr foreign
  refine .bind (by grind) fun given _ => ?_
  obtain ⟨fields, closed⟩ := given
  dsimp only
  split
  · grind
  · refine .bind (reads_parenthesized (reads_commaSeparated ?_)) fun values _ => .pure (by simp)
    refine .bind (rules.expr 0) fun value _ => .bind .peek fun lexeme _ => ?_
    grind

@[grind ←] theorem reads_timeFunction {name : Ident} (named : Named chunk [name]) :
    Reads held chunk (timeFunction r name) := by
  unfold timeFunction
  refine .bind .symbol fun opened _ => ?_
  split
  · refine .bind (reads_argumentList rules) fun given fine => ?_
    obtain ⟨unique, arguments, clauses, _⟩ := given
    exact .pure (by simp_all)
  · exact .pure named

@[grind ←] theorem reads_specialForm {lexeme : Lexeme} {name : Ident}
    (named : Named chunk [name]) : Reads held chunk (specialForm r lexeme name) := by
  unfold specialForm
  split <;> grind

theorem reads_nameOrCall {name : Ident} (spells : Spells [lexeme] name) :
    Reads [lexeme] chunk (nameOrCall r name) := by
  refine .of_held fun here => ?_
  have alone : Named chunk [name] := spells.alone.named here
  have parts : Reads [lexeme] chunk (do
      let rest ← nameParts ((← get).length + 1)
      if ← peekSymbol .openParen then callOf r (name :: rest) false
      else return .name (name :: rest)) := by
    refine .bind .get fun _ _ => .bind_uses (uses_nameParts _) fun used rest spelled => ?_
    refine .of_held fun inside => ?_
    have named : Named chunk (name :: rest) := Spelled.named (.cons spells spelled) inside
    grind
  unfold nameOrCall
  refine .bind .peek fun next _ => ?_
  split
  · exact parts
  · exact parts
  · unfold foreign
    split <;> grind
  · grind

theorem reads_wordExpr {name : Ident} (spells : Spells [lexeme] name) :
    Reads [lexeme] chunk (wordExpr r lexeme name) := by
  refine .of_held fun here => ?_
  have named : Named chunk [name] := spells.alone.named here
  unfold wordExpr
  refine .bind (reads_outcome_attempt (reads_specialForm rules named)) fun special fine => ?_
  split
  · exact .pure (by simp_all)
  · exact .bind_held (reads_nameOrCall rules spells) fun value fine => .pure (by simp_all)
  · split
    · exact .throw
    · refine .bind_held (reads_outcome_attempt (reads_nameOrCall rules spells)) fun value fine => ?_
      split
      · exact .pure (by simp_all)
      · exact .throw

@[grind ←] theorem reads_parenExpr : Reads held chunk (parenExpr r) := by
  unfold parenExpr foreign
  refine .bind .peekQuery fun isQuery _ => ?_
  extract_lets next
  have goesOn (inner : Expr) (fine : inner.AllNames (Named chunk)) : Reads held chunk (next inner) := by
    refine .bind .expectSymbol fun _ _ => .bind .symbol fun dot _ => ?_
    split
    · refine .bind_uses uses_next fun used lexeme same => .of_held fun inside => ?_
      subst same
      cases lexeme with
      | none => exact .failAt
      | some lexeme =>
        dsimp only [Option.bind_some]
        split
        · rename_i name is
          have here : [lexeme].Sublist chunk := (sublist_append_right held [lexeme]).trans inside
          exact .pure ⟨fine, (spells_identOf is).alone.named here⟩
        · exact .failAt
    · exact .pure fine
  clear_value next
  split
  · grind
  · refine .bind (reads_commaSeparated (rules.expr 0)) fun values given => ?_
    split <;> grind

@[grind ←] theorem reads_typedLiteral : Reads held chunk (typedLiteral r) := by
  unfold typedLiteral
  grind

@[grind ←] theorem reads_bracedCall : Reads held chunk (bracedCall r) := by
  unfold bracedCall
  refine .bind .expectWord fun _ _ => .bind_uses uses_objectName fun used name cut => ?_
  refine .of_held fun inside => ?_
  obtain ⟨words, spelled, rfl⟩ := cut
  exact reads_callOf rules (spelled.named_splitDotted ((sublist_append_right held used).trans inside))

theorem reads_symbolExpr :
    Reads [lexeme] chunk (symbolExpr r lexeme) := by
  unfold symbolExpr
  have literals : Reads [lexeme] chunk (do modify (lexeme :: ·); return Expr.literal (← literal)) := by
    refine @Reads.putBack _ _ [lexeme] chunk _ ?_
    grind
  split
  case h_6 | h_7 => exact literals
  all_goals grind

@[grind ←] theorem reads_primary : Reads held chunk (primary r) := by
  refine Reads.holding ?_
  unfold primary
  refine .bind (by grind) fun typed fine => ?_
  split
  · exact .pure (by simpa using fine)
  · refine .bind_uses uses_next fun used lexeme same => ?_
    subst same
    cases lexeme with
    | none => exact .expected
    | some lexeme =>
      extract_lets next
      have goesOn (value : Expr × Bool) (fine : AllNames (Named chunk) value) : Reads [] chunk (next value) := by
        obtain ⟨value, collates⟩ := value
        simp only [next, foreign]
        grind
      clear_value next
      dsimp only
      split
      · rename_i value quote spelled
        exact .bind_held (reads_wordExpr rules (.word spelled)) goesOn
      · rw [map_eq_pure_bind]
        refine .bind_held (.bind_held (reads_symbolExpr rules) fun value fine => ?_) goesOn
        exact .pure (by simpa using fine)

/-! ### Operators -/

@[grind ←] theorem reads_inExpr
    (fine : operand.AllNames (Named chunk)) : Reads held chunk (inExpr r operand negated) := by
  unfold inExpr
  refine .bind .word fun array _ => ?_
  split
  · grind
  · refine .bind .expectSymbol fun _ _ => .bind .peekQuery fun isQuery _ => ?_
    grind

@[grind ←] theorem reads_betweenExpr
    (fine : operand.AllNames (Named chunk)) : Reads held chunk (betweenExpr r operand negated) := by
  unfold betweenExpr
  grind

@[grind ←] theorem reads_patternExpr
    (fine : operand.AllNames (Named chunk)) : Reads held chunk (patternExpr r operand negated name) := by
  unfold patternExpr foreign
  refine .branch (by grind) (by grind) fun any _ => .bind (rules.expr _) fun pattern given => ?_
  grind

@[grind ←] theorem reads_isExpr
    (fine : operand.AllNames (Named chunk)) : Reads held chunk (isExpr r operand) := by
  have test {words} : AllNames (Named chunk) (isExpr.test operand words) := by simp [isExpr.test, foreign]
  unfold isExpr
  refine .choice .word (.pure fine) (.choice .words (.pure fine) ?_)
  refine .choice .word (.pure test) (.choice .words (.pure test) ?_)
  refine .choice .word (.pure test) (.choice .words (.pure test) ?_)
  refine .choice .word (.pure test) (.choice .words (.pure test) ?_)
  refine .choice .words ?_ (.choice .words ?_ ?_)
  · exact .bind (rules.expr 0) fun _ _ => .pure test
  · exact .bind (rules.expr 0) fun _ _ => .pure test
  · exact .bind .peek fun _ _ => .expected

@[grind ←] theorem reads_testExpr
    (fine : operand.AllNames (Named chunk)) : Reads held chunk (testExpr r operand) := by
  unfold testExpr foreign
  refine .bind .word fun negated _ => .bind .word fun regexp _ => ?_
  refine .bind .word fun rlike _ => ?_
  split
  · grind
  · refine .choice .word (by grind) (.choice .word (by grind) ?_)
    refine .choice .word (by grind) (.choice .word (by grind) ?_)
    refine .choice .words (by grind) (by grind)

theorem reads_quantified : Reads held chunk (quantified r left op operator strength quantifier) := by
  refine Reads.holding ?_
  unfold quantified foreign
  refine .bind_uses uses_expectedSymbol fun used opened same => ?_
  subst same
  refine .bind .peekQuery fun isQuery _ => ?_
  extract_lets next
  have goesOn (right : Expr) : Reads [] chunk (next right) := by
    simp only [next]
    split
    · exact .failAt
    · exact .pure (by simp)
  clear_value next
  split
  · exact .putBack (.bind (rules.expr strength) fun right _ => goesOn right)
  · refine Reads.holding ?_
    grind

@[grind ←] theorem reads_accessKeys (fine : base.AllNames (Named chunk)) :
    Reads held chunk (accessKeys r fuel base) := by
  refine Reads.holding ?_
  induction fuel generalizing base with
  | zero => exact .pure fine
  | succ fuel ih =>
    unfold accessKeys
    grind

theorem reads_operation (fine : left.AllNames (Named chunk)) : Reads held chunk (operation r left strength) := by
  refine Reads.holding ?_
  unfold operation
  refine .bind_uses uses_next fun used lexeme same => ?_
  subst same
  cases lexeme with
  | none => exact .pure fine
  | some lexeme =>
    dsimp only
    split
    · refine .bind .oneOf fun quantifier _ => ?_
      split
      · exact reads_quantified rules
      · grind
    · split
      · grind
      · grind
      · grind
      · -- A word: it is put back for the tests that may be negated.
        have tests : Reads [lexeme] chunk (do modify (lexeme :: ·); testExpr r left) :=
          @Reads.putBack _ _ [lexeme] chunk _ (reads_testExpr rules fine)
        split
        case h_1 => exact reads_isExpr rules fine
        case h_2 =>
          unfold foreign
          grind
        case h_11 => exact .failAt
        all_goals exact tests

@[grind ←] theorem reads_operations (fine : left.AllNames (Named chunk)) :
    Reads held chunk (operations r strength fuel left) := by
  refine Reads.holding ?_
  induction fuel generalizing left with
  | zero => exact .pure fine
  | succ fuel ih =>
    refine .bind reads_operatorStrength fun next _ => ?_
    split
    · exact .pure fine
    · exact .bind (reads_operation rules fine) fun joined given => ih given

theorem reads_expression : Reads held chunk (expression r strength) := by
  unfold expression
  grind

end

end SqlLens.Grammar
