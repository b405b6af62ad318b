import SqlLens.Proofs.Grammar.Expressions
import SqlLens.Grammar.Statement

/-!
The names in a query are spelled in the lexemes that it is read from (`readStatement_named`).

Of a statement only the queries matter: the readers of other statements are not followed, since none of them gives a
query (`Queryless`).
-/

namespace SqlLens.Grammar

variable {held chunk : List Lexeme} {r : Rules} {table : Source} {fuel : Nat} {factor : Reader Source}

/-! ### Readers that stay on their level -/

@[grind ←] theorem reads_aliasColumns : Reads held chunk aliasColumns := by
  unfold aliasColumns
  grind

@[grind ←] theorem reads_tableAlias : Reads held chunk tableAlias := by
  unfold tableAlias
  grind

@[grind ←] theorem reads_namedText (given : Reads [] chunk value) : Reads held chunk (namedText value) := by
  unfold namedText
  grind

@[grind ←] theorem reads_unpivot : Reads held chunk (unpivot table) := by
  unfold unpivot
  refine .bind .expectSymbol fun _ _ => .bind .identifier fun value _ => ?_
  refine .bind .expectWord fun _ _ => .bind .identifier fun name _ => ?_
  grind

@[grind ←] theorem reads_fallbacks : Reads held chunk (fallbacks fuel onEmpty onError) := by
  refine Reads.holding ?_
  induction fuel generalizing onEmpty onError with
  | zero => exact .pure (by simp)
  | succ fuel ih =>
    unfold fallbacks
    refine .bind .oneOf fun found _ => ?_
    extract_lets next
    have goesOn (value : Option String) : Reads [] chunk (next value) := by
      simp only [next]
      grind
    clear_value next
    split <;> grind

@[grind ←] theorem reads_documentColumn : Reads held chunk (documentColumn fuel) := by
  refine Reads.holding ?_
  induction fuel with
  | zero => exact .throw
  | succ fuel ih =>
    unfold documentColumn
    refine .choice .word ?_ ?_
    · refine .bind .word fun _ _ => .bind .literal fun path _ => ?_
      grind
    · refine .bind .identifier fun name _ => .choice .word (by grind) ?_
      refine .bind .dataType fun type _ => .bind .word fun exist _ => ?_
      grind

@[grind ←] theorem reads_wordBeforeParen : Reads held chunk (wordBeforeParen wanted) := by
  unfold wordBeforeParen
  grind

@[grind ←] theorem reads_joinOp {natural : Bool} : Reads held chunk (joinOp natural) := by
  unfold joinOp joinOp.plain joinOp.side
  refine .bind .peek fun lexeme _ => ?_
  split <;> grind

theorem allNames_foldl_comma {rest : List Source} (fine : first.AllNames P) (all : AllNames P rest) :
    (rest.foldl Source.comma first).AllNames P := by
  induction rest generalizing first with
  | nil => exact fine
  | cons next rest ih => grind

@[simp, grind ←] theorem named_nil : Named chunk [] := Spelled.nil.named (List.nil_sublist _)

@[grind ←] theorem reads_starExcept : Reads held chunk starExcept := by
  unfold starExcept
  grind

@[grind ←] theorem reads_anotherItem : Reads held chunk anotherItem := by
  unfold anotherItem
  refine .choice .symbol (.bind .peek fun lexeme _ => ?_) (by grind)
  split
  · grind
  · split <;> grind

@[grind ←] theorem reads_intoClause : Reads held chunk intoClause := by
  unfold intoClause
  grind

@[grind ←] theorem reads_tableBody : Reads held chunk tableBody := by
  unfold tableBody tableBody.nameOf
  refine .bind .next fun first _ => .bind .next fun second _ => ?_
  grind

@[grind ←] theorem reads_setQuantifier : Reads held chunk setQuantifier := by
  unfold setQuantifier
  grind

@[grind ←] theorem reads_fetchClause : Reads held chunk fetchClause := by
  refine Reads.holding ?_
  unfold fetchClause
  refine .choice .word ?_ (by grind)
  refine .bind reads_expectOneOf fun _ _ => .bind .oneOf fun bare _ => ?_
  extract_lets next
  have goesOn (quantity : String) : Reads [] chunk (next quantity) := by
    simp only [next]
    grind
  clear_value next
  split
  · grind
  · refine .bind .literal fun value _ => ?_
    grind

@[grind ←] theorem reads_textInParens : Reads held chunk textInParens := by
  unfold textInParens
  grind

@[grind ←] theorem reads_documentWords : Reads held chunk (documentWords wanted pairs fuel seen) := by
  refine Reads.holding ?_
  induction fuel generalizing seen with
  | zero => exact .pure (by simp)
  | succ fuel ih =>
    unfold documentWords
    refine .choice .symbol (.choice .word (by grind) ?_) (by grind)
    grind

@[grind ←] theorem reads_documentClause : Reads held chunk documentClause := by
  unfold documentClause
  refine .choice .word ?_ (.choice .word (by grind) (by grind))
  refine .bind .oneOf fun form _ => ?_
  grind

@[grind ←] theorem reads_forClauses : Reads held chunk (forClauses fuel) := by
  refine Reads.holding ?_
  induction fuel with
  | zero => exact .pure (by simp)
  | succ fuel ih =>
    unfold forClauses
    refine .choice .word ?_ (by grind)
    refine .bind reads_documentClause fun form _ => ?_
    split
    · grind
    · refine .bind reads_expectOneOf fun kind _ => .bind .word fun named _ => ?_
      refine .branch (by grind) (by grind) fun name _ => ?_
      grind

@[grind ←] theorem reads_conflictWords : Reads held chunk conflictWords := by
  unfold conflictWords
  refine reads_of_rewinds fun start => .bind (.forIn (by simp) fun action state => ?_) fun state _ => ?_
  · refine .bind Reads.words.rewinds fun taken _ => ?_
    split <;> exact .pure (by simp)
  · dsimp only
    split
    · exact .pure (by simp)
    · exact Reads.rewinds (by grind)

@[grind ←] theorem reads_peekQueryInParens : Reads held chunk peekQueryInParens := by
  unfold peekQueryInParens
  grind

@[grind ←] theorem reads_fileFormat : Reads held chunk fileFormat := by
  unfold fileFormat
  grind

section

variable (rules : RulesRead chunk r)

include rules

/-! ### Tables -/

@[grind ←] theorem reads_aggregateText : Reads held chunk (aggregateText r) := by
  have named {name} : Named chunk [⟨name, none, none⟩] :=
    (Spells.unplaced rfl).alone.named (List.nil_sublist _)
  unfold aggregateText
  grind

@[grind ←] theorem reads_pivot : Reads held chunk (pivot r table) := by
  unfold pivot
  refine .bind .expectSymbol fun _ _ => .bind (by grind) fun aggregates _ => ?_
  refine .bind .expectWord fun _ _ => .bind reads_objectName fun column _ => ?_
  refine .bind .expectWord fun _ _ => .bind .expectSymbol fun _ _ => ?_
  refine .bind .word fun any _ => ?_
  extract_lets next
  have goesOn (values : String) : Reads held chunk (next values) := by
    refine .bind .expectSymbol fun _ _ => .bind .words fun default _ => ?_
    grind
  clear_value next
  grind

@[grind ←] theorem reads_pivots
    (fine : table.AllNames (Named chunk)) : Reads held chunk (pivots r fuel table) := by
  refine Reads.holding ?_
  induction fuel generalizing table with
  | zero => exact .pure fine
  | succ fuel ih =>
    unfold pivots
    grind

@[grind ←] theorem reads_tableArguments : Reads held chunk (tableArguments r) := by
  unfold tableArguments
  grind

@[grind ←] theorem reads_derivedTable : Reads held chunk (derivedTable r lateral) := by
  unfold derivedTable
  grind

@[grind ←] theorem reads_unnestTable : Reads held chunk (unnestTable r) := by
  unfold unnestTable
  refine .bind (by grind) fun arrays fine => .bind .words fun ordinality _ => ?_
  refine .bind reads_tableAlias fun aliasName named => .bind .word fun counted _ => ?_
  refine .branch (by grind) (by grind) fun offset _ => .branch (by grind) (by grind) fun offsetAlias given => ?_
  grind

@[grind ←] theorem reads_documentTable : Reads held chunk (documentTable r) := by
  unfold documentTable
  refine .bind .expectSymbol fun _ _ => .bind (rules.expr 0) fun document _ => ?_
  refine .bind .expectSymbol fun _ _ => .bind .literal fun path _ => ?_
  refine .bind .expectWord fun _ _ => .bind (by grind) fun columns _ => ?_
  grind

@[grind ←] theorem reads_openDocument : Reads held chunk (openDocument r) := by
  unfold openDocument
  refine .bind .expectSymbol fun _ _ => .bind (rules.expr 0) fun document _ => ?_
  refine .bind .symbol fun comma _ => .branch (by grind) (by grind) fun path _ => ?_
  refine .bind .expectSymbol fun _ _ => ?_
  extract_lets column
  have each : Reads [] chunk column := by
    refine .bind .identifier fun name _ => .bind .dataType fun type _ => ?_
    refine .bind .peek fun lexeme _ => ?_
    extract_lets next
    have goesOn (path : Option String) : Reads [] chunk (next path) := by
      simp only [next]
      grind
    clear_value next
    split <;> grind
  clear_value column
  grind

@[grind ←] theorem reads_namedTable : Reads held chunk (namedTable r) := by
  unfold namedTable
  refine .bind reads_tableName fun name named => ?_
  refine .bind .words fun dated _ => .branch (by grind) (by grind) fun version _ => ?_
  refine .bind .symbol fun opened _ => .branch (by grind) (by grind) fun arguments _ => ?_
  refine .bind .words fun ordinality _ => .bind reads_tableAlias fun aliasName given => ?_
  refine .get_bind fun start => .bind Reads.word.rewinds fun hinted _ => ?_
  extract_lets next
  have goesOn (hints : Option String) : Reads [] chunk (next hints) := by
    simp only [next]
    grind
  clear_value next
  split
  · refine .bind Reads.symbol.rewinds fun opened _ => ?_
    split
    · exact Reads.rewinds (by grind)
    · exact .bind .set fun _ _ => Reads.rewinds (by grind)
  · exact Reads.rewinds (by grind)

/-! ### Joins -/

@[grind ←] theorem reads_joinConstraint : Reads held chunk (joinConstraint r) := by
  unfold joinConstraint
  grind

theorem reads_joinAfter (factors : Reads [] chunk factor) (fine : left.AllNames (Named chunk)) :
    Reads held chunk (joinAfter r factor left) := by
  refine Reads.holding ?_
  have joined {isGlobal op right words condition}
      (here : AllNames (Named chunk) right) (given : AllNames (Named chunk) condition) :
      AllNames (Named chunk) (some (left.join isGlobal op right words condition)) := by
    simp_all
  unfold joinAfter
  refine .bind .word fun isGlobal _ => .choice .word ?_ ?_
  · grind
  refine .choice .word (by grind) (.choice .word ?_ ?_)
  · refine .bind .expectWord fun _ _ => .bind factors fun right _ => ?_
    refine .bind .expectWord fun _ _ => .bind (by grind) fun condition _ => ?_
    grind
  · refine .bind .word fun natural _ => .bind reads_joinOp fun op _ => ?_
    cases op with
    | none => exact .pure (by simp)
    | some op =>
      dsimp only
      refine .bind factors fun right _ => ?_
      grind

theorem reads_joins (factors : Reads [] chunk factor) (fine : left.AllNames (Named chunk)) :
    Reads held chunk (joins r factor fuel left) := by
  refine Reads.holding ?_
  induction fuel generalizing left with
  | zero => exact .pure fine
  | succ fuel ih =>
    unfold joins
    refine .bind (reads_joinAfter rules factors fine) fun joined given => ?_
    grind

@[grind ←] theorem reads_joinedTables
    (factors : Reads [] chunk factor) : Reads held chunk (joinedTables r factor) := by
  unfold joinedTables
  refine .bind factors.holding fun first fine => .bind .get fun left _ => ?_
  exact reads_joins rules factors (by simpa using fine)

@[grind ←] theorem reads_tableFactor : Reads held chunk (tableFactor r fuel) := by
  refine Reads.holding ?_
  induction fuel with
  | zero => exact .throw
  | succ fuel ih =>
    unfold tableFactor
    refine .choice .word ?_ (.choice .word (by grind) (.choice .symbol ?_ (by grind)))
    · refine .choice .symbol (by grind) ?_
      grind
    · refine .bind (by grind) fun table fine => ?_
      cases table with
      | some table => grind
      | none =>
        dsimp only
        refine .bind (reads_joinedTables rules ih) fun tables fine => ?_
        split <;> grind

@[grind ←] theorem reads_tables : Reads held chunk (tables r) := by
  unfold tables
  grind

@[grind ←] theorem reads_fromItems : Reads held chunk (fromItems r) := by
  unfold fromItems
  refine .bind (by grind) fun items fine => ?_
  split
  · obtain ⟨first, rest⟩ := allNames_cons.mp fine
    exact .pure (allNames_foldl_comma first rest)
  · exact .pure (by simp)

/-! ### Select lists and clauses -/

@[grind ←] theorem reads_starReplace : Reads held chunk (starReplace r) := by
  unfold starReplace
  refine .choice .word ?_ (by grind)
  refine .choice .symbol ?_ (by grind)
  grind

@[grind ←] theorem reads_starAt : Reads held chunk (starAt r place) := by
  unfold starAt
  grind

@[grind ←] theorem reads_selectItem : Reads held chunk (selectItem r) := by
  unfold selectItem selectItem.aliased
  refine .bind (reads_wild rules) fun item fine => ?_
  split
  · grind
  · grind
  · split <;> grind

@[grind ←] theorem reads_selectItems : Reads held chunk (selectItems r) := by
  unfold selectItems
  grind

@[grind ←] theorem reads_selectDistinct : Reads held chunk (selectDistinct r) := by
  unfold selectDistinct
  refine .bind .peek fun start _ => .bind .word fun all _ => ?_
  grind

@[grind ←] theorem reads_topClause : Reads held chunk (topClause r) := by
  unfold topClause
  refine .choice .word (.choice .symbol ?_ (by grind)) (by grind)
  refine .bind (by grind) fun value _ => .bind .expectSymbol fun _ _ => ?_
  grind

@[grind ←] theorem reads_lateralViews :
    Reads held chunk (lateralViews r fuel) := by
  refine Reads.holding ?_
  induction fuel with
  | zero => exact .pure (by simp)
  | succ fuel ih =>
    unfold lateralViews
    grind

@[grind ←] theorem reads_sortingClause : Reads held chunk (sortingClause r name) := by
  unfold sortingClause
  grind

@[grind ←] theorem reads_namedWindow : Reads held chunk (namedWindow r) := by
  unfold namedWindow
  grind

@[grind ←] theorem reads_clauseOf : Reads held chunk (clauseOf r keyword) := by
  unfold clauseOf
  grind

@[grind ←] theorem reads_windowsAndQualify : Reads held chunk (windowsAndQualify r) := by
  unfold windowsAndQualify
  refine .choice .word (by grind) (.choice .word ?_ (by grind))
  refine .bind (by grind) fun filter fine => ?_
  grind

@[grind ←] theorem reads_select : Reads held chunk (select r) := by
  refine Reads.holding ?_
  unfold select
  refine .bind reads_expectedWord fun keyword _ => .bind .word fun valued _ => ?_
  extract_lets next
  have goesOn (valueTable : Option String) : Reads [] chunk (next valueTable) := by
    refine .bind (by grind) fun distinct _ => .bind (by grind) fun top _ => ?_
    refine .bind (by grind) fun items listed => .bind reads_intoClause fun into _ => ?_
    refine .bind .word fun sourced _ => ?_
    extract_lets next
    have goesOn (source : Source) (given : source.AllNames (Named chunk)) : Reads [] chunk (next source) := by
      refine .bind .get fun left _ => .bind (by grind) fun views _ => ?_
      refine .bind (by grind) fun selection wanted => .bind .words fun grouped _ => ?_
      extract_lets next
      have goesOn (all : Bool) (groupBy : List Expr) (keyed : AllNames (Named chunk) groupBy) :
          Reads [] chunk (next (all, groupBy)) := by
        refine .bind (by grind) fun cluster _ => .bind (by grind) fun distribute _ => ?_
        refine .bind (by grind) fun sort _ => .bind (by grind) fun having kept => ?_
        refine .bind (reads_windowsAndQualify rules) fun found fine => ?_
        obtain ⟨windows, qualify, first⟩ := found
        exact .pure (by simp_all)
      clear_value next
      grind
    clear_value next
    grind
  clear_value next
  grind

/-! ### Bodies -/

@[grind ←] theorem reads_valuesBody : Reads held chunk (valuesBody r) := by
  unfold valuesBody
  grind

@[grind ←] theorem reads_simpleBody : Reads held chunk (simpleBody r) := by
  unfold simpleBody
  grind

theorem reads_setOperations (fine : left.AllNames (Named chunk)) :
    Reads held chunk (setOperations r fuel strength left) := by
  refine Reads.holding ?_
  induction fuel generalizing strength left with
  | zero => exact .pure fine
  | succ fuel ih =>
    unfold setOperations
    refine .bind .peek fun lexeme _ => ?_
    split
    · split
      · exact .pure fine
      · refine .bind .next fun _ _ => .bind reads_setQuantifier fun quantifier _ => ?_
        refine .bind (by grind) fun first here => .bind (ih here) fun right given => ?_
        exact ih (by simp_all)
    · exact .pure fine

@[grind ←] theorem reads_body : Reads held chunk (body r) := by
  unfold body
  refine .bind (by grind) fun first fine => .bind .get fun left _ => ?_
  exact reads_setOperations rules fine

/-! ### Queries -/

@[grind ←] theorem reads_cte : Reads held chunk (cte r) := by
  refine Reads.holding ?_
  unfold cte
  refine .bind .identifier fun name named => ?_
  refine .bind reads_peekWord fun plain _ => ?_
  extract_lets next
  have goesOn (columns : List String) : Reads [] chunk (next columns) := by
    refine .bind .expectWord fun _ _ => .bind .expectSymbol fun _ _ => ?_
    refine .bind (by grind) fun query fine => .bind reads_expectedSymbol fun close _ => ?_
    grind
  clear_value next
  grind

@[grind ←] theorem reads_withClause : Reads held chunk (withClause r) := by
  unfold withClause
  grind

@[grind ←] theorem reads_limitAndOffset (limited : AllNames (Named chunk) limit)
    (shifted : AllNames (Named chunk) offset) :
    Reads held chunk (limitAndOffset r rounds limit offset rows) := by
  refine Reads.holding ?_
  induction rounds generalizing limit offset rows with
  | zero => exact .pure (by simp_all)
  | succ rounds ih =>
    unfold limitAndOffset
    extract_lets next
    have goesOn (limit : Option Expr) (limited : AllNames (Named chunk) limit) : Reads [] chunk (next limit) := by
      simp only [next, pure_bind]
      split
      · refine .choice .word ?_ (ih limited (by simp))
        refine .bind (by grind) fun value fine => .bind .oneOf fun unit _ => ?_
        exact ih limited (by simpa using fine)
      · exact ih limited shifted
    clear_value next
    grind

/-! ### Rows stored and changed -/

@[grind ←] theorem reads_assignment : Reads held chunk (assignment r) := by
  unfold assignment
  refine .bind .symbol fun several _ => ?_
  grind

@[grind ←] theorem reads_returningClause : Reads held chunk (returningClause r) := by
  unfold returningClause
  grind

@[grind ←] theorem reads_onInsert : Reads held chunk (onInsert r) := by
  refine Reads.holding ?_
  unfold onInsert
  refine .choice .word (.choice .word ?_ (by grind)) (by grind)
  refine .bind .words fun constraint _ => ?_
  extract_lets next
  have goesOn (target : String) : Reads [] chunk (next target) := by
    refine .bind .expectWord fun _ _ => .choice .word (by grind) ?_
    refine .bind reads_expectWords fun _ _ => ?_
    grind
  clear_value next
  grind

@[grind ←] theorem reads_directoryInsertion : Reads held chunk (directoryInsertion r overwrite isLocal) := by
  unfold directoryInsertion
  refine .bind reads_literalString fun path _ => .bind .words fun stored _ => ?_
  grind

@[grind ←] theorem reads_insertionColumns : Reads held chunk (insertionColumns r) := by
  unfold insertionColumns
  grind

@[grind ←] theorem reads_insertion : Reads held chunk (insertion r) := by
  refine Reads.holding ?_
  unfold insertion
  refine .bind reads_conflictWords fun conflict _ => .bind .word fun overwrite _ => ?_
  refine .bind .word fun into _ => .bind .word fun isLocal _ => ?_
  refine .choice .word (by grind) ?_
  refine .bind .word fun table _ => .bind reads_objectName fun name _ => ?_
  extract_lets head next
  have goesOn (rows : String) : Reads [] chunk (next rows) := by
    simp only [next]
    grind
  clear_value next
  grind

@[grind ←] theorem reads_update : Reads held chunk (update r) := by
  unfold update
  refine .bind reads_conflictWords fun conflict _ => .bind (by grind) fun table _ => ?_
  refine .bind .expectWord fun _ _ => .bind (by grind) fun assignments _ => ?_
  refine .bind .word fun sourced _ => .branch (by grind) (by grind) fun source _ => ?_
  grind

theorem reads_query : Reads held chunk (query r) := by
  unfold query
  refine .bind (reads_withClause rules) fun found fine => ?_
  obtain ⟨head, entries⟩ := found
  dsimp only
  refine .choice .word (by grind) (.choice .word (by grind) ?_)
  refine .bind (reads_body rules) fun body given => .bind .words fun ordered _ => ?_
  refine .branch (by grind) (by grind) fun orderBy sorted => ?_
  refine .bind (by grind) fun bounds bounded => .bind reads_fetchClause fun fetch _ => ?_
  obtain ⟨limit, offset, rows⟩ := bounds
  refine .bind .get fun left _ => .bind reads_forClauses fun clauses _ => ?_
  exact .pure (by simp_all)

end

/-! ### Statements -/

theorem rulesRead_rules : RulesRead chunk (rules levels) := by
  induction levels with
  | zero => exact ⟨fun _ => .throw, .throw⟩
  | succ levels ih => exact ⟨fun _ => reads_expression ih, reads_query ih⟩

/-- A reader gives statements other than queries only. -/
def Queryless (m : Reader Statement) : Prop :=
  ∀ before query, (m.run.run before).1 ≠ .ok (.query query)

@[grind ←] theorem queryless_throw {failure : Failure} : Queryless (throw failure) := by
  rintro before query ⟨⟩

@[grind ←] theorem queryless_pure {statement : Statement} (other : ∀ query, statement ≠ .query query) :
    Queryless (pure statement) := by
  intro before query gives
  exact other query (Except.ok.inj gives)

@[grind ←] theorem queryless_bind
    (rest : ∀ value, Queryless (f value)) : Queryless (m >>= f) := by
  intro before query
  rw [run_bind]
  cases ran : m.run.run before with
  | mk outcome after =>
    cases outcome with
    | ok value => exact rest value after query
    | error failure => rintro ⟨⟩

@[grind ←] theorem queryless_failAt : Queryless (failAt message lexeme) :=
  queryless_throw

@[grind ←] theorem queryless_expected : Queryless (expected what lexeme) :=
  queryless_failAt

@[grind ←] theorem queryless_other {reader : Reader Unit} : Queryless (otherStatement.other reader) :=
  queryless_bind fun _ => queryless_pure (by simp)

@[grind ←] theorem queryless_explanation : Queryless (explanation r) := by
  have explain : Queryless (pure .explain) := queryless_pure (by simp)
  unfold explanation
  refine queryless_bind fun planned => ?_
  extract_lets next
  have goesOn (u : PUnit) : Queryless (next u) := by
    refine queryless_bind fun explained => ?_
    split
    · exact queryless_throw
    · exact explain
    · exact queryless_bind fun _ => queryless_bind fun _ => explain
  clear_value next
  grind

theorem queryless_otherStatement : Queryless (otherStatement r lexeme) := by
  unfold otherStatement
  split <;> grind

theorem statement_named {before : List Lexeme} {query : Query} (rules : RulesRead chunk r)
    (inside : before.Sublist chunk)
    (ran : (statement r).run.run before = (.ok (.query query), after)) : query.AllNames (Named chunk) := by
  unfold statement at ran
  rw [run_bind] at ran
  have left := (@Reads.peek [] chunk before inside).1
  cases seen : peek.run.run before with
  | mk outcome rest =>
    rw [seen] at ran left
    cases outcome with
    | error failure => cases ran
    | ok lexeme =>
      dsimp only at ran left
      split at ran
      · split at ran
        · rw [run_bind] at ran
          obtain ⟨_, fine⟩ := rules.query rest (left.trans inside)
          cases asked : r.query.run.run rest with
          | mk outcome last =>
            rw [asked] at ran fine
            cases outcome with
            | error failure => cases ran
            | ok found =>
              cases ran
              exact fine query rfl
        · exact absurd (congrArg Prod.fst ran) (queryless_bind (fun _ => queryless_otherStatement) rest query)
      · exact absurd (congrArg Prod.fst ran) (queryless_expected rest query)

theorem readStatement_named {query : Query} (read : readStatement chunk = .ok (.query query, rest)) :
    query.AllNames (Named chunk) := by
  unfold readStatement depthLimit at read
  split at read
  · rename_i found left ran
    cases read
    exact statement_named rulesRead_rules (List.Sublist.refl chunk) ran
  · cases read

end SqlLens.Grammar
