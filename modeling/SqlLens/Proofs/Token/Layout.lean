import SqlLens.Token.Scan
import Mathlib.Data.List.TakeWhile

/-!
Where the tokens of a text lie.

The location after some characters of a text leads back to the number of bytes of these characters
(`offset_advanceAll`). So the lexemes of a text lie one behind the other within it, each as wide as its token needs to
be at least (`laid_of_scan`).
-/

namespace SqlLens

open List

namespace Text

theorem byteLength_append (first second : List Char) :
    byteLength (first ++ second) = byteLength first + byteLength second := by
  induction first with
  | nil => simp [byteLength]
  | cons c rest ih => simp [byteLength, ih, Nat.add_assoc]

theorem lines_ne_nil (text : List Char) : lines text ≠ [] := by
  cases text with
  | nil => simp [lines, splitOn]
  | cons c rest =>
    rw [lines, splitOn]
    split
    · simp
    · split <;> simp

end Text

open Text (byteLength byteLength_append)

namespace LineIndex

theorem columnOffset_append (line rest : List Char) :
    columnOffset (line ++ rest) line.length = byteLength line := by
  induction line with
  | nil => cases rest <;> rfl
  | cons c line ih => simp [columnOffset, byteLength, ih]

theorem lookup_advanceAll (more : List Char) (start line : Nat) (seen : List Char)
    (cut : Text.lines (more ++ rest) = first :: others) :
    ∃ reached column begin content,
      Location.advanceAll ⟨line, seen.length + 1⟩ more = ⟨line + reached, column + 1⟩ ∧
      (number start ((seen ++ first) :: others))[reached]? = some (begin, content) ∧
      begin + columnOffset content column = start + byteLength seen + byteLength more := by
  induction more generalizing start line seen first others with
  | nil =>
    exact ⟨0, seen.length, start, seen ++ first, rfl, rfl, by simp [columnOffset_append, byteLength]⟩
  | cons c more ih =>
    obtain ⟨next, later, cutRest⟩ := exists_cons_of_ne_nil (Text.lines_ne_nil (more ++ rest))
    rw [cons_append, Text.lines, Text.splitOn, ← Text.lines, cutRest] at cut
    by_cases feed : c = '\n'
    · -- The characters before the line feed are a line of their own.
      rw [if_pos feed] at cut
      obtain ⟨rfl, rfl⟩ := cons.inj cut
      obtain ⟨reached, column, begin, content, moved, found, sum⟩ :=
        ih (start + byteLength seen + 1) (line + 1) [] cutRest
      refine ⟨reached + 1, column, begin, content, ?_, ?_, ?_⟩
      · have step : Location.advance ⟨line, seen.length + 1⟩ c = ⟨line + 1, 1⟩ := by simp [Location.advance, feed]
        simpa [Location.advanceAll, step, Nat.add_comm, Nat.add_left_comm] using moved
      · simpa [number] using found
      · have one : c.utf8Size = 1 := by rw [feed]; rfl
        simp only [byteLength, one] at sum ⊢
        omega
    · rw [if_neg feed] at cut
      obtain ⟨rfl, rfl⟩ := cons.inj cut
      obtain ⟨reached, column, begin, content, moved, found, sum⟩ :=
        ih start line (seen ++ [c]) cutRest
      refine ⟨reached, column, begin, content, ?_, by simpa using found, ?_⟩
      · have step : Location.advance ⟨line, seen.length + 1⟩ c = ⟨line, (seen ++ [c]).length + 1⟩ := by
          simp [Location.advance, feed]
        simpa [Location.advanceAll, step] using moved
      · simp only [byteLength_append, byteLength] at sum ⊢
        omega

theorem offset_advanceAll (before after : List Char) :
    (LineIndex.of (before ++ after)).offset (Location.first.advanceAll before) = byteLength before := by
  obtain ⟨first, others, cut⟩ := exists_cons_of_ne_nil (Text.lines_ne_nil (before ++ after))
  obtain ⟨reached, column, begin, content, moved, found, sum⟩ :=
    lookup_advanceAll before 0 1 [] cut
  have lookup : (LineIndex.of (before ++ after)).lines[reached]? = some (begin, content) := by
    rw [LineIndex.of, cut]
    exact found
  rw [Location.first, show (⟨1, 1⟩ : Location) = ⟨1, ([] : List Char).length + 1⟩ from rfl, moved, offset]
  simp only [Nat.add_comm 1 reached, lookup, Nat.add_sub_cancel, sum]
  simp [byteLength]

end LineIndex

/-! ### How wide tokens are -/

/-- The number of bytes that a token takes at least. A word in quotes has two quotes beside its own characters, and a
word with dots is in quotes. -/
def Token.breadth : Token → Nat
  | .word value none => if '.' ∈ value.toList then Text.size value + 2 else max 1 (Text.size value)
  | .word value (some _) => Text.size value + 2
  | .number digits false => max 1 (Text.size digits)
  | _ => 1

theorem Token.breadth_pos (token : Token) : 1 ≤ token.breadth := by
  unfold breadth
  repeat' split
  all_goals omega

namespace Lexer

variable {c : Char} {n : Nat} {token : Token}

theorem one_le_byteLength (c : Char) (more : List Char) : 1 ≤ byteLength (c :: more) :=
  Nat.le_trans (Char.utf8Size_pos c) (Nat.le_add_right _ _)

theorem size_ofList (cs : List Char) : Text.size (String.ofList cs) = byteLength cs := by simp [Text.size]

theorem breadth_word (begins : isWordStart c) (rest : List Char) :
    (word c rest).1.breadth ≤ byteLength (c :: rest.take (word c rest).2) := by
  have taken : rest.take (rest.takeWhile isWordPart).length = rest.takeWhile isWordPart :=
    (prefix_iff_eq_take.mp (List.takeWhile_prefix _)).symm
  have dotless : '.' ∉ c :: rest.takeWhile isWordPart := by
    intro dot
    rcases mem_cons.mp dot with rfl | dot
    · revert begins
      decide
    · exact absurd (mem_takeWhile_imp dot) (by decide)
  simp only [word, Token.breadth, size_ofList, taken, String.toList_ofList, dotless, if_false]
  exact Nat.max_le.mpr ⟨one_le_byteLength _ _, Nat.le_refl _⟩

theorem byteLength_nameBody (found : nameBody cs = some (body, n)) :
    byteLength body + 1 ≤ byteLength (cs.take n) := by
  fun_induction nameBody cs generalizing body n with
  | case1 => cases found
  | case2 =>
    cases found
    decide
  | case3 rest ih =>
    obtain ⟨⟨inner, m⟩, read, same⟩ := Option.map_eq_some_iff.mp found
    cases same
    have := ih read
    simp only [take_succ_cons, byteLength]
    omega
  | case4 =>
    cases found
    simp [byteLength]
    decide
  | case5 c rest _ _ _ ih =>
    obtain ⟨⟨inner, m⟩, read, same⟩ := Option.map_eq_some_iff.mp found
    cases same
    have := ih read
    simp only [take_succ_cons, byteLength]
    omega

theorem exponent_prefix (cs : List Char) : exponent cs <+: cs := by
  unfold exponent
  split
  · rename_i e rest
    split
    · split
      rename_i sign digits parted
      have joined : sign ++ digits = rest := by
        split at parted
        · split at parted <;> cases parted <;> rfl
        · cases parted
          rfl
      dsimp only
      split
      · exact nil_prefix
      · rw [← joined, cons_append]
        exact (prefix_cons_inj e).mpr ((prefix_append_right_inj sign).mpr (List.takeWhile_prefix _))
    · exact nil_prefix
  · exact prefix_refl _

theorem take_append_drop_length (h : front <+: cs) : front ++ cs.drop front.length = cs := by
  obtain ⟨back, rfl⟩ := h
  simp

theorem breadth_number (read : number (c :: rest) = (token, n)) : token.breadth ≤ byteLength (c :: rest.take n) := by
  have least := one_le_byteLength c (rest.take n)
  unfold number at read
  extract_lets whole after at read
  have joined : whole ++ after = c :: rest := take_append_drop_length (List.takeWhile_prefix _)
  clear_value whole after
  split at read
  · cases read
    exact least
  · rename_i point behind fraction last mantissa power long digits _ _ _
    split at read
    · cases read
      exact least
    · cases read
      have first : point ++ behind = after := by
        refine take_append_drop_length ?_
        simp only [point]
        split
        · rename_i dot
          cases after <;> simp_all
        · exact nil_prefix
      have second : fraction ++ last = behind := take_append_drop_length (List.takeWhile_prefix _)
      have third : power <+: last := exponent_prefix last
      have all : digits <+: c :: rest := by
        rw [← joined, ← first, ← second]
        simpa [digits, mantissa] using third
      clear_value long digits
      cases long with
      | true => exact least
      | false =>
        refine Nat.max_le.mpr ⟨least, ?_⟩
        rw [size_ofList]
        cases digits with
        | nil => exact Nat.zero_le _
        | cons d more =>
          obtain ⟨rfl, inside⟩ := cons_prefix_cons.mp all
          simp [← prefix_iff_eq_take.mp inside]

theorem breadth_stringLiteral (read : stringLiteral kind quote escapes before rest = .ok (token, n)) :
    token.breadth = 1 := by
  have single {token : Token} {n : Nat} (read : stringLiteral.single kind quote escapes before rest = .ok (token, n)) :
      token.breadth = 1 := by
    unfold stringLiteral.single at read
    split at read <;> cases read
    rfl
  unfold stringLiteral at read
  split at read
  · split at read
    · split at read
      · split at read <;> cases read
        rfl
      · cases read
        rfl
    · exact single read
  · split at read
    · cases read
      rfl
    · exact single read
  · exact single read

theorem breadth_letteredLiteral (read : letteredLiteral kind rest = .ok (token, n)) : token.breadth = 1 := by
  unfold letteredLiteral at read
  split at read <;> cases read
  rfl

theorem breadth_dollar (read : dollar rest = .ok (token, n)) : token.breadth = 1 := by
  unfold dollar at read
  split at read
  · split at read <;> cases read
    rfl
  · dsimp only at read
    split at read
    · split at read <;> cases read
      rfl
    · cases read
      rfl

theorem breadth_wordOrLiteral (begins : isWordStart c) (read : wordOrLiteral c rest = .ok (token, n)) :
    token.breadth ≤ byteLength (c :: rest.take n) := by
  have least {token : Token} (narrow : token.breadth = 1) : token.breadth ≤ byteLength (c :: rest.take n) := by
    rw [narrow]
    exact one_le_byteLength c _
  unfold wordOrLiteral at read
  split at read
  case h_15 =>
    cases read
    exact breadth_word begins rest
  case h_13 | h_14 =>
    split at read <;> cases read
    exact one_le_byteLength _ _
  case h_9 | h_10 | h_11 | h_12 => exact least (breadth_letteredLiteral read)
  all_goals exact least (breadth_stringLiteral read)

theorem breadth_step (read : step c rest = .ok (token, n)) : token.breadth ≤ byteLength (c :: rest.take n) := by
  have least {token : Token} (narrow : token.breadth = 1) : token.breadth ≤ byteLength (c :: rest.take n) := by
    rw [narrow]
    exact one_le_byteLength c _
  unfold step at read
  split at read
  · rename_i begins
    exact breadth_wordOrLiteral begins read
  · split at read
    · exact breadth_number (Except.ok.inj read)
    · split at read
      case h_5 | h_6 => exact least (breadth_stringLiteral read)
      case h_7 =>
        -- A name in backticks.
        split at read <;> cases read
        rename_i found
        have inner := byteLength_nameBody found
        have opening : Char.utf8Size '\x60' = 1 := rfl
        simp only [Token.breadth, size_ofList, byteLength, opening]
        omega
      case h_10 =>
        split at read <;> cases read
        exact least rfl
      case h_12 => exact least (breadth_dollar read)
      case h_13 =>
        split at read
        · cases read
          exact least rfl
        · cases read
          split <;> exact one_le_byteLength _ _
      all_goals
        cases read
        exact one_le_byteLength _ _

end Lexer

/-! ### Tokens one behind the other -/

/-- Lexemes one behind the other between two offsets, each as wide as its token at least. -/
inductive Laid : Nat → Nat → List Lexeme → Prop
  | nil {lo hi : Nat} (room : lo ≤ hi) : Laid lo hi []
  | cons {lo hi : Nat} {lexeme : Lexeme} {rest : List Lexeme} (behind : lo ≤ lexeme.span.start)
    (wide : lexeme.span.start + lexeme.token.breadth ≤ lexeme.span.stop) (later : Laid lexeme.span.stop hi rest) :
    Laid lo hi (lexeme :: rest)

namespace Laid

variable {lo hi : Nat} {lexeme : Lexeme} {lexemes rest : List Lexeme}

theorem mono (laid : Laid lo hi lexemes) (below : lower ≤ lo) : Laid lower hi lexemes := by
  cases laid with
  | nil room => exact .nil (Nat.le_trans below room)
  | cons behind wide later => exact .cons (Nat.le_trans below behind) wide later

theorem tail (laid : Laid lo hi (lexeme :: rest)) : Laid lo hi rest := by
  cases laid with
  | cons behind wide later => exact later.mono (by omega)

theorem sublist (laid : Laid lo hi lexemes) {some : List Lexeme} (among : some.Sublist lexemes) : Laid lo hi some := by
  induction among generalizing lo with
  | slnil => exact laid
  | cons lexeme _ ih => exact ih laid.tail
  | cons_cons lexeme _ ih =>
    cases laid with
    | cons behind wide later => exact .cons behind wide (ih later)

theorem room (laid : Laid lo hi lexemes) : lo ≤ hi := by
  induction laid with
  | nil room => exact room
  | cons behind wide _ ih => omega

theorem within (laid : Laid lo hi lexemes) (inside : lexeme ∈ lexemes) :
    lo ≤ lexeme.span.start ∧ lexeme.span.start + lexeme.token.breadth ≤ lexeme.span.stop ∧
      lexeme.span.stop ≤ hi := by
  induction laid with
  | nil => cases inside
  | cons behind wide later ih =>
    rcases mem_cons.mp inside with rfl | inside
    · exact ⟨behind, wide, later.room⟩
    · have := ih inside
      omega

end Laid

namespace Scan

/-- The lexemes of the characters of a text after `before`, of which the first `skip` belong to a token that has been
read. -/
theorem laid_place (before cs : List Char) (skip : Nat)
    (read : place (Location.first.advanceAll before) skip cs = .ok placed) :
    Laid (byteLength before + byteLength (cs.take skip)) (byteLength (before ++ cs))
      (placed.map (lexeme (LineIndex.of (before ++ cs)))) := by
  induction cs generalizing before skip placed with
  | nil =>
    cases read
    exact .nil (by simp [byteLength])
  | cons c rest ih =>
    have moved : (Location.first.advanceAll before).advance c = Location.first.advanceAll (before ++ [c]) := by
      simp [Location.advanceAll]
    have joined : before ++ c :: rest = (before ++ [c]) ++ rest := by simp
    cases skip with
    | succ skip =>
      rw [place, moved] at read
      have later := ih (before ++ [c]) skip read
      rw [← joined] at later
      exact later.mono (by simp [byteLength_append, byteLength, Nat.add_assoc])
    | zero =>
      rw [place, moved] at read
      split at read
      · rename_i token n stepped
        split at read
        · rename_i others found
          cases read
          have later := ih (before ++ [c]) n found
          have wide := Lexer.breadth_step stepped
          have start := LineIndex.offset_advanceAll before (c :: rest)
          have stop := LineIndex.offset_advanceAll (before ++ c :: rest.take n) (rest.drop n)
          rw [append_assoc, cons_append, take_append_drop, Location.advanceAll, foldl_append,
            ← Location.advanceAll, ← Location.advanceAll] at stop
          rw [← joined] at later
          simp only [byteLength_append, byteLength] at stop wide
          have reached : (lexeme (LineIndex.of (before ++ c :: rest)) ⟨token, Location.first.advanceAll before,
              (Location.first.advanceAll before).advanceAll (c :: rest.take n)⟩).span =
                Span.upTo (byteLength before)
                  (byteLength before + (c.utf8Size + byteLength (rest.take n))) := by
            simp only [lexeme, start, stop]
          refine .cons ?_ ?_ (later.mono ?_)
          all_goals simp only [reached, Span.upTo, byteLength_append, byteLength]
          · exact Nat.le_refl _
          · simp only [lexeme]
            omega
          · omega
        · cases read
      · cases read

theorem offset_start_lt_stop (read : place .first 0 text = .ok placed) (inside : one ∈ placed) :
    (LineIndex.of text).offset one.start < (LineIndex.of text).offset one.stop := by
  have wide := ((laid_place [] text 0 read).within (mem_map_of_mem inside)).2.1
  have least := one.token.breadth_pos
  simp only [lexeme, Span.upTo, nil_append] at wide
  omega

end Scan

theorem laid_of_scan (read : scan text = .ok lexemes) : Laid 0 (Text.size text) lexemes := by
  unfold scan at read
  dsimp only at read
  split at read
  · rename_i placed found
    cases read
    exact (Scan.laid_place [] text.toList 0 found).mono (Nat.zero_le _)
  · cases read

end SqlLens
