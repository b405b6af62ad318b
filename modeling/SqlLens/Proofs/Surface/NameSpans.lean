import SqlLens.Proofs.Grammar.Reading
import SqlLens.Proofs.Token.Layout
import SqlLens.Surface.Cursor
import Mathlib.Algebra.GroupWithZero.Nat
import Mathlib.Algebra.Order.BigOperators.Group.List
import Mathlib.Algebra.Order.Group.Nat

/-!
Names lie within the tokens of their statement.

A name is spelled by the lexemes it was read from (`Grammar.Named`), and lexemes are as wide as what they spell
(`Laid`). So the bytes that the tree builder finds for a name lie within the tokens of the statement
(`Grammar.Named.fits`), also when a name with dashes spans several tokens, or several names share one.
-/

namespace SqlLens

open Text
open List

variable {name : Ident} {parts group : List Ident}

def Span.Inside (inner outer : Span) : Prop := outer.start ≤ inner.start ∧ inner.stop ≤ outer.stop

/-! ### Texts cut at a separator -/

namespace Text

theorem length_splitOn (separator : Char) (text : List Char) :
    (splitOn separator text).length = text.count separator + 1 := by
  induction text with
  | nil => rfl
  | cons c rest ih =>
    unfold splitOn
    split
    · rename_i same
      simp [same, ih]
    · rename_i other
      rw [count_cons_of_ne other]
      split
      · rename_i none
        simp [none] at ih
      · rename_i piece pieces cut
        simpa [cut] using ih

theorem sum_splitOn (separator : Char) (text : List Char) :
    ((splitOn separator text).map fun piece => byteLength piece + 1).sum ≤ byteLength text + 1 := by
  induction text with
  | nil => exact Nat.le_refl _
  | cons c rest ih =>
    have wide := Char.utf8Size_pos c
    unfold splitOn
    split
    · simp only [map_cons, sum_cons, byteLength]
      omega
    · split
      · simp [byteLength]
      · rename_i piece pieces cut
        simp only [cut, map_cons, sum_cons, byteLength] at ih ⊢
        omega

theorem size_append (first second : String) : size (first ++ second) = size first + size second := by
  simp [size, byteLength_append]

end Text

/-! ### The tokens of a statement among its lexemes -/

def Lexeme.isSolid (lexeme : Lexeme) : Bool := lexeme.piece?.isSome

open Lexeme (isSolid piece?)

theorem Lexeme.piece_eq {lexeme : Lexeme} (made : lexeme.piece? = some piece) :
    piece.span = lexeme.span ∧ lexeme.token.shape? = some piece.shape := by
  obtain ⟨shape, found, rfl⟩ := Option.map_eq_some_iff.mp made
  exact ⟨rfl, found⟩

namespace Laid

theorem eq_of_start (laid : Laid lo hi lexemes) (here : first ∈ lexemes) (there : second ∈ lexemes)
    (same : first.span.start = second.span.start) : first = second := by
  induction laid with
  | nil => cases here
  | cons behind wide later ih =>
    rename_i lexeme rest
    have wider := lexeme.token.breadth_pos
    rcases mem_cons.mp here with rfl | hereLater <;> rcases mem_cons.mp there with rfl | thereLater
    · rfl
    · have := (later.within thereLater).1
      omega
    · have := (later.within hereLater).1
      omega
    · exact ih hereLater thereLater

theorem between (laid : Laid lo hi lexemes) (head : lexemes.head? = some first) (end_ : lexemes.getLast? = some last) :
    Laid first.span.start last.span.stop lexemes := by
  induction laid generalizing first with
  | nil => cases head
  | cons behind wide later ih =>
    rename_i lexeme rest
    cases head
    refine .cons (Nat.le_refl _) wide ?_
    cases rest with
    | nil =>
      cases end_
      exact .nil (Nat.le_refl _)
    | cons next rest =>
      rw [getLast?_cons_cons] at end_
      refine (ih rfl end_).mono ?_
      cases later with
      | cons behind _ _ => exact behind

end Laid

theorem map_span_filterMap_piece (chunk : List Lexeme) :
    (chunk.filterMap piece?).map Piece.span = (chunk.filter isSolid).map Lexeme.span := by
  induction chunk with
  | nil => rfl
  | cons lexeme rest ih =>
    cases made : lexeme.piece? with
    | none => simp [made, isSolid, ih]
    | some piece => simp [made, isSolid, ih, (Lexeme.piece_eq made).1]

theorem laid_solid {lo hi : Nat} (laid : Laid lo hi chunk) {first : Piece} {others : List Piece}
    (cut : chunk.filterMap piece? = first :: others) {span : Span}
    (covers : span = first.span.cover (((first :: others).getLast?.map Piece.span).getD first.span)) :
    Laid span.start span.stop (chunk.filter isSolid) ∧ lo ≤ span.start ∧ span.stop ≤ hi := by
  have spans := map_span_filterMap_piece chunk
  have solid : Laid lo hi (chunk.filter isSolid) := laid.sublist filter_sublist
  generalize chunk.filter isSolid = lexemes at spans solid
  rw [cut] at spans
  cases lexemes with
  | nil => cases spans
  | cons lexeme rest =>
    obtain ⟨last, ends⟩ : ∃ last, (lexeme :: rest).getLast? = some last := by simp [getLast?_cons]
    have firstSpan : first.span = lexeme.span := (cons.inj spans).1
    have lastSpan : (first :: others).getLast?.map Piece.span = some last.span := by
      rw [← getLast?_map, spans, getLast?_map, ends, Option.map_some]
    have tight := solid.between rfl ends
    have before := solid.within mem_cons_self
    have after := solid.within (mem_of_getLast? ends)
    have inner := tight.within mem_cons_self
    have outer := tight.within (mem_of_getLast? ends)
    have starts : span.start = lexeme.span.start := by
      rw [covers, lastSpan, firstSpan]
      exact Nat.min_eq_left outer.1
    have stops : span.stop = last.span.stop := by
      rw [covers, lastSpan, firstSpan]
      exact Nat.max_eq_right inner.2.2
    rw [starts, stops]
    exact ⟨tight, before.1, after.2.2⟩

/-! ### How far names reach -/

def Ident.extent (name : Ident) : Nat :=
  if '.' ∈ name.value.toList then size name.value + 1 else size name.value

theorem Ident.size_le_extent (name : Ident) : size name.value ≤ name.extent := by
  unfold extent
  split <;> omega

namespace Grammar

variable {used : List Lexeme} {place : Nat} {words : List Ident}

theorem Dashes.solid (dashes : Dashes used more) : ∀ lexeme ∈ used, lexeme.isSolid := by
  induction dashes with
  | nil => simp
  | cons minus spelled _ ih =>
    refine forall_mem_cons.mpr ⟨by simp [isSolid, piece?, minus, Token.shape?], ?_⟩
    refine forall_mem_cons.mpr ⟨?_, ih⟩
    rcases spelled with spelled | spelled <;> simp [isSolid, piece?, spelled, Token.shape?]

theorem Dashes.reach (dashes : Dashes used more) (laid : Laid lo hi used) :
    lo + size more ≤ hi ∧ ('.' ∈ more.toList → lo + size more + 1 ≤ hi) := by
  induction dashes generalizing lo with
  | nil =>
    have := laid.room
    simpa [size, byteLength] using this
  | @cons dash part _ text more minus spelled _ ih =>
    cases laid with
    | cons behind wide later =>
      cases later with
      | cons behind' wide' later =>
        obtain ⟨reached, dotted⟩ := ih later
        have first : dash.token.breadth = 1 := by rw [minus]; rfl
        have second : size text ≤ part.token.breadth ∧
            ('.' ∈ text.toList → size text + 1 ≤ part.token.breadth) := by
          rcases spelled with spelled | ⟨spelled, dotless⟩ <;> rw [spelled] <;> simp only [Token.breadth]
          · split <;> simp_all
          · exact ⟨Nat.le_max_right _ _, fun dot => absurd dot dotless⟩
        have one : size "-" = 1 := rfl
        simp only [size_append, one]
        refine ⟨by omega, fun dot => ?_⟩
        have here : '.' ∈ text.toList ∨ '.' ∈ more.toList := by simpa using dot
        rcases here with here | here
        · have := second.2 here
          omega
        · have := dotted here
          omega

theorem Spells.solid (spells : Spells used name) (placed : name.place.isSome) :
    ∀ lexeme ∈ used, lexeme.isSolid := by
  cases spells with
  | unplaced nowhere => simp [nowhere] at placed
  | word spelled => simp [isSolid, piece?, spelled, Token.shape?]
  | dashed spelled behind =>
    exact forall_mem_cons.mpr ⟨by simp [isSolid, piece?, spelled, Token.shape?], behind.solid⟩

theorem Spells.reach (spells : Spells used name) (placed : name.place = some place) (laid : Laid lo hi used) :
    place + name.extent ≤ hi ∧
      ∃ lexeme ∈ used, lexeme.span.start = place ∧ ∃ value quote, lexeme.token = .word value quote := by
  cases spells with
  | unplaced nowhere => simp [nowhere] at placed
  | word spelled =>
    rename_i lexeme value quote
    cases placed
    refine ⟨?_, lexeme, by simp, rfl, value, quote, spelled⟩
    have wide := laid.within mem_cons_self
    rw [spelled] at wide
    simp only [Ident.extent]
    cases quote with
    | none =>
      simp only [Token.breadth] at wide
      split <;> simp_all <;> omega
    | some q =>
      simp only [Token.breadth] at wide
      split <;> omega
  | dashed spelled behind =>
    rename_i lexeme value more rest
    cases placed
    refine ⟨?_, lexeme, by simp, rfl, value, none, spelled⟩
    cases laid with
    | cons _ wide later =>
      obtain ⟨reached, dotted⟩ := behind.reach later
      rw [spelled] at wide
      simp only [Ident.extent, Token.breadth, size_append, String.toList_append, mem_append] at wide ⊢
      by_cases first : '.' ∈ value.toList
      · simp only [first, if_true, true_or] at wide ⊢
        omega
      · simp only [first, if_false, false_or] at wide ⊢
        split
        · have := dotted ‹_›
          omega
        · omega

/-! ### Names one after another -/

theorem Spelled.run (spelled : Spelled used words) (listed : name ∈ words) :
    ∃ run, Spells run name ∧ run.Sublist used := by
  induction spelled with
  | nil => cases listed
  | cons here _ ih =>
    rcases mem_cons.mp listed with rfl | listed
    · exact ⟨_, here, sublist_append_left _ _⟩
    · obtain ⟨run, spells, inside⟩ := ih listed
      exact ⟨run, spells, inside.trans (sublist_append_right _ _)⟩

theorem Spells.behind (spells : Spells used name) (placed : name.place = some place)
    (laid : Laid lo hi (used ++ more)) :
    lo ≤ place ∧ ∃ next, place < next ∧ Laid next hi more := by
  have first {lexeme : Lexeme} {rest : List Lexeme} (laid : Laid lo hi (lexeme :: rest ++ more)) :
      lo ≤ lexeme.span.start ∧ ∃ next, lexeme.span.start < next ∧ Laid next hi more := by
    cases laid with
    | cons behind wide later =>
      have wider := lexeme.token.breadth_pos
      exact ⟨behind, lexeme.span.stop, by omega, later.sublist (sublist_append_right _ _)⟩
  cases spells with
  | unplaced nowhere => simp [nowhere] at placed
  | word _ =>
    cases placed
    exact first laid
  | dashed _ _ =>
    cases placed
    exact first laid

theorem Spelled.apart (spelled : Spelled used words) (laid : Laid lo hi used) :
    (∀ name ∈ words, ∀ place ∈ name.place, lo ≤ place) ∧
      words.Pairwise fun first second => first.place.isSome → first.place ≠ second.place := by
  induction spelled generalizing lo with
  | nil => simp
  | @cons first more name rest here _ ih =>
    rw [forall_mem_cons, pairwise_cons]
    cases placed : name.place with
    | none =>
      obtain ⟨above, apart⟩ := ih (laid.sublist (sublist_append_right first more))
      exact ⟨⟨by simp, above⟩, by simp, apart⟩
    | some place =>
      obtain ⟨behind, next, further, later⟩ := here.behind placed laid
      obtain ⟨above, apart⟩ := ih later
      refine ⟨⟨by simpa using behind, fun name listed other found => ?_⟩, fun name listed _ same => ?_, apart⟩
      · have := above name listed other found
        omega
      · have := above name listed place same.symm
        omega

/-- A name is cut into parts, at dots if at all. -/
structure Cuts (cut : Ident → List Ident) : Prop where
  place : ∀ name, ∀ part ∈ cut name, part.place = name.place
  room : ∀ name, ((cut name).map fun part => size part.value + 1).sum ≤ size name.value + 1
  dotted : ∀ name, 2 ≤ (cut name).length → '.' ∈ name.value.toList

theorem cuts_whole : Cuts fun name => [name] := ⟨by simp, by simp, by simp⟩

theorem cuts_splitDotted : Cuts fun name =>
    (Text.splitOn '.' name.value.toList).map fun piece => { name with value := String.ofList piece } where
  place name part inside := by
    obtain ⟨piece, -, rfl⟩ := mem_map.mp inside
    rfl
  room name := by simpa [size, Function.comp_def] using sum_splitOn '.' name.value.toList
  dotted name several := by
    rw [length_map, length_splitOn] at several
    exact count_pos_iff.mp (by omega)

theorem Cuts.room_of_sublist (cuts : Cuts cut) (inside : parts.Sublist (cut name)) :
    (parts.map fun part => size part.value + 1).sum ≤ size name.value + 1 :=
  Nat.le_trans (Sublist.sum_le_sum (inside.map _) (by simp)) (cuts.room name)

theorem splitDotted_eq (words : List Ident) : ∃ cut, Cuts cut ∧ splitDotted words = words.flatMap cut := by
  unfold splitDotted
  split
  · exact ⟨_, cuts_splitDotted, rfl⟩
  · exact ⟨_, cuts_whole, by simp⟩

theorem Named.cut (named : Named chunk parts) :
    ∃ used words cut, Spelled used words ∧ used.Sublist chunk ∧ Cuts cut ∧ parts.Sublist (words.flatMap cut) := by
  obtain ⟨used, words, spelled, inside, whole | split⟩ := named
  · exact ⟨used, words, _, spelled, inside, cuts_whole, by simpa using whole⟩
  · obtain ⟨cut, cuts, same⟩ := splitDotted_eq words
    exact ⟨used, words, cut, spelled, inside, cuts, same ▸ split⟩

theorem Cuts.of_place (cuts : Cuts cut)
    (apart : words.Pairwise fun first second => first.place.isSome → first.place ≠ second.place)
    (inside : group.Sublist (words.flatMap cut)) (placed : ∀ part ∈ group, part.place = some place)
    (some_ : group ≠ []) :
    ∃ name ∈ words, name.place = some place ∧ group.Sublist (cut name) := by
  induction words generalizing group with
  | nil => exact absurd (sublist_nil.mp inside) some_
  | cons name rest ih =>
    obtain ⟨others, apart⟩ := pairwise_cons.mp apart
    rw [flatMap_cons] at inside
    obtain ⟨here, later, rfl, first, second⟩ := sublist_append_iff.mp inside
    by_cases same : name.place = some place
    · -- Nothing of what comes later has this place.
      have none_ : later = [] := by
        refine eq_nil_iff_forall_not_mem.mpr fun part listed => ?_
        obtain ⟨other, known, cut⟩ := mem_flatMap.mp (second.subset listed)
        refine others other known (by simp [same]) ?_
        rw [same, ← cuts.place other part cut, placed part (mem_append_right _ listed)]
      refine ⟨name, mem_cons_self, same, ?_⟩
      simpa [none_] using first
    · have none_ : here = [] := by
        refine eq_nil_iff_forall_not_mem.mpr fun part listed => same ?_
        rw [← cuts.place name part (first.subset listed), placed part (mem_append_left _ listed)]
      rw [none_, nil_append] at placed some_ ⊢
      obtain ⟨name, listed, found⟩ := ih apart second placed some_
      exact ⟨name, mem_cons_of_mem _ listed, found⟩

end Grammar

/-! ### The bytes of names -/

namespace Surface

/-- The token that a name with a place starts at. -/
abbrev Tokens.named? (tokens : Tokens) (name : Ident) : Option Piece :=
  (name.place.bind tokens.at?).bind (tokens.pieces[·]?)

theorem Tokens.named_eq {tokens : Tokens} (found : tokens.named? name = some piece) :
    piece ∈ tokens.pieces ∧ name.place = some piece.span.start := by
  obtain ⟨index, sought, here⟩ := Option.bind_eq_some_iff.mp found
  obtain ⟨place, placed, sought⟩ := Option.bind_eq_some_iff.mp sought
  obtain ⟨bounded, starts, -⟩ := List.findIdx?_eq_some_iff_getElem.mp sought
  obtain ⟨_, same⟩ := List.getElem?_eq_some_iff.mp here
  rw [same] at starts
  exact ⟨mem_of_getElem? here, by rw [placed, eq_of_beq starts]⟩

namespace Build

theorem flatten_groupShared (idents : List Ident) : (groupShared idents).flatten = idents := by
  induction idents with
  | nil => rfl
  | cons ident rest ih =>
    unfold groupShared
    split
    · rename_i next more groups found
      rw [found] at ih
      split <;> simp [← ih]
    · simp [ih]

theorem sublist_of_mem_groupShared (grouped : group ∈ groupShared idents) : group.Sublist idents := by
  have := sublist_flatten_of_mem grouped
  rwa [flatten_groupShared] at this

theorem place_of_mem_groupShared (grouped : group ∈ groupShared idents) (here : first ∈ group)
    (there : second ∈ group) :
    first.place = second.place := by
  induction idents generalizing group first second with
  | nil => cases grouped
  | cons ident rest ih =>
    have alone {first second : Ident} (here : first ∈ [ident]) (there : second ∈ [ident]) :
        first.place = second.place := by
      rw [mem_singleton.mp here, mem_singleton.mp there]
    unfold groupShared at grouped
    split at grouped
    · rename_i next more groups found
      split at grouped
      · rename_i shares
        have same : ident.place = next.place := by simp_all
        rcases mem_cons.mp grouped with rfl | grouped
        · -- All of the group have the place of its second name.
          have joined {name : Ident} (listed : name ∈ ident :: next :: more) : name.place = next.place := by
            rcases mem_cons.mp listed with rfl | listed
            · exact same
            · exact ih (by simp [found]) listed mem_cons_self
          rw [joined here, joined there]
        · exact ih (by simp [found, grouped]) here there
      · rcases mem_cons.mp grouped with rfl | grouped
        · exact alone here there
        · exact ih (found ▸ grouped) here there
    · rcases mem_cons.mp grouped with rfl | grouped
      · exact alone here there
      · exact ih grouped here there

theorem sharedParts_inside {offset : Nat} (above : bound.start ≤ offset)
    (room : offset + (parts.map fun part => size part.value + 1).sum ≤ bound.stop + 1) :
    ∀ part ∈ sharedParts outer offset parts, part.2.Inside bound := by
  induction parts generalizing offset with
  | nil => simp [sharedParts]
  | cons part rest ih =>
    rw [map_cons, sum_cons] at room
    unfold sharedParts
    extract_lets stop
    have least : offset ≤ stop := Nat.le_max_right _ _
    have most : stop ≤ offset + size part.value := by omega
    refine forall_mem_cons.mpr ⟨?_, ih (by omega) (by omega)⟩
    simp only [Span.Inside, Span.upTo]
    omega

end Build

/-- The bytes of the parts of a name lie within a span. -/
structure Fits (tokens : Tokens) (bound : Span) (parts : List Ident) : Prop where
  alone : ∀ part ∈ parts, ∀ piece ∈ tokens.named? part, (Build.nameSpan piece part.value).Inside bound
  together : ∀ group ∈ Build.groupShared parts, 2 ≤ group.length → ∀ first ∈ group, ∀ piece ∈ tokens.named? first,
    piece.span.start + (group.map fun part => size part.value + 1).sum ≤ bound.stop

end Surface

open Surface in
theorem Grammar.Named.fits {lo hi : Nat} (named : Named chunk parts)
    (laid : Laid lo hi chunk) (solid : Laid bound.start bound.stop (chunk.filter isSolid)) :
    Fits (.of (chunk.filterMap piece?)) bound parts := by
  obtain ⟨used, words, cut, spelled, inside, cuts, parts_cut⟩ := named.cut
  have apart := (spelled.apart (laid.sublist inside)).2
  -- A name that is found at a token starts there, at a word, and fits behind it.
  have found {name : Ident} (listed : name ∈ words) {place : Nat} (placed : name.place = some place) {piece : Piece}
      (here : piece ∈ chunk.filterMap piece?) (starts : place = piece.span.start) :
      place + name.extent ≤ bound.stop ∧ bound.start ≤ piece.span.start ∧ piece.span.stop ≤ bound.stop ∧
        ∃ value quote, piece.shape = .word value quote ∧ (quote.isSome → 2 ≤ piece.span.width) := by
    obtain ⟨run, spells, among⟩ := spelled.run listed
    have solid_run : run.Sublist (chunk.filter isSolid) := by
      have kept := (among.trans inside).filter isSolid
      rwa [filter_eq_self.mpr (spells.solid (by simp [placed]))] at kept
    obtain ⟨reach, lexeme, used_here, begins, value, quote, word⟩ := spells.reach placed (solid.sublist solid_run)
    obtain ⟨other, listed_here, made⟩ := mem_filterMap.mp here
    obtain ⟨same_span, same_shape⟩ := Lexeme.piece_eq made
    have same : other = lexeme :=
      laid.eq_of_start listed_here (inside.subset (among.subset used_here)) (by rw [← same_span, begins, starts])
    have wide := solid.within (solid_run.subset used_here)
    rw [same] at same_span same_shape
    rw [word] at same_shape wide
    rw [same_span]
    refine ⟨reach, wide.1, wide.2.2, value, quote, (Option.some.inj same_shape).symm, fun quoted => ?_⟩
    obtain ⟨q, rfl⟩ := Option.isSome_iff_exists.mp quoted
    simp only [Token.breadth, Span.width] at wide ⊢
    omega
  refine ⟨fun part listed piece sought => ?_, fun group grouped several first here piece sought => ?_⟩
  · obtain ⟨here, placed⟩ := Tokens.named_eq sought
    obtain ⟨name, known, cut_here⟩ := mem_flatMap.mp (parts_cut.subset listed)
    have same := cuts.place name part cut_here
    have small := cuts.room_of_sublist (singleton_sublist.mpr cut_here)
    rw [map_singleton, sum_singleton] at small
    obtain ⟨reach, low, high, value, quote, word, quoted⟩ := found known (same.symm.trans placed) here rfl
    have extent := name.size_le_extent
    simp only [Span.Inside, Build.nameSpan, word]
    cases quote with
    | none =>
      dsimp only
      omega
    | some q =>
      have two := quoted rfl
      simp only [dif_pos two]
      simp only [Span.width] at two
      omega
  · obtain ⟨here_piece, placed⟩ := Tokens.named_eq sought
    have all (part : Ident) (listed : part ∈ group) : part.place = some piece.span.start :=
      (Build.place_of_mem_groupShared grouped listed here).trans placed
    obtain ⟨name, known, name_placed, short⟩ := cuts.of_place apart
      ((Build.sublist_of_mem_groupShared grouped).trans parts_cut) all (ne_nil_of_mem here)
    obtain ⟨reach, -⟩ := found known name_placed here_piece rfl
    have dotted := cuts.dotted name (Nat.le_trans several short.length_le)
    have room := cuts.room_of_sublist short
    simp only [Ident.extent, dotted, if_true] at reach
    omega

end SqlLens
