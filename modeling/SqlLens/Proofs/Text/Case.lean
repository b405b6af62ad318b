import Mathlib.Data.List.Forall2
import SqlLens.Function.Builtin

/-!
Names that differ in the case of letters only.

Names are compared in two ways: letter by letter in small letters (`Text.sameName`), and in capitals against names that
are known (`Text.upper`). Names that are the same in the first way are the same in the second, wherever it is used.
-/

namespace SqlLens

open List
open Char
open Text

namespace Text

theorem comp_toLower (ascii : ∀ n < 128, f (ofNat n).toLower = f (ofNat n)) : f ∘ toLower = f := by
  funext c
  by_cases small : c.toNat < 128
  · simpa using ascii c.toNat small
  · have other : c.toLower = c := by
      unfold toLower
      split
      · rename_i upper
        have most : c.toNat ≤ 90 := UInt32.le_iff_toNat_le.mp upper.2
        omega
      · rfl
    simp [other]

theorem toLower_eq_iff (ascii : ∀ n < 128, ((ofNat n).toLower == mark) = (ofNat n == mark)) :
    c.toLower = mark ↔ c = mark := by
  simpa using Bool.eq_iff_iff.mp (congrFun (comp_toLower (f := (· == mark)) ascii) c)

theorem sameName_iff : sameName a b ↔ a.toList.map toLower = b.toList.map toLower :=
  beq_iff_eq

theorem sameName_refl (a : String) : sameName a a := sameName_iff.mpr rfl

theorem sameName_congr (left : sameName a a') (right : sameName b b') : sameName a' b' = sameName a b := by
  rw [sameName, sameName, sameName_iff.mp left, sameName_iff.mp right]

theorem upper_congr (same : sameName a b) : upper a = upper b := by
  have lowered (s : String) : s.toList.flatMap upperChar = (s.toList.map toLower).flatMap upperChar := by
    rw [flatMap_map]
    exact congrArg (flatMap · _) (comp_toLower (by decide)).symm
  rw [upper, upper, lowered, lowered, sameName_iff.mp same]

theorem sameName_join (same : Forall₂ (fun a b => sameName a b) names names') :
    sameName (join "." names) (join "." names') := by
  have lowered (names : List String) : (join "." names).toList.map toLower =
      ['.'].intercalate (names.map fun name => name.toList.map toLower) := by
    simp only [join, String.toList_intercalate]
    induction names with
    | nil => rfl
    | cons name rest ih =>
      cases rest with
      | nil => simp
      | cons next rest => simpa [intercalate_cons_cons] using ih
  rw [sameName_iff, lowered, lowered]
  congr 1
  induction same with
  | nil => rfl
  | cons first _ ih => rw [map_cons, map_cons, sameName_iff.mp first, ih]

theorem trim_lowered (text : List Char) : trim (text.map toLower) = (trim text).map toLower := by
  have blank : isBlank ∘ toLower = isBlank := comp_toLower (by decide)
  simp only [trim, dropWhile_map, ← map_reverse, blank]

end Text

namespace SqlType

variable {name : List Char}

theorem baseName_lowered : baseName (name.map toLower) = baseName name := by
  have opening : (· != '(') ∘ toLower = (· != '(') := comp_toLower (by decide)
  have angle : (· != '<') ∘ toLower = (· != '<') := comp_toLower (by decide)
  have twice : toLower ∘ toLower = toLower := comp_toLower (by decide)
  unfold baseName
  rw [takeWhile_map, opening, takeWhile_map, angle, trim_lowered]
  exact upper_congr (sameName_iff.mpr (by simp only [String.toList_ofList, map_map, twice]))

theorem parameter_lowered : parameter? (name.map toLower) = (parameter? name).map (map toLower) := by
  have opening : (· != '<') ∘ toLower = (· != '<') := comp_toLower (by decide)
  have closing : (· != '>') ∘ toLower = (· != '>') := comp_toLower (by decide)
  unfold parameter?
  rw [dropWhile_map, opening]
  cases name.dropWhile (· != '<') with
  | nil => rfl
  | cons _ after =>
    simp only [map_cons, ← map_reverse, dropWhile_map, closing]
    cases after.reverse.dropWhile (· != '>') with
    | nil => rfl
    | cons _ inside => simp

theorem ofChars_lowered (fuel : Nat) : ofChars fuel (name.map toLower) = ofChars fuel name := by
  induction fuel generalizing name with
  | zero => rfl
  | succ fuel ih =>
    simp only [ofChars, trim_lowered, baseName_lowered, parameter_lowered]
    cases parameter? (trim name) with
    | none => rfl
    | some element => simp only [Option.map_some, ih]

theorem field_congr (same : sameName a b) (type : SqlType) : type.field? a = type.field? b := by
  have compared : (fun field : String × SqlType => sameName field.1 a) = fun field => sameName field.1 b :=
    funext fun field => (sameName_congr (sameName_refl field.1) same).symm
  unfold field?
  rw [compared]

theorem ofName_congr (same : sameName a b) : ofName a = ofName b := by
  have length : a.length = b.length := by
    simpa [String.length_toList] using congrArg length (sameName_iff.mp same)
  rw [ofName, ofName, ← ofChars_lowered, sameName_iff.mp same, ofChars_lowered, length]

end SqlType

theorem Function.lookup_congr (same : sameName a b) : lookup? a = lookup? b := by
  rw [lookup?, lookup?, upper_congr same]

theorem Function.isDatePart_congr (same : sameName a b) : isDatePart a = isDatePart b := by
  unfold isDatePart
  congr 1
  funext part
  exact (sameName_congr (sameName_refl part) same).symm

end SqlLens
