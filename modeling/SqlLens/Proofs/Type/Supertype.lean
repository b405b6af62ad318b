import SqlLens.Proofs.Function.Coercion

/-!
Types that others have in common.

Coercion is an order of the types that are known, layers of arrays apart. An array that is hollow, such as that of
`[NULL]`, stands outside of it: where it coerces to a type, that type coerces to it. So what it has in common with
another array depends on which comes first (`supertype_comm_iff`). When types are combined two at a time, a hollow array
may take the place of a type that was combined before, so an upper bound is found only behind the last hollow one
(`Merges.upperBound`).
-/

namespace SqlLens.SqlType

open List

variable {a b c : SqlType}

/-- Whether a type can be told, once the layers of arrays around it are taken off. -/
def isKnown : SqlType → Bool
  | array element => element.isKnown
  | type => type ≠ unknown

def isHollow : SqlType → Bool
  | array element => !element.isKnown
  | _ => false

theorem isHollow_iff (type : SqlType) : type.isHollow ↔ type.isKnown = false ∧ type ≠ unknown := by
  cases type <;> simp [isHollow, isKnown]

/-! ### The order of known types -/

theorem widens_trans {a b c : Scalar} (first : widens a b) (second : widens b c) : widens a c := by
  revert first second
  fun_cases widens a b <;> cases c <;> simp [widens]

theorem widens_asymm {a b : Scalar} (first : widens a b) : widens b a = false := by
  revert first
  fun_cases widens a b <;> simp [widens]

theorem coercesTo_comm : {a : SqlType} → a.isKnown = false → (b : SqlType) → a.coercesTo b = b.coercesTo a
  | array a, untold, array b => coercesTo_comm (a := a) untold b
  | array _, _, scalar _ | array _, _, struct _ => by simp [coercesTo]
  | scalar _, untold, b => by cases b <;> simp_all [coercesTo, isKnown]
  | struct _, untold, _ => by simp [isKnown] at untold

theorem coercesTo_trans (known : b.isKnown) (first : a.coercesTo b) (second : b.coercesTo c) :
    a.coercesTo c := by
  fun_induction coercesTo a b generalizing c with
  | case1 a b =>
    cases c with
    | scalar c => grind [coercesTo, isKnown, @widens_trans a b c]
    | struct | array => simp_all [coercesTo, isKnown]
  | case2 a b =>
    obtain rfl := of_decide_eq_true first
    exact unknown_coercesTo c
  | case3 b => simp_all [isKnown]
  | case4 a b => cases c <;> grind [coercesTo]
  | case5 a b ih =>
    cases c with
    | array c => exact ih known first second
    | scalar => simpa [coercesTo] using second
    | struct => simp [coercesTo] at second
  | case6 => cases first

theorem coercesTo_antisymm (known : a.isKnown) (known' : b.isKnown) (first : a.coercesTo b)
    (second : b.coercesTo a) : a = b := by
  fun_induction coercesTo a b with
  | case1 a b => grind [coercesTo, isKnown, @widens_asymm a b]
  | case2 a b => simp_all [isKnown]
  | case3 b => simp_all [isKnown]
  | case4 a b => grind [coercesTo]
  | case5 a b ih => rw [ih known known' first second]
  | case6 => cases first

theorem exists_apart : {b : SqlType} → b.isKnown = false →
    ∃ a c : SqlType, a.coercesTo b ∧ b.coercesTo c ∧ a.coercesTo c = false
  | array element, untold => by
    obtain ⟨a, c, first, second, apart⟩ := exists_apart (b := element) untold
    exact ⟨array a, array c, first, second, apart⟩
  | scalar type, untold => by
    obtain rfl : type = .unknown := by simpa [isKnown] using untold
    exact ⟨int64, string, by decide⟩
  | struct _, untold => by cases untold

/-- Coercion is reflexive, and a partial order of the types that can be told. It is transitive by way of these types and
of no others. -/
theorem coercion_orders_known_types :
    (∀ a : SqlType, a.coercesTo a = true) ∧
    (∀ b : SqlType, b.isKnown = true ↔
      ∀ a c : SqlType, a.coercesTo b = true → b.coercesTo c = true → a.coercesTo c = true) ∧
    ∀ a b : SqlType, a.isKnown = true → b.isKnown = true → a.coercesTo b = true → b.coercesTo a = true → a = b := by
  refine ⟨coercesTo_refl, fun b => ⟨fun known a c => coercesTo_trans known, fun trans => ?_⟩,
    fun a b => coercesTo_antisymm⟩
  cases known : b.isKnown with
  | true => rfl
  | false =>
    obtain ⟨a, c, first, second, apart⟩ := exists_apart known
    rw [trans a c first second] at apart
    cases apart

/-! ### Two types in either order -/

theorem supertype_isSome_comm (a b : SqlType) : (a.supertype? b).isSome = (b.supertype? a).isSome := by
  grind [supertype?]

/-- Types that differ and coerce both ways, though neither is `unknown` and gives way. -/
def Clashes (a b : SqlType) : Prop :=
  a ≠ b ∧ (a.isHollow = true ∧ b ≠ unknown ∨ b.isHollow = true ∧ a ≠ unknown) ∧ a.coercesTo b = true

theorem clashes_iff : Clashes a b ↔
    a ≠ b ∧ a ≠ unknown ∧ b ≠ unknown ∧ a.coercesTo b ∧ b.coercesTo a := by
  have antisymm := @coercesTo_antisymm a b
  have left (untold : a.isKnown = false) := coercesTo_comm untold b
  have right (untold : b.isKnown = false) := coercesTo_comm untold a
  grind [Clashes, isHollow_iff]

theorem supertype_comm_iff (a b : SqlType) : a.supertype? b = b.supertype? a ↔ ¬Clashes a b := by
  rw [clashes_iff]
  grind [supertype?]

/-! ### Many types -/

theorem eq_or_eq_of_supertype (common : a.supertype? b = some c) : c = a ∨ c = b := by
  grind [supertype?]

/-- Nothing is lost of a type in what it comes to with others. -/
def Lasts (type whole : SqlType) : Prop := type = unknown ∨ whole.isKnown = true ∨ whole = type

/-- A type coerces to what it comes to with later ones, and lasts unless there is a hollow one among them. -/
def Reaches (type : SqlType) (later : List SqlType) (whole : SqlType) : Prop :=
  type.coercesTo whole = true ∧ ((∀ other ∈ later, other.isHollow = false) → type.Lasts whole)

theorem lasts_left {type : SqlType} (below : type.coercesTo a) (lasts : type.Lasts a)
    (common : a.supertype? b = some c) : type.coercesTo c ∧ (b.isHollow = false → type.Lasts c) := by
  have trans := @coercesTo_trans type a b
  grind [Lasts, supertype?, isHollow_iff, isKnown, unknown_coercesTo]

theorem lasts_right (below : type.coercesTo b) (untold : b = unknown → type = unknown)
    (common : a.supertype? b = some c) : type.coercesTo c ∧ (type.Lasts b → type.Lasts c) := by
  have trans := @coercesTo_trans type b a
  have comm (untold : a.isKnown = false) := coercesTo_comm untold b
  have comm' (untold : b.isKnown = false) := coercesTo_comm untold a
  grind [Lasts, supertype?, isKnown, unknown_coercesTo]

/-- The type that types come to when they are combined in order, in whatever groups. -/
inductive Merges : List SqlType → SqlType → Prop where
  | one : Merges [type] type
  | both (left : Merges types first) (right : Merges others second) (common : first.supertype? second = some whole) :
    Merges (types ++ others) whole

namespace Merges

variable {types : List SqlType} {whole : SqlType}

theorem mem (merged : Merges types whole) : whole ∈ types := by
  induction merged with
  | one => exact mem_singleton_self _
  | both _ _ common inLeft inRight =>
    have one := eq_or_eq_of_supertype common
    grind

theorem all_unknown (merged : Merges types whole) (untold : whole = unknown) : ∀ type ∈ types, type = unknown := by
  induction merged with
  | one => simpa using untold
  | both _ _ common left right => grind [supertype?]

theorem upperBound (merged : Merges types whole) {type : SqlType}
    (split : types = earlier ++ type :: later) (solid : ∀ other ∈ later.dropLast, other.isHollow = false) :
    type.Reaches later whole := by
  induction merged generalizing earlier later with
  | one =>
    rcases append_eq_singleton_iff.mp split.symm with ⟨-, same⟩ | ⟨-, none⟩
    · cases same
      exact ⟨coercesTo_refl _, fun _ => .inr (.inr rfl)⟩
    · cases none
  | @both _ a others b whole _ right common inLeft inRight =>
    have last (inside : type ∈ others) (found : type.Reaches later b) : type.Reaches later whole :=
      (lasts_right found.1 (right.all_unknown · type inside) common).imp_right fun lasts solid => lasts (found.2 solid)
    rcases append_eq_append_iff.mp split with ⟨rest, rfl, rfl⟩ | ⟨rest, rfl, tail⟩
    · exact last (by simp) (inRight rfl solid)
    · cases rest with
      | nil =>
        obtain rfl : others = type :: later := tail.symm
        exact last mem_cons_self (inRight (nil_append _).symm solid)
      | cons first rest =>
        rw [cons_append] at tail
        obtain ⟨rfl, rfl⟩ := cons.inj tail
        have some : others ≠ [] := ne_nil_of_mem right.mem
        rw [dropLast_append_of_ne_nil some] at solid
        have here : ∀ other ∈ rest, other.isHollow = false := fun other inside => solid other (mem_append_left _ inside)
        obtain ⟨below, lasts⟩ := inLeft rfl fun other inside => here other (dropLast_subset rest inside)
        exact (lasts_left below (lasts here) common).imp_right fun lasts solid =>
          lasts (solid b (mem_append_right _ right.mem))

end Merges

/-- The types come to one of them, or are all unknown. All coerce to it, but for those that a hollow type comes after
which is not the last. -/
structure Bounds (types : List SqlType) (bound : SqlType) : Prop where
  mem : bound ≠ unknown → bound ∈ types
  unknown : bound = unknown → ∀ type ∈ types, type = unknown
  above : ∀ earlier type later, types = earlier ++ type :: later → (∀ other ∈ later.dropLast, other.isHollow = false) →
    type.coercesTo bound = true

theorem Merges.bounds (merged : Merges types c) : Bounds types c :=
  ⟨fun _ => merged.mem, merged.all_unknown, fun _ _ _ split solid => (merged.upperBound split solid).1⟩

theorem Bounds.tail (bounds : Bounds (.unknown :: types) c) : Bounds types c :=
  ⟨fun known => (mem_cons.mp (bounds.mem known)).resolve_left known,
    fun untold type inside => bounds.unknown untold type (mem_cons_of_mem _ inside),
    fun earlier type later split solid => bounds.above (.unknown :: earlier) type later (congrArg _ split) solid⟩

end SqlLens.SqlType
