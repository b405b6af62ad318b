import SqlLens.Text.Basic

/-!
Lists that are gone through one member at a time.

Where types are defined by mutual recursion, so are the functions on lists of their values. They are the usual ones.
-/

namespace SqlLens

theorem iff_forall_mem {P : List α → Prop} {Q : α → Prop} (nil : P [])
    (cons : ∀ first rest, P (first :: rest) ↔ Q first ∧ P rest) : P items ↔ ∀ item ∈ items, Q item := by
  induction items with
  | nil => simp [nil]
  | cons first rest ih => rw [cons, ih, List.forall_mem_cons]

theorem eq_map_of_cons {f : List α → List β} {g : α → β} (nil : f [] = [])
    (cons : ∀ first rest, f (first :: rest) = g first :: f rest) : f items = items.map g := by
  induction items with
  | nil => exact nil
  | cons first rest ih => rw [cons, ih, List.map_cons]

end SqlLens
