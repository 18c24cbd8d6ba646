import Mathlib.Data.List.Sort
import Roster.MemberSet

/-!
# Equality of sets of member ids

A set is kept as a strictly ascending list, and such a list is determined by its entries. So sets
with the same ids are equal, and laws of sets are shown id by id.
-/

namespace Roster.MemberSet

variable {left right set : MemberSet} {x : MemberId}

@[ext] theorem ext (same : ∀ x, x ∈ left ↔ x ∈ right) : left = right := by
  have hids : left.ids = right.ids := left.ascending.eq_of_mem_iff right.ascending same
  cases left
  cases right
  cases hids
  rfl

theorem erase_of_not_mem (hx : ¬ x ∈ set) : set.erase x = set := by
  ext z
  rw [mem_erase]
  exact ⟨And.right, fun hz => ⟨fun same => hx (same ▸ hz), hz⟩⟩

theorem insert_erase (set : MemberSet) (x : MemberId) : (set.erase x).insert x = set.insert x := by
  ext z
  rw [mem_insert, mem_insert, mem_erase]
  by_cases same : z = x <;> simp [same]

@[simp] theorem ofList_ids (set : MemberSet) : ofList set.ids = set := by
  ext x
  exact mem_ofList

end Roster.MemberSet
