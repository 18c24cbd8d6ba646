import Roster.Proofs.GroupId.Spelling
import Roster.Proofs.Text.Utf8Order

/-!
# The order of group ids is the order of their texts

Digits stand in the order of the numbers that they mean, those above nine behind the others, and a
byte is compared by its first digit and then by its second. So ids compare as their texts do, by
characters or by bytes, and putting ids in order puts their texts in order. Different ids never
compare as equal, so there is one way only to put given ids in order.
-/

namespace Roster

/-! ### Digits -/

namespace Text.Hex

variable {m n : Nat} {left right : List UInt8}

theorem digit_lt_digit_iff (hm : m < 16) (hn : n < 16) : digit m < digit n ↔ m < n := by
  have all : ∀ m < 16, ∀ n < 16, (digit m < digit n ↔ m < n) := by decide
  exact all m hm n hn

theorem digit_eq_digit_iff (hm : m < 16) (hn : n < 16) : digit m = digit n ↔ m = n :=
  ⟨digit_inj hm hn, congrArg digit⟩

/-- Where two rows of bytes differ first, one of the two digits differs first, to the same side. -/
theorem digits_lt_digits_iff : digits left < digits right ↔ left < right := by
  induction left generalizing right with
  | nil =>
    cases right with
    | nil => exact iff_of_false (List.lt_irrefl _) (List.lt_irrefl _)
    | cons other right => exact iff_of_true (List.nil_lt_cons _ _) (List.nil_lt_cons _ _)
  | cons byte left ih =>
    cases right with
    | nil => exact iff_of_false (List.not_lt_nil _) (List.not_lt_nil _)
    | cons other right =>
      have hlt : byte.toNat < other.toNat ↔ byte.toNat / 16 < other.toNat / 16 ∨
          byte.toNat / 16 = other.toNat / 16 ∧ byte.toNat % 16 < other.toNat % 16 := by
        omega
      have heq : byte.toNat = other.toNat ↔
          byte.toNat / 16 = other.toNat / 16 ∧ byte.toNat % 16 = other.toNat % 16 := by
        omega
      rw [digits_cons, digits_cons, List.cons_lt_cons_iff, List.cons_lt_cons_iff,
        List.cons_lt_cons_iff, ih, digit_lt_digit_iff (div_lt byte) (div_lt other),
        digit_lt_digit_iff (mod_lt byte) (mod_lt other),
        digit_eq_digit_iff (div_lt byte) (div_lt other),
        digit_eq_digit_iff (mod_lt byte) (mod_lt other), UInt8.lt_iff_toNat_lt,
        ← UInt8.toNat_inj, hlt, heq, and_or_left, or_assoc, and_assoc]

end Text.Hex

/-! ### Rows in order -/

/-- Whether a row holds given items, each as often as it is given, in ascending order. -/
structure Arranges {α : Type} [Ord α] (row items : List α) : Prop where
  perm : row.Perm items
  ordered : row.Pairwise fun a b => (compare a b).isLE

namespace Arranges

variable {α β : Type} [Ord α] [Ord β] {row other items : List α}

theorem map {f : α → β} (hf : ∀ a b, compare (f a) (f b) = compare a b)
    (hrow : Arranges row items) : Arranges (row.map f) (items.map f) where
  perm := hrow.perm.map f
  ordered := List.pairwise_map.2 (hrow.ordered.imp fun hle => by rwa [hf])

protected theorem mergeSort [Std.TransOrd α] (items : List α) :
    Arranges (items.mergeSort fun a b => (compare a b).isLE) items where
  perm := List.mergeSort_perm items _
  ordered := by
    apply List.pairwise_mergeSort
    · intro a b c
      exact Std.TransOrd.isLE_trans
    · intro a b
      rw [Std.OrientedOrd.eq_swap (a := b)]
      cases compare a b <;> rfl

theorem unique [Std.OrientedOrd α] [Std.LawfulEqOrd α] (hrow : Arranges row items)
    (hother : Arranges other items) : row = other := by
  refine List.Perm.eq_of_pairwise (fun a b _ _ hab hba => ?_) hrow.ordered hother.ordered
    (hrow.perm.trans hother.perm.symm)
  exact Std.LawfulEqOrd.eq_of_compare (Std.OrientedCmp.isLE_antisymm hab hba)

end Arranges

/-! ### Ids -/

namespace GroupId

open Text

variable {ids row : List GroupId} {texts : List String}

theorem compare_eq_compare_bytes (a b : GroupId) : compare a b = compare a.bytes b.bytes := rfl

theorem bytes_inj {a b : GroupId} : a.bytes = b.bytes ↔ a = b := by
  cases a
  cases b
  simp

instance : Std.TransOrd GroupId where
  eq_swap {a b} := by
    rw [compare_eq_compare_bytes, compare_eq_compare_bytes]
    exact Std.OrientedOrd.eq_swap
  isLE_trans {a b c} hab hbc := by
    rw [compare_eq_compare_bytes] at hab hbc ⊢
    exact Std.TransOrd.isLE_trans hab hbc

instance : Std.LawfulEqOrd GroupId where
  compare_self {a} := by
    rw [compare_eq_compare_bytes]
    exact Std.ReflOrd.compare_self
  eq_of_compare {a b} heq := by
    rw [compare_eq_compare_bytes] at heq
    exact bytes_inj.1 (Std.LawfulEqOrd.eq_of_compare heq)

theorem compare_hex (a b : GroupId) : compare a.hex b.hex = compare a b := by
  have hlt : ∀ a b : GroupId, compare a.hex b.hex = .lt ↔ compare a b = .lt := by
    intro a b
    rw [compare_lt_iff_lt, String.lt_iff, toList_hex, toList_hex, Hex.digits_lt_digits_iff,
      compare_eq_compare_bytes, compare_bytes_eq_lt_iff]
  exact compare_eq_compare (hlt a b) (hlt b a)

theorem arranges_sort (ids : List GroupId) : Arranges (sort ids) ids := .mergeSort ids

theorem arranges_iff : Arranges row ids ↔ row = sort ids := by
  constructor
  · exact fun hrow => hrow.unique (arranges_sort ids)
  · rintro rfl
    exact arranges_sort ids

theorem arranges_map_hex_iff : Arranges texts (ids.map hex) ↔ texts = (sort ids).map hex := by
  have hsorted : Arranges ((sort ids).map hex) (ids.map hex) := (arranges_sort ids).map compare_hex
  constructor
  · exact fun htexts => htexts.unique hsorted
  · rintro rfl
    exact hsorted

/-- Ids compare as their texts do, by characters and by bytes, and as equal only if they are. The
order is total, so the ids of a list can be put in order in one way only, and however their texts
are put in order, these come out as the texts of the ids in order. -/
theorem order_eq_order_of_hex :
    (∀ a b : GroupId, compare a b = compare a.hex b.hex ∧
        compare a b = compare (Utf8.encode a.hex) (Utf8.encode b.hex) ∧
        (compare a b = .eq ↔ a = b)) ∧
      Std.TransOrd GroupId ∧
      (∀ ids row : List GroupId, Arranges row ids ↔ row = sort ids) ∧
      ∀ (ids : List GroupId) (texts : List String),
        Arranges texts (ids.map hex) ↔ texts = (sort ids).map hex := by
  refine ⟨fun a b => ⟨(compare_hex a b).symm, ?_, Std.LawfulEqOrd.compare_eq_iff_eq⟩,
    inferInstance, fun ids row => arranges_iff, fun ids texts => arranges_map_hex_iff⟩
  rw [Utf8.compare_encode, compare_hex]

end GroupId

end Roster
