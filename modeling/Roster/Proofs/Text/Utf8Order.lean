import Mathlib.Data.String.Basic
import Mathlib.Tactic.SplitIfs
import Roster.Proofs.Text.Utf8

/-!
# The order of texts is the order of their bytes

The bytes of two different characters differ before either of them ends, and where they differ first
the smaller byte belongs to the smaller character. So texts may be compared character by character
or byte by byte, with the same outcome.
-/

namespace Roster.Text

namespace Utf8

/-- Whether two rows of bytes differ before one of them ends, and first in favour of the left. -/
def Before : List UInt8 → List UInt8 → Prop
  | a :: left, b :: right => a.toNat < b.toNat ∨ a.toNat = b.toNat ∧ Before left right
  | _, _ => False

theorem Before.append_lt {left right : List UInt8} (hbefore : Before left right)
    (more more' : List UInt8) : left ++ more < right ++ more' := by
  induction left generalizing right with
  | nil => cases hbefore
  | cons a left ih =>
    cases right with
    | nil => cases hbefore
    | cons b right =>
      rw [List.cons_append, List.cons_append, List.cons_lt_cons_iff]
      rcases hbefore with hlt | ⟨heq, hrest⟩
      · exact .inl (UInt8.lt_iff_toNat_lt.2 hlt)
      · exact .inr ⟨UInt8.toNat_inj.1 heq, ih hrest⟩

/-- Two numbers differ first in what stands before their last six bits, or else in those. -/
private theorem sixBits_lt {m n : Nat} (hlt : m < n) :
    m / 64 < n / 64 ∨ m / 64 = n / 64 ∧ m % 64 < n % 64 := by
  omega

private theorem before_four {m n : Nat} (hm : m < 0x110000) (hn : n < 0x110000) (hlt : m < n) :
    Before [UInt8.ofNat (0xF0 + m / 262144), follower (m / 4096), follower (m / 64), follower m]
      [UInt8.ofNat (0xF0 + n / 262144), follower (n / 4096), follower (n / 64), follower n] := by
  have hlead : ∀ k < 0x110000, (UInt8.ofNat (0xF0 + k / 262144)).toNat = 0xF0 + k / 262144 :=
    fun k hk => UInt8.toNat_ofNat_of_lt (by change _ < 256; omega)
  have hlast : m / 64 < n / 64 ∨ m / 64 = n / 64 ∧ m % 64 < n % 64 := sixBits_lt hlt
  have hthird : m / 64 < n / 64 →
      m / 4096 < n / 4096 ∨ m / 4096 = n / 4096 ∧ m / 64 % 64 < n / 64 % 64 := by
    intro h
    have h' := sixBits_lt h
    rwa [Nat.div_div_eq_div_mul, Nat.div_div_eq_div_mul] at h'
  have hsecond : m / 4096 < n / 4096 →
      m / 262144 < n / 262144 ∨ m / 262144 = n / 262144 ∧ m / 4096 % 64 < n / 4096 % 64 := by
    intro h
    have h' := sixBits_lt h
    rwa [Nat.div_div_eq_div_mul, Nat.div_div_eq_div_mul] at h'
  simp only [Before, toNat_follower, hlead m hm, hlead n hn, and_false, or_false]
  rcases hlast with h | ⟨h, hlast⟩
  · rcases hthird h with h | ⟨h, hthird⟩
    · rcases hsecond h with h | ⟨h, hsecond⟩ <;> omega
    · omega
  · omega

theorem before_encodeChar {c d : Char} (hlt : c.toNat < d.toNat) :
    Before (encodeChar c) (encodeChar d) := by
  have hc : c.toNat < 0xD800 ∨ 0xDFFF < c.toNat ∧ c.toNat < 0x110000 := c.valid
  have hd : d.toNat < 0xD800 ∨ 0xDFFF < d.toNat ∧ d.toNat < 0x110000 := d.valid
  by_cases hfour : 0x10000 ≤ c.toNat
  · have hc' : encodeChar c = [UInt8.ofNat (0xF0 + c.toNat / 262144), follower (c.toNat / 4096),
        follower (c.toNat / 64), follower c.toNat] := by
      simp only [encodeChar, show ¬ c.toNat < 0x80 by omega, show ¬ c.toNat < 0x800 by omega,
        show ¬ c.toNat < 0x10000 by omega, if_false]
    have hd' : encodeChar d = [UInt8.ofNat (0xF0 + d.toNat / 262144), follower (d.toNat / 4096),
        follower (d.toNat / 64), follower d.toNat] := by
      simp only [encodeChar, show ¬ d.toNat < 0x80 by omega, show ¬ d.toNat < 0x800 by omega,
        show ¬ d.toNat < 0x10000 by omega, if_false]
    rw [hc', hd']
    exact before_four (by omega) (by omega) hlt
  · -- one case for each pair of widths: a wider character has the greater leading byte
    simp only [encodeChar]
    split_ifs <;> simp only [Before, toNat_follower, UInt8.toNat_ofNat'] <;> omega

theorem flatMap_encodeChar_lt {cs ds : List Char} (hlt : cs < ds) :
    cs.flatMap encodeChar < ds.flatMap encodeChar := by
  induction cs generalizing ds with
  | nil =>
    cases ds with
    | nil => exact absurd hlt (List.lt_irrefl [])
    | cons d ds =>
      rw [List.flatMap_nil, List.flatMap_cons]
      cases hd : encodeChar d with
      | nil => exact absurd hd (encodeChar_ne_nil d)
      | cons byte rest => exact List.nil_lt_cons byte _
  | cons c cs ih =>
    cases ds with
    | nil => exact absurd hlt (List.not_lt_nil _)
    | cons d ds =>
      rw [List.flatMap_cons, List.flatMap_cons]
      rcases List.cons_lt_cons_iff.1 hlt with hhead | ⟨rfl, hrest⟩
      · exact (before_encodeChar hhead).append_lt _ _
      · exact List.append_left_lt (ih hrest)

theorem encode_lt_encode {s t : String} (hlt : s < t) : encode s < encode t :=
  flatMap_encodeChar_lt (String.lt_iff.1 hlt)

theorem encode_lt_encode_iff {s t : String} : encode s < encode t ↔ s < t := by
  constructor
  · intro hbytes
    refine String.not_le.1 fun hle => ?_
    rcases Std.le_iff_lt_or_eq.1 hle with hlt | heq
    · exact absurd (encode_lt_encode hlt) (List.lt_asymm hbytes)
    · subst heq
      exact List.lt_irrefl _ hbytes
  · exact encode_lt_encode

end Utf8

/-! ### Comparisons -/

/-- Two comparisons agree if they agree on which side comes first. -/
theorem compare_eq_compare {α β : Type} [Ord α] [Ord β] [Std.OrientedOrd α] [Std.OrientedOrd β]
    {a b : α} {c d : β} (hlt : compare a b = .lt ↔ compare c d = .lt)
    (hgt : compare b a = .lt ↔ compare d c = .lt) : compare a b = compare c d := by
  rw [← Std.OrientedCmp.gt_iff_lt, ← Std.OrientedCmp.gt_iff_lt] at hgt
  cases hleft : compare a b with
  | lt => exact (hlt.1 hleft).symm
  | gt => exact (hgt.1 hleft).symm
  | eq =>
    cases hright : compare c d with
    | lt => exact absurd (hlt.2 hright) (by rw [hleft]; decide)
    | gt => exact absurd (hgt.2 hright) (by rw [hleft]; decide)
    | eq => rfl

theorem compare_bytes_eq_lt_iff {left right : List UInt8} :
    compare left right = .lt ↔ left < right := by
  induction left generalizing right with
  | nil => cases right <;> simp
  | cons byte left ih =>
    cases right with
    | nil => simp
    | cons other right =>
      rw [List.compare_cons_cons, Ordering.then_eq_lt, ih, List.cons_lt_cons_iff,
        Std.compare_eq_lt, Std.LawfulEqOrd.compare_eq_iff_eq]

theorem Utf8.compare_encode (s t : String) : compare (encode s) (encode t) = compare s t := by
  have hlt : ∀ s t : String, compare (encode s) (encode t) = .lt ↔ compare s t = .lt := by
    intro s t
    rw [compare_bytes_eq_lt_iff, encode_lt_encode_iff, compare_lt_iff_lt]
  exact compare_eq_compare (hlt s t) (hlt t s)

end Roster.Text
