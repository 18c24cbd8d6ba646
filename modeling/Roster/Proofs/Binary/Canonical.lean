import Roster.Proofs.Binary.RoundTrip
import Roster.Proofs.Text.Utf8Canonical

/-!
# What is read was written

A reader is canonical when it accepts nothing but what the writer writes for a value, and leaves
what stands behind it. Canonical readers are closed under lists and optional values, and numbers of
a fixed width, texts, kinds and pictures are read canonically: each value has one spelling.
-/

namespace Roster.Binary

variable {α β : Type} {input rest : List UInt8}

/-- Whatever the reader accepts is what is written for a value that fits, in front of the rest. -/
def Canonical (reader : Reader α) (write : α → List UInt8) (Fit : α → Prop) : Prop :=
  ∀ ⦃input a rest⦄, reader.run input = .ok (a, rest) → Fit a ∧ input = write a ++ rest

theorem run_bind_eq_ok_iff {reader : Reader α} {next : α → Reader β} {b : β} :
    (reader >>= next).run input = .ok (b, rest) ↔
      ∃ a middle, reader.run input = .ok (a, middle) ∧ (next a).run middle = .ok (b, rest) := by
  rw [StateT.run_bind]
  constructor
  · intro hrun
    cases hfirst : reader.run input with
    | error fault =>
      rw [hfirst] at hrun
      cases hrun
    | ok read =>
      rw [hfirst] at hrun
      exact ⟨read.1, read.2, rfl, hrun⟩
  · rintro ⟨a, middle, hfirst, hnext⟩
    rw [hfirst]
    exact hnext

theorem run_pure_eq_ok_iff {a b : α} :
    (pure a : Reader α).run input = .ok (b, rest) ↔ a = b ∧ input = rest := by
  constructor
  · intro hrun
    cases hrun
    exact ⟨rfl, rfl⟩
  · rintro ⟨rfl, rfl⟩
    rfl

/-! ### Numbers and rows of bytes -/

theorem run_byte {b : UInt8} (hrun : byte.run input = .ok (b, rest)) : input = b :: rest := by
  cases input with
  | nil => cases hrun
  | cons first input =>
    cases hrun
    rfl

theorem run_word {width n : Nat} (hrun : (word width).run input = .ok (n, rest)) :
    n < 256 ^ width ∧ input = wordBytes width n ++ rest := by
  induction width generalizing input n with
  | zero =>
    obtain ⟨rfl, rfl⟩ := run_pure_eq_ok_iff.1 hrun
    exact ⟨by decide, rfl⟩
  | succ width ih =>
    obtain ⟨low, middle, hlow, hrun⟩ := run_bind_eq_ok_iff.1 hrun
    obtain ⟨high, rest', hhigh, hrun⟩ := run_bind_eq_ok_iff.1 hrun
    obtain ⟨rfl, rfl⟩ := run_pure_eq_ok_iff.1 hrun
    obtain ⟨hbound, rfl⟩ := ih hhigh
    have hbyte : low.toNat < 256 := low.toNat_lt
    have hlast : UInt8.ofNat (low.toNat + 256 * high) = low := by
      apply UInt8.toNat_inj.1
      rw [UInt8.toNat_ofNat']
      omega
    have hfront : (low.toNat + 256 * high) / 256 = high := by omega
    constructor
    · rw [Nat.pow_succ]
      omega
    · rw [wordBytes, hlast, hfront, List.cons_append]
      exact run_byte hlow

theorem run_length {n : Nat} (hrun : length.run input = .ok (n, rest)) :
    n < 2 ^ 64 ∧ input = lengthBytes n ++ rest :=
  run_word hrun

theorem run_bytes {count : Nat} {shortage : Fault}
    {taken : { taken : List UInt8 // taken.length = count }}
    (hrun : (bytes count shortage).run input = .ok (taken, rest)) : input = taken.val ++ rest := by
  simp only [bytes, StateT.run_bind, StateT.run_get, pure_bind] at hrun
  split at hrun
  · cases hrun
    exact (List.take_append_drop count input).symm
  · cases hrun

/-! ### Items, texts and optional values -/

theorem run_times {item : Reader α} {write : α → List UInt8} {Fit : α → Prop} {count : Nat}
    {items : List α} (hitem : Canonical item write Fit)
    (hrun : (times item count).run input = .ok (items, rest)) :
    items.length = count ∧ (∀ a ∈ items, Fit a) ∧ input = items.flatMap write ++ rest := by
  induction count generalizing input items with
  | zero =>
    obtain ⟨rfl, rfl⟩ := run_pure_eq_ok_iff.1 hrun
    exact ⟨rfl, fun _ ha => absurd ha List.not_mem_nil, rfl⟩
  | succ count ih =>
    obtain ⟨a, middle, hfirst, hrun⟩ := run_bind_eq_ok_iff.1 hrun
    obtain ⟨tail, rest', htail, hrun⟩ := run_bind_eq_ok_iff.1 hrun
    obtain ⟨rfl, rfl⟩ := run_pure_eq_ok_iff.1 hrun
    obtain ⟨hfit, rfl⟩ := hitem hfirst
    obtain ⟨hlength, hfits, rfl⟩ := ih htail
    refine ⟨congrArg (· + 1) hlength, List.forall_mem_cons.2 ⟨hfit, hfits⟩, ?_⟩
    rw [List.flatMap_cons, List.append_assoc]

theorem list_canonical {item : Reader α} {write : α → List UInt8} {Fit : α → Prop}
    (hitem : Canonical item write Fit) :
    Canonical (list item) (listBytes write)
      fun items => items.length < 2 ^ 64 ∧ ∀ a ∈ items, Fit a := by
  intro input items rest hrun
  obtain ⟨count, middle, hcount, hitems⟩ := run_bind_eq_ok_iff.1 hrun
  obtain ⟨hbound, hinput⟩ := run_length hcount
  obtain ⟨hlength, hfits, hmiddle⟩ := run_times hitem hitems
  rw [← hlength] at hbound hinput
  rw [hinput, hmiddle, listBytes, List.append_assoc]
  exact ⟨⟨hbound, hfits⟩, rfl⟩

theorem option_canonical {item : Reader α} {write : α → List UInt8} {Fit : α → Prop}
    (hitem : Canonical item write Fit) :
    Canonical (option item) (optionBytes write) fun value => ∀ a ∈ value, Fit a := by
  intro input value rest hrun
  obtain ⟨tag, middle, htag, hrun⟩ := run_bind_eq_ok_iff.1 hrun
  rw [run_byte htag]
  by_cases hzero : tag = 0
  · rw [if_pos hzero] at hrun
    obtain ⟨rfl, rfl⟩ := run_pure_eq_ok_iff.1 hrun
    exact ⟨fun _ ha => absurd ha (Option.not_mem_none _), hzero ▸ rfl⟩
  rw [if_neg hzero] at hrun
  by_cases hone : tag = 1
  · rw [if_pos hone] at hrun
    obtain ⟨a, rest', ha, hrun⟩ := run_bind_eq_ok_iff.1 hrun
    obtain ⟨rfl, rfl⟩ := run_pure_eq_ok_iff.1 hrun
    obtain ⟨hfit, rfl⟩ := hitem ha
    exact ⟨fun b hb => Option.mem_some.1 hb ▸ hfit, hone ▸ rfl⟩
  · rw [if_neg hone] at hrun
    cases hrun

theorem text_canonical : Canonical text textBytes TextFits := by
  intro input s rest hrun
  obtain ⟨count, middle, hcount, hbehind⟩ := run_bind_eq_ok_iff.1 hrun
  obtain ⟨taken, rest', htaken, hread⟩ := run_bind_eq_ok_iff.1 hbehind
  obtain ⟨hbound, hinput⟩ := run_length hcount
  cases hdecode : Text.Utf8.decode taken.val with
  | error fault =>
    rw [hdecode] at hread
    cases hread
  | ok s' =>
    rw [hdecode] at hread
    obtain ⟨rfl, rfl⟩ := run_pure_eq_ok_iff.1 hread
    have hencode : Text.Utf8.encode s' = taken.val := Text.Utf8.decode_eq_ok_iff.1 hdecode
    have hlength : (Text.Utf8.encode s').length = count := hencode ▸ taken.property
    rw [TextFits, textBytes, hinput, run_bytes htaken, hlength, hencode, List.append_assoc]
    exact ⟨hbound, rfl⟩

theorem texts_canonical : Canonical (list text) (listBytes textBytes) TextsFit :=
  list_canonical text_canonical

/-! ### The fields of a group -/

theorem run_groupId {id : GroupId} (hrun : groupId.run input = .ok (id, rest)) :
    input = idBytes id ++ rest := by
  rw [groupId, map_eq_pure_bind] at hrun
  obtain ⟨taken, middle, htaken, hread⟩ := run_bind_eq_ok_iff.1 hrun
  obtain ⟨rfl, rfl⟩ := run_pure_eq_ok_iff.1 hread
  exact run_bytes htaken

theorem run_kind {k : GroupKind} (hrun : kind.run input = .ok (k, rest)) :
    input = kindBytes k ++ rest := by
  obtain ⟨index, middle, hindex, hread⟩ := run_bind_eq_ok_iff.1 hrun
  obtain ⟨-, hinput⟩ := run_word hindex
  cases hkind : GroupKind.ofTag? index with
  | none =>
    rw [hkind] at hread
    cases hread
  | some k' =>
    rw [hkind] at hread
    obtain ⟨rfl, rfl⟩ := run_pure_eq_ok_iff.1 hread
    have htag : k'.tag = index := by simpa using List.find?_some hkind
    rw [hinput, kindBytes, htag]

theorem avatar_canonical : Canonical avatar avatarBytes (·.size < 2 ^ 64) := by
  intro input a rest hrun
  obtain ⟨count, middle, hcount, hbehind⟩ := run_bind_eq_ok_iff.1 hrun
  obtain ⟨taken, rest', htaken, hread⟩ := run_bind_eq_ok_iff.1 hbehind
  obtain ⟨rfl, rfl⟩ := run_pure_eq_ok_iff.1 hread
  obtain ⟨hbound, hinput⟩ := run_length hcount
  have hsize : (⟨taken.val⟩ : Avatar).size = count := taken.property
  rw [← hsize] at hbound
  rw [hinput, run_bytes htaken, avatarBytes, hsize, List.append_assoc]
  exact ⟨hbound, rfl⟩

end Roster.Binary
