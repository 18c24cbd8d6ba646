import Mathlib.Data.List.Flatten
import Mathlib.Data.List.Perm.Subperm
import Mathlib.Data.List.Sort
import Roster.Proofs.Binary.Canonical
import Roster.Proofs.Text.Utf8Order

/-!
# The one freedom of a snapshot

The fields of a group are read canonically, with one exception: the removed ids may be listed in any
order and more than once. So a snapshot that is accepted is what is written for the group read from
it, but for the list of the removed ids, which is written in the ascending order of their bytes with
each id once.
-/

namespace Roster.Binary

variable {input rest : List UInt8} {g : Group} {ids sorted : List MemberId}

/-- The bytes of a group when its removed ids are listed in a given way. -/
def groupBytesListing (g : Group) (removed : List MemberId) : List UInt8 :=
  idBytes g.id ++
    (optionBytes textBytes g.name ++
      (listBytes textBytes g.members ++
        (listBytes textBytes g.admins ++
          (kindBytes g.kind ++
            (listBytes textBytes removed ++ optionBytes avatarBytes g.avatar)))))

theorem groupBytes_eq_listing (g : Group) : groupBytes g = groupBytesListing g g.removed.ids := rfl

/-! ### Lists of removed ids -/

/-- Whether a list has the ids of another list, each once and in the ascending order of their
bytes. -/
structure Sorts (sorted ids : List MemberId) : Prop where
  ascending : sorted.Pairwise fun s t => Text.Utf8.encode s < Text.Utf8.encode t
  mem_iff : ∀ x, x ∈ sorted ↔ x ∈ ids

theorem sorts_ofList (ids : List MemberId) : Sorts (MemberSet.ofList ids).ids ids :=
  ⟨(MemberSet.ofList ids).ascending.imp Text.Utf8.encode_lt_encode, fun _ => MemberSet.mem_ofList⟩

theorem Sorts.subperm (hsorts : Sorts sorted ids) : sorted.Subperm ids := by
  have hnodup : sorted.Nodup := hsorts.ascending.imp fun hlt =>
    String.ne_of_lt (Text.Utf8.encode_lt_encode_iff.1 hlt)
  exact List.subperm_of_subset hnodup fun x => (hsorts.mem_iff x).1

theorem Sorts.eq_of_ascending (hsorts : Sorts sorted ids)
    (hids : ids.Pairwise fun s t => Text.Utf8.encode s < Text.Utf8.encode t) : sorted = ids :=
  (hsorts.ascending.imp Text.Utf8.encode_lt_encode_iff.1).eq_of_mem_iff
    (hids.imp Text.Utf8.encode_lt_encode_iff.1) hsorts.mem_iff

theorem Sorts.textsFit (hsorts : Sorts sorted ids) (hids : TextsFit ids) : TextsFit sorted :=
  ⟨Nat.lt_of_le_of_lt hsorts.subperm.length_le hids.1, fun s hs =>
    hids.2 s ((hsorts.mem_iff s).1 hs)⟩

theorem Sorts.length_listBytes_le (hsorts : Sorts sorted ids) :
    (listBytes textBytes sorted).length ≤ (listBytes textBytes ids).length := by
  obtain ⟨part, hperm, hpart⟩ := hsorts.subperm
  have hsame : (part.flatMap textBytes).length = (sorted.flatMap textBytes).length :=
    (hperm.flatMap_right textBytes).length_eq
  have hle : (part.flatMap textBytes).length ≤ (ids.flatMap textBytes).length :=
    (hpart.flatMap textBytes).length_le
  rw [listBytes, listBytes, List.length_append, List.length_append, lengthBytes, lengthBytes,
    length_wordBytes, length_wordBytes]
  omega

theorem listBytes_injective {left right : List MemberId} (hleft : TextsFit left)
    (hright : TextsFit right) (heq : listBytes textBytes left = listBytes textBytes right) :
    left = right := by
  have hread := texts_read hleft []
  rw [heq, texts_read hright []] at hread
  cases hread
  rfl

theorem groupBytesListing_inj {left right : List MemberId} (hleft : TextsFit left)
    (hright : TextsFit right) :
    groupBytesListing g left = groupBytesListing g right ↔ left = right := by
  constructor
  · -- what stands in front of the list and behind it is the same on both sides
    intro heq
    simp only [groupBytesListing, List.append_cancel_left_eq, List.append_cancel_right_eq] at heq
    exact listBytes_injective hleft hright heq
  · rintro rfl
    rfl

/-! ### Records and groups -/

theorem run_record (hrun : record.run input = .ok (g, rest)) :
    ∃ ids, TextsFit ids ∧ Sorts g.removed.ids ids ∧ Fits g ∧
      input = groupBytesListing g ids ++ rest := by
  -- the fields one after the other; only the removed ids are read through another type
  obtain ⟨id, input₁, hid, hrun₁⟩ := run_bind_eq_ok_iff.1 hrun
  obtain ⟨name, input₂, hname, hrun₂⟩ := run_bind_eq_ok_iff.1 hrun₁
  obtain ⟨members, input₃, hmembers, hrun₃⟩ := run_bind_eq_ok_iff.1 hrun₂
  obtain ⟨admins, input₄, hadmins, hrun₄⟩ := run_bind_eq_ok_iff.1 hrun₃
  obtain ⟨kind, input₅, hkind, hrun₅⟩ := run_bind_eq_ok_iff.1 hrun₄
  obtain ⟨removed, input₆, hremoved, hrun₆⟩ := run_bind_eq_ok_iff.1 hrun₅
  obtain ⟨avatar, input₇, havatar, hrun₇⟩ := run_bind_eq_ok_iff.1 hrun₆
  obtain ⟨rfl, rfl⟩ := run_pure_eq_ok_iff.1 hrun₇
  obtain ⟨ids, input₈, hids, hread⟩ := run_bind_eq_ok_iff.1 hremoved
  obtain ⟨rfl, rfl⟩ := run_pure_eq_ok_iff.1 hread
  obtain ⟨hnameFits, hname⟩ := option_canonical text_canonical hname
  obtain ⟨hmembersFit, hmembers⟩ := texts_canonical hmembers
  obtain ⟨hadminsFit, hadmins⟩ := texts_canonical hadmins
  obtain ⟨hidsFit, hids⟩ := texts_canonical hids
  obtain ⟨havatarFits, havatar⟩ := option_canonical avatar_canonical havatar
  have hsorts : Sorts (MemberSet.ofList ids).ids ids := sorts_ofList ids
  refine ⟨ids, hidsFit, hsorts, ⟨hnameFits, hmembersFit, hadminsFit, hsorts.textsFit hidsFit,
    havatarFits⟩, ?_⟩
  rw [run_groupId hid, hname, hmembers, hadmins, run_kind hkind, hids, havatar]
  simp only [groupBytesListing, List.append_assoc]

theorem run_group (hrun : group.run input = .ok (g, rest)) :
    record.run input = .ok (g, rest) ∧ g.Valid := by
  obtain ⟨h, middle, hrecord, hcheck⟩ := run_bind_eq_ok_iff.1 hrun
  rcases h.valid_or_breach with hvalid | ⟨breach, hbreach⟩
  · rw [Group.breach?_eq_none_iff.2 hvalid] at hcheck
    obtain ⟨rfl, rfl⟩ := run_pure_eq_ok_iff.1 hcheck
    exact ⟨hrecord, hvalid⟩
  · rw [hbreach] at hcheck
    cases hcheck

theorem exists_group_run (hload : (loadGroup input).value = .ok g) :
    ∃ rest, group.run input = .ok (g, rest) := by
  rw [loadGroup, decode] at hload
  cases hrun : group.run input with
  | error fault =>
    rw [hrun] at hload
    cases hload
  | ok read =>
    rw [hrun] at hload
    cases hload
    exact ⟨read.2, rfl⟩

/-- A snapshot that is accepted is what is written for its group, but for the removed ids, which are
written in order and once each. -/
theorem loadGroup_canonical (hload : (loadGroup input).value = .ok g) :
    ∃ ids rest, input = groupBytesListing g ids ++ rest ∧ group.run input = .ok (g, rest) ∧
      groupBytes g = groupBytesListing g g.removed.ids ∧ Sorts g.removed.ids ids ∧
      (groupBytes g = groupBytesListing g ids ↔
        ids.Pairwise fun s t => Text.Utf8.encode s < Text.Utf8.encode t) ∧
      (groupBytes g).length ≤ input.length ∧ loadGroup (groupBytes g) = pure (.ok g) ∧
      g.validate.value = .ok () := by
  obtain ⟨rest, hrun⟩ := exists_group_run hload
  obtain ⟨hrecord, hvalid⟩ := run_group hrun
  obtain ⟨ids, hids, hsorts, hfits, hinput⟩ := run_record hrecord
  refine ⟨ids, rest, hinput, hrun, groupBytes_eq_listing g, hsorts, ?_, ?_, ?_,
    Group.validate_value_eq_ok_iff.2 hvalid⟩
  · rw [groupBytes_eq_listing, groupBytesListing_inj (hsorts.textsFit hids) hids]
    constructor
    · intro heq
      exact heq ▸ hsorts.ascending
    · exact hsorts.eq_of_ascending
  · have hle := hsorts.length_listBytes_le
    rw [hinput, groupBytes_eq_listing]
    simp only [groupBytesListing, List.length_append]
    omega
  · have hwritten := loadGroup_append hfits []
    rw [List.append_nil, Group.accept_of_valid hvalid] at hwritten
    exact hwritten

theorem loadGroup_unsorted :
    (loadGroup (groupBytesListing newsroom ["zoe", "carl", "zoe"] ++ [7])).value = .ok newsroom ∧
      (groupBytes newsroom).length
        < (groupBytesListing newsroom ["zoe", "carl", "zoe"] ++ [7]).length ∧
      loadGroup (groupBytes newsroom) = pure (.ok newsroom) := by
  have hload : (loadGroup (groupBytesListing newsroom ["zoe", "carl", "zoe"] ++ [7])).value
      = .ok newsroom := by decide +kernel
  obtain ⟨-, -, -, -, -, -, -, -, hreload, -⟩ := loadGroup_canonical hload
  exact ⟨hload, by decide +kernel, hreload⟩

end Roster.Binary
