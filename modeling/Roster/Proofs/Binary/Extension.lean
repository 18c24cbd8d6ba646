import Roster.Proofs.Binary.RoundTrip

/-!
# Snapshots that are cut short or go on

A reader is steady when bytes behind its input change neither the value it read nor the fault it
met, unless that fault was that the bytes ran out. Steadiness goes through sequencing, so each
reader is steady by its parts. A written snapshot that is cut short can then neither be read nor be
refused for another reason than its end, since the whole snapshot would share that fate.
-/

namespace Roster.Binary

variable {α β : Type} {input more : List UInt8} {g : Group}

/-- Whether a fault is that the bytes ran out. -/
def Fault.isShortage : Fault → Bool
  | endOfInput | textBeyondEnd => true
  | _ => false

/-- Bytes behind the input change nothing unless the reader ran out of bytes. -/
structure Steady (reader : Reader α) : Prop where
  read : ∀ {input rest a} (more), reader.run input = .ok (a, rest) →
    reader.run (input ++ more) = .ok (a, rest ++ more)
  refused : ∀ {input fault} (more), fault.isShortage = false → reader.run input = .error fault →
    reader.run (input ++ more) = .error fault

namespace Steady

theorem pure (a : α) : Steady (Pure.pure a : Reader α) := by
  constructor
  · intro input rest b more hrun
    cases hrun
    rfl
  · intro input fault more _ hrun
    cases hrun

theorem throw (fault : Fault) : Steady (MonadExcept.throw fault : Reader α) := by
  constructor
  · intro input rest a more hrun
    cases hrun
  · intro input fault more _ hrun
    cases hrun
    rfl

theorem bind {reader : Reader α} {next : α → Reader β} (hfirst : Steady reader)
    (hnext : ∀ a, Steady (next a)) : Steady (reader >>= next) := by
  constructor
  · intro input rest b more hrun
    rw [StateT.run_bind] at hrun ⊢
    cases hread : reader.run input with
    | error fault =>
      rw [hread] at hrun
      cases hrun
    | ok read =>
      rw [hread] at hrun
      rw [hfirst.read more hread]
      exact (hnext read.1).read more hrun
  · intro input fault more hfault hrun
    rw [StateT.run_bind] at hrun ⊢
    cases hread : reader.run input with
    | error early =>
      rw [hread] at hrun
      cases hrun
      rw [hfirst.refused more hfault hread]
      rfl
    | ok read =>
      rw [hread] at hrun
      rw [hfirst.read more hread]
      exact (hnext read.1).refused more hfault hrun

theorem map {reader : Reader α} (f : α → β) (hreader : Steady reader) : Steady (f <$> reader) := by
  rw [map_eq_pure_bind]
  exact hreader.bind fun a => pure (f a)

/-- What is read from the whole of some bytes is not read from a part of them: it runs short. -/
theorem exists_shortage_of_cut {reader : Reader α} {front back : List UInt8} {a : α}
    (hreader : Steady reader) (hwhole : reader.run (front ++ back) = .ok (a, []))
    (hback : back ≠ []) : ∃ fault, reader.run front = .error fault ∧ fault.isShortage = true := by
  cases hread : reader.run front with
  | ok read =>
    -- a value read from the front would leave the back unread, and the whole leaves nothing
    have hlong := hreader.read back hread
    rw [hwhole] at hlong
    have hrest : [] = read.2 ++ back := congrArg Prod.snd (Except.ok.inj hlong)
    exact absurd (List.append_eq_nil_iff.1 hrest.symm).2 hback
  | error fault =>
    cases hshortage : fault.isShortage with
    | true => exact ⟨fault, rfl, hshortage⟩
    | false =>
      have hlong := hreader.refused back hshortage hread
      rw [hwhole] at hlong
      cases hlong

end Steady

/-! ### Every reader is steady -/

theorem byte_steady : Steady byte := by
  constructor
  · intro input rest b more hrun
    cases input with
    | nil => cases hrun
    | cons first input =>
      cases hrun
      rfl
  · intro input fault more hfault hrun
    cases input with
    | nil =>
      cases hrun
      cases hfault
    | cons first input => cases hrun

theorem word_steady (width : Nat) : Steady (word width) := by
  induction width with
  | zero => exact .pure 0
  | succ width ih => exact byte_steady.bind fun low => ih.bind fun high => .pure _

theorem length_steady : Steady length := word_steady 8

theorem bytes_steady {shortage : Fault} (hshortage : shortage.isShortage = true) (count : Nat) :
    Steady (bytes count shortage) := by
  constructor
  · intro input rest taken more hrun
    simp only [bytes, StateT.run_bind, StateT.run_get, pure_bind] at hrun
    split at hrun
    · rename_i henough
      cases hrun
      have hread := bytes_reads henough shortage (input.drop count ++ more)
      rwa [← List.append_assoc, List.take_append_drop] at hread
    · cases hrun
  · intro input fault more hfault hrun
    simp only [bytes, StateT.run_bind, StateT.run_get, pure_bind] at hrun
    split at hrun
    · cases hrun
    · cases hrun
      rw [hshortage] at hfault
      cases hfault

theorem times_steady {item : Reader α} (hitem : Steady item) (count : Nat) :
    Steady (times item count) := by
  induction count with
  | zero => exact .pure []
  | succ count ih => exact hitem.bind fun first => ih.bind fun rest => .pure _

theorem list_steady {item : Reader α} (hitem : Steady item) : Steady (list item) :=
  length_steady.bind fun count => times_steady hitem count

theorem option_steady {item : Reader α} (hitem : Steady item) : Steady (option item) := by
  refine byte_steady.bind fun tag => ?_
  by_cases hzero : tag = 0
  · rw [if_pos hzero]
    exact .pure none
  · rw [if_neg hzero]
    by_cases hone : tag = 1
    · rw [if_pos hone]
      exact hitem.bind fun a => .pure (some a)
    · rw [if_neg hone]
      exact .throw _

theorem text_steady : Steady text := by
  refine length_steady.bind fun count => (bytes_steady rfl count).bind fun encoded => ?_
  cases hdecode : Text.Utf8.decode encoded.val with
  | ok s => exact .pure s
  | error fault => exact .throw _

theorem groupId_steady : Steady groupId := (bytes_steady rfl GroupId.length).map GroupId.ofExactly

theorem kind_steady : Steady kind := by
  refine (word_steady 4).bind fun index => ?_
  cases hkind : GroupKind.ofTag? index with
  | some k => exact .pure k
  | none => exact .throw _

theorem avatar_steady : Steady avatar :=
  length_steady.bind fun count => (bytes_steady rfl count).bind fun _ => .pure _

theorem memberSet_steady : Steady memberSet :=
  (list_steady text_steady).bind fun _ => .pure _

theorem record_steady : Steady record :=
  groupId_steady.bind fun _ =>
  (option_steady text_steady).bind fun _ =>
  (list_steady text_steady).bind fun _ =>
  (list_steady text_steady).bind fun _ =>
  kind_steady.bind fun _ =>
  memberSet_steady.bind fun _ =>
  (option_steady avatar_steady).bind fun _ => .pure _

theorem group_steady : Steady group := by
  refine record_steady.bind fun g => ?_
  cases hbreach : g.breach? with
  | none => exact .pure g
  | some breach => exact .throw _

/-! ### Snapshots -/

theorem loadGroup_append_of_settled
    (hsettled : ∀ fault, (loadGroup input).value = .error fault → fault.isShortage = false) :
    loadGroup (input ++ more) = loadGroup input := by
  cases hrun : group.run input with
  | ok read =>
    rw [loadGroup, loadGroup, decode, decode, hrun, group_steady.read more hrun]
    rfl
  | error fault =>
    have hfault : fault.isShortage = false := hsettled fault (by rw [loadGroup, decode, hrun]; rfl)
    rw [loadGroup, loadGroup, decode, decode, hrun, group_steady.refused more hfault hrun]

theorem loadGroup_of_cut (hfits : Fits g) {cut : List UInt8} (hcut : cut <+: groupBytes g)
    (hshort : cut ≠ groupBytes g) :
    ∃ fault, (loadGroup cut).value = .error fault ∧ fault.isShortage = true := by
  obtain ⟨back, hback⟩ := hcut
  have hmissing : back ≠ [] := by
    rintro rfl
    exact hshort (by rwa [List.append_nil] at hback)
  have hwhole : record.run (cut ++ back) = .ok (g, []) := by
    have hread := record_reads hfits []
    rwa [List.append_nil, ← hback] at hread
  obtain ⟨fault, hrecord, hfault⟩ := record_steady.exists_shortage_of_cut hwhole hmissing
  refine ⟨fault, ?_, hfault⟩
  rw [loadGroup_of_fault hrecord]

/-- What stands behind a snapshot that was loaded or refused for a reason of its own changes
nothing, and a snapshot that is cut short is refused because the bytes run out. -/
theorem loadGroup_append_and_of_cut (input : List UInt8) (g : Group) :
    ((∀ fault, (loadGroup input).value = .error fault → fault.isShortage = false) →
      ∀ more, loadGroup (input ++ more) = loadGroup input) ∧
    (Fits g → ∀ cut, cut <+: groupBytes g → cut ≠ groupBytes g →
      ∃ fault, (loadGroup cut).value = .error fault ∧ fault.isShortage = true) :=
  ⟨fun hsettled _ => loadGroup_append_of_settled hsettled, fun hfits _ => loadGroup_of_cut hfits⟩

/-- An id, and a tag for a name that is neither there nor missing. -/
def misfiled : List UInt8 := idBytes .zero ++ [2]

theorem loadGroup_misfiled_and_newsroom :
    ((loadGroup misfiled).value = .error (.unknownOptionTag 2) ∧
      loadGroup (misfiled ++ [0, 0]) = loadGroup misfiled) ∧
    Fits newsroom ∧ (groupBytes newsroom).take 40 <+: groupBytes newsroom ∧
      ∃ fault, (loadGroup ((groupBytes newsroom).take 40)).value = .error fault ∧
        fault.isShortage = true := by
  obtain ⟨happend, hcut⟩ := loadGroup_append_and_of_cut misfiled newsroom
  have hrefused : (loadGroup misfiled).value = .error (.unknownOptionTag 2) := rfl
  have hfits : Fits newsroom := by decide
  have hprefix : (groupBytes newsroom).take 40 <+: groupBytes newsroom := List.take_prefix 40 _
  refine ⟨⟨hrefused, happend (fun fault hfault => ?_) [0, 0]⟩, hfits, hprefix,
    hcut hfits _ hprefix (by decide +kernel)⟩
  rw [hrefused] at hfault
  cases hfault
  rfl

end Roster.Binary
