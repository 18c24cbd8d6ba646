import Roster.Proofs.Json.Loading
import Roster.Proofs.Json.Members

/-!
# Groups in JSON are read back

A group is written as an object with all of its fields, one after the other, so the draft is
complete when its members were read. Since the laws speak of all spellings, blanks between the
tokens change nothing.
-/

namespace Roster.Json

open Reader

/-- What is written is an object with all fields in their order. -/
theorem layout_all (g : Group) : layout g (Field.all.map .field) = groupTokens g := rfl

theorem record_reads (g : Group) : Reads record (groupTokens g) g := by
  intro text rest htext hrest
  rw [← layout_all] at htext
  exact Draft.run_record (by decide) htext hrest

theorem run_record_groupText (g : Group) : record.run (groupText g).toList = .ok (g, []) := by
  have hread := record_reads g _ [] (.written _) (apart_of_blank nofun)
  rw [List.append_nil] at hread
  rw [groupText, write, String.toList_ofList, hread]

/-- Loading gives the verdict that accepting the described group gives, and records the same. -/
theorem loadGroup_spelling {g : Group} {tokens : List Token} {text tail : List Char}
    (hrecord : Reads record tokens g) (htext : Spelling tokens text)
    (htail : ∀ c ∈ tail, isBlank c = true) :
    loadGroup (String.ofList (text ++ tail))
      = Except.mapError (fun breach => .unfit (.invalid g.id breach)) <$> g.accept := by
  have hread : record.run (String.ofList (text ++ tail)).toList = .ok (g, tail) := by
    rw [String.toList_ofList]
    exact hrecord text tail htext (apart_of_blank htail)
  rcases g.valid_or_breach with hvalid | ⟨breach, hbreach⟩
  · rw [loadGroup_of_valid hread hvalid, run_endOfText_blank htail, Group.accept_of_valid hvalid]
    rfl
  · rw [loadGroup_of_breach hread hbreach, Group.accept_of_breach hbreach]
    rfl

theorem loadGroup_written (g : Group) :
    loadGroup (groupText g)
      = Except.mapError (fun breach => .unfit (.invalid g.id breach)) <$> g.accept := by
  have h := loadGroup_spelling (record_reads g) (Spelling.written (groupTokens g))
    (List.forall_mem_nil _)
  rwa [List.append_nil] at h

/-- What was stored is loaded as it was if it is valid, and refused as a text that describes no
group, for the rule that it breaks, if it is not. -/
theorem loadGroup_groupText (g : Group) :
    (g.validate.value = .ok () → (loadGroup (groupText g)).value = .ok g) ∧
      ∀ breach, g.validate.value = .error breach →
        (loadGroup (groupText g)).value = .error (.unfit (.invalid g.id breach)) := by
  rw [loadGroup_written]
  constructor
  · intro hok
    rw [Group.accept_of_valid (Group.validate_value_eq_ok_iff.1 hok)]
    rfl
  · intro breach herror
    rw [Group.accept_of_breach (Group.validate_value_eq_error_iff.1 herror)]
    rfl

/-- A group whose name holds every kind of character that is escaped, and some that are not. -/
def transcript : Group :=
  { Group.create (some "\"a\" \\ b\n\u0000\u001fé😀") ["ann", ""] (some ⟨[0, 9, 10, 255]⟩) .zero
      .publicChat with
    admins := [""]
    removed := .ofList ["zoe", "\t"] }

theorem loadGroup_transcript :
    (transcript.validate.value = .ok () ∧
      (loadGroup (groupText transcript)).value = .ok transcript) ∧
    (loadGroup (groupText { transcript with admins := ["zoe"] })).value
      = .error (.unfit (.invalid .zero (.adminNotMember "zoe"))) :=
  ⟨⟨rfl, (loadGroup_groupText transcript).1 rfl⟩, (loadGroup_groupText _).2 _ rfl⟩

end Roster.Json
