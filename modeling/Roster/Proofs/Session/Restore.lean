import Roster.Proofs.Binary.RoundTrip
import Roster.Proofs.Group.Invariants
import Roster.Proofs.Json.RoundTrip
import Roster.Session

/-!
# Sessions with and without restores

Storing a valid group and loading it again changes nothing, and no command makes a valid group
invalid. So however a group came into being, a session may store and reload it at any point: it ends
with the group in which its edits alone end. A group that is created without a check is the one that
has to be valid from the start, which it is when nobody is listed twice.
-/

namespace Roster

namespace Group

/-- The ways in which a group comes into being. -/
inductive Admitted : Group → Prop
  | created {name : Option String} {members : List MemberId} {avatar : Option Avatar} {id : GroupId}
      {kind : GroupKind} (hmembers : members.Nodup) : Admitted (create name members avatar id kind)
  | checked {name : Option String} {members admins : List MemberId} {avatar : Option Avatar}
      {id : GroupId} {kind : GroupKind} {g : Group}
      (hchecked : (createWithAdmins name members admins avatar id kind).value = .ok g) : Admitted g
  | ofBytes {bytes : List UInt8} {g : Group} (hload : (Binary.loadGroup bytes).value = .ok g) :
      Admitted g
  | ofText {text : String} {g : Group} (hload : (Json.loadGroup text).value = .ok g) : Admitted g

variable {g : Group}

theorem Admitted.valid (hg : g.Admitted) : g.Valid := by
  cases hg with
  | created hmembers => exact valid_create hmembers
  | checked hchecked =>
    obtain ⟨rfl, hvalid⟩ := valid_of_accept hchecked
    exact hvalid
  | ofBytes hload => exact Binary.valid_of_loadGroup hload
  | ofText hload => exact Json.valid_of_loadGroup hload

end Group

theorem Format.reload_of_valid {g : Group} (hvalid : g.Valid) (format : Format)
    (hfits : format = .binary → Binary.Fits g) : format.reload g = pure (.ok g) := by
  cases format with
  | binary =>
    have hload := Binary.loadGroup_append (hfits rfl) []
    rw [List.append_nil, Group.accept_of_valid hvalid] at hload
    rw [reload, hload]
    rfl
  | json =>
    rw [reload, Json.loadGroup_written, Group.accept_of_valid hvalid]
    rfl

/-- An invalid group is stored as well, and the breach comes up when it is loaded. -/
theorem Format.reload_of_breach {g : Group} {breach : Breach} (hbreach : g.breach? = some breach)
    (format : Format) (hfits : format = .binary → Binary.Fits g) :
    ∃ failure, format.reload g = ⟨.error failure, [.validationFailed g.id breach]⟩ := by
  cases format with
  | binary =>
    have hload := Binary.loadGroup_append (hfits rfl) []
    rw [List.append_nil, Group.accept_of_breach hbreach] at hload
    rw [reload, hload]
    exact ⟨_, rfl⟩
  | json =>
    rw [reload, Json.loadGroup_written, Group.accept_of_breach hbreach]
    exact ⟨_, rfl⟩

/-- The command of a request that is an edit. -/
def Request.command? : Request → Option Command
  | .edit command => some command
  | _ => none

/-- The edits among requests. -/
def edits (requests : List Request) : List Command := requests.filterMap Request.command?

theorem edits_append (first second : List Request) :
    edits (first ++ second) = edits first ++ edits second :=
  List.filterMap_append

namespace Group

/-- Whether eight bytes can hold every length in the group wherever the requests store it in the
binary form. -/
def StoresFit (g : Group) (requests : List Request) : Prop :=
  ∀ first rest, requests = first ++ .restore .binary :: rest → Binary.Fits (g.after (edits first))

variable {g : Group} {request : Request} {requests first rest : List Request}

theorem storesFit_nil : g.StoresFit [] := by
  intro first rest heq
  cases first <;> cases heq

theorem storesFit_cons_iff :
    g.StoresFit (request :: requests) ↔
      (request = .restore .binary → Binary.Fits g) ∧
        (g.after (edits [request])).StoresFit requests := by
  have hstep : ∀ first,
      g.after (edits (request :: first)) = (g.after (edits [request])).after (edits first) := by
    intro first
    rw [← after_append, ← edits_append, List.singleton_append]
  constructor
  · intro hfits
    refine ⟨fun hrequest => hfits [] requests (hrequest ▸ rfl), ?_⟩
    intro first rest heq
    rw [← hstep]
    exact hfits (request :: first) rest (by rw [heq, List.cons_append])
  · rintro ⟨hhead, htail⟩ first rest heq
    cases first with
    | nil =>
      obtain ⟨hrequest, -⟩ := List.cons.inj heq
      exact hhead hrequest
    | cons before first =>
      obtain ⟨rfl, hrequests⟩ := List.cons.inj heq
      rw [hstep]
      exact htail first rest hrequests

theorem StoresFit.left (hfits : g.StoresFit (first ++ rest)) : g.StoresFit first := by
  intro before behind heq
  exact hfits before (behind ++ rest) (by rw [heq, List.append_assoc, List.cons_append])

/-- What one request does to a valid group: it makes its edit, if it is one. -/
theorem respond_of_valid (hvalid : g.Valid) (hfits : request = .restore .binary → Binary.Fits g) :
    (g.respond request).group = g.after (edits [request]) := by
  cases request with
  | restore format =>
    have hreload := format.reload_of_valid hvalid fun heq => hfits (heq ▸ rfl)
    rw [respond, hreload]
    rfl
  | _ => rfl

/-- What a row of requests does to a valid group: it makes its edits. -/
theorem serve_of_valid (hvalid : g.Valid) (hfits : g.StoresFit requests) :
    (g.serve requests).value = g.after (edits requests) := by
  induction requests generalizing g with
  | nil => rfl
  | cons request requests ih =>
    obtain ⟨hhead, htail⟩ := storesFit_cons_iff.1 hfits
    change ((g.respond request).group.serve requests).value = _
    rw [respond_of_valid hvalid hhead, ih (hvalid.after _) htail, ← after_append, ← edits_append,
      List.singleton_append]

/-- Every state along a run of commands is valid, and reloading the group anywhere in a session, in
either form, succeeds and changes neither the group there nor the group at the end. -/
theorem Admitted.valid_after_and_serve_eq_after (hg : g.Admitted) :
    (∀ commands, (g.after commands).Valid ∧ (g.after commands).validate = pure (.ok ())) ∧
      ∀ requests, g.StoresFit requests →
        (∀ first format rest, requests = first ++ .restore format :: rest →
          format.reload (g.serve first).value = pure (.ok (g.serve first).value)) ∧
        (g.serve requests).value = g.after (edits requests) := by
  have hvalid : ∀ commands, (g.after commands).Valid := hg.valid.after
  refine ⟨fun commands => ⟨hvalid commands, validate_of_valid (hvalid commands)⟩, ?_⟩
  intro requests hfits
  refine ⟨?_, serve_of_valid hg.valid hfits⟩
  intro first format rest heq
  subst heq
  rw [serve_of_valid hg.valid hfits.left]
  exact format.reload_of_valid (hvalid _) fun hbinary => hfits first rest (hbinary ▸ rfl)

/-- Two members without admins. -/
def pair : Group := create none ["ann", "bob"] none .zero .signal

/-- A member becomes an admin and is removed, cannot be removed again, and comes back. -/
def comeback : List Request :=
  [.edit (.promote "bob"), .restore .binary, .edit (.markRemoved "bob"), .restore .json,
    .edit (.markRemoved "bob"), .edit (.addMember "bob"), .restore .binary]

theorem serve_pair_comeback :
    pair.Admitted ∧ pair.StoresFit comeback ∧
      (pair.after (edits comeback)).validate = pure (.ok ()) ∧
      (pair.serve comeback).value = pair := by
  have hpair : pair.Admitted := .created (by decide)
  have hfits : pair.StoresFit comeback := by
    refine storesFit_cons_iff.2 ⟨nofun, storesFit_cons_iff.2 ⟨fun _ => by decide, ?_⟩⟩
    refine storesFit_cons_iff.2 ⟨nofun, storesFit_cons_iff.2 ⟨nofun, ?_⟩⟩
    refine storesFit_cons_iff.2 ⟨nofun, storesFit_cons_iff.2 ⟨nofun, ?_⟩⟩
    exact storesFit_cons_iff.2 ⟨fun _ => by decide, storesFit_nil⟩
  obtain ⟨hvalid, hserve⟩ := hpair.valid_after_and_serve_eq_after
  refine ⟨hpair, hfits, (hvalid (edits comeback)).2, ?_⟩
  rw [(hserve comeback hfits).2]
  decide

end Group

end Roster
