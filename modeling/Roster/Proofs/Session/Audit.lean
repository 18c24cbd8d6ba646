import Roster.Proofs.Group.Breach
import Roster.Proofs.Group.Effects
import Roster.Proofs.Session.Restore
import Roster.Proofs.Update.Changes

/-!
# What the journal says about a group

Only one command sets the id of a group, and no request sets its kind. Whenever the id is set, the
old and the new one are recorded, so the records of a session at the level of information form a
chain from the id at the start to the id at the end. Warnings come from the checks alone: one for
each check of an invalid group, none for a valid one.
-/

namespace Roster

/-- The id that a command sets, if it sets one. -/
def Command.rotation? : Command → Option GroupId
  | .rotateId id => some id
  | _ => none

/-- The id that a request sets, if it sets one. -/
def Request.rotation? (request : Request) : Option GroupId :=
  request.command?.bind Command.rotation?

/-- The ids that requests set, in order. -/
def rotations (requests : List Request) : List GroupId := requests.filterMap Request.rotation?

/-- Whether the rules are checked to answer a request. -/
def Request.checks : Request → Bool
  | .validate => true
  | .restore _ => true
  | _ => false

/-- The events of one level. -/
def recordsAt (level : Level) (events : List Event) : List Event :=
  events.filter (·.level = level)

namespace Group

/-- What a check of a group records. -/
def alarm (g : Group) : List Event := (g.breach?.map (.validationFailed g.id)).toList

/-- What the checks of a session record, each at the group that its edits have made by then. -/
def alarms (g : Group) : List Request → List Event
  | [] => []
  | request :: rest =>
    (if request.checks then g.alarm else []) ++ (g.after (edits [request])).alarms rest

/-- Whether a check of a group, which puts the breach in its own words, records a breach once and
nothing if there is none. -/
structure Warns {ε α : Type} (g : Group) (report : Breach → ε) (checked : Logged (Except ε α)) :
    Prop where
  passed : g.Valid → checked.events = []
  failed : ∀ breach, g.breach? = some breach →
    checked.value = .error (report breach) ∧ checked.events = [.validationFailed g.id breach]

end Group

variable {level : Level} {events more : List Event} {request : Request} {requests : List Request}

/-! ### Records of one level -/

theorem recordsAt_append :
    recordsAt level (events ++ more) = recordsAt level events ++ recordsAt level more :=
  List.filter_append ..

theorem recordsAt_self (hlevel : ∀ event ∈ events, event.level = level) :
    recordsAt level events = events :=
  List.filter_eq_self.2 fun event hevent => decide_eq_true (hlevel event hevent)

theorem recordsAt_other (other : Level) (hlevel : ∀ event ∈ events, event.level = level)
    (hother : level ≠ other) : recordsAt other events = [] := by
  apply List.filter_eq_nil_iff.2
  intro event hevent
  rw [hlevel event hevent, decide_eq_true_iff]
  exact hother

theorem rotations_cons :
    rotations (request :: requests) = request.rotation?.toList ++ rotations requests := by
  rw [rotations, List.filterMap_cons]
  cases request.rotation? <;> rfl

/-! ### Comparisons only record details -/

namespace Describer

theorem level_of_mem_resolve {d : Describer} {x : MemberId} {event : Event}
    (hevent : event ∈ (d.resolve x).events) : event.level = .debug := by
  rw [resolve] at hevent
  split at hevent
  · split at hevent
    · cases List.mem_singleton.1 hevent
      rfl
    · cases hevent
  · cases List.mem_singleton.1 hevent
    rfl

theorem level_of_mem_description {d : Describer} {old new : Group} {event : Event}
    (hevent : event ∈ (d.description old new).events) : event.level = .debug := by
  have hresolved {wrap : MemberId → String → Update} {members : List MemberId}
      (hmem : event ∈ (members.mapM fun x => wrap x <$> d.resolve x).events) :
      event.level = .debug := by
    rw [Logged.events_mapM] at hmem
    obtain ⟨x, -, hx⟩ := List.mem_flatMap.1 hmem
    exact level_of_mem_resolve (Logged.events_map _ _ ▸ hx)
  simp only [description, changes, Logged.events_bind, Logged.events_record, Logged.events_pure,
    List.append_nil, List.mem_append, List.mem_singleton] at hevent
  rcases hevent with hadded | hremoved | rfl
  · exact hresolved hadded
  · exact hresolved hremoved
  · rfl

end Describer

namespace Group

variable {g : Group} {command : Command} {outcome : Outcome}

/-! ### Checks -/

theorem accept_events (g : Group) : g.accept.events = g.alarm := by
  rcases g.valid_or_breach with hvalid | ⟨breach, hbreach⟩
  · rw [accept_of_valid hvalid, alarm, breach?_eq_none_iff.2 hvalid]
    rfl
  · rw [accept_of_breach hbreach, alarm, hbreach]
    rfl

theorem alarm_of_valid (hvalid : g.Valid) : g.alarm = [] := by
  rw [alarm, breach?_eq_none_iff.2 hvalid]
  rfl

theorem level_of_mem_alarm {event : Event} (hevent : event ∈ g.alarm) : event.level = .warn := by
  rw [alarm, Option.mem_toList, Option.map_eq_some_iff] at hevent
  obtain ⟨breach, -, rfl⟩ := hevent
  rfl

theorem warns_accept (g : Group) : g.Warns (fun breach => breach) g.accept := by
  refine ⟨fun hvalid => ?_, fun breach hbreach => ?_⟩
  · rw [accept_of_valid hvalid]
    rfl
  · rw [accept_of_breach hbreach]
    exact ⟨rfl, rfl⟩

theorem Warns.map {ε ε' α β : Type} {report : Breach → ε} {report' : Breach → ε'}
    {checked : Logged (Except ε α)} (hwarns : g.Warns report checked)
    {f : Except ε α → Except ε' β}
    (hreport : ∀ breach, f (.error (report breach)) = .error (report' breach)) :
    g.Warns report' (f <$> checked) := by
  refine ⟨fun hvalid => ?_, fun breach hbreach => ?_⟩
  · rw [Logged.events_map, hwarns.passed hvalid]
  · obtain ⟨hvalue, hevents⟩ := hwarns.failed breach hbreach
    rw [Logged.value_map, Logged.events_map, hvalue]
    exact ⟨hreport breach, hevents⟩

theorem warns_validate (g : Group) : g.Warns (fun breach => breach) g.validate :=
  g.warns_accept.map fun _ => rfl

theorem warns_loadGroup_binary {bytes rest : List UInt8}
    (hrecord : Binary.record.run bytes = .ok (g, rest)) :
    g.Warns (.invalid g.id) (Binary.loadGroup bytes) := by
  rw [Binary.loadGroup_of_record hrecord]
  exact g.warns_accept.map fun _ => rfl

theorem warns_loadGroup_json {text : String} {rest : List Char}
    (hrecord : Json.record.run text.toList = .ok (g, rest)) :
    g.Warns (fun breach => .unfit (.invalid g.id breach)) (Json.loadGroup text) := by
  refine ⟨fun hvalid => ?_, fun breach hbreach => ?_⟩
  · rw [Json.loadGroup_of_valid hrecord hvalid]
    cases hrest : rest.dropWhile Json.Reader.isBlank with
    | nil =>
      rw [Json.run_endOfText_blank (List.dropWhile_eq_nil_iff.1 hrest)]
      rfl
    | cons c tail =>
      rw [Json.run_endOfText_trailing hrest]
      rfl
  · rw [Json.loadGroup_of_breach hrecord hbreach]
    exact ⟨rfl, rfl⟩

theorem reload_events {format : Format} (hfits : format = .binary → Binary.Fits g) :
    (format.reload g).events = g.alarm := by
  rcases g.valid_or_breach with hvalid | ⟨breach, hbreach⟩
  · rw [format.reload_of_valid hvalid hfits, alarm_of_valid hvalid]
    rfl
  · obtain ⟨failure, hreload⟩ := format.reload_of_breach hbreach hfits
    rw [hreload, alarm, hbreach]
    rfl

/-! ### One request -/

theorem Step.id_eq (hstep : g.Step command outcome) :
    outcome.group.id = command.rotation?.getD g.id := by
  cases hstep <;> rfl

theorem Step.kind_eq (hstep : g.Step command outcome) : outcome.group.kind = g.kind := by
  cases hstep <;> rfl

theorem Step.events_eq (hstep : g.Step command outcome) :
    outcome.events = (command.rotation?.map (.idRotated g.id)).toList := by
  cases hstep <;> rfl

/-- What one request does to a group, valid or not: it makes its edit, if it is one. -/
theorem respond_group (hfits : request = .restore .binary → Binary.Fits g) :
    (g.respond request).group = g.after (edits [request]) := by
  rcases g.valid_or_breach with hvalid | ⟨breach, hbreach⟩
  · exact respond_of_valid hvalid hfits
  · cases request with
    | restore format =>
      obtain ⟨failure, hreload⟩ := format.reload_of_breach hbreach fun heq => hfits (heq ▸ rfl)
      rw [respond, hreload]
      rfl
    | _ => rfl

theorem respond_id (hfits : request = .restore .binary → Binary.Fits g) :
    (g.respond request).group.id = request.rotation?.getD g.id := by
  rw [respond_group hfits]
  cases request with
  | edit command => exact (g.step_run command).id_eq
  | _ => rfl

theorem respond_kind (hfits : request = .restore .binary → Binary.Fits g) :
    (g.respond request).group.kind = g.kind := by
  rw [respond_group hfits]
  cases request with
  | edit command => exact (g.step_run command).kind_eq
  | _ => rfl

/-- One request records the id that it sets, the breach that it finds, or details. -/
theorem respond_events (hfits : request = .restore .binary → Binary.Fits g) :
    ∃ details : List Event, (∀ event ∈ details, event.level = .debug) ∧
      (g.respond request).events =
        (request.rotation?.map (.idRotated g.id)).toList ++
          (if request.checks then g.alarm else []) ++ details := by
  cases request with
  | edit command =>
    refine ⟨[], nofun, ?_⟩
    change (command.run g).events = (command.rotation?.map _).toList ++ [] ++ []
    rw [(g.step_run command).events_eq, List.append_nil, List.append_nil]
  | validate =>
    refine ⟨[], nofun, ?_⟩
    change g.validate.events = [] ++ g.alarm ++ []
    rw [validate, Logged.events_map, accept_events, List.nil_append, List.append_nil]
  | restore format =>
    refine ⟨[], nofun, ?_⟩
    have hevents : (g.respond (.restore format)).events = (format.reload g).events := by
      rw [respond]
      split <;> rfl
    rw [hevents, reload_events fun heq => hfits (heq ▸ rfl), List.append_nil]
    rfl
  | describe describer newer =>
    exact ⟨_, fun event => Describer.level_of_mem_description, rfl⟩
  | _ => exact ⟨[], nofun, rfl⟩

theorem respond_records (hfits : request = .restore .binary → Binary.Fits g) :
    recordsAt .info (g.respond request).events
        = (request.rotation?.map (.idRotated g.id)).toList ∧
      recordsAt .warn (g.respond request).events = if request.checks then g.alarm else [] := by
  obtain ⟨details, hdetails, hevents⟩ := respond_events hfits
  have hrotated : ∀ event ∈ (request.rotation?.map (Event.idRotated g.id)).toList,
      event.level = .info := by
    intro event hevent
    rw [Option.mem_toList, Option.map_eq_some_iff] at hevent
    obtain ⟨id, -, rfl⟩ := hevent
    rfl
  have halarm : ∀ event ∈ (if request.checks then g.alarm else []), event.level = .warn := by
    split
    · exact fun event => level_of_mem_alarm
    · exact nofun
  rw [hevents]
  simp only [recordsAt_append]
  constructor
  · rw [recordsAt_self hrotated, recordsAt_other .info halarm nofun,
      recordsAt_other .info hdetails nofun, List.append_nil, List.append_nil]
  · rw [recordsAt_other .warn hrotated nofun, recordsAt_self halarm,
      recordsAt_other .warn hdetails nofun, List.nil_append, List.append_nil]

/-! ### Sessions -/

theorem serve_cons_value : (g.serve (request :: requests)).value
    = ((g.respond request).group.serve requests).value := rfl

theorem serve_cons_events : (g.serve (request :: requests)).events
    = (g.respond request).events ++ ((g.respond request).group.serve requests).events := rfl

theorem StoresFit.respond (hfits : g.StoresFit (request :: requests)) :
    (request = .restore .binary → Binary.Fits g) ∧
      (g.respond request).group.StoresFit requests := by
  obtain ⟨hhead, htail⟩ := storesFit_cons_iff.1 hfits
  rw [respond_group hhead]
  exact ⟨hhead, htail⟩

theorem serve_infos (hfits : g.StoresFit requests) :
    recordsAt .info (g.serve requests).events
      = List.zipWith .idRotated (g.id :: rotations requests) (rotations requests) := by
  induction requests generalizing g with
  | nil => rfl
  | cons request requests ih =>
    obtain ⟨hhead, htail⟩ := hfits.respond
    rw [serve_cons_events, recordsAt_append, (respond_records hhead).1, ih htail,
      respond_id hhead, rotations_cons]
    -- a rotation puts its id at the front of both lists, anything else leaves both
    cases request.rotation? <;> rfl

theorem serve_warnings (hfits : g.StoresFit requests) :
    recordsAt .warn (g.serve requests).events = g.alarms requests := by
  induction requests generalizing g with
  | nil => rfl
  | cons request requests ih =>
    obtain ⟨hhead, htail⟩ := hfits.respond
    rw [serve_cons_events, recordsAt_append, (respond_records hhead).2, ih htail,
      respond_group hhead, alarms]

theorem serve_id (hfits : g.StoresFit requests) :
    (g.serve requests).value.id = (rotations requests).getLastD g.id := by
  induction requests generalizing g with
  | nil => rfl
  | cons request requests ih =>
    obtain ⟨hhead, htail⟩ := hfits.respond
    rw [serve_cons_value, ih htail, respond_id hhead, rotations_cons]
    cases request.rotation? with
    | none => rfl
    | some id => exact List.getLastD_cons.symm

theorem serve_kind (hfits : g.StoresFit requests) : (g.serve requests).value.kind = g.kind := by
  induction requests generalizing g with
  | nil => rfl
  | cons request requests ih =>
    obtain ⟨hhead, htail⟩ := hfits.respond
    rw [serve_cons_value, ih htail, respond_kind hhead]

/-- The journal of a session on any group tells each rotation of the id once, in order, from the
id before it to the id after it, starting with the id at the start and ending with the id at the
end. Nothing else touches the id, and nothing at all the kind. Every check of an invalid group is
recorded once, and no check of a valid one, wherever groups are checked. -/
theorem audit_trail (g : Group) :
    (∀ requests, g.StoresFit requests →
      recordsAt .info (g.serve requests).events
          = List.zipWith .idRotated (g.id :: rotations requests) (rotations requests) ∧
        (recordsAt .info (g.serve requests).events).map Event.text
          = List.zipWith (fun old new => "Rotating group id " ++ old.hex ++ " -> " ++ new.hex)
              (g.id :: rotations requests) (rotations requests) ∧
        (g.serve requests).value.id = (rotations requests).getLastD g.id ∧
        (g.serve requests).value.kind = g.kind ∧
        recordsAt .warn (g.serve requests).events = g.alarms requests) ∧
      (∀ request, (request = .restore .binary → Binary.Fits g) →
        ((∀ id, request ≠ .edit (.rotateId id)) → (g.respond request).group.id = g.id) ∧
          (g.respond request).group.kind = g.kind ∧
          recordsAt .warn (g.respond request).events = if request.checks then g.alarm else []) ∧
      g.Warns (fun breach => breach) g.validate ∧
      (∀ name members admins avatar id kind,
        ({ create name members avatar id kind with admins } : Group).Warns (fun breach => breach)
          (createWithAdmins name members admins avatar id kind)) ∧
      (∀ bytes rest, Binary.record.run bytes = .ok (g, rest) →
        g.Warns (.invalid g.id) (Binary.loadGroup bytes)) ∧
      ∀ text rest, Json.record.run text.toList = .ok (g, rest) →
        g.Warns (fun breach => .unfit (.invalid g.id breach)) (Json.loadGroup text) := by
  refine ⟨fun requests hfits => ?_, fun request hfits => ?_, g.warns_validate,
    fun name members admins avatar id kind => warns_accept _,
    fun bytes rest => warns_loadGroup_binary, fun text rest => warns_loadGroup_json⟩
  · have hinfos := serve_infos hfits
    refine ⟨hinfos, ?_, serve_id hfits, serve_kind hfits, serve_warnings hfits⟩
    rw [hinfos, List.map_zipWith]
    rfl
  · refine ⟨fun hother => ?_, respond_kind hfits, (respond_records hfits).2⟩
    have hnone : request.rotation? = none := by
      cases request with
      | edit command =>
        cases command with
        | rotateId id => exact absurd rfl (hother id)
        | _ => rfl
      | _ => rfl
    rw [respond_id hfits, hnone]
    rfl

/-- An admin is missing from the members. -/
def orphaned : Group := { create none ["ann"] none .zero .publicChat with admins := ["bob"] }

/-- Three rotations, the second of which changes nothing, and four checks, the last of which finds
the group put right. -/
def handover : List Request :=
  [.validate, .edit (.rotateId (.uniform 1)), .restore .json, .edit (.addMember "ann"),
    .restore .binary, .edit (.addMember "bob"), .validate, .edit (.rotateId (.uniform 1)),
    .describe ⟨Resolver.raw, none⟩ orphaned, .edit (.rotateId (.uniform 2))]

theorem serve_orphaned_handover :
    orphaned.StoresFit handover ∧
      recordsAt .info (orphaned.serve handover).events
        = [.idRotated .zero (.uniform 1), .idRotated (.uniform 1) (.uniform 1),
            .idRotated (.uniform 1) (.uniform 2)] ∧
      (orphaned.serve handover).value.id = .uniform 2 ∧
      recordsAt .warn (orphaned.serve handover).events
        = [.validationFailed .zero (.adminNotMember "bob"),
            .validationFailed (.uniform 1) (.adminNotMember "bob"),
            .validationFailed (.uniform 1) (.adminNotMember "bob")] ∧
      (Binary.record.run (Binary.groupBytes orphaned) = .ok (orphaned, []) ∧
        (Binary.loadGroup (Binary.groupBytes orphaned)).events
          = [.validationFailed .zero (.adminNotMember "bob")]) ∧
      (Json.record.run (Json.groupText orphaned).toList = .ok (orphaned, []) ∧
        (Json.loadGroup (Json.groupText orphaned)).events
          = [.validationFailed .zero (.adminNotMember "bob")]) := by
  have hfits : orphaned.StoresFit handover := by
    refine storesFit_cons_iff.2 ⟨nofun, storesFit_cons_iff.2 ⟨nofun, ?_⟩⟩
    refine storesFit_cons_iff.2 ⟨nofun, storesFit_cons_iff.2 ⟨nofun, ?_⟩⟩
    refine storesFit_cons_iff.2 ⟨fun _ => by decide, storesFit_cons_iff.2 ⟨nofun, ?_⟩⟩
    refine storesFit_cons_iff.2 ⟨nofun, storesFit_cons_iff.2 ⟨nofun, ?_⟩⟩
    exact storesFit_cons_iff.2 ⟨nofun, storesFit_cons_iff.2 ⟨nofun, storesFit_nil⟩⟩
  have hbytes : Binary.record.run (Binary.groupBytes orphaned) = .ok (orphaned, []) :=
    Binary.run_record_groupBytes (by decide)
  have htext : Json.record.run (Json.groupText orphaned).toList = .ok (orphaned, []) :=
    Json.run_record_groupText orphaned
  obtain ⟨hsession, -, -, -, hbinary, hjson⟩ := audit_trail orphaned
  obtain ⟨hinfos, -, hid, -, hwarnings⟩ := hsession handover hfits
  refine ⟨hfits, ?_, ?_, ?_, ⟨hbytes, ?_⟩, ⟨htext, ?_⟩⟩
  · rw [hinfos]
    rfl
  · rw [hid]
    rfl
  · rw [hwarnings]
    decide
  · exact ((hbinary _ _ hbytes).failed (.adminNotMember "bob") (by decide)).2
  · exact ((hjson _ _ htext).failed (.adminNotMember "bob") (by decide)).2

end Group

end Roster
