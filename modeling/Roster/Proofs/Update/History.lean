import Roster.Proofs.Group.History
import Roster.Proofs.Update.Difference

/-!
# The updates over a run

The updates from the start of a run to its end tell who is new in the order in which they came, the
last time they did, and who is gone in the order of the start. Whoever was there before and after,
or neither before nor after, is in no update, whatever happened in between.
-/

namespace Roster.Describer

open Roster.Group

variable {d : Describer} {g : Group} {commands : List Command}

theorem filterMap_newcomer_after (hvalid : g.Valid) (d : Describer) (commands : List Command) :
    (d.changes g (g.after commands)).value.filterMap Update.newcomer
      = (g.arrivals commands).dedup.filter
          fun x => !g.isMember x && (g.after commands).isMember x := by
  have hstayed : (g.members.filter (· ∉ g.departures commands)).filter (fun x => !g.isMember x)
      = [] := by
    apply List.filter_eq_nil_iff.2
    intro x hx
    have hmember : g.isMember x = true := isMember_iff.2 (List.mem_filter.1 hx).1
    simp [hmember]
  have horder : (g.after commands).members = _ := hvalid.inOrder_after commands
  rw [filterMap_newcomer_changes, missingFrom, horder, List.filter_append, hstayed,
    List.nil_append, List.filter_filter]
  rfl

theorem filterMap_leaver_after (d : Describer) (g : Group) (commands : List Command) :
    (d.changes g (g.after commands)).value.filterMap Update.leaver
      = g.members.filter fun x => !(g.after commands).isMember x :=
  filterMap_leaver_changes

/-- After a run of commands on a valid group its members are those of the start who never left, in
their order, and behind them the others who are members, in the order of their last arrivals. The
updates from the start to the end name the members who were none at the start in the order of their
last arrivals, and the members of the start who are none at the end in the order of the start. -/
theorem after_in_order (g : Group) (hvalid : g.validate.value = .ok ()) (commands : List Command) :
    (g.after commands).members
        = g.members.filter (· ∉ g.departures commands) ++
          (g.arrivals commands).dedup.filter (g.after commands).isMember ∧
      ∀ d : Describer,
        (d.changes g (g.after commands)).value.filterMap Update.newcomer
          = (g.arrivals commands).dedup.filter
              (fun x => !g.isMember x && (g.after commands).isMember x) ∧
        (d.changes g (g.after commands)).value.filterMap Update.leaver
          = g.members.filter fun x => !(g.after commands).isMember x := by
  have hlists : g.Valid := validate_value_eq_ok_iff.1 hvalid
  refine ⟨hlists.inOrder_after commands, fun d => ⟨?_, ?_⟩⟩
  · exact filterMap_newcomer_after hlists d commands
  · exact filterMap_leaver_after d g commands

def troupe : Group := create none ["ann", "bob", "cy"] none .zero .signal

/-- One member leaves for good and another comes back, a newcomer comes twice, is refused in between
and ends behind one who came once. -/
def season : List Command :=
  [.removeMember "ann", .addMember "dee", .addMember "ann", .addMember "dee", .markRemoved "dee",
    .markRemoved "bob", .removeMember "bob", .addMember "eve", .addMember "dee"]

theorem troupe_after_season :
    troupe.validate.value = .ok () ∧
      troupe.arrivals season = ["dee", "ann", "eve", "dee"] ∧
      troupe.departures season = ["ann", "dee", "bob"] ∧
      (troupe.after season).members = ["cy", "ann", "eve", "dee"] ∧
      (changes ⟨.raw, none⟩ troupe (troupe.after season)).value.filterMap Update.newcomer
        = ["eve", "dee"] ∧
      (changes ⟨.raw, none⟩ troupe (troupe.after season)).value.filterMap Update.leaver
        = ["bob"] := by
  have hvalid : troupe.validate.value = .ok () := by decide
  have harrivals : troupe.arrivals season = ["dee", "ann", "eve", "dee"] := by decide
  have hdepartures : troupe.departures season = ["ann", "dee", "bob"] := by decide
  obtain ⟨hmembers, hupdates⟩ := after_in_order troupe hvalid season
  obtain ⟨hnewcomers, hleavers⟩ := hupdates ⟨.raw, none⟩
  rw [harrivals] at hmembers hnewcomers
  rw [hdepartures] at hmembers
  exact ⟨hvalid, harrivals, hdepartures, hmembers.trans (by decide), hnewcomers.trans (by decide),
    hleavers.trans (by decide)⟩

end Roster.Describer
