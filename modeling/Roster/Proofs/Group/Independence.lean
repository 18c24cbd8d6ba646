import Roster.Proofs.Group.Observation
import Roster.Proofs.Group.Standing

/-!
# Commands about different ids

What a command about an id does is decided by where this id stands, and it comes down to one edit of
each of the three lists that concerns no entry of another id. Such edits can change places, but for
two that append to the same list, where the order of the two new entries tells which came first. So
commands about different ids are independent, in valid groups and in all others.
-/

namespace Roster

/-- What a command does with its id in a list. -/
inductive ListEdit where
  | keep
  | append
  | eraseFirst
  | eraseAll
deriving DecidableEq

/-- What a command does with its id in the set of removed ids. -/
inductive SetEdit where
  | keep
  | insert
  | erase

/-- All that a command does with its id. -/
structure Move where
  members : ListEdit
  admins : ListEdit
  removed : SetEdit
  reply : Except Refusal Reply

/-! ### Edits at different ids -/

namespace ListEdit

def apply (x : MemberId) (ids : List MemberId) : ListEdit → List MemberId
  | keep => ids
  | append => ids ++ [x]
  | eraseFirst => ids.erase x
  | eraseAll => ids.filter (· ≠ x)

variable {x y : MemberId} {ids : List MemberId} {e f : ListEdit}

theorem erase_concat (hne : x ≠ y) : (ids ++ [y]).erase x = ids.erase x ++ [y] := by
  by_cases hx : x ∈ ids
  · exact List.erase_append_left _ hx
  · have hother : x ∉ [y] := fun hmem => hne (List.mem_singleton.1 hmem)
    rw [List.erase_append_right _ hx, List.erase_of_not_mem hx, List.erase_of_not_mem hother]

theorem filter_ne_concat (hne : x ≠ y) :
    (ids ++ [y]).filter (· ≠ x) = ids.filter (· ≠ x) ++ [y] := by
  simp [List.filter_append, Ne.symm hne]

/-- Two edits at different ids change places unless both append. -/
theorem apply_comm (hne : x ≠ y) (hboth : ¬ (e = append ∧ f = append)) :
    f.apply y (e.apply x ids) = e.apply x (f.apply y ids) := by
  cases e with
  | keep => rfl
  | append =>
    cases f with
    | keep => rfl
    | append => exact absurd ⟨rfl, rfl⟩ hboth
    | eraseFirst => exact erase_concat hne.symm
    | eraseAll => exact filter_ne_concat hne.symm
  | eraseFirst =>
    cases f with
    | keep => rfl
    | append => exact (erase_concat hne).symm
    | eraseFirst => exact List.erase_comm x y
    | eraseAll => exact List.erase_filter.symm
  | eraseAll =>
    cases f with
    | keep => rfl
    | append => exact (filter_ne_concat hne).symm
    | eraseFirst => exact List.erase_filter
    | eraseAll => exact List.filter_comm _ _ ids

theorem mem_apply_comm (hne : x ≠ y) (z : MemberId) :
    z ∈ f.apply y (e.apply x ids) ↔ z ∈ e.apply x (f.apply y ids) := by
  by_cases hboth : e = append ∧ f = append
  · obtain ⟨rfl, rfl⟩ := hboth
    simp [apply, or_comm]
  · rw [apply_comm hne hboth]

end ListEdit

namespace SetEdit

def apply (x : MemberId) (set : MemberSet) : SetEdit → MemberSet
  | keep => set
  | insert => set.insert x
  | erase => set.erase x

/-- Edits of a set at different ids change places. -/
theorem apply_comm {x y : MemberId} (hne : x ≠ y) (set : MemberSet) (e f : SetEdit) :
    f.apply y (e.apply x set) = e.apply x (f.apply y set) := by
  ext z
  cases e <;> cases f <;> simp only [apply, MemberSet.mem_insert, MemberSet.mem_erase] <;> grind

end SetEdit

namespace Move

/-- The move of a command that is refused. -/
def refused (refusal : Refusal) : Move := ⟨.keep, .keep, .keep, .error refusal⟩

/-- The group after a move with an id. -/
def group (move : Move) (x : MemberId) (g : Group) : Group :=
  { g with
    members := move.members.apply x g.members
    admins := move.admins.apply x g.admins
    removed := move.removed.apply x g.removed }

end Move

/-- What a command does with the id it is about. -/
def Command.move (g : Group) : Command → Move
  | addMember x =>
    if x ∈ g.members then .refused (.alreadyMember x) else ⟨.append, .keep, .erase, .ok .done⟩
  | removeMember x =>
    if x ∈ g.members then ⟨.eraseFirst, .eraseAll, .keep, .ok .done⟩ else .refused (.notMember x)
  | markRemoved x =>
    if x ∈ g.members then ⟨.eraseFirst, .eraseAll, .insert, .ok .done⟩ else .refused (.notMember x)
  | clearRemoved x => ⟨.keep, .keep, .erase, .ok (.changed (g.isRemoved x))⟩
  | promote x =>
    if x ∈ g.members then
      if x ∈ g.admins then ⟨.keep, .keep, .keep, .ok (.changed false)⟩
      else ⟨.keep, .append, .keep, .ok (.changed true)⟩
    else .refused (.notMember x)
  | demote x =>
    if x ∈ g.admins then ⟨.keep, .eraseFirst, .keep, .ok .done⟩ else .refused (.notAdmin x)
  | setName _ | setAvatar _ | rotateId _ => ⟨.keep, .keep, .keep, .ok .done⟩

namespace Group

variable {g h : Group} {x y : MemberId} {command first second : Command}

/-! ### Commands as moves -/

theorem run_eq_move (habout : command.about = some x) (g : Group) :
    command.run g = ⟨(command.move g).group x g, (command.move g).reply, []⟩ := by
  cases command with
  | setName | setAvatar | rotateId => cases habout
  | addMember z =>
    cases habout
    by_cases hx : x ∈ g.members
    · rw [Command.run, addMember_of_mem hx, Command.move, if_pos hx]
      rfl
    · rw [Command.run, addMember_of_not_mem hx, Command.move, if_neg hx]
      rfl
  | removeMember z =>
    cases habout
    by_cases hx : x ∈ g.members
    · rw [Command.run, removeMember_of_mem hx, Command.move, if_pos hx]
      rfl
    · rw [Command.run, removeMember_of_not_mem hx, Command.move, if_neg hx]
      rfl
  | markRemoved z =>
    cases habout
    by_cases hx : x ∈ g.members
    · rw [Command.run, markRemoved_of_mem hx, Command.move, if_pos hx]
      rfl
    · rw [Command.run, markRemoved_of_not_mem hx, Command.move, if_neg hx]
      rfl
  | clearRemoved z =>
    cases habout
    rfl
  | promote z =>
    cases habout
    by_cases hx : x ∈ g.members
    · by_cases hadmin : x ∈ g.admins
      · rw [Command.run, promote_of_admin hx hadmin, Command.move, if_pos hx, if_pos hadmin]
        rfl
      · rw [Command.run, promote_of_member hx hadmin, Command.move, if_pos hx, if_neg hadmin]
        rfl
    · rw [Command.run, promote_of_not_mem hx, Command.move, if_neg hx]
      rfl
  | demote z =>
    cases habout
    by_cases hx : x ∈ g.admins
    · rw [Command.run, demote_of_mem hx, Command.move, if_pos hx]
      rfl
    · rw [Command.run, demote_of_not_mem hx, Command.move, if_neg hx]
      rfl

/-- The place of the id decides. -/
theorem Alongside.move_eq (halong : g.Alongside h x) (habout : command.about = some x) :
    command.move h = command.move g := by
  have hremoved : h.isRemoved x = g.isRemoved x := by
    rw [Bool.eq_iff_iff, isRemoved_iff, isRemoved_iff]
    exact halong.removed
  cases command <;> cases habout <;>
    simp only [Command.move, halong.members, halong.admins, hremoved]

theorem move_run_of_about (hfirst : first.about = some x) (hsecond : second.about = some y)
    (hne : x ≠ y) : second.move (first.run g).group = second.move g := by
  have hother : first.about ≠ some y := by
    rw [hfirst]
    exact fun heq => hne (Option.some.inj heq)
  exact ((g.step_run first).alongside hother).move_eq hsecond

theorem after_pair_eq (hfirst : first.about = some x) (hsecond : second.about = some y)
    (hne : x ≠ y) :
    g.after [first, second] = (second.move g).group y ((first.move g).group x g) := by
  rw [after_cons, after_cons, after_nil, run_eq_move hsecond, move_run_of_about hfirst hsecond hne,
    run_eq_move hfirst]

theorem replies_pair_eq (hfirst : first.about = some x) (hsecond : second.about = some y)
    (hne : x ≠ y) : g.replies [first, second] = [(first.move g).reply, (second.move g).reply] := by
  rw [replies, replies, replies, run_eq_move hsecond, move_run_of_about hfirst hsecond hne,
    run_eq_move hfirst]

theorem move_members_eq_append_iff (habout : command.about = some x) :
    (command.move g).members = .append ↔ command = .addMember x ∧ x ∉ g.members := by
  cases command <;> cases habout <;> grind [Command.move, Move.refused]

theorem move_admins_eq_append_iff (habout : command.about = some x) :
    (command.move g).admins = .append ↔
      command = .promote x ∧ x ∈ g.members ∧ x ∉ g.admins := by
  cases command <;> cases habout <;> grind [Command.move, Move.refused]

/-! ### Two commands -/

/-- Whether both commands bring a member. -/
structure BothCome (g : Group) (first second : Command) (x y : MemberId) : Prop where
  first : first = .addMember x ∧ x ∉ g.members
  second : second = .addMember y ∧ y ∉ g.members

/-- Whether both commands make a member an admin. -/
structure BothRise (g : Group) (first second : Command) (x y : MemberId) : Prop where
  first : first = .promote x ∧ x ∈ g.members ∧ x ∉ g.admins
  second : second = .promote y ∧ y ∈ g.members ∧ y ∉ g.admins

theorem bothCome_iff (hfirst : first.about = some x) (hsecond : second.about = some y) :
    g.BothCome first second x y ↔
      (first.move g).members = .append ∧ (second.move g).members = .append := by
  rw [move_members_eq_append_iff hfirst, move_members_eq_append_iff hsecond]
  exact ⟨fun h => ⟨h.first, h.second⟩, fun h => ⟨h.1, h.2⟩⟩

theorem bothRise_iff (hfirst : first.about = some x) (hsecond : second.about = some y) :
    g.BothRise first second x y ↔
      (first.move g).admins = .append ∧ (second.move g).admins = .append := by
  rw [move_admins_eq_append_iff hfirst, move_admins_eq_append_iff hsecond]
  exact ⟨fun h => ⟨h.first, h.second⟩, fun h => ⟨h.1, h.2⟩⟩

/-- Two commands about different ids say the same in either order, and leave the same group behind
but for one thing: if both bring a member, the list of members ends with the two in the order of the
commands, and so does the list of admins if both make an admin. -/
theorem after_pair_comm (g : Group) {first second : Command} {x y : MemberId}
    (hfirst : first.about = some x) (hsecond : second.about = some y) (hne : x ≠ y) :
    g.replies [second, first] = (g.replies [first, second]).reverse ∧
    (g.BothCome first second x y →
      (g.after [first, second]).members = g.members ++ [x, y] ∧
      (g.after [second, first]).members = g.members ++ [y, x]) ∧
    (g.BothRise first second x y →
      (g.after [first, second]).admins = g.admins ++ [x, y] ∧
      (g.after [second, first]).admins = g.admins ++ [y, x]) ∧
    (¬ g.BothCome first second x y →
      (g.after [first, second]).members = (g.after [second, first]).members) ∧
    (¬ g.BothRise first second x y →
      (g.after [first, second]).admins = (g.after [second, first]).admins) ∧
    (g.after [first, second]).removed = (g.after [second, first]).removed ∧
    (g.after [first, second]).id = (g.after [second, first]).id ∧
    (g.after [first, second]).name = (g.after [second, first]).name ∧
    (g.after [first, second]).kind = (g.after [second, first]).kind ∧
    (g.after [first, second]).avatar = (g.after [second, first]).avatar ∧
    (g.after [first, second] == g.after [second, first]) = true := by
  rw [bothCome_iff hfirst hsecond, bothRise_iff hfirst hsecond,
    replies_pair_eq hfirst hsecond hne, replies_pair_eq hsecond hfirst hne.symm,
    after_pair_eq hfirst hsecond hne, after_pair_eq hsecond hfirst hne.symm]
  refine ⟨rfl, ?_, ?_, ListEdit.apply_comm hne, ListEdit.apply_comm hne,
    SetEdit.apply_comm hne _ _ _, rfl, rfl, rfl, rfl, ?_⟩
  · rintro ⟨hx, hy⟩
    simp [Move.group, hx, hy, ListEdit.apply]
  · rintro ⟨hx, hy⟩
    simp [Move.group, hx, hy, ListEdit.apply]
  · rw [beq_eq_sameAs, sameAs_iff]
    exact ⟨rfl, ListEdit.mem_apply_comm hne, ListEdit.mem_apply_comm hne, rfl, rfl, rfl⟩

/-- A group that lists a member and an admin twice. -/
def tangled : Group :=
  { create none ["ann", "bob", "ann", "cy"] none .zero .signal with
    admins := ["ann", "bob", "ann"]
    removed := .ofList ["ann"] }

theorem after_pair_tangled :
    (Command.markRemoved "ann").about = some "ann" ∧ (Command.promote "cy").about = some "cy" ∧
      "ann" ≠ "cy" ∧
      (tangled.after [.markRemoved "ann", .promote "cy"]).members = ["bob", "ann", "cy"] ∧
      (tangled.after [.promote "cy", .markRemoved "ann"]).members = ["bob", "ann", "cy"] ∧
      (tangled.after [.addMember "dee", .addMember "eve"]).members
        = tangled.members ++ ["dee", "eve"] ∧
      (tangled.after [.addMember "eve", .addMember "dee"]).members
        = tangled.members ++ ["eve", "dee"] := by
  have hne : "ann" ≠ "cy" := by decide
  have hann : (Command.markRemoved "ann").about = some "ann" := rfl
  have hcy : (Command.promote "cy").about = some "cy" := rfl
  have hdee : (Command.addMember "dee").about = some "dee" := rfl
  have heve : (Command.addMember "eve").about = some "eve" := rfl
  obtain ⟨-, -, -, hsame, -⟩ := tangled.after_pair_comm hann hcy hne
  obtain ⟨-, hcome, -⟩ := tangled.after_pair_comm hdee heve (by decide)
  have hboth : tangled.BothCome (.addMember "dee") (.addMember "eve") "dee" "eve" :=
    ⟨⟨rfl, by decide⟩, rfl, by decide⟩
  have hmembers : (tangled.after [.markRemoved "ann", .promote "cy"]).members
      = ["bob", "ann", "cy"] := by decide
  have hother : ¬ tangled.BothCome (.markRemoved "ann") (.promote "cy") "ann" "cy" :=
    fun h => nomatch h.first.1
  exact ⟨hann, hcy, hne, hmembers, hsame hother ▸ hmembers, hcome hboth⟩

end Group

end Roster
