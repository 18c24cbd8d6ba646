import Roster.MemberSet

/-!
# What can be wrong with a group or an edit

A group breaks one of three rules on its lists of members, or an edit is refused because of where
the member stands. Both name the member concerned.
-/

namespace Roster

/-- A broken rule of a group. -/
inductive Breach where
  | duplicateMember (member : MemberId)
  | adminNotMember (member : MemberId)
  | removedStillActive (member : MemberId)
deriving DecidableEq

namespace Breach

def message : Breach → String
  | duplicateMember member => "Member listed more than once: " ++ member
  | adminNotMember member => "Admin is not a member: " ++ member
  | removedStillActive member => "Removed member is still an active member: " ++ member

end Breach

/-- The reason why an edit was not made. -/
inductive Refusal where
  | alreadyMember (member : MemberId)
  | notMember (member : MemberId)
  | notAdmin (member : MemberId)
deriving DecidableEq

namespace Refusal

def message : Refusal → String
  | alreadyMember member => "Already an active member: " ++ member
  | notMember member => "Not a member: " ++ member
  | notAdmin member => "Not an admin: " ++ member

end Refusal

end Roster
