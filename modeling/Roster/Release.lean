/-!
# The release

The version of the library, as it is shown to its users.
-/

namespace Roster

/-- Major, minor and patch number. -/
def version : String := "0.1.0"

end Roster
