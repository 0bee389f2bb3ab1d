/-!
# Version
-/

namespace Airlight

/-- The version of the library. -/
def version : String := "1.0.0"

end Airlight
