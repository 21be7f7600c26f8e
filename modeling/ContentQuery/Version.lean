/-
# Version

The version of the library, as it is reported to its users.
-/

namespace ContentQuery

/-- The version of the library. -/
def version : String := "0.1.0"

end ContentQuery
