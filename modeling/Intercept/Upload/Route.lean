/-
# Upload routes

A request is an upload if its path ends like one of the configured routes.  Slashes at the end
count neither in the path nor in the route.
-/

namespace Intercept

/-- An upload route: the ending of the paths it is for, and its name in logs and metrics. -/
structure Route where
  suffix : String
  processor : String
deriving DecidableEq, Repr, Inhabited

namespace Route

/-- The characters of a path without slashes at the end. -/
def stripped (path : String) : List Char := (path.toList.reverse.dropWhile (· = '/')).reverse

/-- Whether a route is for a path. -/
def isFor (path : String) (route : Route) : Bool :=
  (stripped route.suffix).isSuffixOf (stripped path)

/-- The first of the routes that is for a path. -/
def select? (routes : List Route) (path : String) : Option Route := routes.find? (isFor path)

end Route

end Intercept
