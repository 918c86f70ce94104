/-!
# Paths

A path is a text whose names are divided by slashes.  Nothing is normalised: joining puts a slash
between two paths unless the first one ends with one, and an absolute second path stands alone.
-/

namespace DeviceLab.Path

/-- Whether a path starts at the root. -/
def isAbsolute (path : String) : Bool := path.toList.head? == some '/'

/-- Whether a path ends with a slash, so that only a directory can be meant. -/
def endsInSlash (path : String) : Bool := path.toList.getLast? == some '/'

/-- The second path below the first one. -/
def join (base path : String) : String :=
  if isAbsolute path || base.isEmpty then path
  else if endsInSlash base then base ++ path
  else base ++ "/" ++ path

/-- The names in a path, single and double points included. -/
def names (path : String) : List String := (path.splitOn "/").filter (· != "")

/-- The names in a path without single points. -/
def parts (path : String) : List String := (names path).filter (· != ".")

/-- The path of the directory above: without the last name, single points passed over.  A single
point counts as a name at the start of a path that is not absolute.  There is nothing above the root
and the empty path. -/
def parent? (path : String) : Option String :=
  let start := if isAbsolute path then "/" else ""
  let counted := match isAbsolute path, names path with
    | false, "." :: _ => "." :: parts path
    | _, _ => parts path
  if counted.isEmpty then none else some (start ++ "/".intercalate counted.dropLast)

end DeviceLab.Path
