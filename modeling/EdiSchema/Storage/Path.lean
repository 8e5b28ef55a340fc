/-!
# Paths

A path is a text whose parts are separated by slashes. Joining keeps the text as it was given;
only the part that a path ends in and the folder around it see through repeated slashes and
through parts that are a single point.
-/

namespace EdiSchema.Path

/-- Whether a path starts from the root. -/
def isAbsolute (path : String) : Bool :=
  path.toList.head? = some '/'

/-- The parts of a path; those between two slashes in a row, or after the last one, are empty. -/
def parts (path : String) : List String :=
  (path.toList.splitOn '/').map String.ofList

/-- The parts of a path without those that lead nowhere. -/
def names (path : String) : List String :=
  (parts path).filter fun part => !part.isEmpty && part != "."

/-- A path inside a folder; a path that starts with a slash stands for itself. -/
def join (folder path : String) : String :=
  if isAbsolute path then path
  else if folder.toList.getLast?.all (· == '/') then folder ++ path
  else folder ++ "/" ++ path

/-- A reversed path without the slashes and single points at its end. -/
def dropEnd : List Char → List Char
  | ['/'] => ['/']
  | '/' :: rest => dropEnd rest
  | '.' :: '/' :: rest => dropEnd ('/' :: rest)
  | rest => rest

/-- The folder around a path, unless the path is empty or the root. -/
def parent? (path : String) : Option String :=
  match dropEnd path.toList.reverse with
  | [] => none
  | ['/'] => none
  | rest => some (String.ofList (dropEnd (rest.dropWhile (· != '/'))).reverse)

end EdiSchema.Path
