import EntitySchema.Text.Bytes
import EntitySchema.Text.Split

/-!
# Paths

The directory of a path, and a path within a directory.  Separators that are repeated and steps `.`
that do not begin the path say nothing and are dropped where a path is cut, but kept elsewhere.
-/

namespace EntitySchema

namespace Path

/-- A path in reverse without separators and steps `.` at its end; the root and a single step `.`
stay. -/
def dropBlankSteps : List Char → List Char
  | ['/'] => ['/']
  | '/' :: cs => dropBlankSteps cs
  | ['.', '/'] => ['/']
  | '.' :: '/' :: cs => dropBlankSteps cs
  | cs => cs

/-- The directory that holds what a path leads to, if there is one. -/
def parent? (path : String) : Option String :=
  match dropBlankSteps path.toList.reverse with
  | [] => none
  | ['/'] => none
  | cs => some (String.ofList (dropBlankSteps (cs.dropWhile (· != '/'))).reverse)

def isAbsolute (path : String) : Bool := ['/'].isPrefixOf path.toList

/-- A path within a directory; a path that begins at the root stands alone. -/
def join (directory path : String) : String :=
  if isAbsolute path || directory = "" then path
  else if ['/'].isSuffixOf directory.toList then directory ++ path
  else directory ++ "/" ++ path

/-- The steps of a path between its separators. -/
def steps (path : String) : List String :=
  (Text.splitAt ['/'] path.toList).map String.ofList

def stepLimit : Nat := 255

def pathLimit : Nat := 4095

/-- Whether a path can be followed, as far as it leads: it is neither empty nor too long, and has no
character with code zero. -/
def isFollowable (path : String) : Bool :=
  path != "" && Text.byteLength path.toList ≤ pathLimit && !path.toList.contains '\x00'

/-- Whether something can be named by a step. -/
def isPossible (step : String) : Bool := Text.byteLength step.toList ≤ stepLimit

/-- Whether a path can lead anywhere: it can be followed, and every step is possible. -/
def isValid (path : String) : Bool := isFollowable path && (steps path).all isPossible

end Path

end EntitySchema
