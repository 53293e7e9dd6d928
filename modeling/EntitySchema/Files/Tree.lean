import EntitySchema.Files.Path

/-!
# File trees

A file tree as a value: which directories and files there are, what the files hold, and where paths
begin that do not begin at the root.  Reading and writing follow a path step by step; every step but
the last has to lead to a directory.
-/

namespace EntitySchema

/-- The steps from the root to a directory or a file. -/
abbrev Location := List String

/-- What there is at a location. -/
inductive FileEntry where
  | directory
  | file (content : ByteArray)

/-- The directories and files that there are, of which the first at a location counts, and the
directory where paths begin.  The root is a directory always. -/
structure FileTree where
  entries : List (Location × FileEntry)
  workingDirectory : Location

namespace FileTree

/-- The first entry of a list at a location. -/
def lookup? (location : Location) : List (Location × FileEntry) → Option FileEntry
  | [] => none
  | first :: rest => if first.1 = location then some first.2 else lookup? location rest

def entryAt? (tree : FileTree) (location : Location) : Option FileEntry :=
  if location = [] then some .directory else lookup? location tree.entries

/-- The content of the file at a location. -/
def content? (tree : FileTree) (location : Location) : Option ByteArray :=
  match tree.entryAt? location with
  | some (.file content) => some content
  | _ => none

/-- The tree with an entry at a location, instead of what was there. -/
def put (tree : FileTree) (location : Location) (entry : FileEntry) : FileTree :=
  { tree with entries := (location, entry) :: tree.entries.filter (·.1 != location) }

theorem lookup?_filter_ne {location other : Location} (h : location ≠ other)
    (entries : List (Location × FileEntry)) :
    lookup? other (entries.filter (·.1 != location)) = lookup? other entries := by
  induction entries with
  | nil => rfl
  | cons first rest ih =>
    by_cases hf : first.1 = location
    · simp [hf, lookup?, ih, h]
    · simp [hf, lookup?, ih]

theorem entryAt?_put {location : Location} (h : location ≠ []) (tree : FileTree)
    (other : Location) (entry : FileEntry) :
    (tree.put location entry).entryAt? other =
      if location = other then some entry else tree.entryAt? other := by
  by_cases ho : location = other
  · subst ho
    simp [entryAt?, put, lookup?, h]
  · by_cases hr : other = []
    · simp [entryAt?, hr, h]
    · simp [entryAt?, put, lookup?, hr, ho, lookup?_filter_ne ho]

/-- Where a path begins. -/
def start (tree : FileTree) (path : String) : Location :=
  if Path.isAbsolute path then [] else tree.workingDirectory

/-- Whether a step stays where it is. -/
def isBlankStep (step : String) : Bool := step = "" || step = "."

/-- The directory that steps lead to from a directory. -/
def enter? (tree : FileTree) (here : Location) : List String → Option Location
  | [] => some here
  | step :: steps =>
    if isBlankStep step then tree.enter? here steps
    else if step = ".." then tree.enter? here.dropLast steps
    else
      match tree.entryAt? (here ++ [step]) with
      | some .directory => tree.enter? (here ++ [step]) steps
      | _ => none

/-- The tree in which the directories exist that steps lead through, up to the first that cannot
exist, and the directory they lead to. -/
def createDirectories (tree : FileTree) (here : Location) :
    List String → FileTree × Option Location
  | [] => (tree, some here)
  | step :: steps =>
    if isBlankStep step then tree.createDirectories here steps
    else if step = ".." then tree.createDirectories here.dropLast steps
    else if !Path.isPossible step then (tree, none)
    else
      match tree.entryAt? (here ++ [step]) with
      | some .directory => tree.createDirectories (here ++ [step]) steps
      | some (.file _) => (tree, none)
      | none => (tree.put (here ++ [step]) .directory).createDirectories (here ++ [step]) steps

/-- The location of the file that a path names, in a directory that exists. -/
def fileLocation? (tree : FileTree) (path : String) : Option Location :=
  if !Path.isValid path then none
  else
    match (Path.steps path).reverse with
    | [] => none
    | name :: steps =>
      if isBlankStep name || name = ".." then none
      else (tree.enter? (tree.start path) steps.reverse).map (· ++ [name])

def read? (tree : FileTree) (path : String) : Option ByteArray :=
  (tree.fileLocation? path).bind tree.content?

def readText? (tree : FileTree) (path : String) : Option String :=
  (tree.read? path).bind String.fromUTF8?

/-- The tree in which the file of a path has the given content, where its directory exists and it is
no directory itself. -/
def write? (tree : FileTree) (path : String) (content : ByteArray) : Option FileTree :=
  match tree.fileLocation? path with
  | none => none
  | some location =>
    match tree.entryAt? location with
    | some .directory => none
    | _ => some (tree.put location (.file content))

def createParent (tree : FileTree) (path : String) : FileTree × Bool :=
  match Path.parent? path with
  | none | some "" => (tree, true)
  | some directory =>
    if !Path.isFollowable directory then (tree, false)
    else
      match tree.createDirectories (tree.start directory) (Path.steps directory) with
      | (tree, some _) => (tree, true)
      | (tree, none) => (tree, false)

/-- The tree after an attempt to write a file, together with missing directories on its path, and
whether it was written. -/
def save (tree : FileTree) (path : String) (content : ByteArray) : FileTree × Bool :=
  match tree.createParent path with
  | (tree, false) => (tree, false)
  | (tree, true) =>
    match tree.write? path content with
    | some tree => (tree, true)
    | none => (tree, false)

end FileTree

end EntitySchema
