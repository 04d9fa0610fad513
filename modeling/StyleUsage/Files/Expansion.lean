import StyleUsage.Files.Tree
import StyleUsage.Files.Wildcard

/-! # Patterns of files

A pattern of files has wildcards in any of its components. A component `**` stands for any number
of directories. Names that start with a dot are hidden: only a component that starts with a dot
itself stands for them. -/

namespace StyleUsage.Files

def isHidden (name : List Char) : Bool :=
  name.head? = some '.'

/-- The names in a directory, or those of its directories only. -/
def namesIn (tree : Tree) (directoriesOnly : Bool) (directory : List Char) : List (List Char) :=
  (tree.list directory).filterMap fun (name, isDirectory) =>
    if directoriesOnly && !isDirectory then none else some name

/-- What is not hidden below a directory, relative to it, at most `depth` levels down. -/
def below (tree : Tree) (directoriesOnly : Bool) : Nat → List Char → List (List Char)
  | 0, _ => []
  | depth + 1, directory =>
      ((namesIn tree directoriesOnly directory).filter (!isHidden ·)).flatMap fun name =>
        name :: (below tree directoriesOnly depth (join directory name)).map (join name)

/-- What the last component of a pattern stands for in a directory, relative to it. A component
`**` also stands for nothing, whether or not there is such a directory. -/
def expandIn (tree : Tree) (directoriesOnly : Bool) (directory component : List Char) :
    List (List Char) :=
  if component = ['*', '*'] then
    [] :: below tree directoriesOnly (tree.entries.length + 1) directory
  else if hasWildcard component then
    (namesIn tree directoriesOnly directory).filter fun name =>
      (isHidden component || !isHidden name) && wildcardMatches component name
  else if component = [] then if tree.isDirectory directory then [[]] else []
  else if (tree.find? (join directory component)).isSome then [component]
  else []

/-- The texts that a pattern stands for. A pattern without wildcards stands for itself if there is
such an entry, which has to be a directory if the pattern ends with a slash. -/
def expand (tree : Tree) (directoriesOnly : Bool) (s : List Char) : List (List Char) :=
  let (directory, component) := splitLast s
  if !hasWildcard s then
    if component = [] then if tree.isDirectory directory then [s] else []
    else if (tree.find? s).isSome then [s] else []
  else
    let directories :=
      if _h : directory.length < s.length ∧ hasWildcard directory then expand tree true directory
      else [directory]
    directories.flatMap fun d => (expandIn tree directoriesOnly d component).map (join d)
termination_by s.length

/-- How many calls the search below a directory nests: one for the directory and one for each level
of what is not hidden below it, at most `depth` levels down. -/
def searchDepth (tree : Tree) (directoriesOnly : Bool) : Nat → List Char → Nat
  | 0, _ => 0
  | depth + 1, directory =>
      ((namesIn tree directoriesOnly directory).filter (!isHidden ·)).foldl
        (fun deepest name =>
          max deepest (searchDepth tree directoriesOnly depth (join directory name) + 1)) 1

/-- How many calls the search in some directories nests; only a component `**` asks for one. -/
def deepestSearch (tree : Tree) (directoriesOnly : Bool) (component : List Char)
    (directories : List (List Char)) : Nat :=
  if component = ['*', '*'] then
    (directories.map (searchDepth tree directoriesOnly (tree.entries.length + 1))).foldl max 0
  else 0

/-- How many calls the expansion of a pattern nests: one for each component down to the first
wildcard, and within them the deepest search. -/
def expansionDepth (tree : Tree) (directoriesOnly : Bool) (s : List Char) : Nat :=
  let (directory, component) := splitLast s
  if !hasWildcard s then 1
  else if _h : directory.length < s.length ∧ hasWildcard directory then
    max (expansionDepth tree true directory)
      (deepestSearch tree directoriesOnly component (expand tree true directory)) + 1
  else deepestSearch tree directoriesOnly component [directory] + 1
termination_by s.length

/-- How many calls there is room for within each other when a pattern is expanded. -/
def deepestExpansion : Nat := 987

/-- Whether a pattern can be expanded. What stands before its first wildcard, up to the last slash,
is the directory that is looked into first; a text with a NUL names none. -/
def isExpandable (s : List Char) : Bool :=
  let literal := s.takeWhile fun c => !hasWildcard [c]
  literal = s || !(splitLast literal).1.contains '\x00'

end StyleUsage.Files
