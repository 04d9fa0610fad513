/-! # Paths

A path is a text whose components are separated by slashes. A normal path has no empty
components and no `.` among them; `..` stays, since it is resolved where files are looked up. -/

namespace StyleUsage.Files

/-- The components of a text, at least one, of which any may be empty. -/
def components : List Char → List (List Char)
  | [] => [[]]
  | c :: rest =>
      if c = '/' then [] :: components rest
      else
        match components rest with
        | first :: more => (c :: first) :: more
        | [] => [[c]]

/-- Where a path starts. Two slashes are told apart from one; more than two count as one. -/
inductive Root where
  | workingDirectory
  | slash
  | twoSlashes
  deriving Repr, DecidableEq

def Root.text : Root → String
  | workingDirectory => ""
  | slash => "/"
  | twoSlashes => "//"

/-- A normal path. -/
structure Path where
  root : Root
  parts : List String
  deriving Repr, DecidableEq

namespace Path

/-- The root that a text with some slashes at its start names. -/
def rootOf (s : List Char) : Root :=
  match (s.takeWhile (· = '/')).length with
  | 0 => .workingDirectory
  | 2 => .twoSlashes
  | _ => .slash

/-- The normal path that a text names. -/
def ofText (s : String) : Path where
  root := rootOf s.toList
  parts := ((components s.toList).map String.ofList).filter fun part => part ≠ "" && part ≠ "."

/-- The text of a path. The working directory itself is a dot. -/
def text (p : Path) : String :=
  let joined := p.root.text ++ "/".intercalate p.parts
  if joined = "" then "." else joined

end Path

/-- A directory's text and a name in it, put together. -/
def join (directory name : List Char) : List Char :=
  if name.head? = some '/' ∨ directory = [] then name
  else if directory.getLast? = some '/' then directory ++ name
  else directory ++ '/' :: name

/-- What stands before the last slash of a text, and what stands after it. The slashes before the
name are dropped unless there is nothing else. -/
def splitLast (s : List Char) : List Char × List Char :=
  let name := (s.reverse.takeWhile (· ≠ '/')).reverse
  let before := s.take (s.length - name.length)
  let bare := (before.reverse.dropWhile (· = '/')).reverse
  (if bare = [] then before else bare, name)

end StyleUsage.Files
