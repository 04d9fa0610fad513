import StyleUsage.Files.Path

/-! # File trees

The files and directories of a system, by the names that lead to them from its root. A program sees
them from its working directory. -/

namespace StyleUsage.Files

/-- A failure of the file system, by the system's number. -/
structure Fault where
  code : Nat
  text : String
  deriving Repr, DecidableEq

namespace Fault

def noEntry : Fault := ⟨2, "No such file or directory"⟩

def permissionDenied : Fault := ⟨13, "Permission denied"⟩

def notDirectory : Fault := ⟨20, "Not a directory"⟩

def isDirectory : Fault := ⟨21, "Is a directory"⟩

def nameTooLong : Fault := ⟨36, "File name too long"⟩

end Fault

inductive Entry where
  /-- A file; some files cannot be read as markup. -/
  | file (bytes : List UInt8) (fault : Option Fault)
  /-- A file that may not be read at all. -/
  | locked
  | directory
  deriving Repr, DecidableEq

/-- A place, by the names that lead to it from the root. -/
abbrev Place := List String

structure Tree where
  /-- The working directory. -/
  home : Place
  /-- What there is at each place. The directories around an entry are entries too. -/
  entries : List (Place × Entry)
  deriving Repr

namespace Tree

/-- The entry at a place; the root itself is one. -/
def entry? (tree : Tree) : Place → Option Entry
  | [] => some .directory
  | place => tree.entries.lookup place

/-- The longest name in bytes. -/
def longestName : Nat := 255

/-- The longest text, in bytes, that names a place. -/
def longestText : Nat := 4095

/-- The place that some components lead to from another place. The root is the directory around
itself. -/
def resolve (tree : Tree) (here : Place) : List String → Except Fault Place
  | [] => .ok here
  | part :: rest =>
      match tree.entry? here with
      | some .directory =>
          if part = "" ∨ part = "." then tree.resolve here rest
          else if part = ".." then tree.resolve here.dropLast rest
          else if longestName < part.utf8ByteSize then .error .nameTooLong
          else if (tree.entry? (here ++ [part])).isSome then tree.resolve (here ++ [part]) rest
          else .error .noEntry
      | some _ => .error .notDirectory
      | none => .error .noEntry

/-- The place that a text names. -/
def locate (tree : Tree) (s : List Char) : Except Fault Place :=
  if s = [] then .error .noEntry
  else if longestText < (String.ofList s).utf8ByteSize then .error .nameTooLong
  else
    tree.resolve (if s.head? = some '/' then [] else tree.home)
      ((components s).map String.ofList)

/-- The entry that a text names. -/
def find? (tree : Tree) (s : List Char) : Option Entry :=
  (tree.locate s).toOption.bind tree.entry?

def isDirectory (tree : Tree) (s : List Char) : Bool :=
  tree.find? s = some .directory

def isFile (tree : Tree) (s : List Char) : Bool :=
  match tree.find? s with
  | some (.file ..) | some .locked => true
  | some .directory | none => false

/-- The names in a directory and whether each of them is a directory itself. The empty text names
the working directory. -/
def list (tree : Tree) (s : List Char) : List (List Char × Bool) :=
  match if s = [] then .ok tree.home else tree.locate s with
  | .error _ => []
  | .ok place =>
      tree.entries.filterMap fun (parts, entry) =>
        match parts.getLast? with
        | some name =>
            if parts.dropLast = place then some (name.toList, entry matches .directory) else none
        | none => none

/-- The contents of the file that a text names. -/
def read (tree : Tree) (s : List Char) : Except Fault (List UInt8) := do
  let place ← tree.locate s
  match tree.entry? place with
  | some (.file bytes _) => .ok bytes
  | some .locked => .error .permissionDenied
  | some .directory => .error .isDirectory
  | none => .error .noEntry

/-- A tree with an entry and the directories around it, unless they are there. -/
def withEntry (tree : Tree) (place : Place) (entry : Entry) : Tree :=
  let around := (List.range place.length).filterMap fun n =>
    if (tree.entry? (place.take n)).isSome then none else some (place.take n, Entry.directory)
  if (tree.entry? place).isSome then tree
  else { tree with entries := tree.entries ++ around ++ [(place, entry)] }

/-- A tree with nothing but a working directory. -/
def bare (home : Place) : Tree :=
  (⟨home, []⟩ : Tree).withEntry home .directory

end Tree

end StyleUsage.Files
