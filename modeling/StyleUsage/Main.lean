import StyleUsage.Command.Line

/-! # The program

Reads the files that a command line may be about and carries it out on them: those below the working
directory, and those around the places outside of it that an argument names. -/

namespace StyleUsage

open Command Files

/-- What there is at a place, if anything. -/
def entryAt? (place : Place) : IO (Option Entry) := do
  let path := (← IO.currentDir) / ("/" ++ "/".intercalate place)
  if ← path.isDir then return some .directory
  match ← (IO.FS.readBinFile path).toBaseIO with
  | .ok bytes => return some (.file bytes.toList none)
  | .error (.permissionDenied ..) => return some .locked
  | .error (.noFileOrDirectory ..) => return none
  | .error _ => return some (.file [] (some ⟨5, "Input/output error"⟩))

/-- A tree with what there is below a place, at most some levels down. A directory that cannot be
listed is empty. -/
def withBelow : Nat → Place → Tree → IO Tree
  | 0, _, tree => return tree
  | levels + 1, place, tree => do
      let path := (← IO.currentDir) / ("/" ++ "/".intercalate place)
      match ← path.readDir.toBaseIO with
      | .error _ => return tree
      | .ok found =>
          found.foldlM (fun tree item => do
            let inner := place ++ [item.fileName]
            match ← entryAt? inner with
            | none => return tree
            | some .directory => withBelow levels inner (tree.withEntry inner .directory)
            | some entry => return tree.withEntry inner entry) tree

/-- The place that a component leads to. -/
def stepTo (here : Place) (part : String) : Place :=
  if part = "" ∨ part = "." then here
  else if part = ".." then here.dropLast
  else here ++ [part]

/-- A tree with the places that a text leads through, and with what there is below the directory in
which its wildcards are looked for. -/
def withPlacesOf (tree : Tree) (text : String) : IO Tree := do
  let s := text.toList
  let start := if s.head? = some '/' then [] else tree.home
  let literal := ((components s).takeWhile (!hasWildcard ·)).map String.ofList
  let mut here := start
  let mut found := tree
  for part in literal do
    here := stepTo here part
    if let some entry ← entryAt? here then
      found := found.withEntry here entry
  let wild := (components s).drop literal.length
  let levels := if ['*', '*'] ∈ wild then Tree.longestText else wild.length
  withBelow levels here found

/-- The files that some arguments may be about. An option may have its value attached. -/
def treeFor (arguments : List String) : IO Tree := do
  let home := ((components (toString (← IO.currentDir)).toList).map String.ofList).filter (· ≠ "")
  let tree ← withBelow Tree.longestText home (Tree.bare home)
  let texts := arguments.flatMap fun argument =>
    [argument, String.ofList ((argument.toList.dropWhile (· ≠ '=')).drop 1)]
  texts.foldlM withPlacesOf tree

end StyleUsage

/-- The command line of the program. -/
def main (arguments : List String) : IO UInt32 := do
  let result :=
    StyleUsage.Command.runLine (← StyleUsage.treeFor arguments) "unused-css" arguments
  for line in result.output do
    IO.println line
  for line in result.errors do
    IO.eprintln line
  if let some escape := result.escape then
    IO.eprintln ("Error: " ++ escape.message)
  return UInt32.ofNat result.exitCode
