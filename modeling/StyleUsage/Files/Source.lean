import StyleUsage.Files.Expansion
import StyleUsage.Session.State
import StyleUsage.Text.LineBreak
import StyleUsage.Text.Sorted
import StyleUsage.Text.Utf8

/-! # Markup sources

Markup files are found by patterns and read as text. -/

namespace StyleUsage.Files

open Session

/-- The paths of the files that one pattern stands for. They come in the order of the texts that
the pattern expands to. -/
def matchedFiles (tree : Tree) (pattern : String) : List Path :=
  ((Text.sorted ((expand tree false pattern.toList).map String.ofList)).map Path.ofText).filter
    fun path => tree.isFile path.text.toList

/-- The paths of the files that some patterns stand for, each once, in the order of the
patterns. -/
def discover (tree : Tree) (patterns : List String) : Except Failure (List Path) :=
  if patterns.all (isExpandable ·.toList) then
    .ok (patterns.flatMap (matchedFiles tree)).eraseDups
  else .error .nulInPath

/-- Why a pattern cannot be expanded. -/
def expansionFailure? (tree : Tree) (pattern : String) : Option Failure :=
  if deepestExpansion < expansionDepth tree false pattern.toList then some .tooDeep
  else if isExpandable pattern.toList then none
  else some .nulInPath

/-- What is discovered in the room that there is: the first pattern that cannot be expanded fails
the whole. -/
def search (tree : Tree) (patterns : List String) : Except Failure (List Path) :=
  match patterns.findSome? (expansionFailure? tree) with
  | some e => .error e
  | none => discover tree patterns

/-- The failure to read a source, as it is reported. -/
def sourceError (path : Path) (code : Nat) (text : String) : SourceError where
  message := "Cannot read markup source " ++ path.text ++ ": [Errno " ++ toString code ++ "] " ++ text
  path := path.text
  code := some code

/-- Reads a markup file. -/
def readSource (tree : Tree) (path : Path) : Except Failure MarkupSource :=
  if '\x00' ∈ path.text.toList then .error .nulInPath
  else
    match tree.locate path.text.toList |>.toOption.bind tree.entry? with
    | some (.file _ (some fault)) => .error (.unreadable (sourceError path fault.code fault.text))
    | _ =>
        match tree.read path.text.toList with
        | .ok bytes =>
            .ok ⟨path.text, String.ofList (Text.unifyLineBreaks (Text.Utf8.decode bytes).toList)⟩
        | .error fault =>
            .error (.unreadable
              (sourceError path fault.code (fault.text ++ ": " ++ Text.quotedText path.text)))

/-- Reads some markup files with at most the given number of readers. The first file that cannot
be read fails the whole. -/
def readSources (tree : Tree) (paths : List Path) (maxWorkers : Int) :
    Except Failure (List MarkupSource) :=
  if paths = [] then .ok []
  else if maxWorkers ≤ 0 then .error .noReaders
  else paths.mapM (readSource tree)

/-- What is noticed if no file is found. -/
def unmatchedNotice (patterns : List String) : String :=
  "No markup sources matched " ++ ", ".intercalate patterns

/-- The loader that reads the files which some patterns stand for. All of them are read before
the first source is yielded. -/
def load (tree : Tree) (patterns : List String) (maxWorkers : Int) : Load :=
  match search tree patterns with
  | .error e => ⟨[], [], some e⟩
  | .ok paths =>
      let notices := if paths = [] then [unmatchedNotice patterns] else []
      match readSources tree paths maxWorkers with
      | .ok sources => ⟨notices, sources, none⟩
      | .error e => ⟨notices, [], some e⟩

end StyleUsage.Files
