import StyleUsage.Exemption
import StyleUsage.Number.Whole

/-! # Options

The options of a check: which markup files are read, whether directives count, which class names
are exempt, whether the first stylesheet with unused classes ends the check quietly, and how many
files may be read at a time. -/

namespace StyleUsage

/-- The patterns of the markup files: one pattern, or any number of entries, of which those that
are not given do not count. -/
inductive FileChoice where
  | one (pattern : String)
  | several (entries : List Value)

/-- The entries that count. -/
def FileChoice.patterns : FileChoice → List Value
  | one pattern => [Value.text pattern].filter Value.isGiven
  | several entries => entries.filter Value.isGiven

structure Options where
  files : FileChoice
  directives : Bool
  exemptions : List Exemption
  softStop : Bool
  maxWorkers : Int

namespace Options

def patterns (o : Options) : List Value :=
  o.files.patterns

/-- Why some values are no options. -/
inductive Error where
  /-- Names that no option has, in ascending order. -/
  | unknown (names : List String)
  | noFiles
  | unsupportedExemption (v : Value)
  | tooFewWorkers
  /-- A value is used as a list and is none. -/
  | noList (v : Value)
  /-- A value is used as a whole number and is of another kind. -/
  | noNumber (v : Value)
  /-- A text is used as a whole number and shows none. -/
  | badNumber (text : String)
  /-- A text is used as a whole number and shows one with too many digits. -/
  | longNumber (digits : Nat)
  /-- A float is used as a whole number and has no whole part. -/
  | notFinite (x : Float)
  /-- Two values of kinds without a common order are compared. -/
  | incomparable (v w : Value)
  /-- An item is used as a name with its value and has no items. -/
  | noPair (index : Nat)
  /-- An item is used as a name with its value and has another count of items. -/
  | badPair (index length : Nat)
  /-- A value is used as a name and can be none. -/
  | noName (v : Value)
  /-- A value is used as the name of an option and is no text. -/
  | badName (v : Value)

def Error.message : Error → String
  | unknown names => "Unknown option(s): " ++ ", ".intercalate names
  | noFiles => "No HTML files specified"
  | unsupportedExemption v =>
      "Unsupported ignore rule " ++ v.shown ++ ": expected a string or a compiled pattern"
  | tooFewWorkers => "max_workers must be at least 1"
  | noList v => "'" ++ v.kind ++ "' object is not iterable"
  | noNumber v =>
      "int() argument must be a string, a bytes-like object or a real number, not '" ++ v.kind ++ "'"
  | badNumber text =>
      "invalid literal for int() with base 10: " ++
        String.ofList ((Text.quoted text.toList).take 200)
  | longNumber digits => Number.tooLongMessage digits
  | notFinite x =>
      if x.isNaN then "cannot convert float NaN to integer"
      else "cannot convert float infinity to integer"
  | incomparable v w =>
      "'<' not supported between instances of '" ++ v.kind ++ "' and '" ++ w.kind ++ "'"
  | noPair index =>
      "cannot convert dictionary update sequence element #" ++ toString index ++ " to a sequence"
  | badPair index length =>
      "dictionary update sequence element #" ++ toString index ++ " has length " ++
        toString length ++ "; 2 is required"
  | noName v => "unhashable type: '" ++ v.kind ++ "'"
  | badName v => "sequence item 0: expected str instance, " ++ v.kind ++ " found"

/-- The items of a value that is used as a list. -/
def itemsOf (v : Value) : Except Error (List Value) :=
  match v.items? with
  | some items => .ok items
  | none => .error (.noList v)

/-- A value as a whole number: floats lose their fraction, truth values count as 0 and 1, and
texts show a number. -/
def wholeNumber (v : Value) : Except Error Int :=
  match v with
  | .whole n => .ok n
  | .bool b => .ok (if b then 1 else 0)
  | .float x => if x.isFinite then .ok (Number.truncate x) else .error (.notFinite x)
  | .text s =>
      match Number.whole s.toList with
      | .ok n => .ok n
      | .error .noNumber => .error (.badNumber s)
      | .error (.tooLong digits) => .error (.longNumber digits)
  | v => .error (.noNumber v)

/-- Whether a value is less than one. -/
def isBelowOne (v : Value) : Except Error Bool :=
  match v with
  | .whole n => .ok (n < 1)
  | .bool b => .ok (!b)
  | .float x => .ok (x < 1.0)
  | v => .error (.incomparable v (.whole 1))

/-- The file choice that a value makes. -/
def fileChoice (v : Value) : Except Error FileChoice :=
  match v with
  | .text pattern => .ok (.one pattern)
  | v => do return .several (← itemsOf v)

/-- What every set of options has to satisfy: a file pattern is left, every exemption is one, and
there is at least one worker. The exemptions come back as such. -/
def validate (files : FileChoice) (ignore : List Value) (maxWorkers : Value) :
    Except Error (List Exemption) := do
  if files.patterns.isEmpty then throw .noFiles
  let exemptions ← (Exemption.ofValues ignore).mapError .unsupportedExemption
  if ← isBelowOne maxWorkers then throw .tooFewWorkers
  return exemptions

/-- How many files are read at a time unless the options say otherwise. -/
def defaultWorkers : Int := 8

/-- The names of the options. -/
def names : List String :=
  ["files", "angular", "ignore", "end", "max_workers"]

/-- The values that the option `ignore` gives. A single text or pattern stands for a list of
one. -/
def ignoredValues (v : Value) : Except Error (List Value) :=
  match v with
  | .pattern p => .ok [.pattern p]
  | .text s => .ok (if s = "" then [] else [.text s])
  | v => if v.isGiven then itemsOf v else .ok []

/-- The options that some named values give. A value that is left out, and for most options one
that does not count as given, stands for the default. -/
def ofFields (fields : List (String × Value)) : Except Error Options := do
  let unknown := (fields.map Prod.fst).filter (· ∉ names)
  if !unknown.isEmpty then throw (.unknown (Text.sorted unknown.eraseDups))
  let given (name : String) : Value := (fields.lookup name).getD .null
  if !(given "files").isGiven then throw .noFiles
  let files ← fileChoice (given "files")
  let ignore ← ignoredValues (given "ignore")
  let maxWorkers ←
    match fields.lookup "max_workers" with
    | some v => wholeNumber v
    | none => pure defaultWorkers
  let exemptions ← validate files ignore (.whole maxWorkers)
  return {
    files, exemptions, maxWorkers
    directives := !(given "angular").isFalse
    softStop := (given "end").isGiven }

/-- The name and the value that the item at a place of a list gives. -/
def pairOf (index : Nat) (item : Value) : Except Error (Value × Value) :=
  match item.items? with
  | some [name, v] => if name.isName then .ok (name, v) else .error (.noName name)
  | some items => .error (.badPair index items.length)
  | none => .error (.noPair index)

/-- The number that a name shows, if it is one. Truth values count as 0 and 1. -/
def numberOf? : Value → Option Float
  | .bool b => some (if b then 1 else 0)
  | .whole n => some (.ofInt n)
  | .float x => some x
  | _ => none

/-- Of two names, the one that comes first in ascending order; the first of equal ones. -/
def lesser (v w : Value) : Value :=
  match numberOf? v, numberOf? w with
  | some a, some b => if b < a then w else v
  | _, _ => v

/-- The texts among some names, or the reason why they are no names of options. Names that are
not known are put in order, for which they have to be texts throughout or no texts at all; the
first of those that are no texts is at fault. -/
def textNames (pairs : List (Value × Value)) : Except Error (List (String × Value)) :=
  let texts := pairs.filterMap fun
    | (.text name, v) => some (name, v)
    | _ => none
  let others := pairs.filterMap fun
    | (.text _, _) => none
    | (name, _) => some name
  match others, texts.find? (·.1 ∉ names) with
  | [], _ => .ok texts
  | other :: _, some (name, _) => .error (.incomparable other (.text name))
  | other :: more, none => .error (.badName (more.foldl lesser other))

/-- The options that a value gives: a table, or a list of names with their values, in which the
last of several values counts, or nothing. -/
def ofValue (v : Value) : Except Error Options :=
  match v with
  | .table fields => ofFields fields
  | v =>
      if v.isGiven then do
        let pairs ← (← itemsOf v).zipIdx.mapM fun (item, index) => pairOf index item
        ofFields (← textNames pairs).reverse
      else ofFields []

/-- The named values that give back the options. -/
def toFields (o : Options) : List (String × Value) :=
  [("files", match o.files with
      | .one pattern => .text pattern
      | .several entries => .list entries),
    ("angular", .bool o.directives),
    ("ignore", .list (o.exemptions.map Exemption.toValue)),
    ("end", .bool o.softStop),
    ("max_workers", .whole o.maxWorkers)]

end Options

end StyleUsage
