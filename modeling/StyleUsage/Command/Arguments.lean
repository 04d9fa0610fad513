import StyleUsage.Text.Quoted

/-! # Arguments

Arguments are options and others. A long option starts with two hyphens and may have its value
behind an equals sign; short options start with one hyphen and may stand together, with a value
behind the last of them. An option whose value is not attached takes the next argument, and two
hyphens alone end the options. -/

namespace StyleUsage.Command

/-- What an option sets, at once or with a value. -/
inductive Setter (α : Type) where
  | flag (setting : α)
  | value (setting : String → α)

/-- The options of a command by their names. -/
abbrev OptionTable (α : Type) := List (String × Setter α)

inductive ArgumentError where
  | noSuchOption (name : String)
  | missingValue (name : String)
  | unwantedValue (name : String)
  deriving Repr, DecidableEq

def ArgumentError.message : ArgumentError → String
  | noSuchOption name => "No such option " ++ Text.quotedText name ++ "."
  | missingValue name => "Option " ++ Text.quotedText name ++ " requires an argument."
  | unwantedValue name => "Option " ++ Text.quotedText name ++ " does not take a value."

variable {α : Type}

/-- What one argument sets, and the option that still needs a value. -/
structure Partly (α : Type) where
  settings : List α
  needs : Option (String × (String → α))

/-- A cluster of short options, without its hyphen. -/
def readShort (table : OptionTable α) : List Char → Except ArgumentError (Partly α)
  | [] => .ok ⟨[], none⟩
  | c :: rest =>
      let name := String.ofList ['-', c]
      match table.lookup name with
      | none => .error (.noSuchOption name)
      | some (.flag setting) => do
          let more ← readShort table rest
          return { more with settings := setting :: more.settings }
      | some (.value setting) =>
          if rest = [] then .ok ⟨[], some (name, setting)⟩
          else .ok ⟨[setting (String.ofList rest)], none⟩

def isLong (s : List Char) : Bool :=
  s.take 2 = ['-', '-']

/-- One argument that starts with a hyphen. -/
def readOption (table : OptionTable α) (s : List Char) : Except ArgumentError (Partly α) :=
  if isLong s then
    let name := String.ofList (s.takeWhile (· ≠ '='))
    let attached := s.dropWhile (· ≠ '=')
    match table.lookup name, attached with
    | none, _ => .error (.noSuchOption name)
    | some (.flag setting), [] => .ok ⟨[setting], none⟩
    | some (.flag _), _ => .error (.unwantedValue name)
    | some (.value setting), [] => .ok ⟨[], some (name, setting)⟩
    | some (.value setting), _ :: value => .ok ⟨[setting (String.ofList value)], none⟩
  else readShort table (s.drop 1)

/-- What some arguments set, in order, and the arguments that are no options. If `interspersed` is
off, the first of these ends the options. -/
def readArguments (table : OptionTable α) (interspersed : Bool) :
    List String → Except ArgumentError (List α × List String)
  | [] => .ok ([], [])
  | argument :: rest =>
      let s := argument.toList
      if s = ['-', '-'] then .ok ([], rest)
      else if s.head? = some '-' ∧ s ≠ ['-'] then do
        let found ← readOption table s
        match found.needs with
        | none =>
            let (settings, others) ← readArguments table interspersed rest
            return (found.settings ++ settings, others)
        | some (name, setting) =>
            match rest with
            | [] => .error (.missingValue name)
            | value :: rest =>
                let (settings, others) ← readArguments table interspersed rest
                return (found.settings ++ setting value :: settings, others)
      else if interspersed then do
        let (settings, others) ← readArguments table interspersed rest
        return (settings, argument :: others)
      else .ok ([], argument :: rest)

end StyleUsage.Command
