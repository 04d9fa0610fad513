import Mathlib
import StyleUsage.Command.Check

/-!
# Arguments that are written out

Settings that are written out as long options, each value in an argument of its own, are read back
as they are, whatever the values look like.
-/

namespace StyleUsage.Command

/-- A long option that has no value attached. -/
def IsBareOption (name : String) : Prop :=
  isLong name.toList = true ∧ name.toList ≠ ['-', '-'] ∧ '=' ∉ name.toList

instance (name : String) : Decidable (IsBareOption name) :=
  inferInstanceAs (Decidable (_ ∧ _))

/-- The arguments that give a setting: an option, and its value if it takes one. -/
inductive Gives {α : Type} (table : OptionTable α) : List String → α → Prop where
  | flag {name : String} {setting : α} (hname : IsBareOption name)
      (h : table.lookup name = some (.flag setting)) : Gives table [name] setting
  | value {name : String} {setting : String → α} (value : String) (hname : IsBareOption name)
      (h : table.lookup name = some (.value setting)) : Gives table [name, value] (setting value)

/-- A setting as arguments. -/
def CheckSetting.written : CheckSetting → List String
  | files pattern => ["--files", pattern]
  | ignore name => ["--ignore", name]
  | ignorePattern source => ["--ignore-pattern", source]
  | directives true => ["--angular"]
  | directives false => ["--no-angular"]
  | softStop => ["--end"]
  | verbose => ["--verbose"]
  | help => ["--help"]

section
variable {α : Type} {table : OptionTable α} {interspersed : Bool} {name : String}
  {written rest : List String} {setting : α}

/-! ## One option -/

theorem IsBareOption.readOption (h : IsBareOption name) : readOption table name.toList =
    match table.lookup name with
    | none => .error (.noSuchOption name)
    | some (.flag setting) => .ok ⟨[setting], none⟩
    | some (.value setting) => .ok ⟨[], some (name, setting)⟩ := by
  obtain ⟨hlong, -, hbare⟩ := h
  have hall : ∀ c ∈ name.toList, (decide (c ≠ '=')) = true := by
    intro c hc
    simpa using fun heq : c = '=' => hbare (heq ▸ hc)
  unfold Command.readOption
  rw [if_pos hlong, List.takeWhile_eq_self_iff.2 hall, List.dropWhile_eq_nil_iff.2 hall,
    String.ofList_toList]
  dsimp only
  cases h : table.lookup name with
  | none => rfl
  | some setter => cases setter <;> rfl

theorem IsBareOption.head?_eq (h : IsBareOption name) :
    name.toList.head? = some '-' ∧ name.toList ≠ ['-'] := by
  obtain ⟨hlong, -, -⟩ := h
  rw [isLong, decide_eq_true_eq] at hlong
  cases hchars : name.toList with
  | nil => simp [hchars] at hlong
  | cons c more =>
      rw [hchars, List.take_succ_cons, List.cons.injEq] at hlong
      obtain ⟨rfl, hmore⟩ := hlong
      refine ⟨rfl, fun h => ?_⟩
      rw [List.cons.injEq] at h
      rw [h.2] at hmore
      cases hmore

/-- A setting that is written out is read back, before whatever follows. -/
theorem Gives.readArguments (h : Gives table written setting) :
    readArguments table interspersed (written ++ rest) =
      (readArguments table interspersed rest).map fun (settings, others) =>
        (setting :: settings, others) := by
  cases h with
  | flag hname h | value value hname h =>
      rw [List.cons_append, Command.readArguments, if_neg hname.2.1, if_pos hname.head?_eq,
        hname.readOption, h]
      simp only [List.nil_append, List.cons_append, bind, Except.bind]
      cases Command.readArguments table interspersed rest <;> rfl

end

/-! ## All settings -/

theorem CheckSetting.gives (setting : CheckSetting) :
    Gives checkTable setting.written setting := by
  cases setting with
  | files pattern => exact .value pattern (by decide) rfl
  | ignore name => exact .value name (by decide) rfl
  | ignorePattern source => exact .value source (by decide) rfl
  | directives on => cases on <;> exact .flag (by decide) rfl
  | softStop | verbose | help => exact .flag (by decide) rfl

end StyleUsage.Command
