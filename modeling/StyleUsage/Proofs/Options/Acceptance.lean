import Mathlib
import StyleUsage.Options
import StyleUsage.Proofs.Lists.Attempts
import StyleUsage.Stream

/-!
# Accepted options

Options are accepted exactly if their values satisfy a few conditions, each on one of the values.
Whatever is accepted can be used for a session, and is accepted again as it is.
-/

namespace StyleUsage.Options

section
variable {fields : List (String × Value)} {o : Options} {v : Value} {values rules : List Value}
  {exemptions : List Exemption} {choice : FileChoice} {e : Error} {n : Int}

/-! ## Exemptions -/

/-- A value that exempts class names. -/
def IsRule (v : Value) : Prop :=
  (∃ name, v = .text name) ∨ ∃ p, v = .pattern p

theorem ofValue?_eq_some_iff {e : Exemption} : Exemption.ofValue? v = some e ↔ v = e.toValue := by
  cases v <;> cases e <;> simp [Exemption.ofValue?, Exemption.toValue]

theorem exists_ofValue?_iff : (∃ e, Exemption.ofValue? v = some e) ↔ IsRule v := by
  simp only [ofValue?_eq_some_iff]
  constructor
  · rintro ⟨name | p, rfl⟩
    · exact .inl ⟨name, rfl⟩
    · exact .inr ⟨p, rfl⟩
  · rintro (⟨name, rfl⟩ | ⟨p, rfl⟩)
    · exact ⟨.name name, rfl⟩
    · exact ⟨.pattern p, rfl⟩

theorem ofValues_cons : Exemption.ofValues (v :: values) =
    match Exemption.ofValue? v with
    | some e => (Exemption.ofValues values).map (e :: ·)
    | none => .error v := by
  rw [Exemption.ofValues]
  cases Exemption.ofValue? v with
  | none => rfl
  | some e => cases Exemption.ofValues values <;> rfl

/-- Some values give the exemptions whose values they are, and no other ones. -/
theorem ofValues_eq_ok_iff :
    Exemption.ofValues values = .ok exemptions ↔ values = exemptions.map Exemption.toValue := by
  induction values generalizing exemptions with
  | nil => cases exemptions <;> simp [Exemption.ofValues]
  | cons v rest ih =>
      rw [ofValues_cons]
      cases exemptions with
      | nil =>
          cases Exemption.ofValue? v <;> cases Exemption.ofValues rest <;> simp [Except.map]
      | cons e more =>
          rw [List.map_cons, List.cons.injEq, ← ofValue?_eq_some_iff, ← ih]
          cases Exemption.ofValue? v <;> cases Exemption.ofValues rest <;> simp [Except.map]

theorem exists_ofValues_iff :
    (∃ exemptions, Exemption.ofValues values = .ok exemptions) ↔ ∀ v ∈ values, IsRule v := by
  simp only [ofValues_eq_ok_iff]
  constructor
  · rintro ⟨exemptions, rfl⟩ v hv
    obtain ⟨e, -, rfl⟩ := List.mem_map.1 hv
    exact exists_ofValue?_iff.1 ⟨e, ofValue?_eq_some_iff.2 rfl⟩
  · intro h
    induction values with
    | nil => exact ⟨[], rfl⟩
    | cons v rest ih =>
        rw [List.forall_mem_cons] at h
        obtain ⟨e, he⟩ := exists_ofValue?_iff.2 h.1
        obtain ⟨more, rfl⟩ := ih h.2
        exact ⟨e :: more, by rw [List.map_cons, ofValue?_eq_some_iff.1 he]⟩

/-! ## Acceptance -/

/-- The value that an option is given; null stands for none. -/
def given (fields : List (String × Value)) (name : String) : Value :=
  (fields.lookup name).getD .null

/-- How many files are to be read at a time, as far as the values say so. -/
def workersOf (fields : List (String × Value)) : Except Error Int :=
  match fields.lookup "max_workers" with
  | some v => wholeNumber v
  | none => .ok defaultWorkers

/-- The names that no option has. -/
def unknownNames (fields : List (String × Value)) : List String :=
  (fields.map Prod.fst).filter (· ∉ names)

/-- The options are those that the values give, and nothing speaks against them. -/
structure Accepts (fields : List (String × Value)) (o : Options) : Prop where
  known : unknownNames fields = []
  files : fileChoice (given fields "files") = .ok o.files
  chosen : o.patterns ≠ []
  ignored : ignoredValues (given fields "ignore") = .ok (o.exemptions.map Exemption.toValue)
  workers : workersOf fields = .ok o.maxWorkers
  positive : 1 ≤ o.maxWorkers
  directives : o.directives = !(given fields "angular").isFalse
  softStop : o.softStop = (given fields "end").isGiven

/-- The options that some values give if nothing speaks against them. -/
def made (fields : List (String × Value)) (files : FileChoice) (exemptions : List Exemption)
    (maxWorkers : Int) : Options where
  files := files
  directives := !(given fields "angular").isFalse
  exemptions := exemptions
  softStop := (given fields "end").isGiven
  maxWorkers := maxWorkers

/-- What is left to test when every value has been read. -/
theorem validate_eq (files : FileChoice) (rules : List Value) (n : Int) :
    validate files rules (.whole n) =
      if files.patterns = [] then .error .noFiles
      else
        match Exemption.ofValues rules with
        | .error v => .error (.unsupportedExemption v)
        | .ok exemptions => if n < 1 then .error .tooFewWorkers else .ok exemptions := by
  unfold validate
  by_cases hpatterns : files.patterns = []
  · rw [if_pos hpatterns, hpatterns]
    rfl
  · rw [if_neg hpatterns, List.isEmpty_eq_false_iff.2 hpatterns]
    cases Exemption.ofValues rules with
    | error v => rfl
    | ok exemptions =>
        by_cases hfew : n < 1 <;>
          simp [hfew, isBelowOne, Except.mapError, bind, Except.bind, pure, Except.pure, throw,
            throwThe, MonadExceptOf.throw]

/-- The tests that the values of options are put to, in order. -/
theorem ofFields_eq (fields : List (String × Value)) : ofFields fields =
    if unknownNames fields ≠ [] then
      .error (.unknown (Text.sorted (unknownNames fields).eraseDups))
    else if (given fields "files").isGiven = false then .error .noFiles
    else do
      let files ← fileChoice (given fields "files")
      let rules ← ignoredValues (given fields "ignore")
      let maxWorkers ← workersOf fields
      let exemptions ← validate files rules (.whole maxWorkers)
      return made fields files exemptions maxWorkers := by
  unfold ofFields
  rw [show (fields.map Prod.fst).filter (fun name => decide (name ∉ names)) =
    unknownNames fields from rfl]
  by_cases hunknown : unknownNames fields = []
  · rw [if_neg (not_not_intro hunknown), hunknown]
    change (if !(given fields "files").isGiven then _ else _) = _
    cases (given fields "files").isGiven with
    | false => rfl
    | true =>
        unfold workersOf
        cases fields.lookup "max_workers" <;> rfl
  · rw [if_pos hunknown]
    simp [hunknown, bind, Except.bind, throw, throwThe, MonadExceptOf.throw]

theorem validate_eq_ok_iff : validate choice rules (.whole n) = .ok exemptions ↔
    choice.patterns ≠ [] ∧ rules = exemptions.map Exemption.toValue ∧ 1 ≤ n := by
  rw [validate_eq, ← ofValues_eq_ok_iff]
  by_cases hpatterns : choice.patterns = []
  · simp [hpatterns]
  · cases Exemption.ofValues rules with
    | error v => simp [hpatterns]
    | ok found =>
        by_cases hfew : n < 1
        · simp [hpatterns, hfew]
        · simp [hpatterns, hfew, Int.not_lt.1 hfew]

/-- A choice of files that selects something is made by a value that counts as given. -/
theorem isGiven_of_fileChoice (h : fileChoice v = .ok choice) (hchosen : choice.patterns ≠ []) :
    v.isGiven = true := by
  have hlist {entries : List Value} (hpatterns : (FileChoice.several entries).patterns ≠ []) :
      entries ≠ [] := by
    rintro rfl
    exact hpatterns rfl
  cases v with
  | text pattern =>
      cases h
      by_contra hempty
      exact hchosen (by simpa [FileChoice.patterns] using hempty)
  | list entries =>
      cases h
      simpa [Value.isGiven] using hlist hchosen
  | table entries =>
      cases h
      simpa [Value.isGiven] using hlist hchosen
  | _ => cases h

/-- Values are accepted exactly if each of them satisfies its condition. -/
theorem ofFields_eq_ok_iff : ofFields fields = .ok o ↔ Accepts fields o := by
  rw [ofFields_eq]
  constructor
  · intro h
    split at h
    case isTrue => cases h
    case isFalse hknown =>
      split at h
      case isTrue => cases h
      case isFalse =>
        simp only [bind_eq_ok_iff, validate_eq_ok_iff] at h
        obtain ⟨files, hfiles, rules, hrules, n, hn, exemptions, ⟨hchosen, rfl, hpositive⟩, h⟩ := h
        cases h
        exact ⟨not_not.1 hknown, hfiles, hchosen, hrules, hn, hpositive, rfl, rfl⟩
  · intro h
    have hgiven := isGiven_of_fileChoice h.files h.chosen
    have hvalid : validate o.files (o.exemptions.map Exemption.toValue) (.whole o.maxWorkers) =
        .ok o.exemptions := validate_eq_ok_iff.2 ⟨h.chosen, rfl, h.positive⟩
    have hmade : made fields o.files o.exemptions o.maxWorkers = o := by
      rw [made, ← h.directives, ← h.softStop]
    rw [if_neg (not_not.2 h.known), if_neg (by simp [hgiven])]
    simp only [bind_eq_ok_iff]
    exact ⟨_, h.files, _, h.ignored, _, h.workers, _, hvalid, congrArg Except.ok hmade⟩

/-! ## Acceptance once more -/

theorem isFalse_iff : v.isFalse = true ↔ v = .bool false := by
  cases v with
  | bool b => cases b <;> simp [Value.isFalse]
  | _ => simp [Value.isFalse]

theorem given_eq_iff {name : String} (hv : v ≠ .null) :
    given fields name = v ↔ fields.lookup name = some v := by
  unfold given
  cases fields.lookup name with
  | none => simpa using Ne.symm hv
  | some w => simp

theorem ignoredValues_list (entries : List Value) :
    ignoredValues (.list entries) = .ok entries := by
  cases entries <;> rfl

/-- The values of accepted options are accepted, and give the same options again. -/
theorem Accepts.toFields (h : Accepts fields o) : Accepts o.toFields o where
  known := rfl
  files := by
    cases hfiles : o.files with
    | one pattern => simp [given, Options.toFields, hfiles, fileChoice]
    | several entries =>
        simp [given, Options.toFields, hfiles, fileChoice, itemsOf, Value.items?]
  chosen := h.chosen
  ignored := ignoredValues_list _
  workers := rfl
  positive := h.positive
  directives := by
    have hgiven : given o.toFields "angular" = .bool o.directives := rfl
    rw [hgiven]
    cases o.directives <;> rfl
  softStop := rfl

/-! ## Refusal -/

/-- What is at fault is the configuration; all other errors are about the kind of a single value. -/
def Error.isConfiguration : Error → Bool
  | unknown _ | noFiles | unsupportedExemption _ | tooFewWorkers => true
  | _ => false

/-- Values that can be read are refused for the sake of the configuration alone. -/
theorem isConfiguration_of_error (hfiles : fileChoice (given fields "files") = .ok choice)
    (hrules : ignoredValues (given fields "ignore") = .ok rules)
    (hworkers : workersOf fields = .ok n) (h : ofFields fields = .error e) :
    e.isConfiguration = true := by
  rw [ofFields_eq, hfiles, hrules, hworkers] at h
  split at h
  case isTrue =>
    cases h
    rfl
  case isFalse =>
    split at h
    case isTrue =>
      cases h
      rfl
    case isFalse =>
      cases hvalid : validate choice rules (.whole n) with
      | ok exemptions => simp [hvalid, bind, Except.bind, pure, Except.pure] at h
      | error e' =>
          simp only [hvalid, bind, Except.bind, Except.error.injEq] at h
          subst h
          rw [validate_eq] at hvalid
          split at hvalid
          case isTrue =>
            cases hvalid
            rfl
          case isFalse =>
            split at hvalid
            case h_1 =>
              cases hvalid
              rfl
            case h_2 =>
              split at hvalid <;> cases hvalid
              rfl

/-- Values of the kinds that the options are meant to have. -/
structure IsPlain (fields : List (String × Value)) : Prop where
  files : (∃ pattern, fields.lookup "files" = some (.text pattern)) ∨
    ∃ entries, fields.lookup "files" = some (.list entries)
  ignore : fields.lookup "ignore" = none ∨ fields.lookup "ignore" = some .null ∨
    (∃ v, fields.lookup "ignore" = some v ∧ IsRule v) ∨
    ∃ entries, fields.lookup "ignore" = some (.list entries)
  workers : fields.lookup "max_workers" = none ∨
    ∃ n, fields.lookup "max_workers" = some (.whole n)

/-- What speaks against plain values. -/
inductive IsAtFault (fields : List (String × Value)) : Prop where
  | unknown {name : String} (h : name ∈ fields.map Prod.fst) (hunknown : name ∉ names)
  | emptyPattern (h : fields.lookup "files" = some (.text ""))
  /-- None of the file patterns counts as given; there may be none at all. -/
  | noPattern {entries : List Value} (h : fields.lookup "files" = some (.list entries))
      (hnone : ∀ v ∈ entries, v.isGiven = false)
  | noRule {entries : List Value} {v : Value} (h : fields.lookup "ignore" = some (.list entries))
      (hv : v ∈ entries) (hrule : ¬ IsRule v)
  | fewWorkers {n : Int} (h : fields.lookup "max_workers" = some (.whole n)) (hfew : n < 1)

theorem unknownNames_eq_nil_iff :
    unknownNames fields = [] ↔ ∀ name ∈ fields.map Prod.fst, name ∈ names := by
  simp [unknownNames]

/-- Plain values can be read, and what is read of them is at fault only if they are. -/
theorem IsPlain.readable (h : IsPlain fields) :
    (∃ choice, fileChoice (given fields "files") = .ok choice ∧
      (choice.patterns = [] → IsAtFault fields)) ∧
    (∃ rules, ignoredValues (given fields "ignore") = .ok rules ∧
      ((∃ v ∈ rules, ¬ IsRule v) → IsAtFault fields)) ∧
    ∃ n, workersOf fields = .ok n ∧ (n < 1 → IsAtFault fields) := by
  refine ⟨?_, ?_, ?_⟩
  · rcases h.files with ⟨pattern, hfiles⟩ | ⟨entries, hfiles⟩
    · refine ⟨.one pattern, by simp [given, hfiles, fileChoice], fun hnone => ?_⟩
      have hempty : pattern = "" := by simpa [FileChoice.patterns, Value.isGiven] using hnone
      exact .emptyPattern (hempty ▸ hfiles)
    · refine ⟨.several entries, by simp [given, hfiles, fileChoice, itemsOf, Value.items?],
        fun hnone => ?_⟩
      exact .noPattern hfiles (by simpa [FileChoice.patterns] using hnone)
  · rcases h.ignore with hignore | hignore | ⟨v, hignore, hrule⟩ | ⟨entries, hignore⟩
    · exact ⟨[], by simp [given, hignore, ignoredValues, Value.isGiven], by simp⟩
    · exact ⟨[], by simp [given, hignore, ignoredValues, Value.isGiven], by simp⟩
    · have hgiven : given fields "ignore" = v := by simp [given, hignore]
      rw [hgiven]
      rcases hrule with ⟨name, rfl⟩ | ⟨p, rfl⟩
      · refine ⟨_, rfl, ?_⟩
        rintro ⟨w, hw, hnorule⟩
        split at hw
        case isTrue => cases hw
        case isFalse => exact absurd (.inl ⟨name, List.mem_singleton.1 hw⟩) hnorule
      · refine ⟨_, rfl, ?_⟩
        rintro ⟨w, hw, hnorule⟩
        exact absurd (.inr ⟨p, List.mem_singleton.1 hw⟩) hnorule
    · refine ⟨entries, by simp [given, hignore, ignoredValues_list], ?_⟩
      rintro ⟨v, hv, hnorule⟩
      exact .noRule hignore hv hnorule
  · rcases h.workers with hworkers | ⟨n, hworkers⟩
    · exact ⟨defaultWorkers, by simp [workersOf, hworkers], fun hfew => absurd hfew (by decide)⟩
    · exact ⟨n, by simp [workersOf, hworkers, wholeNumber], .fewWorkers hworkers⟩

theorem Accepts.not_isAtFault (h : Accepts fields o) : ¬ IsAtFault fields := by
  intro hfault
  cases hfault with
  | unknown hname hunknown => exact hunknown (unknownNames_eq_nil_iff.1 h.known _ hname)
  | emptyPattern hfiles =>
      have hgiven := isGiven_of_fileChoice h.files h.chosen
      simp [given, hfiles, Value.isGiven] at hgiven
  | @noPattern entries hfiles hnone =>
      have hchoice : FileChoice.several entries = o.files := by
        simpa [given, hfiles, fileChoice, itemsOf, Value.items?] using h.files
      refine h.chosen ?_
      rw [Options.patterns, ← hchoice, FileChoice.patterns, List.filter_eq_nil_iff]
      simpa using hnone
  | noRule hignore hv hrule =>
      have hrules := h.ignored
      simp only [given, hignore, Option.getD_some, ignoredValues_list, Except.ok.injEq] at hrules
      exact hrule (exists_ofValues_iff.1 ⟨_, ofValues_eq_ok_iff.2 hrules⟩ _ hv)
  | fewWorkers hworkers hfew =>
      have hn := h.workers
      simp only [workersOf, hworkers, wholeNumber, Except.ok.injEq] at hn
      have hpositive := h.positive
      omega

/-- Plain values are accepted unless something speaks against them. -/
theorem IsPlain.exists_accepts (h : IsPlain fields) (hfault : ¬ IsAtFault fields) :
    ∃ o, Accepts fields o := by
  obtain ⟨⟨choice, hfiles, hnone⟩, ⟨rules, hrules, hnorule⟩, n, hworkers, hfew⟩ := h.readable
  have hall : ∀ v ∈ rules, IsRule v := by
    intro v hv
    by_contra hv'
    exact hfault (hnorule ⟨v, hv, hv'⟩)
  obtain ⟨exemptions, hexemptions⟩ := exists_ofValues_iff.2 hall
  refine ⟨made fields choice exemptions n, ?_, hfiles, fun hempty => hfault (hnone hempty), ?_,
    hworkers, ?_, rfl, rfl⟩
  · refine unknownNames_eq_nil_iff.2 fun name hname => ?_
    by_contra hunknown
    exact hfault (.unknown hname hunknown)
  · rw [hrules, ofValues_eq_ok_iff.1 hexemptions]
    rfl
  · exact Int.not_lt.1 fun h => hfault (hfew h)

/-- Accepted options select files, hold nothing but exemptions, leave at least one reader, and take
the directives into account unless they are given as false. A session that is set up with them takes
their exemptions as they are, since its matcher refuses none of the rules, and their own values give
them back. Plain values are refused exactly
if something speaks against them, and then for the sake of the configuration. -/
theorem accepted_are_usable_and_stable :
    (∀ fields o, ofValue (.table fields) = .ok o →
      o.patterns ≠ [] ∧ (∀ p ∈ o.patterns, p.isGiven = true ∧ p ≠ .text "") ∧
      (∃ rules, ignoredValues (given fields "ignore") = .ok rules ∧ (∀ v ∈ rules, IsRule v) ∧
        rules = o.exemptions.map Exemption.toValue ∧
        ∀ load listener, Exemption.ofValues rules =
            .ok (Stream.setupOf o load listener).exemptions ∧
          Exemption.matcher rules = .ok (Stream.setupOf o load listener).exemptions) ∧
      1 ≤ o.maxWorkers ∧
      (o.directives = false ↔ fields.lookup "angular" = some (.bool false)) ∧
      ofValue (.table o.toFields) = .ok o) ∧
    ∀ fields, IsPlain fields →
      ((∃ e, ofValue (.table fields) = .error e ∧ e.isConfiguration = true) ↔ IsAtFault fields) ∧
      ((∃ o, ofValue (.table fields) = .ok o) ↔ ¬ IsAtFault fields) := by
  refine ⟨fun fields o h => ?_, fun fields hplain => ?_⟩
  · have haccepts : Accepts fields o := ofFields_eq_ok_iff.1 h
    have hrules := ofValues_eq_ok_iff.2 (Eq.refl (o.exemptions.map Exemption.toValue))
    have hmatcher : Exemption.matcher (o.exemptions.map Exemption.toValue) = .ok o.exemptions := by
      rw [Exemption.matcher, hrules]
      rfl
    refine ⟨haccepts.chosen, ?_, ⟨_, haccepts.ignored, exists_ofValues_iff.1 ⟨_, hrules⟩, rfl,
      fun _ _ => ⟨hrules, hmatcher⟩⟩, haccepts.positive, ?_, ofFields_eq_ok_iff.2 haccepts.toFields⟩
    · intro p hp
      have hgiven : p.isGiven = true := by
        unfold Options.patterns FileChoice.patterns at hp
        split at hp <;> exact (List.mem_filter.1 hp).2
      refine ⟨hgiven, ?_⟩
      rintro rfl
      cases hgiven
    · rw [haccepts.directives, Bool.not_eq_false', isFalse_iff, given_eq_iff (by simp)]
  · have hok : (∃ o, ofValue (.table fields) = .ok o) ↔ ¬ IsAtFault fields := by
      constructor
      · rintro ⟨o, ho⟩
        exact (ofFields_eq_ok_iff.1 ho).not_isAtFault
      · intro hfault
        obtain ⟨o, ho⟩ := hplain.exists_accepts hfault
        exact ⟨o, ofFields_eq_ok_iff.2 ho⟩
    refine ⟨?_, hok⟩
    constructor
    · rintro ⟨e, he, -⟩
      by_contra hfault
      obtain ⟨o, ho⟩ := hok.2 hfault
      rw [ho] at he
      cases he
    · intro hfault
      cases hfields : ofFields fields with
      | ok o => exact absurd hfault (hok.1 ⟨o, hfields⟩)
      | error e =>
          obtain ⟨⟨choice, hfiles, -⟩, ⟨rules, hrules, -⟩, n, hworkers, -⟩ := hplain.readable
          exact ⟨e, hfields, isConfiguration_of_error hfiles hrules hworkers hfields⟩

/-! ### A sample of accepted and of refused values -/

def sampleFields : List (String × Value) :=
  [("files", .list [.text "", .text "a.html"]), ("angular", .null),
    ("ignore", .list [.text "x", .pattern ⟨"", [], .nothing, 0⟩]), ("max_workers", .text " 2 ")]

def sampleOptions : Options where
  files := .several [.text "", .text "a.html"]
  directives := true
  exemptions := [.name "x", .pattern ⟨"", [], .nothing, 0⟩]
  softStop := false
  maxWorkers := 2

def refusedFields : List (String × Value) :=
  [("files", .text "a.html"), ("ignore", .list [.text "x", .whole 3])]

theorem accepted_are_usable_and_stable_sample :
    ofValue (.table sampleFields) = .ok sampleOptions ∧
      sampleOptions.patterns ≠ [] ∧ 1 ≤ sampleOptions.maxWorkers ∧
      ofValue (.table sampleOptions.toFields) = .ok sampleOptions ∧
      IsPlain refusedFields ∧
      ∃ e, ofValue (.table refusedFields) = .error e ∧ e.isConfiguration = true := by
  have haccepted : ofValue (.table sampleFields) = .ok sampleOptions := by rfl
  have hplain : IsPlain refusedFields :=
    ⟨.inl ⟨"a.html", rfl⟩, .inr (.inr (.inr ⟨_, rfl⟩)), .inl rfl⟩
  have hfault : IsAtFault refusedFields := by
    refine .noRule (v := .whole 3) rfl (by simp) ?_
    rintro (⟨name, hname⟩ | ⟨p, hp⟩)
    · cases hname
    · cases hp
  obtain ⟨hall, hrefused⟩ := accepted_are_usable_and_stable
  obtain ⟨hpatterns, -, -, hworkers, -, hagain⟩ := hall sampleFields sampleOptions haccepted
  exact ⟨haccepted, hpatterns, hworkers, hagain, hplain, (hrefused _ hplain).1.2 hfault⟩

end

end StyleUsage.Options
