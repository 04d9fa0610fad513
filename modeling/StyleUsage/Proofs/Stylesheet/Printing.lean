import StyleUsage.Proofs.Stylesheet.Recovery

/-!
# Printed stylesheets

A rule is printed as its selectors, or its name and its parameters, and a block with its
declarations and then the rules nested in it. What is printed is a written form, so the reader gets
the rules back from it.
-/

namespace StyleUsage

open StyleUsage.Text StyleUsage.Stylesheet

/-- The selectors with a comma and a space between them. -/
def printSelectors : List String → List Char
  | [] => []
  | [s] => s.toList
  | s :: rest => s.toList ++ ',' :: ' ' :: printSelectors rest

/-- A declaration without its semicolon. -/
def Declaration.printText (d : Declaration) : List Char :=
  d.property.toList ++ ':' :: ' ' :: d.value.toList

/-- The declarations of a block, each with its semicolon. -/
def printDeclarations : List Declaration → List Char
  | [] => []
  | d :: rest => d.printText ++ ';' :: printDeclarations rest

namespace Rule

/-- What stands before the block of a rule. -/
def printHead : Rule → List Char
  | style selectors _ _ _ => printSelectors selectors
  | atRule name params _ _ _ => '@' :: (name.toList ++ ' ' :: params.toList)

mutual

def print : Rule → List Char
  | style selectors declarations rules _ =>
      printSelectors selectors ++
        '{' :: (printDeclarations declarations ++ (printAll rules ++ ['}']))
  | atRule name params declarations rules _ =>
      '@' :: (name.toList ++ ' ' :: params.toList) ++
        '{' :: (printDeclarations declarations ++ (printAll rules ++ ['}']))

/-- The rules one after the other. -/
def printAll : List Rule → List Char
  | [] => []
  | rule :: rest => rule.print ++ printAll rest

end

theorem print_eq (rule : Rule) : rule.print = rule.printHead ++
    '{' :: (printDeclarations rule.declarations ++ (printAll rule.rules ++ ['}'])) := by
  cases rule <;> rfl

end Rule

namespace Stylesheet

/-! ## Heads and declarations -/

theorem isInert_of_isNameChar {c : Char} (h : isNameChar c = true) : isInert c = true := by
  have hne {d : Char} (hd : isNameChar d = false) : c ≠ d := ne_of_test h hd
  have hbraces : c ≠ '{' ∧ c ≠ '}' ∧ c ≠ ';' :=
    ⟨hne (by decide +kernel), hne (by decide +kernel), hne (by decide +kernel)⟩
  have hquotes : c ≠ '"' ∧ c ≠ '\'' := ⟨hne (by decide +kernel), hne (by decide +kernel)⟩
  have hslash : c ≠ '\\' := hne (by decide +kernel)
  have hendings : c ≠ '*' ∧ c ≠ '(' := ⟨hne (by decide +kernel), hne (by decide +kernel)⟩
  have hdelimiter : delimiter? c = none := by
    unfold delimiter?
    split <;> simp_all
  simp [isInert, isPlain, hdelimiter, isQuote, hquotes, hslash, hendings]

theorem isPadded_self (s : List Char) : IsPadded s s :=
  ⟨[], [], by simp [AllBlank], by simp [AllBlank], by simp⟩

theorem isPadded_space (s : List Char) : IsPadded s (' ' :: s) := by
  refine ⟨[' '], [], ?_, by simp [AllBlank], by simp⟩
  intro c hc
  rw [List.mem_singleton.1 hc]
  decide

theorem isWrittenAs_printText (d : Declaration) : d.IsWrittenAs d.printText :=
  ⟨d.property.toList, ' ' :: d.value.toList, rfl, isPadded_self _, isPadded_space _⟩

theorem SafeText.space {s : List Char} (h : SafeText s) : SafeText (' ' :: s) :=
  h.cons (by decide) (by decide) (by decide)

theorem safeText_printText {d : Declaration} (h : d.IsPrintable) : SafeText d.printText := by
  have hvalue : SafeText (':' :: ' ' :: d.value.toList) :=
    h.value.safe.space.cons (by decide) (by decide) (by decide)
  exact h.property.safe.append hvalue (severs_cons (by decide) (by decide))

theorem startsInk_append {s : List Char} (hs : IsTrimmed s) (hne : s ≠ []) (rest : List Char) :
    StartsInk (s ++ rest) := by
  cases s with
  | nil => exact absurd rfl hne
  | cons c more => exact ⟨c, more ++ rest, rfl, hs.first c rfl⟩

theorem Enumerates.space {selectors : List (List Char)} {text : List Char}
    (h : Enumerates selectors text) : Enumerates selectors (' ' :: text) := by
  have hpadded {s padded : List Char} (h : IsPadded s padded) : IsPadded s (' ' :: padded) := by
    obtain ⟨pre, post, hpre, hpost, rfl⟩ := h
    refine ⟨' ' :: pre, post, ?_, hpost, by simp⟩
    intro c hc
    rcases List.mem_cons.1 hc with rfl | hc
    · decide
    · exact hpre c hc
  cases h with
  | last h => exact .last (hpadded h)
  | more h hrest => exact .more (hpadded h) hrest

theorem enumerates_printSelectors {selectors : List String} (hne : selectors ≠ []) :
    Enumerates (selectors.map String.toList) (printSelectors selectors) := by
  induction selectors with
  | nil => exact absurd rfl hne
  | cons s rest ih =>
      cases rest with
      | nil => exact .last (isPadded_self s.toList)
      | cons s' rest => exact .more (isPadded_self s.toList) (ih (List.cons_ne_nil s' rest)).space

theorem safeText_printSelectors {selectors : List String}
    (h : ∀ s ∈ selectors, SafeText s.toList) : SafeText (printSelectors selectors) := by
  induction selectors with
  | nil => exact .nil
  | cons s rest ih =>
      obtain ⟨hs, hmore⟩ := List.forall_mem_cons.1 h
      cases rest with
      | nil => exact hs
      | cons s' rest =>
          have hlist : SafeText (',' :: ' ' :: printSelectors (s' :: rest)) :=
            (ih hmore).space.cons (by decide) (by decide) (by decide)
          exact hs.append hlist (severs_cons (by decide) (by decide))

/-- What is printed before a block is one head, and the head of the rule. -/
theorem printHead_of_hasPrintableHead {rule : Rule} (h : rule.HasPrintableHead) :
    rule.IsHeadedBy rule.printHead ∧ StartsInk rule.printHead ∧ SafeText rule.printHead := by
  cases rule with
  | style selectors _ _ _ =>
      obtain ⟨hne, hselectors, -⟩ := h
      refine ⟨enumerates_printSelectors hne, ?_,
        safeText_printSelectors fun s hs => (hselectors s hs).2⟩
      cases selectors with
      | nil => exact absurd rfl hne
      | cons s rest =>
          have hs := (hselectors s List.mem_cons_self).1
          cases rest with
          | nil =>
              have hink := startsInk_append hs.trimmed hs.nonempty []
              rwa [List.append_nil] at hink
          | cons s' rest => exact startsInk_append hs.trimmed hs.nonempty _
  | atRule name params _ _ _ =>
      obtain ⟨hname, hparams⟩ := h
      have hsafe : SafeText name.toList :=
        safeText_of_all (List.all_eq_true.2 fun c hc => isInert_of_isNameChar (hname.chars c hc))
      have hall : SafeText (name.toList ++ ' ' :: params.toList) :=
        hsafe.append hparams.safe.space (severs_cons (by decide) (by decide))
      refine ⟨⟨' ' :: params.toList, rfl, isPadded_space _, ?_⟩, ⟨'@', _, rfl, by decide⟩,
        hall.cons (by decide) (by decide) (by decide)⟩
      rintro c ⟨⟩
      decide +kernel

/-! ## Rules -/

/-- The text holds no comments and spells the tokens, whatever stands after it. -/
def Prints (text : List Char) (tokens : List Token) : Prop :=
  ∀ (source plain : List Char) (more : List Token), Annotates source plain → Spells plain more →
    Annotates (text ++ source) (text ++ plain) ∧ Spells (text ++ plain) (tokens ++ more)

variable {a b text : List Char} {tokens more : List Token} {c : Char} {t : Token}

theorem Prints.append (ha : Prints a tokens) (hb : Prints b more) :
    Prints (a ++ b) (tokens ++ more) := by
  intro source plain rest hsource hplain
  obtain ⟨hannotates, hspells⟩ := hb source plain rest hsource hplain
  simp only [List.append_assoc]
  exact ha _ _ _ hannotates hspells

theorem prints_nil : Prints [] [] :=
  fun _ _ _ hsource hplain => ⟨hsource, hplain⟩

theorem prints_delimiter (hc : delimiter? c = some t) (h : Prints text tokens) :
    Prints (c :: text) (t :: tokens) := by
  intro source plain rest hsource hplain
  obtain ⟨hannotates, hspells⟩ := h source plain rest hsource hplain
  exact ⟨hannotates.delimiter hc, .delimiter hc hspells⟩

theorem prints_head (hstart : StartsInk text) (hsafe : SafeText text)
    (hc : delimiter? c = some t) (h : Prints b tokens) :
    Prints (text ++ c :: b) (.head text :: t :: tokens) := by
  intro source plain rest hsource hplain
  obtain ⟨hannotates, hspells⟩ := prints_delimiter hc h source plain rest hsource hplain
  rw [List.append_assoc, List.append_assoc]
  refine ⟨.safeText hsafe ?_ hannotates, .head hstart hsafe hc hspells⟩
  intro d hd
  exact (severs_of_delimiter hc d hd).1

/-- The tokens of printed declarations, before those of what follows them in their block. -/
theorem prints_declarations {declarations : List Declaration} {rules : List Rule}
    (h : ∀ d ∈ declarations, d.IsPrintable) (hrules : Outlines false [] rules more)
    (htext : Prints text more) : ∃ tokens, Outlines false declarations rules tokens ∧
      Prints (printDeclarations declarations ++ text) tokens := by
  induction declarations with
  | nil => exact ⟨more, hrules, htext⟩
  | cons d rest ih =>
      obtain ⟨hd, hrest⟩ := List.forall_mem_cons.1 h
      obtain ⟨tokens, houtlines, hprints⟩ := ih hrest
      refine ⟨_, .declaration (isWrittenAs_printText d) houtlines, ?_⟩
      rw [printDeclarations, List.append_assoc, List.cons_append]
      exact prints_head (startsInk_append hd.property.trimmed hd.nonempty _) (safeText_printText hd)
        rfl hprints

/-- The tokens of printed rules, given those of the blocks of each. -/
theorem prints_rules {rules : List Rule} {isOutermost : Bool}
    (h : ∀ rule ∈ rules, rule.HasPrintableHead ∧
      ∃ inner, Outlines false rule.declarations rule.rules inner ∧
        Prints (printDeclarations rule.declarations ++ Rule.printAll rule.rules) inner) :
    ∃ tokens, Outlines isOutermost [] rules tokens ∧ Prints (Rule.printAll rules) tokens := by
  induction rules with
  | nil => exact ⟨[], .nil, prints_nil⟩
  | cons rule rest ih =>
      obtain ⟨⟨hhead, inner, hinner, hblock⟩, hrest⟩ := List.forall_mem_cons.1 h
      obtain ⟨tokens, houtlines, hprints⟩ := ih hrest
      obtain ⟨hheaded, hstart, hsafe⟩ := printHead_of_hasPrintableHead hhead
      refine ⟨_, .block hheaded hinner houtlines, ?_⟩
      have hclosed : Prints ('}' :: Rule.printAll rest) (.rightBrace :: tokens) :=
        prints_delimiter rfl hprints
      have hall := prints_head hstart hsafe rfl (hblock.append hclosed) (c := '{')
      rw [Rule.printAll, Rule.print_eq]
      simpa using hall

/-- The block of a rule is printed as the declarations and rules in it. The induction is on how
deep rules are nested. -/
theorem prints_block {rule : Rule} (h : rule.IsPrintable) :
    ∃ inner, Outlines false rule.declarations rule.rules inner ∧
      Prints (printDeclarations rule.declarations ++ Rule.printAll rule.rules) inner := by
  induction h with
  | @intro rule hhead hdeclarations hrules ih =>
      have hinner : ∃ tokens, Outlines false [] rule.rules tokens ∧
          Prints (Rule.printAll rule.rules) tokens := by
        apply prints_rules
        intro inner hmem
        obtain ⟨hinnerHead, -, -⟩ := hrules inner hmem
        exact ⟨hinnerHead, ih inner hmem⟩
      obtain ⟨tokens, houtlines, hprints⟩ := hinner
      exact prints_declarations hdeclarations houtlines hprints

/-- What is printed is a written form of the rules. -/
theorem isWritten_printAll {rules : List Rule} (h : ∀ rule ∈ rules, rule.IsPrintable) :
    IsWritten rules (Rule.printAll rules) := by
  have hrules : ∃ tokens, Outlines true [] rules tokens ∧ Prints (Rule.printAll rules) tokens := by
    apply prints_rules
    intro rule hrule
    have hprintable := h rule hrule
    obtain ⟨hhead, -, -⟩ := h rule hrule
    exact ⟨hhead, prints_block hprintable⟩
  obtain ⟨tokens, houtlines, hprints⟩ := hrules
  obtain ⟨hannotates, hspells⟩ := hprints [] [] [] .nil .nil
  simp only [List.append_nil] at hannotates hspells
  exact ⟨Rule.printAll rules, tokens, hannotates, hspells, houtlines⟩

/-- Parsing undoes printing, however the printed text is laid out. -/
theorem parse_print {rules : List Rule} (h : ∀ rule ∈ rules, rule.IsPrintable) :
    IsReadAs (Rule.printAll rules) rules ∧
      ∀ source, IsWritten rules source → IsReadAs source rules :=
  ⟨isReadAs_of_isWritten (isWritten_printAll h) h,
    fun _ hsource => isReadAs_of_isWritten hsource h⟩

/-! ### A sample with a comma and a brace in quotations -/

def styleSample : Rule :=
  .style ["a", "b[c=\",\"]"] [⟨"content", "\"\x7d\""⟩] [] 0

def mediaSample : Rule :=
  .atRule "media" "print" [] [styleSample] 0

/-- The sample with a comment in the place of a space, and no semicolon. -/
def commentedSample : List Char :=
  "@media print".toList ++ ("/**/\x7b".toList ++
    ("a,b[c=\",\"]\x7b".toList ++ "content:\"\x7d\"\x7d\x7d".toList))

theorem safeText_selector : SafeText "b[c=\",\"]".toList := by
  have hlast : SafeText [']'] := safeText_of_all (by decide)
  have hquoted : SafeText ('"' :: ([',', '"'] ++ [']'])) :=
    .quotation rfl (.plain (by decide) (by decide) .close) hlast
  have hfirst : SafeText "b[c=".toList := safeText_of_all (by decide)
  exact hfirst.append hquoted (severs_cons (by decide) (by decide))

theorem bracketed_selector : Bracketed false "b[c=\",\"]".toList := by
  have hquoted : Bracketed true ('"' :: ([',', '"'] ++ [])) :=
    .quotation rfl (.plain (by decide) (by decide) .close) .nil
  have hinner : Bracketed true ('c' :: '=' :: '"' :: ([',', '"'] ++ [])) :=
    .plain (by decide) (by decide) (.plain (by decide) (by decide) hquoted)
  have hsquare : Bracketed false ('[' :: ('c' :: '=' :: '"' :: ([',', '"'] ++ []) ++ ']' :: [])) :=
    .square hinner .nil
  exact .plain (by decide) (by decide) hsquare

theorem safeText_content : SafeText "\"\x7d\"".toList := by
  have hquoted : SafeText ('"' :: (['\x7d', '"'] ++ [])) :=
    .quotation rfl (.plain (by decide) (by decide) .close) .nil
  exact hquoted

theorem isPrintable_styleSample : styleSample.IsPrintable := by
  have ha : IsSelector "a".toList := ⟨by decide, by decide, .plain (by decide) (by decide) .nil⟩
  have hb : IsSelector "b[c=\",\"]".toList := ⟨by decide, by decide, bracketed_selector⟩
  refine .intro ⟨by simp, ?_, by rintro s ⟨⟩; decide⟩ ?_ (by simp [styleSample, Rule.rules])
  · intro s hs
    simp only [List.mem_cons, List.not_mem_nil, or_false] at hs
    rcases hs with rfl | rfl
    · exact ⟨ha, safeText_of_all (by decide)⟩
    · exact ⟨hb, safeText_selector⟩
  · intro d hd
    rw [List.mem_singleton.1 hd]
    exact ⟨⟨by decide, safeText_of_all (by decide)⟩, by decide, by decide,
      ⟨by decide, safeText_content⟩⟩

theorem isPrintable_mediaSample : mediaSample.IsPrintable := by
  have hchars : "media".toList.all isNameChar = true := by decide +kernel
  refine .intro ⟨⟨by decide, List.all_eq_true.1 hchars, by decide +kernel⟩, ?_⟩
    (by simp [mediaSample, Rule.declarations]) ?_
  · exact ⟨by decide, safeText_of_all (by decide)⟩
  · intro inner hinner
    rw [List.mem_singleton.1 hinner]
    exact isPrintable_styleSample

theorem isWritten_commentedSample : IsWritten [mediaSample] commentedSample := by
  have hmedia : SafeText "@media print".toList := safeText_of_all (by decide)
  have hhead : SafeText "@media print ".toList := safeText_of_all (by decide)
  have hselectors : SafeText ("a,".toList ++ "b[c=\",\"]".toList) :=
    (safeText_of_all (by decide)).append safeText_selector (severs_cons (by decide) (by decide))
  have hcontent : SafeText ("content:".toList ++ "\"\x7d\"".toList) :=
    (safeText_of_all (by decide)).append safeText_content (severs_cons (by decide) (by decide))
  -- the comment comes off
  have hends : Annotates ['\x7d', '\x7d'] ['\x7d', '\x7d'] :=
    (Annotates.nil.delimiter rfl).delimiter rfl
  have hinner : Annotates _ _ := (hends.safeText hcontent (by rintro c ⟨⟩; decide)).delimiter
    (c := '\x7b') rfl
  have hblock : Annotates _ _ := (hinner.safeText hselectors (by rintro c ⟨⟩; decide)).delimiter
    (c := '\x7b') rfl
  have hcomment : Annotates (commentOpening ++ ([] ++ (commentEnd ++ _))) (commentGap [] ++ _) :=
    .comment (by decide) hblock
  have hsource := hcomment.safeText hmedia (by rintro c ⟨⟩; decide)
  -- what is left spells the tokens
  have hclosing : Spells ['\x7d', '\x7d'] [.rightBrace, .rightBrace] :=
    .delimiter rfl (.delimiter rfl .nil)
  have hdeclaration := Spells.head ⟨'c', _, rfl, by decide⟩ hcontent rfl hclosing
  have hstyle := Spells.head ⟨'a', _, rfl, by decide⟩ hselectors (c := '\x7b') rfl
    (.delimiter rfl hdeclaration)
  have hspells := Spells.head ⟨'@', _, rfl, by decide⟩ hhead (c := '\x7b') rfl
    (.delimiter rfl hstyle)
  -- and the tokens outline the rules
  have hnested : Outlines false [] [styleSample] _ :=
    .block (.more (isPadded_self _) (.last (isPadded_self _)))
      (.lastDeclaration ⟨_, _, rfl, isPadded_self _, isPadded_self _⟩) .nil
  have hname : mediaSample.IsHeadedBy "@media print ".toList := by
    refine ⟨" print ".toList, rfl, ⟨[' '], [' '], ?_, ?_, rfl⟩, by rintro c ⟨⟩; decide +kernel⟩ <;>
      simp [AllBlank] <;> decide
  exact ⟨_, _, hsource, hspells, .block hname hnested .nil⟩

/-- Both the printed sample and the commented one are read back. -/
theorem parse_print_sample : (∀ rule ∈ [mediaSample], rule.IsPrintable) ∧
    IsReadAs (Rule.printAll [mediaSample]) [mediaSample] ∧
    IsReadAs commentedSample [mediaSample] := by
  have hprintable : ∀ rule ∈ [mediaSample], rule.IsPrintable := by
    intro rule hrule
    rw [List.mem_singleton.1 hrule]
    exact isPrintable_mediaSample
  obtain ⟨hprinted, hwritten⟩ := parse_print hprintable
  exact ⟨hprintable, hprinted, hwritten commentedSample isWritten_commentedSample⟩

end Stylesheet

end StyleUsage
