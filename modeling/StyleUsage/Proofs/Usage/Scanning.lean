import StyleUsage.Proofs.Text.Spans
import StyleUsage.Proofs.Text.Trim
import StyleUsage.Usage.Expression

/-!
# How expressions are scanned

A piece of an expression takes the open brackets to others and gives names on the way, whatever
follows it. Characters that are no quotes, brackets and commas give none as long as no key is
expected, and a colon or a comma matters to a brace alone.
-/

namespace StyleUsage.Usage

open StyleUsage.Text Stylesheet

variable {c quote : Char} {s t rest body name : List Char} {names more : List (List Char)}
  {brackets inner outer a b : List Bracket} {value : Bool}

/-! ## The parts of a text -/

theorem quotation?_of_not_isQuote (hc : isQuote c = false) (rest : List Char) :
    quotation? true (c :: rest) = none := by
  rw [quotation?, if_neg (by simp [hc])]

theorem lexemes_nil : lexemes [] = [] := by
  rw [lexemes]

theorem lexemes_of_quotation {inner after : List Char}
    (h : quotation? true (c :: rest) = some (inner, after)) :
    lexemes (c :: rest) = .quotation inner.dropLast :: lexemes after := by
  rw [lexemes]
  split
  · rename_i hfound
    rw [h] at hfound
    cases hfound
    rfl
  · rename_i hnone
    rw [h] at hnone
    cases hnone

theorem lexemes_of_startsName (hc : isQuote c = false) (hname : startsName c = true) :
    lexemes (c :: rest) =
      .name (c :: rest.takeWhile continuesName) :: lexemes (rest.dropWhile continuesName) := by
  have hnone := quotation?_of_not_isQuote hc rest
  rw [lexemes]
  split
  · rename_i hfound
    rw [hnone] at hfound
    cases hfound
  · rw [if_pos hname]

theorem lexemes_of_mark (hc : isQuote c = false) (hname : startsName c = false) :
    lexemes (c :: rest) = (mark? c).toList ++ lexemes rest := by
  have hnone := quotation?_of_not_isQuote hc rest
  rw [lexemes]
  split
  · rename_i hfound
    rw [hnone] at hfound
    cases hfound
  · rw [if_neg (by simp [hname])]

/-- A mark is no quote and starts no name. -/
theorem of_mark?_eq_some {part : Lexeme} (h : mark? c = some part) :
    isQuote c = false ∧ startsName c = false := by
  rw [mark?.eq_def] at h
  split at h
  all_goals first | exact ⟨rfl, rfl⟩ | cases h

/-- What stands in a quotation, as it is written: a backslash belongs to the character behind it. -/
inductive QuotedText (quote : Char) : List Char → Prop where
  | nil : QuotedText quote []
  | plain {c : Char} {rest : List Char} (hquote : c ≠ quote) (hescape : c ≠ '\\')
      (hrest : QuotedText quote rest) : QuotedText quote (c :: rest)
  | escape {rest : List Char} (c : Char) (hrest : QuotedText quote rest) :
      QuotedText quote ('\\' :: c :: rest)

theorem closeQuote?_quotedText (hquote : isQuote quote = true) (h : QuotedText quote body)
    (after : List Char) :
    closeQuote? true quote (body ++ quote :: after) = some (body ++ [quote], after) := by
  induction h with
  | nil => cases after <;> simp [closeQuote?]
  | @plain c rest hne hescape _ ih =>
      obtain ⟨d, tail, hrest⟩ : ∃ d tail, rest ++ quote :: after = d :: tail := by
        cases rest <;> simp
      rw [List.cons_append, hrest, closeQuote?, if_neg hne, if_neg hescape, ← hrest, ih]
      rfl
  | @escape rest c _ ih =>
      have hne : '\\' ≠ quote := (ne_of_test hquote rfl).symm
      rw [List.cons_append, List.cons_append, closeQuote?, if_neg hne, if_pos rfl, if_neg (by simp),
        ih]
      rfl

theorem lexemes_quotedText (hquote : isQuote quote = true) (h : QuotedText quote body)
    (rest : List Char) :
    lexemes (quote :: (body ++ quote :: rest)) = .quotation body :: lexemes rest := by
  have hfound : quotation? true (quote :: (body ++ quote :: rest)) =
      some (body ++ [quote], rest) := by
    rw [quotation?, if_pos hquote, closeQuote?_quotedText hquote h]
  rw [lexemes_of_quotation hfound, List.dropLast_concat]

/-! ## What brackets matter for -/

/-- Whether a key is expected in a bracket that is no brace makes no difference. The induction is on
the parts to come, with the brackets that they open further in. -/
theorem namesFrom_append_cons (inner outer : List Bracket) (x y : Bool) (parts : List Lexeme) :
    namesFrom (inner ++ ⟨false, x⟩ :: outer) parts =
      namesFrom (inner ++ ⟨false, y⟩ :: outer) parts := by
  induction parts generalizing inner x y with
  | nil => rfl
  | cons part parts ih =>
      have hnames : namesIn (inner ++ ⟨false, x⟩ :: outer) part =
          namesIn (inner ++ ⟨false, y⟩ :: outer) part := by
        cases inner <;> cases part <;> rfl
      rw [namesFrom, namesFrom, hnames]
      congr 1
      cases part with
      | opening isBrace => exact ih (⟨isBrace, true⟩ :: inner) x y
      | closing =>
          cases inner with
          | nil => rfl
          | cons first inner => exact ih inner x y
      | colon =>
          cases inner with
          | nil => rfl
          | cons first inner => exact ih (expectKey false (first :: inner)) x y
      | comma =>
          cases inner with
          | nil => rfl
          | cons first inner => exact ih (expectKey true (first :: inner)) x y
      | quotation content => exact ih inner x y
      | name name => exact ih inner x y

theorem namesFrom_expectKey_false (hkey : inKey brackets = false) (parts : List Lexeme) :
    namesFrom (expectKey false brackets) parts = namesFrom brackets parts := by
  match brackets with
  | [] => rfl
  | ⟨false, atKey⟩ :: outer => exact namesFrom_append_cons [] outer false atKey parts
  | ⟨true, false⟩ :: outer => rfl
  | ⟨true, true⟩ :: outer => cases hkey

theorem namesFrom_expectKey_true (hkey : inKey brackets = false) (hvalue : inValue brackets = false)
    (parts : List Lexeme) :
    namesFrom (expectKey true brackets) parts = namesFrom brackets parts := by
  match brackets with
  | [] => rfl
  | ⟨false, atKey⟩ :: outer => exact namesFrom_append_cons [] outer true atKey parts
  | ⟨true, false⟩ :: outer => cases hvalue
  | ⟨true, true⟩ :: outer => cases hkey

/-! ## Pieces of an expression -/

/-- Whatever follows the piece, its names are found and the scan goes on behind it: the open
brackets are `a` before it and `b` behind it. -/
def Takes (a b : List Bracket) (s : List Char) (names : List (List Char)) : Prop :=
  ∀ rest, namesFrom a (lexemes (s ++ rest)) = names ++ namesFrom b (lexemes rest)

theorem takes_nil (brackets : List Bracket) : Takes brackets brackets [] [] :=
  fun _ => rfl

theorem Takes.append {b' : List Bracket} (hs : Takes a b s names) (ht : Takes b b' t more) :
    Takes a b' (s ++ t) (names ++ more) := by
  intro rest
  rw [List.append_assoc, hs, ht, List.append_assoc]

theorem takes_mark {part : Lexeme} (hmark : mark? c = some part)
    (hnext : bracketsAfter a part = b) (hnames : namesIn a part = []) : Takes a b [c] [] := by
  intro rest
  obtain ⟨hquote, hname⟩ := of_mark?_eq_some hmark
  rw [List.singleton_append, lexemes_of_mark hquote hname, hmark, ← hnext, ← hnames]
  rfl

theorem takes_quotedText (hquote : isQuote quote = true) (h : QuotedText quote body)
    (brackets : List Bracket) : Takes brackets brackets (quote :: (body ++ [quote]))
      (namesIn brackets (.quotation body)) := by
  intro rest
  rw [List.cons_append, List.append_assoc, List.singleton_append, lexemes_quotedText hquote h]
  rfl

theorem isQuote_of_continuesName (h : continuesName c = true) : isQuote c = false := by
  have hdouble : c ≠ '"' := ne_of_test h (by decide +kernel)
  have hsingle : c ≠ '\'' := ne_of_test h (by decide +kernel)
  simp [isQuote, hdouble, hsingle]

theorem continuesName_of_startsName (h : startsName c = true) : continuesName c = true := by
  simp only [startsName, Bool.or_eq_true, decide_eq_true_eq] at h
  rcases h with (hletter | rfl) | rfl
  · simp [continuesName, isWordChar_of_isAlpha hletter]
  · decide +kernel
  · decide +kernel

theorem isQuote_of_startsName (h : startsName c = true) : isQuote c = false :=
  isQuote_of_continuesName (continuesName_of_startsName h)

/-- A name ends where the piece behind it starts. -/
theorem Takes.behind_name (hstart : startsName c = true)
    (hname : ∀ d ∈ name, continuesName d = true)
    (hend : t.head?.any (fun d => !continuesName d) = true) (h : Takes a b t more) :
    Takes a b (c :: (name ++ t)) (namesIn a (.name (c :: name)) ++ more) := by
  intro rest
  have hbehind : (t ++ rest).head?.all (fun d => !continuesName d) = true := by
    cases t with
    | nil => cases hend
    | cons d t => simpa using hend
  obtain ⟨htake, hdrop⟩ := span_append (t ++ rest) hname hbehind
  rw [List.cons_append, List.append_assoc,
    lexemes_of_startsName (isQuote_of_startsName hstart) hstart, htake, hdrop, namesFrom,
    List.append_assoc]
  congr 1
  exact h rest

/-! ## Pieces outside of keys -/

/-- A character that is no quote, no bracket and no comma. -/
def isInert (c : Char) : Bool :=
  !isQuote c && !(['{', '[', '(', '}', ']', ')', ','].contains c)

theorem isQuote_of_isInert (h : isInert c = true) : isQuote c = false := by
  rw [isInert, Bool.and_eq_true] at h
  simpa using h.1

theorem mark?_of_isInert (h : isInert c = true) (hcolon : c ≠ ':') : mark? c = none := by
  rw [mark?.eq_def]
  split <;> first | rfl | simp_all [isInert]

theorem isInert_of_continuesName (h : continuesName c = true) : isInert c = true ∧ c ≠ ':' := by
  have hne {d : Char} (hd : continuesName d = false) : c ≠ d := ne_of_test h hd
  have hquote := isQuote_of_continuesName h
  refine ⟨?_, hne (by decide +kernel)⟩
  simp [isInert, hquote, hne (d := '{') (by decide +kernel), hne (d := '[') (by decide +kernel),
    hne (d := '(') (by decide +kernel), hne (d := '}') (by decide +kernel),
    hne (d := ']') (by decide +kernel), hne (d := ')') (by decide +kernel),
    hne (d := ',') (by decide +kernel)]

/-- Where no key is expected, the piece leaves the open brackets as they are. Its names are those
that it gives in the value of a key or, if `value` is off, outside of values. -/
def Reads (value : Bool) (s : List Char) (names : List (List Char)) : Prop :=
  ∀ brackets, inKey brackets = false → inValue brackets = value → Takes brackets brackets s names

theorem reads_nil (value : Bool) : Reads value [] [] :=
  fun brackets _ _ => takes_nil brackets

theorem Reads.append (hs : Reads value s names) (ht : Reads value t more) :
    Reads value (s ++ t) (names ++ more) :=
  fun brackets hkey hvalue => (hs brackets hkey hvalue).append (ht brackets hkey hvalue)

/-- Where no key is expected, the rest of a name makes no difference. -/
theorem namesFrom_dropWhile (hkey : inKey brackets = false) (s : List Char) :
    namesFrom brackets (lexemes (s.dropWhile continuesName)) = namesFrom brackets (lexemes s) := by
  induction s with
  | nil => rfl
  | cons c rest ih =>
      by_cases hc : continuesName c = true
      · obtain ⟨hinert, hcolon⟩ := isInert_of_continuesName hc
        have hquote := isQuote_of_isInert hinert
        rw [List.dropWhile_cons_of_pos hc]
        cases hname : startsName c with
        | true =>
            rw [lexemes_of_startsName hquote hname, namesFrom, namesIn, if_neg (by simp [hkey])]
            rfl
        | false =>
            rw [lexemes_of_mark hquote hname, mark?_of_isInert hinert hcolon]
            exact ih
      · rw [List.dropWhile_cons_of_neg hc]

theorem reads_inert (hc : isInert c = true) : Reads value [c] [] := by
  intro brackets hkey _ rest
  have hquote := isQuote_of_isInert hc
  rw [List.singleton_append, List.nil_append]
  cases hname : startsName c with
  | true =>
      rw [lexemes_of_startsName hquote hname, namesFrom, namesIn, if_neg (by simp [hkey])]
      exact namesFrom_dropWhile hkey rest
  | false =>
      rw [lexemes_of_mark hquote hname]
      by_cases hcolon : c = ':'
      · rw [hcolon]
        exact namesFrom_expectKey_false hkey (lexemes rest)
      · rw [mark?_of_isInert hc hcolon]
        rfl

theorem reads_of_forall (h : ∀ c ∈ s, isInert c = true) : Reads value s [] := by
  induction s with
  | nil => exact reads_nil value
  | cons c rest ih =>
      obtain ⟨hc, hrest⟩ := List.forall_mem_cons.1 h
      exact (reads_inert hc).append (ih hrest)

/-- Outside of objects a comma changes nothing. -/
theorem reads_comma : Reads false [','] [] := by
  intro brackets hkey hvalue rest
  rw [List.singleton_append, lexemes_of_mark rfl rfl]
  exact namesFrom_expectKey_true hkey hvalue (lexemes rest)

theorem reads_quotedText (hquote : isQuote quote = true) (h : QuotedText quote body) :
    Reads value (quote :: (body ++ [quote])) (if value then [] else words (unescape body)) := by
  intro brackets _ hvalue
  rw [← hvalue]
  exact takes_quotedText hquote h brackets

/-- The brackets that hold lists. -/
inductive Enclosure where
  | round
  | square
  deriving Repr, DecidableEq

namespace Enclosure

def opening : Enclosure → Char
  | round => '('
  | square => '['

def closing : Enclosure → Char
  | round => ')'
  | square => ']'

end Enclosure

/-- What stands in brackets other than braces gives its names wherever the brackets stand. -/
theorem Reads.enclosed (e : Enclosure) (h : Reads false s names) :
    Reads value (e.opening :: (s ++ [e.closing])) names := by
  intro brackets _ _
  have hopening : mark? e.opening = some (.opening false) := by cases e <;> rfl
  have hclosing : mark? e.closing = some .closing := by cases e <;> rfl
  have hopen : Takes brackets (⟨false, true⟩ :: brackets) [e.opening] [] :=
    takes_mark hopening rfl rfl
  have hinner : Takes (⟨false, true⟩ :: brackets) (⟨false, true⟩ :: brackets) s names :=
    h _ rfl rfl
  have hclose : Takes (⟨false, true⟩ :: brackets) brackets [e.closing] [] :=
    takes_mark hclosing rfl rfl
  have hall := hopen.append (hinner.append hclose)
  simpa using hall

/-! ## Objects -/

theorem continuesName_of_isBlank (hc : isBlank c = true) : continuesName c = false := by
  have hdollar : c ≠ '$' := ne_of_test hc (by decide)
  simp [continuesName, isWordChar_of_isBlank hc, hdollar]

theorem takes_blank (hc : isBlank c = true) (brackets : List Bracket) :
    Takes brackets brackets [c] [] := by
  intro rest
  have hne {d : Char} (hd : isBlank d = false) : c ≠ d := ne_of_test hc hd
  have hname := continuesName_of_isBlank hc
  have hstart : startsName c = false := by
    cases hstart : startsName c with
    | false => rfl
    | true =>
        rw [continuesName_of_startsName hstart] at hname
        cases hname
  have hinert : isInert c = true := by
    simp [isInert, isQuote, hne (d := '"') (by decide), hne (d := '\'') (by decide),
      hne (d := '{') (by decide), hne (d := '[') (by decide), hne (d := '(') (by decide),
      hne (d := '}') (by decide), hne (d := ']') (by decide), hne (d := ')') (by decide),
      hne (d := ',') (by decide)]
  rw [List.singleton_append, lexemes_of_mark (isQuote_of_isInert hinert) hstart,
    mark?_of_isInert hinert (hne (by decide))]
  rfl

theorem takes_blanks (h : AllBlank s) (brackets : List Bracket) :
    Takes brackets brackets s [] := by
  induction s with
  | nil => exact takes_nil brackets
  | cons c rest ih =>
      obtain ⟨hc, hrest⟩ := List.forall_mem_cons.1 h
      exact (takes_blank hc brackets).append (ih hrest)

/-- The key of an entry, as it is written. -/
inductive KeyText : List Char → List (List Char) → Prop where
  | name {c : Char} {name : List Char} (hstart : startsName c = true)
      (hname : ∀ d ∈ name, continuesName d = true) : KeyText (c :: name) [c :: name]
  | quotation {quote : Char} {body : List Char} (hquote : isQuote quote = true)
      (hbody : QuotedText quote body) :
      KeyText (quote :: (body ++ [quote])) (words (unescape body))

/-- Behind its key and a colon, an entry's value follows. -/
theorem KeyText.takes (h : KeyText s names) (hblank : AllBlank t) (outer : List Bracket) :
    Takes (⟨true, true⟩ :: outer) (⟨true, false⟩ :: outer) (s ++ (t ++ [':'])) names := by
  have hcolon : Takes (⟨true, true⟩ :: outer) (⟨true, false⟩ :: outer) [':'] [] :=
    takes_mark rfl rfl rfl
  have hbehind := (takes_blanks hblank (⟨true, true⟩ :: outer)).append hcolon
  cases h with
  | @name c name hstart hname =>
      have hend : (t ++ [':']).head?.any (fun d => !continuesName d) = true := by
        cases t with
        | nil => decide +kernel
        | cons d t =>
            have hd : continuesName d = false := continuesName_of_isBlank (hblank d (by simp))
            simp [hd]
      exact Takes.behind_name hstart hname hend hbehind
  | quotation hquote hbody =>
      have hall := (takes_quotedText hquote hbody (⟨true, true⟩ :: outer)).append hbehind
      simpa [namesIn, inValue] using hall

/-- What stands in a brace, with a key expected at first. -/
def ReadsEntries (s : List Char) (names : List (List Char)) : Prop :=
  ∀ outer, ∃ atKey, Takes (⟨true, true⟩ :: outer) (⟨true, atKey⟩ :: outer) s names

theorem readsEntries_nil : ReadsEntries [] [] :=
  fun outer => ⟨true, takes_nil (⟨true, true⟩ :: outer)⟩

/-- An entry gives the names of its key, and what its value gives in the place of a value. -/
theorem Reads.entry {pre post key : List Char} (hpre : AllBlank pre) (hkey : KeyText key names)
    (hpost : AllBlank post) (h : Reads true s more) :
    ReadsEntries (pre ++ (key ++ (post ++ ':' :: s))) (names ++ more) := by
  intro outer
  have hvalue : Takes (⟨true, false⟩ :: outer) (⟨true, false⟩ :: outer) s more := h _ rfl rfl
  have hall := (takes_blanks hpre _).append ((hkey.takes hpost outer).append hvalue)
  exact ⟨false, by simpa using hall⟩

theorem takes_comma (atKey : Bool) (outer : List Bracket) :
    Takes (⟨true, atKey⟩ :: outer) (⟨true, true⟩ :: outer) [','] [] :=
  takes_mark rfl rfl rfl

/-- Behind a comma a key is expected again. -/
theorem ReadsEntries.comma (hs : ReadsEntries s names) (ht : ReadsEntries t more) :
    ReadsEntries (s ++ ',' :: t) (names ++ more) := by
  intro outer
  obtain ⟨atKey, hs⟩ := hs outer
  obtain ⟨atKey', ht⟩ := ht outer
  refine ⟨atKey', ?_⟩
  have hall := hs.append ((takes_comma atKey outer).append ht)
  simpa using hall

theorem ReadsEntries.behind_blank (hc : isBlank c = true) (h : ReadsEntries s names) :
    ReadsEntries (c :: s) names := by
  intro outer
  obtain ⟨atKey, hs⟩ := h outer
  exact ⟨atKey, (takes_blank hc _).append hs⟩

/-- Blanks and commas may follow the entries. -/
theorem ReadsEntries.append (h : ReadsEntries s names)
    (ht : ∀ c ∈ t, c = ',' ∨ isBlank c = true) : ReadsEntries (s ++ t) names := by
  induction t generalizing s with
  | nil => simpa using h
  | cons c rest ih =>
      obtain ⟨hc, hrest⟩ := List.forall_mem_cons.1 ht
      rw [List.append_cons]
      refine ih (fun outer => ?_) hrest
      obtain ⟨atKey, hs⟩ := h outer
      rcases hc with rfl | hc
      · exact ⟨true, by simpa using hs.append (takes_comma atKey outer)⟩
      · exact ⟨atKey, by simpa using hs.append (takes_blank hc _)⟩

/-- An object gives the names of its entries, wherever it stands. -/
theorem ReadsEntries.braced (h : ReadsEntries s names) :
    Reads value ('{' :: (s ++ ['}'])) names := by
  intro brackets _ _
  obtain ⟨atKey, hs⟩ := h brackets
  have hopen : Takes brackets (⟨true, true⟩ :: brackets) ['{'] [] := takes_mark rfl rfl rfl
  have hclose : Takes (⟨true, atKey⟩ :: brackets) brackets ['}'] [] := takes_mark rfl rfl rfl
  have hall := hopen.append (hs.append hclose)
  simpa using hall

/-- What a whole expression gives is read outside of values. -/
theorem expressionClasses_of_reads (h : Reads false s names) :
    expressionClasses (String.ofList s) = names.map String.ofList := by
  have hall := h [] rfl rfl []
  rw [List.append_nil, lexemes_nil] at hall
  rw [expressionClasses, String.toList_ofList, hall, namesFrom, List.append_nil]

end StyleUsage.Usage
