import StyleUsage.Proofs.Usage.Scanning

/-!
# Class expressions

Class expressions as trees, as they are written down with a space between any two tokens, and the
class names that are in them: the keys of objects and the words of the texts outside of their
values. Exactly these names are read back, in order and with repetitions.
-/

namespace StyleUsage.Usage

open StyleUsage.Text Stylesheet

/-! ## Tokens -/

/-- A text with a backslash before each backslash and each quote of the given kind. -/
def escapedFor (quote : Char) (s : List Char) : List Char :=
  s.flatMap fun c => if c = '\\' ∨ c = quote then ['\\', c] else [c]

/-- A text as a literal, in either quote style. -/
structure Literal where
  quote : Char
  content : List Char
  quote_isQuote : isQuote quote = true

namespace Literal

def written (l : Literal) : List Char :=
  l.quote :: (escapedFor l.quote l.content ++ [l.quote])

end Literal

/-- Letters of ASCII, word characters and dollar signs, with no number at the start. -/
structure Identifier where
  first : Char
  rest : List Char
  startsName : startsName first = true
  continuesName : rest.all continuesName = true

namespace Identifier

def written (n : Identifier) : List Char :=
  n.first :: n.rest

end Identifier

inductive Key where
  | name (n : Identifier)
  | literal (l : Literal)

namespace Key

def written : Key → List Char
  | name n => n.written
  | literal l => l.written

/-- A bare key is one name; the words of any other are the names. -/
def classes : Key → List (List Char)
  | name n => [n.written]
  | literal l => words l.content

end Key

/-- A token of a value. -/
inductive ValueToken where
  | literal (l : Literal)
  /-- A name, an operator, a question mark or a colon: anything without quotes, brackets and
  commas. -/
  | symbols (s : List Char) (inert : s.all isInert = true)

def ValueToken.written : ValueToken → List Char
  | literal l => l.written
  | symbols s _ => s

/-- An entry of an object. -/
structure Entry where
  key : Key
  value : List ValueToken

/-- Each token of the value is followed by a space. -/
def Entry.written (e : Entry) : List Char :=
  e.key.written ++ ([' ', ':', ' '] ++ e.value.flatMap fun t => t.written ++ [' '])

/-! ## Trees -/

inductive Expression where
  | literal (l : Literal)
  | name (n : Identifier)
  | choice (condition : Identifier) (yes no : Expression)
  | array (items : List Expression)
  | call (function : Identifier) (arguments : List Expression)
  | object (entries : List Entry)

/-- Entries with commas between them. -/
def writtenEntries : List Entry → List Char
  | [] => []
  | [e] => e.written
  | e :: rest => e.written ++ [',', ' '] ++ writtenEntries rest

namespace Expression

mutual

def written : Expression → List Char
  | literal l => l.written
  | name n => n.written
  | choice condition yes no =>
      condition.written ++ [' ', '?', ' '] ++ yes.written ++ [' ', ':', ' '] ++ no.written
  | array items => ['[', ' '] ++ writtenItems items ++ [']']
  | call function arguments =>
      function.written ++ [' ', '(', ' '] ++ writtenItems arguments ++ [')']
  | object entries => ['{', ' '] ++ writtenEntries entries ++ ['}']

/-- Trees with commas between them, and a space behind the last one. -/
def writtenItems : List Expression → List Char
  | [] => []
  | [e] => e.written ++ [' ']
  | e :: rest => e.written ++ [' ', ',', ' '] ++ writtenItems rest

end

mutual

/-- The class names of a tree: its keys, and the words of its texts. -/
def classes : Expression → List (List Char)
  | literal l => words l.content
  | name _ => []
  | choice _ yes no => yes.classes ++ no.classes
  | array items => classesOf items
  | call _ arguments => classesOf arguments
  | object entries => entries.flatMap (·.key.classes)

def classesOf : List Expression → List (List Char)
  | [] => []
  | e :: rest => e.classes ++ classesOf rest

end

end Expression

/-! ## Reading tokens -/

section
variable {quote : Char} {value : Bool}

theorem escapedFor_cons (quote c : Char) (s : List Char) : escapedFor quote (c :: s) =
    (if c = '\\' ∨ c = quote then ['\\', c] else [c]) ++ escapedFor quote s :=
  rfl

/-- Escaping is undone. -/
theorem unescape_escapedFor (quote : Char) (s : List Char) :
    unescape (escapedFor quote s) = s := by
  induction s with
  | nil => rfl
  | cons c s ih =>
      rw [escapedFor_cons]
      split
      case isTrue => simp [unescape, ih]
      case isFalse hc =>
          rw [not_or] at hc
          rw [List.singleton_append, unescape.eq_2 _ _ (fun _ _ heq => absurd heq hc.1), ih]

theorem quotedText_escapedFor (quote : Char) (s : List Char) :
    QuotedText quote (escapedFor quote s) := by
  induction s with
  | nil => exact .nil
  | cons c s ih =>
      rw [escapedFor_cons]
      split
      case isTrue => exact .escape c ih
      case isFalse hc =>
          rw [not_or] at hc
          exact .plain hc.2 hc.1 ih

theorem Literal.reads (l : Literal) :
    Reads value l.written (if value then [] else words l.content) := by
  have hread : Reads value l.written _ :=
    reads_quotedText l.quote_isQuote (quotedText_escapedFor l.quote l.content)
  rwa [unescape_escapedFor] at hread

theorem Identifier.continuesName_of_mem {n : Identifier} {c : Char} (h : c ∈ n.written) :
    Usage.continuesName c = true := by
  rcases List.mem_cons.1 h with rfl | h
  · exact continuesName_of_startsName n.startsName
  · exact List.all_eq_true.1 n.continuesName c h

/-- Where no key is expected, an identifier gives no name. -/
theorem Identifier.reads (n : Identifier) : Reads value n.written [] :=
  reads_of_forall fun _ hc => (isInert_of_continuesName (n.continuesName_of_mem hc)).1

theorem Key.keyText (k : Key) : KeyText k.written k.classes := by
  cases k with
  | name n => exact .name n.startsName (List.all_eq_true.1 n.continuesName)
  | literal l =>
      have hread := KeyText.quotation l.quote_isQuote (quotedText_escapedFor l.quote l.content)
      rwa [unescape_escapedFor] at hread

/-- A value gives no names. -/
theorem reads_value (tokens : List ValueToken) :
    Reads true (tokens.flatMap fun t => t.written ++ [' ']) [] := by
  induction tokens with
  | nil => exact reads_nil true
  | cons t rest ih =>
      have htoken : Reads true t.written [] := by
        cases t with
        | literal l => exact l.reads
        | symbols s inert => exact reads_of_forall (List.all_eq_true.1 inert)
      have hspace : Reads true [' '] [] := reads_inert (by decide)
      exact (htoken.append hspace).append ih

theorem Entry.reads (e : Entry) : ReadsEntries e.written e.key.classes := by
  have hvalue : Reads true (' ' :: e.value.flatMap fun t => t.written ++ [' ']) [] :=
    (reads_inert (by decide)).append (reads_value e.value)
  have hnone : AllBlank [] := fun c hc => by cases hc
  have hspace : AllBlank [' '] := fun c hc => by
    rw [List.mem_singleton.1 hc]
    decide
  have hentry := hvalue.entry hnone e.key.keyText hspace
  rwa [List.append_nil] at hentry

theorem readsEntries_written (entries : List Entry) :
    ReadsEntries (writtenEntries entries) (entries.flatMap (·.key.classes)) := by
  fun_induction writtenEntries entries with
  | case1 => exact readsEntries_nil
  | case2 e => simpa using e.reads
  | case3 e rest _ ih =>
      have hrest := e.reads.comma (ih.behind_blank (c := ' ') (by decide))
      simpa using hrest

end

/-! ## Reading trees -/

namespace Expression

mutual

/-- The induction is on how deep trees are nested, and within that on the list of trees. -/
theorem reads_written (e : Expression) : Reads false e.written e.classes := by
  cases e with
  | literal l => exact l.reads
  | name n => exact n.reads
  | choice condition yes no =>
      have hquestion : Reads false [' ', '?', ' '] [] := reads_of_forall (List.all_eq_true.1 rfl)
      have hcolon : Reads false [' ', ':', ' '] [] := reads_of_forall (List.all_eq_true.1 rfl)
      have hyes := ((condition.reads.append hquestion).append (reads_written yes)).append hcolon
      have hall := hyes.append (reads_written no)
      simpa [written, classes] using hall
  | array items =>
      have hspace : Reads false [' '] [] := reads_inert (by decide)
      have hitems : Reads false _ _ := (hspace.append (reads_writtenItems items)).enclosed .square
      simpa [written, classes, Enclosure.opening, Enclosure.closing] using hitems
  | call function arguments =>
      have hspace : Reads false [' '] [] := reads_inert (by decide)
      have harguments : Reads false _ _ :=
        (hspace.append (reads_writtenItems arguments)).enclosed .round
      have hcall := (function.reads.append hspace).append harguments
      simpa [written, classes, Enclosure.opening, Enclosure.closing] using hcall
  | object entries =>
      have hentries := (readsEntries_written entries).behind_blank (c := ' ') (by decide)
      have hobject : Reads false _ _ := hentries.braced
      simpa [written, classes] using hobject

theorem reads_writtenItems (items : List Expression) :
    Reads false (writtenItems items) (classesOf items) := by
  match items with
  | [] => exact reads_nil false
  | [e] =>
      have hspace : Reads false [' '] [] := reads_inert (by decide)
      simpa [writtenItems, classesOf] using (reads_written e).append hspace
  | e :: next :: rest =>
      have hspace : Reads false [' '] [] := reads_inert (by decide)
      have hcomma := hspace.append (reads_comma.append hspace)
      have hall := ((reads_written e).append hcomma).append (reads_writtenItems (next :: rest))
      simpa [writtenItems, classesOf] using hall

end

end Expression

/-! ## Whole expressions -/

/-- The marks of a binding that is made once, which may stand before an expression. -/
def leads : List (List Char) :=
  [[], [':', ':'], [':', ':', ' ']]

theorem isInert_of_mem_leads {lead : List Char} (h : lead ∈ leads) :
    ∀ c ∈ lead, isInert c = true := by
  have hall : ∀ lead ∈ leads, lead.all isInert = true := by decide
  exact List.all_eq_true.1 (hall lead h)

/-- Exactly the names of the tree are read in its written form, in order and with repetitions. -/
theorem expressionClasses_written (e : Expression) {lead : List Char} (hlead : lead ∈ leads) :
    expressionClasses (String.ofList (lead ++ e.written)) = e.classes.map String.ofList := by
  have hmarks : Reads false lead [] := reads_of_forall (isInert_of_mem_leads hlead)
  have hall := hmarks.append e.reads_written
  rw [List.nil_append] at hall
  exact expressionClasses_of_reads hall

/-! ### A sample with a tree of every kind -/

def sampleName (first : Char) (h : startsName first = true) : Identifier :=
  ⟨first, [], h, rfl⟩

theorem isQuote_apostrophe : isQuote '\'' = true :=
  rfl

def sampleLiteral (content : String) : Literal :=
  ⟨'\'', content.toList, isQuote_apostrophe⟩

/-- A text in a value, and colons and brackets in texts, are of no account. -/
def sampleObject : Expression :=
  .object [⟨.name (sampleName 'd' rfl), [.symbols ['p'] rfl, .symbols ['=', '='] rfl,
      .literal (sampleLiteral "no"), .symbols ['?'] rfl, .symbols ['q'] rfl,
      .symbols [':'] rfl, .symbols ['r'] rfl]⟩,
    ⟨.literal (sampleLiteral "it's [e"), [.symbols ['!', 'g'] rfl]⟩]

def sampleTree : Expression :=
  .array [.literal (sampleLiteral "a  b"),
    .choice (sampleName 'c' rfl)
      (.call (sampleName 'f' rfl) [.literal (sampleLiteral "a"), .name (sampleName 'h' rfl)])
      sampleObject]

theorem expressionClasses_written_sample :
    [':', ':'] ∈ leads ∧
    String.ofList ([':', ':'] ++ sampleTree.written) =
      "::[ 'a  b' , c ? f ( 'a' , h ) : \x7b d : p == 'no' ? q : r , 'it\\'s [e' : !g \x7d ]" ∧
    expressionClasses (String.ofList ([':', ':'] ++ sampleTree.written)) =
      ["a", "b", "a", "d", "it's", "[e"] := by
  have hlead : [':', ':'] ∈ leads := by decide
  have hclasses : sampleTree.classes.map String.ofList = ["a", "b", "a", "d", "it's", "[e"] := by
    decide +kernel
  exact ⟨hlead, by decide +kernel, (expressionClasses_written sampleTree hlead).trans hclasses⟩

end StyleUsage.Usage
