import Mathlib.Data.List.Basic
import StyleUsage.Proofs.Usage.Expressions

/-!
# The values of objects

Class expressions of any layout, whose values may hold calls, lists and further objects. In a value
no text counts that stands there by itself; the texts in round and square brackets within it count,
and so do the keys of objects within it. A value is of no account, so that a variable might stand in
its place, exactly if there are none of these.
-/

namespace StyleUsage.Usage

open StyleUsage.Text Stylesheet

/-! ## Expressions of any layout -/

/-- A text in quotes, as it is written. -/
structure Quotation where
  quote : Char
  body : List Char
  quote_isQuote : isQuote quote = true
  body_isQuoted : QuotedText quote body

def Quotation.written (q : Quotation) : List Char :=
  q.quote :: (q.body ++ [q.quote])

inductive FieldKey where
  | name (n : Identifier)
  | quotation (q : Quotation)

namespace FieldKey

def written : FieldKey → List Char
  | name n => n.written
  | quotation q => q.written

def names : FieldKey → List (List Char)
  | name n => [n.written]
  | quotation q => words (unescape q.body)

end FieldKey

/-- A key with the blanks around it. -/
structure Label where
  pre : List Char
  key : FieldKey
  post : List Char
  pre_blank : AllBlank pre
  post_blank : AllBlank post

def Label.written (l : Label) : List Char :=
  l.pre ++ (l.key.written ++ l.post)

mutual

/-- A text in which quotations end, brackets match and braces hold fields. Every expression is one,
whatever its operators and its layout are. -/
inductive Phrase where
  /-- Names, numbers, operators, colons and blanks. -/
  | plain (s : List Char) (inert : s.all isInert = true)
  | quotation (q : Quotation)
  | enclosed (e : Enclosure) (items : List Phrase)
  /-- A comma may follow the last field. -/
  | object (fields : List Field) (finish : List Char)
      (finish_blank : finish.all (fun c => c = ',' || isBlank c) = true)
  | append (first second : Phrase)

inductive Field where
  | mk (label : Label) (value : Phrase)

end

mutual

def Phrase.written : Phrase → List Char
  | .plain s _ => s
  | .quotation q => q.written
  | .enclosed e items => e.opening :: (writtenPhrases items ++ [e.closing])
  | .object fields finish _ => '{' :: (writtenFields fields ++ finish ++ ['}'])
  | .append first second => first.written ++ second.written

def Field.written : Field → List Char
  | .mk label value => label.written ++ ':' :: value.written

/-- Phrases with commas between them. -/
def writtenPhrases : List Phrase → List Char
  | [] => []
  | [p] => p.written
  | p :: rest => p.written ++ ',' :: writtenPhrases rest

/-- Fields with commas between them. -/
def writtenFields : List Field → List Char
  | [] => []
  | [f] => f.written
  | f :: rest => f.written ++ ',' :: writtenFields rest

end

mutual

/-- The class names that count in a phrase, which is a value or part of one if `inValue` is on. A
text counts outside of values; brackets that are no braces end a value for what is in them. -/
def Phrase.names (inValue : Bool) : Phrase → List (List Char)
  | .plain _ _ => []
  | .quotation q => if inValue then [] else words (unescape q.body)
  | .enclosed _ items => namesOfPhrases items
  | .object fields _ _ => namesOfFields fields
  | .append first second => first.names inValue ++ second.names inValue

def Field.names : Field → List (List Char)
  | .mk label value => label.key.names ++ value.names true

def namesOfPhrases : List Phrase → List (List Char)
  | [] => []
  | p :: rest => p.names false ++ namesOfPhrases rest

def namesOfFields : List Field → List (List Char)
  | [] => []
  | f :: rest => f.names ++ namesOfFields rest

end

/-! ## Reading them -/

section
variable {value : Bool} {p q old new : Phrase}

theorem Quotation.reads (q : Quotation) :
    Reads value q.written (if value then [] else words (unescape q.body)) :=
  reads_quotedText q.quote_isQuote q.body_isQuoted

theorem FieldKey.keyText (k : FieldKey) : KeyText k.written k.names := by
  cases k with
  | name n => exact .name n.startsName (List.all_eq_true.1 n.continuesName)
  | quotation q => exact .quotation q.quote_isQuote q.body_isQuoted

mutual

/-- The induction is on how deep brackets are nested, and within that on the lists in them. -/
theorem Phrase.reads (value : Bool) (p : Phrase) : Reads value p.written (p.names value) := by
  cases p with
  | plain s inert => exact reads_of_forall (List.all_eq_true.1 inert)
  | quotation q => exact q.reads
  | enclosed e items => exact (reads_phrases items).enclosed e
  | object fields finish finish_blank =>
      have hfinish (c : Char) (hc : c ∈ finish) : c = ',' ∨ isBlank c = true := by
        simpa using List.all_eq_true.1 finish_blank c hc
      exact ((readsEntries_fields fields).append hfinish).braced
  | append first second => exact (Phrase.reads value first).append (Phrase.reads value second)

theorem Field.reads (f : Field) : ReadsEntries f.written f.names := by
  cases f with
  | mk label value =>
      have hentry :=
        (Phrase.reads true value).entry label.pre_blank label.key.keyText label.post_blank
      simpa [Field.written, Label.written, Field.names] using hentry

theorem reads_phrases (items : List Phrase) :
    Reads false (writtenPhrases items) (namesOfPhrases items) := by
  match items with
  | [] => exact reads_nil false
  | [p] => simpa [writtenPhrases, namesOfPhrases] using Phrase.reads false p
  | p :: next :: rest =>
      exact (Phrase.reads false p).append (reads_comma.append (reads_phrases (next :: rest)))

theorem readsEntries_fields (fields : List Field) :
    ReadsEntries (writtenFields fields) (namesOfFields fields) := by
  match fields with
  | [] => exact readsEntries_nil
  | [f] => simpa [writtenFields, namesOfFields] using Field.reads f
  | f :: next :: rest => exact (Field.reads f).comma (readsEntries_fields (next :: rest))

end

/-! ## Exchanging a value -/

/-- Two phrases are the same but for the value of one field, at whatever depth. -/
inductive Exchanges (old new : Phrase) : Phrase → Phrase → Prop where
  | value (before after : List Field) (label : Label) {finish : List Char}
      (finish_blank : finish.all (fun c => c = ',' || isBlank c) = true) :
      Exchanges old new (.object (before ++ .mk label old :: after) finish finish_blank)
        (.object (before ++ .mk label new :: after) finish finish_blank)
  | inValue (before after : List Field) (label : Label) {finish : List Char}
      (finish_blank : finish.all (fun c => c = ',' || isBlank c) = true) {p q : Phrase}
      (h : Exchanges old new p q) :
      Exchanges old new (.object (before ++ .mk label p :: after) finish finish_blank)
        (.object (before ++ .mk label q :: after) finish finish_blank)
  | inItem (e : Enclosure) (before after : List Phrase) {p q : Phrase}
      (h : Exchanges old new p q) :
      Exchanges old new (.enclosed e (before ++ p :: after)) (.enclosed e (before ++ q :: after))
  | inFirst (second : Phrase) {p q : Phrase} (h : Exchanges old new p q) :
      Exchanges old new (.append p second) (.append q second)
  | inSecond (first : Phrase) {p q : Phrase} (h : Exchanges old new p q) :
      Exchanges old new (.append first p) (.append first q)

theorem namesOfPhrases_append (items more : List Phrase) :
    namesOfPhrases (items ++ more) = namesOfPhrases items ++ namesOfPhrases more := by
  induction items with
  | nil => rfl
  | cons p rest ih => rw [List.cons_append, namesOfPhrases, ih, namesOfPhrases, List.append_assoc]

theorem namesOfFields_append (fields more : List Field) :
    namesOfFields (fields ++ more) = namesOfFields fields ++ namesOfFields more := by
  induction fields with
  | nil => rfl
  | cons f rest ih => rw [List.cons_append, namesOfFields, ih, namesOfFields, List.append_assoc]

/-- All that changes among the names are those of the value. -/
theorem Exchanges.exists_names (h : Exchanges old new p q) (value : Bool) :
    ∃ before after, p.names value = before ++ (old.names true ++ after) ∧
      q.names value = before ++ (new.names true ++ after) := by
  induction h generalizing value with
  | value before after label =>
      refine ⟨namesOfFields before ++ label.key.names, namesOfFields after, ?_, ?_⟩
      · simp [Phrase.names, Field.names, namesOfFields, namesOfFields_append]
      · simp [Phrase.names, Field.names, namesOfFields, namesOfFields_append]
  | inValue before after label finish_blank _ ih =>
      obtain ⟨a, b, hp, hq⟩ := ih true
      refine ⟨namesOfFields before ++ (label.key.names ++ a), b ++ namesOfFields after, ?_, ?_⟩
      · simp [Phrase.names, Field.names, namesOfFields, namesOfFields_append, hp]
      · simp [Phrase.names, Field.names, namesOfFields, namesOfFields_append, hq]
  | inItem e before after _ ih =>
      obtain ⟨a, b, hp, hq⟩ := ih false
      refine ⟨namesOfPhrases before ++ a, b ++ namesOfPhrases after, ?_, ?_⟩
      · simp [Phrase.names, namesOfPhrases, namesOfPhrases_append, hp]
      · simp [Phrase.names, namesOfPhrases, namesOfPhrases_append, hq]
  | inFirst second _ ih =>
      obtain ⟨a, b, hp, hq⟩ := ih value
      exact ⟨a, b ++ second.names value, by simp [Phrase.names, hp], by simp [Phrase.names, hq]⟩
  | inSecond first _ ih =>
      obtain ⟨a, b, hp, hq⟩ := ih value
      exact ⟨first.names value ++ a, b, by simp [Phrase.names, hp], by simp [Phrase.names, hq]⟩

theorem expressionClasses_phrase (p : Phrase) :
    expressionClasses (String.ofList p.written) = (p.names false).map String.ofList :=
  expressionClasses_of_reads (p.reads false)

/-- The variable that stands in the place of a value. -/
def variableX : Phrase :=
  .plain ['x'] rfl

/-- A variable may stand in the place of a value without any difference exactly if no names count
in the value. -/
theorem expressionClasses_exchange_iff (h : Exchanges old variableX p q) :
    expressionClasses (String.ofList p.written) = expressionClasses (String.ofList q.written) ↔
      old.names true = [] := by
  obtain ⟨before, after, hp, hq⟩ := h.exists_names false
  have hnone : variableX.names true = [] := rfl
  have hinjective : Function.Injective String.ofList := fun _ _ => String.ofList_inj.1
  rw [expressionClasses_phrase, expressionClasses_phrase, hp, hq, hnone,
    (List.map_injective_iff.2 hinjective).eq_iff]
  simp

end

/-! ### Objects with one field -/

def sampleQuotation (body : List Char) (h : QuotedText '\'' body) : Quotation :=
  ⟨'\'', body, isQuote_apostrophe, h⟩

/-- The object with the key `a` and the given value. -/
def objectOf (value : Phrase) : Phrase :=
  .object [.mk ⟨[], .quotation (sampleQuotation ['a'] (.plain (by decide) (by decide) .nil)), [],
    nofun, nofun⟩ value] [] rfl

theorem exchanges_objectOf (old new : Phrase) : Exchanges old new (objectOf old) (objectOf new) :=
  .value [] [] _ rfl

/-- The text `b`, as it is written. -/
def quotedB : Phrase :=
  .quotation (sampleQuotation ['b'] (.plain (by decide) (by decide) .nil))

/-- A text by itself, and brackets without any text in them. -/
def plainValue : Phrase :=
  .append (.append (.plain [' ', 'm', '=', '='] rfl) quotedB)
    (.append (.plain ['&', '&', 'f'] rfl) (.enclosed .round [.plain ['y'] rfl, .plain ['z'] rfl]))

theorem expressionClasses_exchange_iff_sample :
    Exchanges plainValue variableX (objectOf plainValue) (objectOf variableX) ∧
    String.ofList (objectOf plainValue).written = "\x7b'a': m=='b'&&f(y,z)\x7d" ∧
    plainValue.names true = [] ∧
    expressionClasses (String.ofList (objectOf plainValue).written) =
      expressionClasses (String.ofList (objectOf variableX).written) := by
  have hexchanges := exchanges_objectOf plainValue variableX
  have hnames : plainValue.names true = [] := by decide
  exact ⟨hexchanges, by decide +kernel, hnames,
    (expressionClasses_exchange_iff hexchanges).2 hnames⟩

/-- A call with a text. -/
def callValue : Phrase :=
  .append (.plain [' ', 'f'] rfl) (.enclosed .round [quotedB])

/-- The text of a call counts, although the call is a value. -/
theorem text_of_call_counts :
    Exchanges callValue variableX (objectOf callValue) (objectOf variableX) ∧
    String.ofList (objectOf callValue).written = "\x7b'a': f('b')\x7d" ∧
    String.ofList (objectOf variableX).written = "\x7b'a':x\x7d" ∧
    expressionClasses "\x7b'a': f('b')\x7d" = ["a", "b"] ∧
    expressionClasses "\x7b'a':x\x7d" = ["a"] :=
  ⟨exchanges_objectOf callValue variableX, by decide +kernel, by decide +kernel,
    by decide +kernel, by decide +kernel⟩

end StyleUsage.Usage
