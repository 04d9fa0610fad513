import StyleUsage.Markup.Scan

/-!
# Written markup

Trees of elements and texts as they are written down in markup. A value stands between double
quotes, and a character that would be taken for the end of a text or a value is written as a
reference.
-/

namespace StyleUsage.Markup

open StyleUsage.Text

/-! ## Escapes -/

/-- The reference to the character that a name stands for. -/
def namedReference (name : String) : List Char :=
  '&' :: (name.toList ++ [';'])

/-- A text with references for its ampersands and for one further character. -/
def escaped (special : Char) (name : String) (s : List Char) : List Char :=
  s.flatMap fun c =>
    if c = '&' then namedReference "amp"
    else if c = special then namedReference name
    else [c]

/-- A text as it is written between tags. -/
def writtenText (s : String) : List Char :=
  escaped '<' "lt" s.toList

/-- A value as it is written between double quotes. -/
def writtenValue (s : String) : List Char :=
  escaped '"' "quot" s.toList

/-! ## Tags -/

/-- A character that may stand in a written name of an attribute. -/
def inWrittenAttribute (c : Char) : Bool :=
  !isBlank c && !(['"', '\'', '/', '=', '<', '>'].contains c)

/-- An attribute as it is written. -/
structure WrittenAttribute where
  name : String
  value : Option String
  name_ne : name ≠ ""
  inName : name.toList.all inWrittenAttribute = true

namespace WrittenAttribute

/-- The name of the attribute, in whatever letter case it is written. -/
def key (a : WrittenAttribute) : String :=
  lowercaseText a.name

/-- The value of the attribute, which is empty if none is written. -/
def content (a : WrittenAttribute) : String :=
  a.value.getD ""

def entry (a : WrittenAttribute) : String × String :=
  (a.key, a.content)

/-- What is written behind the name of an attribute. -/
def writtenContent : Option String → List Char
  | none => []
  | some value => '=' :: '"' :: (writtenValue value ++ ['"'])

def written (a : WrittenAttribute) : List Char :=
  a.name.toList ++ writtenContent a.value

end WrittenAttribute

/-- Attributes as they are written behind the name of an element. -/
def writtenAll (attributes : List WrittenAttribute) : List Char :=
  attributes.flatMap fun a => ' ' :: a.written

def inElementName (c : Char) : Bool :=
  c.isLower || c.isDigit || c = '-'

/-- The name of an element, which starts with a letter. -/
def isElementName (s : String) : Bool :=
  s.toList.head?.any Char.isLower && s.toList.all inElementName

/-- An element without its content. No two of its attributes have the same name. -/
structure Element where
  name : String
  attributes : List WrittenAttribute
  isName : isElementName name = true
  notRaw : isRaw name = false
  distinct : (attributes.map (·.key)).Nodup

namespace Element

def opening (e : Element) : List Char :=
  '<' :: (e.name.toList ++ (writtenAll e.attributes ++ ['>']))

def closing (e : Element) : List Char :=
  '<' :: '/' :: (e.name.toList ++ ['>'])

/-- The tag that opens the element. -/
def tag (e : Element) : Tag where
  name := e.name
  attributes := e.attributes.map (·.entry)

end Element

/-! ## Trees -/

inductive Node where
  | text (text : String)
  | element (e : Element) (children : List Node)

namespace Node

mutual

def written : Node → List Char
  | text s => writtenText s
  | element e children => e.opening ++ (writtenForest children ++ e.closing)

/-- Some nodes one after the other, as they are written. -/
def writtenForest : List Node → List Char
  | [] => []
  | node :: rest => node.written ++ writtenForest rest

end

mutual

/-- The elements of a tree, each before those that are inside it. -/
def elements : Node → List Element
  | text _ => []
  | element e children => e :: elementsOf children

/-- The elements of some trees, in the same order. -/
def elementsOf : List Node → List Element
  | [] => []
  | node :: rest => node.elements ++ elementsOf rest

end

end Node

end StyleUsage.Markup
