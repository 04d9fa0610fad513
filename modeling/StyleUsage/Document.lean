import StyleUsage.Text.Utf8

/-! # Documents

A stylesheet on its way through a stream. It may be an empty placeholder, and it may come as a
stream of its own, which no check accepts. -/

namespace StyleUsage

inductive Contents where
  | none
  | bytes (bytes : List UInt8)
  | text (text : String)
  | stream (text : String)
  deriving Repr, DecidableEq

structure Document where
  path : String
  contents : Contents
  deriving Repr, DecidableEq

namespace Document

def isNull (d : Document) : Bool :=
  d.contents matches .none

def isStream (d : Document) : Bool :=
  d.contents matches .stream _

/-- The text of a document whose contents are at hand; the others have an empty one. -/
def text (d : Document) : String :=
  match d.contents with
  | .bytes bytes => Text.Utf8.decode bytes
  | .text text => text
  | .none | .stream _ => ""

end Document

end StyleUsage
