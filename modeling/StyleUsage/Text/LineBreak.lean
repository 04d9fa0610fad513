/-! # Line breaks

A line of a markup file may end with a line feed, a carriage return, or the two together. Read as
text, each of them is one line feed. -/

namespace StyleUsage.Text

/-- A text in which every line ends with a line feed. -/
def unifyLineBreaks : List Char → List Char
  | [] => []
  | '\r' :: '\n' :: rest => '\n' :: unifyLineBreaks rest
  | c :: rest => (if c = '\r' then '\n' else c) :: unifyLineBreaks rest

end StyleUsage.Text
