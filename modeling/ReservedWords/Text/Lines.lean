/-!
Line endings. A file is read with every ending turned into a line feed (`normalizeNewlines`); a list
of labels is then cut at every line boundary (`splitLines`), of which the line feed is only one.
-/

namespace ReservedWords.Text

/-- A carriage return, alone or before a line feed, reads as a line feed. -/
def normalizeNewlines : List Char → List Char
  | [] => []
  | '\r' :: '\n' :: rest => '\n' :: normalizeNewlines rest
  | c :: rest => (if c = '\r' then '\n' else c) :: normalizeNewlines rest

/-- The characters that end a line: the line and page controls, three of the information
separators, and the line and paragraph separators. -/
def isLineBoundary (c : Char) : Bool :=
  c = '\n' || c = '\r' || c = '\x0b' || c = '\x0c' || c = '\x1c' || c = '\x1d' || c = '\x1e'
    || c = '\x85' || c = '\u2028' || c = '\u2029'

/-- Adds a character to the first of the lines that follow it. -/
def extendFirst (c : Char) : List (List Char) → List (List Char)
  | [] => [[c]]
  | line :: lines => (c :: line) :: lines

/-- The lines of a text without their boundaries. A boundary at the very end starts no line, and a
carriage return with its line feed is one boundary. -/
def splitLines : List Char → List (List Char)
  | [] => []
  | '\r' :: '\n' :: rest => [] :: splitLines rest
  | c :: rest => if isLineBoundary c then [] :: splitLines rest else extendFirst c (splitLines rest)

end ReservedWords.Text
