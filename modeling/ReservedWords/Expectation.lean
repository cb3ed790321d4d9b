import ReservedWords.Defect
import ReservedWords.Text.Blank

/-!
Expectation lists: the labels that should be restricted, one a line. A number sign starts a comment;
blanks around a label and lines without one do not count.
-/

namespace ReservedWords.Expectation

/-- The label in a line: what stands before the comment, without blanks at its ends. -/
def labelOf (line : List Char) : List Char :=
  Text.trim (line.takeWhile (· ≠ '#'))

/-- The labels of a text, in order and with repetitions. -/
def labels (text : String) : List String :=
  (((Text.splitLines text.toList).map labelOf).filter (· ≠ [])).map String.ofList

/-- The labels of a file. -/
def read (tree : FileTree) (path : Path) : Except FileTree.TextError (List String) :=
  (tree.readText path.text).map labels

end ReservedWords.Expectation
