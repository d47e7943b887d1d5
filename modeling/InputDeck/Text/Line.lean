import InputDeck.Text.Search

/-!
# Lines of a text

Files are read line by line, each line ending at a line feed and losing one carriage return before
it. Open documents also break at a carriage return alone.
-/

namespace InputDeck.Text

def dropReturn (cs : List Char) : List Char :=
  if cs.getLast? == some '\r' then cs.dropLast else cs

def linesWithFeed : List Char → List (List Char)
  | [] => []
  | '\n' :: cs => ['\n'] :: linesWithFeed cs
  | c :: cs => consFirst c (linesWithFeed cs)

/-- A line without the line feed, and the carriage return before it, that end it. -/
def withoutFeed (line : List Char) : List Char :=
  if line.getLast? == some '\n' then dropReturn line.dropLast else line

/-- The lines of a file. A line feed at the very end starts no further line. -/
def fileLines (s : String) : List String :=
  (linesWithFeed s.toList).map fun line => String.ofList (withoutFeed line)

/-- The lines of an open document: it breaks at LF, at CR LF and at CR, and what follows the last
break is a line even if it is empty. -/
def documentLines : List Char → List (List Char)
  | [] => [[]]
  | '\r' :: '\n' :: cs => [] :: documentLines cs
  | '\r' :: cs => [] :: documentLines cs
  | '\n' :: cs => [] :: documentLines cs
  | c :: cs => consFirst c (documentLines cs)

theorem documentLines_ne_nil (cs : List Char) : documentLines cs ≠ [] := by
  fun_cases documentLines cs <;> simp [consFirst_ne_nil]

end InputDeck.Text
