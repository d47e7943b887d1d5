import InputDeck.Catalog.Basic
import InputDeck.Json.Basic

/-!
# Highlighting grammar

The TextMate grammar with which editors highlight an input deck. Its variables are those of a
catalog; its constants and functions are the ones that make a value an expression.
-/

namespace InputDeck.Highlighting

def isPatternMark (c : Char) : Bool :=
  ['\\', '.', '+', '*', '?', '(', ')', '|', '[', ']', '{', '}', '^', '$', '#', '&', '-',
    '~'].contains c

def escapeChar (c : Char) : List Char :=
  if isPatternMark c then ['\\', c] else [c]

def escape (cs : List Char) : List Char :=
  cs.flatMap escapeChar

/-- A pattern that matches any of the words. -/
def alternation (words : List String) : String :=
  String.ofList (['|'].intercalate (words.map fun w => escape w.toList))

/-- Longer names come first; of two equally long ones, in bytes, the lesser one. -/
def precedes (a b : String) : Bool :=
  b.utf8ByteSize < a.utf8ByteSize || (a.utf8ByteSize == b.utf8ByteSize && a ≤ b)

/-- The names of a catalog, so ordered that none hides behind one of its own beginnings. -/
def orderedNames (c : Catalog) : List String :=
  (c.toList.map Variable.name).mergeSort precedes

def pattern (name match_ : String) : Json :=
  .object [("match", .string match_), ("name", .string name)]

def patterns (items : List Json) : Json :=
  .object [("patterns", .array items)]

def delimited (name delimiter : String) : Json :=
  .object [("begin", .string delimiter), ("end", .string delimiter), ("name", .string name)]

def includeRef (name : String) : Json :=
  .object [("include", .string ("#" ++ name))]

def wordPattern (words : List String) (tail : String) : String :=
  "(?i)\\b(" ++ alternation words ++ ")" ++ tail

def grammar (c : Catalog) : Json :=
  .object
    [("$schema", .string
      "https://raw.githubusercontent.com/martinring/tmlanguage/master/tmlanguage.json"),
     ("name", .string "Octopus"),
     ("patterns", .array (["comments", "blocks", "variables", "functions", "constants", "strings",
       "numbers", "operators"].map includeRef)),
     ("repository", .object
       [("blocks", patterns
          [pattern "keyword.control.block.begin.octopus" "^\\s*%[A-Za-z][A-Za-z0-9_]*\\s*$",
           pattern "keyword.control.block.end.octopus" "^\\s*%\\s*$"]),
        ("comments", patterns [pattern "comment.line.number-sign.octopus" "#.*$"]),
        ("constants", patterns
          [pattern "constant.language.octopus" (wordPattern Expression.constants "\\b")]),
        ("functions", patterns
          [pattern "support.function.math.octopus"
            (wordPattern Expression.functions "(?=\\s*\\()")]),
        ("numbers", patterns
          [pattern "constant.numeric.octopus" "\\b[0-9]+(\\.[0-9]*)?([eE][+-]?[0-9]+)?\\b"]),
        ("operators", patterns [pattern "keyword.operator.octopus" "[+\\-*/^=|]"]),
        ("strings", patterns
          [delimited "string.quoted.double.octopus" "\"",
           delimited "string.quoted.single.octopus" "'"]),
        ("variables", patterns
          [pattern "variable.parameter.octopus" (wordPattern (orderedNames c) "\\b")])]),
     ("scopeName", .string "source.octopus")]

end InputDeck.Highlighting
