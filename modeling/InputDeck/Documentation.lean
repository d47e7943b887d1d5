import InputDeck.Text.Blank
import InputDeck.Text.Lowercase

/-!
# Links to the online documentation
-/

namespace InputDeck.Documentation

open InputDeck.Text

def baseUrl : String :=
  "https://octopus-code.org/documentation"

/-- Each pair of colons becomes a slash, from the left. -/
def slashed : List Char → List Char
  | [] => []
  | ':' :: ':' :: cs => '/' :: slashed cs
  | c :: cs => c :: slashed cs

def majorVersion (version : String) : String :=
  String.ofList (version.toList.takeWhile (· != '.'))

/-- A section as part of a link: slashes between its levels, lower case, and a low line for each
run of blanks. -/
def sectionPath (section_ : String) : String :=
  "_".intercalate ((words (lowercase (slashed section_.toList))).map String.ofList)

/-- The page of a variable; there is none without a section and a name. -/
def link? (version section_ name : String) : Option String :=
  if isBlankText section_ || isBlankText name then none
  else some (baseUrl ++ "/" ++ majorVersion version ++ "/variables/" ++ sectionPath section_ ++
    "/" ++ lowercased name ++ "/")

end InputDeck.Documentation
