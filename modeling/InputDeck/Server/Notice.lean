import InputDeck.Editor.Diagnostic

/-!
# What a server tells its client
-/

namespace InputDeck.Server

open InputDeck.Editor

inductive Level where
  | error
  | warning
  | info
  deriving DecidableEq, Repr

inductive Notice where
  | log (level : Level) (text : String)
  /-- A message that the user gets to see. -/
  | alert (level : Level) (text : String)
  /-- The diagnostics of a document, in place of those published before. -/
  | publish (uri : String) (diagnostics : List Diagnostic) (version : Option Int)
  /-- The hints of all documents are to be asked for again. -/
  | refreshHints

end InputDeck.Server
