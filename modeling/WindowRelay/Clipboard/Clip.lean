/-!
Contract: what the clipboard of the host holds.

Owns:
- clips and their items.

Does not own: how a clip is classified and reported (`Clipboard.Report`).
-/

namespace WindowRelay

/-- One item of a clip. -/
structure ClipItem where
  text : Option String := none
  /-- the text carries style spans -/
  spanned : Bool := false
  html : Option String := none
  uri : Option String := none
  hasIntent : Bool := false
deriving DecidableEq, Repr

/-- A clip of the host. -/
structure Clip where
  label : String
  mimeTypes : List String := []
  items : List ClipItem := []
deriving DecidableEq, Repr

end WindowRelay
