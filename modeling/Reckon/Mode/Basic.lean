import Reckon.Json.Spelling
import Reckon.Text.Lowercase

/-
The two modes of the calculator, and their names.
-/
namespace Reckon
open Text

/-- A mode: which functions may be used. -/
inductive Mode where
  | standard
  | scientific
  deriving DecidableEq, Inhabited

namespace Mode

def name : Mode → String
  | .standard => "Standard"
  | .scientific => "Scientific"

/-- The mode that a text names, whatever its case and the white space around it. -/
def ofText? (s : List Char) : Option Mode :=
  let word := lowercase (trim s)
  if word = lowercase standard.name.toList then some .standard
  else if word = lowercase scientific.name.toList then some .scientific
  else none

/-- The mode that a value names. -/
def ofJson? (v : Json) : Option Mode := ofText? v.asText

end Mode

end Reckon
