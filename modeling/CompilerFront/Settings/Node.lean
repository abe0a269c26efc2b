import CompilerFront.Decimal.Shortest
import CompilerFront.Text.Quoted

/-!
Contract: the values of a settings document.

Owns:
- `Node`, a value of any type, with the fields of tables in the order of the document;
- how the type of a value is named in error texts.
-/

namespace CompilerFront.Settings

inductive Node where
  | string (text : String)
  | integer (number : Int)
  | float (number : Decimal.Double)
  | boolean (truth : Bool)
  | dateTime
  | array (elements : List Node)
  | table (fields : List (String × Node))
deriving Repr

abbrev Fields : Type := List (String × Node)

/-- How a value is named where another type is expected. -/
def Node.description : Node → String
  | .string text => s!"string {Text.quoted text}"
  | .integer number => s!"integer `{number}`"
  | .float number => s!"floating point `{number.text}`"
  | .boolean truth => s!"boolean `{truth}`"
  | .dateTime => "map"
  | .array _ => "sequence"
  | .table _ => "map"

end CompilerFront.Settings
