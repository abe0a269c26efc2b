import CompilerFront.Invocation.Resolution
import CompilerFront.Text.Json

/-!
Contract: what a backend is asked to build, and the line of text that asks it.

Owns:
- `Request`, made from an invocation and its mode;
- `Request.text`, a record whose absent fields are left out, and `Request.payload`, its one line.
-/

namespace CompilerFront

structure Request where
  fileName : Option String := none
  configPath : Option String := none
  projectNames : List String := []
  mode : Option Mode := none
  suppressLog : Bool := false
deriving DecidableEq, Repr

def Invocation.request (invocation : Invocation) (mode : Mode) : Request where
  fileName := invocation.files.head?
  configPath := invocation.config
  projectNames := invocation.projects
  mode := mode.selector
  suppressLog := invocation.quiet

def Mode.name : Mode → String
  | .default => "default"
  | .checkOnly => "checkOnly"
  | .funcOnly => "funcOnly"
  | .fullWithDecompilation => "fullWithDecompilation"

namespace Request

open Text

/-- A field that is left out when there is no value for it. -/
def optionalField (name : String) (value : Option String) : List (List Char) :=
  match value with
  | some text => [Json.field name (Json.string text.toList)]
  | none => []

def flagText (flag : Bool) : List Char :=
  if flag then "true".toList else "false".toList

def characters (request : Request) : List Char :=
  Json.object
    (optionalField "fileName" request.fileName ++
      (optionalField "configPath" request.configPath ++
        [Json.field "projectNames"
            (Json.array (request.projectNames.map fun name => Json.string name.toList)),
          Json.field "additionalCliOptions"
            (Json.object (optionalField "mode" (request.mode.map Mode.name))),
          Json.field "suppressLog" (flagText request.suppressLog)]))

def text (request : Request) : String := String.ofList request.characters

/-- What a backend is given to read: the record as one line. -/
def payload (request : Request) : List Char := request.characters ++ ['\n']

end Request

end CompilerFront
