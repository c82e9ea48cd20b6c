import DirectedMarkdown.Json.Parser
import DirectedMarkdown.Setting

/-!
This module contains the JSON form of settings: an object whose members are booleans, strings and
nulls.
-/

namespace DirectedMarkdown

namespace Value

def toJson : Value → Json
  | flag value => .bool value
  | text value => .text value
  | null => .null

/-- The value that a JSON value stands for. Numbers, arrays and objects are no values. -/
def ofJson? : Json → Option Value
  | .bool value => some (flag value)
  | .text value => some (text value)
  | .null => some null
  | _ => none

end Value

namespace Snapshot

/-- The settings in a JSON object. Of several members with one name the last counts. -/
def ofJson? : Json → Option Snapshot
  | .object members =>
    (members.mapM fun member => (Value.ofJson? member.2).map (member.1, ·)).map ofList
  | _ => none

/-- The settings in a JSON text. -/
def ofJsonText? (text : String) : Option Snapshot :=
  (Json.parse text).bind ofJson?

end Snapshot

end DirectedMarkdown
