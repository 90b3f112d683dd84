import WeatherRadar.Json.Value
import WeatherRadar.Record
/-!
# Records in JSON

A record is an object with known members, or a list of the members' values in their order.
-/

namespace WeatherRadar.Json

def record? (names : List String) : Json → Option (Record Json)
  | .object members => Record.ofMembers? names members
  | .array items => Record.ofItems? names items
  | _ => none

def nullable {α : Type} (f : Json → Option α) : Json → Option (Option α)
  | .null => some none
  | value => (f value).map some

end WeatherRadar.Json
