/-!
# Records

A record is a value with known members, each of which is given at most once.  A file names the
members in any order, or lists their values in the order of the names.
-/

namespace WeatherRadar

/-- The values that are given for the members of a record. -/
structure Record (β : Type) where
  values : List (String × β)
  /-- Whether the values were listed in order, without names. -/
  positional : Bool

namespace Record

variable {α β : Type}

/-- The members of an object that have known names; none when one is repeated or has no readable
name. -/
def collect (names : List String) (soFar : List (String × β)) :
    List (Option String × β) → Option (List (String × β))
  | [] => some soFar.reverse
  | (none, _) :: _ => none
  | (some name, value) :: members =>
    if names.contains name then
      if soFar.any (·.1 == name) then none
      else collect names ((name, value) :: soFar) members
    else collect names soFar members

/-- The record of named members.  Those with other names are ignored. -/
def ofMembers? (names : List String) (members : List (Option String × β)) : Option (Record β) :=
  (collect names [] members).map fun values => ⟨values, false⟩

/-- The record of values in the order of their names. -/
def ofItems? (names : List String) (items : List β) : Option (Record β) :=
  if items.length ≤ names.length then some ⟨names.zip items, true⟩ else none

def get? (record : Record β) (name : String) : Option β :=
  (record.values.find? (·.1 == name)).map (·.2)

def required (record : Record β) (name : String) (f : β → Option α) : Option α :=
  (record.get? name).bind f

/-- A member that may be left out where members are named. -/
def optional (record : Record β) (name : String) (f : β → Option (Option α)) :
    Option (Option α) :=
  match record.get? name with
  | none => if record.positional then none else some none
  | some value => f value

/-- A member with a value for when it is left out. -/
def defaulted (record : Record β) (name : String) (default : α) (f : β → Option α) : Option α :=
  match record.get? name with
  | none => some default
  | some value => f value

end Record

end WeatherRadar
