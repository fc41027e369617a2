import BoxOffice.Json.Basic

/-! The strings within a value, names of members aside. -/

namespace BoxOffice.Json

mutual

/-- The strings in the order of the text. -/
def texts : Json → List String
  | .string s => [s]
  | .array items => textsOfItems items
  | .object members => textsOfMembers members
  | _ => []
termination_by structural j => j

def textsOfItems : List Json → List String
  | [] => []
  | j :: rest => j.texts ++ textsOfItems rest
termination_by structural js => js

def textsOfMembers : List (String × Json) → List String
  | [] => []
  | (_, j) :: rest => j.texts ++ textsOfMembers rest
termination_by structural ms => ms

end

mutual

def mapTexts (f : String → String) : Json → Json
  | .string s => .string (f s)
  | .array items => .array (mapTextsOfItems f items)
  | .object members => .object (mapTextsOfMembers f members)
  | j => j
termination_by structural j => j

def mapTextsOfItems (f : String → String) : List Json → List Json
  | [] => []
  | j :: rest => j.mapTexts f :: mapTextsOfItems f rest
termination_by structural js => js

def mapTextsOfMembers (f : String → String) : List (String × Json) → List (String × Json)
  | [] => []
  | (k, j) :: rest => (k, j.mapTexts f) :: mapTextsOfMembers f rest
termination_by structural ms => ms

end

end BoxOffice.Json
