import BoxOffice.Number.Double

/-! JSON values. An object keeps its members in written order, repeated names included, since
readers differ in what they make of a repetition. -/

namespace BoxOffice

inductive Json where
  | null
  | bool (b : Bool)
  /-- A number written without point and exponent, in the range of 64 bits with or without sign. -/
  | integer (n : Int)
  | real (x : Number.Double)
  | string (s : String)
  | array (items : List Json)
  | object (members : List (String × Json))
  /-- A scalar that stands in the text but cannot be taken in: a number past the range of a
  double, or a string that is not Unicode text. A reader that skips it does not notice. -/
  | unreadable
  /-- An object with a name that is not Unicode text; only the members before that name are kept.
  A reader that skips it does not notice. -/
  | misnamed (before : List (String × Json))
deriving Inhabited

namespace Json

mutual

/-- How deep containers are nested. -/
def depth : Json → Nat
  | .array items => depthOfItems items + 1
  | .object members | .misnamed members => depthOfMembers members + 1
  | _ => 0
termination_by structural j => j

def depthOfItems : List Json → Nat
  | [] => 0
  | j :: rest => max j.depth (depthOfItems rest)
termination_by structural js => js

def depthOfMembers : List (String × Json) → Nat
  | [] => 0
  | (_, j) :: rest => max j.depth (depthOfMembers rest)
termination_by structural ms => ms

end

mutual

/-- Whether every scalar and every name in the value can be taken in. -/
def isReadable : Json → Bool
  | .array items => readableItems items
  | .object members => readableMembers members
  | .unreadable | .misnamed _ => false
  | _ => true
termination_by structural j => j

def readableItems : List Json → Bool
  | [] => true
  | j :: rest => j.isReadable && readableItems rest
termination_by structural js => js

def readableMembers : List (String × Json) → Bool
  | [] => true
  | (_, j) :: rest => j.isReadable && readableMembers rest
termination_by structural ms => ms

end

/-- The deepest nesting that a reader keeps. -/
def deepest : Nat := 127

/-- Whether the value can be kept whole before its shape is known. -/
def canBeKept (j : Json) : Bool := j.isReadable && j.depth ≤ deepest

/-- The member that counts where a repetition replaces what stood before. -/
def member? (members : List (String × Json)) (name : String) : Option Json :=
  (members.reverse.find? (·.1 == name)).map (·.2)

def ofNat (n : Nat) : Json := .integer n

/-- A value that may be absent, which is written as null. -/
def ofOption {α : Type} (f : α → Json) : Option α → Json
  | none => .null
  | some a => f a

end Json

end BoxOffice
