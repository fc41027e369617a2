import BoxOffice.Text.Blank
import BoxOffice.Text.Numeral

/-! Major versions of the protocol: which one two sides agree on, and the list of those
supported. -/

namespace BoxOffice.Protocol

/-- The highest version that both sides speak. -/
def negotiate (ours theirs : List UInt32) : Option UInt32 :=
  (ours.filter theirs.contains).foldl
    (fun best v => some (match best with
      | some b => if b ≤ v then v else b
      | none => v)) none

/-- Put a version in its place in a strictly falling list. -/
def insertVersion (v : UInt32) : List UInt32 → List UInt32
  | [] => [v]
  | w :: rest =>
    if v = w then w :: rest
    else if w < v then v :: w :: rest
    else w :: insertVersion v rest

/-- The versions in falling order, each once. -/
def sortVersions (vs : List UInt32) : List UInt32 := vs.foldr insertVersion []

/-- The parts of a text between commas. -/
def splitCommas (cs : List Char) : List (List Char) :=
  cs.foldr (fun c parts => match c, parts with
    | ',', _ => [] :: parts
    | _, [] => [[c]]
    | _, part :: rest => (c :: part) :: rest) [[]]

/-- Read a list such as "1, 0"; one entry that is not a version spoils it. -/
def parseVersions (s : String) : Option (List UInt32) :=
  ((splitCommas s.toList).mapM fun part => Text.readU32 (Text.trim part)).map sortVersions

end BoxOffice.Protocol
