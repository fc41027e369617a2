import BoxOffice.Text.Utf8

/-! Percent escapes in paths, and the form of queries: names and values between ampersands, with a
plus sign for a blank. -/

namespace BoxOffice.Text

/-- Replace every escape by its byte; a percent sign that begins none stays. -/
def unescapePercent : Bytes → Bytes
  | 0x25 :: a :: b :: rest =>
    match hexValue (Char.ofNat a.toNat), hexValue (Char.ofNat b.toNat) with
    | some high, some low => UInt8.ofNat (16 * high + low) :: unescapePercent rest
    | _, _ => 0x25 :: unescapePercent (a :: b :: rest)
  | b :: rest => b :: unescapePercent rest
  | [] => []

/-- A segment of a path as text, if it is text. -/
def unescapeSegment (cs : List Char) : Option String :=
  (decodeUtf8 (unescapePercent (encodeUtf8 (String.ofList cs)))).map String.ofList

/-- A name or a value of a query; what is not text is replaced. -/
def unescapeForm (cs : List Char) : String :=
  let blanks := cs.map fun c => if c = '+' then ' ' else c
  String.ofList (decodeLossy (unescapePercent (encodeUtf8 (String.ofList blanks))))

/-- Cut at the first occurrence of a character. -/
def cutAt (c : Char) (cs : List Char) : List Char × Option (List Char) :=
  match cs.span (· != c) with
  | (before, _ :: after) => (before, some after)
  | (before, []) => (before, none)

/-- The parts between occurrences of a character. -/
def splitAt (c : Char) (cs : List Char) : List (List Char) :=
  cs.foldr (fun d parts => match parts with
    | [] => [[d]]
    | part :: rest => if d = c then [] :: part :: rest else (d :: part) :: rest) [[]]

/-- The names and values of a query. -/
def readForm (cs : List Char) : List (String × String) :=
  ((splitAt '&' cs).filter (!·.isEmpty)).map fun part =>
    let (name, value) := cutAt '=' part
    (unescapeForm name, unescapeForm (value.getD []))

end BoxOffice.Text
