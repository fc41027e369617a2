import BoxOffice.Json.Basic
import BoxOffice.Text.Numeral
import BoxOffice.Text.Utf8

/-! Reading JSON text from bytes. When the text breaks off or breaks a rule of the grammar, what
was read so far is kept as a value with its open containers closed, since a caller may have
refused it for its shape already. A member whose name was read is kept even if its value was not:
the name alone may be one too many. -/

namespace BoxOffice.Json

/-- What reading one value from the front of a text gives. -/
inductive Reading where
  | whole (j : Json) (rest : Bytes)
  /-- The text is not JSON; `part` is the value begun, as far as it goes. -/
  | broken (part : Option Json)

namespace Reading

/-- The value, if the text did not break off before its end. -/
def whole? : Reading → Option Json
  | .whole j _ => some j
  | .broken _ => none

end Reading

def byte (c : Char) : UInt8 := UInt8.ofNat c.toNat

def isSpace (b : UInt8) : Bool := b == 0x20 || b == 0x0A || b == 0x0D || b == 0x09

def skipSpace (bs : Bytes) : Bytes := bs.dropWhile isSpace

private def isDigitByte (b : UInt8) : Bool := 0x30 ≤ b && b ≤ 0x39

/-- Cut a word off the front. -/
def afterWord (w : String) (bs : Bytes) : Option Bytes :=
  let word := Text.encodeUtf8 w
  if bs.take word.length = word then some (bs.drop word.length) else none

/-! ### Strings -/

def unicodeEscape : Bytes → Option (Nat × Bytes)
  | a :: b :: c :: d :: rest => do
    let cs := [a, b, c, d].map fun x => Char.ofNat x.toNat
    return (← Text.hexNumber cs, rest)
  | _ => none

/-- One piece of a string: bytes that stand for themselves, an escaped code unit, or the end. -/
inductive Piece where
  | plain (b : UInt8) (rest : Bytes)
  | unit (n : Nat) (rest : Bytes)
  | close (rest : Bytes)

def piece : Bytes → Option Piece
  | [] => none
  | b :: rest =>
    if b == byte '"' then some (.close rest)
    else if b == byte '\\' then
      match rest with
      | [] => none
      | e :: rest =>
        if e == byte '"' || e == byte '\\' || e == byte '/' then some (.plain e rest)
        else if e == byte 'b' then some (.plain 8 rest)
        else if e == byte 'f' then some (.plain 12 rest)
        else if e == byte 'n' then some (.plain 10 rest)
        else if e == byte 'r' then some (.plain 13 rest)
        else if e == byte 't' then some (.plain 9 rest)
        else if e == byte 'u' then (unicodeEscape rest).map fun (n, rest) => .unit n rest
        else none
    else if b < 0x20 then none
    else some (.plain b rest)

/-- The content of a string: its bytes, or nothing when an escape is half of a pair only. -/
structure Content where
  bytes : Bytes
  sound : Bool

def Content.push (c : Content) (n : Nat) : Content :=
  { c with bytes := (Text.encodeUtf8 (String.ofList [Char.ofNat n])).reverse ++ c.bytes }

/-- Collect the pieces up to the closing quote, the latest byte first. `high` is the first half of
a pair of code units whose second half is due. -/
def collect :
    (fuel : Nat) → (high : Option Nat) → Content → Bytes → Option (Content × Bytes)
  | 0, _, _, _ => none
  | fuel + 1, high, c, bs => do
    match ← piece bs with
    | .close rest => return ({ c with sound := c.sound && high.isNone }, rest)
    | .plain b rest =>
      collect fuel none { bytes := b :: c.bytes, sound := c.sound && high.isNone } rest
    | .unit n rest =>
      match high with
      | some h =>
        if 0xDC00 ≤ n ∧ n ≤ 0xDFFF then
          collect fuel none (c.push (0x10000 + (h - 0xD800) * 0x400 + (n - 0xDC00))) rest
        else collect fuel none { c with sound := false } rest
      | none =>
        if 0xD800 ≤ n ∧ n ≤ 0xDBFF then collect fuel (some n) c rest
        else if 0xDC00 ≤ n ∧ n ≤ 0xDFFF then collect fuel none { c with sound := false } rest
        else collect fuel none (c.push n) rest

/-- A string behind its opening quote, of fewer than `fuel` pieces. The inner `none` is a string
that is not Unicode text. -/
def readString (fuel : Nat) (bs : Bytes) : Option (Option String × Bytes) := do
  let (c, rest) ← collect fuel none ⟨[], true⟩ bs
  let text := if c.sound then (Text.decodeUtf8 c.bytes.reverse).map String.ofList else none
  return (text, rest)

/-! ### Numbers -/

private def u64Limit : Nat := UInt64.size

/-- Add digits to a significand while it fits in 64 bits; from the first one that does not, digits
are only counted. Gives the significand, the number of digits added and of those counted. -/
private def addDigits (significand : Nat) : Bytes → Nat × Nat × Nat
  | [] => (significand, 0, 0)
  | b :: rest =>
    let next := 10 * significand + (b.toNat - 48)
    if next < u64Limit then
      let (s, added, counted) := addDigits next rest
      (s, added + 1, counted)
    else (significand, 0, rest.length + 1)

/-- The digits at the front, at least one. -/
private def someDigits (bs : Bytes) : Option (Bytes × Bytes) :=
  let ds := bs.takeWhile isDigitByte
  if ds.isEmpty then none else some (ds, bs.drop ds.length)

/-- The exponent behind its letter. -/
private def exponent (bs : Bytes) : Option (Int × Bytes) := do
  let (negative, bs) := match bs with
    | b :: rest =>
      if b == byte '-' then (true, rest) else if b == byte '+' then (false, rest) else (false, bs)
    | [] => (false, [])
  let (ds, rest) ← someDigits bs
  let n : Nat := ds.foldl (fun n b => 10 * n + (b.toNat - 48)) 0
  return (if negative then -(n : Int) else n, rest)

private def realNumber (negative : Bool) (significand : Nat) (exponent : Int) : Json :=
  match Number.Double.ofDecimal? significand exponent with
  | some x => .real (if negative then x.negate else x)
  | none => .unreadable

/-- A number whose sign has been read. Zero has no digit after it before the point. -/
private def readNumber (negative : Bool) (bs : Bytes) : Option (Json × Bytes) := do
  let (ds, rest) ← someDigits bs
  if ds.head? == some (byte '0') && ds.length > 1 then none
  let (significand, _, counted) := addDigits 0 ds
  let (fraction, rest) ← match rest with
    | b :: after =>
      if b == byte '.' then (someDigits after).map fun (ds, rest) => (some ds, rest)
      else some (none, rest)
    | [] => some (none, [])
  let (power, rest) ← match rest with
    | b :: after =>
      if b == byte 'e' || b == byte 'E' then (exponent after).map fun (e, rest) => (some e, rest)
      else some (none, rest)
    | [] => some (none, [])
  if fraction.isNone && power.isNone && counted = 0 then
    if !negative then return (.integer significand, rest)
    else if significand ≠ 0 ∧ 2 * significand ≤ u64Limit then return (.integer (-significand), rest)
    else return (.real (Number.Double.ofInt significand).negate, rest)
  else
    let (significand, added, _) := addDigits significand (fraction.getD [])
    return (realNumber negative significand ((counted : Int) - (added : Int) + power.getD 0), rest)

/-! ### Values -/

/-- Put a member in front of those of an object. Behind a name that is not text none is kept. -/
def withMember (object : Json) : Option String × Json → Json
  | (none, _) => .misnamed []
  | (some name, j) => match object with
    | .misnamed members => .misnamed ((name, j) :: members)
    | .object members => .object ((name, j) :: members)
    | _ => object

/-- The object of the members read so far, latest first. -/
def closeObject (members : List (Option String × Json)) : Json :=
  members.foldl withMember (.object [])

/-- What is left of an object whose text is not JSON behind these members. -/
private def stop (members : List (Option String × Json)) : Reading :=
  .broken (some (closeObject members))

mutual

/-- Read one value; `fuel` bounds the number of steps. -/
def value : (fuel : Nat) → Bytes → Reading
  | 0, _ => .broken none
  | fuel + 1, bs =>
    match skipSpace bs with
    | [] => .broken none
    | b :: rest =>
      let word (w : String) (j : Json) : Reading :=
        match afterWord w (b :: rest) with
        | some rest => .whole j rest
        | none => .broken none
      if b == byte 'n' then word "null" .null
      else if b == byte 't' then word "true" (.bool true)
      else if b == byte 'f' then word "false" (.bool false)
      else if b == byte '"' then
        match readString (fuel + 1) rest with
        | some (text, rest) => .whole (text.elim .unreadable .string) rest
        | none => .broken none
      else if b == byte '[' then
        match skipSpace rest with
        | [] => .broken (some (.array []))
        | c :: after =>
          if c == byte ']' then .whole (.array []) after else items fuel [] (c :: after)
      else if b == byte '\x7b' then
        match skipSpace rest with
        | [] => .broken (some (.object []))
        | c :: after =>
          if c == byte '\x7d' then .whole (.object []) after else members fuel [] (c :: after)
      else
        let number := if b == byte '-' then readNumber true rest else readNumber false (b :: rest)
        match number with
        | some (j, rest) => .whole j rest
        | none => .broken none

/-- The elements of an array behind those read, latest first. -/
def items : (fuel : Nat) → List Json → Bytes → Reading
  | 0, _, _ => .broken none
  | fuel + 1, done, bs =>
    match value fuel bs with
    | .broken part => .broken (some (.array (part.toList ++ done).reverse))
    | .whole j rest =>
      match skipSpace rest with
      | c :: rest =>
        if c == byte ',' then items fuel (j :: done) rest
        else if c == byte ']' then .whole (.array (j :: done).reverse) rest
        else .broken (some (.array (j :: done).reverse))
      | [] => .broken (some (.array (j :: done).reverse))

/-- The members of an object behind those read, latest first. -/
def members : (fuel : Nat) → List (Option String × Json) → Bytes → Reading
  | 0, _, _ => .broken none
  | fuel + 1, done, bs =>
    match skipSpace bs with
    | [] => stop done
    | q :: rest =>
      if q != byte '"' then stop done
      else match readString (fuel + 1) rest with
        | none => stop done
        | some (name, rest) =>
          match skipSpace rest with
          | [] => stop ((name, .unreadable) :: done)
          | c :: rest =>
            if c != byte ':' then stop ((name, .unreadable) :: done)
            else match value fuel rest with
              | .broken part => stop ((name, part.getD .unreadable) :: done)
              | .whole j rest =>
                let done := (name, j) :: done
                match skipSpace rest with
                | c :: rest =>
                  if c == byte ',' then members fuel done rest
                  else if c == byte '\x7d' then .whole (closeObject done) rest
                  else stop done
                | [] => stop done

end

/-- Read one value from the front of a text. -/
def read (bs : Bytes) : Reading := value (2 * bs.length + 2) bs

/-- Read a text that holds one value and blanks only. -/
def parse (bs : Bytes) : Option Json :=
  match read bs with
  | .whole j rest => if (skipSpace rest).isEmpty then some j else none
  | .broken _ => none

def parseText (s : String) : Option Json := parse (Text.encodeUtf8 s)

end BoxOffice.Json
