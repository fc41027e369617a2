import BoxOffice.Text.Blank
import BoxOffice.Text.Percent

/-! The target of an outgoing request: what stands behind the host in an address, in the form in
which it is sent. Segments that only walk the path are carried out, what may not stand in a path is
escaped, and the fragment is dropped. -/

namespace BoxOffice.Client

private def upperHexDigit (n : Nat) : Char :=
  if n < 10 then Char.ofNat (48 + n) else Char.ofNat (55 + n)

private def escapedByte (b : UInt8) : List Char :=
  ['%', upperHexDigit (b.toNat / 16), upperHexDigit (b.toNat % 16)]

/-- Escape the characters that `p` holds of and those outside of ASCII. -/
private def escapeIf (p : Char → Bool) (cs : List Char) : List Char :=
  cs.flatMap fun c =>
    if p c || c.toNat < 32 || c.toNat ≥ 127 then
      (Text.encodeUtf8 (String.ofList [c])).flatMap escapedByte
    else [c]

private def escapedInPath : List Char := " \"<>\x60#?\x7b\x7d".toList

private def escapedInQuery : List Char := " \"#<>'".toList

/-- How a segment walks the path. -/
private inductive Walk where
  | stay
  | up
  | down

/-- A dot may be written as its escape. -/
private def walk (segment : List Char) : Walk :=
  let plain := (String.ofList (Text.lowerAscii segment)).replace "%2e" "."
  if plain = "." then .stay else if plain = ".." then .up else .down

/-- The segments after walking; `done` are those before, the last one first. A walk at the end
leaves a slash there. -/
private def walked : (done : List (List Char)) → List (List Char) → List (List Char)
  | done, [] => done.reverse
  | done, s :: rest =>
    let close (d : List (List Char)) := if rest.isEmpty then [] :: d else d
    match walk s with
    | .stay => walked (close done) rest
    | .up => walked (close (done.drop 1)) rest
    | .down => walked (escapeIf escapedInPath.contains s :: done) rest

/-- The path and the query, as they are sent for the given text behind a host. -/
def target (behindHost : String) : String :=
  let trimmed := (behindHost.toList.reverse.dropWhile fun c => c.toNat ≤ 0x20).reverse
  let cs := trimmed.filter fun c => c != '\t' && c != '\n' && c != '\r'
  let (path, query) := Text.cutAt '?' (Text.cutAt '#' cs).1
  let slashes := path.map fun c => if c = '\\' then '/' else c
  let segments := walked [] ((Text.splitAt '/' slashes).drop 1)
  let path := if segments.isEmpty then ['/'] else segments.flatMap ('/' :: ·)
  let query := match query with
    | some q => '?' :: escapeIf escapedInQuery.contains q
    | none => []
  String.ofList (path ++ query)

/-- An address without slashes at its end. -/
def trimSlashes (address : String) : String :=
  String.ofList (address.toList.reverse.dropWhile (· == '/')).reverse

end BoxOffice.Client
