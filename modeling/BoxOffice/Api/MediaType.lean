import BoxOffice.Text.Blank

/-! Media types such as "application/json; charset=utf-8", as far as it takes to tell JSON. -/

namespace BoxOffice.Api

/-- A character of a name in a media type. -/
def isTokenChar (c : Char) : Bool := c.isAlphanum || "!#$%&'*+-.^_\x60|~".toList.contains c

/-- A character between quotes. The backslash has no meaning of its own. -/
private def isQuotedChar (c : Char) : Bool := c.toNat > 31 && c.toNat != 127

/-- What follows the closing quote, if the quoted text is in order. The text is not empty: a quote
at its beginning is its first character. -/
private def afterQuoted : List Char → Option (List Char)
  | [] => none
  | first :: rest =>
    match rest.span fun c => c != '"' && isQuotedChar c with
    | (_, '"' :: after) => if isQuotedChar first then some after else none
    | _ => none

/-- Whether a list of parameters is in order; `fuel` bounds its length. -/
private def parametersInOrder : (fuel : Nat) → List Char → Bool
  | _, [] => true
  | 0, _ => false
  | fuel + 1, ' ' :: rest => parametersInOrder fuel rest
  | fuel + 1, cs =>
    match cs.span isTokenChar with
    | ([], _) => false
    | (_, '=' :: '"' :: rest) =>
      match afterQuoted rest with
      | none => false
      | some rest => match rest.dropWhile (· == ' ') with
        | [] => true
        | ';' :: rest => parametersInOrder fuel rest
        | _ => false
    | (_, '=' :: rest) =>
      match rest.span isTokenChar with
      | (_, []) => true
      | (value, ';' :: rest) => !value.isEmpty && parametersInOrder fuel rest
      | _ => false
    | _ => false

/-- Whether the subtype stands for JSON: it is "json" before its suffix, or the suffix is. -/
private def isJsonSubtype (cs : List Char) : Bool :=
  match cs.reverse.span (· != '+') with
  | (suffix, _ :: stem) =>
    if stem.isEmpty then false
    else suffix.reverse == "json".toList || stem.reverse == "json".toList
  | (whole, []) => whole.reverse == "json".toList

/-- Whether a media type stands for JSON. -/
def isJsonType (s : String) : Bool :=
  match (Text.lowerAscii s.toList).span isTokenChar with
  | (kind, '/' :: rest) =>
    kind == "application".toList && match rest.span isTokenChar with
      | (subtype, []) => isJsonSubtype subtype
      | (subtype, ';' :: rest) => isJsonSubtype subtype && parametersInOrder (rest.length + 1) rest
      | _ => false
  | _ => false

end BoxOffice.Api
