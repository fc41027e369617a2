import BoxOffice.Json.Basic
import BoxOffice.Text.Hex

/-! Writing JSON text without blanks. Quote, backslash and control characters are escaped, all
other characters stand for themselves. -/

namespace BoxOffice.Json

def escaped (c : Char) : List Char :=
  if c = '"' then ['\\', '"']
  else if c = '\\' then ['\\', '\\']
  else if c = '\n' then ['\\', 'n']
  else if c = '\r' then ['\\', 'r']
  else if c = '\t' then ['\\', 't']
  else if c.toNat = 8 then ['\\', 'b']
  else if c.toNat = 12 then ['\\', 'f']
  else if c.toNat < 32 then ['\\', 'u', '0', '0'] ++ Text.hexOf 2 c.toNat
  else [c]

def quoted (s : String) : String := String.ofList ('"' :: s.toList.flatMap escaped ++ ['"'])

mutual

def compress : Json → String
  | .null => "null"
  | .bool true => "true"
  | .bool false => "false"
  | .integer n => n.repr
  | .real x => x.toString
  | .string s => quoted s
  | .array items => "[" ++ compressItems items ++ "]"
  | .object members => "\x7b" ++ compressMembers members ++ "\x7d"
  | .unreadable | .misnamed _ => "null"
termination_by structural j => j

def compressItems : List Json → String
  | [] => ""
  | [j] => compress j
  | j :: rest => compress j ++ "," ++ compressItems rest
termination_by structural js => js

def compressMembers : List (String × Json) → String
  | [] => ""
  | [(k, j)] => quoted k ++ ":" ++ compress j
  | (k, j) :: rest => quoted k ++ ":" ++ compress j ++ "," ++ compressMembers rest
termination_by structural ms => ms

end

end BoxOffice.Json
