import BoxOffice.Text.Blank
import BoxOffice.Text.Quoted

/-! Universal money addresses: a dollar sign, a local part, an at sign, a domain. The domain is
kept in lower case, so two spellings of one address are one value. -/

namespace BoxOffice

structure Address where
  localPart : String
  domain : String
deriving DecidableEq, Inhabited

inductive AddressError where
  | missingDollar
  /-- There is no at sign, or more than one. -/
  | badSeparator
  | emptyLocalPart
  | emptyDomain
  | invalidCharacter (c : Char)
deriving DecidableEq

def AddressError.message : AddressError → String
  | .missingDollar => "UMA address must start with '$'"
  | .badSeparator => "UMA address must contain exactly one '@'"
  | .emptyLocalPart => "UMA address local part is empty"
  | .emptyDomain => "UMA address domain is empty"
  | .invalidCharacter c => "UMA address contains invalid character " ++ Text.quoteChar c

namespace Address

def isLocalChar (c : Char) : Bool :=
  c.isAlphanum || c == '.' || c == '_' || c == '-' || c == '+'

def isDomainChar (c : Char) : Bool :=
  c.isAlphanum || c == '.' || c == '-' || c == ':'

/-- Cut at the only at sign. -/
def splitAtSign (cs : List Char) : Option (List Char × List Char) :=
  match cs.span (· != '@') with
  | (before, _ :: after) => if after.contains '@' then none else some (before, after)
  | (_, []) => none

/-- The first fault is reported: of the parts first emptiness, then characters, and in both the
local part before the domain. -/
def parse (s : String) : Except AddressError Address :=
  match s.toList with
  | '$' :: rest =>
    match splitAtSign rest with
    | none => .error .badSeparator
    | some (before, after) =>
      if before.isEmpty then .error .emptyLocalPart
      else if after.isEmpty then .error .emptyDomain
      else match before.find? (!isLocalChar ·), after.find? (!isDomainChar ·) with
        | some c, _ => .error (.invalidCharacter c)
        | none, some c => .error (.invalidCharacter c)
        | none, none => .ok ⟨String.ofList before, String.ofList (Text.lowerAscii after)⟩
  | _ => .error .missingDollar

def toString (a : Address) : String := "$" ++ a.localPart ++ "@" ++ a.domain

end Address

end BoxOffice
