import BoxOffice.Text.Blank
import BoxOffice.Text.Hex

/-! Identifiers of events, tickets, payments and buyers. Each is a 128-bit number, written as
lower-case hexadecimal digits in groups of 8, 4, 4, 4 and 12. -/

namespace BoxOffice

structure Uuid where
  bits : BitVec 128
deriving DecidableEq, Inhabited

namespace Uuid

/-- The 32 digits without hyphens. -/
def digits (u : Uuid) : List Char := Text.hexOf 32 u.bits.toNat

/-- Put hyphens after the digits 8, 12, 16 and 20. -/
private def grouped (ds : List Char) : List Char :=
  ds.take 8 ++ '-' :: (ds.drop 8).take 4 ++ '-' :: (ds.drop 12).take 4 ++
    '-' :: (ds.drop 16).take 4 ++ '-' :: ds.drop 20

def toString (u : Uuid) : String := String.ofList (grouped u.digits)

private def ofDigits (cs : List Char) : Option Uuid :=
  if cs.length = 32 then (Text.hexNumber cs).map fun n => ⟨BitVec.ofNat 128 n⟩ else none

/-- Digits with hyphens in the places where `toString` puts them. -/
private def ofGrouped (cs : List Char) : Option Uuid :=
  let ds :=
    cs.take 8 ++ (cs.drop 9).take 4 ++ (cs.drop 14).take 4 ++ (cs.drop 19).take 4 ++ cs.drop 24
  if cs = grouped ds then ofDigits ds else none

/-- Read the grouped form, the bare 32 digits, the grouped form in braces or behind "urn:uuid:",
whose letters may be of either case. -/
def ofString? (s : String) : Option Uuid :=
  let cs := s.toList
  if cs.length = 32 then ofDigits cs
  else if cs.length = 36 then ofGrouped cs
  else if cs.length = 38 then
    if cs.head? = some '\x7b' ∧ cs.getLast? = some '\x7d' then ofGrouped (cs.drop 1).dropLast
    else none
  else if cs.length = 45 then
    if Text.lowerAscii (cs.take 9) = "urn:uuid:".toList then ofGrouped (cs.drop 9) else none
  else none

end Uuid

structure EventId where
  uuid : Uuid
deriving DecidableEq, Inhabited

structure TicketId where
  uuid : Uuid
deriving DecidableEq, Inhabited

structure PaymentId where
  uuid : Uuid
deriving DecidableEq, Inhabited

/-- A buyer. -/
structure UserId where
  uuid : Uuid
deriving DecidableEq, Inhabited

def EventId.toString (i : EventId) : String := i.uuid.toString
def TicketId.toString (i : TicketId) : String := i.uuid.toString
def PaymentId.toString (i : PaymentId) : String := i.uuid.toString
def UserId.toString (i : UserId) : String := i.uuid.toString

end BoxOffice
