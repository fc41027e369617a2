import BoxOffice.Text.Hex
import BoxOffice.Text.Numeral

/-! Socket addresses: four numbers between points and a port, or eight groups of hexadecimal
digits in brackets and a port. A run of zero groups may be left out once, and the last two groups
may be written as four numbers. -/

namespace BoxOffice.SocketAddress

/-- The first characters that are digits in the radix, ten or sixteen, and what follows them. -/
private def digitRun (radix : Nat) (cs : List Char) : List Char × List Char :=
  cs.span fun c => (Text.hexValue c).any (· < radix)

/-- One number of an address of the older kind, written without leading zeros. -/
private def octet (cs : List Char) : Option (List Char) :=
  let (ds, rest) := digitRun 10 cs
  if ds.isEmpty || ds.length > 3 || Text.digitsValue ds > 255 then none
  else if ds.head? == some '0' && ds.length > 1 then none
  else some rest

/-- One to four hexadecimal digits. -/
private def group (cs : List Char) : Option (List Char) :=
  let (ds, rest) := digitRun 16 cs
  if ds.isEmpty || ds.length > 4 then none else some rest

private def given (c : Char) : List Char → Option (List Char)
  | d :: rest => if c = d then some rest else none
  | [] => none

/-- Four numbers between points. -/
private def quad (cs : List Char) : Option (List Char) := do
  octet (← given '.' (← octet (← given '.' (← octet (← given '.' (← octet cs))))))

/-- A number below `bound`, of any length. -/
private def numberBelow (bound : Nat) (cs : List Char) : Option (List Char) :=
  let (ds, rest) := digitRun 10 cs
  if ds.isEmpty || bound ≤ Text.digitsValue ds then none else some rest

private def port (cs : List Char) : Option (List Char) :=
  (given ':' cs).bind (numberBelow UInt16.size)

/-- At most `room` groups with colons between them, after `n` that were read. Gives the number of
groups, whether the last two were written as four numbers, and the rest. -/
private def groups (n : Nat) : (room : Nat) → List Char → Nat × Bool × List Char
  | 0, cs => (n, false, cs)
  | room + 1, cs =>
    let separated := if n = 0 then some cs else given ':' cs
    match if room = 0 then none else separated.bind quad with
    | some rest => (n + 2, true, rest)
    | none => match separated.bind group with
      | some rest => groups (n + 1) room rest
      | none => (n, false, cs)

/-- The groups of an address of the newer kind. -/
private def groupList (cs : List Char) : Option (List Char) :=
  match groups 0 8 cs with
  | (8, _, rest) => some rest
  | (_, true, _) => none
  | (n, false, rest) => do
    let rest ← given ':' (← given ':' rest)
    return (groups 0 (7 - n) rest).2.2

/-- A number that names the scope, if there is one. -/
private def scope (cs : List Char) : Option (List Char) :=
  match given '%' cs with
  | none => some cs
  | some rest => numberBelow UInt32.size rest

private def older (cs : List Char) : Option (List Char) := (quad cs).bind port

private def newer (cs : List Char) : Option (List Char) := do
  port (← given ']' (← scope (← groupList (← given '[' cs))))

/-- Whether a text is a socket address and nothing more. -/
def isValid (s : String) : Bool :=
  older s.toList == some [] || newer s.toList == some []

end BoxOffice.SocketAddress
