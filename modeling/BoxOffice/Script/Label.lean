import BoxOffice.Json.Texts
import BoxOffice.Rehearsal.World

/-! Labels such as {T1}, which stand in scripts and answers for the names that a world gives
out. The names of each kind are numbered in the order in which answers first show them. -/

namespace BoxOffice.Script

structure Labels where
  /-- Names with their labels. -/
  tickets : List (String × String)
  payments : List (String × String)
  codes : List (String × String)

namespace Labels

def empty : Labels := ⟨[], [], []⟩

def all (l : Labels) : List (String × String) := l.tickets ++ l.payments ++ l.codes

/-- The label of the `n`-th name of a kind. -/
def labelOf (kind : String) (n : Nat) : String := "\x7b" ++ kind ++ n.repr ++ "\x7d"

private def occursIn (name s : String) : Bool := (s.splitOn name).length > 1

/-- Label those of the names that a string shows. -/
private def labelIn (kind : String) (names : List String) (known : List (String × String))
    (s : String) : List (String × String) :=
  names.foldl (fun known name =>
    if occursIn name s && !known.any (·.1 == name) then
      known ++ [(name, labelOf kind (known.length + 1))]
    else known) known

private def labelAll (kind : String) (names : List String) (known : List (String × String))
    (strings : List String) : List (String × String) :=
  let unlabelled := names.filter fun name => !known.any (·.1 == name)
  strings.foldl (labelIn kind unlabelled) known

/-- Label the names that an answer shows for the first time. -/
def see (l : Labels) (w : Rehearsal.World) (answer : Json) : Labels :=
  let strings := answer.texts
  let names (n : Nat) (nth : Nat → String) : List String := (List.range n).map nth
  { tickets := labelAll "T" (names w.ticketNames fun n => (Rehearsal.World.nthTicket n).toString)
      l.tickets strings
    payments := labelAll "P" (names w.paymentNames fun n => (Rehearsal.World.nthPayment n).toString)
      l.payments strings
    codes := labelAll "CODE" (names w.codes fun n => (Rehearsal.World.nthCode n).text)
      l.codes strings }

/-- Write labels in place of names. -/
def hide (l : Labels) (j : Json) : Json :=
  j.mapTexts fun s => l.all.foldl (fun s (name, label) => s.replace name label) s

/-- Write names in place of labels. -/
def reveal (l : Labels) (j : Json) : Json :=
  j.mapTexts fun s =>
    if s.contains '\x7b' then l.all.foldl (fun s (name, label) => s.replace label name) s else s

end Labels

end BoxOffice.Script
