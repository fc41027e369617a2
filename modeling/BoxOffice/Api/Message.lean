import BoxOffice.Api.MediaType
import BoxOffice.Api.Problem
import BoxOffice.Protocol.PayRequest
import BoxOffice.Text.Percent

/-! Requests and responses of the HTTP interface, and taking values out of a request. What cannot
be taken out is refused with a text of no further interest. -/

namespace BoxOffice.Api

structure HttpRequest where
  method : String
  /-- Path and query, as they are sent; scheme and authority may stand before them. -/
  target : String
  headers : List (String × String)
  body : Bytes

inductive Body where
  | empty
  | json (j : Json)
  | text

structure Response where
  status : Nat
  body : Body

namespace Response

def nothing (status : Nat) : Response := ⟨status, .empty⟩

def ofJson (status : Nat) (j : Json) : Response := ⟨status, .json j⟩

def refusal (status : Nat) : Response := ⟨status, .text⟩

def ofProblem (p : Problem) : Response := ofJson p.status p.toJson

def withoutBody (r : Response) : Response := { r with body := .empty }

end Response

/-- A value taken out of a request, or the response that says why not. -/
abbrev Extracted (α : Type) := Except Response α

namespace HttpRequest

/-- A character of the name of a scheme. -/
def isSchemeChar (c : Char) : Bool := c.isAlphanum || c == '+' || c == '-' || c == '.'

/-- What stands behind scheme and authority, if a target has them. -/
def behindAuthority (target : List Char) : List Char :=
  match target.dropWhile isSchemeChar with
  | ':' :: '/' :: '/' :: rest => rest.dropWhile fun c => c != '/' && c != '?'
  | _ => target

/-- Path and query, without what follows a number sign. -/
def parts (r : HttpRequest) : List Char × Option (List Char) :=
  Text.cutAt '?' (behindAuthority (Text.cutAt '#' r.target.toList).1)

def path (r : HttpRequest) : List Char := r.parts.1

def query (r : HttpRequest) : List Char := r.parts.2.getD []

/-- The first header of a name, if its value is plain text. -/
def header? (r : HttpRequest) (name : String) : Option String :=
  ((r.headers.find? fun (n, _) => Text.lowerAscii n.toList == name.toList).map (·.2)).filter
    fun value => value.toList.all fun c => c = '\t' || (32 ≤ c.toNat && c.toNat < 127)

/-- The most bytes that a body may have. -/
def bodyLimit : Nat := 2 * 1024 * 1024

def limitedBody (r : HttpRequest) : Extracted Bytes :=
  if r.body.length ≤ bodyLimit then .ok r.body else .error (.refusal 413)

end HttpRequest

/-! ### Paths and queries -/

/-- A name in a path. -/
def pathText (segment : List Char) : Extracted String :=
  match Text.unescapeSegment segment with
  | some s => .ok s
  | none => .error (.refusal 400)

def pathUuid (segment : List Char) : Extracted Uuid := do
  match Uuid.ofString? (← pathText segment) with
  | some u => return u
  | none => throw (.refusal 400)

/-- The amount that a query asks for, if it names one. -/
def queryAmount (query : List Char) : Extracted Protocol.AmountQuery :=
  match (Text.readForm query).filter (·.1 == "amount") with
  | [] => .ok ⟨none⟩
  | [(_, value)] => match Text.readU64 value.toList with
    | some n => .ok ⟨some n⟩
    | none => .error (.refusal 400)
  | _ => .error (.refusal 400)

/-! ### Bodies -/

/-- A field of a body: its name, whether it has to be there, and which values fit. -/
structure Field where
  name : String
  required : Bool
  check : Json → Json.Decoded Unit

/-- The first fault among members in the order of the text; `seen` are the names before. -/
def memberFault (fields : List Field) (seen : List String) :
    List (String × Json) → Option Json.Fault
  | [] => if fields.any fun f => f.required && !seen.contains f.name then some .missing else none
  | (name, j) :: rest =>
    match fields.find? (·.name == name) with
    | none => memberFault fields seen rest
    | some f =>
      if seen.contains name then some .mismatch
      else match f.check j with
        | .error fault => some fault
        | .ok () => memberFault fields (name :: seen) rest

/-- The first fault among elements in the order of the fields. -/
def elementFault : List Field → List Json → Option Json.Fault
  | [], [] => none
  | [], _ :: _ => some .malformed
  | f :: rest, [] => if f.required then some .missing else elementFault rest []
  | f :: fields, j :: rest => match f.check j with
    | .error fault => some fault
    | .ok () => elementFault fields rest

/-- The first fault of a record, in the order of the text. -/
def firstFault (fields : List Field) : Json → Option Json.Fault
  | .object members => memberFault fields [] members
  | .misnamed before =>
    if memberFault fields [] before = some .mismatch then some .mismatch else some .malformed
  | .array items => elementFault fields items
  | .unreadable => some .malformed
  | _ => some .mismatch

/-- The status that a body is refused with: 422 for a value of the wrong shape in what could be
read, 400 for a text that is no JSON. -/
def bodyStatus (fields : List Field) : Json.Reading → Nat
  | .whole j _ => if firstFault fields j = some .malformed then 400 else 422
  | .broken part => if part.bind (firstFault fields) = some .mismatch then 422 else 400

/-- A record in a body of JSON; what follows the first value does not matter. -/
def jsonBody {α : Type} (fields : List Field) (decode : Json → Json.Decoded α) (r : HttpRequest) :
    Extracted α := do
  if !(r.header? "content-type").any isJsonType then throw (.refusal 415)
  let body ← r.limitedBody
  let reading := Json.read body
  match reading.whole?.map decode with
  | some (.ok a) => return a
  | _ => throw (.refusal (bodyStatus fields reading))

end BoxOffice.Api
