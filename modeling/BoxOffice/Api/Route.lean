import BoxOffice.Text.Percent

/-! The paths and methods of the HTTP interface. -/

namespace BoxOffice.Api

/-- What a path leads to, with the segment that names a thing as it is written there. -/
inductive Route where
  | purchase (event : List Char)
  | ticket (ticket : List Char)
  | retry (payment : List Char)
  | wallet (user : List Char)
  | payRequest (ticket : List Char)
  | amountCallback
  | discovery (username : List Char)
  | configuration
  | notification
  | health
deriving DecidableEq

inductive Method where
  | get
  /-- As `get`, but nothing is sent but the status. -/
  | head
  | post
  | put
deriving DecidableEq

def Method.ofName? : String → Option Method
  | "GET" => some .get
  | "HEAD" => some .head
  | "POST" => some .post
  | "PUT" => some .put
  | _ => none

namespace Route

/-- The segments of a path. There is none before the first slash. -/
def segments (path : List Char) : Option (List (List Char)) :=
  match Text.splitAt '/' path with
  | [] :: rest => some rest
  | _ => none

def word (s : String) : List Char := s.toList

def ofSegments (parts : List (List Char)) : Option Route :=
  match parts with
  | [a] => if a = word "health" then some .health else none
  | [a, b] =>
    if a = word ".well-known" ∧ b = word "uma-configuration" then some .configuration
    else if a = word "webhooks" ∧ b = word "payment" then some .notification
    else none
  | [a, b, c] =>
    if a = word ".well-known" ∧ b = word "lnurlp" then some (.discovery c)
    else if a = word "api" ∧ b = word "tickets" then some (.ticket c)
    else if a = word "api" ∧ b = word "uma" ∧ c = word "callback" then some .amountCallback
    else none
  | [a, b, c, d] =>
    if a ≠ word "api" then none
    else if b = word "events" ∧ d = word "purchase" then some (.purchase c)
    else if b = word "payments" ∧ d = word "retry" then some (.retry c)
    else if b = word "users" ∧ d = word "wallet" then some (.wallet c)
    else if b = word "uma" ∧ c = word "payreq" then some (.payRequest d)
    else none
  | _ => none

/-- The route of a path. A slash at the end leads nowhere; a segment in the middle that names a
thing may be empty. -/
def ofPath? (path : List Char) : Option Route :=
  (segments path).bind fun parts => if parts.getLast? = some [] then none else ofSegments parts

/-- Whether a route takes a method. -/
def allows : Route → Method → Bool
  | .purchase _, .post => true
  | .ticket _, .get | .ticket _, .head => true
  | .retry _, .post => true
  | .wallet _, .put => true
  | .payRequest _, .post | .payRequest _, .get | .payRequest _, .head => true
  | .amountCallback, .get | .amountCallback, .head => true
  | .discovery _, .get | .discovery _, .head => true
  | .configuration, .get | .configuration, .head => true
  | .notification, .post => true
  | .health, .get | .health, .head => true
  | _, _ => false

end Route

end BoxOffice.Api
