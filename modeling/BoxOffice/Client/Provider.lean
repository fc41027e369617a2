import BoxOffice.Client.Exchange
import BoxOffice.Provider.Basic

/-! Talking to the providers of the buyers: discovery, pushed requests, and notices of
settlements. -/

namespace BoxOffice.Client.Provider

/-- Where a provider says what it speaks. -/
def configurationPath : String := "/.well-known/uma-configuration"

def discoverRequest : Outgoing := .get configurationPath none

/-- `endpoint` is what stands behind the host in the address; it is taken as it is. -/
def pushRequest (endpoint : String) (request : PaymentRequest) : Outgoing :=
  .post endpoint none request.toJson

def notifyRequest (callback : String) (notice : SettlementNotice) : Outgoing :=
  .post callback none notice.toJson

def succeeded (r : Reply) : Except ProviderError Unit :=
  if r.isSuccess then .ok () else .error (.rejected r.status r.excerpt)

def readConfiguration (r : Reply) : Except ProviderError ProviderConfiguration := do
  succeeded r
  match r.value? ProviderConfiguration.ofJson with
  | some c => return c
  | none => throw (.invalidResponse Reply.undecodable)

/-- Of what is delivered only the status counts. -/
def readDelivered (r : Reply) : Except ProviderError Unit := succeeded r

end BoxOffice.Client.Provider
