import BoxOffice.Address

/-! The settings that the services work with. -/

namespace BoxOffice

structure Setup where
  /-- The public address of this server, as it was given. -/
  baseUrl : String
  /-- The address that tickets are paid to. -/
  receiver : Address
  minSendableMsats : UInt64
  maxSendableMsats : UInt64
  /-- The versions of the protocol that we speak, highest first. -/
  versions : List UInt32
  /-- The key that notices of settlement are signed with. -/
  secret : List UInt8
  invoiceExpirySecs : UInt64
  sweepSecs : UInt64

namespace Setup

/-- The public address without slashes at its end. -/
def trimmedBaseUrl (s : Setup) : String :=
  String.ofList (s.baseUrl.toList.reverse.dropWhile (· == '/')).reverse

end Setup

end BoxOffice
