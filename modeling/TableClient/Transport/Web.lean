import TableClient.Transport.Reply
import TableClient.Url.Address

/-!
# Requests over the Web

What has to hold of a request before it can be sent over the web.

The address has to be one, it has to have a host, the key has to fit into a
header, the scheme has to be that of the web, and the address has to fit into
a request. The checks are made in this order. Those on the address itself
name it, without its user, who is told in a header instead.

## Main definitions

* `Transport.fitsHeader`: A text that a header can hold.
* `Transport.fitsRequest`: An address that a request can be sent to.
* `Transport.address`: The address a request is sent to.
* `Transport.overWeb`: The handler that sends what can be sent.
-/

namespace TableClient

namespace Transport

/-- Whether a header can hold a text: control characters cannot stand in one,
    the tabulator apart. -/
def fitsHeader (text : String) : Bool :=
  text.toList.all fun c => c == '\t' || (0x20 ≤ c.toNat && c.toNat != 0x7F)

/-- Whether a scheme is that of the web. -/
def isWebScheme (scheme : String) : Bool :=
  scheme == "http" || scheme == "https"

/-- The most characters an address of a request can have. -/
def maxAddress : Nat := 65534

/-- Whether a request can be sent to an address: it must not be too long, and
    some marks cannot be part of its host. -/
def fitsRequest (address : Url.Address) : Bool :=
  let host := (address.host.map Url.Host.text).getD []
  !(host.any "\"`\x7b\x7d".toList.contains) && address.text.length ≤ maxAddress

/-- An address without its user, if the user can be told in a header. -/
def withoutUser (address : Url.Address) : Url.Address :=
  if address.user.isReadable then { address with user := .nobody } else address

/-- The address a request is sent to. -/
def address (request : Request) : Except Error Url.Address :=
  match Url.Address.ofText? request.url with
  | none => .error (.unbuildable none)
  | some address =>
    if address.host.isNone then .error (.unbuildable (some address.text))
    else if !fitsHeader request.key then .error (.unbuildable none)
    else
      let target := withoutUser address
      if isWebScheme target.scheme && fitsRequest target then .ok address
      else .error (.unbuildable (some target.text))

/-- The handler that sends every request that can be sent and reads the
    reply. -/
def overWeb (send : Url.Address → Request → Except Error Reply) : Handler := fun request => do
  let address ← address request
  let reply ← send address request
  reply.content

end Transport

end TableClient
