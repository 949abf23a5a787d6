import TableClient.Json.Parse

/-!
# Requests and What Answers Them

A request to the service, the ways in which it can fail, and handlers.

A handler is whatever answers requests. It gives back the rows part of a
reply as a JSON value, or says why there is none. A client knows nothing else
about the network.

## Main definitions

* `Request`: What is sent to the service.
* `Transport.Error`: Why a request has no answer.
* `Transport.Error.message`: The sentence that reports it.
* `Handler`: What answers requests.
-/

namespace TableClient

/-- What is sent to the service: where to, with which key, and the body. -/
structure Request where
  url : String
  key : String
  body : Json

namespace Transport

/-- Why a request has no answer. -/
inductive Error where
  /-- The request cannot be built; the address is known if it could be
      read. -/
  | unbuildable (url : Option String)
  /-- The service cannot be reached. -/
  | unreachable (url : String)
  /-- The service answered with another status than success. -/
  | status (code : Nat) (message : String)
  /-- The answer is not JSON. -/
  | undecodable (error : Json.Error)
deriving DecidableEq, Repr

/-- The sentence that reports why a request has no answer. -/
def Error.message : Error → String
  | .unbuildable none => "request failed: builder error"
  | .unbuildable (some url) => "request failed: builder error for url (" ++ url ++ ")"
  | .unreachable url => "request failed: error sending request for url (" ++ url ++ ")"
  | .status code message => message ++ ". HttpStatus: " ++ toString code
  | .undecodable error => "invalid response body: " ++ error.message

end Transport

/-- What answers requests. -/
abbrev Handler :=
  Request → Except Transport.Error Json

end TableClient
