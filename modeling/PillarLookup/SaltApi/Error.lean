import PillarLookup.Json.Fault
import PillarLookup.Url.Host

/-!
# Tasks and their errors

A query consists of three kinds of exchanges with the Salt API. An exchange fails
where its address cannot be built, its request cannot be made or answered, the
answer's status is no success or its body is not of the expected shape.
-/

namespace PillarLookup.SaltApi

inductive Task where
  | logIn
  | publish
  | lookUp
deriving DecidableEq, Repr

namespace Task

def describe : Task → String
  | .logIn => "log in"
  | .publish => "publish the pillar lookup"
  | .lookUp => "look up the job"

/-- Where the task is posted, relative to the base address. -/
def endpoint : Task → String
  | .logIn => "login"
  | .publish => ""
  | .lookUp => ""

end Task

inductive RequestFault where
  | timedOut (url : String)
  | connectionClosed (url : String)
  | schemeNotAllowed (url : String)
  | addressNotSendable (url : String)
  | badHeaderValue
deriving DecidableEq, Repr

def RequestFault.message : RequestFault → String
  | .timedOut url => "error sending request for url (" ++ url ++ "): operation timed out"
  | .connectionClosed url =>
      "error sending request for url (" ++ url ++
        "): connection closed before message completed"
  | .schemeNotAllowed url => "builder error for url (" ++ url ++ "): URL scheme is not allowed"
  | .addressNotSendable url =>
      "builder error for url (" ++ url ++ "): Parsed Url is not a valid Uri"
  | .badHeaderValue => "builder error: failed to parse header value"

inductive ApiError where
  | endpoint (path : String) (fault : Url.Fault)
  | request (task : Task) (fault : RequestFault)
  | httpStatus (task : Task) (status : Nat) (body : String)
  | undecodable (task : Task) (error : Json.ReadError)
  | missingToken
deriving DecidableEq, Repr

def ApiError.message : ApiError → String
  | .endpoint path fault =>
      "Unable to build the '" ++ path ++ "' endpoint URL: " ++ fault.message
  | .request task fault => "Unable to " ++ task.describe ++ ": " ++ fault.message
  | .httpStatus task status body =>
      "Unable to " ++ task.describe ++ ": the Salt API returned " ++ toString status ++ ": " ++ body
  | .undecodable task error =>
      "Unable to deserialize the response to '" ++ task.describe ++ "': " ++ error.message
  | .missingToken => "The Salt API login response did not contain a token"

end PillarLookup.SaltApi
