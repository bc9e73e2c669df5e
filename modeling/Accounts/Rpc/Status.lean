/-!
# Status codes of remote calls

* `RpcCode`: the codes that this service answers with.
-/

namespace Accounts

/-- The code of an answer to a remote call. -/
inductive RpcCode
  | ok
  | invalidArgument
  | notFound
  | internal
  | unauthenticated
  deriving DecidableEq

/-- The name of a code. -/
def RpcCode.name : RpcCode → String
  | .ok => "Ok"
  | .invalidArgument => "InvalidArgument"
  | .notFound => "NotFound"
  | .internal => "Internal"
  | .unauthenticated => "Unauthenticated"

end Accounts
