/-!
# Failures of cloud calls

A call fails because the service refuses it or because the context under which it runs has been
cancelled or has run out of time.  Only the latter two count as cancellation.
-/

namespace IngressConvergence

/-- Why a cloud call failed. -/
inductive CloudError where
  /-- The service failed or rejected the operation. -/
  | api (operation message : String)
  | notFound (message : String)
  | throttled (message : String)
  | invalidRequest (message : String)
  | cancelled (operation : String)
  /-- The deadline passed before the operation ended. -/
  | deadlineExceeded (operation : String)
deriving DecidableEq, Repr

namespace CloudError

/-- The line in which a failure is told. -/
def message : CloudError → String
  | .api operation text => operation ++ " failed: " ++ text
  | .notFound text => "Not found: " ++ text
  | .throttled text => "Throttled: " ++ text
  | .invalidRequest text => "Invalid request: " ++ text
  | .cancelled operation => operation ++ " cancelled"
  | .deadlineExceeded operation => operation ++ " exceeded its deadline"

/-- Whether the context ended the call and not the service. -/
def isCancellation : CloudError → Bool
  | .cancelled _ | .deadlineExceeded _ => true
  | _ => false

/-- The text of a scheme that is not known. -/
def unknownScheme (label : String) : CloudError :=
  .invalidRequest s!"unknown scheme '{label}'"

/-- The text of an address type that is not known. -/
def unknownIpAddressType (label : String) : CloudError :=
  .invalidRequest s!"unknown ip address type '{label}'"

end CloudError

end IngressConvergence
