import IngressConvergence.ControllerError
import IngressConvergence.IngressKey
import IngressConvergence.LoadBalancer.Basic
import IngressConvergence.Text.Quoted

/-!
# What the controller reports

A cycle reports what it does.  Reports are information, except that a new load balancer which could
not be created in the place of a deleted one is a warning, and a failed cycle is an error.
-/

namespace IngressConvergence

/-- How grave a report is. -/
inductive Level where
  | information
  | warning
  | failure
deriving DecidableEq, Repr

/-- The level as a log shows it. -/
def Level.label : Level → String
  | .information => "INFO"
  | .warning => "WARN"
  | .failure => "ERROR"

/-- What there is to report. -/
inductive Event where
  | cycleStarted (key : IngressKey)
  | cycleSucceeded (arn dnsName : String)
  | cycleFailed (key : IngressKey) (error : ControllerError)
  | creating (name : String) (scheme : Scheme)
  | created (name arn : String)
  | recreating (name : String) (current desired : Scheme)
  | deletedForRecreation (name arn : String)
  | recreated (name arn : String)
  | recreationFailed (name : String) (error : CloudError)
  | changingIpAddressType (arn : String) (current desired : IpAddressType)
  | changingSubnets (arn : String) (current desired : List String)
  | changingAttributes (arn : String) (keys : List String)
  | associatingWebAcl (arn webAclId : String)
  | disassociatingWebAcl (arn : String)
  | nothingToDelete (name : String) (key : IngressKey)
  | deleting (name arn : String)
  | deleted (name arn : String)
  | deletionFailed (name : String) (key : IngressKey) (error : ControllerError)
deriving DecidableEq

namespace Event

/-- How grave an event is. -/
def level : Event → Level
  | .cycleFailed _ _ => .failure
  | .deletionFailed _ _ _ => .failure
  | .recreationFailed _ _ => .warning
  | _ => .information

/-- The line in which an event is told. -/
def message : Event → String
  | .cycleStarted key => "Reconciling LoadBalancer for ingress " ++ key.text
  | .cycleSucceeded arn dnsName => s!"Reconciled LoadBalancer {arn} ({dnsName})"
  | .cycleFailed key error =>
    "Failed to reconcile LoadBalancer for ingress " ++ key.text ++ ": " ++ error.message
  | .creating name scheme => s!"Creating LoadBalancer {name} (" ++ scheme.label ++ ")"
  | .created name arn => s!"Created LoadBalancer {name} ({arn})"
  | .recreating name current desired =>
    s!"Recreating LoadBalancer {name}: scheme changed from " ++ current.label ++ " to " ++
      desired.label
  | .deletedForRecreation name arn => s!"Deleted LoadBalancer {name} ({arn}) for recreation"
  | .recreated name arn => s!"Recreated LoadBalancer {name} ({arn})"
  | .recreationFailed name error =>
    s!"LoadBalancer {name} was deleted but could not be recreated, ingress has no load balancer " ++
      "until the next reconcile: " ++ error.message
  | .changingIpAddressType arn current desired =>
    s!"Modifying IpAddressType of {arn} from " ++ current.label ++ " to " ++ desired.label
  | .changingSubnets arn current desired =>
    s!"Modifying Subnets of {arn} from " ++ Text.quotedList current ++ " to " ++
      Text.quotedList desired
  | .changingAttributes arn keys => s!"Modifying attributes of {arn}: " ++ Text.quotedList keys
  | .associatingWebAcl arn webAclId => s!"Associating web acl {webAclId} with {arn}"
  | .disassociatingWebAcl arn => s!"Disassociating web acl from {arn}"
  | .nothingToDelete name key =>
    s!"LoadBalancer {name} for ingress " ++ key.text ++ " does not exist, nothing to delete"
  | .deleting name arn => s!"Deleting LoadBalancer {name} ({arn})"
  | .deleted name arn => s!"Deleted LoadBalancer {name} ({arn})"
  | .deletionFailed name key error =>
    s!"Failed to delete LoadBalancer {name} for ingress " ++ key.text ++ ": " ++ error.message

end Event

end IngressConvergence
