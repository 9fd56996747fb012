import IngressConvergence.Annotations
import IngressConvergence.IngressKey

/-!
# Collaborators

Target groups, listeners and security groups are converged by others.  The controller tells them
when, hands each of them what it needs, and gives the target groups that one of them answers to
those after it.  This module holds what is handed over and the calls that do so.
-/

namespace IngressConvergence

/-! ## Target groups -/

/-- The group of targets behind one port of a service. -/
structure TargetGroup where
  arn : String
  name : String
  serviceName : String
  servicePort : UInt16
deriving DecidableEq, Repr

/-- The key of a target group: its service and its port. -/
def TargetGroup.key (group : TargetGroup) : String :=
  group.serviceName ++ ":" ++ toString group.servicePort.toNat

/-- The target groups of an ingress, each under its service and port. -/
structure TargetGroupSet where
  groups : Table TargetGroup
deriving DecidableEq

namespace TargetGroupSet

/-- The set without target groups. -/
def empty : TargetGroupSet := ⟨∅⟩

/-- The set of a list of target groups; of two with one service and port the later stays. -/
def ofList (groups : List TargetGroup) : TargetGroupSet :=
  ⟨Table.ofList (groups.map fun group => (group.key, group))⟩

/-- Whether there is no target group in a set. -/
def isEmpty (set : TargetGroupSet) : Bool :=
  set.groups.isEmpty

end TargetGroupSet

/-! ## Security groups -/

/-- What is needed to attach security groups to a load balancer and to its targets. -/
structure SecurityGroupAssociation where
  ingressKey : IngressKey
  loadBalancerName : String
  loadBalancerArn : String
  ports : List UInt16
  inboundCidrs : List String
  /-- Security groups that are managed elsewhere. -/
  externalGroupIds : List String
  targetGroups : TargetGroupSet
deriving DecidableEq

namespace SecurityGroupAssociation

/-- What is needed to detach them: only what identifies the load balancer. -/
def forDeletion (ingressKey : IngressKey) (loadBalancerName loadBalancerArn : String) :
    SecurityGroupAssociation :=
  { ingressKey, loadBalancerName, loadBalancerArn, ports := [], inboundCidrs := [],
    externalGroupIds := [], targetGroups := .empty }

end SecurityGroupAssociation

/-! ## Calls -/

/-- A call to a collaborator, with what is handed over. -/
inductive CollaboratorCall where
  | convergeAttributes (arn : String) (desired : Table String)
  | convergeTargetGroups (ingress : Ingress)
  | convergeListeners (arn : String) (ingress : Ingress) (targetGroups : TargetGroupSet)
  /-- Remove the target groups that are not in use. -/
  | collectTargetGroups (inUse : TargetGroupSet)
  | convergeSecurityGroups (association : SecurityGroupAssociation)
  | deleteSecurityGroups (association : SecurityGroupAssociation)
  | deleteListeners (arn : String)
  | deleteTargetGroups (key : IngressKey)
deriving DecidableEq

namespace CollaboratorCall

/-- What a collaborator answers when it succeeds; only the one for target groups has something to
tell. -/
def Answer : CollaboratorCall → Type
  | .convergeTargetGroups _ => TargetGroupSet
  | .convergeAttributes _ _ => Unit
  | .convergeListeners _ _ _ => Unit
  | .collectTargetGroups _ => Unit
  | .convergeSecurityGroups _ => Unit
  | .deleteSecurityGroups _ => Unit
  | .deleteListeners _ => Unit
  | .deleteTargetGroups _ => Unit

/-- The point at which hooks act on a call. -/
def point : CollaboratorCall → String
  | .convergeAttributes _ _ => "attrs.reconcile"
  | .convergeTargetGroups _ => "tg.reconcile"
  | .convergeListeners _ _ _ => "ls.reconcile"
  | .collectTargetGroups _ => "tg.gc"
  | .convergeSecurityGroups _ => "sg.reconcile"
  | .deleteSecurityGroups _ => "sg.delete"
  | .deleteListeners _ => "ls.delete"
  | .deleteTargetGroups _ => "tg.delete"

end CollaboratorCall

end IngressConvergence
