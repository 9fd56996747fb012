import IngressConvergence.CloudError

/-!
# Failures of a cycle

A cycle fails at one place, and its error says where: it names the resource or the step and holds
the failure that caused it.  Errors are nested: a step of a cycle may have failed with an error of
the controller itself, with a failure of the cloud, or with a text, each of them under any number of
remarks that were added on the way.  `message` shows an error, `chain` lists the messages of all
that it was caused by, and two classes are told apart through any nesting: failures of the firewall
and cancellation.
-/

namespace IngressConvergence

/-! ## What errors name -/

/-- The families of resources that are named by identifier or by name. -/
inductive ReferenceKind where
  | securityGroup
  | subnet
deriving DecidableEq, Repr

namespace ReferenceKind

/-- How an identifier of the family starts. -/
def identifierStart : ReferenceKind → String
  | .securityGroup => "sg-"
  | .subnet => "subnet-"

/-- The family as messages name it. -/
def label : ReferenceKind → String
  | .securityGroup => "security groups"
  | .subnet => "subnets"

end ReferenceKind

/-- The steps that follow the load balancer itself, in their order. -/
inductive DependentStep where
  | attributes
  | webAcl
  | targetGroups
  | listeners
  | targetGroupCollection
  | securityGroups
deriving DecidableEq, Repr

namespace DependentStep

/-- The step as messages and checkpoints name it. -/
def label : DependentStep → String
  | .attributes => "attributes"
  | .webAcl => "web acl"
  | .targetGroups => "target groups"
  | .listeners => "listeners"
  | .targetGroupCollection => "target group gc"
  | .securityGroups => "security group associations"

end DependentStep

/-- The steps of a removal, in their order. -/
inductive TeardownStep where
  | securityGroups
  | listeners
  | targetGroups
  | loadBalancer
deriving DecidableEq, Repr

namespace TeardownStep

/-- What the step removes, as messages name it. -/
def label : TeardownStep → String
  | .securityGroups => "security group associations"
  | .listeners => "listeners"
  | .targetGroups => "target groups"
  | .loadBalancer => "load balancer"

end TeardownStep

/-- What was to be done with a load balancer as a whole. -/
inductive ProvisionAction where
  | create
  | deleteForRecreation
deriving DecidableEq, Repr

/-- The action as it stands in messages, behind "Failed to". -/
def ProvisionAction.label : ProvisionAction → String
  | .create => "create"
  | .deleteForRecreation => "delete for recreation"

/-- What of a load balancer is changed in place. -/
inductive PatchedAttribute where
  | ipAddressType
  | subnets
deriving DecidableEq, Repr

/-- What is changed, as messages name it. -/
def PatchedAttribute.label : PatchedAttribute → String
  | .ipAddressType => "IpAddressType"
  | .subnets => "Subnets"

/-- What was to be done with a firewall policy. -/
inductive WebAclAction where
  | get
  | check
  | associate
  | disassociate
deriving DecidableEq, Repr

/-- The action as it stands in messages, behind "Failed to". -/
def WebAclAction.label : WebAclAction → String
  | .get => "get"
  | .check => "check"
  | .associate => "associate"
  | .disassociate => "disassociate"

/-! ## Errors and their causes -/

mutual

/-- Why a cycle failed. -/
inductive ControllerError where
  | invalidIngress (reason : String)
  /-- The annotations of the ingress could not be had. -/
  | store (key : String) (source : Cause)
  | configBuild (key : String) (source : ControllerError)
  | policyViolation (key reason : String)
  /-- The load balancer could not be looked up. -/
  | lookup (name : String) (source : CloudError)
  /-- The load balancer could not be created, or not deleted in order to create it anew. -/
  | provision (name : String) (action : ProvisionAction) (source : CloudError)
  /-- The old load balancer was deleted and the new one could not be created. -/
  | recreation (name previousArn : String) (source : CloudError)
  | attributeUpdate (arn : String) (patched : PatchedAttribute) (source : CloudError)
  /-- The association with a firewall policy could not be read or changed. -/
  | webAcl (arn : String) (action : WebAclAction) (source : CloudError)
  | invalidReference (arn webAclId : String)
  | referenceLookup (kind : ReferenceKind) (source : CloudError)
  /-- Some names stand for nothing, or not for one thing each. -/
  | unresolvedReference (kind : ReferenceKind) (requested resolved : List String)
  | dependentResource (step : DependentStep) (source : Cause)
  | teardown (step : TeardownStep) (source : Cause)

/-- What an error was caused by. -/
inductive Cause where
  /-- A failure that is known by its text only. -/
  | text (message : String)
  | cloud (error : CloudError)
  | controller (error : ControllerError)
  /-- A cause under a remark that was added to it. -/
  | remark (message : String) (cause : Cause)

end

deriving instance DecidableEq for ControllerError, Cause

/-! ## Messages -/

mutual

/-- The message of an error; it ends with the message of its cause. -/
def ControllerError.message : ControllerError → String
  | .invalidIngress reason => "Invalid ingress: " ++ reason
  | .store key source => s!"Failed to load annotations of ingress {key}: " ++ source.message
  | .configBuild key source =>
    s!"Failed to build LoadBalancer configuration for ingress {key}: " ++ source.message
  | .policyViolation key reason => s!"Ingress {key} violates controller policy: {reason}"
  | .lookup name source => s!"Failed to find existing LoadBalancer {name}: " ++ source.message
  | .provision name action source =>
    "Failed to " ++ action.label ++ s!" LoadBalancer {name}: " ++ source.message
  | .recreation name previousArn source =>
    s!"LoadBalancer {name} was deleted for recreation (previous ARN {previousArn}) " ++
      "but creation failed: " ++ source.message
  | .attributeUpdate arn patched source =>
    "Failed to modify " ++ patched.label ++ s!" of {arn}: " ++ source.message
  | .webAcl arn action source =>
    "Failed to " ++ action.label ++ s!" web acl on LoadBalancer {arn}: " ++ source.message
  | .invalidReference arn webAclId =>
    s!"Web acl {webAclId} referenced by LoadBalancer {arn} does not exist"
  | .referenceLookup kind source => "Failed to look up " ++ kind.label ++ ": " ++ source.message
  | .unresolvedReference kind requested resolved =>
    "Not all " ++ kind.label ++ " were resolvable, (" ++ ",".intercalate requested ++ " != " ++
      ",".intercalate resolved ++ ")"
  | .dependentResource step source =>
    "Failed to reconcile " ++ step.label ++ ": " ++ source.message
  | .teardown step source => "Failed to delete " ++ step.label ++ ": " ++ source.message

/-- The message of a cause; a remark hides what it was added to. -/
def Cause.message : Cause → String
  | .text message => message
  | .cloud error => error.message
  | .controller error => error.message
  | .remark message _ => message

end

mutual

/-- The messages of all that an error was caused by, from the outside to the inside. -/
def ControllerError.chain : ControllerError → List String
  | .invalidIngress _ => []
  | .store _ source => source.links
  | .configBuild _ source => source.message :: source.chain
  | .policyViolation _ _ => []
  | .lookup _ source => [source.message]
  | .provision _ _ source => [source.message]
  | .recreation _ _ source => [source.message]
  | .attributeUpdate _ _ source => [source.message]
  | .webAcl _ _ source => [source.message]
  | .invalidReference _ _ => []
  | .referenceLookup _ source => [source.message]
  | .unresolvedReference _ _ _ => []
  | .dependentResource _ source => source.links
  | .teardown _ source => source.links

/-- The message of a cause and of all that it was caused by in turn. -/
def Cause.links : Cause → List String
  | .text message => [message]
  | .cloud error => [error.message]
  | .controller error => error.message :: error.chain
  | .remark message cause => message :: cause.links

end

/-! ## Classes of errors -/

mutual

/-- Whether an error is a failure of the firewall, on its own or as the failure of a step. -/
def ControllerError.isWebAclError : ControllerError → Bool
  | .webAcl _ _ _ => true
  | .invalidReference _ _ => true
  | .dependentResource _ source => source.isWebAclError
  | _ => false

/-- Whether a cause is a failure of the firewall, under any remarks. -/
def Cause.isWebAclError : Cause → Bool
  | .text _ => false
  | .cloud _ => false
  | .controller error => error.isWebAclError
  | .remark _ cause => cause.isWebAclError

end

mutual

/-- Whether an error goes back to a cancelled call or to a deadline. -/
def ControllerError.isCancellation : ControllerError → Bool
  | .invalidIngress _ => false
  | .store _ source => source.isCancellation
  | .configBuild _ source => source.isCancellation
  | .policyViolation _ _ => false
  | .lookup _ source => source.isCancellation
  | .provision _ _ source => source.isCancellation
  | .recreation _ _ source => source.isCancellation
  | .attributeUpdate _ _ source => source.isCancellation
  | .webAcl _ _ source => source.isCancellation
  | .invalidReference _ _ => false
  | .referenceLookup _ source => source.isCancellation
  | .unresolvedReference _ _ _ => false
  | .dependentResource _ source => source.isCancellation
  | .teardown _ source => source.isCancellation

/-- Whether a cause goes back to a cancelled call or to a deadline. -/
def Cause.isCancellation : Cause → Bool
  | .text _ => false
  | .cloud error => error.isCancellation
  | .controller error => error.isCancellation
  | .remark _ cause => cause.isCancellation

end

/-! ## What a cause holds -/

/-- A cause without the remarks around it. -/
def Cause.core : Cause → Cause
  | .remark _ cause => cause.core
  | cause => cause

/-- Put remarks on a cause, the last of them outermost. -/
def Cause.remarked (cause : Cause) (remarks : List String) : Cause :=
  remarks.foldl (fun inner message => .remark message inner) cause

end IngressConvergence
