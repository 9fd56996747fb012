import IngressConvergence.Convergence.Cycle
import IngressConvergence.Proofs.Error.Likeness
import IngressConvergence.Proofs.Transcript

/-!
# Programs that go on alike

Two runs of one cycle may meet load balancers that are the same but for the handle and the host name
that the cloud gave them.  The runs then go on alike: what they ask for corresponds, and while the
replies correspond they come to corresponding results.  A `Likeness` says which identities correspond
and, beyond that, what a cycle may ask for at all: about which handles it makes calls, what it
creates, and which configuration it relies on.

`Program.Alike` is kept by all the ways in which attempts are put together.  A program that is alike
to itself keeps to what the likeness allows in every run in which the replies do too; this is
`Program.Alike.keeps`.
-/

namespace IngressConvergence

/-! ## Likenesses -/

/-- The identity that the cloud gave to a load balancer. -/
def LoadBalancer.identity (balancer : LoadBalancer) : LoadBalancerStatus :=
  ⟨balancer.arn, balancer.dnsName⟩

/-- What corresponds in two runs of a cycle, and what the cycle may ask for. -/
structure Likeness where
  /-- The name of the load balancer that the cycle is about. -/
  name : String
  /-- Identities that correspond. -/
  same : LoadBalancerStatus → LoadBalancerStatus → Prop
  /-- The handles about which calls may be made. -/
  isOwn : String → Prop
  mayCreate : CreateRequest → Prop
  /-- The configurations that may be in force. -/
  inForce : Configuration → Prop

namespace Likeness

variable {likeness : Likeness}

/-- Handles correspond if identities with these handles do. -/
def SameHandle
    (likeness : Likeness)
    (arn arn' : String) : Prop :=
  ∃ host host', likeness.same ⟨arn, host⟩ ⟨arn', host'⟩

/-- Corresponding handles about which calls may be made. -/
structure OwnHandle
    (likeness : Likeness)
    (arn arn' : String) : Prop where
  same : likeness.SameHandle arn arn'
  isOwn : likeness.isOwn arn

/-- Load balancers that are the same but for their identities, which correspond. -/
structure SameBalancer
    (likeness : Likeness)
    (balancer balancer' : LoadBalancer) : Prop where
  same : likeness.same balancer.identity balancer'.identity
  isOwn : likeness.isOwn balancer.arn
  rest : balancer' = { balancer with arn := balancer'.arn, dnsName := balancer'.dnsName }

theorem SameBalancer.ownHandle
    {balancer balancer' : LoadBalancer}
    (same : likeness.SameBalancer balancer balancer') :
    likeness.OwnHandle balancer.arn balancer'.arn :=
  ⟨⟨_, _, same.same⟩, same.isOwn⟩

/-- Failures of the cloud that are the same but for handles. -/
abbrev failures (likeness : Likeness) : CloudError → CloudError → Prop :=
  CloudError.Alike likeness.SameHandle

/-- Errors that are the same but for handles. -/
abbrev errors (likeness : Likeness) : ControllerError → ControllerError → Prop :=
  ControllerError.Alike likeness.SameHandle

/-- Causes that are the same but for handles. -/
abbrev causes (likeness : Likeness) : Cause → Cause → Prop :=
  Cause.Alike likeness.SameHandle

end Likeness

/-- Results that correspond: values do, or failures do. -/
inductive Corresponds
    {Failure Failure' Value Value' : Type}
    (failures : Failure → Failure' → Prop)
    (values : Value → Value' → Prop) :
    Except Failure Value → Except Failure' Value' → Prop where
  | ok
      {value : Value}
      {value' : Value'}
      (alike : values value value') :
      Corresponds failures values (.ok value) (.ok value')
  | error
      {failure : Failure}
      {failure' : Failure'}
      (alike : failures failure failure') :
      Corresponds failures values (.error failure) (.error failure')

/-! ## Requests -/

/-- Calls to the cloud that correspond, and when answers to them do. -/
inductive CloudCall.Alike
    (likeness : Likeness) :
    (call call' : CloudCall) → (call.Answer → call'.Answer → Prop) → Prop where
  | findLoadBalancer :
      Alike likeness (.findLoadBalancer likeness.name) (.findLoadBalancer likeness.name)
        (Option.Rel likeness.SameBalancer)
  | createLoadBalancer
      {request : CreateRequest}
      (mayCreate : likeness.mayCreate request) :
      Alike likeness (.createLoadBalancer request) (.createLoadBalancer request)
        likeness.SameBalancer
  | deleteLoadBalancer
      {arn arn' : String}
      (own : likeness.OwnHandle arn arn') :
      Alike likeness (.deleteLoadBalancer arn) (.deleteLoadBalancer arn') fun _ _ => True
  | setIpAddressType
      {arn arn' : String}
      (own : likeness.OwnHandle arn arn')
      (ipAddressType : IpAddressType) :
      Alike likeness (.setIpAddressType arn ipAddressType) (.setIpAddressType arn' ipAddressType)
        fun _ _ => True
  | setSubnets
      {arn arn' : String}
      (own : likeness.OwnHandle arn arn')
      (subnets : List String) :
      Alike likeness (.setSubnets arn subnets) (.setSubnets arn' subnets) fun _ _ => True
  | readAttributes
      {arn arn' : String}
      (own : likeness.OwnHandle arn arn') :
      Alike likeness (.readAttributes arn) (.readAttributes arn')
        fun (attributes attributes' : Table String) => attributes = attributes'
  | modifyAttributes
      {arn arn' : String}
      (own : likeness.OwnHandle arn arn')
      (attributes : Table String) :
      Alike likeness (.modifyAttributes arn attributes) (.modifyAttributes arn' attributes)
        fun _ _ => True
  | readWebAcl
      {arn arn' : String}
      (own : likeness.OwnHandle arn arn') :
      Alike likeness (.readWebAcl arn) (.readWebAcl arn')
        fun (current current' : Option WebAclSummary) => current = current'
  | associateWebAcl
      {arn arn' : String}
      (own : likeness.OwnHandle arn arn')
      (webAclId : String) :
      Alike likeness (.associateWebAcl arn webAclId) (.associateWebAcl arn' webAclId)
        fun _ _ => True
  | disassociateWebAcl
      {arn arn' : String}
      (own : likeness.OwnHandle arn arn') :
      Alike likeness (.disassociateWebAcl arn) (.disassociateWebAcl arn') fun _ _ => True
  | checkWebAcl
      (webAclId : String) :
      Alike likeness (.checkWebAcl webAclId) (.checkWebAcl webAclId) Eq
  | findSecurityGroups
      (names : List String) :
      Alike likeness (.findSecurityGroups names) (.findSecurityGroups names) Eq
  | findSubnets
      (names : List String) :
      Alike likeness (.findSubnets names) (.findSubnets names) Eq
  | findClusterSubnets
      (scheme : Scheme) :
      Alike likeness (.findClusterSubnets scheme) (.findClusterSubnets scheme) Eq

/-- Calls to collaborators that correspond, and when answers to them do. -/
inductive CollaboratorCall.Alike
    (likeness : Likeness) :
    (call call' : CollaboratorCall) → (call.Answer → call'.Answer → Prop) → Prop where
  | convergeAttributes
      {arn arn' : String}
      (own : likeness.OwnHandle arn arn')
      (desired : Table String) :
      Alike likeness (.convergeAttributes arn desired) (.convergeAttributes arn' desired)
        fun _ _ => True
  | convergeTargetGroups
      (ingress : Ingress) :
      Alike likeness (.convergeTargetGroups ingress) (.convergeTargetGroups ingress) Eq
  | convergeListeners
      {arn arn' : String}
      (own : likeness.OwnHandle arn arn')
      (ingress : Ingress)
      (targetGroups : TargetGroupSet) :
      Alike likeness (.convergeListeners arn ingress targetGroups)
        (.convergeListeners arn' ingress targetGroups) fun _ _ => True
  | collectTargetGroups
      (inUse : TargetGroupSet) :
      Alike likeness (.collectTargetGroups inUse) (.collectTargetGroups inUse) Eq
  | convergeSecurityGroups
      {association association' : SecurityGroupAssociation}
      (own : likeness.OwnHandle association.loadBalancerArn association'.loadBalancerArn)
      (rest :
        association' =
          { association with loadBalancerArn := association'.loadBalancerArn }) :
      Alike likeness (.convergeSecurityGroups association) (.convergeSecurityGroups association')
        fun _ _ => True
  | deleteSecurityGroups
      {association association' : SecurityGroupAssociation}
      (own : likeness.OwnHandle association.loadBalancerArn association'.loadBalancerArn)
      (rest :
        association' =
          { association with loadBalancerArn := association'.loadBalancerArn }) :
      Alike likeness (.deleteSecurityGroups association) (.deleteSecurityGroups association')
        fun _ _ => True
  | deleteListeners
      {arn arn' : String}
      (own : likeness.OwnHandle arn arn') :
      Alike likeness (.deleteListeners arn) (.deleteListeners arn') fun _ _ => True
  | deleteTargetGroups
      (key : IngressKey) :
      Alike likeness (.deleteTargetGroups key) (.deleteTargetGroups key) Eq

/-- Requests that correspond, and when replies to them do. -/
inductive Request.Alike
    (likeness : Likeness) :
    (asked asked' : Request) → (asked.Reply → asked'.Reply → Prop) → Prop where
  | annotationsOf
      (key : IngressKey) :
      Alike likeness (.annotationsOf key) (.annotationsOf key) (Corresponds likeness.causes Eq)
  | configuration :
      Alike likeness .configuration .configuration fun configuration configuration' =>
        configuration = configuration' ∧ likeness.inForce configuration
  | checkpoint
      (operation : String) :
      Alike likeness (.checkpoint operation) (.checkpoint operation)
        (Corresponds likeness.failures Eq)
  | cloud
      {call call' : CloudCall}
      {answers : call.Answer → call'.Answer → Prop}
      (alike : call.Alike likeness call' answers) :
      Alike likeness (.cloud call) (.cloud call') (Corresponds likeness.failures answers)
  | collaborator
      {call call' : CollaboratorCall}
      {answers : call.Answer → call'.Answer → Prop}
      (alike : call.Alike likeness call' answers) :
      Alike likeness (.collaborator call) (.collaborator call')
        (Corresponds likeness.causes answers)
  | report
      (event event' : Event) :
      Alike likeness (.report event) (.report event') fun _ _ => True

/-! ## Programs -/

namespace Program

variable {First First' Second Second' State : Type} {likeness : Likeness}

/-- Programs that ask for what corresponds and, while the replies correspond, come to results that
do. -/
inductive Alike
    (likeness : Likeness)
    (results : First → First' → Prop) :
    Program First → Program First' → Prop where
  | done
      {value : First}
      {value' : First'}
      (alike : results value value') :
      Alike likeness results (.done value) (.done value')
  | request
      {asked asked' : Request}
      {replies : asked.Reply → asked'.Reply → Prop}
      {next : asked.Reply → Program First}
      {next' : asked'.Reply → Program First'}
      (alike : asked.Alike likeness asked' replies)
      (rest : ∀ reply reply', replies reply reply' →
        Alike likeness results (next reply) (next' reply')) :
      Alike likeness results (.request asked next) (.request asked' next')

/-- Programs that are alike go on to be alike if they do so from all results that correspond. -/
theorem Alike.bind
    {results : First → First' → Prop}
    {results' : Second → Second' → Prop}
    {program : Program First}
    {program' : Program First'}
    {next : First → Program Second}
    {next' : First' → Program Second'}
    (first : program.Alike likeness results program')
    (rest : ∀ value value', results value value' →
      (next value).Alike likeness results' (next' value')) :
    (program.bind next).Alike likeness results' (program'.bind next') := by
  induction first with
  | done alike => exact rest _ _ alike
  | request alike _ ih => exact .request alike ih

/-- A program that is alike to itself asks only for what the likeness allows, in every run in which
the replies are as the likeness expects; what these exchanges preserve, the run preserves. -/
theorem Alike.keeps
    {results : First → First → Prop}
    {program program' : Program First}
    (alike : program.Alike likeness results program')
    (itself : program' = program)
    (answer : (asked : Request) → State → asked.Reply × State)
    {Invariant : State → Prop}
    (preserved :
      ∀ asked replies state, asked.Alike likeness asked replies → Invariant state →
        replies (answer asked state).1 (answer asked state).1 ∧
          Invariant (answer asked state).2)
    (state : State)
    (initial : Invariant state) :
    Invariant (program.run answer state).2 ∧
      ∀ exchange ∈ program.transcript answer state,
        ∃ replies, exchange.asked.Alike likeness exchange.asked replies := by
  induction alike generalizing state with
  | done alike =>
      constructor
      · exact initial
      · intro exchange member
        cases member
  | @request asked asked' replies next next' alike rest ih =>
      injection itself with sameAsked sameNext
      subst sameAsked
      cases sameNext
      rcases preserved asked' replies state alike initial with ⟨expected, kept⟩
      rcases ih _ _ expected rfl (answer asked' state).2 kept with ⟨last, later⟩
      constructor
      · exact last
      · rw [transcript_request]
        intro exchange member
        rcases List.mem_cons.mp member with rfl | isLater
        · exact ⟨replies, alike⟩
        · exact later exchange isLater

end Program

/-! ## Attempts -/

namespace Attempt

variable {Failure Failure' Other Other' First First' Second Second' Value Value' : Type}
  {likeness : Likeness}

/-- Attempts that go on alike and come to corresponding values or failures. -/
def Alike
    (likeness : Likeness)
    (failures : Failure → Failure' → Prop)
    (values : Value → Value' → Prop)
    (attempt : Attempt Failure Value)
    (attempt' : Attempt Failure' Value') : Prop :=
  Program.Alike likeness (Corresponds failures values) (ExceptT.run attempt) (ExceptT.run attempt')

namespace Alike

variable {failures : Failure → Failure' → Prop} {values : Value → Value' → Prop}

theorem pure
    {value : Value}
    {value' : Value'}
    (alike : values value value') :
    Alike likeness failures values (Pure.pure value) (Pure.pure value') :=
  .done (.ok alike)

theorem throw
    {failure : Failure}
    {failure' : Failure'}
    (alike : failures failure failure') :
    Alike likeness failures values (MonadExcept.throw failure : Attempt Failure Value)
      (MonadExcept.throw failure' : Attempt Failure' Value') :=
  .done (.error alike)

theorem ofExcept
    {result : Except Failure Value}
    {result' : Except Failure' Value'}
    (alike : Corresponds failures values result result') :
    Alike likeness failures values (ExceptT.mk (.done result) : Attempt Failure Value)
      (ExceptT.mk (.done result') : Attempt Failure' Value') :=
  .done alike

theorem ite
    {condition : Prop}
    [Decidable condition]
    {first second : Attempt Failure Value}
    {first' second' : Attempt Failure' Value'}
    (whenTrue : Alike likeness failures values first first')
    (whenFalse : Alike likeness failures values second second') :
    Alike likeness failures values (if condition then first else second)
      (if condition then first' else second') := by
  by_cases holds : condition
  · rwa [if_pos holds, if_pos holds]
  · rwa [if_neg holds, if_neg holds]

theorem bind
    {middle : First → First' → Prop}
    {attempt : Attempt Failure First}
    {attempt' : Attempt Failure' First'}
    {next : First → Attempt Failure Value}
    {next' : First' → Attempt Failure' Value'}
    (first : Alike likeness failures middle attempt attempt')
    (rest : ∀ value value', middle value value' →
      Alike likeness failures values (next value) (next' value')) :
    Alike likeness failures values (attempt >>= next) (attempt' >>= next') := by
  rw [Alike, ExceptT.run_bind, ExceptT.run_bind]
  apply Program.Alike.bind first
  intro result result' alike
  cases alike with
  | ok alike => exact rest _ _ alike
  | error alike => exact .done (.error alike)

theorem mapFailure
    {failures' : Other → Other' → Prop}
    {attempt : Attempt Failure Value}
    {attempt' : Attempt Failure' Value'}
    {wrap : Failure → Other}
    {wrap' : Failure' → Other'}
    (first : Alike likeness failures values attempt attempt')
    (wraps : ∀ failure failure', failures failure failure' →
      failures' (wrap failure) (wrap' failure')) :
    Alike likeness failures' values (attempt.mapFailure wrap) (attempt'.mapFailure wrap') := by
  apply Program.Alike.bind first
  intro result result' alike
  cases alike with
  | ok alike => exact .done (.ok alike)
  | error alike => exact .done (.error (wraps _ _ alike))

/-- Reports make no difference if one is made in both attempts or in neither. -/
theorem reporting
    {attempt : Attempt Failure Value}
    {attempt' : Attempt Failure' Value'}
    {event : Except Failure Value → Option Event}
    {event' : Except Failure' Value' → Option Event}
    (first : Alike likeness failures values attempt attempt')
    (both : ∀ result result', Corresponds failures values result result' →
      (event result).isSome = (event' result').isSome) :
    Alike likeness failures values (attempt.reporting event) (attempt'.reporting event') := by
  apply Program.Alike.bind first
  intro result result' alike
  have reported := both result result' alike
  cases made : event result with
  | none =>
      rw [made, Option.isSome_none, eq_comm, Option.isSome_eq_false_iff, Option.isNone_iff_eq_none]
        at reported
      simp only [reported]
      exact .done alike
  | some shown =>
      rw [made, Option.isSome_some, eq_comm, Option.isSome_iff_exists] at reported
      rcases reported with ⟨shown', made'⟩
      simp only [made']
      exact .request (.report shown shown') fun _ _ _ => .done alike

/-! ### Single requests -/

theorem ofReply
    {Reason Reason' : Type}
    {reasons : Reason → Reason' → Prop}
    {wrap : Reason → Failure}
    {wrap' : Reason' → Failure'}
    (wraps : ∀ reason reason', reasons reason reason' → failures (wrap reason) (wrap' reason'))
    {reply : Except Reason Value}
    {reply' : Except Reason' Value'}
    (alike : Corresponds reasons values reply reply') :
    Program.Alike likeness (Corresponds failures values) (.done (reply.mapError wrap))
      (.done (reply'.mapError wrap')) := by
  cases alike with
  | ok alike => exact .done (.ok alike)
  | error alike => exact .done (.error (wraps _ _ alike))

theorem cloud
    {call call' : CloudCall}
    {answers : call.Answer → call'.Answer → Prop}
    {wrap : CloudError → Failure}
    {wrap' : CloudError → Failure'}
    (alike : call.Alike likeness call' answers)
    (wraps : ∀ error error', likeness.failures error error' →
      failures (wrap error) (wrap' error')) :
    Alike likeness failures answers (Attempt.cloud call wrap) (Attempt.cloud call' wrap') :=
  .request (.cloud alike) fun _ _ replied => ofReply wraps replied

theorem collaborator
    {call call' : CollaboratorCall}
    {answers : call.Answer → call'.Answer → Prop}
    {wrap : Cause → Failure}
    {wrap' : Cause → Failure'}
    (alike : call.Alike likeness call' answers)
    (wraps : ∀ cause cause', likeness.causes cause cause' →
      failures (wrap cause) (wrap' cause')) :
    Alike likeness failures answers (Attempt.collaborator call wrap)
      (Attempt.collaborator call' wrap') :=
  .request (.collaborator alike) fun _ _ replied => ofReply wraps replied

theorem checkpoint
    {operation : String}
    {wrap : CloudError → Failure}
    {wrap' : CloudError → Failure'}
    (wraps : ∀ error error', likeness.failures error error' →
      failures (wrap error) (wrap' error')) :
    Alike likeness failures Eq (Attempt.checkpoint operation wrap)
      (Attempt.checkpoint operation wrap') :=
  .request (.checkpoint operation) fun _ _ replied => ofReply wraps replied

theorem annotationsOf
    {key : IngressKey}
    {wrap : Cause → Failure}
    {wrap' : Cause → Failure'}
    (wraps : ∀ cause cause', likeness.causes cause cause' →
      failures (wrap cause) (wrap' cause')) :
    Alike likeness failures Eq (Attempt.annotationsOf key wrap)
      (Attempt.annotationsOf key wrap') :=
  .request (.annotationsOf key) fun _ _ replied => ofReply wraps replied

theorem configuration :
    Alike likeness failures
      (fun configuration configuration' =>
        configuration = configuration' ∧ likeness.inForce configuration)
      Attempt.configuration Attempt.configuration :=
  .request .configuration fun _ _ same => .done (.ok same)

theorem report
    (event event' : Event) :
    Alike likeness failures (fun _ _ => True) (Attempt.report event) (Attempt.report event') :=
  .request (.report event event') fun _ _ _ => .done (.ok trivial)

end Alike

end Attempt

end IngressConvergence
