import IngressConvergence.Annotations
import IngressConvergence.CallContext
import IngressConvergence.Configuration.Basic
import IngressConvergence.ControllerError

/-!
# The store

The store knows the annotations of ingresses, already read, and the configuration in force.  The
controller only reads it; annotations are not given out under a context that has ended.
-/

namespace IngressConvergence

/-- The annotations of ingresses and the configuration. -/
structure Store where
  annotations : IngressKey → Option IngressAnnotations
  configuration : Configuration

namespace Store

/-- The store that has no annotations yet. -/
def empty (configuration : Configuration) : Store := ⟨fun _ => none, configuration⟩

/-- Store the annotations of an ingress in place of those it had. -/
def setAnnotations (store : Store) (key : IngressKey) (annotations : IngressAnnotations) : Store :=
  { store with
    annotations := fun other => if other = key then some annotations else store.annotations other }

/-- Forget the annotations of an ingress. -/
def removeAnnotations (store : Store) (key : IngressKey) : Store :=
  { store with annotations := fun other => if other = key then none else store.annotations other }

/-- Put another configuration in force. -/
def setConfiguration (store : Store) (configuration : Configuration) : Store :=
  { store with configuration }

/-- The annotations of an ingress, asked for under a context. -/
def annotationsOf (store : Store) (context : CallContext) (timeline : Timeline)
    (key : IngressKey) : Except Cause IngressAnnotations :=
  match context.check timeline "GetIngressAnnotations" with
  | .error error => .error (.cloud error)
  | .ok () =>
    match store.annotations key with
    | some annotations => .ok annotations
    | none => .error (.text ("no annotations cached for ingress " ++ key.text))

end Store

end IngressConvergence
