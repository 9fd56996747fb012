import IngressConvergence.Proofs.Wire.Document
import IngressConvergence.Proofs.Wire.Timestamp
import IngressConvergence.Wire.Annotations
import IngressConvergence.Wire.Configuration

/-!
# Everything that travels is read back

Each type that travels is read back from what is written for it, by the laws of `Document.ReadsBack` for
its fields.  A load balancer is so if its time of creation is a point in time that there is, and one that
was read has no other.  The main statement is `WireType.readsBack_everyType`: whatever is written is read
back, and whatever was read, in whichever of the forms that reading takes, is read back once it is written.
-/

namespace IngressConvergence

open Document

/-! ## Words -/

theorem Scheme.readsBack :
    ReadsBack toDocument ofDocument? :=
  readsBack_label ofLabel?_label

theorem IpAddressType.readsBack :
    ReadsBack toDocument ofDocument? :=
  readsBack_label ofLabel?_label

theorem LoadBalancerKind.readsBack :
    ReadsBack toDocument ofDocument? :=
  readsBack_label ofLabel?_label

theorem ListenProtocol.readsBack :
    ReadsBack toDocument ofDocument? :=
  readsBack_label ofLabel?_label

/-! ## Load balancers and what stands around them -/

theorem AvailabilityZone.readsBack :
    ReadsBack toDocument ofDocument? := by
  intro zone
  simp [toDocument, ofDocument?, fields?, List.lookup_cons, required?_some readsBack_text]

theorem CreateRequest.readsBack :
    ReadsBack toDocument ofDocument? := by
  intro request
  simp [toDocument, ofDocument?, fields?, List.lookup_cons, required?_some readsBack_text,
    required?_some LoadBalancerKind.readsBack, required?_some Scheme.readsBack,
    required?_some IpAddressType.readsBack, required?_some readsBack_texts,
    withDefault?_some readsBack_text.table]

theorem WebAclSummary.readsBack :
    ReadsBack toDocument ofDocument? := by
  intro summary
  simp [toDocument, ofDocument?, fields?, List.lookup_cons, lookup_field?, required?_some readsBack_text,
    optional?_text]

theorem SecurityGroup.readsBack :
    ReadsBack toDocument ofDocument? := by
  intro group
  simp [toDocument, ofDocument?, fields?, List.lookup_cons, required?_some readsBack_text]

theorem Timestamp.ofDocument?_toDocument
    {time : Timestamp}
    (valid : time.isValid = true) :
    ofDocument? time.toDocument = some time := by
  rw [toDocument, ofDocument?, text?, Option.bind_some, ofText?_text valid]

theorem LoadBalancer.ofDocument?_toDocument
    {balancer : LoadBalancer}
    (valid : ∀ time ∈ balancer.createdTime, time.isValid = true) :
    ofDocument? balancer.toDocument = some balancer := by
  have createdTime :
      optional? Timestamp.ofDocument? (balancer.createdTime.map Timestamp.toDocument) =
        some balancer.createdTime :=
    optional?_map (fun _ => Document.noConfusion) fun time held =>
      Timestamp.ofDocument?_toDocument (valid time held)
  simp [toDocument, ofDocument?, fields?, List.lookup_cons, lookup_field?, required?_some readsBack_text,
    required?_some LoadBalancerKind.readsBack, required?_some Scheme.readsBack,
    required?_some IpAddressType.readsBack, required?_some AvailabilityZone.readsBack.list, createdTime]

theorem Timestamp.isValid_of_ofDocument?
    {document : Document}
    {time : Timestamp}
    (read : ofDocument? document = some time) :
    time.isValid = true := by
  rcases Option.bind_eq_some_iff.mp read with ⟨text, -, read⟩
  exact isValid_of_ofText? read

/-- A load balancer that was read was created at a point in time that there is, if at any. -/
theorem LoadBalancer.isValid_of_ofDocument?
    {document : Document}
    {balancer : LoadBalancer}
    (read : ofDocument? document = some balancer) :
    ∀ time ∈ balancer.createdTime, time.isValid = true := by
  simp only [ofDocument?, Option.bind_eq_bind, Option.bind_eq_some_iff] at read
  rcases read with
    ⟨field, -, _, -, _, -, _, -, _, -, _, -, _, -, _, -, created, createdRead, gives⟩
  cases gives
  rintro time ⟨⟩
  rcases exists_of_optional? createdRead with ⟨_, timeRead⟩
  exact Timestamp.isValid_of_ofDocument? timeRead

/-! ## Annotations -/

theorem ListenPort.readsBack :
    ReadsBack toDocument ofDocument? := by
  intro listen
  simp [toDocument, ofDocument?, fields?, List.lookup_cons, withDefault?_some ListenProtocol.readsBack,
    required?_some readsBack_port]

theorem TagAnnotations.readsBack :
    ReadsBack toDocument ofDocument? := by
  intro tags
  simp [toDocument, ofDocument?, fields?, List.lookup_cons, withDefault?_some readsBack_text.table]

theorem LoadBalancerAnnotations.readsBack :
    ReadsBack toDocument ofDocument? := by
  intro annotations
  have ipAddressType :
      optional? IpAddressType.ofDocument?
          (annotations.ipAddressType.map IpAddressType.toDocument) =
        some annotations.ipAddressType :=
    optional?_map (fun _ => Document.noConfusion) fun held _ => IpAddressType.readsBack held
  simp [toDocument, ofDocument?, fields?, List.lookup_cons, List.lookup_append, lookup_field?,
    withDefault?_some Scheme.readsBack, ipAddressType, withDefault?_some readsBack_texts,
    withDefault?_some ListenPort.readsBack.list, optional?_text,
    withDefault?_some readsBack_text.table]

theorem IngressAnnotations.readsBack :
    ReadsBack toDocument ofDocument? := by
  intro annotations
  simp [toDocument, ofDocument?, fields?, List.lookup_cons,
    withDefault?_some LoadBalancerAnnotations.readsBack, withDefault?_some TagAnnotations.readsBack]

/-! ## Keys and configurations -/

theorem IngressKey.readsBack :
    ReadsBack toDocument ofDocument? := by
  intro key
  simp [toDocument, ofDocument?, fields?, List.lookup_cons, required?_some readsBack_text]

theorem Configuration.readsBack :
    ReadsBack toDocument ofDocument? := by
  intro configuration
  simp [toDocument, ofDocument?, fields?, List.lookup_cons, lookup_field?,
    withDefault?_some readsBack_truth, withDefault?_some readsBack_texts.table,
    withDefault?_some readsBack_text, optional?_text]

/-! ## All types -/

/-- The types that travel. -/
inductive WireType where
  | scheme
  | ipAddressType
  | loadBalancerKind
  | availabilityZone
  | loadBalancer
  | createRequest
  | webAclSummary
  | securityGroup
  | ingressAnnotations
  | loadBalancerAnnotations
  | listenPort
  | listenProtocol
  | tagAnnotations
  | configuration
  | ingressKey

namespace WireType

/-- The values of a type that travels. -/
def Value : WireType → Type
  | .scheme => Scheme
  | .ipAddressType => IpAddressType
  | .loadBalancerKind => LoadBalancerKind
  | .availabilityZone => AvailabilityZone
  | .loadBalancer => LoadBalancer
  | .createRequest => CreateRequest
  | .webAclSummary => WebAclSummary
  | .securityGroup => SecurityGroup
  | .ingressAnnotations => IngressAnnotations
  | .loadBalancerAnnotations => LoadBalancerAnnotations
  | .listenPort => ListenPort
  | .listenProtocol => ListenProtocol
  | .tagAnnotations => TagAnnotations
  | .configuration => Configuration
  | .ingressKey => IngressKey

/-- How a value of a type is written. -/
def write : (type : WireType) → type.Value → Document
  | .scheme => Scheme.toDocument
  | .ipAddressType => IpAddressType.toDocument
  | .loadBalancerKind => LoadBalancerKind.toDocument
  | .availabilityZone => AvailabilityZone.toDocument
  | .loadBalancer => LoadBalancer.toDocument
  | .createRequest => CreateRequest.toDocument
  | .webAclSummary => WebAclSummary.toDocument
  | .securityGroup => SecurityGroup.toDocument
  | .ingressAnnotations => IngressAnnotations.toDocument
  | .loadBalancerAnnotations => LoadBalancerAnnotations.toDocument
  | .listenPort => ListenPort.toDocument
  | .listenProtocol => ListenProtocol.toDocument
  | .tagAnnotations => TagAnnotations.toDocument
  | .configuration => Configuration.toDocument
  | .ingressKey => IngressKey.toDocument

/-- How a value of a type is read. -/
def read? : (type : WireType) → Document → Option type.Value
  | .scheme => Scheme.ofDocument?
  | .ipAddressType => IpAddressType.ofDocument?
  | .loadBalancerKind => LoadBalancerKind.ofDocument?
  | .availabilityZone => AvailabilityZone.ofDocument?
  | .loadBalancer => LoadBalancer.ofDocument?
  | .createRequest => CreateRequest.ofDocument?
  | .webAclSummary => WebAclSummary.ofDocument?
  | .securityGroup => SecurityGroup.ofDocument?
  | .ingressAnnotations => IngressAnnotations.ofDocument?
  | .loadBalancerAnnotations => LoadBalancerAnnotations.ofDocument?
  | .listenPort => ListenPort.ofDocument?
  | .listenProtocol => ListenProtocol.ofDocument?
  | .tagAnnotations => TagAnnotations.ofDocument?
  | .configuration => Configuration.ofDocument?
  | .ingressKey => IngressKey.ofDocument?

/-- Whether a value holds only points in time that there are.  Load balancers alone hold any. -/
def IsTimely : (type : WireType) → type.Value → Prop
  | .loadBalancer => fun balancer => ∀ time ∈ balancer.createdTime, time.isValid = true
  | _ => fun _ => True

/-- What is written for a value is read back as that value. -/
theorem read?_write
    (type : WireType)
    (value : type.Value)
    (timely : type.IsTimely value) :
    type.read? (type.write value) = some value := by
  cases type with
  | scheme => exact Scheme.readsBack value
  | ipAddressType => exact IpAddressType.readsBack value
  | loadBalancerKind => exact LoadBalancerKind.readsBack value
  | availabilityZone => exact AvailabilityZone.readsBack value
  | loadBalancer => exact LoadBalancer.ofDocument?_toDocument timely
  | createRequest => exact CreateRequest.readsBack value
  | webAclSummary => exact WebAclSummary.readsBack value
  | securityGroup => exact SecurityGroup.readsBack value
  | ingressAnnotations => exact IngressAnnotations.readsBack value
  | loadBalancerAnnotations => exact LoadBalancerAnnotations.readsBack value
  | listenPort => exact ListenPort.readsBack value
  | listenProtocol => exact ListenProtocol.readsBack value
  | tagAnnotations => exact TagAnnotations.readsBack value
  | configuration => exact Configuration.readsBack value
  | ingressKey => exact IngressKey.readsBack value

/-- What is read holds only points in time that there are. -/
theorem isTimely_of_read?
    (type : WireType)
    {document : Document}
    {value : type.Value}
    (read : type.read? document = some value) :
    type.IsTimely value := by
  cases type with
  | loadBalancer => exact LoadBalancer.isValid_of_ofDocument? read
  | _ => trivial

/-- Every value that travels is read back from what is written for it, whatever it was read from. -/
theorem readsBack_everyType
    (type : WireType) :
    (∀ value, type.IsTimely value → type.read? (type.write value) = some value) ∧
      ∀ document value,
        type.read? document = some value → type.read? (type.write value) = some value := by
  constructor
  · exact type.read?_write
  · intro document value read
    exact type.read?_write value (type.isTimely_of_read? read)

/-- A load balancer of a leap second in a year of five digits, and annotations given as the list of their
fields, with an unknown name, a field that holds nothing and several that are missing. -/
theorem readsBack_leapSecond_and_fieldList :
    (IsTimely .loadBalancer
          ⟨"arn:1", "web", "web.example", .application, .internal, .dualstack,
            [⟨"zone-a", "subnet-1"⟩], some ⟨10000, 2, 29, 23, 59, 60, 500000000⟩⟩ ∧
        read? .loadBalancer
            (write .loadBalancer
              ⟨"arn:1", "web", "web.example", .application, .internal, .dualstack,
                [⟨"zone-a", "subnet-1"⟩], some ⟨10000, 2, 29, 23, 59, 60, 500000000⟩⟩) =
          some
            ⟨"arn:1", "web", "web.example", .application, .internal, .dualstack,
              [⟨"zone-a", "subnet-1"⟩], some ⟨10000, 2, 29, 23, 59, 60, 500000000⟩⟩) ∧
      read? .ingressAnnotations
          (.list [.record [("webAclId", .nothing), ("unknown", .truth true)]]) = some {} ∧
        read? .ingressAnnotations (write .ingressAnnotations {}) = some {} := by
  have timely :
      IsTimely .loadBalancer
        ⟨"arn:1", "web", "web.example", .application, .internal, .dualstack,
          [⟨"zone-a", "subnet-1"⟩], some ⟨10000, 2, 29, 23, 59, 60, 500000000⟩⟩ := by
    rintro time ⟨⟩
    rfl
  have read :
      read? .ingressAnnotations
        (.list [.record [("webAclId", .nothing), ("unknown", .truth true)]]) = some {} := by
    rfl
  exact
    ⟨⟨timely, (readsBack_everyType .loadBalancer).1 _ timely⟩, read,
      (readsBack_everyType .ingressAnnotations).2 _ _ read⟩

end WireType

end IngressConvergence
