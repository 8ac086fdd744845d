import Orchestra.Core.Float
import Orchestra.Core.Hashing

/-!
# The frozen vocabulary

The pydantic models the rest of the program shares, with the values their enumerations stand for on
the wire. A model's `modelDump` is `model_dump(mode="json")`: its fields in declaration order.
-/

namespace Orchestra

/-! ## Purposes and data views -/

/-- Business purpose. Delegation cannot change it. -/
structure Purpose where
  code : String
  description : String := ""
  deriving DecidableEq

def Purpose.modelDump (p : Purpose) : Json :=
  .obj [("code", .str p.code), ("description", .str p.description)]

/-- The shapes of a data view. -/
inductive ViewShape where
  | reference
  | fields
  deriving DecidableEq

def ViewShape.value : ViewShape → String
  | .reference => "reference"
  | .fields => "fields"

/-- A bounded projection of a data source. -/
structure DataView where
  name : String
  shape : ViewShape
  fields : List String := []
  source : Option String := none
  deriving DecidableEq

def DataView.modelDump (v : DataView) : Json :=
  .obj [("name", .str v.name), ("shape", .str v.shape.value), ("fields", .arr (v.fields.map .str)),
    ("source", .ofOption v.source)]

/-! ## Labels, effects and capabilities -/

/-- Confidentiality tiers, from the least to the most sensitive. -/
inductive DataClassification where
  | public_ | partner | internal | restricted
  deriving DecidableEq

def DataClassification.value : DataClassification → String
  | .public_ => "public"
  | .partner => "partner"
  | .internal => "internal"
  | .restricted => "restricted"

/-- How much the data origin can be trusted. -/
inductive SourceTrust where
  | synthetic | public_ | partner | internal | restricted
  deriving DecidableEq

def SourceTrust.value : SourceTrust → String
  | .synthetic => "synthetic"
  | .public_ => "public"
  | .partner => "partner"
  | .internal => "internal"
  | .restricted => "restricted"

structure SecurityLabel where
  classification : DataClassification
  residency : String := "local"
  sourceTrust : SourceTrust := .internal
  retentionDays : ℕ := 30
  owner : String := "tenant:root"
  deriving DecidableEq

def SecurityLabel.modelDump (l : SecurityLabel) : Json :=
  .obj [("classification", .str l.classification.value), ("residency", .str l.residency),
    ("source_trust", .str l.sourceTrust.value), ("retention_days", .int l.retentionDays),
    ("owner", .str l.owner)]

/-- Side-effect categories a node may declare. -/
inductive EffectKind where
  | read | write | delete | payment | publish | notify
  deriving DecidableEq

def EffectKind.value : EffectKind → String
  | .read => "read"
  | .write => "write"
  | .delete => "delete"
  | .payment => "payment"
  | .publish => "publish"
  | .notify => "notify"

structure Effect where
  kind : EffectKind
  target : Option String := none
  deriving DecidableEq

def Effect.modelDump (e : Effect) : Json :=
  .obj [("kind", .str e.kind.value), ("target", .ofOption e.target)]

inductive CapabilityKind where
  | localModel | publicModel | a2aAgent | tool | human | sink
  deriving DecidableEq

def CapabilityKind.value : CapabilityKind → String
  | .localModel => "local-model"
  | .publicModel => "public-model"
  | .a2aAgent => "a2a-agent"
  | .tool => "tool"
  | .human => "human"
  | .sink => "sink"

inductive IntegrationLevel where
  | enforce | recommend | observe
  deriving DecidableEq

def IntegrationLevel.value : IntegrationLevel → String
  | .enforce => "enforce"
  | .recommend => "recommend"
  | .observe => "observe"

/-- Static registration of a capability. -/
structure CapabilityManifest where
  capabilityId : String
  name : String
  kind : CapabilityKind
  version : String := "0.1.0"
  description : String := ""
  endpoint : String
  integrationLevel : IntegrationLevel := .enforce
  acceptsLabels : List SecurityLabel := []
  producesLabels : List SecurityLabel := []
  declaredEffects : List Effect := []
  supportsIdempotency : Bool := true
  supportsCancel : Bool := false
  supportsStatusQuery : Bool := true
  costEstimateUsd : ℚ := 0
  p50LatencyMs : ℕ := 1000
  p95LatencyMs : ℕ := 3000
  tags : List (String × String) := []
  /-- The view of the field manifest that egress is projected through. -/
  egressViewName : Option String := none
  deriving DecidableEq

def CapabilityManifest.modelDump (F : FloatModel) (m : CapabilityManifest) : Json :=
  .obj [("capability_id", .str m.capabilityId), ("name", .str m.name), ("kind", .str m.kind.value),
    ("version", .str m.version), ("description", .str m.description),
    ("endpoint", .str m.endpoint), ("integration_level", .str m.integrationLevel.value),
    ("accepts_labels", .arr (m.acceptsLabels.map SecurityLabel.modelDump)),
    ("produces_labels", .arr (m.producesLabels.map SecurityLabel.modelDump)),
    ("declared_effects", .arr (m.declaredEffects.map Effect.modelDump)),
    ("supports_idempotency", .bool m.supportsIdempotency),
    ("supports_cancel", .bool m.supportsCancel),
    ("supports_status_query", .bool m.supportsStatusQuery),
    ("cost_estimate_usd", .float (F.repr m.costEstimateUsd)),
    ("p50_latency_ms", .int m.p50LatencyMs), ("p95_latency_ms", .int m.p95LatencyMs),
    ("tags", .obj (m.tags.map fun t ↦ (t.1, .str t.2))),
    ("egress_view_name", .ofOption m.egressViewName)]

/-- The content-addressed identifier of this manifest snapshot. -/
def CapabilityManifest.manifestId (P : Primitives) (F : FloatModel) (m : CapabilityManifest) :
    String :=
  contentAddressedId P "manifest" (m.modelDump F)

theorem CapabilityManifest.manifestId_ne_empty {P : Primitives} {F : FloatModel}
    (m : CapabilityManifest) : m.manifestId P F ≠ "" :=
  contentAddressedId_ne_empty "manifest" (m.modelDump F)

/-! ## Templates and contracts -/

/-- Template-level description of a node, before binding. -/
structure NodeSpec where
  nodeId : String
  name : String
  requiresPurpose : Purpose
  requiresViews : List DataView := []
  eligibleCapabilityKinds : List CapabilityKind := []
  declaredEffects : List Effect := []
  requiresApproval : Bool := false
  fallbackCapabilityId : Option String := none
  timeoutMs : ℤ := 30000
  deriving DecidableEq

structure EdgeSpec where
  fromNode : String
  toNode : String
  when_ : String := "always"
  deriving DecidableEq

/-- A frozen task template. -/
structure TaskTemplate where
  templateId : String
  version : String := "0.1.0"
  nodes : List NodeSpec
  edges : List EdgeSpec
  requiredPurposes : List Purpose := []
  deriving DecidableEq

/-- What an upper layer submits. -/
structure TaskContract where
  inputs : List DataView := []
  purpose : Purpose
  deriving DecidableEq

/-! ## Plans and routing -/

/-- Why the router picked a capability for a node. -/
structure RoutingDecision where
  nodeId : String
  chosenCapabilityId : String
  chosenManifestId : String
  eligibleSet : List String
  rejected : List (String × String) := []
  rationale : String
  decidedAt : String
  deriving DecidableEq

def RoutingDecision.modelDump (d : RoutingDecision) : Json :=
  .obj [("node_id", .str d.nodeId), ("chosen_capability_id", .str d.chosenCapabilityId),
    ("chosen_manifest_id", .str d.chosenManifestId),
    ("eligible_set", .arr (d.eligibleSet.map .str)),
    ("rejected", .obj (d.rejected.map fun r ↦ (r.1, .str r.2))), ("rationale", .str d.rationale),
    ("decided_at", .str d.decidedAt)]

inductive PlanNodeStatus where
  | pending | running | succeeded | failed | awaitingApproval
  deriving DecidableEq

def PlanNodeStatus.value : PlanNodeStatus → String
  | .pending => "pending"
  | .running => "running"
  | .succeeded => "succeeded"
  | .failed => "failed"
  | .awaitingApproval => "awaiting-approval"

/-- A node in a resolved plan. -/
structure PlanNode where
  nodeId : String
  capabilityId : String
  manifestId : String
  purpose : Purpose
  inputViews : List DataView
  expectedOutputs : List String
  timeoutMs : ℤ
  fallbackCapabilityId : Option String := none
  requiresApproval : Bool := false
  status : PlanNodeStatus := .pending
  deriving DecidableEq

def PlanNode.modelDump (n : PlanNode) : Json :=
  .obj [("node_id", .str n.nodeId), ("capability_id", .str n.capabilityId),
    ("manifest_id", .str n.manifestId), ("purpose", n.purpose.modelDump),
    ("input_views", .arr (n.inputViews.map DataView.modelDump)),
    ("expected_outputs", .arr (n.expectedOutputs.map .str)), ("timeout_ms", .int n.timeoutMs),
    ("fallback_capability_id", .ofOption n.fallbackCapabilityId),
    ("requires_approval", .bool n.requiresApproval), ("status", .str n.status.value)]

structure PlanEdge where
  fromNode : String
  toNode : String
  when_ : String := "always"
  deriving DecidableEq

def PlanEdge.modelDump (e : PlanEdge) : Json :=
  .obj [("from_node", .str e.fromNode), ("to_node", .str e.toNode), ("when", .str e.when_)]

/-- The signed, resolved plan. -/
structure ExecutionPlan where
  planId : String
  contractId : String
  templateId : String
  templateVersion : String
  nodes : List PlanNode
  edges : List PlanEdge
  routing : List RoutingDecision := []
  createdAt : String
  signedBy : String := "p0-local-signer"
  signature : Option String := none
  deriving DecidableEq

/-- `model_dump(mode="json", exclude={"signature"})`. -/
def ExecutionPlan.unsignedDump (p : ExecutionPlan) : Json :=
  .obj [("plan_id", .str p.planId), ("contract_id", .str p.contractId),
    ("template_id", .str p.templateId), ("template_version", .str p.templateVersion),
    ("nodes", .arr (p.nodes.map PlanNode.modelDump)),
    ("edges", .arr (p.edges.map PlanEdge.modelDump)),
    ("routing", .arr (p.routing.map RoutingDecision.modelDump)), ("created_at", .str p.createdAt),
    ("signed_by", .str p.signedBy)]

def ExecutionPlan.digest (P : Primitives) (p : ExecutionPlan) : String :=
  digestJson P p.unsignedDump

/-! ## Node grants -/

/-- Local signed credential: it binds task, node, capability, view, purpose and expiry. -/
structure NodeGrant where
  grantId : String
  taskRunId : String
  nodeRunId : String
  taskId : String
  nodeId : String
  capabilityId : String
  manifestId : String
  dataView : DataView
  purpose : Purpose
  issuedAt : String
  notBefore : String
  expiresAt : String
  audience : String := "p0"
  signature : Option String := none
  deriving DecidableEq

def NodeGrant.modelDump (g : NodeGrant) : Json :=
  .obj [("grant_id", .str g.grantId), ("task_run_id", .str g.taskRunId),
    ("node_run_id", .str g.nodeRunId), ("task_id", .str g.taskId), ("node_id", .str g.nodeId),
    ("capability_id", .str g.capabilityId), ("manifest_id", .str g.manifestId),
    ("data_view", g.dataView.modelDump), ("purpose", g.purpose.modelDump),
    ("issued_at", .str g.issuedAt), ("not_before", .str g.notBefore),
    ("expires_at", .str g.expiresAt), ("audience", .str g.audience),
    ("signature", .ofOption g.signature)]

/-! ## Adapters and egress -/

/-- What an adapter is called with. -/
structure AdapterRequest where
  grant : NodeGrant
  inputs : List (String × Json)
  dataView : DataView
  purpose : Purpose
  timeoutMs : ℤ
  metadata : List (String × Json) := []
  deriving DecidableEq

structure AdapterResult where
  outputs : List (String × Json)
  metadata : List (String × Json) := []
  deriving DecidableEq

/-- Which fields of a payload may leave the tenant, and how they are redacted. -/
structure FieldManifest where
  manifestId : String
  name : String
  version : String := "0.1.0"
  sourceView : String
  allowedFields : List String := []
  redactionRules : List (List (String × Json)) := []
  byteBudget : Option ℤ := none
  deriving DecidableEq

/-! ## Receipts -/

/-- A signed envelope, beside copies of four fields of the payload it signs. -/
structure SignedReceipt where
  receiptId : String
  taskRunId : String
  nodeRunId : String
  nodeId : String
  envelope : List (String × Json)
  createdAt : String
  deriving DecidableEq

end Orchestra
