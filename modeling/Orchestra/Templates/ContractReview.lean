import Orchestra.Core.Schema

/-!
# The contract review template

The one scenario of the program: six nodes in the order in which they run, with one fan-out and one
approval point. A plan binds every node of the template to a capability and a manifest snapshot.
-/

namespace Orchestra

namespace ContractReview

/-- `get_default_purpose`. -/
def getDefaultPurpose : Purpose where
  code := "contract-review"
  description := "Review a supplier contract and decide on the procurement write."

/-! ## Views -/

def fullContractView : DataView where
  name := "contract.full"
  shape := .fields
  fields := ["vendor_name", "buyer_name", "contract_amount", "payment_terms", "effective_date",
    "expiration_date", "termination_clause", "jurisdiction"]
  source := some "tenant.contract-repo"

def publicQueryView : DataView where
  name := "public.query"
  shape := .fields
  fields := ["vendor_id", "vendor_name", "jurisdiction"]
  source := some "facts.internal"

def reviewView : DataView where
  name := "review.summary"
  shape := .fields
  fields := ["vendor_id", "vendor_name", "public_summary", "industry_context", "risk_flags"]
  source := some "merged"

/-! ## Nodes -/

def ingestContract : NodeSpec where
  nodeId := "ingest_contract"
  name := "Ingest contract (from caller)"
  requiresPurpose := getDefaultPurpose
  requiresViews := [fullContractView]
  eligibleCapabilityKinds := [.tool]
  declaredEffects := [{ kind := .read }]
  fallbackCapabilityId := some "local.contract-extractor"
  timeoutMs := 5000

def extractFactsLocal : NodeSpec where
  nodeId := "extract_facts_local"
  name := "Local contract fact extraction"
  requiresPurpose := getDefaultPurpose
  requiresViews := [fullContractView]
  eligibleCapabilityKinds := [.localModel]
  declaredEffects := [{ kind := .read }]
  fallbackCapabilityId := some "local.contract-extractor"
  timeoutMs := 5000

def publicResearch : NodeSpec where
  nodeId := "public_research"
  name := "Public research on vendor"
  requiresPurpose := getDefaultPurpose
  requiresViews := [publicQueryView]
  eligibleCapabilityKinds := [.publicModel, .a2aAgent]
  declaredEffects := [{ kind := .read }]
  fallbackCapabilityId := some "a2a.reference-agent"
  timeoutMs := 10000

def merge : NodeSpec where
  nodeId := "merge"
  name := "Local deterministic merge"
  requiresPurpose := getDefaultPurpose
  requiresViews := [reviewView]
  eligibleCapabilityKinds := [.localModel]
  declaredEffects := [{ kind := .read }]
  fallbackCapabilityId := some "local.contract-extractor"
  timeoutMs := 5000

def humanApproval : NodeSpec where
  nodeId := "human_approval"
  name := "Human approval (one approval point)"
  requiresPurpose := getDefaultPurpose
  requiresViews := [reviewView]
  eligibleCapabilityKinds := [.human]
  declaredEffects := [{ kind := .read }]
  requiresApproval := true
  fallbackCapabilityId := some "human"
  timeoutMs := 86400000

def writeSink : NodeSpec where
  nodeId := "write_sink"
  name := "Write to Mock Procurement Sink"
  requiresPurpose := getDefaultPurpose
  requiresViews := [reviewView]
  eligibleCapabilityKinds := [.sink]
  declaredEffects := [{ kind := .write, target := some "mock-procurement" }]
  fallbackCapabilityId := some "sink.mock-procurement"
  timeoutMs := 5000

def edges : List EdgeSpec :=
  [⟨"ingest_contract", "extract_facts_local", "always"⟩,
    ⟨"extract_facts_local", "public_research", "always"⟩,
    ⟨"extract_facts_local", "merge", "always"⟩, ⟨"public_research", "merge", "always"⟩,
    ⟨"merge", "human_approval", "always"⟩, ⟨"human_approval", "write_sink", "approved"⟩]

/-- `CONTRACT_REVIEW_TEMPLATE`. -/
def template : TaskTemplate where
  templateId := "contract-review"
  version := "0.1.0"
  nodes := [ingestContract, extractFactsLocal, publicResearch, merge, humanApproval, writeSink]
  edges := edges
  requiredPurposes := [getDefaultPurpose]

/-! ## Plans -/

/-- The capability and the manifest snapshot a node is bound to. -/
structure Binding where
  spec : NodeSpec
  capabilityId : String
  manifestId : String

/-- `_build_plan_node`. -/
def buildPlanNode (b : Binding) : PlanNode where
  nodeId := b.spec.nodeId
  capabilityId := b.capabilityId
  manifestId := b.manifestId
  purpose := b.spec.requiresPurpose
  inputViews := b.spec.requiresViews
  expectedOutputs := b.spec.requiresViews.map DataView.name
  timeoutMs := b.spec.timeoutMs
  fallbackCapabilityId := b.spec.fallbackCapabilityId
  requiresApproval := b.spec.requiresApproval

/-- `build_contract_review_plan`, with the fresh identifier `planId` and at the clock reading `now`.
The bindings come one for each node, in the order of the template. -/
def buildContractReviewPlan (planId : String) (now : String) (contractId : String)
    (routing : List RoutingDecision) (bindings : List Binding) : ExecutionPlan where
  planId := planId
  contractId := contractId
  templateId := template.templateId
  templateVersion := template.version
  nodes := bindings.map buildPlanNode
  edges := edges.map fun e ↦ ⟨e.fromNode, e.toNode, e.when_⟩
  routing := routing
  createdAt := now

end ContractReview

end Orchestra
