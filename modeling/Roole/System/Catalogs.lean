import Roole.System.CatalogLog

/-!
# What the catalogs of a cluster agree on

A catalog holds what clients have asked for. Two nodes that hold an id hold the
same DAG under it, unless clients have registered the id at two nodes.
-/

namespace Roole

-- ----------------------------------------------------------------------------
-- Fields
-- ----------------------------------------------------------------------------

theorem DagStep.SameFields.refl (step : DagStep) : step.SameFields step :=
  ⟨rfl, rfl, rfl, rfl, rfl, rfl, rfl, rfl⟩

theorem DagStep.SameFields.symm {step step' : DagStep} (h : step.SameFields step') :
    step'.SameFields step :=
  ⟨h.stepId.symm, h.name.symm, h.functionName.symm, h.dependencyCount.symm, h.timeoutMs.symm,
    h.maxRetries.symm, h.configLen.symm, h.configData.symm⟩

theorem DagStep.SameFields.trans {step step' step'' : DagStep} (h : step.SameFields step')
    (h' : step'.SameFields step'') : step.SameFields step'' :=
  ⟨h.stepId.trans h'.stepId, h.name.trans h'.name, h.functionName.trans h'.functionName,
    h.dependencyCount.trans h'.dependencyCount, h.timeoutMs.trans h'.timeoutMs,
    h.maxRetries.trans h'.maxRetries, h.configLen.trans h'.configLen,
    h.configData.trans h'.configData⟩

namespace Dag.SameFields

variable {past : PastSlots} {dag dag' dag'' : Dag}

theorem refl (past : PastSlots) (dag : Dag) : dag.SameFields past dag :=
  ⟨rfl, rfl, rfl, rfl, fun _ _ => .refl _, fun _ _ _ _ => rfl⟩

theorem symm (h : dag.SameFields past dag') : dag'.SameFields past dag where
  dagId := h.dagId.symm
  name := h.name.symm
  version := h.version.symm
  stepCount := h.stepCount.symm
  steps := fun i hi => (h.steps i (h.stepCount ▸ hi)).symm
  dependencies := by
    intro i hi j hj
    have hi' : i < dag.stepCount := h.stepCount ▸ hi
    exact (h.dependencies i hi' j ((h.steps i hi').dependencyCount ▸ hj)).symm

theorem trans (h : dag.SameFields past dag') (h' : dag'.SameFields past dag'') :
    dag.SameFields past dag'' where
  dagId := h.dagId.trans h'.dagId
  name := h.name.trans h'.name
  version := h.version.trans h'.version
  stepCount := h.stepCount.trans h'.stepCount
  steps := fun i hi => (h.steps i hi).trans (h'.steps i (h.stepCount ▸ hi))
  dependencies := by
    intro i hi j hj
    have hi' : i < dag'.stepCount := h.stepCount ▸ hi
    have hj' : j < (dag'.step i).dependencyCount := (h.steps i hi).dependencyCount ▸ hj
    exact (h.dependencies i hi j hj).trans (h'.dependencies i hi' j hj')

end Dag.SameFields

section Runs

variable {configs : NodeId → Option NodeConfig} {actions : List ClusterAction}
  {cluster : Cluster}

def Cluster.entry (cluster : Cluster) (nodeId : NodeId) (dagId : RuleId) : Option Dag := do
  let server ← cluster.nodes nodeId
  dagCatalogGet server.node.dagCatalog dagId

end Runs

end Roole
