import Roole.Node.Journal
import Roole.Node.SyncedDag

/-!
# The log of registrations

The catalogs of a cluster are views of one log: the DAGs that clients have
registered, in the order in which nodes accepted them. Requests between nodes
carry registered DAGs only, and however they are delivered, repeated or lost, a
catalog holds nothing that is not in the log.
-/

namespace Roole

open Bytes KeyedList

-- ----------------------------------------------------------------------------
-- The log
-- ----------------------------------------------------------------------------

structure Registration where
  node : NodeId
  dag : Dag
  deriving DecidableEq, Repr

namespace Cluster

def registers (cluster : Cluster) : ClusterAction → Option Registration
  | .request node env context inData => do
    let server ← cluster.nodes node
    if context.funcId = funcIdAddDag ∧ server.node.capabilities.hasIngress = true then
      (addedDag env server.node inData).map (⟨node, ·⟩)
    else none
  | _ => none

def registrations (cluster : Cluster) : List ClusterAction → List Registration
  | [] => []
  | action :: rest =>
    (cluster.registers action).toList ++
      ((cluster.step action).elim [] fun later => later.registrations rest)

end Cluster

/-- The node holds this DAG for the registration: the one it registered itself,
or what was decoded from a message with it. -/
def Registration.Gives (registration : Registration) (nodeId : NodeId) (dag : Dag) : Prop :=
  nodeId = registration.node ∧ dag = registration.dag ∨
    registration.dag.WithinArrays ∧ ∀ past, dag.SameFields past registration.dag

/-- The request is one between nodes; where it brings a DAG, it brings one of the
log. -/
structure PeerRequest.Forwards (log : List Registration) (request : PeerRequest) : Prop where
  packs : ∃ funcId ∈ peerFunctions, request.Packs funcId
  sync : (RpcHeader.read request.message).funcId = funcIdSyncCatalog →
    ∃ registration ∈ log, ∃ past nodeId worker count,
      request = syncRequest past nodeId worker registration.dag count

def Registration.Parsed (registration : Registration) : Prop :=
  ∃ (payload : AddDagPayload) (now : UInt64),
    registration.dag = payload.dag now ∧ (payload.dag now).stepCount ≤ maxDagSteps

theorem Registration.Gives.dagId {registration : Registration} {dag : Dag}
    (h : registration.Gives nodeId dag) : dag.dagId = registration.dag.dagId := by
  rcases h with ⟨-, rfl⟩ | ⟨-, hsame⟩
  · rfl
  · exact (hsame fun _ _ => 0).dagId

theorem Dag.SameFields.any_past {past : PastSlots} {dag other : Dag}
    (h : dag.SameFields past other) (hwithin : other.WithinArrays) (past' : PastSlots) :
    dag.SameFields past' other where
  dagId := h.dagId
  name := h.name
  version := h.version
  stepCount := h.stepCount
  steps := h.steps
  dependencies := by
    intro i hi j hj
    have hsteps := h.steps i hi
    have hi' : i < other.stepCount := h.stepCount ▸ hi
    have hj' : j < (other.step i).dependencyCount := hsteps.dependencyCount ▸ hj
    have hslot : j < maxStepDependencies := hj'.trans_le (hwithin i hi')
    have hpast : ∀ dag : Dag, dag.dependency past i j = dag.dependency past' i j := fun dag => by
      simp [Dag.dependency, hslot]
    rw [← hpast, ← hpast]
    exact h.dependencies i hi j hj

theorem mapIdx_configs (copyAlloc : Nat → Bool) {dag : Dag}
    (hconfig : ∀ i, (dag.step i).hasConfig = false) :
    (dag.steps.mapIdx fun i step =>
      if i < dag.stepCount ∧ step.hasConfig ∧ !copyAlloc i then { step with configData := none }
      else step) = dag.steps := by
  refine List.ext_getElem (List.length_mapIdx ..) fun i hi hi' => ?_
  have hstep : dag.step i = dag.steps[i] := by
    simp [Dag.step, List.getElem?_eq_getElem hi']
  have hnone := hconfig i
  rw [hstep] at hnone
  simp [hnone]

theorem dagCatalogUpdate_dags (copyAlloc : Nat → Bool) (now : UInt64) (catalog : DagCatalog)
    {dag : Dag} (hconfig : ∀ i, (dag.step i).hasConfig = false) :
    (∀ held ∈ (dagCatalogUpdate copyAlloc now catalog dag).2.dags,
      held ∈ catalog.dags ∨ held = { dag with updatedAtMs := now }) ∧
    (dagCatalogUpdate copyAlloc now catalog dag).2.dags.map Dag.dagId =
      catalog.dags.map Dag.dagId := by
  unfold dagCatalogUpdate
  split
  · exact ⟨fun _ hmem => .inl hmem, rfl⟩
  · dsimp only
    rw [mapIdx_configs copyAlloc hconfig]
    refine ⟨fun held hmem => ?_, map_key_modify (fun _ _ => rfl) _⟩
    rcases mem_modify hmem with hold | ⟨-, -, -, rfl⟩
    · exact .inl hold
    · exact .inr rfl

theorem syncedCatalog_dags (env : NodeEnv) {dag : Dag} (catalog : DagCatalog)
    (hconfig : ∀ i, (dag.step i).hasConfig = false) :
    (∀ held ∈ (syncedCatalog env dag catalog).dags,
      held ∈ catalog.dags ∨ held = dag ∨ held = { dag with updatedAtMs := env.now }) ∧
    catalog.dags.map Dag.dagId ⊆ (syncedCatalog env dag catalog).dags.map Dag.dagId := by
  obtain ⟨result, -, hadd⟩ | ⟨hnew, hroom, hadd⟩ :=
    dagCatalogAdd_cases env.copyAlloc catalog dag
  · simp only [syncedCatalog, hadd]
    split_ifs
    · obtain ⟨hheld, hids⟩ := dagCatalogUpdate_dags env.copyAlloc env.now catalog hconfig
      exact ⟨fun held hmem => (hheld held hmem).imp_right .inr, fun dagId hmem => hids ▸ hmem⟩
    · exact ⟨fun _ hmem => .inl hmem, List.Subset.refl _⟩
  · simp only [syncedCatalog, hadd, reduceCtorEq, if_false]
    refine ⟨fun held hmem => ?_, ?_⟩
    · rcases List.mem_append.mp hmem with hold | hnew
      · exact .inl hold
      · exact .inr (.inl (List.mem_singleton.mp hnew))
    · simp [DagCatalog.append]

-- ----------------------------------------------------------------------------
-- One node
-- ----------------------------------------------------------------------------

/-- The catalog of the node and its requests are drawn from the log. -/
structure Drawn (log : List Registration) (nodeId : NodeId) (server : NodeServer) : Prop where
  catalog : ∀ dag ∈ server.node.dagCatalog.dags, ∃ registration ∈ log,
    registration.Gives nodeId dag
  requests : ∀ request ∈ server.requests, request.Forwards log
  kept : ∀ registration ∈ log, registration.node = nodeId →
    registration.dag.dagId ∈ server.node.dagCatalog.dags.map Dag.dagId

theorem PeerRequest.Forwards.funcId {request : PeerRequest} (h : request.Forwards log) :
    (RpcHeader.read request.message).funcId ∈ peerFunctions := by
  obtain ⟨funcId, hpeer, hpacks⟩ := h.packs
  exact hpacks.read_funcId ▸ hpeer

theorem PeerRequest.Forwards.mono {request : PeerRequest} (h : request.Forwards log)
    (hlog : log ⊆ later) : request.Forwards later where
  packs := h.packs
  sync := by
    intro hfunc
    obtain ⟨registration, hmem, hrequest⟩ := h.sync hfunc
    exact ⟨registration, hlog hmem, hrequest⟩

theorem PeerRequest.Packs.forwards {request : PeerRequest} (h : request.Packs funcId)
    (hpeer : funcId ∈ peerFunctions) (hsync : funcId ≠ funcIdSyncCatalog)
    (log : List Registration) : request.Forwards log where
  packs := ⟨funcId, hpeer, h⟩
  sync := fun heq => absurd (h.read_funcId.symm.trans heq) hsync

theorem processRequest_forwards (log : List Registration) (nodeId peer : NodeId)
    (message : Message) (sent : Nat) : (processRequest nodeId peer message sent).Forwards log :=
  have hpacks : (processRequest nodeId peer message sent).Packs funcIdProcessMessage :=
    ⟨_, _, _, _, _, rfl⟩
  hpacks.forwards (by decide) (by decide) log

namespace Drawn

variable {log : List Registration} {nodeId : NodeId} {server after : NodeServer}

theorem journal (h : Drawn log nodeId server) (hjournal : Journal server after sent taken)
    (hsent : ∀ request ∈ sent, request.Forwards log) : Drawn log nodeId after where
  catalog := hjournal.dagCatalog ▸ h.catalog
  requests := by
    rw [hjournal.requests]
    exact List.forall_mem_append.mpr ⟨h.requests, hsent⟩
  kept := hjournal.dagCatalog ▸ h.kept

theorem silent (h : Drawn log nodeId server) (hsilent : Silent server after) :
    Drawn log nodeId after := h.journal hsilent (List.forall_mem_nil _)

theorem mono (h : Drawn log nodeId server) (hlog : ∀ registration ∈ new,
    registration.node ≠ nodeId) : Drawn (log ++ new) nodeId server where
  catalog := by
    intro dag hdag
    obtain ⟨registration, hmem, hgives⟩ := h.catalog dag hdag
    exact ⟨registration, List.mem_append_left _ hmem, hgives⟩
  requests := fun request hmem => (h.requests request hmem).mono (List.subset_append_left _ _)
  kept := by
    intro registration hmem hnode
    rcases List.mem_append.mp hmem with hold | hnew
    · exact h.kept registration hold hnode
    · exact absurd hnode (hlog registration hnew)

theorem submit (h : Drawn log nodeId server) (env : NodeEnv) (context : RpcAsyncContext)
    (inData : List UInt8) :
    match startSubmission env context inData server with
    | .error returned => Drawn log nodeId returned.2
    | .ok (_, after) => Drawn log nodeId after := by
  have hstart := startSubmission_journal env context inData server
  have hprocess := fun peer message sent => List.forall_mem_singleton.mpr
    (processRequest_forwards log server.node.nodeId peer message sent)
  revert hstart
  cases startSubmission env context inData server with
  | error returned =>
    rintro ⟨execId, hsilent | ⟨peer, hjournal⟩⟩
    · exact h.silent hsilent
    · exact h.journal hjournal (hprocess _ _ _)
  | ok result =>
    intro hrouted
    cases hrouted with
    | locally hjournal => exact h.journal hjournal (List.forall_mem_nil _)
    | remotely peer sent _ hjournal => exact h.journal hjournal (hprocess _ _ _)

/-- A request that brings no DAG of the log is no SYNC_CATALOG request. -/
theorem served (h : Drawn log nodeId server) {context : RpcAsyncContext}
    (hserved : Served env capabilities context inData server after)
    (hadd : context.funcId ≠ funcIdAddDag)
    (hsync : context.funcId = funcIdSyncCatalog → ∃ registration ∈ log, registration.Parsed ∧
      ∃ past, inData = dagSerialize past registration.dag syncBufferSize) :
    Drawn log nodeId after := by
  cases hserved with
  | silent _ _ hsilent => exact h.silent hsilent
  | process _ _ hjournal => exact h.journal hjournal (List.forall_mem_nil _)
  | add hfunc => exact absurd hfunc hadd
  | @sync dag hfunc hdag hsilent =>
    obtain ⟨registration, hmem, ⟨payload, now, hpayload, hle⟩, past, rfl⟩ := hsync hfunc
    rw [hpayload] at hdag
    obtain ⟨hsame, hwithin, hconfig⟩ := payload.received hle hdag
    obtain ⟨hheld, hids⟩ := syncedCatalog_dags env server.node.dagCatalog hconfig
    have hstored : Drawn log nodeId
        (server.setCatalog (syncedCatalog env dag server.node.dagCatalog)) := by
      refine ⟨fun held hin => ?_, h.requests, fun r hr hnode => hids (h.kept r hr hnode)⟩
      rcases hheld held hin with hold | hnew
      · exact h.catalog held hold
      · refine ⟨registration, hmem, .inr ?_⟩
        rw [hpayload]
        refine ⟨hwithin, fun past' => ?_⟩
        have hany := hsame.any_past hwithin past'
        rcases hnew with rfl | rfl
        · exact hany
        · exact ⟨hany.dagId, hany.name, hany.version, hany.stepCount, hany.steps,
            hany.dependencies⟩
    exact hstored.silent hsilent

theorem register (h : Drawn log nodeId server) (hadded : addedDag env server.node inData = some dag)
    {catalog : DagCatalog} (hcatalog : catalog.dags = server.node.dagCatalog.dags ++ [dag])
    (hsent : ∀ request ∈ sent, ∃ worker count,
      request = syncRequest env.past server.node.nodeId worker dag count)
    (hjournal : Journal (server.setCatalog catalog) after sent []) :
    Drawn (log ++ [⟨nodeId, dag⟩]) nodeId after := by
  have hlast : (⟨nodeId, dag⟩ : Registration) ∈ log ++ [⟨nodeId, dag⟩] :=
    List.mem_append_right _ (List.mem_singleton_self _)
  have hstored : Drawn (log ++ [⟨nodeId, dag⟩]) nodeId (server.setCatalog catalog) := by
    refine ⟨fun held hin => ?_, fun request hmem => ?_, fun registration hmem hnode => ?_⟩
    · replace hin : held ∈ catalog.dags := hin
      rw [hcatalog] at hin
      rcases List.mem_append.mp hin with hold | hnew
      · obtain ⟨registration, hmem, hgives⟩ := h.catalog held hold
        exact ⟨registration, List.mem_append_left _ hmem, hgives⟩
      · obtain rfl := List.mem_singleton.mp hnew
        exact ⟨_, hlast, .inl ⟨rfl, rfl⟩⟩
    · exact (h.requests request hmem).mono (List.subset_append_left _ _)
    · change _ ∈ catalog.dags.map Dag.dagId
      rw [hcatalog, List.map_append]
      rcases List.mem_append.mp hmem with hold | hnew
      · exact List.mem_append_left _ (h.kept registration hold hnode)
      · obtain rfl := List.mem_singleton.mp hnew
        exact List.mem_append_right _ (List.mem_singleton_self _)
  refine hstored.journal hjournal fun request hmem => ?_
  obtain ⟨worker, count, rfl⟩ := hsent request hmem
  exact ⟨⟨funcIdSyncCatalog, by decide, _, _, _, _, _, rfl⟩,
    fun _ => ⟨_, hlast, env.past, server.node.nodeId, worker, count, rfl⟩⟩

theorem finish (h : Drawn log nodeId server) (env : NodeEnv) (executeStep : StepFunction)
    (message : Message) : Drawn log nodeId (finishMessage env executeStep message server).2 := by
  obtain ⟨sent, hjournal, hsent⟩ := finishMessage_journal env executeStep message server
  have hdropped : Drawn log nodeId (server.dropMessage message) :=
    ⟨h.catalog, h.requests, h.kept⟩
  exact hdropped.journal hjournal fun request hmem =>
    (hsent request hmem).forwards (by decide) (by decide) log

end Drawn

-- ----------------------------------------------------------------------------
-- The cluster
-- ----------------------------------------------------------------------------

/-- No node registers an id twice, and all nodes draw on the log. -/
structure Logged (log : List Registration) (nodes : NodeId → Option NodeServer) : Prop where
  drawn : ∀ nodeId server, nodes nodeId = some server → Drawn log nodeId server
  parsed : ∀ registration ∈ log, registration.Parsed
  known : ∀ registration ∈ log, (nodes registration.node).isSome
  distinct : (log.map fun registration => (registration.node, registration.dag.dagId)).Nodup

theorem addedDag_parsed (h : addedDag env state inData = some dag) (nodeId : NodeId) :
    Registration.Parsed ⟨nodeId, dag⟩ ∧ dagCatalogGet state.dagCatalog dag.dagId = none := by
  obtain ⟨payload, rest, -, -, hregistered, rfl⟩ := addedDag_eq_some.mp h
  exact ⟨⟨payload, env.now, rfl, (dagValidate_ok.mp hregistered.valid).2.1⟩, hregistered.new⟩

namespace Logged

variable {log : List Registration} {cluster later : Cluster} {nodeId : NodeId}
  {server after : NodeServer}

theorem start (configs : NodeId → Option NodeConfig) : Logged [] (Cluster.start configs).nodes where
  drawn := by
    intro nodeId server hserver
    obtain ⟨config, -, rfl⟩ := Option.map_eq_some_iff.mp hserver
    exact ⟨List.forall_mem_nil _, List.forall_mem_nil _, List.forall_mem_nil _⟩
  parsed := List.forall_mem_nil _
  known := List.forall_mem_nil _
  distinct := List.nodup_nil

theorem set (h : Logged log cluster.nodes) (hafter : Drawn log nodeId after) :
    Logged log (cluster.set nodeId after).nodes where
  drawn := by
    intro other found hfound
    by_cases hother : other = nodeId
    · subst hother
      obtain rfl : after = found := by simpa [Cluster.set] using hfound
      exact hafter
    · exact h.drawn other found (by simpa [Cluster.set, hother] using hfound)
  parsed := h.parsed
  known := by
    intro registration hmem
    by_cases hself : registration.node = nodeId
    · simp [Cluster.set, hself]
    · simpa [Cluster.set, hself] using h.known registration hmem
  distinct := h.distinct

theorem register (h : Logged log cluster.nodes) (hnode : cluster.nodes nodeId = some server)
    (hadded : addedDag env server.node inData = some dag)
    (hafter : Drawn (log ++ [⟨nodeId, dag⟩]) nodeId after) :
    Logged (log ++ [⟨nodeId, dag⟩]) (cluster.set nodeId after).nodes where
  drawn := by
    intro other found hfound
    by_cases hother : other = nodeId
    · subst hother
      obtain rfl : after = found := by simpa [Cluster.set] using hfound
      exact hafter
    · exact (h.drawn other found (by simpa [Cluster.set, hother] using hfound)).mono
        (List.forall_mem_singleton.mpr (Ne.symm hother))
  parsed := List.forall_mem_append.mpr
    ⟨h.parsed, List.forall_mem_singleton.mpr (addedDag_parsed hadded nodeId).1⟩
  known := by
    refine List.forall_mem_append.mpr ⟨fun registration hmem => ?_, ?_⟩
    · by_cases hself : registration.node = nodeId
      · simp [Cluster.set, hself]
      · simpa [Cluster.set, hself] using h.known registration hmem
    · exact List.forall_mem_singleton.mpr (by simp [Cluster.set])
  distinct := by
    rw [List.map_append, List.nodup_append']
    refine ⟨h.distinct, List.nodup_singleton _, ?_⟩
    rw [List.map_singleton, List.disjoint_singleton]
    intro hmem
    obtain ⟨registration, hin, heq⟩ := List.mem_map.mp hmem
    obtain ⟨hself, hid⟩ := Prod.mk.inj heq
    obtain ⟨held, hheld, hsame⟩ :=
      List.mem_map.mp ((h.drawn nodeId server hnode).kept registration hin hself)
    exact lookup_eq_none.mp (addedDag_parsed hadded nodeId).2 held hheld (hsame.trans hid)

theorem step_request (h : Logged log cluster.nodes)
    (hstep : cluster.step (.request nodeId env context inData) = some later) :
    Logged (log ++ (cluster.registers (.request nodeId env context inData)).toList)
      later.nodes := by
  obtain ⟨server, hnode, hstep⟩ := Option.bind_eq_some_iff.mp hstep
  split_ifs at hstep with hguard
  cases hstep
  obtain ⟨hsubmit, hpeer⟩ := hguard
  simp only [peerFunctions, List.mem_cons, List.not_mem_nil, or_false, not_or] at hpeer
  have hdrawn := h.drawn nodeId server hnode
  have hserved := dispatchRequest_served env server.node.capabilities hsubmit inData server
  simp only [Cluster.registers, hnode, Option.bind_eq_bind, Option.bind_some]
  cases hserved with
  | silent hnone _ hsilent =>
    have hregisters : (if context.funcId = funcIdAddDag ∧
        server.node.capabilities.hasIngress = true then
          (addedDag env server.node inData).map (Registration.mk nodeId) else none) = none := by
      split_ifs with hadd
      · rw [hnone hadd.1 hadd.2]
        rfl
      · rfl
    rw [hregisters, Option.toList_none, List.append_nil]
    exact h.set (hdrawn.silent hsilent)
  | process hfunc => exact absurd hfunc hpeer.1
  | sync hfunc => exact absurd hfunc hpeer.2.2
  | add hfunc hingress hadded hcatalog hsent hjournal =>
    rw [if_pos ⟨hfunc, hingress⟩, hadded]
    exact h.register hnode hadded (hdrawn.register hadded hcatalog hsent hjournal)

theorem step_deliver (h : Logged log cluster.nodes)
    (hstep : cluster.step (.deliver sender nodeId env context message) = some later) :
    Logged log later.nodes := by
  obtain ⟨source, hsource, hstep⟩ := Option.bind_eq_some_iff.mp hstep
  obtain ⟨server, hnode, hstep⟩ := Option.bind_eq_some_iff.mp hstep
  split_ifs at hstep with hguard
  cases hstep
  have hforwards := (h.drawn sender source hsource).requests ⟨nodeId, message, message.length⟩
    (RpcServer.mem_requests.mpr hguard)
  have hfunc := hforwards.funcId
  simp only [peerFunctions, List.mem_cons, List.not_mem_nil, or_false] at hfunc
  refine h.set ((h.drawn nodeId server hnode).served
    (dispatchRequest_served env server.node.capabilities ?_ _ server) ?_ fun hsync => ?_)
  · rcases hfunc with hfunc | hfunc | hfunc <;> simp only [hfunc] <;> decide
  · rcases hfunc with hfunc | hfunc | hfunc <;> simp only [hfunc] <;> decide
  · obtain ⟨registration, hmem, past, senderId, worker, count, heq⟩ := hforwards.sync hsync
    have hmessage := congrArg PeerRequest.message heq
    refine ⟨registration, hmem, h.parsed registration hmem, past, ?_⟩
    change message = rpcPackMessage _ _ _ _ _ _ at hmessage
    rw [hmessage, rpcPackMessage_drop]

theorem step_other (h : Logged log cluster.nodes) {action : ClusterAction}
    (hother : ∀ node env context inData, action ≠ .request node env context inData)
    (hstep : cluster.step action = some later) : Logged log later.nodes := by
  cases action with
  | request => exact absurd rfl (hother _ _ _ _)
  | submit node env context inData =>
    obtain ⟨server, hnode, hstep⟩ := Option.bind_eq_some_iff.mp hstep
    split_ifs at hstep
    have hlinked := (h.drawn node server hnode).silent
      (.link (context :: server.pendingContexts) server)
    have hsubmit := hlinked.submit env context inData
    split at hstep
    · rename_i returned hresult
      rw [hresult] at hsubmit
      cases hstep
      exact h.set (hsubmit.silent (concludeRequest_silent context returned))
    · rename_i execId after hresult
      rw [hresult] at hsubmit
      cases hstep
      exact h.set hsubmit
  | finish env submission =>
    obtain ⟨server, hnode, hstep⟩ := Option.bind_eq_some_iff.mp hstep
    split_ifs at hstep
    cases hstep
    exact h.set ((h.drawn _ server hnode).silent (finishSubmission_silent env _ _ server))
  | deliver => exact h.step_deliver hstep
  | pop node =>
    obtain ⟨server, hnode, hstep⟩ := Option.bind_eq_some_iff.mp hstep
    split_ifs at hstep
    obtain ⟨state, hpop, hstep⟩ := Option.bind_eq_some_iff.mp hstep
    cases hstep
    obtain ⟨executing, queue, rfl, hheld⟩ := messageQueuePop_eq hpop
    exact h.set ((h.drawn node server hnode).silent
      (.setNode server rfl rfl rfl (by rw [hheld, List.append_nil])))
  | execute node env executeStep message =>
    obtain ⟨server, hnode, hstep⟩ := Option.bind_eq_some_iff.mp hstep
    split_ifs at hstep
    cases hstep
    exact h.set ((h.drawn node server hnode).finish env executeStep message)
  | connect node peer ip gossipPort dataPort channel =>
    obtain ⟨server, hnode, hstep⟩ := Option.bind_eq_some_iff.mp hstep
    split_ifs at hstep
    cases hstep
    exact h.set ((h.drawn node server hnode).silent (.setPeerPool _ server))
  | gossip node view =>
    obtain ⟨server, hnode, hstep⟩ := Option.bind_eq_some_iff.mp hstep
    cases hstep
    exact h.set ((h.drawn node server hnode).silent
      (.setNode server rfl rfl rfl (List.append_nil _).symm))

theorem step (h : Logged log cluster.nodes) {action : ClusterAction}
    (hstep : cluster.step action = some later) :
    Logged (log ++ (cluster.registers action).toList) later.nodes := by
  cases action with
  | request => exact h.step_request hstep
  | _ =>
    have hnothing : Logged log later.nodes := h.step_other (fun _ _ _ _ heq => by cases heq) hstep
    rwa [← List.append_nil log] at hnothing

theorem run (h : Logged log cluster.nodes) {actions : List ClusterAction}
    (hrun : cluster.run actions = some later) :
    Logged (log ++ cluster.registrations actions) later.nodes := by
  induction actions generalizing cluster log with
  | nil =>
    cases hrun
    rw [Cluster.registrations, List.append_nil]
    exact h
  | cons action rest ih =>
    obtain ⟨next, hstep, hrest⟩ := Option.bind_eq_some_iff.mp hrun
    rw [Cluster.registrations, hstep, Option.elim_some, ← List.append_assoc]
    exact ih (h.step hstep) hrest

end Logged

end Roole
