import Mathlib.Algebra.BigOperators.Group.Finset.Basic
import Roole.System.Catalogs
import Roole.System.Links

/-!
# No work is lost or done twice

The work that clients have submitted is accounted for at every moment: it is
queued or executed at one node, under way on one connection, executed, given up
by an executor, or lost with a connection that was reset.
-/

namespace Roole

open Bytes

-- ----------------------------------------------------------------------------
-- Where work is
-- ----------------------------------------------------------------------------

def RpcServer.work (server : NodeServer) : List Work := server.node.held.map Message.work

/-- The work at a node and on its way from there. -/
def workAt (cluster : Cluster) (links : NodeId → List PeerRequest) (nodeId : NodeId) : List Work :=
  (cluster.nodes nodeId).elim [] RpcServer.work ++ (links nodeId).filterMap PeerRequest.work

def Cluster.executedWork (cluster : Cluster) : List Work :=
  cluster.executed.map fun execution => execution.message.work

/-- Every submitted message is somewhere, as often as it was submitted. -/
structure Accounted (ids : Finset NodeId) (state : LinkedCluster) : Prop where
  count : ∀ work, state.submitted.count work =
    ∑ nodeId ∈ ids, (workAt state.cluster state.links nodeId).count work +
      (state.cluster.executedWork.count work + state.dropped.count work + state.lost.count work)
  nodes : ∀ nodeId, (state.cluster.nodes nodeId).isSome → nodeId ∈ ids
  carried : LinkedCluster.Carried state.cluster state.links

theorem sum_shift {ι : Type} [DecidableEq ι] {ids : Finset ι} {f f' : ι → Nat} {i : ι}
    (hmem : i ∈ ids) (hother : ∀ j ∈ ids, j ≠ i → f' j = f j) (hself : f' i + a = f i + b) :
    ∑ j ∈ ids, f' j + a = ∑ j ∈ ids, f j + b := by
  rw [← Finset.add_sum_erase ids f' hmem, ← Finset.add_sum_erase ids f hmem]
  have hrest : ∑ j ∈ ids.erase i, f' j = ∑ j ∈ ids.erase i, f j :=
    Finset.sum_congr rfl fun j hj =>
      hother j (Finset.mem_of_mem_erase hj) (Finset.ne_of_mem_erase hj)
  omega

theorem newRequests_eq {before after : NodeServer}
    (h : after.requests = before.requests ++ sent) :
    newRequests before after = sent.filter fun request => request.sent ≠ 0 := by
  rw [newRequests, h, List.drop_left]

theorem newRequests_self (server : NodeServer) : newRequests server server = [] :=
  newRequests_eq (List.append_nil _).symm

section Extend

variable {before after : Cluster} (links : NodeId → List PeerRequest) {nodeId : NodeId}
  {server later : NodeServer}

theorem Cluster.set_nodes (cluster : Cluster) (nodeId : NodeId) (server : NodeServer) :
    (cluster.set nodeId server).nodes = Function.update cluster.nodes nodeId (some server) := rfl

theorem extend_of_ne (hafter : after.nodes = Function.update before.nodes nodeId (some later))
    (hne : other ≠ nodeId) : LinkedCluster.extend before after links other = links other := by
  unfold LinkedCluster.extend
  rw [hafter, Function.update_of_ne hne]
  cases before.nodes other with
  | none => rfl
  | some server => simp [newRequests_self]

theorem extend_self (hnode : before.nodes nodeId = some server)
    (hafter : after.nodes = Function.update before.nodes nodeId (some later)) :
    LinkedCluster.extend before after links nodeId = links nodeId ++ newRequests server later := by
  unfold LinkedCluster.extend
  rw [hafter, Function.update_self, hnode]

theorem carried_extend (h : LinkedCluster.Carried before links)
    (hnode : before.nodes nodeId = some server)
    (hafter : after.nodes = Function.update before.nodes nodeId (some later))
    (hrequests : later.requests = server.requests ++ sent) :
    LinkedCluster.Carried after (LinkedCluster.extend before after links) := by
  intro sender request hmem
  by_cases hsender : sender = nodeId
  · subst hsender
    rw [extend_self links hnode hafter, newRequests_eq hrequests] at hmem
    rw [hafter, Function.update_self]
    rcases List.mem_append.mp hmem with hold | hnew
    · obtain ⟨hpos, source, hsource, hrequest⟩ := h sender request hold
      obtain rfl := Option.some.inj (hnode.symm.trans hsource)
      exact ⟨hpos, later, rfl, hrequests ▸ List.mem_append_left _ hrequest⟩
    · obtain ⟨hnew, hpos⟩ := List.mem_filter.mp hnew
      exact ⟨by simpa using hpos, later, rfl, hrequests ▸ List.mem_append_right _ hnew⟩
  · rw [extend_of_ne links hafter hsender] at hmem
    rw [hafter, Function.update_of_ne hsender]
    exact h sender request hmem

theorem carried_update (h : LinkedCluster.Carried before links) {left : List PeerRequest}
    (hleft : left ⊆ links sender) :
    LinkedCluster.Carried before (Function.update links sender left) := by
  intro other request hmem
  by_cases hother : other = sender
  · subst hother
    rw [Function.update_self] at hmem
    exact h other request (hleft hmem)
  · rw [Function.update_of_ne hother] at hmem
    exact h other request hmem

theorem sum_extend {ids : Finset NodeId} (hmem : nodeId ∈ ids)
    (hnode : before.nodes nodeId = some server)
    (hafter : after.nodes = Function.update before.nodes nodeId (some later))
    (hrequests : later.requests = server.requests ++ sent) (work : Work)
    (hwork : later.work.count work + a = server.work.count work + b) :
    ∑ id ∈ ids, (workAt after (LinkedCluster.extend before after links) id).count work + a =
      ∑ id ∈ ids, (workAt before links id).count work +
        (b + ((sent.filter fun request => request.sent ≠ 0).filterMap
          PeerRequest.work).count work) := by
  refine sum_shift hmem (fun other _ hne => ?_) ?_
  · unfold workAt
    rw [extend_of_ne links hafter hne, hafter, Function.update_of_ne hne]
  · unfold workAt
    rw [extend_self links hnode hafter, hafter, Function.update_self, hnode,
      newRequests_eq hrequests]
    simp only [Option.elim_some, List.filterMap_append, List.count_append]
    omega

end Extend

-- ----------------------------------------------------------------------------
-- What requests carry
-- ----------------------------------------------------------------------------

theorem processMessagePayload_work (message : Message) :
    payloadWork (processMessagePayload message.execId message.dagId message.senderId
      message.messageData) = message.work := by
  simp [payloadWork, processMessagePayload, Message.work, List.drop_append,
    List.drop_eq_nil_of_le]

theorem processRequest_work (nodeId peer : NodeId) (message : Message) (sent : Nat) :
    (processRequest nodeId peer message sent).work = some message.work := by
  have hlen := processMessagePayload_length message.execId message.dagId message.senderId
    message.messageData
  unfold PeerRequest.work processRequest
  simp only [RpcHeader.read_pack, rpcPackMessage_drop, true_and]
  rw [if_pos (by omega), processMessagePayload_work]

theorem processRequest_carried (nodeId peer : NodeId) (message : Message) (hsent : sent ≠ 0) :
    ([processRequest nodeId peer message sent].filter fun request =>
      request.sent ≠ 0).filterMap PeerRequest.work = [message.work] := by
  have hkept : [processRequest nodeId peer message sent].filter (fun request =>
      request.sent ≠ 0) = [processRequest nodeId peer message sent] :=
    List.filter_eq_self.mpr (List.forall_mem_singleton.mpr (decide_eq_true hsent))
  rw [hkept, List.filterMap_cons, processRequest_work]
  rfl

theorem PeerRequest.work_of_ne {request : PeerRequest}
    (h : (RpcHeader.read request.message).funcId ≠ funcIdProcessMessage) : request.work = none :=
  if_neg fun hprocess => h hprocess.1

theorem syncRequest_work (past : PastSlots) (nodeId worker : NodeId) (dag : Dag) (sent : Nat) :
    (syncRequest past nodeId worker dag sent).work = none := by
  apply PeerRequest.work_of_ne
  simp [syncRequest, RpcHeader.read_pack, funcIdSyncCatalog, funcIdProcessMessage]

theorem PeerRequest.Packs.work {request : PeerRequest} (h : request.Packs funcIdExecutionUpdate) :
    request.work = none := by
  apply PeerRequest.work_of_ne
  rw [h.read_funcId]
  decide

theorem filterMap_work_nil {sent : List PeerRequest} (h : ∀ request ∈ sent, request.work = none) :
    (sent.filter fun request => request.sent ≠ 0).filterMap PeerRequest.work = [] :=
  List.filterMap_eq_nil_iff.mpr fun request hmem => h request (List.mem_filter.mp hmem).1

-- ----------------------------------------------------------------------------
-- Steps
-- ----------------------------------------------------------------------------

namespace Accounted

variable {ids : Finset NodeId} {state : LinkedCluster} {later : Cluster} {nodeId : NodeId}
  {server after : NodeServer}

theorem mem (h : Accounted ids state) (hnode : state.cluster.nodes nodeId = some server) :
    nodeId ∈ ids := h.nodes nodeId (hnode ▸ rfl)

theorem nodes_update (h : Accounted ids state) (hnode : state.cluster.nodes nodeId = some server)
    (hafter : later.nodes = Function.update state.cluster.nodes nodeId (some after)) :
    ∀ other, (later.nodes other).isSome → other ∈ ids := by
  intro other hsome
  by_cases hother : other = nodeId
  · exact hother ▸ h.mem hnode
  · rw [hafter, Function.update_of_ne hother] at hsome
    exact h.nodes other hsome

theorem links (h : Accounted ids state) : ∀ other ∉ ids, state.links other = [] := by
  intro other hother
  refine List.eq_nil_iff_forall_not_mem.mpr fun request hmem => ?_
  obtain ⟨-, server, hnode, -⟩ := h.carried other request hmem
  exact hother (h.mem hnode)

theorem act (h : Accounted ids state) (hnode : state.cluster.nodes nodeId = some server)
    (hafter : later.nodes = Function.update state.cluster.nodes nodeId (some after))
    (hrequests : after.requests = server.requests ++ sent) {submitted dropped : List Work}
    (hwork : ∀ work, after.work.count work + (later.executedWork.count work + dropped.count work) +
        ((sent.filter fun request => request.sent ≠ 0).filterMap PeerRequest.work).count work =
      server.work.count work + (state.cluster.executedWork.count work + submitted.count work)) :
    Accounted ids {
      cluster := later
      links := LinkedCluster.extend state.cluster later state.links
      submitted := submitted ++ state.submitted
      dropped := dropped ++ state.dropped
      lost := state.lost } where
  count := by
    intro work
    have hold := h.count work
    have hstep := hwork work
    have hsum := sum_extend state.links (h.mem hnode) hnode hafter hrequests work
      (Nat.add_comm _ _)
    simp only [List.count_append]
    omega
  nodes := h.nodes_update hnode hafter
  carried := carried_extend state.links h.carried hnode hafter hrequests

theorem idle (h : Accounted ids state) (hnode : state.cluster.nodes nodeId = some server)
    (hafter : later.nodes = Function.update state.cluster.nodes nodeId (some after))
    (hexecuted : later.executed = state.cluster.executed)
    (hrequests : after.requests = server.requests ++ sent)
    (hheld : after.node.held = server.node.held ++ [])
    (hsent : (sent.filter fun request => request.sent ≠ 0).filterMap PeerRequest.work = []) :
    Accounted ids {
      cluster := later
      links := LinkedCluster.extend state.cluster later state.links
      submitted := [] ++ state.submitted
      dropped := [] ++ state.dropped
      lost := state.lost } := by
  refine h.act hnode hafter hrequests fun work => ?_
  rw [RpcServer.work, hheld, List.append_nil, hsent, Cluster.executedWork, hexecuted]
  rfl

theorem silent (h : Accounted ids state) (hnode : state.cluster.nodes nodeId = some server)
    (hafter : later.nodes = Function.update state.cluster.nodes nodeId (some after))
    (hexecuted : later.executed = state.cluster.executed) (hsilent : Silent server after) :
    Accounted ids {
      cluster := later
      links := LinkedCluster.extend state.cluster later state.links
      submitted := [] ++ state.submitted
      dropped := [] ++ state.dropped
      lost := state.lost } :=
  h.idle hnode hafter hexecuted hsilent.requests hsilent.held rfl

abbrev next (state : LinkedCluster) (later : Cluster) (action : ClusterAction) : LinkedCluster where
  cluster := later
  links := LinkedCluster.extend state.cluster later state.links
  submitted := LinkedCluster.newWork state.cluster later action ++ state.submitted
  dropped := LinkedCluster.droppedWork state.cluster later action ++ state.dropped
  lost := state.lost

theorem Unrouted.requests {before after : NodeServer} (h : Unrouted before after message) :
    ∃ sent, Journal before after sent [] ∧ sent.filter (fun request => request.sent ≠ 0) = [] := by
  rcases h with hsilent | ⟨peer, hjournal⟩
  · exact ⟨[], hsilent, rfl⟩
  · exact ⟨_, hjournal, rfl⟩

/-- A submission that is taken up is one more piece of work, at the node or on
its way. -/
theorem submit (h : Accounted ids state)
    (hstep : state.cluster.step (.submit nodeId env context inData) = some later) :
    Accounted ids (next state later (.submit nodeId env context inData)) := by
  obtain ⟨server, hnode, hstep⟩ := Option.bind_eq_some_iff.mp hstep
  split_ifs at hstep
  have hlink := Journal.link (context :: server.pendingContexts) server
  have hjournal := startSubmission_journal env context inData
    { server with pendingContexts := context :: server.pendingContexts }
  split at hstep
  · rename_i returned hresult
    rw [hresult] at hjournal
    cases hstep
    obtain ⟨execId, hunrouted⟩ := hjournal
    obtain ⟨sent, hrejected, hnone⟩ := Unrouted.requests ((hunrouted.after_silent hlink).silent
      (concludeRequest_silent context returned))
    have hnew : LinkedCluster.newWork state.cluster
        (state.cluster.set nodeId (concludeRequest context returned))
        (.submit nodeId env context inData) = [] := by
      simp [LinkedCluster.newWork, Cluster.set]
    rw [next, hnew]
    exact h.idle hnode rfl rfl hrejected.requests hrejected.held (by rw [hnone]; rfl)
  · rename_i execId after hresult
    rw [hresult] at hjournal
    cases hstep
    have hnew : LinkedCluster.newWork state.cluster
        { state.cluster.set nodeId after with
          started := ⟨nodeId, context, execId⟩ :: state.cluster.started }
        (.submit nodeId env context inData) =
          [(submittedMessage env context execId inData).work] := by
      simp [LinkedCluster.newWork, Message.work, submittedMessage]
    rw [next, hnew]
    have hrouted : Routed server after (submittedMessage env context execId inData) :=
      hjournal.after_silent hlink
    cases hrouted with
    | locally hlocal =>
      refine h.act hnode rfl hlocal.requests fun work => ?_
      simp only [RpcServer.work, hlocal.held, List.map_append, List.count_append, List.map_cons,
        List.map_nil, LinkedCluster.droppedWork, List.filter_nil, List.filterMap_nil,
        List.count_nil, Cluster.executedWork, Cluster.set]
      omega
    | remotely peer sent hsent hremote =>
      refine h.act hnode rfl hremote.requests fun work => ?_
      rw [processRequest_carried _ _ _ hsent, RpcServer.work, hremote.held, List.append_nil]
      exact Nat.add_assoc ..

theorem execute (h : Accounted ids state)
    (hstep : state.cluster.step (.execute nodeId env executeStep message) = some later) :
    Accounted ids (next state later (.execute nodeId env executeStep message)) := by
  obtain ⟨server, hnode, hstep⟩ := Option.bind_eq_some_iff.mp hstep
  split_ifs at hstep with hguard
  obtain ⟨sent, hjournal, hsent⟩ := finishMessage_journal env executeStep message server
  revert hstep hjournal
  generalize finishMessage env executeStep message server = finished
  obtain ⟨result, after⟩ := finished
  intro hstep hjournal
  cases hstep
  have hheld : server.work.Perm (message.work :: after.work) := by
    have hperm := (List.perm_cons_erase (List.mem_append_left
      server.node.messageQueue.buffer.toList hguard)).map Message.work
    have hafter := hjournal.held
    rw [List.append_nil, dropMessage_held hguard] at hafter
    rwa [RpcServer.work, RpcServer.work, hafter]
  refine h.act hnode rfl hjournal.requests fun work => ?_
  rw [filterMap_work_nil fun request hmem => (hsent request hmem).work, hheld.count_eq]
  cases result with
  | none =>
    simp [LinkedCluster.newWork, LinkedCluster.droppedWork, Cluster.executedWork, List.count_cons]
    omega
  | some result =>
    simp [LinkedCluster.newWork, LinkedCluster.droppedWork, Cluster.executedWork, List.count_cons]
    omega

theorem step_act (h : Accounted ids state) {action : ClusterAction}
    (hother : ∀ sender receiver env context message,
      action ≠ .deliver sender receiver env context message)
    (hstep : state.cluster.step action = some later) : Accounted ids (next state later action) := by
  cases action with
  | deliver => exact absurd rfl (hother _ _ _ _ _)
  | submit => exact h.submit hstep
  | execute => exact h.execute hstep
  | finish env submission =>
    obtain ⟨server, hnode, hstep⟩ := Option.bind_eq_some_iff.mp hstep
    split_ifs at hstep
    cases hstep
    exact h.silent hnode rfl rfl (finishSubmission_silent env _ _ server)
  | request node env context inData =>
    obtain ⟨server, hnode, hstep⟩ := Option.bind_eq_some_iff.mp hstep
    split_ifs at hstep with hguard
    cases hstep
    obtain ⟨hsubmit, hpeer⟩ := hguard
    simp only [peerFunctions, List.mem_cons, List.not_mem_nil, or_false, not_or] at hpeer
    have hserved := dispatchRequest_served env server.node.capabilities hsubmit inData server
    cases hserved with
    | silent _ _ hsilent => exact h.silent hnode rfl rfl hsilent
    | process hfunc => exact absurd hfunc hpeer.1
    | sync hfunc => exact absurd hfunc hpeer.2.2
    | add _ _ _ _ hsent hjournal =>
      refine h.idle hnode rfl rfl hjournal.requests hjournal.held
        (filterMap_work_nil fun request hmem => ?_)
      obtain ⟨worker, count, rfl⟩ := hsent request hmem
      exact syncRequest_work _ _ _ _ _
  | pop node =>
    obtain ⟨server, hnode, hstep⟩ := Option.bind_eq_some_iff.mp hstep
    split_ifs at hstep
    obtain ⟨popped, hpop, hstep⟩ := Option.bind_eq_some_iff.mp hstep
    cases hstep
    obtain ⟨executing, queue, rfl, hheld⟩ := messageQueuePop_eq hpop
    exact h.silent hnode rfl rfl (.setNode server rfl rfl rfl (by rw [hheld, List.append_nil]))
  | connect node peer ip gossipPort dataPort channel =>
    obtain ⟨server, hnode, hstep⟩ := Option.bind_eq_some_iff.mp hstep
    split_ifs at hstep
    cases hstep
    exact h.silent hnode rfl rfl (.setPeerPool _ server)
  | gossip node view =>
    obtain ⟨server, hnode, hstep⟩ := Option.bind_eq_some_iff.mp hstep
    cases hstep
    exact h.silent hnode rfl rfl (.setNode server rfl rfl rfl (List.append_nil _).symm)

theorem served_work {context : RpcAsyncContext} {request : PeerRequest}
    (hserved : Served env capabilities context (request.message.drop rpcHeaderSize) server after)
    (hfunc : context.funcId = (RpcHeader.read request.message).funcId)
    (hpeer : context.funcId ∈ peerFunctions) :
    after.requests = server.requests ++ [] ∧
      ∀ work, after.work.count work = server.work.count work + request.work.toList.count work := by
  have hnone : context.funcId ≠ funcIdProcessMessage → request.work = none := fun hne =>
    PeerRequest.work_of_ne (hfunc ▸ hne)
  cases hserved with
  | silent _ hshort hsilent =>
    have hwork : request.work = none := by
      refine if_neg fun hcarries => ?_
      exact Nat.not_lt.mpr hcarries.2 (hshort (hfunc.trans hcarries.1))
    refine ⟨hsilent.requests, fun work => ?_⟩
    rw [hwork, RpcServer.work, hsilent.held, List.append_nil]
    rfl
  | process hprocess hlen hjournal =>
    have hwork : request.work = some (receivedMessage env (request.message.drop
        rpcHeaderSize)).work := if_pos ⟨hfunc.symm.trans hprocess, hlen⟩
    refine ⟨hjournal.requests, fun work => ?_⟩
    rw [hwork, RpcServer.work, hjournal.held, List.map_append, List.count_append]
    rfl
  | sync hsync _ hsilent =>
    refine ⟨hsilent.requests, fun work => ?_⟩
    rw [hnone (by rw [hsync]; decide), RpcServer.work, hsilent.held, List.append_nil]
    rfl
  | add hadd =>
    rw [hadd] at hpeer
    exact absurd hpeer (by decide)

theorem sum_unlink (h : Accounted ids state) {sender : NodeId} {left : List PeerRequest}
    {taken : List Work} (work : Work) (hsplit : (left.filterMap PeerRequest.work).count work +
      taken.count work = ((state.links sender).filterMap PeerRequest.work).count work) :
    ∑ id ∈ ids, (workAt state.cluster (Function.update state.links sender left) id).count work +
        taken.count work = ∑ id ∈ ids, (workAt state.cluster state.links id).count work := by
  have hother : ∀ id, id ≠ sender → (workAt state.cluster (Function.update state.links sender left)
      id).count work = (workAt state.cluster state.links id).count work := by
    intro id hne
    rw [workAt, Function.update_of_ne hne, workAt]
  by_cases hsender : sender ∈ ids
  · refine sum_shift (b := 0) hsender (fun id _ hne => hother id hne) ?_
    simp only [workAt, Function.update_self, List.count_append]
    omega
  · have hnone : taken.count work = 0 := by
      rw [h.links sender hsender] at hsplit
      exact (Nat.add_eq_zero_iff.mp hsplit).2
    rw [hnone]
    exact Finset.sum_congr rfl fun id hid => hother id fun heq => hsender (heq ▸ hid)

theorem count_erase {links : List PeerRequest} {request : PeerRequest} (hmem : request ∈ links)
    (work : Work) : ((links.erase request).filterMap PeerRequest.work).count work +
      request.work.toList.count work = (links.filterMap PeerRequest.work).count work := by
  rw [((List.perm_cons_erase hmem).filterMap PeerRequest.work).count_eq work, List.filterMap_cons]
  cases request.work with
  | none => rfl
  | some carried => simp [List.count_cons]

theorem deliver (h : Accounted ids state) (hlogged : Logged log state.cluster.nodes)
    (hfind : (state.links sender).find? (fun request => request.peer = nodeId) = some request)
    (hstep : state.cluster.step (.deliver sender nodeId env context request.message) =
      some later) :
    Accounted ids { state with
      cluster := later
      links := LinkedCluster.extend state.cluster later
        (Function.update state.links sender ((state.links sender).erase request)) } := by
  have hmem := List.mem_of_find?_eq_some hfind
  obtain ⟨source, hsource, hstep⟩ := Option.bind_eq_some_iff.mp hstep
  obtain ⟨server, hnode, hstep⟩ := Option.bind_eq_some_iff.mp hstep
  split_ifs at hstep with hguard
  cases hstep
  have hpeer := ((hlogged.drawn sender source hsource).requests
    ⟨nodeId, request.message, request.message.length⟩ (RpcServer.mem_requests.mpr hguard)).funcId
  let header := RpcHeader.read request.message
  let received : RpcAsyncContext :=
    { context with requestId := header.requestId, funcId := header.funcId }
  have hsubmit : received.funcId ≠ funcIdSubmitMessage := fun heq =>
    absurd (heq ▸ hpeer : funcIdSubmitMessage ∈ peerFunctions) (by decide)
  have hserved := dispatchRequest_served env server.node.capabilities hsubmit
    (request.message.drop rpcHeaderSize) server
  obtain ⟨hrequests, hwork⟩ := served_work hserved rfl hpeer
  have hlinks := carried_update state.links h.carried
    (List.erase_subset : (state.links sender).erase request ⊆ state.links sender)
  refine ⟨fun work => ?_, h.nodes_update hnode rfl,
    carried_extend _ hlinks hnode (Cluster.set_nodes state.cluster nodeId _) hrequests⟩
  · have hold := h.count work
    have herase := h.sum_unlink work (count_erase hmem work)
    have hsum := sum_extend
      (Function.update state.links sender ((state.links sender).erase request))
      (h.mem hnode) hnode (Cluster.set_nodes state.cluster nodeId _) hrequests work
      ((Nat.add_zero _).trans (hwork work))
    have hexecuted : ∀ after, (state.cluster.set nodeId after).executedWork =
        state.cluster.executedWork := fun _ => rfl
    simp only [List.filter_nil, List.filterMap_nil, List.count_nil, Nat.add_zero] at hsum
    dsimp only
    rw [hexecuted, hsum]
    omega

theorem reset (h : Accounted ids state) (sender receiver : NodeId) :
    Accounted ids { state with
      links := Function.update state.links sender
        ((state.links sender).filter fun request => request.peer ≠ receiver)
      lost := ((state.links sender).filter fun request => request.peer = receiver).filterMap
        PeerRequest.work ++ state.lost } := by
  have hsplit : ∀ work, (((state.links sender).filter fun request =>
      request.peer ≠ receiver).filterMap PeerRequest.work).count work +
        (((state.links sender).filter fun request =>
          request.peer = receiver).filterMap PeerRequest.work).count work =
      ((state.links sender).filterMap PeerRequest.work).count work := by
    intro work
    have hperm := (List.filter_append_perm (fun request : PeerRequest => request.peer = receiver)
      (state.links sender)).filterMap PeerRequest.work
    rw [← hperm.count_eq, List.filterMap_append, List.count_append, Nat.add_comm]
    simp
  refine ⟨fun work => ?_, h.nodes, carried_update state.links h.carried (List.filter_subset_self _)⟩
  have hold := h.count work
  have hsum := h.sum_unlink work (hsplit work)
  rw [List.count_append]
  dsimp only
  omega

/-- One step that takes whole requests. -/
theorem step (h : Accounted ids state) (hlogged : Logged log state.cluster.nodes)
    {action : LinkAction} (hwhole : state.FrontWhole action)
    (hstep : state.step action = some state') : Accounted ids state' := by
  cases action with
  | act action =>
    obtain ⟨next, hnext, hstep⟩ := Option.bind_eq_some_iff.mp hstep
    cases action with
    | deliver => cases hstep
    | _ =>
      cases hstep
      exact h.step_act (fun _ _ _ _ _ heq => by cases heq) hnext
  | deliver sender receiver env context =>
    obtain ⟨request, next, hfind, hnext, rfl⟩ :=
      LinkedCluster.deliver_whole h.carried hlogged hwhole hstep
    exact h.deliver hlogged hfind hnext
  | discard sender receiver buffered =>
    rw [LinkedCluster.discard_whole h.carried hlogged hwhole] at hstep
    cases hstep
  | reset sender receiver =>
    cases hstep
    exact h.reset sender receiver

theorem run (h : Accounted ids state) (hlogged : Logged log state.cluster.nodes)
    {actions : List LinkAction} (hwhole : state.WholeFrames actions)
    (hrun : state.run actions = some state') :
    Accounted ids state' ∧ ∃ steps, state.cluster.run steps = some state'.cluster := by
  induction actions generalizing state log with
  | nil =>
    cases hrun
    exact ⟨h, [], rfl⟩
  | cons action rest ih =>
    obtain ⟨next, hstep, hrest⟩ := Option.bind_eq_some_iff.mp hrun
    have hfirst := LinkedCluster.step_refines h.carried hlogged hwhole.1 hstep
    obtain ⟨hlater, steps, hsteps⟩ := ih (h.step hlogged hwhole.1 hstep) (hlogged.run hfirst)
      (hwhole.2 next hstep) hrest
    refine ⟨hlater, state.clusterActions action ++ steps, ?_⟩
    unfold Cluster.run at hfirst hsteps ⊢
    rw [List.foldlM_append, hfirst]
    exact hsteps

end Accounted

-- ----------------------------------------------------------------------------
-- Runs
-- ----------------------------------------------------------------------------

theorem Accounted.start {configs : NodeId → Option NodeConfig} {ids : Finset NodeId}
    (hids : ∀ nodeId, (configs nodeId).isSome → nodeId ∈ ids) :
    Accounted ids (LinkedCluster.start configs) where
  count := by
    have hnone : ∀ nodeId, workAt (Cluster.start configs) (fun _ => []) nodeId = [] := by
      intro nodeId
      unfold workAt
      cases hnode : (Cluster.start configs).nodes nodeId with
      | none => rfl
      | some server =>
        obtain ⟨config, -, rfl⟩ := Option.map_eq_some_iff.mp hnode
        rfl
    have hexecuted : (Cluster.start configs).executedWork = [] := rfl
    intro work
    simp only [LinkedCluster.start, hnone, hexecuted, List.count_nil, Finset.sum_const_zero]
  nodes := by
    intro nodeId hsome
    exact hids nodeId (by simpa [LinkedCluster.start, Cluster.start] using hsome)
  carried := fun _ _ hmem => absurd hmem List.not_mem_nil

theorem linked_refines {configs : NodeId → Option NodeConfig} {ids : Finset NodeId}
    (hids : ∀ nodeId, (configs nodeId).isSome → nodeId ∈ ids)
    (hwhole : (LinkedCluster.start configs).WholeFrames actions)
    (hrun : (LinkedCluster.start configs).run actions = some state) :
    ∃ steps, (Cluster.start configs).run steps = some state.cluster :=
  ((Accounted.start hids).run (Logged.start configs) hwhole hrun).2

end Roole
