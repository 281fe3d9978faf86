import Nexolab.NodeCredentials

/-!
# Replayed requests for edge nodes

The credential which was issued under an idempotency key answers every later
request under the key, whatever has happened to the node since.  A request for
the state the node is in is answered with the node as it is.
-/

namespace Nexolab

namespace NodeDatabase

variable {database next : NodeDatabase}

/-! ## Replays -/

/-- The request was answered before, or asks for the state the node is in. -/
def Replayed (database : NodeDatabase) (request : NodeRequest) : Prop :=
  match request.operation with
  | .provision command => database.KeyInUse request.repository.organizationId
      (stripText command.idempotencyKey)
  | .rotate command => database.KeyInUse request.repository.organizationId
      (stripText command.idempotencyKey)
  | .changeState nodeId target _ _ => ∃ node,
      database.nodeForUpdate request.repository.organizationId nodeId = .ok node ∧
        node.state = target

/-- The same request once more, whatever identifiers and time it comes with. -/
structure Repeats (repeated request : NodeRequest) : Prop where
  operation : repeated.operation = request.operation
  organization : repeated.repository.organizationId = request.repository.organizationId

def Keyed (request : NodeRequest) : Prop :=
  match request.operation with
  | .changeState _ _ _ _ => False
  | _ => True

variable {organizationId key : String} {command : RotateNodeCredentialCommand}

variable {answer : NodeAnswer} {issue : NodeIssue} {repository : NodeRepository}

theorem changeState_replayed {nodeId : String}
    {target : NodeState} {actorSubject reason : String} {node : CentralNode}
    (hnode : database.nodeForUpdate repository.organizationId nodeId = .ok node)
    (hstate : node.state = target)
    (hchange : repository.changeState database nodeId target actorSubject reason
      issue = .ok (next, answer)) : next = database := by
  simp only [NodeRepository.changeState, bind_eq_ok] at hchange
  obtain ⟨_, _, _, _, found, hfound, hchange⟩ := hchange
  have hsame : node = found := Except.ok.inj (hnode.symm.trans hfound)
  subst hsame
  rw [if_pos hstate, pure_eq_ok, Prod.mk.injEq] at hchange
  exact hchange.1.symm

theorem serve_replayed {request : NodeRequest}
    (hreplayed : database.Replayed request) (fails : Bool) :
    (database.serve request fails).2 = database := by
  rcases serve_cases database request fails with
    hsame | ⟨next, answer, hperform, hnext⟩
  · exact hsame
  · rw [hnext]
    unfold Replayed at hreplayed
    unfold perform at hperform
    split at hperform
    next hoperation =>
      rw [hoperation] at hreplayed
      exact (provision_answered hperform).replay hreplayed
    next hoperation =>
      rw [hoperation] at hreplayed
      exact (rotateCredential_answered hperform).replay hreplayed
    next hoperation =>
      rw [hoperation] at hreplayed
      obtain ⟨node, hnode, hstate⟩ := hreplayed
      exact changeState_replayed hnode hstate hperform

theorem KeyInUse.kept (hinUse : database.KeyInUse organizationId key)
    (hcreds : ∀ credential ∈ database.credentials, ∃ after ∈ next.credentials,
        CentralNodeCredential.RevokedAtMost credential after) :
    next.KeyInUse organizationId key := by
  obtain ⟨credential, hcred, horg, hkey⟩ := hinUse
  obtain ⟨after, hafter, hkept⟩ := hcreds credential hcred
  exact ⟨after, hafter, hkept.organizationId.trans horg, hkept.idempotencyKey.trans hkey⟩

theorem revokeCredentials_kept (organizationId nodeRecordId actor reason : String)
    (now : ℚ) {credential : CentralNodeCredential} (hcred : credential ∈ database.credentials) :
    ∃ after ∈ (database.revokeCredentials organizationId nodeRecordId actor
      reason now).credentials, CentralNodeCredential.RevokedAtMost credential after :=
  ⟨_, List.mem_map_of_mem hcred, CentralNodeCredential.revoke_revokedAtMost _ _ _ _ _ _⟩

theorem perform_credentials {request : NodeRequest}
    (hperform : database.perform request = .ok (next, answer)) :
    ∀ credential ∈ database.credentials, ∃ after ∈ next.credentials,
      CentralNodeCredential.RevokedAtMost credential after := by
  intro credential hcred
  have hsame : CentralNodeCredential.RevokedAtMost credential credential :=
    ⟨rfl, rfl, rfl, rfl, fun hold => hold⟩
  rcases perform_cases hperform with rfl | hprovisions | hrotates | hmoves
  · exact ⟨credential, hcred, hsame⟩
  · obtain ⟨_, _, _, hcreds, _⟩ := hprovisions.issued
    rw [hcreds]
    exact ⟨credential, List.mem_append_left _ hcred, hsame⟩
  · obtain ⟨node, _, _, _, _, _, _, _, _, _, hcreds, _⟩ := hrotates.issued
    rw [hcreds]
    obtain ⟨after, hafter, hkept⟩ :=
      revokeCredentials_kept node.organizationId node.id _ _ _ hcred
    exact ⟨after, List.mem_append_left _ hafter, hkept⟩
  · obtain ⟨node, _, target, _, _, _, _, _, hcreds⟩ := hmoves.moved
    rw [hcreds]
    unfold moveNode
    dsimp only
    split_ifs
    · exact revokeCredentials_kept _ _ _ _ _ hcred
    · exact ⟨credential, hcred, hsame⟩

theorem KeyInUse.serve (hinUse : database.KeyInUse organizationId key) (request : NodeRequest)
    (fails : Bool) :
    (database.serve request fails).2.KeyInUse organizationId key := by
  rcases serve_cases database request fails with hsame | ⟨_, _, hperform, hnext⟩
  · rw [hsame]
    exact hinUse
  · rw [hnext]
    exact hinUse.kept (perform_credentials hperform)

theorem nodeForUpdate_moved {organizationId nodeId : String} {node : CentralNode}
    (hfound : database.nodeForUpdate organizationId nodeId = .ok node)
    {id : String} {change : CentralNode → CentralNode}
    (hchange : ∀ other, (change other).organizationId = other.organizationId ∧
      (change other).nodeId = other.nodeId)
    (hnext : next.nodes = (database.updateNode id change).nodes) :
    next.nodeForUpdate organizationId nodeId =
      .ok (if node.id = id then change node else node) := by
  simp only [nodeForUpdate, bind_eq_ok] at hfound ⊢
  obtain ⟨normalized, hnormalized, hfound⟩ := hfound
  refine ⟨normalized, hnormalized, ?_⟩
  split at hfound
  next => cases hfound
  next found hnode =>
    rw [pure_eq_ok] at hfound
    subst hfound
    have hmoved : next.nodeOf organizationId normalized =
        some (if found.id = id then change found else found) := by
      unfold nodeOf at hnode ⊢
      rw [hnext]
      unfold updateNode
      rw [List.find?_map]
      have hsame : ((fun node : CentralNode => decide (node.organizationId =
          organizationId ∧ node.nodeId = normalized)) ∘ fun node =>
            if node.id = id then change node else node) =
          fun node => decide (node.organizationId = organizationId ∧
            node.nodeId = normalized) := by
        funext other
        dsimp only [Function.comp_apply]
        split_ifs
        · rw [(hchange other).1, (hchange other).2]
        · rfl
      rw [hsame, hnode]
      rfl
    rw [hmoved]
    rfl

theorem changeState_state {nodeId : String} {target : NodeState} {actorSubject reason : String}
    (hchange : repository.changeState database nodeId target actorSubject reason
      issue = .ok (next, answer)) :
    ∃ node, next.nodeForUpdate repository.organizationId nodeId = .ok node ∧
      node.state = target := by
  simp only [NodeRepository.changeState, bind_eq_ok] at hchange
  obtain ⟨normalizedReason, _, actor, _, node, hnode, hchange⟩ := hchange
  split_ifs at hchange with hsame
  · rw [pure_eq_ok, Prod.mk.injEq] at hchange
    rw [← hchange.1]
    exact ⟨node, hnode, hsame⟩
  · simp only [bind_eq_ok] at hchange
    obtain ⟨_, _, hchange⟩ := hchange
    have hnodes : next.nodes = (database.updateNode node.id
        (CentralNode.moveTo target normalizedReason issue.now)).nodes := by
      split at hchange
      next =>
        rw [pure_eq_ok, Prod.mk.injEq] at hchange
        rw [← hchange.1, moveNode_nodes]
      next operation _ =>
        simp only [bind_eq_ok, pure_eq_ok, Prod.mk.injEq] at hchange
        obtain ⟨enqueued, hqueued, rfl, _⟩ := hchange
        rw [(enqueueBrokerCommand_eq_ok hqueued).1, moveNode_nodes]
    have hkept : ∀ other : CentralNode, (CentralNode.moveTo target normalizedReason issue.now
          other).organizationId = other.organizationId ∧
        (CentralNode.moveTo target normalizedReason issue.now other).nodeId =
          other.nodeId := fun _ => ⟨rfl, rfl⟩
    refine ⟨_, nodeForUpdate_moved hnode hkept hnodes, ?_⟩
    rw [if_pos rfl]
    rfl

theorem serve_then_replayed {request repeated : NodeRequest}
    (hanswer : (database.serve request false).1 = .ok answer)
    (hrepeats : Repeats repeated request) :
    (database.serve request false).2.Replayed repeated := by
  obtain ⟨hoperation, horg⟩ := hrepeats
  unfold serve at hanswer ⊢
  split at hanswer
  next => cases hanswer
  next => cases hanswer
  next committed answered hperform =>
    unfold Replayed
    unfold perform at hperform
    rw [hoperation, horg]
    cases hcase : request.operation with
    | provision command =>
      rw [hcase] at hperform
      exact (provision_answered hperform).keyInUse
    | rotate command =>
      rw [hcase] at hperform
      exact (rotateCredential_answered hperform).keyInUse
    | changeState nodeId target actorSubject reason =>
      rw [hcase] at hperform
      exact changeState_state hperform

theorem Replayed.serve {repeated : NodeRequest}
    (hreplayed : database.Replayed repeated) (hkeyed : Keyed repeated)
    (request : NodeRequest) (fails : Bool) :
    (database.serve request fails).2.Replayed repeated := by
  unfold Replayed at hreplayed ⊢
  unfold Keyed at hkeyed
  split at hreplayed
  next => exact hreplayed.serve request fails
  next => exact hreplayed.serve request fails
  next hcase =>
    rw [hcase] at hkeyed
    exact hkeyed.elim

def unrevokedOf (database : NodeDatabase) (nodeRecordId : String) :
    List CentralNodeCredential :=
  database.credentials.filter fun credential =>
    credential.nodeRecordId = nodeRecordId ∧ credential.revokedAt = none

def generationsOf (database : NodeDatabase) (nodeRecordId : String) : List ℕ :=
  (database.credentials.filter fun credential =>
    credential.nodeRecordId = nodeRecordId).map CentralNodeCredential.generation

structure CredentialsSound (database : NodeDatabase) : Prop where
  atMostOne : ∀ node ∈ database.nodes, (database.unrevokedOf node.id).length ≤ 1
  noneRevoked : ∀ node ∈ database.nodes, node.state = .revoked → database.unrevokedOf node.id = []
  increasing : ∀ nodeRecordId, (database.generationsOf nodeRecordId).Pairwise (· < ·)

theorem CredentialInvariant.sound (hinv : CredentialInvariant database) :
    CredentialsSound database := by
  have hmem : ∀ {nodeRecordId : String} {credential : CentralNodeCredential},
      credential ∈ database.unrevokedOf nodeRecordId ↔ credential ∈ database.credentials ∧
          credential.nodeRecordId = nodeRecordId ∧ credential.revokedAt = none := by
    intro nodeRecordId credential
    unfold unrevokedOf
    rw [List.mem_filter, decide_eq_true_eq]
  constructor
  case atMostOne =>
    intro node _
    have hord : (database.unrevokedOf node.id).Pairwise fun earlier later =>
        earlier.nodeRecordId = later.nodeRecordId →
          earlier.generation < later.generation ∧ earlier.revokedAt ≠ none :=
      hinv.increasing.sublist List.filter_sublist
    by_contra hlen
    cases hlist : database.unrevokedOf node.id with
    | nil => simp [hlist] at hlen
    | cons first rest =>
      cases rest with
      | nil => simp [hlist] at hlen
      | cons second others =>
        have hfirst : first ∈ database.unrevokedOf node.id := by simp [hlist]
        have hsecond : second ∈ database.unrevokedOf node.id := by
          simp [hlist]
        obtain ⟨_, hfirstOwner, hunrevoked⟩ := hmem.mp hfirst
        obtain ⟨_, hsecondOwner, _⟩ := hmem.mp hsecond
        rw [hlist] at hord
        have hrevoked := (List.rel_of_pairwise_cons hord
          List.mem_cons_self) (hfirstOwner.trans hsecondOwner.symm)
        exact hrevoked.2 hunrevoked
  case noneRevoked =>
    intro node hnode hrevoked
    rw [List.eq_nil_iff_forall_not_mem]
    intro credential hcred
    obtain ⟨hmemCredential, howner, hunrevoked⟩ := hmem.mp hcred
    exact hinv.revoked node hnode hrevoked credential hmemCredential howner hunrevoked
  case increasing =>
    intro nodeRecordId
    unfold generationsOf
    rw [List.pairwise_map]
    refine ((List.pairwise_filter.mpr (hinv.increasing.imp ?_)))
    intro earlier later hord hearlier hlater
    rw [decide_eq_true_eq] at hearlier hlater
    exact (hord (hearlier.trans hlater.symm)).1

theorem step_credentialInvariant {event : NodeRequest × Bool} (hinv : CredentialInvariant database)
    (hstep : step database event = some next) : CredentialInvariant next := by
  unfold step at hstep
  cases hstep
  exact hinv.serve event.1 event.2

/-- In every state which requests reach, a node has at most one unrevoked
credential, none when it is revoked, and rising generations; a replayed request
changes nothing, and an answered request is replayed whenever it comes again,
one under a key whatever has happened since. -/
theorem edgeNodeRun_sound
    (hreach : Reaches step (fun _ _ => True) empty database) :
    database.CredentialsSound ∧
    (∀ request fails, database.Replayed request →
      (database.serve request fails).2 = database) ∧
    ∀ request answer, (database.serve request false).1 = .ok answer →
      ∀ repeated, Repeats repeated request →
        (database.serve request false).2.Replayed repeated ∧
        (Keyed repeated → ∀ later, Reaches step (fun _ _ => True)
          (database.serve request false).2 later → later.Replayed repeated) := by
  have hinv : CredentialInvariant database :=
    hreach.invariant (fun _ _ _ hinvariant _ hstep =>
      step_credentialInvariant hinvariant hstep) empty_credentialInvariant
  refine ⟨hinv.sound, fun request fails hreplayed =>
    serve_replayed hreplayed fails, ?_⟩
  intro request answer hanswer repeated hrepeats
  have hreplayed := serve_then_replayed hanswer hrepeats
  refine ⟨hreplayed, fun hkeyed later hlater => ?_⟩
  refine hlater.invariant (P := fun state => state.Replayed repeated) ?_ hreplayed
  intro state event after hstate _ hstep
  unfold step at hstep
  cases hstep
  exact hstate.serve hkeyed event.1 event.2

def nodeRequest (number : ℕ) (operation : NodeOperation) : NodeRequest :=
  ⟨⟨"o", true⟩, operation, ⟨"n" ++ toString number, "c" ++ toString number,
    "b" ++ toString number, "s", number⟩⟩

def nodeLife : List (NodeRequest × Bool) :=
  [(nodeRequest 1 (.provision ⟨"edge-1", "Edge", "k1", "op", 1, 2⟩), false),
    (nodeRequest 2 (.changeState "edge-1" .active "op" "r"), false),
    (nodeRequest 3 (.rotate ⟨"edge-1", "k2", "op", "r"⟩), false),
    (nodeRequest 4 (.changeState "edge-1" .revoked "op" "r"), false)]

theorem edgeNodeRun_sound_nodeLife :
    ∃ database, runFrom step empty nodeLife = some database ∧
      database.generationsOf "n1" = [1, 2] ∧
      database.CredentialsSound ∧
      ∀ request fails, database.Replayed request →
        (database.serve request fails).2 = database := by
  have hrun : ((runFrom step empty nodeLife).map fun database =>
      database.generationsOf "n1") = some [1, 2] := by
    decide +kernel
  rw [Option.map_eq_some_iff] at hrun
  obtain ⟨database, hrun, hgenerations⟩ := hrun
  have hreach : Reaches step (fun _ _ => True) empty database :=
    Reaches.of_runFrom (fun _ _ _ => trivial) hrun
  obtain ⟨hsound, hreplayed, _⟩ := edgeNodeRun_sound hreach
  exact ⟨database, hrun, hgenerations, hsound, hreplayed⟩

end NodeDatabase

end Nexolab
