import Nexolab.EdgeNodes
import Nexolab.TransitionSystem

/-!
# Credentials of the edge nodes

A rotation revokes what it replaces, a revocation whatever is left, and a new
credential has a larger generation than every earlier one of its node.
-/

namespace Nexolab

namespace CentralNodeCredential

variable (organizationId nodeRecordId actor reason : String) (now : ℚ)
  (credential : CentralNodeCredential)

/-- The same credential, possibly revoked in between. -/
structure RevokedAtMost (before after : CentralNodeCredential) : Prop where
  organizationId : after.organizationId = before.organizationId
  nodeRecordId : after.nodeRecordId = before.nodeRecordId
  generation : after.generation = before.generation
  idempotencyKey : after.idempotencyKey = before.idempotencyKey
  revokedAt : before.revokedAt ≠ none → after.revokedAt ≠ none

theorem revoke_revokedAtMost : RevokedAtMost credential
    (credential.revoke organizationId nodeRecordId actor reason now) := by
  unfold revoke
  split_ifs
  · exact ⟨rfl, rfl, rfl, rfl, fun _ => nofun⟩
  · exact ⟨rfl, rfl, rfl, rfl, fun hold => hold⟩

theorem revoke_revokedAt (horg : credential.organizationId = organizationId)
    (hnode : credential.nodeRecordId = nodeRecordId) :
    (credential.revoke organizationId nodeRecordId actor reason now).revokedAt ≠
      none := by
  unfold revoke
  split_ifs with hunrevoked
  · exact nofun
  · exact fun hnone => hunrevoked ⟨horg, hnode, hnone⟩

end CentralNodeCredential

namespace NodeDatabase

variable {database next : NodeDatabase}

variable {message : String} {node : CentralNode} {command : CentralNodeBrokerCommand}
  {issue : NodeIssue} {change : CentralNode → CentralNode}

theorem insertNode_eq_ok :
    database.insertNode node message = .ok next ↔
      (¬ ∃ other ∈ database.nodes, other.id = node.id ∨
        (other.organizationId = node.organizationId ∧ other.nodeId = node.nodeId)) ∧
      { database with nodes := database.nodes ++ [node] } = next := by
  unfold insertNode
  split_ifs with hconflict
  · simp [hconflict]
  · simp [hconflict]

theorem insertCredential_eq_ok {credential : CentralNodeCredential} :
    database.insertCredential credential message = .ok next ↔
      (¬ ∃ other ∈ database.credentials, other.id = credential.id ∨
        (other.organizationId = credential.organizationId ∧
          other.idempotencyKey = credential.idempotencyKey) ∨
        (other.nodeRecordId = credential.nodeRecordId ∧
          other.generation = credential.generation)) ∧
      { database with
        credentials := database.credentials ++ [credential] } = next := by
  unfold insertCredential
  split_ifs with hconflict
  · simp [hconflict]
  · simp [hconflict]

theorem enqueueInSession_eq_ok (hqueued : database.enqueueInSession command message = .ok next) :
    next.nodes = database.nodes ∧ next.credentials = database.credentials ∧
      (next.commands = database.commands ∨
        next.commands = database.commands ++ [command]) := by
  unfold enqueueInSession at hqueued
  split at hqueued
  next =>
    split_ifs at hqueued
    cases hqueued
    exact ⟨rfl, rfl, .inl rfl⟩
  next =>
    split_ifs at hqueued
    cases hqueued
    exact ⟨rfl, rfl, .inr rfl⟩

variable {repository : NodeRepository} {answer : NodeAnswer}

theorem enqueueBrokerCommand_eq_ok
    (hqueued : repository.enqueueBrokerCommand database command message = .ok next) :
    next.nodes = database.nodes ∧ next.credentials = database.credentials := by
  unfold NodeRepository.enqueueBrokerCommand at hqueued
  split_ifs at hqueued
  · obtain ⟨hnodes, hcreds, _⟩ := enqueueInSession_eq_ok hqueued
    exact ⟨hnodes, hcreds⟩
  · rw [Except.ok.injEq] at hqueued
    rw [hqueued]
    exact ⟨rfl, rfl⟩

theorem nodeForUpdate_eq_ok {organizationId nodeId : String}
    (hfound : database.nodeForUpdate organizationId nodeId = .ok node) :
    node ∈ database.nodes ∧ node.organizationId = organizationId := by
  simp only [nodeForUpdate, bind_eq_ok] at hfound
  obtain ⟨normalized, _, hfound⟩ := hfound
  split at hfound
  next => cases hfound
  next found hnode =>
    cases hfound
    have hmatch := List.find?_some hnode
    rw [decide_eq_true_eq] at hmatch
    exact ⟨List.mem_of_find?_eq_some hnode, hmatch.1⟩

theorem le_foldl_max {values : List ℕ} {start value : ℕ} (hvalue : value ≤ start ∨ value ∈ values) :
    value ≤ values.foldl max start := by
  induction values generalizing start with
  | nil =>
    rcases hvalue with hle | hmem
    · exact hle
    · exact nomatch hmem
  | cons first rest ih =>
    rw [List.foldl_cons]
    apply ih
    rcases hvalue with hle | hmem
    · exact .inl (hle.trans (le_max_left _ _))
    · rcases List.mem_cons.mp hmem with rfl | hrest
      · exact .inl (le_max_right _ _)
      · exact .inr hrest

theorem le_historicalMax {nodeRecordId : String} {credential : CentralNodeCredential}
    (hmem : credential ∈ database.credentials) (hnode : credential.nodeRecordId = nodeRecordId) :
    credential.generation ≤ database.historicalMax nodeRecordId := by
  unfold historicalMax
  refine le_foldl_max (.inr (List.mem_map_of_mem ?_))
  rw [List.mem_filter, decide_eq_true_eq]
  exact ⟨hmem, hnode⟩

structure Provisions (database next : NodeDatabase) : Prop where
  issued : ∃ node credential, next.nodes = database.nodes ++ [node] ∧
    next.credentials = database.credentials ++ [credential] ∧
    node.state = .pending ∧ (∀ other ∈ database.nodes, other.id ≠ node.id) ∧
    credential.nodeRecordId = node.id ∧
    credential.organizationId = node.organizationId

/-- The credentials of a node which is not revoked are revoked, and one with a
larger generation is added. -/
structure Rotates (database next : NodeDatabase) : Prop where
  issued : ∃ node ∈ database.nodes, ∃ credential actor reason now change, node.state ≠ .revoked ∧
    (∀ other : CentralNode, (change other).id = other.id ∧
      (change other).organizationId = other.organizationId ∧
      (change other).state = other.state) ∧
    next.nodes = (database.updateNode node.id change).nodes ∧
    next.credentials = (database.revokeCredentials node.organizationId node.id
      actor reason now).credentials ++ [credential] ∧
    credential.nodeRecordId = node.id ∧
    credential.organizationId = node.organizationId ∧
    ∀ other ∈ database.credentials, other.nodeRecordId = node.id →
      other.generation < credential.generation

/-- A node moves to another state; a revoked one loses its credentials. -/
structure Moves (database next : NodeDatabase) : Prop where
  moved : ∃ node ∈ database.nodes, ∃ target actor reason now, node.state ≠ .revoked ∧
    next.nodes = (database.moveNode node target actor reason now).nodes ∧
    next.credentials = (database.moveNode node target actor reason now).credentials

theorem replay_eq_ok {credential : CentralNodeCredential} {digest : NodeCommandDigest}
    {conflict missing : String}
    (hreplay : repository.replay database credential digest conflict missing =
      .ok (next, answer)) : next = database := by
  unfold NodeRepository.replay at hreplay
  split_ifs at hreplay
  split at hreplay
  next => cases hreplay
  next =>
    split_ifs at hreplay
    rw [Except.ok.injEq, Prod.mk.injEq] at hreplay
    exact hreplay.1.symm

def KeyInUse (database : NodeDatabase) (organizationId key : String) : Prop :=
  ∃ credential ∈ database.credentials,
    credential.organizationId = organizationId ∧ credential.idempotencyKey = key

/-- What a request under an idempotency key does: it is replayed while the key is
in use, and otherwise makes its change with a credential under the key. -/
inductive AnsweredOnce (database next : NodeDatabase) (organizationId key : String)
    (changed : Prop) : Prop
  | replayed (hinUse : database.KeyInUse organizationId key) (hnext : next = database)
  | issued (hfree : ¬ database.KeyInUse organizationId key)
      (hinUse : next.KeyInUse organizationId key) (hchanged : changed)

section

variable {organizationId key : String} {changed : Prop}

theorem AnsweredOnce.cases (hanswered : AnsweredOnce database next organizationId key changed) :
    next = database ∨ changed := by
  cases hanswered with
  | replayed _ hnext => exact .inl hnext
  | issued _ _ hchanged => exact .inr hchanged

theorem AnsweredOnce.replay (hanswered : AnsweredOnce database next organizationId key changed)
    (hinUse : database.KeyInUse organizationId key) : next = database := by
  cases hanswered with
  | replayed _ hnext => exact hnext
  | issued hfree _ _ => exact absurd hinUse hfree

theorem AnsweredOnce.keyInUse (hanswered : AnsweredOnce database next organizationId key changed) :
    next.KeyInUse organizationId key := by
  cases hanswered with
  | replayed hinUse hnext => exact hnext ▸ hinUse
  | issued _ hinUse _ => exact hinUse

theorem credentialByIdempotency_inUse {found : Option CentralNodeCredential}
    (hfound : database.credentialByIdempotency organizationId key = .ok found) :
    (found = none ↔ ¬ database.KeyInUse organizationId (stripText key)) := by
  simp only [credentialByIdempotency, bind_eq_ok, pure_eq_ok] at hfound
  obtain ⟨normalized, hnormalized, rfl⟩ := hfound
  have hkey : normalized = stripText key := by
    unfold requiredText at hnormalized
    dsimp only at hnormalized
    split_ifs at hnormalized
    rw [Except.ok.injEq] at hnormalized
    exact hnormalized.symm
  rw [List.find?_eq_none, hkey]
  unfold KeyInUse
  simp only [decide_eq_true_eq, not_and, not_exists]

end

theorem keyInUse_appended {credentials : List CentralNodeCredential}
    {credential : CentralNodeCredential} (hcreds : next.credentials = credentials ++ [credential]) :
    next.KeyInUse credential.organizationId credential.idempotencyKey :=
  ⟨credential, hcreds ▸ List.mem_append_right _ (List.mem_singleton_self _), rfl, rfl⟩

theorem provision_answered {command : ProvisionNodeCommand}
    (hprov : repository.provision database command issue = .ok (next, answer)) :
    AnsweredOnce database next repository.organizationId
      (stripText command.idempotencyKey) (Provisions database next) := by
  simp only [NodeRepository.provision, bind_eq_ok] at hprov
  obtain ⟨_, _, nodeId, _, digest, _, found, hfound, hprov⟩ := hprov
  have hkey := credentialByIdempotency_inUse hfound
  cases found with
  | some credential =>
    exact .replayed (not_not.mp fun hfree => nomatch hkey.mpr hfree) (replay_eq_ok hprov)
  | none =>
    dsimp only at hprov
    split_ifs at hprov
    simp only [bind_eq_ok, insertNode_eq_ok, insertCredential_eq_ok,
      pure_eq_ok, Prod.mk.injEq] at hprov
    obtain ⟨_, ⟨hfresh, rfl⟩, _, ⟨_, rfl⟩, enqueued, hqueued, rfl, _⟩ :=
      hprov
    obtain ⟨hnodes, hcreds⟩ := enqueueBrokerCommand_eq_ok hqueued
    refine .issued (hkey.mp rfl) (keyInUse_appended hcreds)
      ⟨_, _, hnodes, hcreds, rfl, ?_, rfl, rfl⟩
    intro other hother hsame
    exact hfresh ⟨other, hother, .inl hsame⟩

theorem rotateCredential_answered {command : RotateNodeCredentialCommand}
    (hrotate : repository.rotateCredential database command issue = .ok (next, answer)) :
    AnsweredOnce database next repository.organizationId
      (stripText command.idempotencyKey) (Rotates database next) := by
  simp only [NodeRepository.rotateCredential, bind_eq_ok] at hrotate
  obtain ⟨_, _, digest, _, found, hfound, hrotate⟩ := hrotate
  have hkey := credentialByIdempotency_inUse hfound
  cases found with
  | some credential =>
    exact .replayed (not_not.mp fun hfree => nomatch hkey.mpr hfree) (replay_eq_ok hrotate)
  | none =>
    simp only [bind_eq_ok] at hrotate
    obtain ⟨node, hnode, hrotate⟩ := hrotate
    split_ifs at hrotate with hrevoked
    simp only [bind_eq_ok, insertCredential_eq_ok, pure_eq_ok, Prod.mk.injEq] at hrotate
    obtain ⟨_, ⟨_, rfl⟩, enqueued, hqueued, rfl, _⟩ := hrotate
    obtain ⟨hnodes, hcreds⟩ := enqueueBrokerCommand_eq_ok hqueued
    obtain ⟨hmem, horg⟩ := nodeForUpdate_eq_ok hnode
    refine .issued (hkey.mp rfl) (keyInUse_appended hcreds) ?_
    rw [← horg] at hcreds
    refine ⟨node, hmem, _, _, _, _, _, hrevoked, ?_, hnodes, hcreds, rfl, rfl, ?_⟩
    · exact fun _ => ⟨rfl, rfl, rfl⟩
    · intro other hother hsame
      have hkept := CentralNodeCredential.revoke_revokedAtMost
        node.organizationId node.id (stripText command.actorSubject)
        "credential rotation" issue.now other
      have hmem : other.revoke node.organizationId node.id
          (stripText command.actorSubject) "credential rotation" issue.now ∈
          (database.revokeCredentials node.organizationId node.id
            (stripText command.actorSubject) "credential rotation"
            issue.now).credentials := List.mem_map_of_mem hother
      have hle := le_historicalMax hmem (hkept.nodeRecordId.trans hsame)
      rw [hkept.generation] at hle
      exact Nat.lt_succ_of_le (hle.trans (le_max_right _ _))

theorem transition_not_revoked {source target destination : NodeState}
    (htrans : NodeRepository.transitionNodeState source target =
      .ok destination) : source ≠ .revoked := by
  rintro rfl
  unfold NodeRepository.transitionNodeState at htrans
  rw [if_neg (by simp [NodeRepository.allowedTransitions])] at htrans
  cases htrans

theorem changeState_cases {nodeId : String} {target : NodeState} {actorSubject reason : String}
    (hchange : repository.changeState database nodeId target actorSubject reason
      issue = .ok (next, answer)) : next = database ∨ Moves database next := by
  simp only [NodeRepository.changeState, bind_eq_ok] at hchange
  obtain ⟨normalizedReason, _, actor, _, node, hnode, hchange⟩ := hchange
  obtain ⟨hmem, horg⟩ := nodeForUpdate_eq_ok hnode
  split_ifs at hchange with hsame
  · rw [pure_eq_ok, Prod.mk.injEq] at hchange
    exact .inl hchange.1.symm
  · simp only [bind_eq_ok] at hchange
    obtain ⟨_, htrans, hchange⟩ := hchange
    have hrevoked := transition_not_revoked htrans
    right
    split at hchange
    next =>
      rw [pure_eq_ok, Prod.mk.injEq] at hchange
      obtain ⟨rfl, _⟩ := hchange
      exact ⟨node, hmem, _, _, _, _, hrevoked, rfl, rfl⟩
    next operation _ =>
      simp only [bind_eq_ok, pure_eq_ok, Prod.mk.injEq] at hchange
      obtain ⟨enqueued, hqueued, rfl, _⟩ := hchange
      obtain ⟨hnodes, hcreds⟩ := enqueueBrokerCommand_eq_ok hqueued
      exact ⟨node, hmem, _, _, _, _, hrevoked, hnodes, hcreds⟩

theorem perform_cases {request : NodeRequest}
    (hperform : database.perform request = .ok (next, answer)) :
    next = database ∨ Provisions database next ∨ Rotates database next ∨ Moves database next := by
  unfold perform at hperform
  split at hperform
  next => exact (provision_answered hperform).cases.imp_right .inl
  next => exact (rotateCredential_answered hperform).cases.imp_right (.inr ∘ .inl)
  next => exact (changeState_cases hperform).imp_right (.inr ∘ .inr)

theorem serve_cases (database : NodeDatabase) (request : NodeRequest) (fails : Bool) :
    (database.serve request fails).2 = database ∨
      ∃ next answer, database.perform request = .ok (next, answer) ∧
        (database.serve request fails).2 = next := by
  unfold serve
  split
  next => exact .inl rfl
  next => exact .inl rfl
  next hperform => exact .inr ⟨_, _, hperform, rfl⟩

/-! ## The invariant -/

structure CredentialInvariant (database : NodeDatabase) : Prop where
  nodeIds : (database.nodes.map CentralNode.id).Nodup
  owners : ∀ credential ∈ database.credentials, ∃ node ∈ database.nodes,
    node.id = credential.nodeRecordId ∧ node.organizationId = credential.organizationId
  increasing : database.credentials.Pairwise fun earlier later =>
    earlier.nodeRecordId = later.nodeRecordId →
      earlier.generation < later.generation ∧ earlier.revokedAt ≠ none
  revoked : ∀ node ∈ database.nodes, node.state = .revoked →
    ∀ credential ∈ database.credentials, credential.nodeRecordId = node.id →
      credential.revokedAt ≠ none

theorem empty_credentialInvariant : CredentialInvariant empty where
  nodeIds := List.nodup_nil
  owners := fun _ hcred => nomatch hcred
  increasing := List.Pairwise.nil
  revoked := fun _ hnode => nomatch hnode

theorem CredentialInvariant.node_unique (hinv : CredentialInvariant database)
    {node other : CentralNode} (hnode : node ∈ database.nodes)
    (hother : other ∈ database.nodes) (hid : node.id = other.id) : node = other :=
  List.inj_on_of_nodup_map hinv.nodeIds hnode hother hid

theorem updateNode_nodes {id : String}
    (hchange : ∀ other, (change other).id = other.id ∧
      (change other).organizationId = other.organizationId) (hnode : node ∈ database.nodes) :
    ∃ after ∈ (database.updateNode id change).nodes, after.id = node.id ∧
      after.organizationId = node.organizationId := by
  refine ⟨_, List.mem_map_of_mem hnode, ?_⟩
  split_ifs
  · exact hchange node
  · exact ⟨rfl, rfl⟩

theorem updateNode_ids {id : String} (hchange : ∀ other, (change other).id = other.id) :
    (database.updateNode id change).nodes.map CentralNode.id =
      database.nodes.map CentralNode.id := by
  unfold updateNode
  rw [List.map_map]
  refine List.map_congr_left fun node _ => ?_
  change (if node.id = id then change node else node).id = node.id
  split_ifs
  · exact hchange node
  · rfl

theorem mem_updateNode {id : String}
    {after : CentralNode} (hafter : after ∈ (database.updateNode id change).nodes) :
    ∃ node ∈ database.nodes,
      (node.id = id ∧ after = change node) ∨ (node.id ≠ id ∧ after = node) := by
  obtain ⟨node, hnode, rfl⟩ := List.mem_map.mp hafter
  refine ⟨node, hnode, ?_⟩
  split_ifs with hid
  · exact .inl ⟨hid, rfl⟩
  · exact .inr ⟨hid, rfl⟩

theorem mem_revokeCredentials {organizationId nodeRecordId actor reason : String}
    {now : ℚ} {after : CentralNodeCredential}
    (hafter : after ∈ (database.revokeCredentials organizationId nodeRecordId
      actor reason now).credentials) :
    ∃ credential ∈ database.credentials, CentralNodeCredential.RevokedAtMost credential after ∧
      (credential.organizationId = organizationId →
        credential.nodeRecordId = nodeRecordId → after.revokedAt ≠ none) := by
  obtain ⟨credential, hcred, rfl⟩ := List.mem_map.mp hafter
  exact ⟨credential, hcred, CentralNodeCredential.revoke_revokedAtMost _ _ _ _ _ _,
    CentralNodeCredential.revoke_revokedAt _ _ _ _ _ _⟩

theorem CredentialInvariant.increasing_revoked (hinv : CredentialInvariant database)
    (organizationId nodeRecordId actor reason : String) (now : ℚ) :
    (database.revokeCredentials organizationId nodeRecordId actor reason
      now).credentials.Pairwise fun earlier later =>
        earlier.nodeRecordId = later.nodeRecordId →
          earlier.generation < later.generation ∧ earlier.revokedAt ≠ none := by
  refine List.pairwise_map.mpr (hinv.increasing.imp ?_)
  intro earlier later hord hsame
  have hearlier := CentralNodeCredential.revoke_revokedAtMost organizationId
    nodeRecordId actor reason now earlier
  have hlater := CentralNodeCredential.revoke_revokedAtMost organizationId
    nodeRecordId actor reason now later
  rw [hearlier.nodeRecordId, hlater.nodeRecordId] at hsame
  obtain ⟨hgen, hrevoked⟩ := hord hsame
  rw [hearlier.generation, hlater.generation]
  exact ⟨hgen, hearlier.revokedAt hrevoked⟩

theorem CredentialInvariant.provisions (hinv : CredentialInvariant database)
    (hprovisions : Provisions database next) : CredentialInvariant next := by
  obtain ⟨node, credential, hnodes, hcreds, hstate, hfresh, howner, horg⟩ := hprovisions.issued
  have hunowned : ∀ other ∈ database.credentials, other.nodeRecordId ≠ node.id := by
    intro other hother hsame
    obtain ⟨owner, hmem, hid, _⟩ := hinv.owners other hother
    exact hfresh owner hmem (hid.trans hsame)
  constructor
  case nodeIds =>
    rw [hnodes, List.map_append, List.nodup_append]
    refine ⟨hinv.nodeIds, List.nodup_singleton _, ?_⟩
    intro first hfirst second hsecond hsame
    obtain ⟨other, hother, rfl⟩ := List.mem_map.mp hfirst
    rw [List.map_singleton, List.mem_singleton] at hsecond
    exact hfresh other hother (hsame.trans hsecond)
  case owners =>
    intro other hother
    rw [hcreds, List.mem_append, List.mem_singleton] at hother
    rw [hnodes]
    rcases hother with hold | rfl
    · obtain ⟨owner, hmem, hfacts⟩ := hinv.owners other hold
      exact ⟨owner, List.mem_append_left _ hmem, hfacts⟩
    · exact ⟨node, List.mem_append_right _ (List.mem_singleton_self _), howner.symm, horg.symm⟩
  case increasing =>
    rw [hcreds, List.pairwise_append]
    refine ⟨hinv.increasing, List.pairwise_singleton _ _, ?_⟩
    intro earlier hearlier later hlater hsame
    rw [List.mem_singleton] at hlater
    rw [hlater, howner] at hsame
    exact absurd hsame (hunowned earlier hearlier)
  case revoked =>
    intro other hother hrevoked item hitem hsame
    rw [hnodes, List.mem_append, List.mem_singleton] at hother
    rw [hcreds, List.mem_append, List.mem_singleton] at hitem
    rcases hother with hold | rfl
    · rcases hitem with hitem | rfl
      · exact hinv.revoked other hold hrevoked item hitem hsame
      · exact absurd (hsame.symm.trans howner) (hfresh other hold)
    · rw [hstate] at hrevoked
      cases hrevoked

theorem CredentialInvariant.rotates (hinv : CredentialInvariant database)
    (hrotates : Rotates database next) : CredentialInvariant next := by
  obtain ⟨node, hnode, credential, actor, reason, now, change, hstate, hchange,
    hnodes, hcreds, howner, horg, hlarger⟩ := hrotates.issued
  constructor
  case nodeIds =>
    rw [hnodes, updateNode_ids fun other => (hchange other).1]
    exact hinv.nodeIds
  case owners =>
    intro other hother
    have hkept : ∀ owner ∈ database.nodes, ∃ after ∈ (database.updateNode node.id change).nodes,
          after.id = owner.id ∧ after.organizationId = owner.organizationId :=
      fun owner hmem => updateNode_nodes (fun item => ⟨(hchange item).1, (hchange item).2.1⟩) hmem
    rw [hcreds, List.mem_append, List.mem_singleton] at hother
    rw [hnodes]
    rcases hother with hold | rfl
    · obtain ⟨before, hbefore, hrevoked, _⟩ := mem_revokeCredentials hold
      obtain ⟨owner, hmem, hid, hown⟩ := hinv.owners before hbefore
      obtain ⟨after, hafter, hafterId, hafterOwn⟩ := hkept owner hmem
      refine ⟨after, hafter, ?_, ?_⟩
      · rw [hafterId, hid, hrevoked.nodeRecordId]
      · rw [hafterOwn, hown, hrevoked.organizationId]
    · obtain ⟨after, hafter, hafterId, hafterOwn⟩ := hkept node hnode
      exact ⟨after, hafter, hafterId.trans howner.symm, hafterOwn.trans horg.symm⟩
  case increasing =>
    rw [hcreds, List.pairwise_append]
    refine ⟨hinv.increasing_revoked _ _ _ _ _, List.pairwise_singleton _ _, ?_⟩
    intro earlier hearlier later hlater hsame
    rw [List.mem_singleton] at hlater
    subst hlater
    obtain ⟨before, hbefore, hrevoked, hgone⟩ := mem_revokeCredentials hearlier
    have hid : before.nodeRecordId = node.id := by
      rw [← hrevoked.nodeRecordId, hsame, howner]
    have hown : before.organizationId = node.organizationId := by
      obtain ⟨owner, hmem, hownerId, hownerOrganization⟩ :=
        hinv.owners before hbefore
      rw [← hownerOrganization, hinv.node_unique hmem hnode (hownerId.trans hid)]
    rw [hrevoked.generation]
    exact ⟨hlarger before hbefore hid, hgone hown hid⟩
  case revoked =>
    intro other hother hrevoked item hitem hsame
    rw [hnodes] at hother
    obtain ⟨before, hbefore, hcases⟩ := mem_updateNode hother
    have hfacts : other.id = before.id ∧ other.state = before.state := by
      rcases hcases with ⟨_, rfl⟩ | ⟨_, rfl⟩
      · exact ⟨(hchange before).1, (hchange before).2.2⟩
      · exact ⟨rfl, rfl⟩
    rw [hfacts.2] at hrevoked
    rw [hfacts.1] at hsame
    have hother : before.id ≠ node.id := by
      intro hid
      rw [hinv.node_unique hbefore hnode hid] at hrevoked
      exact hstate hrevoked
    rw [hcreds, List.mem_append, List.mem_singleton] at hitem
    rcases hitem with hold | rfl
    · obtain ⟨old, holdMem, hkept, _⟩ := mem_revokeCredentials hold
      exact hkept.revokedAt (hinv.revoked before hbefore hrevoked old holdMem
        (hkept.nodeRecordId.symm.trans hsame))
    · exact absurd (hsame.symm.trans howner) hother

theorem moveNode_nodes (node : CentralNode) (target : NodeState) (actor reason : String) (now : ℚ) :
    (database.moveNode node target actor reason now).nodes =
      (database.updateNode node.id (CentralNode.moveTo target reason now)).nodes := by
  unfold moveNode
  dsimp only
  split_ifs
  · rfl
  · rfl

theorem mem_moveNode {target : NodeState}
    {actor reason : String} {now : ℚ} {after : CentralNodeCredential}
    (hafter : after ∈ (database.moveNode node target actor reason now).credentials) :
    ∃ credential ∈ database.credentials, CentralNodeCredential.RevokedAtMost credential after ∧
      (target = .revoked → credential.organizationId = node.organizationId →
        credential.nodeRecordId = node.id → after.revokedAt ≠ none) := by
  unfold moveNode at hafter
  dsimp only at hafter
  split_ifs at hafter with htarget
  · obtain ⟨credential, hcred, hkept, hgone⟩ :=
      mem_revokeCredentials hafter
    exact ⟨credential, hcred, hkept, fun _ => hgone⟩
  · exact ⟨after, hafter, ⟨rfl, rfl, rfl, rfl, fun hold => hold⟩, fun hsame => absurd hsame htarget⟩

theorem CredentialInvariant.moves (hinv : CredentialInvariant database)
    (hmoves : Moves database next) : CredentialInvariant next := by
  obtain ⟨node, hnode, target, actor, reason, now, hstate, hnodes, hcreds⟩ := hmoves.moved
  rw [moveNode_nodes] at hnodes
  have hchange : ∀ other : CentralNode, (CentralNode.moveTo target reason now other).id = other.id ∧
        (CentralNode.moveTo target reason now other).organizationId =
          other.organizationId := fun _ => ⟨rfl, rfl⟩
  constructor
  case nodeIds =>
    rw [hnodes, updateNode_ids fun other => (hchange other).1]
    exact hinv.nodeIds
  case owners =>
    intro other hother
    rw [hcreds] at hother
    rw [hnodes]
    obtain ⟨before, hbefore, hkept, _⟩ := mem_moveNode hother
    obtain ⟨owner, hmem, hid, hown⟩ := hinv.owners before hbefore
    obtain ⟨after, hafter, hafterId, hafterOwn⟩ := updateNode_nodes hchange hmem
    refine ⟨after, hafter, ?_, ?_⟩
    · rw [hafterId, hid, hkept.nodeRecordId]
    · rw [hafterOwn, hown, hkept.organizationId]
  case increasing =>
    rw [hcreds]
    unfold moveNode
    dsimp only
    split_ifs
    · exact hinv.increasing_revoked _ _ _ _ _
    · exact hinv.increasing
  case revoked =>
    intro other hother hrevoked item hitem hsame
    rw [hnodes] at hother
    rw [hcreds] at hitem
    obtain ⟨before, hbefore, hcases⟩ := mem_updateNode hother
    obtain ⟨old, hold, hkept, hgone⟩ := mem_moveNode hitem
    rcases hcases with ⟨hid, rfl⟩ | ⟨hid, rfl⟩
    · -- The node of the request: it is revoked when this is the target.
      have hsame : old.nodeRecordId = node.id := by
        rw [← hkept.nodeRecordId, hsame]
        exact hid
      obtain ⟨owner, hmem, hownerId, hown⟩ := hinv.owners old hold
      refine hgone hrevoked ?_ hsame
      rw [← hown, hinv.node_unique hmem hnode (hownerId.trans hsame)]
    · exact hkept.revokedAt (hinv.revoked other hbefore hrevoked old hold
        (hkept.nodeRecordId.symm.trans hsame))

theorem CredentialInvariant.perform (hinv : CredentialInvariant database) {request : NodeRequest}
    (hperform : database.perform request = .ok (next, answer)) :
    CredentialInvariant next := by
  rcases perform_cases hperform with rfl | hprovisions | hrotates | hmoves
  · exact hinv
  · exact hinv.provisions hprovisions
  · exact hinv.rotates hrotates
  · exact hinv.moves hmoves

theorem CredentialInvariant.serve (hinv : CredentialInvariant database)
    (request : NodeRequest) (fails : Bool) :
    CredentialInvariant (database.serve request fails).2 := by
  rcases serve_cases database request fails with hsame | ⟨_, _, hperform, hnext⟩
  · rw [hsame]
    exact hinv
  · rw [hnext]
    exact hinv.perform hperform

end NodeDatabase

end Nexolab
