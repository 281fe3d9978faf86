import Nexolab.ControlledSend
import Nexolab.FallibleList

/-!
# Runs of controlled sends

Any number of invocations run on one outbox and are lost at any point.  A delivery
leaves `pending` once, so that each is sent at most once, unless a migration which was
decided before another one takes the threads of the rows away.
-/

namespace Nexolab

namespace ControlledSystem

variable {F : Type} [PythonFloat F] {library : SendLibrary F}
  {system next : ControlledSystem library} {action : SendAction F}

def Spent (rows : DeliveryOutbox) (key : String × String × ℕ) : Prop :=
  ∃ row ∈ rows, row.key = key ∧ row.state ≠ .pending

def Stripped (rows : DeliveryOutbox) : Prop :=
  ∀ row ∈ rows, stripText row.destinationChatId = row.destinationChatId

/-- The rows keep their keys and texts, and what has been claimed stays so. -/
structure RowsKept (rows after : DeliveryOutbox) : Prop where
  unique : (rows.map TelegramDelivery.key).Nodup → (after.map TelegramDelivery.key).Nodup
  spent : ∀ key, Spent rows key → Spent after key
  texts : ∀ row ∈ rows, ∃ later ∈ after, later.key = row.key ∧ later.renderedText = row.renderedText
  stripped : Stripped rows → Stripped after

theorem RowsKept.refl (rows : DeliveryOutbox) : RowsKept rows rows :=
  ⟨id, fun _ => id, fun row hrow => ⟨row, hrow, rfl, rfl⟩, id⟩

variable {rows : DeliveryOutbox} {row : TelegramDelivery} {threadId : ℕ} {now : ℚ}
  {delivery : TelegramDelivery} {phase : SendPhase library}
  {record : TelegramDelivery} {sender : ℕ} {send : VerifiedSend library}
  {file : OutboxFile}

theorem RowsKept.update {deliveryId : ℕ} {change : TelegramDelivery → TelegramDelivery}
    (hchange : ∀ row, (change row).key = row.key ∧
      (change row).renderedText = row.renderedText ∧ (change row).state ≠ .pending) :
    RowsKept rows (rows.update deliveryId change) := by
  have hrow : ∀ row : TelegramDelivery,
      (if row.id = deliveryId then change row else row).key = row.key ∧
        (if row.id = deliveryId then change row else row).renderedText = row.renderedText ∧
        (row.state ≠ .pending →
          (if row.id = deliveryId then change row else row).state ≠ .pending) := by
    intro row
    obtain ⟨hkey, htext, hstate⟩ := hchange row
    split_ifs
    · exact ⟨hkey, htext, fun _ => hstate⟩
    · exact ⟨rfl, rfl, id⟩
  unfold DeliveryOutbox.update
  constructor
  case unique =>
    intro hunique
    have hkeys : TelegramDelivery.key ∘ (fun row : TelegramDelivery =>
        if row.id = deliveryId then change row else row) = TelegramDelivery.key :=
      funext fun row => (hrow row).1
    rw [List.map_map, hkeys]
    exact hunique
  case spent =>
    rintro key ⟨row, hmem, hkey, hstate⟩
    exact ⟨_, List.mem_map_of_mem hmem, (hrow row).1.trans hkey, (hrow row).2.2 hstate⟩
  case texts =>
    intro row hmem
    exact ⟨_, List.mem_map_of_mem hmem, (hrow row).1, (hrow row).2.1⟩
  case stripped =>
    intro hstripped row hmem
    obtain ⟨old, hold, rfl⟩ := List.mem_map.mp hmem
    have hdest := congrArg (fun key => key.2.1) (hrow old).1
    exact (congrArg stripText hdest).trans ((hstripped old hold).trans hdest.symm)

theorem mem_of_getBySnapshot {snapshotId destination : String}
    (hrow : rows.getBySnapshot snapshotId destination threadId = some row) :
    row ∈ rows ∧ row.key = (snapshotId, destination, threadId) := by
  unfold DeliveryOutbox.getBySnapshot at hrow
  have hkey := List.find?_some hrow
  rw [decide_eq_true_eq] at hkey
  obtain ⟨hid, hdest, hthread⟩ := hkey
  refine ⟨List.mem_of_find?_eq_some hrow, ?_⟩
  unfold TelegramDelivery.key
  rw [hid, hdest, hthread]

theorem eq_of_key (hunique : (rows.map TelegramDelivery.key).Nodup)
    {first second : TelegramDelivery} (hfirst : first ∈ rows) (hsecond : second ∈ rows)
    (hkey : first.key = second.key) : first = second :=
  List.inj_on_of_nodup_map hunique hfirst hsecond hkey

theorem RowsKept.enqueue {rows after : DeliveryOutbox}
    {snapshotId payloadSha256 destination text buttonUrl : String}
    (hdest : stripText destination = destination)
    (henqueue : rows.enqueue snapshotId payloadSha256 destination threadId
      text buttonUrl now = .ok after) : RowsKept rows after := by
  unfold DeliveryOutbox.enqueue at henqueue
  split at henqueue
  next existing hexisting =>
    split_ifs at henqueue
    cases henqueue
    exact .refl rows
  next hnone =>
    cases henqueue
    constructor
    case unique =>
      intro hunique
      rw [List.map_append, List.map_singleton]
      refine hunique.append (List.nodup_singleton _) ?_
      intro key hold hnew
      cases List.mem_singleton.mp hnew
      obtain ⟨row, hrow, hkey⟩ := List.mem_map.mp hold
      have hother := List.find?_eq_none.mp hnone row hrow
      apply hother
      have hparts := Prod.mk.inj hkey
      have hrest := Prod.mk.inj hparts.2
      exact decide_eq_true ⟨hparts.1, hrest.1, hrest.2⟩
    case spent =>
      rintro key ⟨row, hrow, hrest⟩
      exact ⟨row, List.mem_append_left _ hrow, hrest⟩
    case texts =>
      exact fun row hrow => ⟨row, List.mem_append_left _ hrow, rfl, rfl⟩
    case stripped =>
      intro hstripped row hrow
      rcases List.mem_append.mp hrow with hold | hnew
      · exact hstripped row hold
      · cases List.mem_singleton.mp hnew
        exact hdest

theorem claimExact_eq_ok {rows after : DeliveryOutbox} {snapshotId destination : String}
    (hclaim : rows.claimExact snapshotId destination threadId now = .ok (delivery, after)) :
    ∃ row ∈ rows, row.key = (snapshotId, destination, threadId) ∧ row.state = .pending ∧
      delivery = DeliveryOutbox.claimed now row ∧
        after = rows.update row.id (DeliveryOutbox.claimed now) := by
  unfold DeliveryOutbox.claimExact at hclaim
  split at hclaim
  next => cases hclaim
  next row hrow =>
    split_ifs at hclaim with hpend
    cases hclaim
    obtain ⟨hmem, hkey⟩ := mem_of_getBySnapshot hrow
    exact ⟨row, hmem, hkey, not_not.mp hpend, rfl, rfl⟩

theorem transitionFromSending_rowsKept {rows after : DeliveryOutbox} {deliveryId : ℕ}
    {state : TelegramDeliveryState} {availableAt : ℚ} {errorCode : Option String}
    {messageId : Option ℤ} {sentAt : Option ℚ} {risk : Bool} (hstate : state ≠ .pending)
    (hsave : rows.transitionFromSending deliveryId state availableAt errorCode messageId
      sentAt risk = .ok after) : RowsKept rows after := by
  unfold DeliveryOutbox.transitionFromSending at hsave
  split at hsave
  next => cases hsave
  next =>
    split_ifs at hsave
    cases hsave
    exact .update fun _ => ⟨rfl, rfl, hstate⟩

/-! ## What a step can do -/

def Late : SendPhase library → Prop
  | .idle => False
  | .verified _ => False
  | .inspected _ => False
  | .opening _ legacy => legacy = false
  | _ => True

def Checked (rows : DeliveryOutbox) (send : VerifiedSend library) : Prop :=
  ∃ row ∈ rows, row.snapshotId = send.snapshotId ∧
    stripText row.destinationChatId = send.destination ∧
      row.destinationMessageThreadId = send.threadId ∧
        codePoints row.renderedText = send.rendered.text

def writerOf : SendPhase library → Option (VerifiedSend library)
  | .idle => none
  | .verified _ => none
  | .inspected send => some send
  | .opening send _ => some send
  | .opened send => some send
  | .absent send => some send
  | .ready send => some send
  | .claimed send _ => some send
  | .answered send _ _ => some send

inductive SendEffect (system : ControlledSystem library) (action : SendAction F) :
    ControlledSystem library → Prop
  | same : SendEffect system action system
  /-- The rows are kept, and no delivery is claimed. -/
  | moved {rows : DeliveryOutbox} {phase : SendPhase library}
      (kept : RowsKept system.file.rows rows)
      (unclaimed : ∀ send delivery, phase ≠ .claimed send delivery)
      (checked : ∀ send, phase = .ready send → Checked rows send)
      (late : Late phase → Late (system.phases action.sender) ∨
        system.file.legacy = false)
      (origin : ∀ send ∈ writerOf phase, send.request.dryRun = false ∨
        send ∈ writerOf (system.phases action.sender))
      (unread : writerOf (system.phases action.sender) = none →
        rows = system.file.rows) :
      SendEffect system action ({ system with
        file := { system.file with rows } }.setPhase action.sender phase)
  | migrated {send : VerifiedSend library} {file : OutboxFile}
      (phase : system.phases action.sender = .opening send true)
      (initializes : action = .initializeOutbox action.sender)
      (migrates : system.file.migrate = some file) :
      SendEffect system action ({ system with file }.setPhase action.sender (.opened send))
  | claims {send : VerifiedSend library} {row : TelegramDelivery} {now : ℚ}
      (phase : system.phases action.sender = .ready send)
      (member : row ∈ system.file.rows) (key : row.key = send.key)
      (pending : row.state = .pending) :
      SendEffect system action ({ system with file := { system.file with
        rows := system.file.rows.update row.id (DeliveryOutbox.claimed now) }
        }.setPhase action.sender (.claimed send (DeliveryOutbox.claimed now row)))
  | attempts {send : VerifiedSend library} {delivery : TelegramDelivery}
      {phase : SendPhase library}
      (claimed : system.phases action.sender = .claimed send delivery)
      (after : phase = .idle ∨ ∃ response, phase = .answered send delivery response) :
      SendEffect system action ((system.attempt send delivery).setPhase action.sender phase)

theorem SendEffect.quiet (hunclaimed : ∀ send delivery, phase ≠ .claimed send delivery)
    (hunready : ∀ send, phase ≠ .ready send)
    (hlate : Late phase → Late (system.phases action.sender) ∨
      system.file.legacy = false)
    (horigin : ∀ send ∈ writerOf phase, send.request.dryRun = false ∨
      send ∈ writerOf (system.phases action.sender)) :
    system.SendEffect action (system.setPhase action.sender phase) :=
  .moved (.refl _) hunclaimed (fun send hready => absurd hready (hunready send)) hlate
    horigin fun _ => rfl

theorem SendEffect.idles :
    system.SendEffect action (system.setPhase action.sender .idle) :=
  .quiet (by simp) (by simp) (by simp [Late]) (by simp [writerOf])

theorem SendEffect.ends (hkept : RowsKept system.file.rows rows)
    (hwriter : writerOf (system.phases action.sender) ≠ none) :
    system.SendEffect action ({ system with
      file := { system.file with rows } }.setPhase action.sender .idle) :=
  .moved hkept (by simp) (by simp) (by simp [Late]) (by simp [writerOf])
    fun hnone => absurd hnone hwriter

theorem checkSendable_text (hcheck : send.checkSendable record = .ok ()) :
    codePoints record.renderedText = send.rendered.text := by
  unfold VerifiedSend.checkSendable at hcheck
  split_ifs at hcheck with _ _ hrender
  exact not_not.mp fun htext => hrender (.inl htext)

theorem checkRecord_text (hcheck : send.checkRecord record = .ok true) :
    codePoints record.renderedText = send.rendered.text := by
  unfold VerifiedSend.checkRecord at hcheck
  split_ifs at hcheck with _ hsent
  · cases hcheck
  · simp only [bind_eq_ok] at hcheck
    obtain ⟨_, hsendable, _⟩ := hcheck
    exact checkSendable_text hsendable

theorem checked_of_record {destination : String} (hdest : stripText destination = send.destination)
    (hrec : system.recordOf send destination = some record)
    (hcheck : send.checkRecord record = .ok true) : Checked system.file.rows send := by
  obtain ⟨hmem, hkey⟩ := mem_of_getBySnapshot hrec
  have hparts := Prod.mk.inj hkey
  have hrest := Prod.mk.inj hparts.2
  exact ⟨record, hmem, hparts.1, by rw [hrest.1, hdest], hrest.2, checkRecord_text hcheck⟩

theorem inspect_effect :
    system.SendEffect action (system.inspect action.sender send) := by
  have hproceed : system.SendEffect action (system.setPhase action.sender
      (if send.request.dryRun then .idle else .inspected send)) := by
    split_ifs with hdry
    · exact .idles
    · refine .quiet (by simp) (by simp) (by simp [Late]) ?_
      intro other hother
      cases hother
      exact .inl (Bool.eq_false_of_not_eq_true hdry)
  unfold inspect
  dsimp only
  split
  next => exact hproceed
  next =>
    split
    next => exact hproceed
    next => exact .idles

theorem initializeOutbox_effect {legacy : Bool}
    (hphase : system.phases action.sender = .opening send legacy)
    (haction : action = .initializeOutbox action.sender) :
    system.SendEffect action (system.initializeOutbox action.sender send legacy) := by
  unfold initializeOutbox
  cases legacy with
  | true =>
    rw [if_pos rfl]
    cases hmigrate : system.file.migrate with
    | none => exact .idles
    | some file => exact .migrated hphase haction hmigrate
  | false =>
    rw [if_neg Bool.false_ne_true]
    refine .quiet (by simp) (by simp) (fun _ => .inl (by simp [hphase, Late])) ?_
    simp [hphase, writerOf]

theorem look_effect (hphase : system.phases action.sender = .opened send) :
    system.SendEffect action (system.look action.sender send) := by
  have hlate : Late (system.phases action.sender) := by simp [hphase, Late]
  unfold look
  split
  next =>
    refine .quiet (by simp) (by simp) (fun _ => .inl hlate) ?_
    simp [hphase, writerOf]
  next record hrec =>
    split
    next hcheck =>
      refine .moved (.refl _) (by simp) ?_ (fun _ => .inl hlate) ?_ fun _ => rfl
      · intro other hready
        cases hready
        exact checked_of_record rfl hrec hcheck
      · simp [hphase, writerOf]
    next => exact .idles

theorem enqueue_effect (hphase : system.phases action.sender = .absent send) :
    system.SendEffect action (system.enqueue action.sender send now) := by
  have hlate : Late (system.phases action.sender) := by simp [hphase, Late]
  have hwriter : writerOf (system.phases action.sender) ≠ none := by
    simp [hphase, writerOf]
  unfold enqueue
  split
  next text buttonUrl _ _ =>
    split
    next => exact .idles
    next rows henqueue =>
      have hkept := RowsKept.enqueue (stripText_idem _) henqueue
      split
      next => exact .idles
      next record hrec =>
        split_ifs
        · exact .ends hkept hwriter
        · split
          next => exact .ends hkept hwriter
          next hsendable =>
            refine .moved hkept (by simp) ?_ (fun _ => .inl hlate) ?_
              fun hnone => absurd hnone hwriter
            · intro other hready
              cases hready
              obtain ⟨hmem, hkey⟩ := mem_of_getBySnapshot hrec
              have hparts := Prod.mk.inj hkey
              have hrest := Prod.mk.inj hparts.2
              refine ⟨record, hmem, hparts.1, ?_, hrest.2, checkSendable_text hsendable⟩
              rw [hrest.1]
              exact stripText_idem _
            · simp [hphase, writerOf]
  next => exact .idles

theorem claim_effect (hphase : system.phases action.sender = .ready send) :
    system.SendEffect action (system.claim action.sender send now) := by
  unfold claim
  split
  next => exact .idles
  next delivery rows hclaim =>
    obtain ⟨row, hmem, hkey, hpend, rfl, rfl⟩ := claimExact_eq_ok hclaim
    exact .claims hphase hmem hkey hpend

theorem settle_effect {response : TelegramResponse}
    (hphase : system.phases action.sender = .answered send delivery response) :
    system.SendEffect action (system.settle action.sender delivery response now) := by
  unfold settle
  dsimp only
  split
  next => exact .idles
  next rows hsaved =>
    refine .ends ?_ (by simp [hphase, writerOf])
    split at hsaved
    next => exact transitionFromSending_rowsKept (by simp) hsaved
    next => exact transitionFromSending_rowsKept (by simp) hsaved

theorem step_effect (hstep : system.step action = some next) :
    system.SendEffect action next := by
  unfold step at hstep
  split at hstep
  next =>
    split at hstep
    next =>
      cases hstep
      exact .same
    next =>
      cases hstep
      exact .quiet (by simp) (by simp) (by simp [Late]) (by simp [writerOf])
  next hphase =>
    cases hstep
    exact inspect_effect
  next hphase =>
    cases hstep
    refine .quiet (by simp) (by simp) .inr ?_
    intro other hother
    cases hother
    exact .inr (by rw [hphase]; rfl)
  next hphase =>
    cases hstep
    exact initializeOutbox_effect hphase rfl
  next hphase =>
    cases hstep
    exact look_effect hphase
  next hphase =>
    cases hstep
    exact enqueue_effect hphase
  next hphase =>
    cases hstep
    exact claim_effect hphase
  next hphase =>
    cases hstep
    exact .attempts hphase (.inr ⟨_, rfl⟩)
  next hphase =>
    cases hstep
    exact settle_effect hphase
  next hphase =>
    cases hstep
    exact .attempts hphase (.inl rfl)
  next =>
    cases hstep
    exact .idles
  next => cases hstep

/-! ## Each delivery once -/

def start (file : OutboxFile) : ControlledSystem library := ⟨file, fun _ => .idle, []⟩

/-- A migration which has been decided finds the table without threads. -/
def keepsThreads (system : ControlledSystem library) (action : SendAction F) : Bool :=
  match action, system.phases action.sender with
  | .initializeOutbox _, .opening _ true => system.file.legacy
  | _, _ => true

structure SentOnce (system : ControlledSystem library) : Prop where
  unique : (system.file.rows.map TelegramDelivery.key).Nodup
  stripped : Stripped system.file.rows
  closed : system.file.legacy = true → system.sent = [] ∧ ∀ sender, ¬ Late (system.phases sender)
  checked : ∀ sender send, system.phases sender = .ready send → Checked system.file.rows send
  held : ∀ sender send delivery, system.phases sender = .claimed send delivery →
    Spent system.file.rows delivery.key ∧
      delivery.key ∉ system.sent.map (·.delivery.key) ∧ delivery.key = send.key ∧
        codePoints delivery.renderedText = send.rendered.text
  alone : ∀ first second send other delivery claim, system.phases first = .claimed send delivery →
      system.phases second = .claimed other claim → delivery.key = claim.key → first = second
  spent : ∀ message ∈ system.sent, Spent system.file.rows message.delivery.key
  once : (system.sent.map (·.delivery.key)).Nodup
  approved : ∀ message ∈ system.sent, message.delivery.key = message.send.key ∧
    codePoints message.delivery.renderedText = message.send.rendered.text

@[simp] theorem setPhase_file (sender : ℕ) (phase : SendPhase library) :
    (system.setPhase sender phase).file = system.file := rfl

@[simp] theorem setPhase_sent (sender : ℕ) (phase : SendPhase library) :
    (system.setPhase sender phase).sent = system.sent := rfl

theorem setPhase_phases_self (sender : ℕ) (phase : SendPhase library) :
    (system.setPhase sender phase).phases sender = phase :=
  Function.update_self ..

theorem setPhase_phases_of_ne {sender other : ℕ} (hne : other ≠ sender)
    (phase : SendPhase library) :
    (system.setPhase sender phase).phases other = system.phases other :=
  Function.update_of_ne hne ..

theorem Checked.kept {rows after : DeliveryOutbox}
    (hchecked : Checked rows send) (hkept : RowsKept rows after) : Checked after send := by
  obtain ⟨row, hrow, hid, hdest, hthread, htext⟩ := hchecked
  obtain ⟨later, hlater, hkey, hsame⟩ := hkept.texts row hrow
  have hparts := Prod.mk.inj hkey
  have hrest := Prod.mk.inj hparts.2
  exact ⟨later, hlater, hparts.1.trans hid,
    (congrArg stripText hrest.1).trans hdest, hrest.2.trans hthread,
    (congrArg codePoints hsame).trans htext⟩

theorem Checked.renderedText_eq (hunique : (system.file.rows.map TelegramDelivery.key).Nodup)
    (hstripped : Stripped system.file.rows) (hchecked : Checked system.file.rows send)
    (hrow : row ∈ system.file.rows) (hkey : row.key = send.key) :
    codePoints row.renderedText = send.rendered.text := by
  obtain ⟨found, hfound, hid, hdest, hthread, htext⟩ := hchecked
  have hfoundKey : found.key = send.key := by
    unfold TelegramDelivery.key VerifiedSend.key
    rw [hid, hthread, ← hdest, hstripped found hfound]
  rw [eq_of_key hunique hrow hfound (hkey.trans hfoundKey.symm)]
  exact htext

theorem Spent.not_pending (hunique : (rows.map TelegramDelivery.key).Nodup)
    (hrow : row ∈ rows) (hspent : Spent rows row.key) : row.state ≠ .pending := by
  obtain ⟨found, hfound, hkey, hstate⟩ := hspent
  rwa [eq_of_key hunique hrow hfound hkey.symm]

theorem SentOnce.moved (hinv : SentOnce system) (hkept : RowsKept system.file.rows rows)
    (hunclaimed : ∀ send delivery, phase ≠ .claimed send delivery)
    (hchecked : ∀ send, phase = .ready send → Checked rows send)
    (hlate : Late phase → Late (system.phases sender) ∨ system.file.legacy = false) :
    SentOnce ({ system with file := { system.file with rows } }.setPhase sender phase) := by
  have hclaims : ∀ other send delivery, ({ system with
      file := { system.file with rows } }.setPhase sender phase).phases other =
        .claimed send delivery → system.phases other = .claimed send delivery := by
    intro other send delivery hclaimed
    by_cases hne : other = sender
    · subst hne
      rw [setPhase_phases_self] at hclaimed
      exact absurd hclaimed (hunclaimed send delivery)
    · rwa [setPhase_phases_of_ne hne] at hclaimed
  constructor
  case unique => exact hkept.unique hinv.unique
  case stripped => exact hkept.stripped hinv.stripped
  case closed =>
    intro hlegacy
    obtain ⟨hsent, hearly⟩ := hinv.closed hlegacy
    refine ⟨hsent, fun other => ?_⟩
    by_cases hne : other = sender
    · subst hne
      rw [setPhase_phases_self]
      intro hphase
      rcases hlate hphase with hold | hnew
      · exact hearly other hold
      · exact Bool.false_ne_true (hnew.symm.trans hlegacy)
    · rw [setPhase_phases_of_ne hne]
      exact hearly other
  case checked =>
    intro other send hready
    by_cases hne : other = sender
    · subst hne
      rw [setPhase_phases_self] at hready
      exact hchecked send hready
    · rw [setPhase_phases_of_ne hne] at hready
      exact (hinv.checked other send hready).kept hkept
  case held =>
    intro other send delivery hclaimed
    obtain ⟨hspent, hrest⟩ := hinv.held other send delivery (hclaims _ _ _ hclaimed)
    exact ⟨hkept.spent _ hspent, hrest⟩
  case alone =>
    intro first second send other delivery claim hfirst hsecond
    exact hinv.alone first second send other delivery claim (hclaims _ _ _ hfirst)
      (hclaims _ _ _ hsecond)
  case spent => exact fun message hmem => hkept.spent _ (hinv.spent message hmem)
  case once => exact hinv.once
  case approved => exact hinv.approved

theorem migrate_eq_some {file after : OutboxFile} (hmigrate : file.migrate = some after) :
    after.legacy = false ∧ (after.rows.map TelegramDelivery.key).Nodup ∧
      (Stripped file.rows → Stripped after.rows) := by
  unfold OutboxFile.migrate at hmigrate
  dsimp only at hmigrate
  split_ifs at hmigrate with hunique
  cases hmigrate
  refine ⟨rfl, hunique, fun hstripped row hrow => ?_⟩
  obtain ⟨old, hold, rfl⟩ := List.mem_map.mp hrow
  exact hstripped old hold

theorem SentOnce.migrated (hinv : SentOnce system) (hlegacy : system.file.legacy = true)
    (hmigrate : system.file.migrate = some file) :
    SentOnce ({ system with file }.setPhase sender (.opened send)) := by
  obtain ⟨hsent, hearly⟩ := hinv.closed hlegacy
  obtain ⟨hthreads, hunique, hstripped⟩ := migrate_eq_some hmigrate
  have hphases : ∀ other phase, ({ system with
      file }.setPhase sender (.opened send)).phases other = phase →
        phase = .opened send ∨ ¬ Late phase := by
    rintro other phase rfl
    by_cases hne : other = sender
    · subst hne
      rw [setPhase_phases_self]
      exact .inl rfl
    · rw [setPhase_phases_of_ne hne]
      exact .inr (hearly other)
  constructor
  case unique => exact hunique
  case stripped => exact hstripped hinv.stripped
  case closed => exact fun h => absurd (hthreads.symm.trans h) Bool.false_ne_true
  case checked =>
    intro other found hready
    rcases hphases other _ hready with hopened | hnot
    · cases hopened
    · exact absurd trivial hnot
  case held =>
    intro other found delivery hclaimed
    rcases hphases other _ hclaimed with hopened | hnot
    · cases hopened
    · exact absurd trivial hnot
  case alone =>
    intro first second found other delivery claim hfirst
    rcases hphases first _ hfirst with hopened | hnot
    · cases hopened
    · exact absurd trivial hnot
  case spent => simp [hsent]
  case once => simp [hsent]
  case approved => simp [hsent]

theorem SentOnce.claims (hinv : SentOnce system) (now : ℚ)
    (hready : system.phases sender = .ready send) (hrow : row ∈ system.file.rows)
    (hkey : row.key = send.key) (hpend : row.state = .pending) :
    SentOnce ({ system with file := { system.file with
      rows := system.file.rows.update row.id (DeliveryOutbox.claimed now) }
      }.setPhase sender (.claimed send (DeliveryOutbox.claimed now row))) := by
  have hkept : RowsKept system.file.rows
      (system.file.rows.update row.id (DeliveryOutbox.claimed now)) :=
    .update fun _ => ⟨rfl, rfl, by simp [DeliveryOutbox.claimed]⟩
  have hunspent : ¬ Spent system.file.rows row.key := fun hspent =>
    hspent.not_pending hinv.unique hrow hpend
  have htext := (hinv.checked sender send hready).renderedText_eq hinv.unique
    hinv.stripped hrow hkey
  have hnew : Spent (system.file.rows.update row.id (DeliveryOutbox.claimed now)) row.key := by
    refine ⟨_, List.mem_map_of_mem hrow, ?_⟩
    rw [if_pos rfl]
    exact ⟨rfl, by simp [DeliveryOutbox.claimed]⟩
  have hclaims : ∀ other found delivery, ({ system with file := { system.file with
      rows := system.file.rows.update row.id (DeliveryOutbox.claimed now) }
      }.setPhase sender (.claimed send (DeliveryOutbox.claimed now row))).phases other =
        .claimed found delivery →
      (other = sender ∧ found = send ∧ delivery = DeliveryOutbox.claimed now row) ∨
        (system.phases other = .claimed found delivery ∧ delivery.key ≠ row.key) := by
    intro other found delivery hclaimed
    by_cases hne : other = sender
    · subst hne
      rw [setPhase_phases_self] at hclaimed
      cases hclaimed
      exact .inl ⟨rfl, rfl, rfl⟩
    · rw [setPhase_phases_of_ne hne] at hclaimed
      refine .inr ⟨hclaimed, fun hsame => hunspent ?_⟩
      exact hsame ▸ (hinv.held other found delivery hclaimed).1
  constructor
  case unique => exact hkept.unique hinv.unique
  case stripped => exact hkept.stripped hinv.stripped
  case closed =>
    intro hlegacy
    exact absurd (by simp [hready, Late]) ((hinv.closed hlegacy).2 sender)
  case checked =>
    intro other found hother
    by_cases hne : other = sender
    · subst hne
      rw [setPhase_phases_self] at hother
      cases hother
    · rw [setPhase_phases_of_ne hne] at hother
      exact (hinv.checked other found hother).kept hkept
  case held =>
    intro other found delivery hclaimed
    rcases hclaims other found delivery hclaimed with ⟨_, rfl, rfl⟩ | ⟨hold, _⟩
    · refine ⟨hnew, fun hsent => hunspent ?_, hkey, htext⟩
      obtain ⟨message, hmessage, hsame⟩ := List.mem_map.mp hsent
      exact hsame ▸ hinv.spent message hmessage
    · obtain ⟨hspent, hrest⟩ := hinv.held other found delivery hold
      exact ⟨hkept.spent _ hspent, hrest⟩
  case alone =>
    intro first second found other delivery claim hfirst hsecond hsame
    rcases hclaims first found delivery hfirst with ⟨hf, _, rfl⟩ | ⟨hfirstOld, hfirstKey⟩
    · rcases hclaims second other claim hsecond with ⟨hs, _, _⟩ | ⟨_, hsecondKey⟩
      · exact hf.trans hs.symm
      · exact absurd hsame.symm hsecondKey
    · rcases hclaims second other claim hsecond with ⟨_, _, rfl⟩ | ⟨hsecondOld, _⟩
      · exact absurd hsame hfirstKey
      · exact hinv.alone first second found other delivery claim hfirstOld hsecondOld hsame
  case spent => exact fun message hmem => hkept.spent _ (hinv.spent message hmem)
  case once => exact hinv.once
  case approved => exact hinv.approved

theorem SentOnce.attempts (hinv : SentOnce system)
    (hclaimed : system.phases sender = .claimed send delivery)
    (hafter : phase = .idle ∨ ∃ response, phase = .answered send delivery response) :
    SentOnce ((system.attempt send delivery).setPhase sender phase) := by
  obtain ⟨hspent, hunsent, hkey, htext⟩ := hinv.held sender send delivery hclaimed
  have hphases : ∀ other, ∀ old : SendPhase library,
      ((system.attempt send delivery).setPhase sender phase).phases other = old →
        (∃ found claim, old = .claimed found claim) ∨ (∃ found, old = .ready found) →
          other ≠ sender ∧ system.phases other = old := by
    rintro other old rfl hold
    by_cases hne : other = sender
    · subst hne
      rw [setPhase_phases_self] at hold
      rcases hafter with rfl | ⟨_, rfl⟩ <;> simp at hold
    · rw [setPhase_phases_of_ne hne]
      exact ⟨hne, rfl⟩
  constructor
  case unique => exact hinv.unique
  case stripped => exact hinv.stripped
  case closed =>
    intro hlegacy
    exact absurd (by simp [hclaimed, Late]) ((hinv.closed hlegacy).2 sender)
  case checked =>
    intro other found hready
    exact hinv.checked other found (hphases other _ hready (.inr ⟨found, rfl⟩)).2
  case held =>
    intro other found claim hother
    obtain ⟨hne, hold⟩ := hphases other _ hother (.inl ⟨found, claim, rfl⟩)
    obtain ⟨hclaimSpent, hclaimUnsent, hrest⟩ := hinv.held other found claim hold
    refine ⟨hclaimSpent, ?_, hrest⟩
    change claim.key ∉ (system.sent ++ [_]).map _
    rw [List.map_append, List.map_singleton, List.mem_append, List.mem_singleton]
    rintro (hmem | hsame)
    · exact hclaimUnsent hmem
    · exact hne (hinv.alone other sender found send claim delivery hold hclaimed hsame)
  case alone =>
    intro first second found other claim claim' hfirst hsecond
    exact hinv.alone first second found other claim claim'
      (hphases first _ hfirst (.inl ⟨found, claim, rfl⟩)).2
      (hphases second _ hsecond (.inl ⟨other, claim', rfl⟩)).2
  case spent =>
    intro message hmem
    rcases List.mem_append.mp hmem with hold | hnew
    · exact hinv.spent message hold
    · cases List.mem_singleton.mp hnew
      exact hspent
  case once =>
    change ((system.sent ++ [_]).map _).Nodup
    rw [List.map_append, List.map_singleton]
    refine hinv.once.append (List.nodup_singleton _) ?_
    intro key hold hnew
    cases List.mem_singleton.mp hnew
    exact hunsent hold
  case approved =>
    intro message hmem
    rcases List.mem_append.mp hmem with hold | hnew
    · exact hinv.approved message hold
    · cases List.mem_singleton.mp hnew
      exact ⟨hkey, htext⟩

theorem SentOnce.step (hinv : SentOnce system) (hguard : system.keepsThreads action = true)
    (heff : system.SendEffect action next) : SentOnce next := by
  cases heff with
  | same => exact hinv
  | moved hkept hunclaimed hchecked hlate _ _ =>
    exact hinv.moved hkept hunclaimed hchecked hlate
  | migrated hphase haction hmigrate =>
    unfold keepsThreads at hguard
    rw [hphase, haction] at hguard
    exact hinv.migrated hguard hmigrate
  | claims hready hmember hkey hpend => exact hinv.claims _ hready hmember hkey hpend
  | attempts hclaimed hafter => exact hinv.attempts hclaimed hafter

def DryRunsRead (system : ControlledSystem library) : Prop :=
  ∀ sender, ∀ send ∈ writerOf (system.phases sender), send.request.dryRun = false

theorem DryRunsRead.step (hdry : DryRunsRead system)
    (heff : system.SendEffect action next) : DryRunsRead next := by
  have hphase : ∀ (changed : ControlledSystem library) (phase : SendPhase library),
      changed.phases = system.phases →
      (∀ send ∈ writerOf phase, send.request.dryRun = false) →
        DryRunsRead (changed.setPhase action.sender phase) := by
    intro changed phase hsame hnew sender send hsend
    by_cases hne : sender = action.sender
    · subst hne
      rw [setPhase_phases_self] at hsend
      exact hnew send hsend
    · rw [setPhase_phases_of_ne hne, hsame] at hsend
      exact hdry sender send hsend
  cases heff with
  | same => exact hdry
  | moved _ _ _ _ horigin _ =>
    refine hphase _ _ rfl fun send hsend => ?_
    exact (horigin send hsend).elim id (hdry action.sender send)
  | migrated hopening _ _ =>
    refine hphase _ _ rfl fun send hsend => hdry action.sender send ?_
    rw [hopening]
    exact hsend
  | claims hready _ _ _ =>
    refine hphase _ _ rfl fun send hsend => hdry action.sender send ?_
    rw [hready]
    exact hsend
  | attempts hclaimed hafter =>
    refine hphase _ _ rfl fun send hsend => hdry action.sender send ?_
    rcases hafter with rfl | ⟨_, rfl⟩
    · cases hsend
    · rw [hclaimed]
      exact hsend

def invocationOf (phase : SendPhase library) : Option (VerifiedSend library) :=
  match phase with
  | .verified send => some send
  | _ => writerOf phase

theorem SendEffect.of_reader (heff : system.SendEffect action next)
    (hreader : writerOf (system.phases action.sender) = none) :
    next.file = system.file ∧ next.sent = system.sent := by
  cases heff with
  | same => exact ⟨rfl, rfl⟩
  | moved _ _ _ _ _ hunread =>
    rw [hunread hreader]
    exact ⟨rfl, rfl⟩
  | migrated hopening _ _ =>
    rw [hopening] at hreader
    cases hreader
  | claims hready _ _ _ =>
    rw [hready] at hreader
    cases hreader
  | attempts hclaimed _ =>
    rw [hclaimed] at hreader
    cases hreader

/-- The unique key of the table, and chats as `enqueue` stores them. -/
structure StoredFile (file : OutboxFile) : Prop where
  unique : (file.rows.map TelegramDelivery.key).Nodup
  stripped : Stripped file.rows

theorem sentOnce_start (hfile : StoredFile file) :
    SentOnce (start file : ControlledSystem library) := by
  constructor
  case unique => exact hfile.unique
  case stripped => exact hfile.stripped
  case closed => exact fun _ => ⟨rfl, fun _ hlate => hlate⟩
  case checked => intro _ _ hphase; cases hphase
  case held => intro _ _ _ hphase; cases hphase
  case alone => intro _ _ _ _ _ _ hphase; cases hphase
  case spent => intro _ hmem; cases hmem
  case once => exact .nil
  case approved => intro _ hmem; cases hmem

/-- In every run each delivery is sent at most once, with the text of an approved
payload, as long as no migration finds the threads already there; and a dry run changes
nothing. -/
theorem controlled_sends {file : OutboxFile} (hfile : StoredFile file)
    {actions : List (SendAction F)}
    (hrun : runFrom ControlledSystem.step (start file) actions = some system) :
    (StepsMeet ControlledSystem.step
        (fun (system : ControlledSystem library) action => system.keepsThreads action = true)
        (start file) actions →
      (system.sent.map (·.delivery.key)).Nodup ∧
        ∀ message ∈ system.sent, message.delivery.key = message.send.key ∧
          codePoints message.delivery.renderedText = message.send.rendered.text ∧
            renderSnapshot message.send.request.settings library.toReportLibrary
                message.send.snapshot = .ok message.send.rendered ∧
              library.payloadDigest message.send.snapshot.payload =
                  some message.send.digest ∧
                approvedDigest message.send.request.expectedPayloadSha256 =
                  .ok message.send.digest) ∧
      ∀ action next, system.step action = some next →
        ∀ send ∈ invocationOf (system.phases action.sender),
          send.request.dryRun = true →
            next.file = system.file ∧ next.sent = system.sent := by
  constructor
  · intro hguard
    have hinv : SentOnce system := (Reaches.of_stepsMeet hguard hrun).invariant
      (P := SentOnce) (fun _ _ _ hinv hkeeps hstep => hinv.step hkeeps (step_effect hstep))
      (sentOnce_start hfile)
    refine ⟨hinv.once, fun message hmessage => ?_⟩
    obtain ⟨hkey, htext⟩ := hinv.approved message hmessage
    exact ⟨hkey, htext, message.send.is_rendered, message.send.payload_approved,
      message.send.is_approved⟩
  · intro action next hstep send hsend hdryRun
    have hreach : Reaches ControlledSystem.step (fun _ _ => True) (start file) system :=
      .of_runFrom (fun _ _ _ => trivial) hrun
    have hdry : DryRunsRead system := hreach.invariant
      (P := DryRunsRead) (fun _ _ _ hdry _ hstep => hdry.step (step_effect hstep))
      (fun _ _ hphase => by cases hphase)
    apply (step_effect hstep).of_reader
    cases hwriter : writerOf (system.phases action.sender) with
    | none => rfl
    | some writer =>
      have hsame : send = writer := by
        unfold invocationOf at hsend
        split at hsend
        next hphase =>
          rw [hphase] at hwriter
          cases hwriter
        next => exact Option.some.inj (hsend.symm.trans hwriter)
      rw [hsame, hdry action.sender writer hwriter] at hdryRun
      cases hdryRun

/-! ## A second migration -/

def emptyFile (legacy : Bool) : OutboxFile := ⟨[], legacy⟩

def opensOutbox (request : SendRequest) (snapshot : ReportSnapshot F) (sender : ℕ) :
    List (SendAction F) :=
  [.begin sender request snapshot, .inspect sender, .openOutbox sender]

def sendsOnce (sender : ℕ) : List (SendAction F) :=
  [.initializeOutbox sender, .look sender, .enqueue sender 0, .claim sender 0,
   .send sender (.message 7), .settle sender 0]

/-- The send goes to a thread, with texts the outbox can store. -/
@[mk_iff] structure ToThread (send : VerifiedSend library) : Prop where
  sends : send.request.dryRun = false
  thread : send.threadId ≠ 0
  chat : send.request.settings.telegramDestinationChatId = send.destination
  text : ∀ point ∈ send.rendered.text, point.isValidChar
  button : ∀ point ∈ send.rendered.buttonUrl, point.isValidChar

instance (send : VerifiedSend library) : Decidable (ToThread send) :=
  decidable_of_iff _ (toThread_iff send).symm

theorem codePoints_ofList {points : CodePoints} (hvalid : ∀ point ∈ points, point.isValidChar) :
    codePoints (String.ofList (points.map Char.ofNat)) = points := by
  unfold codePoints
  rw [String.toList_ofList, List.map_map]
  refine (List.map_congr_left fun point hpoint => ?_).trans (List.map_id points)
  rw [Function.comp_apply, Char.ofNat, dif_pos (hvalid point hpoint)]
  rfl

theorem encodedText_of_valid {points : CodePoints} (hvalid : ∀ point ∈ points, point.isValidChar) :
    ∃ text, encodedText points = .ok text ∧ codePoints text = points := by
  refine ⟨_, if_neg ?_, codePoints_ofList hvalid⟩
  rw [List.any_eq_true]
  rintro ⟨point, hpoint, hlone⟩
  have hpoint := hvalid point hpoint
  simp only [isLoneSurrogate, Bool.and_eq_true, decide_eq_true_eq] at hlone
  omega

def rowOf (send : VerifiedSend library) (id : ℕ) (text buttonUrl : String) :
    TelegramDelivery where
  id
  snapshotId := send.snapshotId
  snapshotSha256 := send.snapshot.payloadSha256
  destinationChatId := send.destination
  destinationMessageThreadId := send.threadId
  renderedText := text
  buttonUrl
  state := .pending
  attempts := 0
  availableAt := 0
  lockedAt := none
  lastAttemptAt := none
  lastErrorCode := none
  telegramMessageId := none
  sentAt := none
  duplicateRisk := false

theorem getBySnapshot_rowOf (id : ℕ) (text buttonUrl : String)
    (hnone : rows.getBySnapshot send.snapshotId send.destination send.threadId = none) :
    DeliveryOutbox.getBySnapshot (rows ++ [rowOf send id text buttonUrl])
      send.snapshotId send.destination send.threadId = some (rowOf send id text buttonUrl) := by
  unfold DeliveryOutbox.getBySnapshot at hnone ⊢
  rw [List.find?_append, hnone, Option.none_or, List.find?_singleton]
  exact if_pos (by simp [rowOf])

theorem enqueue_ready {text buttonUrl : String}
    (hnone : system.recordOf send send.destination = none)
    (htext : encodedText send.rendered.text = .ok text)
    (hpoints : codePoints text = send.rendered.text)
    (hbutton : encodedText send.rendered.buttonUrl = .ok buttonUrl)
    (hurl : codePoints buttonUrl = send.rendered.buttonUrl) :
    system.enqueue sender send 0 = { system with file := { system.file with
      rows := system.file.rows ++ [rowOf send (system.file.rows.length + 1) text buttonUrl] }
      }.setPhase sender (.ready send) := by
  have hfound := getBySnapshot_rowOf (system.file.rows.length + 1) text buttonUrl hnone
  have hrows : system.file.rows.enqueue send.snapshotId send.snapshot.payloadSha256
      send.destination send.threadId text buttonUrl 0 = .ok (system.file.rows ++
          [rowOf send (system.file.rows.length + 1) text buttonUrl]) := by
    unfold DeliveryOutbox.enqueue
    rw [show DeliveryOutbox.getBySnapshot _ _ _ _ = _ from hnone]
    rfl
  have hcheck : send.checkSendable
      (rowOf send (system.file.rows.length + 1) text buttonUrl) = .ok () := by
    simp [VerifiedSend.checkSendable, rowOf, hpoints, hurl]
  unfold enqueue
  rw [htext, hbutton]
  dsimp only
  rw [hrows]
  dsimp only
  rw [hfound]
  dsimp only
  rw [hcheck, if_neg (by simp [rowOf])]

theorem claimExact_rowOf (id : ℕ) (text buttonUrl : String)
    (hnone : rows.getBySnapshot send.snapshotId send.destination send.threadId = none) :
    DeliveryOutbox.claimExact (rows ++ [rowOf send id text buttonUrl])
      send.snapshotId send.destination send.threadId 0 =
        .ok (DeliveryOutbox.claimed 0 (rowOf send id text buttonUrl),
          DeliveryOutbox.update (rows ++ [rowOf send id text buttonUrl]) id
            (DeliveryOutbox.claimed 0)) := by
  unfold DeliveryOutbox.claimExact
  rw [getBySnapshot_rowOf id text buttonUrl hnone]
  rfl

theorem settle_frame (sender : ℕ) (delivery : TelegramDelivery)
    (response : TelegramResponse) (now : ℚ) :
    (system.settle sender delivery response now).file.rows.length = system.file.rows.length ∧
      (system.settle sender delivery response now).sent = system.sent ∧ ∀ other, other ≠ sender →
          (system.settle sender delivery response now).phases other = system.phases other := by
  have hlen : ∀ {state : TelegramDeliveryState} {availableAt : ℚ}
      {errorCode : Option String} {messageId : Option ℤ} {sentAt : Option ℚ}
      {risk : Bool} {rows : DeliveryOutbox},
      system.file.rows.transitionFromSending delivery.id state availableAt errorCode
        messageId sentAt risk = .ok rows → rows.length = system.file.rows.length := by
    intro _ _ _ _ _ _ rows hsaved
    unfold DeliveryOutbox.transitionFromSending at hsaved
    split at hsaved
    next => cases hsaved
    next =>
      split_ifs at hsaved
      cases hsaved
      exact List.length_map ..
  unfold settle
  dsimp only
  split
  next => exact ⟨rfl, rfl, fun other hne => setPhase_phases_of_ne hne _⟩
  next rows hsaved =>
    refine ⟨?_, rfl, fun other hne => setPhase_phases_of_ne hne _⟩
    split at hsaved
    next => exact hlen hsaved
    next => exact hlen hsaved

theorem migrate_getBySnapshot {file migrated : OutboxFile}
    (hmigrate : file.migrate = some migrated) (hthread : threadId ≠ 0)
    (snapshotId destination : String) :
    migrated.rows.getBySnapshot snapshotId destination threadId = none := by
  unfold OutboxFile.migrate at hmigrate
  dsimp only at hmigrate
  split_ifs at hmigrate
  cases hmigrate
  refine List.find?_eq_none.mpr fun row hrow => ?_
  obtain ⟨old, _, rfl⟩ := List.mem_map.mp hrow
  simp [hthread.symm]

theorem sendsOnce_sends
    (hthread : ToThread send) (hphase : system.phases sender = .opening send true)
    {file : OutboxFile} (hmigrate : system.file.migrate = some file) :
    ∃ next ∈ runFrom ControlledSystem.step system (sendsOnce sender),
      next.file.rows.length = file.rows.length + 1 ∧
        (∃ delivery : TelegramDelivery, delivery.key = send.key ∧
          next.sent = system.sent ++ [⟨send, delivery⟩]) ∧
        ∀ other, other ≠ sender → next.phases other = system.phases other := by
  have hnone := migrate_getBySnapshot hmigrate hthread.thread send.snapshotId send.destination
  obtain ⟨text, htext, hpoints⟩ := encodedText_of_valid hthread.text
  obtain ⟨button, hbutton, hurl⟩ := encodedText_of_valid hthread.button
  have henqueue := @enqueue_ready _ _ library
    ⟨file, Function.update system.phases sender (.absent send), system.sent⟩ sender send
    text button hnone htext hpoints hbutton hurl
  have hclaim := claimExact_rowOf (file.rows.length + 1) text button hnone
  simp only [runFrom, sendsOnce, ControlledSystem.step, SendAction.sender, hphase,
    initializeOutbox, hmigrate, look, setPhase, recordOf, hthread.chat, hnone,
    Function.update_self, if_true, Function.update_idem, henqueue, claim, hclaim, attempt]
  refine ⟨_, rfl, ?_, ⟨_, ?_, (settle_frame _ _ _ _).2.1⟩, fun other hne => ?_⟩
  · rw [(settle_frame _ _ _ _).1]
    simp [DeliveryOutbox.update]
  · rfl
  · exact ((settle_frame _ _ _ _).2.2 other hne).trans (Function.update_of_ne hne _ _)

theorem opensOutbox_opens {sender : ℕ} {request : SendRequest}
    {snapshot : ReportSnapshot F} {send : VerifiedSend library}
    (hsends : send.request.dryRun = false)
    (hverify : verifySend library request snapshot = .ok send)
    (hidle : system.phases sender = .idle) (hrows : system.file.rows = []) :
    runFrom ControlledSystem.step system (opensOutbox request snapshot sender) =
      some (system.setPhase sender (.opening send system.file.legacy)) := by
  simp [runFrom, opensOutbox, ControlledSystem.step, SendAction.sender, hidle, hverify,
    setPhase, inspect, recordOf, hrows, DeliveryOutbox.getBySnapshot, hsends]

theorem sends_again {request : SendRequest} {snapshot : ReportSnapshot F} (hthread : ToThread send)
    (hverify : verifySend library request snapshot = .ok send) :
    ∃ system ∈ runFrom ControlledSystem.step (start (emptyFile true) :
        ControlledSystem library)
      (opensOutbox request snapshot 0 ++ opensOutbox request snapshot 1 ++ sendsOnce 0 ++
        sendsOnce 1),
      ¬ (system.sent.map (·.delivery.key)).Nodup := by
  have hzero := @opensOutbox_opens _ _ library (start (emptyFile true)) 0 request
    snapshot send hthread.sends hverify rfl rfl
  rw [show (start (emptyFile true) : ControlledSystem library).file.legacy = true from
    rfl] at hzero
  have hone := @opensOutbox_opens _ _ library
    ((start (emptyFile true)).setPhase 0 (.opening send true)) 1 request snapshot send
    hthread.sends hverify rfl rfl
  obtain ⟨first, hfirst, hlen, ⟨delivery, hkey, hsent⟩, hkept⟩ :=
    @sendsOnce_sends _ _ library (((start (emptyFile true)).setPhase 0
      (.opening send true)).setPhase 1 (.opening send true)) 0 send hthread rfl
      (emptyFile false) rfl
  obtain ⟨row, hrow⟩ := List.length_eq_one_iff.mp hlen
  have hagain : first.file.migrate =
      some ⟨[{ row with destinationMessageThreadId := 0 }], false⟩ := by
    unfold OutboxFile.migrate
    rw [hrow]
    exact if_pos (List.nodup_singleton _)
  obtain ⟨last, hlast, _, ⟨again, hagainKey, hsentAgain⟩, _⟩ :=
    sendsOnce_sends hthread ((hkept 1 one_ne_zero).trans rfl) hagain
  refine ⟨last, ?_, ?_⟩
  · rw [runFrom_append, runFrom_append, runFrom_append, hzero, Option.bind_some, hone,
      Option.bind_some]
    exact (congrArg (Option.bind · _) hfirst).trans hlast
  · rw [hsentAgain, hsent]
    simp [hkey, hagainKey, setPhase, start]

theorem sendsOnce_keepsThreads (hlegacy : system.file.legacy = true) :
    StepsMeet ControlledSystem.step
      (fun (system : ControlledSystem library) action => system.keepsThreads action = true)
      system (sendsOnce sender) := by
  refine ⟨?_, fun next _ => StepsMeet.of_forall ?_ next⟩
  · dsimp only [keepsThreads]
    split
    next => exact hlegacy
    next => rfl
  · intro state action haction
    simp only [List.mem_cons, List.not_mem_nil, or_false] at haction
    rcases haction with rfl | rfl | rfl | rfl | rfl <;> rfl

theorem opensOutbox_keepsThreads (request : SendRequest) (snapshot : ReportSnapshot F)
    (sender : ℕ) (system : ControlledSystem library) :
    StepsMeet ControlledSystem.step
      (fun (system : ControlledSystem library) action => system.keepsThreads action = true)
      system (opensOutbox request snapshot sender) := by
  refine StepsMeet.of_forall ?_ system
  intro state action haction
  simp only [opensOutbox, List.mem_cons, List.not_mem_nil, or_false] at haction
  rcases haction with rfl | rfl | rfl <;> rfl

/-- Every digest is the same, and identifiers are taken as they are. -/
def plainSendLibrary : SendLibrary FloatValue where
  toReportLibrary := plainLibrary
  uuidText text := some (String.ofList (text.map Char.ofNat))
  payloadDigest _ :=
    some "0000000000000000000000000000000000000000000000000000000000000000"

def topicRequest : SendRequest where
  settings := { gatewaySettings with telegramDestinationMessageThreadId := 5 }
  telegramEnabled := false
  snapshotId := "a"
  expectedPayloadSha256 :=
    "0000000000000000000000000000000000000000000000000000000000000000"
  dryRun := false
  approval := some approvalPhrase

def topicSnapshot : ReportSnapshot FloatValue :=
  { zonedSnapshot "a" "Europe/Kyiv" with
    payloadSha256 := "0000000000000000000000000000000000000000000000000000000000000000" }

theorem topic_verified :
    ∃ send, verifySend plainSendLibrary topicRequest topicSnapshot = .ok send ∧ ToThread send := by
  have hverd : ∃ send ∈ (verifySend plainSendLibrary topicRequest
      topicSnapshot).toOption, ToThread send := by
    decide +kernel
  obtain ⟨send, hsend, hthread⟩ := hverd
  cases hres : verifySend plainSendLibrary topicRequest topicSnapshot with
  | error => rw [hres] at hsend; cases hsend
  | ok found =>
    rw [hres] at hsend
    cases hsend
    exact ⟨send, rfl, hthread⟩

theorem controlled_sends_topic :
    ∃ system : ControlledSystem plainSendLibrary,
      system ∈ runFrom ControlledSystem.step (start (emptyFile true))
        (opensOutbox topicRequest topicSnapshot 0 ++ sendsOnce 0) ∧
      system.sent ≠ [] ∧ (system.sent.map (·.delivery.key)).Nodup := by
  obtain ⟨send, hverify, hthread⟩ := topic_verified
  have hzero := @opensOutbox_opens _ _ plainSendLibrary (start (emptyFile true)) 0
    topicRequest topicSnapshot send hthread.sends hverify rfl rfl
  obtain ⟨last, hlast, _, ⟨delivery, _, hsent⟩, _⟩ :=
    @sendsOnce_sends _ _ plainSendLibrary ((start (emptyFile true)).setPhase 0
      (.opening send true)) 0 send hthread rfl (emptyFile false) rfl
  have hrun : runFrom ControlledSystem.step (start (emptyFile true))
      (opensOutbox topicRequest topicSnapshot 0 ++ sendsOnce 0) = some last := by
    rw [runFrom_append, hzero, Option.bind_some]
    exact hlast
  have hmeet : StepsMeet ControlledSystem.step
      (fun (system : ControlledSystem plainSendLibrary) action =>
        system.keepsThreads action = true)
      (start (emptyFile true)) (opensOutbox topicRequest topicSnapshot 0 ++ sendsOnce 0) :=
    (opensOutbox_keepsThreads ..).append fun middle hmiddle =>
      sendsOnce_keepsThreads (Option.some.inj (hzero.symm.trans hmiddle) ▸ rfl)
  have hfile : StoredFile (emptyFile true) := ⟨.nil, fun _ hrow => by cases hrow⟩
  refine ⟨last, hrun, by simp [hsent], ((controlled_sends hfile hrun).1 hmeet).1⟩

theorem sent_twice_after_second_migration :
    ∃ system : ControlledSystem plainSendLibrary,
      system ∈ runFrom ControlledSystem.step (start (emptyFile true))
        (opensOutbox topicRequest topicSnapshot 0 ++
          opensOutbox topicRequest topicSnapshot 1 ++ sendsOnce 0 ++ sendsOnce 1) ∧
      ¬ (system.sent.map (·.delivery.key)).Nodup := by
  obtain ⟨send, hverify, hthread⟩ := topic_verified
  exact sends_again hthread hverify

end ControlledSystem

end Nexolab
