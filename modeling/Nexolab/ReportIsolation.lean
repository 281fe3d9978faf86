import Nexolab.FallibleList
import Nexolab.ReportDelivery

/-!
# What ends and what blocks the delivery worker

The thread goes on and no snapshot waits behind another one exactly as long as nothing
is raised which no handler knows, and what the discovery defers has no snapshot behind
it which still waits for its row.
-/

namespace Nexolab

namespace ReportWorker

variable {F : Type} (settings : ReportSettings)

def Foreign (snapshot : ReportSnapshot F) : Prop :=
  snapshot.organizationId ≠ settings.nexolabBackendOrganizationId

def HasRow (outbox : DeliveryOutbox) (snapshot : ReportSnapshot F) : Prop :=
  ∃ snapshotId destination, encodedText snapshot.id = .ok snapshotId ∧
    requiredDestination settings.telegramDestinationChatId 64 = .ok destination ∧
      (outbox.getBySnapshot snapshotId destination
        settings.telegramDestinationMessageThreadId).isSome = true

def Conflicts (outbox : DeliveryOutbox) (snapshot : ReportSnapshot F) : Prop :=
  ∃ snapshotId destination, encodedText snapshot.id = .ok snapshotId ∧
    requiredDestination settings.telegramDestinationChatId 64 = .ok destination ∧
      ∃ row ∈ outbox.getBySnapshot snapshotId destination
        settings.telegramDestinationMessageThreadId,
        row.snapshotSha256 ≠ snapshot.payloadSha256

variable [PythonFloat F] (library : ReportLibrary F)

def Storable (snapshot : ReportSnapshot F) : Prop :=
  ∃ rendered destination snapshotId text buttonUrl,
    renderSnapshot settings library snapshot = .ok rendered ∧
      requiredDestination settings.telegramDestinationChatId 64 = .ok destination ∧
        encodedText snapshot.id = .ok snapshotId ∧ encodedText rendered.text = .ok text ∧
            encodedText rendered.buttonUrl = .ok buttonUrl

def Sendable (now : Instant) (snapshot : ReportSnapshot F) : Prop :=
  ¬ Foreign settings snapshot ∧ ReportDue settings now snapshot ∧ Storable settings library snapshot

/-- The turn of the snapshot raises what the discovery does not handle. -/
def Escapes (outbox : DeliveryOutbox) (now : Instant) (snapshot : ReportSnapshot F)
    (event : OutboxEvent) : Prop :=
  ¬ Foreign settings snapshot ∧ ReportDue settings now snapshot ∧
    ((∃ exception, renderSnapshot settings library snapshot = .error exception ∧
        exception.deferred = false) ∨
      (∃ rendered destination, renderSnapshot settings library snapshot = .ok rendered ∧
        requiredDestination settings.telegramDestinationChatId 64 = .ok destination ∧
          (event = .busy ∨ Conflicts settings outbox snapshot)))

/-- The turn of the snapshot raises what the discovery defers: the snapshot is of another
organization, the renderer raises a `ValueError`, or the message cannot be stored. -/
def Defers (outbox : DeliveryOutbox) (now : Instant) (snapshot : ReportSnapshot F)
    (event : OutboxEvent) : Prop :=
  Foreign settings snapshot ∨ ReportDue settings now snapshot ∧
    ((∃ exception, renderSnapshot settings library snapshot = .error exception ∧
        exception.deferred = true) ∨
      (∃ rendered, renderSnapshot settings library snapshot = .ok rendered ∧
        ¬ Escapes settings library outbox now snapshot event ∧
          ¬ HasRow settings outbox snapshot ∧ ¬ Storable settings library snapshot))

variable {settings library}

/-! ## One turn of the discovery -/

def Extends (outbox after : DeliveryOutbox) : Prop :=
  ∀ snapshotId destination threadId,
    (outbox.getBySnapshot snapshotId destination threadId).isSome = true →
      (after.getBySnapshot snapshotId destination threadId).isSome = true

theorem Extends.refl (outbox : DeliveryOutbox) : Extends outbox outbox :=
  fun _ _ _ hrow => hrow

omit [PythonFloat F] in
theorem HasRow.extend {outbox after : DeliveryOutbox} {snapshot : ReportSnapshot F}
    (hrow : HasRow settings outbox snapshot) (hext : Extends outbox after) :
    HasRow settings after snapshot := by
  obtain ⟨snapshotId, destination, hid, hdest, hsome⟩ := hrow
  exact ⟨snapshotId, destination, hid, hdest, hext _ _ _ hsome⟩

theorem encodedText_id {snapshot : ReportSnapshot F} {rendered : RenderedMessage}
    (hrender : renderSnapshot settings library snapshot = .ok rendered) :
    ∃ snapshotId, encodedText snapshot.id = .ok snapshotId := by
  have hquoted : ∃ quoted, quoteText snapshot.id = .ok quoted := by
    simp only [renderSnapshot, renderReport, bind_eq_ok] at hrender
    obtain ⟨_, _, _, _, _, _, _, _, _, _, _, _, _, _, _, _, _, _, _, _, quoted, hquoted,
      _⟩ := hrender
    exact ⟨quoted, hquoted⟩
  obtain ⟨quoted, hquoted⟩ := hquoted
  unfold quoteText at hquoted
  unfold encodedText
  split_ifs at hquoted ⊢
  exact ⟨_, rfl⟩

theorem enqueue_of_absent {outbox : DeliveryOutbox} {snapshotId destination : String}
    {threadId : ℕ} (payloadSha256 text buttonUrl : String) (now : ℚ)
    (habsent : outbox.getBySnapshot snapshotId destination threadId = none) :
    ∃ after, outbox.enqueue snapshotId payloadSha256 destination threadId text buttonUrl
        now = .ok after ∧ Extends outbox after ∧
      (after.getBySnapshot snapshotId destination threadId).isSome = true := by
  unfold DeliveryOutbox.enqueue
  rw [habsent]
  refine ⟨_, rfl, ?_, ?_⟩
  · intro otherId otherDestination otherThread hsome
    unfold DeliveryOutbox.getBySnapshot at hsome ⊢
    rw [List.find?_append, Option.isSome_or, hsome, Bool.true_or]
  · unfold DeliveryOutbox.getBySnapshot at habsent ⊢
    rw [List.find?_append, habsent]
    simp

theorem encodedText_eq_error {text : CodePoints} {exception : GatewayException}
    (herror : encodedText text = .error exception) : exception = .valueError := by
  unfold encodedText at herror
  split_ifs at herror
  exact (Except.error.inj herror).symm

theorem requiredDestination_eq_error {value : String} {maximum : ℕ} {exception : GatewayException}
    (herror : requiredDestination value maximum = .error exception) :
    exception = .valueError := by
  unfold requiredDestination at herror
  split_ifs at herror
  exact (Except.error.inj herror).symm

def TurnSpec (settings : ReportSettings) (library : ReportLibrary F)
    (event : OutboxEvent) (outbox : DeliveryOutbox) (now : Instant)
    (snapshot : ReportSnapshot F) : Except GatewayException DeliveryOutbox → Prop
  | .error exception =>
    if exception.deferred then Defers settings library outbox now snapshot event
    else Escapes settings library outbox now snapshot event
  | .ok after => ¬ Escapes settings library outbox now snapshot event ∧
      ¬ Defers settings library outbox now snapshot event ∧ Extends outbox after ∧
        (Sendable settings library now snapshot → HasRow settings after snapshot)

section Rendered

variable (event : OutboxEvent) (outbox : DeliveryOutbox) {now : Instant}
  {snapshot : ReportSnapshot F} {rendered : RenderedMessage}

theorem escapes_iff_of_rendered (hforeign : ¬ Foreign settings snapshot)
    (hdue : ReportDue settings now snapshot)
    (hrender : renderSnapshot settings library snapshot = .ok rendered)
    {destination : String} (hdest :
      requiredDestination settings.telegramDestinationChatId 64 = .ok destination) :
    Escapes settings library outbox now snapshot event ↔
      event = .busy ∨ Conflicts settings outbox snapshot := by
  constructor
  · rintro ⟨_, _, ⟨exception, herror, _⟩ | ⟨_, _, _, _, hraises⟩⟩
    · cases hrender.symm.trans herror
    · exact hraises
  · exact fun hraises => ⟨hforeign, hdue, .inr ⟨rendered, destination, hrender, hdest, hraises⟩⟩

theorem defers_iff_of_rendered (hforeign : ¬ Foreign settings snapshot)
    (hdue : ReportDue settings now snapshot)
    (hrender : renderSnapshot settings library snapshot = .ok rendered) :
    Defers settings library outbox now snapshot event ↔
      ¬ Escapes settings library outbox now snapshot event ∧
        ¬ HasRow settings outbox snapshot ∧ ¬ Storable settings library snapshot := by
  constructor
  · rintro (hother | ⟨_, ⟨exception, herror, _⟩ | ⟨_, _, hrest⟩⟩)
    · exact absurd hother hforeign
    · cases hrender.symm.trans herror
    · exact hrest
  · exact fun hrest => .inr ⟨hdue, .inr ⟨rendered, hrender, hrest⟩⟩

theorem enqueueReport_spec (hforeign : ¬ Foreign settings snapshot)
    (hdue : ReportDue settings now snapshot)
    (hrender : renderSnapshot settings library snapshot = .ok rendered) :
    TurnSpec settings library event outbox now snapshot
      (enqueueReport settings event outbox snapshot rendered now) := by
  have hdefers := defers_iff_of_rendered event outbox hforeign hdue hrender
  obtain ⟨snapshotId, hid⟩ := encodedText_id hrender
  unfold enqueueReport
  cases hdest : requiredDestination settings.telegramDestinationChatId 64 with
  | error exception =>
    cases requiredDestination_eq_error hdest
    refine hdefers.mpr ⟨?_, ?_, ?_⟩
    · rintro ⟨_, _, ⟨exception, herror, _⟩ | ⟨_, _, _, hok, _⟩⟩
      · cases hrender.symm.trans herror
      · cases hdest.symm.trans hok
    · rintro ⟨_, _, _, hok, _⟩
      cases hdest.symm.trans hok
    · rintro ⟨_, _, _, _, _, _, hok, _⟩
      cases hdest.symm.trans hok
  | ok destination =>
    have hescapes := escapes_iff_of_rendered event outbox hforeign hdue hrender hdest
    rw [ok_bind]
    by_cases hbusy : event = .busy
    · rw [if_pos hbusy]
      exact hescapes.mpr (.inl hbusy)
    rw [if_neg hbusy, hid, ok_bind]
    have hhasRow : ∀ rows : DeliveryOutbox, HasRow settings rows snapshot ↔
        (rows.getBySnapshot snapshotId destination
          settings.telegramDestinationMessageThreadId).isSome = true := by
      intro rows
      constructor
      · rintro ⟨otherId, otherDestination, hotherId, hother, hrow⟩
        cases hid.symm.trans hotherId
        cases hdest.symm.trans hother
        exact hrow
      · exact fun hrow => ⟨snapshotId, destination, hid, hdest, hrow⟩
    have hconflicts : Conflicts settings outbox snapshot ↔
        ∃ row ∈ outbox.getBySnapshot snapshotId destination
          settings.telegramDestinationMessageThreadId,
          row.snapshotSha256 ≠ snapshot.payloadSha256 := by
      constructor
      · rintro ⟨otherId, otherDestination, hotherId, hother, hrow⟩
        cases hid.symm.trans hotherId
        cases hdest.symm.trans hother
        exact hrow
      · exact fun hrow => ⟨snapshotId, destination, hid, hdest, hrow⟩
    cases hrow : outbox.getBySnapshot snapshotId destination
        settings.telegramDestinationMessageThreadId with
    | some existing =>
      have hfound : HasRow settings outbox snapshot := by
        rw [hhasRow, hrow]
        rfl
      dsimp only
      split_ifs with hsame
      · exact hescapes.mpr (.inr (hconflicts.mpr ⟨existing, hrow, hsame⟩))
      · refine ⟨?_, fun h => (hdefers.mp h).2.1 hfound, .refl outbox, fun _ => hfound⟩
        rw [hescapes, hconflicts, hrow]
        rintro (h | ⟨row, hmem, hother⟩)
        · exact hbusy h
        · cases hmem
          exact hsame hother
    | none =>
      have hnoEscape : ¬ Escapes settings library outbox now snapshot event := by
        rw [hescapes, hconflicts, hrow]
        rintro (h | ⟨row, hmem, _⟩)
        · exact hbusy h
        · cases hmem
      have hnoRow : ¬ HasRow settings outbox snapshot := by
        rw [hhasRow, hrow]
        exact Bool.false_ne_true
      dsimp only
      cases htext : encodedText rendered.text with
      | error exception =>
        cases encodedText_eq_error htext
        refine hdefers.mpr ⟨hnoEscape, hnoRow, ?_⟩
        rintro ⟨other, _, _, _, _, hother, _, _, hok, _⟩
        cases hrender.symm.trans hother
        cases htext.symm.trans hok
      | ok text =>
        rw [ok_bind]
        cases hurl : encodedText rendered.buttonUrl with
        | error exception =>
          cases encodedText_eq_error hurl
          refine hdefers.mpr ⟨hnoEscape, hnoRow, ?_⟩
          rintro ⟨other, _, _, _, _, hother, _, _, _, hok⟩
          cases hrender.symm.trans hother
          cases hurl.symm.trans hok
        | ok buttonUrl =>
          rw [ok_bind]
          obtain ⟨after, hafter, hext, hnew⟩ := enqueue_of_absent
            snapshot.payloadSha256 text buttonUrl (secondsOf now) hrow
          rw [hafter]
          refine ⟨hnoEscape, fun h => (hdefers.mp h).2.2 ?_, hext,
            fun _ => (hhasRow after).mpr hnew⟩
          exact ⟨rendered, destination, snapshotId, text, buttonUrl, hrender,
            hdest, hid, htext, hurl⟩

end Rendered

theorem discoverReport_spec (settings : ReportSettings) (library : ReportLibrary F)
    (event : OutboxEvent) (outbox : DeliveryOutbox) (now : Instant) (snapshot : ReportSnapshot F) :
    TurnSpec settings library event outbox now snapshot
      (discoverReport settings library event outbox now snapshot) := by
  unfold discoverReport
  by_cases hforeign : snapshot.organizationId ≠ settings.nexolabBackendOrganizationId
  · rw [if_pos hforeign]
    exact .inl hforeign
  rw [if_neg hforeign]
  by_cases hdue : ReportDue settings now snapshot
  case neg =>
    rw [if_pos hdue]
    refine ⟨fun h => hdue h.2.1, ?_, .refl outbox, fun h => absurd h.2.1 hdue⟩
    rintro (h | h)
    · exact hforeign h
    · exact hdue h.1
  rw [if_neg (not_not.mpr hdue)]
  cases hrender : renderSnapshot settings library snapshot with
  | error exception =>
    change if exception.deferred = true then _ else _
    split_ifs with hdeferred
    · exact .inr ⟨hdue, .inl ⟨exception, hrender, hdeferred⟩⟩
    · exact ⟨hforeign, hdue, .inl ⟨exception, hrender, Bool.eq_false_of_not_eq_true hdeferred⟩⟩
  | ok rendered =>
    rw [ok_bind]
    exact enqueueReport_spec event outbox hforeign hdue hrender

theorem Defers.not_sendable {outbox : DeliveryOutbox} {now : Instant}
    {snapshot : ReportSnapshot F} {event : OutboxEvent}
    (hdefers : Defers settings library outbox now snapshot event) :
    ¬ Sendable settings library now snapshot := by
  rintro ⟨hforeign, _, hstorable⟩
  rcases hdefers with hother | ⟨_, ⟨exception, herror, _⟩ | ⟨_, _, _, _, hnot⟩⟩
  · exact hforeign hother
  · obtain ⟨_, _, _, _, _, hrender, _⟩ := hstorable
    cases hrender.symm.trans herror
  · exact hnot hstorable

theorem Escapes.not_defers {outbox : DeliveryOutbox} {now : Instant}
    {snapshot : ReportSnapshot F} {event : OutboxEvent}
    (hescapes : Escapes settings library outbox now snapshot event) :
    ¬ Defers settings library outbox now snapshot event := by
  rintro (hother | ⟨_, ⟨exception, herror, hdeferred⟩ | ⟨_, _, hnot, _⟩⟩)
  · exact hescapes.1 hother
  · rcases hescapes.2.2 with ⟨other, hother, hunknown⟩ | ⟨_, _, hrender, _⟩
    · cases herror.symm.trans hother
      rw [hdeferred] at hunknown
      cases hunknown
    · cases herror.symm.trans hrender
  · exact hnot hescapes

def Drains (worker : ReportWorker F) : Prop :=
  match worker.phase with
  | .waiting => True
  | .draining _ => True
  | .claimed _ _ => True
  | .answered _ _ _ => True
  | _ => False

def ReadyRow (settings : ReportSettings) (now : Instant) (row : TelegramDelivery) : Prop :=
  ∃ destination, requiredDestination settings.telegramDestinationChatId 64 = .ok destination ∧
      DeliveryOutbox.Ready destination settings.telegramDestinationMessageThreadId
        (secondsOf now) row

/-- The thread is alive until it is stopped, each due snapshot with a message has its row
when the discovery is over, and the drain ends after as many attempts as are allowed or
when no delivery is ready. -/
structure Delivers (settings : ReportSettings) (library : ReportLibrary F)
    (worker : ReportWorker F) : Prop where
  alive : ∀ exception, worker.phase ≠ .died exception
  ends_on_stop : worker.phase = .stopped → worker.stopRequested = true
  isolated : worker.Drains → ∀ snapshot ∈ worker.discovered,
    Sendable settings library worker.now snapshot → HasRow settings worker.outbox snapshot
  drained : worker.phase = .waiting →
    worker.attempted.length = settings.telegramMaxDeliveriesPerRun ∨
      ∀ row ∈ worker.outbox, ¬ ReadyRow settings worker.now row

/-- The step raises nothing which no handler knows; a snapshot whose failure is deferred
has none behind it which is still to get its row. -/
def SafeStep (settings : ReportSettings) (library : ReportLibrary F)
    (worker : ReportWorker F) : ReportAction F → Prop
  | .cycle _ event => worker.stopRequested = true ∨ event ≠ .busy ∨
      (worker.phase ≠ .idle ∧ worker.phase ≠ .waiting)
  | .report event => ∀ snapshot queue, worker.phase = .discovering (snapshot :: queue) →
      ¬ Escapes settings library worker.outbox worker.now snapshot event ∧
        (Defers settings library worker.outbox worker.now snapshot event →
          ∀ other ∈ queue, Sendable settings library worker.now other →
            HasRow settings worker.outbox other)
  | .claim event => ∀ left, worker.phase = .draining (left + 1) → event ≠ .busy ∧ ∃ destination,
        requiredDestination settings.telegramDestinationChatId 64 = .ok destination
  | .send event => ∀ left delivery, worker.phase = .claimed left delivery →
      ∃ response, event.received = .ok response
  | .save event => ∀ left delivery response, worker.phase = .answered left delivery response →
        event = .served ∧ ∃ row ∈ worker.outbox.get? delivery.id, row.state = .sending
  | _ => True

structure Progress (settings : ReportSettings) (library : ReportLibrary F)
    (worker : ReportWorker F) : Prop where
  listing : worker.phase = .listing → worker.discovered = [] ∧ worker.attempted = []
  discovering : ∀ queue, worker.phase = .discovering queue → worker.attempted = [] ∧
    ∃ handled, worker.discovered = handled ++ queue ∧
      ∀ snapshot ∈ handled, Sendable settings library worker.now snapshot →
        HasRow settings worker.outbox snapshot
  draining : ∀ left, worker.phase = .draining left →
    worker.attempted.length + left = settings.telegramMaxDeliveriesPerRun
  claimed : ∀ left delivery, worker.phase = .claimed left delivery →
    worker.attempted.length + left + 1 = settings.telegramMaxDeliveriesPerRun
  answered : ∀ left delivery response, worker.phase = .answered left delivery response →
    worker.attempted.length + left = settings.telegramMaxDeliveriesPerRun

variable {worker next : ReportWorker F}

variable {change : TelegramDelivery → TelegramDelivery} {delivery : TelegramDelivery}

section

omit [PythonFloat F]

theorem extends_map {outbox : DeliveryOutbox}
    (hkeeps : ∀ row, (change row).snapshotId = row.snapshotId ∧
      (change row).destinationChatId = row.destinationChatId ∧
        (change row).destinationMessageThreadId = row.destinationMessageThreadId) :
    Extends outbox (outbox.map change) := by
  intro snapshotId destination threadId hsome
  unfold DeliveryOutbox.getBySnapshot at hsome ⊢
  rw [List.find?_map, Option.isSome_map]
  have hsame : (fun delivery : TelegramDelivery => decide (delivery.snapshotId = snapshotId ∧
      delivery.destinationChatId = destination ∧
        delivery.destinationMessageThreadId = threadId)) ∘ change =
      fun delivery => decide (delivery.snapshotId = snapshotId ∧
        delivery.destinationChatId = destination ∧
          delivery.destinationMessageThreadId = threadId) := by
    funext row
    obtain ⟨hid, hdest, hthread⟩ := hkeeps row
    rw [Function.comp_apply, hid, hdest, hthread]
  rw [hsame]
  exact hsome

theorem extends_update {outbox : DeliveryOutbox} {deliveryId : ℕ}
    (hkeeps : ∀ row, (change row).snapshotId = row.snapshotId ∧
      (change row).destinationChatId = row.destinationChatId ∧
        (change row).destinationMessageThreadId = row.destinationMessageThreadId) :
    Extends outbox (outbox.update deliveryId change) := by
  apply extends_map
  intro row
  split_ifs
  · exact hkeeps row
  · exact ⟨rfl, rfl, rfl⟩

theorem claimNext_extends {outbox after : DeliveryOutbox} {destination : String}
    {threadId : ℕ} {now : ℚ}
    (hclaim : outbox.claimNextForDestination destination threadId now =
      some (delivery, after)) : Extends outbox after := by
  unfold DeliveryOutbox.claimNextForDestination at hclaim
  obtain ⟨row, _, hsame⟩ := Option.map_eq_some_iff.mp hclaim
  cases hsame
  exact extends_update fun _ => ⟨rfl, rfl, rfl⟩

theorem claimNext_none {outbox : DeliveryOutbox} {destination : String} {threadId : ℕ}
    {now : ℚ} (hclaim : outbox.claimNextForDestination destination threadId now = none) :
    ∀ row ∈ outbox, ¬ DeliveryOutbox.Ready destination threadId now row := by
  unfold DeliveryOutbox.claimNextForDestination DeliveryOutbox.firstReady at hclaim
  rw [Option.map_eq_none_iff, List.head?_eq_none_iff] at hclaim
  intro row hrow hready
  have hmem : row ∈ outbox.filter fun delivery =>
      DeliveryOutbox.Ready destination threadId now delivery :=
    List.mem_filter.mpr ⟨hrow, decide_eq_true hready⟩
  rw [← List.mem_insertionSort (r := fun first second : TelegramDelivery =>
    first.availableAt < second.availableAt ∨
      (first.availableAt = second.availableAt ∧ first.id ≤ second.id)), hclaim] at hmem
  cases hmem

theorem saveOutcome_spec (settings : ReportSettings) (outbox : DeliveryOutbox)
    (delivery : TelegramDelivery) (response : TelegramResponse) (now : ℚ) :
    (∃ row ∈ outbox.get? delivery.id, row.state = .sending) ∧
        (∃ after, TelegramGateway.saveOutcome settings.toGatewaySettings outbox .drain
          delivery response now = .ok after ∧ Extends outbox after) ∨
      ¬ (∃ row ∈ outbox.get? delivery.id, row.state = .sending) ∧
        ∃ fault, TelegramGateway.saveOutcome settings.toGatewaySettings outbox .drain
          delivery response now = .error fault := by
  have htrans : ∀ (state : TelegramDeliveryState) availableAt errorCode messageId sentAt risk,
      (∃ row ∈ outbox.get? delivery.id, row.state = .sending) ∧
          (∃ after, outbox.transitionFromSending delivery.id state availableAt errorCode
            messageId sentAt risk = .ok after ∧ Extends outbox after) ∨
        ¬ (∃ row ∈ outbox.get? delivery.id, row.state = .sending) ∧
          ∃ fault, outbox.transitionFromSending delivery.id state availableAt errorCode
            messageId sentAt risk = .error fault := by
    intro state availableAt errorCode messageId sentAt risk
    unfold DeliveryOutbox.transitionFromSending
    cases hrow : outbox.get? delivery.id with
    | none => exact .inr ⟨by simp, _, rfl⟩
    | some row =>
      by_cases hsending : row.state = .sending
      · refine .inl ⟨⟨row, rfl, hsending⟩, _, if_neg (not_not.mpr hsending), ?_⟩
        exact extends_update fun _ => ⟨rfl, rfl, rfl⟩
      · refine .inr ⟨?_, _, if_pos hsending⟩
        rintro ⟨other, hother, hstate⟩
        cases hother
        exact hsending hstate
  unfold TelegramGateway.saveOutcome
  split
  next => exact htrans _ _ _ _ _ _
  next => split_ifs <;> exact htrans _ _ _ _ _ _
  next => exact htrans _ _ _ _ _ _

end

/-! ## Steps -/

/-- What holds of the worker as long as every step has been safe. -/
structure Running (settings : ReportSettings) (library : ReportLibrary F)
    (worker : ReportWorker F) : Prop where
  delivers : Delivers settings library worker
  progress : Progress settings library worker

theorem not_delivers_die (exception : GatewayException) :
    ¬ Delivers settings library (worker.die exception) :=
  fun hdelivers => hdelivers.alive exception rfl

theorem Running.of_stopped (hphase : worker.phase = .stopped)
    (hstop : worker.stopRequested = true) : Running settings library worker := by
  constructor
  case delivers =>
    constructor
    case alive => simp [hphase]
    case ends_on_stop => exact fun _ => hstop
    case isolated => simp [Drains, hphase]
    case drained => simp [hphase]
  case progress => constructor <;> simp [hphase]

theorem Running.of_listing (hphase : worker.phase = .listing)
    (hdiscovered : worker.discovered = []) (hattempted : worker.attempted = []) :
    Running settings library worker := by
  constructor
  case delivers =>
    constructor
    case alive => simp [hphase]
    case ends_on_stop => simp [hphase]
    case isolated => simp [Drains, hphase]
    case drained => simp [hphase]
  case progress => constructor <;> simp [hphase, hdiscovered, hattempted]

theorem Running.of_discovering {queue handled : List (ReportSnapshot F)}
    (hphase : worker.phase = .discovering queue) (hattempted : worker.attempted = [])
    (hsplit : worker.discovered = handled ++ queue)
    (hhandled : ∀ snapshot ∈ handled, Sendable settings library worker.now snapshot →
      HasRow settings worker.outbox snapshot) :
    Running settings library worker := by
  constructor
  case delivers =>
    constructor
    case alive => simp [hphase]
    case ends_on_stop => simp [hphase]
    case isolated => simp [Drains, hphase]
    case drained => simp [hphase]
  case progress =>
    constructor
    case discovering =>
      intro rest hrest
      rw [hphase] at hrest
      cases hrest
      exact ⟨hattempted, handled, hsplit, hhandled⟩
    all_goals simp [hphase]

theorem Running.of_drains (hdrains : worker.Drains)
    (hisolated : ∀ snapshot ∈ worker.discovered, Sendable settings library worker.now snapshot →
        HasRow settings worker.outbox snapshot)
    (hdrained : worker.phase = .waiting →
      worker.attempted.length = settings.telegramMaxDeliveriesPerRun ∨
        ∀ row ∈ worker.outbox, ¬ ReadyRow settings worker.now row)
    (hcount : ∀ left, worker.phase = .draining left ∨
        (∃ delivery response, worker.phase = .answered left delivery response) →
      worker.attempted.length + left = settings.telegramMaxDeliveriesPerRun)
    (hclaimed : ∀ left delivery, worker.phase = .claimed left delivery →
      worker.attempted.length + left + 1 = settings.telegramMaxDeliveriesPerRun) :
    Running settings library worker := by
  constructor
  case delivers =>
    constructor
    case alive =>
      intro exception hphase
      simp [Drains, hphase] at hdrains
    case ends_on_stop =>
      intro hphase
      simp [Drains, hphase] at hdrains
    case isolated => exact fun _ => hisolated
    case drained => exact hdrained
  case progress =>
    constructor
    case listing =>
      intro hphase
      simp [Drains, hphase] at hdrains
    case discovering =>
      intro queue hphase
      simp [Drains, hphase] at hdrains
    case draining => exact fun left hphase => hcount left (.inl hphase)
    case claimed => exact hclaimed
    case answered =>
      exact fun left delivery response hphase =>
        hcount left (.inr ⟨delivery, response, hphase⟩)

theorem Running.beginDrain (hattempted : worker.attempted = [])
    (hrows : ∀ snapshot ∈ worker.discovered, Sendable settings library worker.now snapshot →
        HasRow settings worker.outbox snapshot) :
    Running settings library (worker.beginDrain settings) := by
  have hphase : (worker.beginDrain settings).phase =
      .draining settings.telegramMaxDeliveriesPerRun := rfl
  apply Running.of_drains
  · simp [Drains, hphase]
  · exact hrows
  · simp [hphase]
  · rintro left (hleft | ⟨_, _, hleft⟩)
    · rw [hphase] at hleft
      cases hleft
      change worker.attempted.length + _ = _
      rw [hattempted, List.length_nil, Nat.zero_add]
    · rw [hphase] at hleft
      cases hleft
  · simp [hphase]

theorem Running.beginCycle (now : Instant) (event : OutboxEvent) :
    (worker.stopRequested = true ∨ event ≠ .busy →
        Running settings library (worker.beginCycle settings now event)) ∧
      (Delivers settings library (worker.beginCycle settings now event) →
        worker.stopRequested = true ∨ event ≠ .busy) := by
  unfold ReportWorker.beginCycle
  by_cases hstop : worker.stopRequested = true
  · rw [if_pos hstop]
    exact ⟨fun _ => .of_stopped rfl hstop, fun _ => .inl hstop⟩
  rw [if_neg hstop]
  by_cases hbusy : event = .busy
  · rw [if_pos hbusy]
    exact ⟨fun hsafe => absurd hbusy (hsafe.resolve_left hstop),
      fun hdelivers => absurd hdelivers (not_delivers_die _)⟩
  · rw [if_neg hbusy]
    exact ⟨fun _ => .of_listing rfl rfl rfl, fun _ => .inr hbusy⟩

theorem Running.listSnapshots (hrun : Running settings library worker)
    (hphase : worker.phase = .listing) (page : ℕ → Except String (List (ReportSnapshot F))) :
    Running settings library (worker.listSnapshots settings page) := by
  obtain ⟨hdiscovered, hattempted⟩ := hrun.progress.listing hphase
  unfold ReportWorker.listSnapshots
  split
  next =>
    apply Running.beginDrain hattempted
    simp [hdiscovered]
  next snapshots _ =>
    exact .of_discovering rfl hattempted (List.nil_append _).symm (by simp)

theorem Running.discoverNext (hrun : Running settings library worker)
    {snapshot : ReportSnapshot F} {queue : List (ReportSnapshot F)}
    (hphase : worker.phase = .discovering (snapshot :: queue)) (event : OutboxEvent) :
    let safe := ¬ Escapes settings library worker.outbox worker.now snapshot event ∧
      (Defers settings library worker.outbox worker.now snapshot event →
        ∀ other ∈ queue, Sendable settings library worker.now other →
          HasRow settings worker.outbox other)
    (safe → Running settings library (worker.discoverNext settings library snapshot queue event)) ∧
      (Delivers settings library
        (worker.discoverNext settings library snapshot queue event) → safe) := by
  obtain ⟨hattempted, handled, hsplit, hhandled⟩ :=
    hrun.progress.discovering _ hphase
  have hspec := discoverReport_spec settings library event worker.outbox worker.now snapshot
  unfold ReportWorker.discoverNext
  cases hturn : discoverReport settings library event worker.outbox worker.now snapshot with
  | ok after =>
    rw [hturn] at hspec
    obtain ⟨hescapes, hdefers, hext, hrow⟩ := hspec
    refine ⟨fun _ => ?_, fun _ => ⟨hescapes, fun h => absurd h hdefers⟩⟩
    refine .of_discovering rfl hattempted
      (hsplit.trans (List.append_cons handled snapshot queue)) ?_
    intro other hother hsendable
    rcases List.mem_append.mp hother with hold | hnew
    · exact (hhandled other hold hsendable).extend hext
    · cases List.mem_singleton.mp hnew
      exact hrow hsendable
  | error exception =>
    rw [hturn] at hspec
    change if exception.deferred = true then _ else _ at hspec
    dsimp only
    split_ifs at hspec ⊢ with hdeferred
    · constructor
      · rintro ⟨_, hqueue⟩
        apply Running.beginDrain hattempted
        intro other hother hsendable
        rw [hsplit] at hother
        rcases List.mem_append.mp hother with hold | hnew
        · exact hhandled other hold hsendable
        · rcases List.mem_cons.mp hnew with rfl | hlater
          · exact absurd hsendable hspec.not_sendable
          · exact hqueue hspec other hlater hsendable
      · intro hdelivers
        refine ⟨?_, fun _ other hother hsendable => ?_⟩
        · intro hescapes
          exact hescapes.not_defers hspec
        · apply hdelivers.isolated trivial other _ hsendable
          change other ∈ worker.discovered
          rw [hsplit]
          exact List.mem_append_right _ (List.mem_cons_of_mem _ hother)
    · exact ⟨fun hsafe => absurd hspec hsafe.1,
        fun hdelivers => absurd hdelivers (not_delivers_die exception)⟩

theorem Running.claimNext (hrun : Running settings library worker) {left : ℕ}
    (hphase : worker.phase = .draining (left + 1)) (event : OutboxEvent) :
    let safe := event ≠ .busy ∧ ∃ destination,
      requiredDestination settings.telegramDestinationChatId 64 = .ok destination
    (safe → Running settings library (worker.claimNext settings left event)) ∧
      (Delivers settings library (worker.claimNext settings left event) → safe) := by
  have hdrains : worker.Drains := by simp [Drains, hphase]
  have hrows := hrun.delivers.isolated hdrains
  have hcount := hrun.progress.draining _ hphase
  unfold ReportWorker.claimNext
  cases hdest : requiredDestination settings.telegramDestinationChatId 64 with
  | error exception =>
    refine ⟨?_, fun hdelivers => absurd hdelivers (not_delivers_die exception)⟩
    rintro ⟨_, _, hok⟩
    cases hok
  | ok destination =>
    dsimp only
    by_cases hbusy : event = .busy
    · rw [if_pos hbusy]
      exact ⟨fun hsafe => absurd hbusy hsafe.1,
        fun hdelivers => absurd hdelivers (not_delivers_die _)⟩
    rw [if_neg hbusy]
    refine ⟨fun _ => ?_, fun _ => ⟨hbusy, destination, rfl⟩⟩
    cases hclaim : worker.outbox.claimNextForDestination destination
        settings.telegramDestinationMessageThreadId (secondsOf worker.now) with
    | none =>
      apply Running.of_drains
      · exact trivial
      · exact hrows
      · refine fun _ => .inr ?_
        rintro row hrow ⟨other, hother, hready⟩
        cases hdest.symm.trans hother
        exact claimNext_none hclaim row hrow hready
      · simp
      · simp
    | some claim =>
      obtain ⟨delivery, after⟩ := claim
      apply Running.of_drains
      · exact trivial
      · exact fun snapshot hmem hsendable =>
          (hrows snapshot hmem hsendable).extend (claimNext_extends hclaim)
      · simp
      · simp
      · rintro remaining other hclaimed
        cases hclaimed
        exact (Nat.add_assoc _ _ _).trans hcount

theorem Running.sendNext (hrun : Running settings library worker) {left : ℕ}
    (hphase : worker.phase = .claimed left delivery) (event : TransportEvent) :
    ((∃ response, event.received = .ok response) →
        Running settings library (worker.sendNext left delivery event)) ∧
      (Delivers settings library (worker.sendNext left delivery event) →
        ∃ response, event.received = .ok response) := by
  have hdrains : worker.Drains := by simp [Drains, hphase]
  have hcount := hrun.progress.claimed _ _ hphase
  unfold ReportWorker.sendNext
  cases hreceived : event.received with
  | error exception =>
    exact ⟨fun hok => absurd hok (by simp),
      fun hdelivers => absurd hdelivers (not_delivers_die exception)⟩
  | ok response =>
    refine ⟨fun _ => ?_, fun _ => ⟨response, rfl⟩⟩
    apply Running.of_drains
    · exact trivial
    · exact hrun.delivers.isolated hdrains
    · simp
    · rintro remaining (hleft | ⟨_, _, hleft⟩)
      · cases hleft
      · cases hleft
        rw [List.length_append, List.length_singleton]
        omega
    · simp

theorem Running.saveNext (hrun : Running settings library worker) {left : ℕ}
    {response : TelegramResponse}
    (hphase : worker.phase = .answered left delivery response) (event : OutboxEvent) :
    let safe := event = .served ∧ ∃ row ∈ worker.outbox.get? delivery.id, row.state = .sending
    (safe → Running settings library (worker.saveNext settings left delivery response event)) ∧
      (Delivers settings library
        (worker.saveNext settings left delivery response event) → safe) := by
  have hdrains : worker.Drains := by simp [Drains, hphase]
  have hcount := hrun.progress.answered _ _ _ hphase
  unfold ReportWorker.saveNext
  cases event with
  | busy =>
    exact ⟨fun hsafe => absurd hsafe.1 (by simp),
      fun hdelivers => absurd hdelivers (not_delivers_die _)⟩
  | changed =>
    exact ⟨fun hsafe => absurd hsafe.1 (by simp),
      fun hdelivers => absurd hdelivers (not_delivers_die _)⟩
  | served =>
    dsimp only
    rcases saveOutcome_spec settings worker.outbox delivery response (secondsOf worker.now) with
      ⟨hsending, after, hsave, hext⟩ | ⟨hnot, fault, hsave⟩
    · rw [hsave]
      refine ⟨fun _ => ?_, fun _ => ⟨rfl, hsending⟩⟩
      apply Running.of_drains
      · exact trivial
      · exact fun snapshot hmem hsendable =>
          (hrun.delivers.isolated hdrains snapshot hmem hsendable).extend hext
      · simp
      · rintro remaining (hleft | ⟨_, _, hleft⟩)
        · cases hleft
          exact hcount
        · cases hleft
      · simp
    · rw [hsave]
      exact ⟨fun hsafe => absurd hsafe.2 hnot,
        fun hdelivers => absurd hdelivers (not_delivers_die _)⟩

theorem Running.stop (hrun : Running settings library worker) :
    Running settings library { worker with stopRequested := true } where
  delivers :=
    { alive := hrun.delivers.alive
      ends_on_stop := fun _ => rfl
      isolated := hrun.delivers.isolated
      drained := hrun.delivers.drained }
  progress := ⟨hrun.progress.listing, hrun.progress.discovering,
    hrun.progress.draining, hrun.progress.claimed, hrun.progress.answered⟩

theorem Running.step (hrun : Running settings library worker)
    {action : ReportAction F} (hstep : worker.step settings library action = some next) :
    (SafeStep settings library worker action → Running settings library next) ∧
      (Delivers settings library next → SafeStep settings library worker action) := by
  unfold ReportWorker.step at hstep
  split at hstep
  next => cases hstep
  next => cases hstep
  next =>
    cases hstep
    exact ⟨fun _ => hrun.stop, fun _ => trivial⟩
  next now event hphase =>
    cases hstep
    have hsafe : SafeStep settings library worker (.cycle now event) ↔
        worker.stopRequested = true ∨ event ≠ .busy := by
      simp [SafeStep, hphase]
    rw [hsafe]
    exact Running.beginCycle now event
  next now event hphase =>
    cases hstep
    have hsafe : SafeStep settings library worker (.cycle now event) ↔
        worker.stopRequested = true ∨ event ≠ .busy := by
      simp [SafeStep, hphase]
    rw [hsafe]
    exact Running.beginCycle now event
  next page hphase =>
    cases hstep
    exact ⟨fun _ => hrun.listSnapshots hphase page, fun _ => trivial⟩
  next event hphase =>
    cases hstep
    obtain ⟨hattempted, handled, hsplit, hhandled⟩ :=
      hrun.progress.discovering _ hphase
    rw [List.append_nil] at hsplit
    refine ⟨fun _ => .beginDrain hattempted (hsplit ▸ hhandled), fun _ => ?_⟩
    intro snapshot queue hqueue
    cases hphase.symm.trans hqueue
  next snapshot queue event hphase =>
    cases hstep
    obtain ⟨hruns, hsafe⟩ := hrun.discoverNext hphase event
    refine ⟨fun h => hruns (h snapshot queue hphase), fun hdelivers => ?_⟩
    intro other rest hqueue
    cases hphase.symm.trans hqueue
    exact hsafe hdelivers
  next event hphase =>
    cases hstep
    have hdrains : worker.Drains := by simp [Drains, hphase]
    have hcount := hrun.progress.draining _ hphase
    refine ⟨fun _ => ?_, fun _ left hleft => by cases hphase.symm.trans hleft⟩
    apply Running.of_drains
    · exact trivial
    · exact hrun.delivers.isolated hdrains
    · exact fun _ => .inl hcount
    · simp
    · simp
  next left event hphase =>
    cases hstep
    obtain ⟨hruns, hsafe⟩ := hrun.claimNext hphase event
    refine ⟨fun h => hruns (h left hphase), fun hdelivers => ?_⟩
    intro other hother
    cases hphase.symm.trans hother
    exact hsafe hdelivers
  next left delivery event hphase =>
    cases hstep
    obtain ⟨hruns, hsafe⟩ := hrun.sendNext hphase event
    refine ⟨fun h => hruns (h left delivery hphase), fun hdelivers => ?_⟩
    intro other claim hother
    cases hphase.symm.trans hother
    exact hsafe hdelivers
  next left delivery response event hphase =>
    cases hstep
    obtain ⟨hruns, hsafe⟩ := hrun.saveNext hphase event
    refine ⟨fun h => hruns (h left delivery response hphase), fun hdelivers => ?_⟩
    intro other claim answer hother
    cases hphase.symm.trans hother
    exact hsafe hdelivers
  next => cases hstep

end ReportWorker

end Nexolab
