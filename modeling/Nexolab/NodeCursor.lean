import Mathlib.Tactic

/-!
# The cursor of a node stream

The central service keeps, for each node and stream, the last sequence it has
accepted and the event it belongs to.  A larger sequence advances the cursor, the
same sequence is accepted again for the same event only, and anything else is a
replay.
-/

namespace Nexolab

structure SequencedMessage where
  nodeSequence : ℕ
  eventId : String
  deriving DecidableEq

structure IngressCursor where
  lastSequence : ℕ
  lastEventId : String

inductive NodeReplayError where
  | lower
  | boundToAnother

def NodeReplayError.text : NodeReplayError → String
  | .lower => "node_sequence is lower than the persisted cursor"
  | .boundToAnother => "node_sequence is already bound to another event"

/-- The cursor part of `authorize` and of `_authorize_and_advance`. -/
def advanceCursor (cursor : Option IngressCursor) (message : SequencedMessage) :
    Except NodeReplayError (Option IngressCursor) :=
  match cursor with
  | none => .ok (some ⟨message.nodeSequence, message.eventId⟩)
  | some current =>
    if message.nodeSequence < current.lastSequence then .error .lower
    else if message.nodeSequence = current.lastSequence then
      if message.eventId ≠ current.lastEventId then .error .boundToAnother
      else .ok cursor
    else .ok (some ⟨message.nodeSequence, message.eventId⟩)

def receiveMessage (cursor : Option IngressCursor) (message : SequencedMessage) :
    Option IngressCursor :=
  match advanceCursor cursor message with
  | .error _ => cursor
  | .ok next => next

def ShownBy (messages : List SequencedMessage) (cursor : Option IngressCursor) :
    Prop :=
  ∀ current, cursor = some current → ⟨current.lastSequence, current.lastEventId⟩ ∈ messages

variable {messages : List SequencedMessage}

variable {message : SequencedMessage}

theorem advanceCursor_shown {cursor next : Option IngressCursor} (hshown : ShownBy messages cursor)
    (hadv : advanceCursor cursor message = .ok next) :
    ShownBy (messages ++ [message]) next := by
  have hold : ShownBy (messages ++ [message]) cursor := by
    intro current hcur
    exact List.mem_append_left _ (hshown current hcur)
  have hnew : ShownBy (messages ++ [message]) (some ⟨message.nodeSequence, message.eventId⟩) := by
    intro current hcur
    cases hcur
    exact List.mem_append_right _ (List.mem_singleton_self message)
  unfold advanceCursor at hadv
  cases cursor with
  | none =>
    cases hadv
    exact hnew
  | some current =>
    dsimp only at hadv
    split_ifs at hadv
    · cases hadv
      exact hold
    · cases hadv
      exact hnew

theorem receiveMessage_shown {cursor : Option IngressCursor} (hshown : ShownBy messages cursor) :
    ShownBy (messages ++ [message]) (receiveMessage cursor message) := by
  unfold receiveMessage
  cases hadv : advanceCursor cursor message with
  | error error =>
    intro current hcur
    exact List.mem_append_left _ (hshown current hcur)
  | ok next => exact advanceCursor_shown hshown hadv

theorem receive_shown (messages : List SequencedMessage) :
    ShownBy messages (messages.foldl receiveMessage none) := by
  induction messages using List.reverseRecOn with
  | nil =>
    intro current hcur
    cases hcur
  | append_singleton earlier message ih =>
    rw [List.foldl_append, List.foldl_cons, List.foldl_nil]
    exact receiveMessage_shown ih

theorem advanceCursor_accepts {cursor : Option IngressCursor} (hshown : ShownBy messages cursor)
    (hlargest : ∀ other ∈ messages, other.nodeSequence < message.nodeSequence ∨ other = message) :
    ∃ next, advanceCursor cursor message = .ok next := by
  unfold advanceCursor
  cases cursor with
  | none => exact ⟨_, rfl⟩
  | some current =>
    dsimp only
    rcases hlargest _ (hshown current rfl) with hlt | heq
    · have hsequence : ¬ message.nodeSequence < current.lastSequence :=
        not_lt.mpr hlt.le
      have hother : ¬ message.nodeSequence = current.lastSequence := by
        intro hsame
        rw [hsame] at hlt
        exact absurd hlt (lt_irrefl _)
      rw [if_neg hsequence, if_neg hother]
      exact ⟨_, rfl⟩
    · rw [← heq]
      dsimp only
      rw [if_neg (lt_irrefl _), if_pos rfl, if_neg (not_not.mpr rfl)]
      exact ⟨_, rfl⟩

/-- Messages are in order when a later one has a larger sequence or repeats the
earlier one. -/
def InOrder (messages : List SequencedMessage) : Prop :=
  messages.Pairwise fun earlier later =>
    earlier.nodeSequence < later.nodeSequence ∨ earlier = later

theorem advanceCursor_inOrder (horder : InOrder messages) :
    ∃ cursor, messages.foldlM advanceCursor none = .ok cursor ∧ ShownBy messages cursor := by
  induction messages using List.reverseRecOn with
  | nil => exact ⟨none, rfl, fun current hcur => by cases hcur⟩
  | append_singleton earlier message ih =>
    obtain ⟨hearlier, _, hbefore⟩ := List.pairwise_append.mp horder
    obtain ⟨cursor, hfold, hshown⟩ := ih hearlier
    obtain ⟨next, hnext⟩ := advanceCursor_accepts hshown fun other hother =>
      hbefore other hother message (List.mem_singleton_self message)
    refine ⟨next, ?_, advanceCursor_shown hshown hnext⟩
    rw [List.foldlM_append, hfold]
    change (advanceCursor cursor message >>= fun last => pure last) = _
    rw [hnext]
    rfl

/-- Each message of a stream delivered a number of times before the next one. -/
def redelivered (copies : List ℕ) (messages : List SequencedMessage) :
    List SequencedMessage :=
  ((copies.zip messages).map fun pair => List.replicate pair.1 pair.2).flatten

theorem mem_of_redelivered {copies : List ℕ} (hmem : message ∈ redelivered copies messages) :
    message ∈ messages := by
  unfold redelivered at hmem
  obtain ⟨block, hblock, hmessage⟩ := List.mem_flatten.mp hmem
  obtain ⟨pair, hpair, hreplicate⟩ := List.mem_map.mp hblock
  rw [← hreplicate] at hmessage
  rw [List.eq_of_mem_replicate hmessage]
  exact (List.of_mem_zip hpair).2

theorem redelivered_inOrder (copies : List ℕ)
    (horder : InOrder messages) : InOrder (redelivered copies messages) := by
  induction messages generalizing copies with
  | nil =>
    unfold redelivered
    rw [List.zip_nil_right]
    exact List.Pairwise.nil
  | cons message rest ih =>
    cases copies with
    | nil => exact List.Pairwise.nil
    | cons count copies =>
      obtain ⟨hfirst, hrest⟩ := List.pairwise_cons.mp horder
      change InOrder (List.replicate count message ++ redelivered copies rest)
      apply List.pairwise_append.mpr
      refine ⟨?_, ih copies hrest, ?_⟩
      · apply List.pairwise_replicate.mpr
        exact .inr (.inr rfl)
      · intro copy hcopy other hother
        rw [List.eq_of_mem_replicate hcopy]
        exact hfirst other (mem_of_redelivered hother)

end Nexolab
