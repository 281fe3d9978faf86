import Nexolab.LocalLogins

/-!
# When no session outlives a reset

A session is granted to what its login has read.  It is revoked by every reset and
revocation which commits after that, unless the session is created later or, for a
revocation which locks nothing, is not among the selected ones.
-/

namespace Nexolab

namespace LocalLogins

variable {authentication : LocalAuthentication} {before after : LocalLogins}
  {action : LoginAction} {worker : ℕ}

/-- No reset or revocation is older than the reading of a granted session, and a
revocation revokes all open sessions. -/
def GrantsCurrent (system : LocalLogins) : LoginAction → Prop
  | .insertSession worker _ _ => ∀ attempt ∈ system.attemptOf worker,
      attempt.generation = system.generation
  | .revokeSelected worker _ => ∀ selected ∈ system.selectedBy worker,
      ∀ session ∈ system.sessions, session.revokedAt = none → session.id ∈ selected
  | _ => True

instance (system : LocalLogins) (action : LoginAction) :
    Decidable (system.GrantsCurrent action) :=
  match action with
  | .insertSession worker _ _ =>
    inferInstanceAs (Decidable (∀ attempt ∈ system.attemptOf worker, _))
  | .revokeSelected worker _ =>
    inferInstanceAs (Decidable (∀ selected ∈ system.selectedBy worker, _))
  | .read .. | .refuse _ | .recordFailure _ | .resolve .. | .loadAccount _
  | .recordSuccess _ | .checkActive _ | .abort _ | .resetPassword ..
  | .revokeSessions _ | .setActive .. | .selectSessions _ | .refresh ..
  | .logout .. => .isTrue trivial

def OutdatedRevoked (system : LocalLogins) : Prop :=
  ∀ session ∈ system.sessions, session.generation < system.generation → session.revokedAt ≠ none

structure ReadsCommitted (system : LocalLogins) : Prop where
  attempts : ∀ entry ∈ system.attempts, entry.2.generation ≤ system.generation
  sessions : ∀ session ∈ system.sessions, session.generation ≤ system.generation

/-! ## What a step does to the sessions -/

/-- Every login in progress has read before what one has read, or now. -/
def AttemptsFrom (before after : LocalLogins) : Prop :=
  ∀ entry ∈ after.attempts, entry.2.generation = before.generation ∨
    ∃ old ∈ before.attempts, old.2.generation = entry.2.generation

theorem AttemptsFrom.others (hatts : ∀ entry ∈ after.attempts,
    entry ∈ before.attempts) : AttemptsFrom before after :=
  fun entry hent => .inr ⟨entry, hatts entry hent, rfl⟩

variable {attempt : LoginAttempt}

theorem AttemptsFrom.advance {phase : LoginPhase}
    (hfound : before.attemptOf worker = some attempt) :
    AttemptsFrom before (before.advance worker attempt phase) := by
  intro entry hent
  cases hent with
  | head => exact .inr ⟨_, attemptOf_eq_some hfound, rfl⟩
  | tail _ hother => exact .inr ⟨entry, mem_of_mem_otherAttempts hother, rfl⟩

def SessionsFrom (before after : LocalLogins) : Prop :=
  ∀ session ∈ after.sessions, ∃ old ∈ before.sessions, old.generation = session.generation ∧
      (old.revokedAt ≠ none → session.revokedAt ≠ none)

theorem SessionsFrom.refl (hsessions : after.sessions = before.sessions) :
    SessionsFrom before after :=
  fun session hsess => ⟨session, hsessions ▸ hsess, rfl, id⟩

theorem SessionsFrom.updateSession {sessionId : String} {update : GrantedSession → GrantedSession}
    (hgen : ∀ session, (update session).generation = session.generation)
    (hrevoked : ∀ session : GrantedSession, session.revokedAt ≠ none →
      (update session).revokedAt ≠ none) :
    SessionsFrom before (before.updateSession sessionId update) := by
  intro session hsess
  obtain ⟨old, hold, rfl⟩ := List.mem_map.mp hsess
  refine ⟨old, hold, ?_⟩
  split_ifs
  · exact ⟨(hgen old).symm, hrevoked old⟩
  · exact ⟨rfl, id⟩

theorem refreshed_generation {replacementHash : String} {now : Instant} (session : GrantedSession) :
    (before.refreshed authentication replacementHash now session).generation =
      session.generation := by
  unfold refreshed
  split <;> rfl

theorem refreshed_revokedAt {replacementHash : String} {now : Instant}
    (session : GrantedSession) (hrevoked : session.revokedAt ≠ none) :
    (before.refreshed authentication replacementHash now session).revokedAt ≠ none := by
  unfold refreshed
  split
  · exact hrevoked
  · exact hrevoked

inductive SessionEffect (before : LocalLogins) : LoginAction → LocalLogins → Prop
  | kept (action : LoginAction) (after : LocalLogins)
      (hgrants : before.GrantsCurrent action)
      (hgen : after.generation = before.generation)
      (hatts : AttemptsFrom before after) (hsessions : SessionsFrom before after) :
      SessionEffect before action after
  | revoked (action : LoginAction) (after : LocalLogins) (now : Instant)
      (hgrants : before.GrantsCurrent action)
      (hgen : after.generation = before.generation + 1)
      (hatts : after.attempts = before.attempts)
      (hsessions : after.sessions = before.sessions.map (GrantedSession.revoke now)) :
      SessionEffect before action after
  | selected (worker : ℕ) (now : Instant) (selected : List String)
      (after : LocalLogins) (hsel : before.selectedBy worker = some selected)
      (hgen : after.generation = before.generation + 1)
      (hatts : after.attempts = before.attempts)
      (hsessions : after.sessions = before.sessions.map fun session =>
        if session.id ∈ selected then session.revoke now else session) :
      SessionEffect before (.revokeSelected worker now) after
  | granted (worker : ℕ) (sessionId refreshTokenHash : String)
      (attempt : LoginAttempt) (session : GrantedSession) (after : LocalLogins)
      (hfound : before.attemptOf worker = some attempt)
      (hgen : after.generation = before.generation)
      (hatts : after.attempts = before.otherAttempts worker)
      (hsessions : after.sessions = session :: before.sessions)
      (hopen : session.revokedAt = none)
      (hread : session.generation = attempt.generation) :
      SessionEffect before (.insertSession worker sessionId refreshTokenHash) after

theorem SessionEffect.advanced {phase : LoginPhase}
    {account : LocalAccount} (hfound : before.attemptOf worker = some attempt)
    (hgrants : before.GrantsCurrent action) :
    SessionEffect before action
      { before.advance worker attempt phase with account } :=
  .kept _ _ hgrants rfl (fun entry hent => AttemptsFrom.advance hfound entry hent) (.refl rfl)

theorem SessionEffect.finished {outcome : LoginOutcome}
    {account : LocalAccount} (hgrants : before.GrantsCurrent action) :
    SessionEffect before action
      { before.finish authentication worker attempt outcome with account } :=
  .kept _ _ hgrants rfl (.others fun _ hent => mem_of_mem_otherAttempts hent) (.refl rfl)

theorem step_sessionEffect (hstep : before.step authentication action = some after) :
    SessionEffect before action after := by
  cases step_effect hstep with
  | read worker password now =>
    refine .kept _ _ trivial rfl ?_ (.refl rfl)
    intro entry hent
    cases hent with
    | head => exact .inl rfl
    | tail _ hother => exact .inr ⟨entry, hother, rfl⟩
  | refused worker attempt lockedUntil => exact .finished trivial
  | failed worker attempt => exact .finished trivial
  | resolved worker attempt hfound => exact .advanced hfound trivial
  | unresolved worker attempt => exact .finished trivial
  | loaded worker attempt hfound => exact .advanced hfound trivial
  | recorded worker attempt loaded hfound => exact .advanced hfound trivial
  | checked worker attempt hfound => exact .advanced hfound trivial
  | inserted worker sessionId refreshTokenHash attempt hfound =>
    exact .granted worker sessionId refreshTokenHash attempt _ _ hfound rfl rfl rfl
      rfl rfl
  | aborted worker =>
    exact .kept _ _ trivial rfl (.others fun _ hent => mem_of_mem_otherAttempts hent) (.refl rfl)
  | reset passwordHash now => exact .revoked _ _ now trivial rfl rfl rfl
  | revoked now => exact .revoked _ _ now trivial rfl rfl rfl
  | activitySet isActive now => exact .revoked _ _ now trivial rfl rfl rfl
  | selected worker =>
    exact .kept _ _ trivial rfl (.others fun _ hent => hent) (.refl rfl)
  | selectedRevoked worker now selected hsel =>
    exact .selected worker now selected _ hsel rfl rfl rfl
  | refreshed sessionId replacementHash now =>
    exact .kept _ _ trivial rfl (.others fun _ hent => hent)
      (.updateSession refreshed_generation refreshed_revokedAt)
  | loggedOut sessionId now =>
    exact .kept _ _ trivial rfl (.others fun _ hent => hent)
      (.updateSession (fun _ => rfl) fun _ _ => LocalSession.revoke_revokedAt)

theorem ReadsCommitted.step (hreads : before.ReadsCommitted)
    (hstep : before.step authentication action = some after) :
    after.ReadsCommitted := by
  cases step_sessionEffect hstep with
  | kept action after hgrants hgen hatts hsessions =>
    constructor
    · intro entry hent
      rw [hgen]
      rcases hatts entry hent with hnow | ⟨old, hold, hsame⟩
      · exact hnow.le
      · exact hsame ▸ hreads.attempts old hold
    · intro session hsess
      obtain ⟨old, hold, hsame, _⟩ := hsessions session hsess
      rw [hgen, ← hsame]
      exact hreads.sessions old hold
  | revoked action after now hgrants hgen hatts hsessions =>
    constructor
    · intro entry hent
      rw [hgen]
      exact (hreads.attempts entry (hatts ▸ hent)).trans (Nat.le_succ _)
    · intro session hsess
      rw [hsessions] at hsess
      obtain ⟨old, hold, rfl⟩ := List.mem_map.mp hsess
      rw [hgen]
      exact (hreads.sessions old hold).trans (Nat.le_succ _)
  | selected worker now selected after hsel hgen hatts hsessions =>
    constructor
    · intro entry hent
      rw [hgen]
      exact (hreads.attempts entry (hatts ▸ hent)).trans (Nat.le_succ _)
    · intro session hsess
      rw [hsessions] at hsess
      obtain ⟨old, hold, rfl⟩ := List.mem_map.mp hsess
      rw [hgen]
      have hread := (hreads.sessions old hold).trans (Nat.le_succ _)
      split_ifs
      · exact hread
      · exact hread
  | granted worker sessionId refreshTokenHash attempt session after hfound hgen
      hatts hsessions hopen hread =>
      constructor
      · intro entry hent
        rw [hatts] at hent
        rw [hgen]
        exact hreads.attempts entry (mem_of_mem_otherAttempts hent)
      · intro other hother
        rw [hsessions] at hother
        rw [hgen]
        cases hother with
        | head => exact hread ▸ hreads.attempts _ (attemptOf_eq_some hfound)
        | tail _ hold => exact hreads.sessions other hold

theorem grantsCurrent_iff (hreads : before.ReadsCommitted) (hrevoked : before.OutdatedRevoked)
    (hstep : before.step authentication action = some after) :
    before.GrantsCurrent action ↔ after.OutdatedRevoked := by
  cases step_sessionEffect hstep with
  | kept action after hgrants hgen hatts hsessions =>
    refine iff_of_true hgrants ?_
    intro session hsess houtdated
    obtain ⟨old, hold, hsame, hstays⟩ := hsessions session hsess
    exact hstays (hrevoked old hold (by omega))
  | revoked action after now hgrants hgen hatts hsessions =>
    refine iff_of_true hgrants ?_
    intro session hsess _
    rw [hsessions] at hsess
    obtain ⟨old, _, rfl⟩ := List.mem_map.mp hsess
    exact LocalSession.revoke_revokedAt
  | selected worker now selected after hsel hgen hatts hsessions =>
    unfold GrantsCurrent OutdatedRevoked
    simp only [hsel, Option.mem_some_iff, forall_eq', hsessions, List.forall_mem_map, hgen]
    refine forall₂_congr fun session hsess => ?_
    have hread := hreads.sessions session hsess
    split_ifs with hmem
    · exact iff_of_true (fun _ => hmem) fun _ => LocalSession.revoke_revokedAt
    · constructor
      · exact fun hall _ hopen => hmem (hall hopen)
      · exact fun hall hopen => absurd hopen (hall (Nat.lt_succ_of_le hread))
  | granted worker sessionId refreshTokenHash attempt session after hfound hgen
      hatts hsessions hopen hread =>
      have hle := hreads.attempts _ (attemptOf_eq_some hfound)
      unfold GrantsCurrent OutdatedRevoked
      simp only [hfound, Option.mem_some_iff, forall_eq', hsessions, hgen,
        List.forall_mem_cons, hopen, hread]
      constructor
      · intro hcur
        exact ⟨fun hlt => absurd hcur hlt.ne, hrevoked⟩
      · intro hall
        by_contra hne
        exact hall.1 (lt_of_le_of_ne hle hne) rfl

end LocalLogins

/-- In every run whose steps grant to current readings no session is usable that was
granted to a login which had read the account before a reset or a revocation, and a
step leaves these sessions revoked exactly when it does so. -/
theorem session_current_iff {authentication : LocalAuthentication}
    {account : LocalAccount} {sessions : List (String × LocalSession)}
    {system : LocalLogins}
    (hreach : Reaches (LocalLogins.step authentication) LocalLogins.GrantsCurrent
      (.initial account sessions) system) :
    (∀ session ∈ system.sessions, session.generation < system.generation →
      ∀ now, ¬ session.Usable system.account now) ∧
      ∀ action after, system.step authentication action = some after →
        (system.GrantsCurrent action ↔ after.OutdatedRevoked) := by
  have hboth : system.ReadsCommitted ∧ system.OutdatedRevoked := by
    refine hreach.invariant
      (P := fun system => system.ReadsCommitted ∧ system.OutdatedRevoked) ?_ ?_
    · rintro before action after ⟨hreads, hrevoked⟩ hgrants hstep
      exact ⟨hreads.step hstep,
        (LocalLogins.grantsCurrent_iff hreads hrevoked hstep).mp hgrants⟩
    · refine ⟨⟨nofun, ?_⟩, ?_⟩
      · intro session hsess
        obtain ⟨entry, _, rfl⟩ := List.mem_map.mp hsess
        exact le_rfl
      · intro session _ houtdated
        exact absurd houtdated (Nat.not_lt_zero _)
  obtain ⟨hreads, hrevoked⟩ := hboth
  constructor
  · intro session hsess houtdated now
    exact LocalSession.not_usable_of_revoked (hrevoked session hsess houtdated)
  · intro action after hstep
    exact LocalLogins.grantsCurrent_iff hreads hrevoked hstep

def plainAuthentication : LocalAuthentication where
  verifyPassword := fun password passwordHash => password = passwordHash
  settings := ⟨28800, 3, 300⟩

def exampleAccount : LocalAccount := ⟨"first password", true, true, 0, none⟩

def loginSteps (worker : ℕ) (password sessionId : String) (now : Instant) :
    List LoginAction :=
  [.read worker password now, .resolve worker true, .loadAccount worker,
   .recordSuccess worker, .checkActive worker,
   .insertSession worker sessionId "refresh hash"]

def resetBetweenLogins : List LoginAction :=
  loginSteps 1 "first password" "first" 0 ++
    .resetPassword "second password" 1000000 ::
      loginSteps 2 "second password" "second" 2000000

theorem session_current_reset :
    ∃ system, runFrom (LocalLogins.step plainAuthentication)
        (.initial exampleAccount []) resetBetweenLogins = some system ∧
      (∀ session ∈ system.sessions, session.generation < system.generation →
        ∀ now, ¬ session.Usable system.account now) ∧
      ∀ action after, system.step plainAuthentication action = some after →
        (system.GrantsCurrent action ↔ after.OutdatedRevoked) := by
  have hrun : (runFrom (LocalLogins.step plainAuthentication)
      (.initial exampleAccount []) resetBetweenLogins).isSome = true := by
    decide +kernel
  obtain ⟨system, hsystem⟩ := Option.isSome_iff_exists.mp hrun
  have hmeet : StepsMeet (LocalLogins.step plainAuthentication)
      LocalLogins.GrantsCurrent (.initial exampleAccount []) resetBetweenLogins := by
    decide +kernel
  exact ⟨system, hsystem, session_current_iff (.of_stepsMeet hmeet hsystem)⟩

def resetDuringLogin : List LoginAction :=
  .read 1 "first password" 0 :: .resetPassword "second password" 1000000 ::
    (loginSteps 1 "first password" "first" 0).tail

theorem session_outdated :
    ¬ ∀ (authentication : LocalAuthentication) (account : LocalAccount)
      (system : LocalLogins),
      Reaches (LocalLogins.step authentication) (fun _ _ => True)
        (.initial account []) system →
      ∀ session ∈ system.sessions, session.generation < system.generation →
        ∀ now, ¬ session.Usable system.account now := by
  intro hclaim
  have hrun : ∃ system ∈ runFrom (LocalLogins.step plainAuthentication)
      (.initial exampleAccount []) resetDuringLogin,
      ∃ session ∈ system.sessions, session.generation < system.generation ∧
        session.assertRowsActive system.account 2000000 none = .ok () := by
    decide +kernel
  obtain ⟨system, hsystem, session, hsess, houtdated, husable⟩ := hrun
  exact hclaim plainAuthentication exampleAccount system
    (.of_runFrom (fun _ _ _ => trivial) hsystem) session hsess houtdated 2000000
    husable

end Nexolab
