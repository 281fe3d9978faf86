import Nexolab.KeyedRows
import Nexolab.LocalSessions
import Nexolab.TransitionSystem

/-!
# Logins, resets and revocations

A login reads the account, verifies the password, records the success and creates
the session in transactions of their own.  Whatever commits in between is seen by
none of the earlier ones.
-/

namespace Nexolab

inductive LoginPhase where
  | verifying
  | resolved
  | recording (loaded : LocalAccount)
  | recorded
  | creating
  deriving DecidableEq

/-- A login with the account as it has read it; the generation counts the resets and
revocations committed before that. -/
structure LoginAttempt where
  now : Instant
  password : String
  account : LocalAccount
  generation : ℕ
  phase : LoginPhase

inductive LoginOutcome where
  | locked (lockedUntil : Instant)
  | invalidCredentials
  | noMembership
  | granted (sessionId : String)
  deriving DecidableEq

def LoginOutcome.isLocked : LoginOutcome → Bool
  | .locked _ => true
  | _ => false

structure LoginAnswer where
  now : Instant
  passwordValid : Bool
  outcome : LoginOutcome
  deriving DecidableEq

def LoginAnswer.wrongUnlocked (answer : LoginAnswer) : Bool :=
  !answer.passwordValid && !answer.outcome.isLocked

/-- A session of the account with the generation its login has read. -/
structure GrantedSession extends LocalSession where
  id : String
  generation : ℕ

/-- The accounts table is reduced to one account, its sessions and its requests. -/
structure LocalLogins where
  account : LocalAccount
  sessions : List GrantedSession
  attempts : List (ℕ × LoginAttempt)
  revocations : List (ℕ × List String)
  answers : List LoginAnswer
  generation : ℕ

inductive LoginAction where
  | read (worker : ℕ) (password : String) (now : Instant)
  | refuse (worker : ℕ)
  | recordFailure (worker : ℕ)
  | resolve (worker : ℕ) (memberships : Bool)
  | loadAccount (worker : ℕ)
  | recordSuccess (worker : ℕ)
  | checkActive (worker : ℕ)
  | insertSession (worker : ℕ) (sessionId refreshTokenHash : String)
  | abort (worker : ℕ)
  | resetPassword (passwordHash : String) (now : Instant)
  | revokeSessions (now : Instant)
  | setActive (isActive : Bool) (now : Instant)
  | selectSessions (worker : ℕ)
  | revokeSelected (worker : ℕ) (now : Instant)
  | refresh (sessionId replacementHash : String) (now : Instant)
  | logout (sessionId : String) (now : Instant)

structure LocalAuthentication where
  verifyPassword : String → String → Bool
  settings : LocalAuthSettings

def GrantedSession.revoke (now : Instant) (session : GrantedSession) : GrantedSession :=
  { session with toLocalSession := session.toLocalSession.revoke now }

def GrantedSession.rotate (settings : LocalAuthSettings) (replacementHash : String)
    (now : Instant) (session : GrantedSession) : GrantedSession :=
  { session with
    toLocalSession := session.toLocalSession.rotate settings replacementHash now }

namespace LoginAttempt

variable (attempt : LoginAttempt)

def passwordValid (authentication : LocalAuthentication) : Bool :=
  authentication.verifyPassword attempt.password attempt.account.passwordHash

def readLocked : Bool := attempt.account.lockedAt attempt.now

def Verified (authentication : LocalAuthentication) : Prop :=
  attempt.readLocked = false ∧ attempt.passwordValid authentication = true

def answer (authentication : LocalAuthentication) (outcome : LoginOutcome) :
    LoginAnswer :=
  ⟨attempt.now, attempt.passwordValid authentication, outcome⟩

def session (authentication : LocalAuthentication)
    (sessionId refreshTokenHash : String) : GrantedSession where
  id := sessionId
  generation := attempt.generation
  refreshTokenHash
  lastRefreshedAt := attempt.now
  expiresAt := attempt.now + authentication.settings.refreshLifetime
  revokedAt := none

end LoginAttempt

namespace LocalLogins

variable (authentication : LocalAuthentication) (system : LocalLogins)

def initial (account : LocalAccount) (sessions : List (String × LocalSession)) :
    LocalLogins :=
  ⟨account, sessions.map fun entry => ⟨entry.2, entry.1, 0⟩, [], [], [], 0⟩

def attemptOf (worker : ℕ) : Option LoginAttempt :=
  (system.attempts.find? fun entry => entry.1 = worker).map Prod.snd

def otherAttempts (worker : ℕ) : List (ℕ × LoginAttempt) :=
  system.attempts.filter fun entry => entry.1 ≠ worker

def selectedBy (worker : ℕ) : Option (List String) :=
  (system.revocations.find? fun entry => entry.1 = worker).map Prod.snd

def otherRevocations (worker : ℕ) : List (ℕ × List String) :=
  system.revocations.filter fun entry => entry.1 ≠ worker

def advance (worker : ℕ) (attempt : LoginAttempt) (phase : LoginPhase) : LocalLogins :=
  { system with
    attempts := (worker, { attempt with phase }) :: system.otherAttempts worker }

def finish (worker : ℕ) (attempt : LoginAttempt) (outcome : LoginOutcome) :
    LocalLogins :=
  { system with
    attempts := system.otherAttempts worker
    answers := attempt.answer authentication outcome :: system.answers }

/-- `record_failed_login` answers with the lock the row has then. -/
def failureOutcome (account : LocalAccount) : LoginOutcome :=
  match account.lockedUntil with
  | some lockedUntil => .locked lockedUntil
  | none => .invalidCredentials

def fail (worker : ℕ) (attempt : LoginAttempt) : LocalLogins :=
  let account := system.account.recordFailedLogin authentication.settings attempt.now
  { system.finish authentication worker attempt (failureOutcome account) with account }

def openSessions : List String :=
  (system.sessions.filter fun session => session.revokedAt = none).map GrantedSession.id

def revokeAll (now : Instant) : LocalLogins :=
  { system with
    sessions := system.sessions.map (GrantedSession.revoke now)
    generation := system.generation + 1 }

def revokeSelected (worker : ℕ) (now : Instant) (selected : List String) :
    LocalLogins :=
  { system with
    sessions := system.sessions.map fun session =>
      if session.id ∈ selected then session.revoke now else session
    revocations := system.otherRevocations worker
    generation := system.generation + 1 }

def refreshed (replacementHash : String) (now : Instant) (session : GrantedSession) :
    GrantedSession :=
  match session.assertRowsActive system.account now
      (some authentication.settings.refreshLifetime) with
  | .ok _ => session.rotate authentication.settings replacementHash now
  | .error _ => session

def updateSession (sessionId : String) (update : GrantedSession → GrantedSession) :
    LocalLogins :=
  { system with
    sessions := system.sessions.map fun session =>
      if session.id = sessionId then update session else session }

def step : LoginAction → Option LocalLogins
  | .read worker password now =>
    if (system.attemptOf worker).isSome then none
    else
      some { system with attempts :=
        (worker, ⟨now, password, system.account, system.generation, .verifying⟩) ::
          system.attempts }
  | .refuse worker => do
    let attempt ← system.attemptOf worker
    match attempt.phase, attempt.account.lockedUntil with
    | .verifying, some lockedUntil =>
      if attempt.readLocked then
        some (system.finish authentication worker attempt (.locked lockedUntil))
      else none
    | _, _ => none
  | .recordFailure worker => do
    let attempt ← system.attemptOf worker
    if attempt.phase = .verifying && !attempt.readLocked &&
        (!attempt.account.isActive || !attempt.passwordValid authentication) then
      some (system.fail authentication worker attempt)
    else none
  | .resolve worker memberships => do
    let attempt ← system.attemptOf worker
    if attempt.phase = .verifying && !attempt.readLocked &&
        attempt.account.isActive && attempt.passwordValid authentication then
      if memberships then some (system.advance worker attempt .resolved)
      else some (system.finish authentication worker attempt .noMembership)
    else none
  | .loadAccount worker => do
    let attempt ← system.attemptOf worker
    if attempt.phase = .resolved then
      some (system.advance worker attempt (.recording system.account))
    else none
  | .recordSuccess worker => do
    let attempt ← system.attemptOf worker
    match attempt.phase with
    | .recording loaded =>
      some { system.advance worker attempt .recorded with
        account := system.account.recordSuccessfulLogin loaded }
    | _ => none
  | .checkActive worker => do
    let attempt ← system.attemptOf worker
    if attempt.phase = .recorded && system.account.isActive then
      some (system.advance worker attempt .creating)
    else none
  | .insertSession worker sessionId refreshTokenHash => do
    let attempt ← system.attemptOf worker
    if attempt.phase = .creating then
      some { system.finish authentication worker attempt (.granted sessionId) with
        sessions := attempt.session authentication sessionId refreshTokenHash :: system.sessions }
    else none
  | .abort worker =>
    some { system with
      attempts := system.otherAttempts worker
      revocations := system.otherRevocations worker }
  | .resetPassword passwordHash now =>
    some { system.revokeAll now with
      account := system.account.resetPassword passwordHash }
  | .revokeSessions now => some (system.revokeAll now)
  | .setActive isActive now =>
    some { system.revokeAll now with
      account := { system.account with isActive, identityActive := isActive } }
  | .selectSessions worker =>
    -- `revoke_all_sessions` does not lock the account
    if (system.selectedBy worker).isSome then none
    else
      some { system with
        revocations := (worker, system.openSessions) :: system.revocations }
  | .revokeSelected worker now => do
    let selected ← system.selectedBy worker
    some (system.revokeSelected worker now selected)
  | .refresh sessionId replacementHash now =>
    some (system.updateSession sessionId (system.refreshed authentication replacementHash now))
  | .logout sessionId now =>
    some (system.updateSession sessionId (GrantedSession.revoke now))

/-! ## What a step does -/

section Effects

variable {authentication : LocalAuthentication} {before after : LocalLogins}
  {action : LoginAction} {worker : ℕ}

theorem attemptOf_eq_some {attempt : LoginAttempt}
    (hfound : before.attemptOf worker = some attempt) :
    (worker, attempt) ∈ before.attempts := by
  unfold attemptOf at hfound
  rw [Option.map_eq_some_iff] at hfound
  obtain ⟨⟨found, _⟩, hent, rfl⟩ := hfound
  obtain ⟨hmem, hworker⟩ := mem_and_eq_of_find? hent
  rw [decide_eq_true_eq] at hworker
  exact hworker ▸ hmem

theorem mem_of_mem_otherAttempts {entry : ℕ × LoginAttempt}
    (hent : entry ∈ before.otherAttempts worker) : entry ∈ before.attempts :=
  List.mem_of_mem_filter hent

inductive LoginEffect (authentication : LocalAuthentication) (before : LocalLogins) :
    LoginAction → LocalLogins → Prop
  | read (worker : ℕ) (password : String) (now : Instant) :
      LoginEffect authentication before (.read worker password now)
        { before with attempts :=
          (worker, ⟨now, password, before.account, before.generation, .verifying⟩) ::
            before.attempts }
  | refused (worker : ℕ) (attempt : LoginAttempt) (lockedUntil : Instant)
      (hfound : before.attemptOf worker = some attempt)
      (hlocked : attempt.readLocked = true)
      (hread : attempt.account.lockedUntil = some lockedUntil) :
      LoginEffect authentication before (.refuse worker)
        (before.finish authentication worker attempt (.locked lockedUntil))
  | failed (worker : ℕ) (attempt : LoginAttempt)
      (hfound : before.attemptOf worker = some attempt)
      (hunlocked : attempt.readLocked = false) :
      LoginEffect authentication before (.recordFailure worker)
        (before.fail authentication worker attempt)
  | resolved (worker : ℕ) (attempt : LoginAttempt)
      (hfound : before.attemptOf worker = some attempt)
      (hverd : attempt.Verified authentication) :
      LoginEffect authentication before (.resolve worker true)
        (before.advance worker attempt .resolved)
  | unresolved (worker : ℕ) (attempt : LoginAttempt)
      (hfound : before.attemptOf worker = some attempt)
      (hverd : attempt.Verified authentication) :
      LoginEffect authentication before (.resolve worker false)
        (before.finish authentication worker attempt .noMembership)
  | loaded (worker : ℕ) (attempt : LoginAttempt)
      (hfound : before.attemptOf worker = some attempt)
      (hphase : attempt.phase = .resolved) :
      LoginEffect authentication before (.loadAccount worker)
        (before.advance worker attempt (.recording before.account))
  | recorded (worker : ℕ) (attempt : LoginAttempt) (loaded : LocalAccount)
      (hfound : before.attemptOf worker = some attempt)
      (hphase : attempt.phase = .recording loaded) :
      LoginEffect authentication before (.recordSuccess worker)
        { before.advance worker attempt .recorded with
          account := before.account.recordSuccessfulLogin loaded }
  | checked (worker : ℕ) (attempt : LoginAttempt)
      (hfound : before.attemptOf worker = some attempt)
      (hphase : attempt.phase = .recorded) :
      LoginEffect authentication before (.checkActive worker)
        (before.advance worker attempt .creating)
  | inserted (worker : ℕ) (sessionId refreshTokenHash : String)
      (attempt : LoginAttempt) (hfound : before.attemptOf worker = some attempt)
      (hphase : attempt.phase = .creating) :
      LoginEffect authentication before (.insertSession worker sessionId refreshTokenHash)
        { before.finish authentication worker attempt (.granted sessionId) with
          sessions := attempt.session authentication sessionId refreshTokenHash :: before.sessions }
  | aborted (worker : ℕ) :
      LoginEffect authentication before (.abort worker)
        { before with
          attempts := before.otherAttempts worker
          revocations := before.otherRevocations worker }
  | reset (passwordHash : String) (now : Instant) :
      LoginEffect authentication before (.resetPassword passwordHash now)
        { before.revokeAll now with
          account := before.account.resetPassword passwordHash }
  | revoked (now : Instant) :
      LoginEffect authentication before (.revokeSessions now) (before.revokeAll now)
  | activitySet (isActive : Bool) (now : Instant) :
      LoginEffect authentication before (.setActive isActive now)
        { before.revokeAll now with
          account := { before.account with isActive, identityActive := isActive } }
  | selected (worker : ℕ) :
      LoginEffect authentication before (.selectSessions worker)
        { before with
          revocations := (worker, before.openSessions) :: before.revocations }
  | selectedRevoked (worker : ℕ) (now : Instant) (selected : List String)
      (hsel : before.selectedBy worker = some selected) :
      LoginEffect authentication before (.revokeSelected worker now)
        (before.revokeSelected worker now selected)
  | refreshed (sessionId replacementHash : String) (now : Instant) :
      LoginEffect authentication before (.refresh sessionId replacementHash now)
        (before.updateSession sessionId (before.refreshed authentication replacementHash now))
  | loggedOut (sessionId : String) (now : Instant) :
      LoginEffect authentication before (.logout sessionId now)
        (before.updateSession sessionId (GrantedSession.revoke now))

theorem step_effect (hstep : before.step authentication action = some after) :
    LoginEffect authentication before action after := by
  cases action with
  | read worker password now =>
    simp only [step] at hstep
    split_ifs at hstep
    cases hstep
    exact .read worker password now
  | refuse worker =>
    obtain ⟨attempt, hfound, hstep⟩ := Option.bind_eq_some_iff.mp hstep
    split at hstep
    next lockedUntil _ hread =>
      split_ifs at hstep with hlocked
      cases hstep
      exact .refused worker attempt lockedUntil hfound hlocked hread
    next => cases hstep
  | recordFailure worker =>
    obtain ⟨attempt, hfound, hstep⟩ := Option.bind_eq_some_iff.mp hstep
    split_ifs at hstep with hpassed
    cases hstep
    simp only [Bool.and_eq_true, Bool.not_eq_true'] at hpassed
    exact .failed worker attempt hfound hpassed.1.2
  | resolve worker memberships =>
    obtain ⟨attempt, hfound, hstep⟩ := Option.bind_eq_some_iff.mp hstep
    split_ifs at hstep with hpassed hmember
    · cases hstep
      subst hmember
      simp only [Bool.and_eq_true, Bool.not_eq_true'] at hpassed
      exact .resolved worker attempt hfound ⟨hpassed.1.1.2, hpassed.2⟩
    · cases hstep
      rw [Bool.not_eq_true] at hmember
      subst hmember
      simp only [Bool.and_eq_true, Bool.not_eq_true'] at hpassed
      exact .unresolved worker attempt hfound ⟨hpassed.1.1.2, hpassed.2⟩
  | loadAccount worker =>
    obtain ⟨attempt, hfound, hstep⟩ := Option.bind_eq_some_iff.mp hstep
    split_ifs at hstep with hphase
    cases hstep
    exact .loaded worker attempt hfound hphase
  | recordSuccess worker =>
    obtain ⟨attempt, hfound, hstep⟩ := Option.bind_eq_some_iff.mp hstep
    split at hstep
    next loaded hphase =>
      cases hstep
      exact .recorded worker attempt loaded hfound hphase
    next => cases hstep
  | checkActive worker =>
    obtain ⟨attempt, hfound, hstep⟩ := Option.bind_eq_some_iff.mp hstep
    split_ifs at hstep with hpassed
    cases hstep
    simp only [Bool.and_eq_true, decide_eq_true_eq] at hpassed
    exact .checked worker attempt hfound hpassed.1
  | insertSession worker sessionId refreshTokenHash =>
    obtain ⟨attempt, hfound, hstep⟩ := Option.bind_eq_some_iff.mp hstep
    split_ifs at hstep with hphase
    cases hstep
    exact .inserted worker sessionId refreshTokenHash attempt hfound hphase
  | abort worker =>
    cases hstep
    exact .aborted worker
  | resetPassword passwordHash now =>
    cases hstep
    exact .reset passwordHash now
  | revokeSessions now =>
    cases hstep
    exact .revoked now
  | setActive isActive now =>
    cases hstep
    exact .activitySet isActive now
  | selectSessions worker =>
    simp only [step] at hstep
    split_ifs at hstep
    cases hstep
    exact .selected worker
  | revokeSelected worker now =>
    obtain ⟨selected, hsel, hstep⟩ := Option.bind_eq_some_iff.mp hstep
    cases hstep
    exact .selectedRevoked worker now selected hsel
  | refresh sessionId replacementHash now =>
    cases hstep
    exact .refreshed sessionId replacementHash now
  | logout sessionId now =>
    cases hstep
    exact .loggedOut sessionId now

end Effects

end LocalLogins

end Nexolab
