import Nexolab.LocalSessions
import Nexolab.TransitionSystem

/-!
# Refresh tokens

The replacement of a refresh token is computed from it, so a client which has lost an
answer may ask again.  A session stores the hash of its current token only; the token
before is recognised by its replacement, for a short time.
-/

namespace Nexolab

/-- The keyed digest which gives the replacement and the hash which is stored; two
texts have neither in common, and no digest is empty. -/
structure RefreshTokenScheme where
  (hmac sha256 : String → String)
  hmac_injective : Function.Injective hmac
  sha256_injective : Function.Injective sha256
  hmac_ne_empty : ∀ token, hmac token ≠ ""

/-- The token of a login, of 64 characters: a replacement has 43. -/
structure LoginToken (scheme : RefreshTokenScheme) where
  token : String
  ne_empty : token ≠ ""
  fresh : ∀ other, scheme.hmac other ≠ token

namespace RefreshTokenScheme

variable (scheme : RefreshTokenScheme)

def lineage (token : String) : ℕ → List String
  | 0 => [token]
  | rotations + 1 => scheme.hmac^[rotations + 1] token :: lineage token rotations

end RefreshTokenScheme

def refreshRetryGrace : ℤ := 30 * microsPerSecond

def logoutRotationDepth : ℕ := 4

/-! ## Requests -/

structure RefreshRequest where
  token : String
  now : Instant

inductive RefreshOutcome where
  | invalid (message : String)
  | noMembership
  | granted (refreshToken : String) (refreshExpiresAt : Instant)
  deriving DecidableEq

def RefreshOutcome.isAccepted : RefreshOutcome → Bool
  | .invalid _ => false
  | _ => true

structure RefreshAnswer where
  token : String
  outcome : RefreshOutcome

/-- One session with its account, the tokens it has had and the requests whose first
lookup has found nothing. -/
structure RefreshSession where
  session : LocalSession
  account : LocalAccount
  tokens : List String
  (refreshes logouts : List (ℕ × RefreshRequest))
  answers : List RefreshAnswer

inductive RefreshAction where
  | refresh (worker : ℕ) (token : String) (now : Instant) (memberships : Bool)
  | recover (worker : ℕ) (memberships : Bool)
  | logout (worker : ℕ) (token : String) (now : Instant)
  | recoverLogout (worker : ℕ)
  | abort (worker : ℕ)
  | revoke (now : Instant)
  | setAccount (account : LocalAccount)

namespace RefreshSession

variable (scheme : RefreshTokenScheme) (settings : LocalAuthSettings) (system : RefreshSession)

def initial (login : LoginToken scheme) (account : LocalAccount)
    (createdAt expiresAt : Instant) : RefreshSession where
  session := ⟨scheme.sha256 login.token, createdAt, expiresAt, none⟩
  account
  tokens := [login.token]
  refreshes := []
  logouts := []
  answers := []

def refreshOf (worker : ℕ) : Option RefreshRequest :=
  (system.refreshes.find? fun entry => entry.1 = worker).map Prod.snd

def logoutOf (worker : ℕ) : Option RefreshRequest :=
  (system.logouts.find? fun entry => entry.1 = worker).map Prod.snd

def otherRefreshes (worker : ℕ) : List (ℕ × RefreshRequest) :=
  system.refreshes.filter fun entry => entry.1 ≠ worker

def otherLogouts (worker : ℕ) : List (ℕ × RefreshRequest) :=
  system.logouts.filter fun entry => entry.1 ≠ worker

def assertActive (now : Instant) : Except String Unit :=
  system.session.assertRowsActive system.account now (some settings.refreshLifetime)

def answer (token : String) (outcome : RefreshOutcome) : RefreshSession :=
  { system with answers := ⟨token, outcome⟩ :: system.answers }

/-- The pair, or nothing for an account which is in no organization. -/
def tokenPair (memberships : Bool) (refreshToken : String) (expiresAt : Instant) :
    RefreshOutcome :=
  if memberships then .granted refreshToken expiresAt else .noMembership

def rotate (token : String) (now : Instant) : RefreshSession :=
  { system with
    session := system.session.rotate settings (scheme.sha256 (scheme.hmac token)) now
    tokens := scheme.hmac token :: system.tokens }

def revokeSession (now : Instant) : RefreshSession :=
  { system with session := system.session.revoke now }

def inGrace (now : Instant) : Bool :=
  now - refreshRetryGrace ≤ system.session.lastRefreshedAt

def recoveryHashes (token : String) : List String :=
  (List.range logoutRotationDepth).map fun index =>
    scheme.sha256 (scheme.hmac^[index + 1] token)

def step : RefreshAction → Option RefreshSession
  | .refresh worker token now memberships =>
    let normalized := stripText token
    if (system.refreshOf worker).isSome then none
    else if normalized = "" then
      some (system.answer normalized (.invalid "refresh token is required"))
    else if system.session.refreshTokenHash = scheme.sha256 normalized then
      match system.assertActive settings now with
      | .error message => some (system.answer normalized (.invalid message))
      | .ok _ =>
        some ((system.rotate scheme settings normalized now).answer normalized
          (tokenPair memberships (scheme.hmac normalized) (now + settings.refreshLifetime)))
    else
      some { system with refreshes := (worker, ⟨normalized, now⟩) :: system.refreshes }
  | .recover worker memberships => do
    let request ← system.refreshOf worker
    let rest := { system with refreshes := system.otherRefreshes worker }
    if system.session.refreshTokenHash = scheme.sha256 (scheme.hmac request.token) &&
        system.inGrace request.now then
      match system.assertActive settings request.now with
      | .error message => some (rest.answer request.token (.invalid message))
      | .ok _ =>
        some (rest.answer request.token
          (tokenPair memberships (scheme.hmac request.token) system.session.expiresAt))
    else
      some (rest.answer request.token (.invalid "refresh session was not found"))
  | .logout worker token now =>
    let normalized := stripText token
    if (system.logoutOf worker).isSome then none
    else if normalized = "" then some system
    else if system.session.refreshTokenHash = scheme.sha256 normalized then
      some (system.revokeSession now)
    else
      some { system with logouts := (worker, ⟨normalized, now⟩) :: system.logouts }
  | .recoverLogout worker => do
    let request ← system.logoutOf worker
    let rest := { system with logouts := system.otherLogouts worker }
    if system.session.refreshTokenHash ∈ recoveryHashes scheme request.token &&
        system.inGrace request.now then some (rest.revokeSession request.now)
    else some rest
  | .abort worker =>
    some { system with
      refreshes := system.otherRefreshes worker
      logouts := system.otherLogouts worker }
  | .revoke now => some (system.revokeSession now)
  | .setAccount account => some { system with account }

end RefreshSession

end Nexolab
