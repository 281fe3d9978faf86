import Nexolab.RefreshTokens

/-!
# The rotation of refresh tokens

The tokens of a session are distinct, since each is the replacement of the one before
and the first one replaces none.  A refresh is let in with the last of them, or with
the one before as long as it may be asked again.
-/

namespace Nexolab

namespace RefreshTokenScheme

variable {scheme : RefreshTokenScheme} {login : LoginToken scheme}

theorem iterate_eq_iff {first second : ℕ} :
    scheme.hmac^[first] login.token = scheme.hmac^[second] login.token ↔ first = second := by
  have hreturns : ∀ rotations, scheme.hmac^[rotations] login.token = login.token →
      rotations = 0 := by
    intro rotations hreturn
    cases rotations with
    | zero => rfl
    | succ rotations =>
      rw [Function.iterate_succ_apply'] at hreturn
      exact absurd hreturn (login.fresh _)
  constructor
  · intro hequal
    have hforward := hreturns _ (Function.iterate_cancel scheme.hmac_injective hequal)
    have hback := hreturns _ (Function.iterate_cancel scheme.hmac_injective hequal.symm)
    omega
  · rintro rfl
    rfl

theorem iterate_ne_empty (rotations : ℕ) :
    scheme.hmac^[rotations] login.token ≠ "" := by
  cases rotations with
  | zero => exact login.ne_empty
  | succ rotations =>
    rw [Function.iterate_succ_apply']
    exact scheme.hmac_ne_empty _

theorem mem_lineage {token : String} {rotations : ℕ} :
    token ∈ scheme.lineage login.token rotations ↔
      ∃ index ≤ rotations, token = scheme.hmac^[index] login.token := by
  induction rotations with
  | zero => simp [lineage]
  | succ rotations ih =>
    rw [lineage, List.mem_cons, ih]
    constructor
    · rintro (rfl | ⟨index, hindex, rfl⟩)
      · exact ⟨rotations + 1, le_rfl, rfl⟩
      · exact ⟨index, hindex.trans (Nat.le_succ _), rfl⟩
    · rintro ⟨index, hindex, rfl⟩
      rcases Nat.lt_or_eq_of_le hindex with hlt | rfl
      · exact .inr ⟨index, Nat.lt_succ_iff.mp hlt, rfl⟩
      · exact .inl rfl

theorem sha256_replacement_iff {token : String} {rotations : ℕ} :
    scheme.sha256 (scheme.hmac^[rotations] login.token) = scheme.sha256 (scheme.hmac token) ↔
      ∃ index, rotations = index + 1 ∧ token = scheme.hmac^[index] login.token := by
  rw [scheme.sha256_injective.eq_iff]
  cases rotations with
  | zero =>
    refine iff_of_false (fun hequal => login.fresh token hequal.symm) ?_
    rintro ⟨index, hindex, _⟩
    cases hindex
  | succ rotations =>
    rw [Function.iterate_succ_apply', scheme.hmac_injective.eq_iff]
    constructor
    · rintro rfl
      exact ⟨rotations, rfl, rfl⟩
    · rintro ⟨index, hindex, rfl⟩
      cases hindex
      rfl

end RefreshTokenScheme

namespace RefreshSession

variable {scheme : RefreshTokenScheme} {settings : LocalAuthSettings}
  {login : LoginToken scheme} {before after : RefreshSession} {action : RefreshAction}

def Active (settings : LocalAuthSettings) (system : RefreshSession) (now : Instant) :
    Prop :=
  system.session.revokedAt = none ∧ now < system.session.expiresAt ∧
    now < system.session.lastRefreshedAt + settings.refreshLifetime ∧
      system.account.isActive = true ∧ system.account.identityActive = true

variable {now : Instant} {token : String} {memberships : Bool} {worker : ℕ}

theorem active_iff :
    before.Active settings now ↔ before.assertActive settings now = .ok () := by
  unfold Active assertActive
  rw [LocalSession.assertRowsActive_eq_ok]
  simp

theorem not_active {message : String} (hinact : before.assertActive settings now = .error message) :
    ¬ before.Active settings now := by
  rw [active_iff, hinact]
  nofun

def Accepted (before after : RefreshSession) (token : String) : Prop :=
  ∃ outcome, after.answers = ⟨token, outcome⟩ :: before.answers ∧ outcome.isAccepted = true

theorem accepted_answer {rest : RefreshSession} {token other : String}
    {outcome : RefreshOutcome} (hanswers : rest.answers = before.answers) :
    before.Accepted (rest.answer token outcome) other ↔
      token = other ∧ outcome.isAccepted = true := by
  unfold Accepted answer
  constructor
  · rintro ⟨given, hgiven, hacc⟩
    rw [hanswers] at hgiven
    cases hgiven
    exact ⟨rfl, hacc⟩
  · rintro ⟨rfl, hacc⟩
    exact ⟨outcome, congrArg _ hanswers, hacc⟩

theorem not_accepted (hanswers : after.answers = before.answers) (token : String) :
    ¬ before.Accepted after token := by
  rintro ⟨outcome, hgiven, _⟩
  exact List.cons_ne_self _ _ (hgiven.symm.trans hanswers)

@[simp] theorem tokenPair_isAccepted (memberships : Bool) (refreshToken : String)
    (expiresAt : Instant) :
    (tokenPair memberships refreshToken expiresAt).isAccepted = true := by
  unfold tokenPair
  split_ifs <;> rfl

inductive RefreshEffect (scheme : RefreshTokenScheme) (settings : LocalAuthSettings)
    (before : RefreshSession) : RefreshAction → RefreshSession → Prop
  | rejected (worker : ℕ) (token : String) (now : Instant) (memberships : Bool) (message : String)
      (hrejected : stripText token = "" ∨ ¬ before.Active settings now) :
      RefreshEffect scheme settings before (.refresh worker token now memberships)
        (before.answer (stripText token) (.invalid message))
  | rotated (worker : ℕ) (token : String) (now : Instant) (memberships : Bool)
      (hcur : before.session.refreshTokenHash = scheme.sha256 (stripText token))
      (hact : before.Active settings now) :
      RefreshEffect scheme settings before (.refresh worker token now memberships)
        ((before.rotate scheme settings (stripText token) now).answer (stripText token)
          (tokenPair memberships (scheme.hmac (stripText token)) (now + settings.refreshLifetime)))
  | missed (worker : ℕ) (token : String) (now : Instant) (memberships : Bool)
      (hother : before.session.refreshTokenHash ≠ scheme.sha256 (stripText token)) :
      RefreshEffect scheme settings before (.refresh worker token now memberships)
        { before with
          refreshes := (worker, ⟨stripText token, now⟩) :: before.refreshes }
  | unrecovered (worker : ℕ) (memberships : Bool) (request : RefreshRequest)
      (refreshes : List (ℕ × RefreshRequest)) (message : String)
      (hfound : before.refreshOf worker = some request)
      (hrejected : ¬ (before.session.refreshTokenHash = scheme.sha256 (scheme.hmac request.token) ∧
        before.inGrace request.now = true ∧ before.Active settings request.now)) :
      RefreshEffect scheme settings before (.recover worker memberships)
        (answer { before with refreshes } request.token (.invalid message))
  | recovered (worker : ℕ) (memberships : Bool) (request : RefreshRequest)
      (refreshes : List (ℕ × RefreshRequest))
      (hfound : before.refreshOf worker = some request)
      (hbefore : before.session.refreshTokenHash = scheme.sha256 (scheme.hmac request.token))
      (hgrace : before.inGrace request.now = true)
      (hact : before.Active settings request.now) :
      RefreshEffect scheme settings before (.recover worker memberships)
        (answer { before with refreshes } request.token
          (tokenPair memberships (scheme.hmac request.token) before.session.expiresAt))
  | other (action : RefreshAction) (after : RefreshSession)
      (hrefresh : ∀ worker token now memberships, action ≠ .refresh worker token now memberships)
      (hrecover : ∀ worker memberships, action ≠ .recover worker memberships)
      (hanswers : after.answers = before.answers) (htokens : after.tokens = before.tokens)
      (hhash : after.session.refreshTokenHash = before.session.refreshTokenHash)
      (hrevoked : before.session.revokedAt ≠ none → after.session.revokedAt ≠ none) :
      RefreshEffect scheme settings before action after

theorem step_refreshEffect (hstep : before.step scheme settings action = some after) :
    RefreshEffect scheme settings before action after := by
  cases action with
  | refresh worker token now memberships =>
    simp only [step] at hstep
    split_ifs at hstep with hpend hblank hcur
    · cases hstep
      exact .rejected worker token now memberships _ (.inl hblank)
    · split at hstep
      next message hinact =>
        cases hstep
        exact .rejected worker token now memberships _ (.inr (not_active hinact))
      next _ hact =>
        cases hstep
        exact .rotated worker token now memberships hcur (active_iff.mpr hact)
    · cases hstep
      exact .missed worker token now memberships hcur
  | recover worker memberships =>
    simp only [step, Option.bind_eq_bind, Option.bind_eq_some_iff] at hstep
    obtain ⟨request, hfound, hstep⟩ := hstep
    split_ifs at hstep with hbefore
    · rw [Bool.and_eq_true, decide_eq_true_eq] at hbefore
      split at hstep
      next message hinact =>
        cases hstep
        exact .unrecovered worker memberships request _ _ hfound
          fun hall => not_active hinact hall.2.2
      next _ hact =>
        cases hstep
        exact .recovered worker memberships request _ hfound hbefore.1 hbefore.2
          (active_iff.mpr hact)
    · rw [Bool.and_eq_true, decide_eq_true_eq] at hbefore
      cases hstep
      exact .unrecovered worker memberships request _ _ hfound
        fun hall => hbefore ⟨hall.1, hall.2.1⟩
  | logout worker token now =>
    simp only [step] at hstep
    split_ifs at hstep
    · cases hstep
      exact .other _ _ nofun nofun rfl rfl rfl id
    · cases hstep
      exact .other _ _ nofun nofun rfl rfl rfl fun _ => LocalSession.revoke_revokedAt
    · cases hstep
      exact .other _ _ nofun nofun rfl rfl rfl id
  | recoverLogout worker =>
    simp only [step, Option.bind_eq_bind, Option.bind_eq_some_iff] at hstep
    obtain ⟨request, _, hstep⟩ := hstep
    split_ifs at hstep
    · cases hstep
      exact .other _ _ nofun nofun rfl rfl rfl fun _ => LocalSession.revoke_revokedAt
    · cases hstep
      exact .other _ _ nofun nofun rfl rfl rfl id
  | abort worker =>
    cases hstep
    exact .other _ _ nofun nofun rfl rfl rfl id
  | revoke now =>
    cases hstep
    exact .other _ _ nofun nofun rfl rfl rfl fun _ => LocalSession.revoke_revokedAt
  | setAccount account =>
    cases hstep
    exact .other _ _ nofun nofun rfl rfl rfl id

/-! ## Rotations -/

/-- The tokens of a session after a number of rotations. -/
structure Rotated (login : LoginToken scheme) (rotations : ℕ) (system : RefreshSession) :
    Prop where
  tokens : system.tokens = scheme.lineage login.token rotations
  hash : system.session.refreshTokenHash = scheme.sha256 (scheme.hmac^[rotations] login.token)
  granted : ∀ answer ∈ system.answers, ∀ refreshToken expiresAt,
    answer.outcome = .granted refreshToken expiresAt → refreshToken = scheme.hmac answer.token

theorem Rotated.initial (account : LocalAccount) (createdAt expiresAt : Instant) :
    Rotated login 0 (.initial scheme login account createdAt expiresAt) :=
  ⟨rfl, rfl, nofun⟩

variable {rotations : ℕ}

theorem Rotated.answered (hrotated : before.Rotated login rotations) {outcome : RefreshOutcome}
    (hout : ∀ refreshToken expiresAt, outcome = .granted refreshToken expiresAt →
      refreshToken = scheme.hmac token) :
    ∀ answer ∈ (⟨token, outcome⟩ :: before.answers : List RefreshAnswer),
      ∀ refreshToken expiresAt, answer.outcome = .granted refreshToken expiresAt →
        refreshToken = scheme.hmac answer.token :=
  List.forall_mem_cons.mpr ⟨hout, hrotated.granted⟩

theorem tokenPair_granted {refreshToken token : String} {expiresAt otherExpiresAt : Instant}
    (hgranted : tokenPair memberships refreshToken expiresAt =
      .granted token otherExpiresAt) : token = refreshToken := by
  unfold tokenPair at hgranted
  split_ifs at hgranted
  cases hgranted
  rfl

theorem Rotated.step (hrotated : before.Rotated login rotations)
    (hstep : before.step scheme settings action = some after) :
    ∃ later, rotations ≤ later ∧ after.Rotated login later := by
  cases step_refreshEffect hstep with
  | rejected worker token now memberships message =>
    exact ⟨rotations, le_rfl, hrotated.tokens, hrotated.hash, hrotated.answered nofun⟩
  | rotated worker token now memberships hcur =>
    have htoken := scheme.sha256_injective (hrotated.hash.symm.trans hcur)
    have hnext : scheme.hmac^[rotations + 1] login.token = scheme.hmac (stripText token) := by
      rw [Function.iterate_succ_apply', htoken]
    refine ⟨rotations + 1, Nat.le_succ _, ?_, ?_, ?_⟩
    · rw [RefreshTokenScheme.lineage, hnext, ← hrotated.tokens]
      rfl
    · rw [hnext]
      rfl
    · exact hrotated.answered fun _ _ => tokenPair_granted
  | missed worker token now memberships =>
    exact ⟨rotations, le_rfl, hrotated.tokens, hrotated.hash, hrotated.granted⟩
  | unrecovered worker memberships request refreshes message =>
    exact ⟨rotations, le_rfl, hrotated.tokens, hrotated.hash, hrotated.answered nofun⟩
  | recovered worker memberships request refreshes =>
    exact ⟨rotations, le_rfl, hrotated.tokens, hrotated.hash,
      hrotated.answered fun _ _ => tokenPair_granted⟩
  | other action after hrefresh hrecover hanswers htokens hhash =>
    refine ⟨rotations, le_rfl, htokens.trans hrotated.tokens, hhash.trans hrotated.hash, ?_⟩
    rw [hanswers]
    exact hrotated.granted

theorem Rotated.run (hrotated : before.Rotated login rotations)
    (hreach : Reaches (RefreshSession.step scheme settings) (fun _ _ => True) before after) :
    ∃ later, rotations ≤ later ∧ after.Rotated login later := by
  refine hreach.invariant
    (P := fun system => ∃ later, rotations ≤ later ∧ Rotated login later system) ?_
    ⟨rotations, le_rfl, hrotated⟩
  rintro state action next ⟨later, hlater, hstate⟩ _ hstep
  obtain ⟨last, hlast, hnext⟩ := hstate.step hstep
  exact ⟨last, hlater.trans hlast, hnext⟩

theorem stays_revoked (hreach : Reaches (step scheme settings) (fun _ _ => True) before
    after) (hrevoked : before.session.revokedAt ≠ none) :
    after.session.revokedAt ≠ none := by
  refine hreach.invariant (P := fun system => system.session.revokedAt ≠ none) ?_ hrevoked
  intro state action next hstate _ hstep
  cases step_refreshEffect hstep with
  | rejected worker token now memberships message => exact hstate
  | rotated worker token now memberships => exact hstate
  | missed worker token now memberships => exact hstate
  | unrecovered worker memberships request refreshes message => exact hstate
  | recovered worker memberships request refreshes => exact hstate
  | other action after hrefresh hrecover hanswers htokens hhash hstays =>
    exact hstays hstate

theorem Rotated.accepted (hrotated : before.Rotated login rotations)
    (hstep : before.step scheme settings action = some after) (hacc : before.Accepted after token) :
    ∃ index, rotations ≤ index + 1 ∧ token = scheme.hmac^[index] login.token := by
  cases step_refreshEffect hstep with
  | rejected worker given now memberships message =>
    cases ((accepted_answer rfl).mp hacc).2
  | rotated worker given now memberships hcur =>
    obtain ⟨rfl, _⟩ := (accepted_answer rfl).mp hacc
    exact ⟨rotations, Nat.le_succ _, (scheme.sha256_injective (hrotated.hash.symm.trans hcur)).symm⟩
  | missed worker given now memberships => exact absurd hacc (not_accepted rfl _)
  | unrecovered worker memberships request refreshes message =>
    cases ((accepted_answer rfl).mp hacc).2
  | recovered worker memberships request refreshes hfound hbefore =>
    obtain ⟨rfl, _⟩ := (accepted_answer rfl).mp hacc
    obtain ⟨index, hindex, htoken⟩ := RefreshTokenScheme.sha256_replacement_iff.mp
      (hrotated.hash.symm.trans hbefore)
    exact ⟨index, hindex.le, htoken⟩
  | other action after hrefresh hrecover hanswers =>
    exact absurd hacc (not_accepted hanswers _)

theorem Rotated.current_iff (hrotated : before.Rotated login rotations) :
    before.session.refreshTokenHash = scheme.sha256 token ↔
      scheme.hmac^[rotations] login.token = token := by
  rw [hrotated.hash, scheme.sha256_injective.eq_iff]

theorem Rotated.refresh_accepted_iff (hrotated : before.Rotated login rotations)
    (hstep : before.step scheme settings (.refresh worker token now memberships) = some after) :
    before.Accepted after (stripText token) ↔
      stripText token = scheme.hmac^[rotations] login.token ∧ before.Active settings now := by
  cases step_refreshEffect hstep with
  | rejected _ _ _ _ message hrejected =>
    refine iff_of_false (fun hacc => ?_) ?_
    · cases ((accepted_answer rfl).mp hacc).2
    · rintro ⟨hcur, hact⟩
      rcases hrejected with hblank | hinact
      · exact RefreshTokenScheme.iterate_ne_empty rotations (hcur.symm.trans hblank)
      · exact hinact hact
  | rotated _ _ _ _ hcur hact =>
    exact iff_of_true ((accepted_answer rfl).mpr ⟨rfl, tokenPair_isAccepted _ _ _⟩)
      ⟨(hrotated.current_iff.mp hcur).symm, hact⟩
  | missed _ _ _ _ hother =>
    refine iff_of_false (not_accepted rfl _) ?_
    rintro ⟨hcur, _⟩
    exact hother (hrotated.current_iff.mpr hcur.symm)
  | other _ _ hrefresh => exact absurd rfl (hrefresh worker token now memberships)

theorem Rotated.recover_accepted_iff
    (hrotated : before.Rotated login rotations) {request : RefreshRequest}
    (hfound : before.refreshOf worker = some request)
    (hstep : before.step scheme settings (.recover worker memberships) = some after) :
    before.Accepted after request.token ↔
      (∃ index, rotations = index + 1 ∧
        request.token = scheme.hmac^[index] login.token) ∧
        before.inGrace request.now = true ∧ before.Active settings request.now := by
  rw [← RefreshTokenScheme.sha256_replacement_iff, ← hrotated.hash]
  cases step_refreshEffect hstep with
  | unrecovered _ _ other refreshes message hother hrejected =>
    cases hfound.symm.trans hother
    refine iff_of_false (fun hacc => ?_) hrejected
    cases ((accepted_answer rfl).mp hacc).2
  | recovered _ _ other refreshes hother hbefore hgrace hact =>
    cases hfound.symm.trans hother
    exact iff_of_true ((accepted_answer rfl).mpr ⟨rfl, tokenPair_isAccepted _ _ _⟩)
      ⟨hbefore, hgrace, hact⟩
  | other _ _ hrefresh hrecover => exact absurd rfl (hrecover worker memberships)

theorem inactive_unchanged (hinact : ¬ before.Active settings now)
    (hstep : before.step scheme settings (.refresh worker token now memberships) = some after) :
    after.session = before.session ∧ after.account = before.account := by
  cases step_refreshEffect hstep with
  | rejected => exact ⟨rfl, rfl⟩
  | rotated _ _ _ _ _ hact => exact absurd hact hinact
  | missed => exact ⟨rfl, rfl⟩
  | other _ _ hrefresh => exact absurd rfl (hrefresh worker token now memberships)

theorem recover_unchanged
    (hstep : before.step scheme settings (.recover worker memberships) = some after) :
    after.session = before.session ∧ after.account = before.account := by
  cases step_refreshEffect hstep with
  | unrecovered => exact ⟨rfl, rfl⟩
  | recovered => exact ⟨rfl, rfl⟩
  | other _ _ hrefresh hrecover => exact absurd rfl (hrecover worker memberships)

/-- The rules for a session whose tokens so far are the last one and the older ones. -/
structure RotationRules (scheme : RefreshTokenScheme) (settings : LocalAuthSettings)
    (system : RefreshSession) (current : String) (older : List String) : Prop where
  /-- The first lookup lets in the last token. -/
  current : ∀ worker token now memberships after,
    system.step scheme settings (.refresh worker token now memberships) = some after →
      (system.Accepted after (stripText token) ↔
        stripText token = current ∧ system.Active settings now)
  /-- The second lookup lets in the token before it in the grace after the last
  rotation. -/
  predecessor : ∀ worker request memberships after, system.refreshOf worker = some request →
      system.step scheme settings (.recover worker memberships) = some after →
        (system.Accepted after request.token ↔ (older.head? = some request.token ∧
            request.now ≤ system.session.lastRefreshedAt + refreshRetryGrace) ∧
              system.Active settings request.now)
  /-- One token is never answered with two. -/
  replacement : ∀ first ∈ system.answers, ∀ second ∈ system.answers,
    first.token = second.token → ∀ refreshToken expiresAt otherToken otherExpiresAt,
      first.outcome = .granted refreshToken expiresAt →
        second.outcome = .granted otherToken otherExpiresAt → refreshToken = otherToken
  /-- A token of two or more rotations ago is not let in again. -/
  retired : ∀ token ∈ older.tail, ∀ later,
    Reaches (step scheme settings) (fun _ _ => True) system later →
      ∀ action after, later.step scheme settings action = some after → ¬ later.Accepted after token
  /-- What is not active is not refreshed. -/
  inactive : ∀ worker token now memberships after, ¬ system.Active settings now →
    system.step scheme settings (.refresh worker token now memberships) = some after →
      after.session = system.session ∧ after.account = system.account
  recovery : ∀ worker memberships after,
    system.step scheme settings (.recover worker memberships) = some after →
      after.session = system.session ∧ after.account = system.account
  revoked : system.session.revokedAt ≠ none → ∀ later,
    Reaches (step scheme settings) (fun _ _ => True) system later → later.session.revokedAt ≠ none

theorem Rotated.retired (hrotated : before.Rotated login rotations)
    {index : ℕ} (hindex : index + 2 ≤ rotations) {later : RefreshSession}
    (hreach : Reaches (RefreshSession.step scheme settings) (fun _ _ => True) before later)
    (hstep : later.step scheme settings action = some after) :
    ¬ later.Accepted after (scheme.hmac^[index] login.token) := by
  intro hacc
  obtain ⟨last, hlast, hlater⟩ := hrotated.run hreach
  obtain ⟨other, hother, hsame⟩ := hlater.accepted hstep hacc
  have hequal := RefreshTokenScheme.iterate_eq_iff.mp hsame
  omega

theorem Rotated.rules (hrotated : before.Rotated login rotations) :
    ∃ current older, before.tokens = current :: older ∧
      before.RotationRules scheme settings current older := by
  have hgrace : ∀ now, before.inGrace now = true ↔
      now ≤ before.session.lastRefreshedAt + refreshRetryGrace := by
    intro now
    unfold inGrace
    rw [decide_eq_true_eq]
    constructor
    · intro hle
      linarith
    · intro hle
      linarith
  have hsame : ∀ first ∈ before.answers, ∀ second ∈ before.answers,
      first.token = second.token → ∀ refreshToken expiresAt otherToken otherExpiresAt,
        first.outcome = .granted refreshToken expiresAt →
          second.outcome = .granted otherToken otherExpiresAt → refreshToken = otherToken := by
    intro first hfirst second hsecond htoken refreshToken expiresAt otherToken
      otherExpiresAt hgranted hother
    rw [hrotated.granted first hfirst _ _ hgranted,
      hrotated.granted second hsecond _ _ hother, htoken]
  cases rotations with
  | zero =>
    refine ⟨login.token, [], hrotated.tokens, ?_⟩
    constructor
    case current =>
      exact fun _ _ _ _ _ hstep => hrotated.refresh_accepted_iff hstep
    case predecessor =>
      intro worker request memberships after hfound hstep
      rw [hrotated.recover_accepted_iff hfound hstep]
      refine iff_of_false ?_ nofun
      rintro ⟨⟨index, hindex, _⟩, _⟩
      cases hindex
    case replacement => exact hsame
    case retired => nofun
    case inactive => exact fun _ _ _ _ _ => inactive_unchanged
    case recovery => exact fun _ _ _ => recover_unchanged
    case revoked => exact fun hrevoked _ hreach => stays_revoked hreach hrevoked
  | succ rotations =>
    refine ⟨_, _, hrotated.tokens, ?_⟩
    have hhead : (scheme.lineage login.token rotations).head? =
        some (scheme.hmac^[rotations] login.token) := by
      cases rotations <;> rfl
    constructor
    case current =>
      exact fun _ _ _ _ _ hstep => hrotated.refresh_accepted_iff hstep
    case predecessor =>
      intro worker request memberships after hfound hstep
      rw [hrotated.recover_accepted_iff hfound hstep, hgrace, hhead, and_assoc]
      simp [eq_comm]
    case replacement => exact hsame
    case retired =>
      intro token htoken later hreach action after hstep
      cases rotations with
      | zero => cases htoken
      | succ rotations =>
        obtain ⟨index, hindex, rfl⟩ := RefreshTokenScheme.mem_lineage.mp htoken
        exact hrotated.retired (by omega) hreach hstep
    case inactive => exact fun _ _ _ _ _ => inactive_unchanged
    case recovery => exact fun _ _ _ => recover_unchanged
    case revoked => exact fun hrevoked _ hreach => stays_revoked hreach hrevoked

end RefreshSession

/-- In every reachable state of a session the last of its tokens and, in the grace
after the last rotation, the one before are let in, and no other one. -/
theorem refresh_rotation {scheme : RefreshTokenScheme} {settings : LocalAuthSettings}
    {login : LoginToken scheme} {account : LocalAccount} {createdAt expiresAt : Instant}
    {system : RefreshSession}
    (hreach : Reaches (RefreshSession.step scheme settings) (fun _ _ => True)
      (.initial scheme login account createdAt expiresAt) system) :
    ∃ current older, system.tokens = current :: older ∧
      system.RotationRules scheme settings current older := by
  obtain ⟨rotations, _, hrotated⟩ :=
    (RefreshSession.Rotated.initial account createdAt expiresAt).run hreach
  exact hrotated.rules

def letterScheme : RefreshTokenScheme where
  hmac := fun token => "r" ++ token
  sha256 := fun token => "h" ++ token
  hmac_injective := fun _ _ => String.append_right_inj _ |>.mp
  sha256_injective := fun _ _ => String.append_right_inj _ |>.mp
  hmac_ne_empty := fun token hempty => by
    have hletters := congrArg String.toList hempty
    rw [String.toList_append] at hletters
    cases hletters

def letterLogin : LoginToken letterScheme where
  token := "login"
  ne_empty := by decide
  fresh := fun other hequal => by
    have hletters := congrArg String.toList hequal
    unfold letterScheme at hletters
    rw [String.toList_append] at hletters
    exact absurd (List.cons.inj hletters).1 (by decide)

/-- Two refreshes with one token, of which the second finds the session rotated. -/
def doubleRefresh : List RefreshAction :=
  [.refresh 1 "login" 1000000 true, .refresh 2 " login " 2000000 true, .recover 2 true]

theorem refresh_rotation_double :
    ∃ system, runFrom (RefreshSession.step letterScheme ⟨28800, 5, 300⟩)
        (.initial letterScheme letterLogin ⟨"hash", true, true, 0, none⟩ 0
          28800000000) doubleRefresh = some system ∧
      system.answers.map RefreshAnswer.outcome =
        [.granted "rlogin" 28801000000, .granted "rlogin" 28801000000] ∧
      ∃ current older, system.tokens = current :: older ∧
        system.RotationRules letterScheme ⟨28800, 5, 300⟩ current older := by
  have hrun : ∃ system ∈ runFrom (RefreshSession.step letterScheme ⟨28800, 5, 300⟩)
      (.initial letterScheme letterLogin ⟨"hash", true, true, 0, none⟩ 0 28800000000)
      doubleRefresh, system.answers.map RefreshAnswer.outcome =
        [.granted "rlogin" 28801000000, .granted "rlogin" 28801000000] := by
    decide +kernel
  obtain ⟨system, hsystem, hanswers⟩ := hrun
  exact ⟨system, hsystem, hanswers,
    refresh_rotation (.of_runFrom (fun _ _ _ => trivial) hsystem)⟩

end Nexolab
