import Nexolab.Ipv4Networks
import Nexolab.PythonValues

/-!
# The policy of the local discovery

`DiscoveryPolicy.resolve` decides which hosts and ports a scan may probe.  What
`ip_network` makes of a text is a parameter.
-/

namespace Nexolab

inductive IpNetwork where
  | v4 (network : Ipv4Network)
  | v6

inductive DiscoveryPolicyError where
  | disabled (message : String)
  | scopeDenied (message : String)
  | budgetExceeded (message : String)
  deriving DecidableEq

namespace Ipv4Network

variable {network other : Ipv4Network} {address : ℕ}

def text (network : Ipv4Network) : String :=
  ".".intercalate ([24, 16, 8, 0].map fun shift =>
    toString (network.networkAddress / 2 ^ shift % 256)) ++ "/" ++ toString network.prefixLength

def subnetOf (network other : Ipv4Network) : Bool :=
  other.networkAddress ≤ network.networkAddress &&
    network.broadcastAddress ≤ other.broadcastAddress

def privateRanges : List Ipv4Network :=
  [⟨10 * 2 ^ 24, 8, by decide, by decide, by decide⟩,
    ⟨172 * 2 ^ 24 + 16 * 2 ^ 16, 12, by decide, by decide, by decide⟩,
    ⟨192 * 2 ^ 24 + 168 * 2 ^ 16, 16, by decide, by decide, by decide⟩]

def isRfc1918Network (network : Ipv4Network) : Bool := privateRanges.any network.subnetOf

theorem contains_of_subnetOf (hsubnet : network.subnetOf other = true)
    (hcontains : network.contains address = true) : other.contains address = true := by
  have hpos := network.numAddresses_pos
  have hother := other.numAddresses_pos
  unfold subnetOf broadcastAddress at hsubnet
  rw [Bool.and_eq_true, decide_eq_true_eq, decide_eq_true_eq] at hsubnet
  rw [contains_iff] at hcontains ⊢
  omega

end Ipv4Network

/-- The ranges 10.0.0.0/8, 172.16.0.0/12 and 192.168.0.0/16 -/
def IsPrivate (address : ℕ) : Prop :=
  10 * 2 ^ 24 ≤ address ∧ address < 11 * 2 ^ 24 ∨
    (172 * 256 + 16) * 2 ^ 16 ≤ address ∧ address < (172 * 256 + 32) * 2 ^ 16 ∨
    (192 * 256 + 168) * 2 ^ 16 ≤ address ∧ address < (192 * 256 + 169) * 2 ^ 16

theorem isPrivate_of_contains {network : Ipv4Network} {address : ℕ}
    (hprivate : network.isRfc1918Network = true)
    (hcontains : network.contains address = true) : IsPrivate address := by
  obtain ⟨range, hrange, hsubnet⟩ := List.any_eq_true.mp hprivate
  have hinside := (range.contains_iff address).mp
    (Ipv4Network.contains_of_subnetOf hsubnet hcontains)
  simp only [Ipv4Network.privateRanges, List.mem_cons, List.not_mem_nil, or_false] at hrange
  unfold IsPrivate
  rcases hrange with rfl | rfl | rfl <;> simp [Ipv4Network.numAddresses] at hinside <;> omega

theorem addHosts_card {maxHosts : ℕ} {addresses : List ℕ} {hosts grown : Finset ℕ}
    (hadded : addHosts maxHosts addresses hosts = .ok grown) (hcard : hosts.card ≤ maxHosts) :
    grown.card ≤ maxHosts := by
  induction addresses generalizing hosts with
  | nil =>
    cases hadded
    exact hcard
  | cons first rest ih =>
    unfold addHosts at hadded
    dsimp only at hadded
    split_ifs at hadded with hlarge
    exact ih hadded (not_lt.mp hlarge)

theorem length_boundedDeduplicatedHosts {networks : List Ipv4Network} {maxHosts : ℕ}
    {addresses : List ℕ}
    (hbounded : boundedDeduplicatedHosts networks maxHosts = .ok addresses) :
    addresses.length ≤ maxHosts ∧ addresses.Nodup := by
  obtain ⟨hosts, hhosts, hsorted⟩ := bind_eq_ok.mp hbounded
  cases hsorted
  rw [Finset.length_sort]
  exact ⟨foldlM_invariant (P := fun hosts => hosts.card ≤ maxHosts)
    (fun _ _ _ hcard hadded => addHosts_card hadded hcard) hhosts (Nat.zero_le _),
    Finset.sort_nodup _ _⟩

structure ResolvedDiscoveryScope where
  networks : List Ipv4Network
  ports : List ℤ
  addresses : List ℕ
  probeBudget : ℕ

structure DiscoveryPolicy where
  allowedNetworks : List Ipv4Network
  allowedPorts : List ℤ
  (maxHosts maxPorts : ℕ)

section Policy

variable (ipNetwork : String → Option IpNetwork)

def addCidr (networks : List Ipv4Network) (token : String) :
    Except DiscoveryPolicyError (List Ipv4Network) :=
  let raw := stripText token
  if raw = "" then .ok networks
  else match ipNetwork raw with
  | none => .error (.scopeDenied ("invalid discovery CIDR: " ++ raw))
  | some .v6 => .error (.scopeDenied "only IPv4 RFC1918 discovery scopes are supported")
  | some (.v4 parsed) =>
    if !parsed.isRfc1918Network then
      .error (.scopeDenied ("discovery CIDR must be fully inside RFC1918 space: " ++ parsed.text))
    else if networks.any (·.text = parsed.text) then .ok networks
    else .ok (networks ++ [parsed])

def parsePrivateCidrs (value : String) : Except DiscoveryPolicyError (List Ipv4Network) := do
  let tokens := (value.toList.splitOn ',').map String.ofList
  let networks ← tokens.foldlM (addCidr ipNetwork) []
  return networks.insertionSort fun network other =>
    toLex (network.networkAddress, network.prefixLength) ≤
      toLex (other.networkAddress, other.prefixLength)

def DiscoveryPolicy.resolve (policy : DiscoveryPolicy) (requestedCidrs : Option (List String))
    (requestedPorts : Option (List ℤ)) : Except DiscoveryPolicyError ResolvedDiscoveryScope :=
  if policy.allowedNetworks = [] ∨ policy.allowedPorts = [] then
    .error (.disabled ("LOCAL_LAN discovery is disabled until private CIDR and port " ++
      "allowlists are configured"))
  else do
    let cidrs := requestedCidrs.getD []
    let networks ← (if cidrs = [] then .ok policy.allowedNetworks
      else parsePrivateCidrs ipNetwork (",".intercalate cidrs))
    let wanted := (requestedPorts.filter (· ≠ [])).getD policy.allowedPorts
    let ports := wanted.dedup.insertionSort (· ≤ ·)
    let denied := ports.filter (· ∉ policy.allowedPorts)
    if networks = [] ∨ ports = [] then
      throw (.scopeDenied "at least one CIDR and one TCP port are required")
    else match networks.find? fun network => !policy.allowedNetworks.any network.subnetOf with
    | some outside => throw (.scopeDenied
        ("CIDR " ++ outside.text ++ " is outside the configured LOCAL_LAN allowlist"))
    | none =>
      if denied ≠ [] then
        throw (.scopeDenied ("TCP ports are outside the configured allowlist: " ++
          ", ".intercalate (denied.map toString)))
      else if policy.maxPorts < ports.length then
        throw (.budgetExceeded ("requested " ++ toString ports.length ++ " ports exceeds max " ++
          toString policy.maxPorts))
      else
        let addresses ← (boundedDeduplicatedHosts networks policy.maxHosts).mapError .budgetExceeded
        let probeBudget := addresses.length * ports.length
        if probeBudget ≤ 0 then throw (.scopeDenied "discovery scope contains no host probes")
        else return ⟨networks, ports, addresses, probeBudget⟩

structure ResolvedDiscoveryScope.Confined (policy : DiscoveryPolicy)
    (scope : ResolvedDiscoveryScope) : Prop where
  hosts : ∀ address, address ∈ scope.addresses ↔
    ∃ network ∈ scope.networks, network.includesScannableHost address = true
  allowed : ∀ address ∈ scope.addresses, IsPrivate address ∧
    ∃ network ∈ policy.allowedNetworks, network.contains address = true
  ports : ∀ port ∈ scope.ports, port ∈ policy.allowedPorts
  distinct : scope.addresses.Nodup ∧ scope.ports.Nodup
  budget : scope.probeBudget = scope.addresses.length * scope.ports.length ∧
    0 < scope.probeBudget ∧ scope.probeBudget ≤ policy.maxHosts * policy.maxPorts

variable {ipNetwork} {policy : DiscoveryPolicy} {value : String}

theorem parsePrivateCidrs_private {networks : List Ipv4Network}
    (hparsed : parsePrivateCidrs ipNetwork value = .ok networks) :
    ∀ network ∈ networks, network.isRfc1918Network = true := by
  obtain ⟨parsed, hfold, hsorted⟩ := bind_eq_ok.mp hparsed
  cases hsorted
  intro network hnetwork
  refine foldlM_invariant
    (P := fun parsed => ∀ network ∈ parsed, network.isRfc1918Network = true)
    ?_ hfold nofun network ((List.mem_insertionSort _).mp hnetwork)
  intro before token after hbefore hadded
  unfold addCidr at hadded
  grind

theorem allowed_of_scannable {network : Ipv4Network} {address : ℕ}
    (hsettings : parsePrivateCidrs ipNetwork value = .ok policy.allowedNetworks)
    (hinside : ∃ allowed ∈ policy.allowedNetworks, network.subnetOf allowed = true)
    (hscannable : network.includesScannableHost address = true) :
    IsPrivate address ∧ ∃ allowed ∈ policy.allowedNetworks, allowed.contains address = true := by
  obtain ⟨allowed, hallowed, hsubnet⟩ := hinside
  have hcontains : network.contains address = true := by
    unfold Ipv4Network.includesScannableHost at hscannable
    grind
  have hinAllowed := Ipv4Network.contains_of_subnetOf hsubnet hcontains
  have hprivate := parsePrivateCidrs_private hsettings allowed hallowed
  exact ⟨isPrivate_of_contains hprivate hinAllowed, allowed, hallowed, hinAllowed⟩

/-- With the networks of the settings a resolved scope probes each host of its networks,
and nothing outside the private ranges, the allowed networks and ports and the budget. -/
theorem resolve_confined {requestedCidrs : Option (List String)}
    {requestedPorts : Option (List ℤ)} {scope : ResolvedDiscoveryScope}
    (hsettings : parsePrivateCidrs ipNetwork value = .ok policy.allowedNetworks)
    (hresolve : policy.resolve ipNetwork requestedCidrs requestedPorts = .ok scope) :
    scope.Confined policy := by
  unfold DiscoveryPolicy.resolve at hresolve
  split at hresolve
  next => cases hresolve
  obtain ⟨networks, _, hresolve⟩ := bind_eq_ok.mp hresolve
  dsimp only at hresolve
  split at hresolve
  next => cases hresolve
  split at hresolve
  next => cases hresolve
  next hinside =>
    split_ifs at hresolve with hdenied hports
    obtain ⟨addresses, hmapped, hresolve⟩ := bind_eq_ok.mp hresolve
    have hhosts : boundedDeduplicatedHosts networks policy.maxHosts = .ok addresses := by
      cases hcase : boundedDeduplicatedHosts networks policy.maxHosts <;>
        simp_all [Except.mapError]
    split_ifs at hresolve with hempty
    cases hresolve
    obtain ⟨hlength, hnodup⟩ := length_boundedDeduplicatedHosts hhosts
    have hmem := mem_boundedDeduplicatedHosts hhosts
    refine ⟨hmem, ?_, ?_, ⟨hnodup, ?_⟩, rfl, not_le.mp hempty,
      Nat.mul_le_mul hlength (not_lt.mp hports)⟩
    · intro address haddress
      obtain ⟨network, hnetwork, hscannable⟩ := (hmem address).mp haddress
      exact allowed_of_scannable hsettings
        (by simpa using List.find?_eq_none.mp hinside network hnetwork) hscannable
    · intro port hport
      by_contra hdeniedPort
      exact hdenied (List.ne_nil_of_mem (List.mem_filter.mpr ⟨hport, by simpa using hdeniedPort⟩))
    · exact (List.perm_insertionSort _ _).nodup_iff.mpr (List.nodup_dedup _)

def hostNetwork : Ipv4Network := ⟨3232248583, 32, by decide, by decide, by decide⟩

def hostCidr (raw : String) : Option IpNetwork :=
  if raw = "192.168.51.7" then some (.v4 hostNetwork) else none

theorem resolve_confined_host :
    let policy : DiscoveryPolicy := ⟨[hostNetwork], [443, 80], 16, 4⟩
    ∃ scope, policy.resolve hostCidr none (some [80]) = .ok scope ∧
      scope.Confined policy := by
  intro policy
  have hsettings : parsePrivateCidrs hostCidr " 192.168.51.7 ,," =
      .ok [hostNetwork] := by
    decide +kernel
  have hhosts : boundedDeduplicatedHosts [hostNetwork] 16 = .ok [3232248583] := by
    simp [boundedDeduplicatedHosts, hostNetwork, Ipv4Network.hosts, addHosts, bind,
      Except.bind, pure, Except.pure]
  have hinside : hostNetwork.subnetOf hostNetwork = true := by decide
  have hresolve : policy.resolve hostCidr none (some [80]) =
      .ok ⟨[hostNetwork], [80], [3232248583], 1⟩ := by
    simp [DiscoveryPolicy.resolve, policy, hhosts, hinside, Option.filter, bind, Except.bind,
      Except.mapError, pure, Except.pure]
  exact ⟨_, hresolve, resolve_confined hsettings hresolve⟩

end Policy

end Nexolab
