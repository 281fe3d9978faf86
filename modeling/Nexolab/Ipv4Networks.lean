import Mathlib.Data.Finset.Sort
import Nexolab.FallibleList

/-!
# Scannable hosts of IPv4 networks

The networks of a discovery scope, the hosts a scan of them probes and the
test whether an address is one of these hosts.
-/

namespace Nexolab

/-- An `IPv4Network`: its address is a multiple of its size. -/
structure Ipv4Network where
  (networkAddress prefixLength : ℕ)
  prefixLength_le : prefixLength ≤ 32
  aligned : 2 ^ (32 - prefixLength) ∣ networkAddress
  networkAddress_lt : networkAddress < 2 ^ 32
  deriving DecidableEq

namespace Ipv4Network

def numAddresses (network : Ipv4Network) : ℕ :=
  2 ^ (32 - network.prefixLength)

def broadcastAddress (network : Ipv4Network) : ℕ :=
  network.networkAddress + network.numAddresses - 1

def contains (network : Ipv4Network) (address : ℕ) : Bool :=
  address / network.numAddresses * network.numAddresses = network.networkAddress

def hosts (network : Ipv4Network) : List ℕ :=
  if network.prefixLength = 32 then [network.networkAddress]
  else if network.prefixLength = 31 then
    List.range' network.networkAddress network.numAddresses
  else
    List.range' (network.networkAddress + 1) (network.numAddresses - 2)

def includesScannableHost (network : Ipv4Network) (address : ℕ) : Bool :=
  if !network.contains address then false
  else if 31 ≤ network.prefixLength then true
  else address ≠ network.networkAddress && address ≠ network.broadcastAddress

theorem numAddresses_pos (network : Ipv4Network) : 0 < network.numAddresses :=
  Nat.two_pow_pos _

theorem contains_iff (network : Ipv4Network) (address : ℕ) :
    network.contains address = true ↔ network.networkAddress ≤ address ∧
        address < network.networkAddress + network.numAddresses := by
  have hpos := network.numAddresses_pos
  obtain ⟨block, hblock⟩ : network.numAddresses ∣ network.networkAddress :=
    network.aligned
  have hmod := Nat.mod_lt address hpos
  have hdiv := Nat.div_add_mod address network.numAddresses
  unfold contains
  rw [decide_eq_true_eq]
  constructor
  · intro hmasked
    rw [mul_comm] at hmasked
    omega
  · intro hrange
    have hquotient : address / network.numAddresses = block := by
      apply Nat.div_eq_of_lt_le
      · rw [mul_comm, ← hblock]
        exact hrange.1
      · rw [mul_comm, mul_add, mul_one, ← hblock]
        exact hrange.2
    rw [hquotient, hblock, mul_comm]

theorem mem_hosts_iff (network : Ipv4Network) (address : ℕ) :
    address ∈ network.hosts ↔ network.includesScannableHost address = true := by
  have hpos := network.numAddresses_pos
  have hcontains := network.contains_iff address
  have hle := network.prefixLength_le
  unfold hosts includesScannableHost broadcastAddress
  by_cases hcontained : network.contains address = true
  · have hrange := hcontains.mp hcontained
    by_cases hsingle : network.prefixLength = 32
    · have hsize : network.numAddresses = 1 := by
        unfold numAddresses
        rw [hsingle]
        rfl
      simp only [hsingle, if_true, List.mem_singleton, hcontained]
      simp
      omega
    · by_cases hpair : network.prefixLength = 31
      · simp [hpair, hcontained, hrange]
      · have hwide : ¬ 31 ≤ network.prefixLength := by omega
        simp only [hsingle, hpair, hwide, if_false, hcontained,
          Bool.not_true, Bool.false_eq_true, List.mem_range'_1,
          Bool.and_eq_true, decide_eq_true_eq, ne_eq]
        omega
  · have hoff : ¬ (network.networkAddress ≤ address ∧
        address < network.networkAddress + network.numAddresses) :=
      fun hrange => hcontained (hcontains.mpr hrange)
    simp only [hcontained, Bool.not_false, if_true, Bool.false_eq_true, iff_false]
    split
    next hsingle =>
      rw [List.mem_singleton]
      omega
    next =>
      split
      next => simpa [List.mem_range'_1] using hoff
      next =>
        rw [List.mem_range'_1]
        intro hinside
        exact hoff ⟨by omega, by omega⟩

end Ipv4Network

/-! ## The hosts of a scope -/

/-- The loop over the hosts of one network: the set may not outgrow the
budget. -/
def addHosts (maxHosts : ℕ) : List ℕ → Finset ℕ → Except String (Finset ℕ)
  | [], hosts => .ok hosts
  | address :: rest, hosts =>
    let grown := insert address hosts
    if maxHosts < grown.card then
      .error ("requested discovery scope exceeds max " ++ toString maxHosts ++
        " hosts")
    else addHosts maxHosts rest grown

def boundedDeduplicatedHosts (networks : List Ipv4Network) (maxHosts : ℕ) :
    Except String (List ℕ) := do
  let hosts ← networks.foldlM (fun hosts network => addHosts maxHosts network.hosts hosts) ∅
  .ok (hosts.sort (· ≤ ·))

theorem mem_addHosts {maxHosts : ℕ} {addresses : List ℕ} {hosts grown : Finset ℕ}
    (hadded : addHosts maxHosts addresses hosts = .ok grown) (address : ℕ) :
    address ∈ grown ↔ address ∈ hosts ∨ address ∈ addresses := by
  induction addresses generalizing hosts with
  | nil =>
    cases hadded
    simp
  | cons first rest ih =>
    unfold addHosts at hadded
    dsimp only at hadded
    split at hadded
    next => cases hadded
    next =>
      rw [ih hadded, Finset.mem_insert, List.mem_cons]
      tauto

theorem mem_foldlM_addHosts {maxHosts : ℕ} {networks : List Ipv4Network} {hosts grown : Finset ℕ}
    (hadded : networks.foldlM (fun hosts network => addHosts maxHosts network.hosts hosts) hosts =
        .ok grown) (address : ℕ) :
    address ∈ grown ↔ address ∈ hosts ∨ ∃ network ∈ networks, address ∈ network.hosts := by
  induction networks generalizing hosts with
  | nil =>
    cases hadded
    simp
  | cons network rest ih =>
    rw [List.foldlM_cons, bind_eq_ok] at hadded
    obtain ⟨middle, hmiddle, hrest⟩ := hadded
    rw [ih hrest, mem_addHosts hmiddle, List.exists_mem_cons_iff]
    tauto

theorem mem_boundedDeduplicatedHosts {networks : List Ipv4Network}
    {maxHosts : ℕ} {addresses : List ℕ}
    (hbounded : boundedDeduplicatedHosts networks maxHosts = .ok addresses) (address : ℕ) :
    address ∈ addresses ↔ ∃ network ∈ networks, network.includesScannableHost address = true := by
  unfold boundedDeduplicatedHosts at hbounded
  rw [bind_eq_ok] at hbounded
  obtain ⟨hosts, hhosts, hsorted⟩ := hbounded
  cases hsorted
  rw [Finset.mem_sort, mem_foldlM_addHosts hhosts]
  simp [Ipv4Network.mem_hosts_iff]

end Nexolab
