import TestSys.Eks.Trace
import Mathlib.Algebra.Group.Nat.Basic
import Mathlib.Data.List.Basic

/-! # The cluster DNS IP

`service_ip_cidr_to_cluster_dns_ip` derives the cluster DNS address from the
service network of the cluster's address family: for IPv6 the text before the
first `/` followed by `a`, for IPv4 (or any other family) the first three
`.`-separated segments followed by `.10`.

`serviceIpCidrToClusterDnsIp_eq_spec`: the source function computes
`clusterDnsIpSpec`, the derivation in these words, on every input, and in
particular never indexes out of bounds.  `clusterDnsIp_canonical`: on a
canonical IPv4 network `a.b.c.0/p` with `p ≤ 24` the address is the network
address plus ten, inside the network. -/
set_option autoImplicit false

namespace TestSys.Eks

open Run

/-- `str::split` with a `char` pattern: the pieces between the separators, empty
ones included. -/
def split (s : String) (sep : Char) : List String := (s.data.splitOn sep).map String.mk

/-- `[&str]::join`. -/
def join (parts : List String) (sep : String) : String := sep.intercalate parts

def serviceIpCidrToClusterDnsIp (ipFamily : Option IpFamily)
    (serviceIpv4Cidr serviceIpv6Cidr : Option String) : EksRun String := do
  let ipFamily ← context .remaining "Cluster network config missing IP family information" ipFamily
  match ipFamily with
  | .ipv6 =>
    let serviceIpv6Cidr ← context .remaining "IPv6 Cluster missing serviceIPv6CIDR information"
      serviceIpv6Cidr
    pure ((← index (split serviceIpv6Cidr '/') 0) ++ "a")
  -- If IP family is IPv4 or unknown, we fallback to deriving the cluster dns IP from service IPv4 CIDR
  | _ =>
    let serviceIpv4Cidr ← context .remaining "IPv4 Cluster missing serviceIPv4CIDR information"
      serviceIpv4Cidr
    let cidrSplit := split serviceIpv4Cidr '.'
    if cidrSplit.length ≠ 4 then
      fail ⟨.remaining, "Expected 4 components in serviceIPv4CIDR but found " ++
        toString cidrSplit.length⟩
    let cidrSplit ← setIndex cidrSplit 3 "10"
    pure (join cidrSplit ".")

def clusterDnsIp (cluster : Cluster) : EksRun String := do
  let kubernetesNetworkConfig ← context .remaining
    "DescribeCluster missing KubernetesNetworkConfig field" cluster.kubernetesNetworkConfig
  serviceIpCidrToClusterDnsIp kubernetesNetworkConfig.ipFamily
    kubernetesNetworkConfig.serviceIpv4Cidr kubernetesNetworkConfig.serviceIpv6Cidr

/-! ## The derivation, in the spec's words -/

/-- The first piece of a split is the text before the first separator. -/
theorem splitOn_head_eq_takeWhile (sep : Char) (l : List Char) :
    (l.splitOn sep)[0]? = some (l.takeWhile (· ≠ sep)) := by
  induction l with
  | nil => rfl
  | cons c rest ih =>
    simp only [List.splitOn] at ih ⊢
    rw [List.splitOnP_cons]
    by_cases h : c = sep
    · simp [h]
    · obtain ⟨first, more, hsplit⟩ : ∃ first more, rest.splitOnP (· == sep) = first :: more :=
        List.exists_cons_of_ne_nil (List.splitOnP_ne_nil _ _)
      simp_all [List.takeWhile_cons]

/-- The cluster DNS IP as the spec states it: for IPv6 the text before the first
`/` followed by `a`; for IPv4 and any other family the first three of exactly
four `.`-separated segments followed by `.10`. -/
def clusterDnsIpSpec (ipFamily : Option IpFamily)
    (serviceIpv4Cidr serviceIpv6Cidr : Option String) :
    Except ProviderError String :=
  match ipFamily with
  | none => .error ⟨.remaining, "Cluster network config missing IP family information"⟩
  | some .ipv6 =>
    match serviceIpv6Cidr with
    | none => .error ⟨.remaining, "IPv6 Cluster missing serviceIPv6CIDR information"⟩
    | some cidr => .ok (String.mk (cidr.data.takeWhile (· ≠ '/')) ++ "a")
  | some _ =>
    match serviceIpv4Cidr with
    | none => .error ⟨.remaining, "IPv4 Cluster missing serviceIPv4CIDR information"⟩
    | some cidr =>
      match split cidr '.' with
      | [a, b, c, _] => .ok (a ++ "." ++ b ++ "." ++ c ++ ".10")
      | segments => .error ⟨.remaining,
          "Expected 4 components in serviceIPv4CIDR but found " ++ toString segments.length⟩

private theorem ipv4_eq_spec (cidr : String) (log : Log) :
    (do
      let cidrSplit := split cidr '.'
      if cidrSplit.length ≠ 4 then
        fail ⟨.remaining, "Expected 4 components in serviceIPv4CIDR but found " ++
          toString cidrSplit.length⟩
      let cidrSplit ← setIndex cidrSplit 3 "10"
      pure (join cidrSplit ".") : EksRun String) log =
    (.ofExcept (match split cidr '.' with
      | [a, b, c, _] => .ok (a ++ "." ++ b ++ "." ++ c ++ ".10")
      | segments => .error ⟨.remaining,
          "Expected 4 components in serviceIPv4CIDR but found " ++ toString segments.length⟩), log) := by
  rcases h : split cidr '.' with _ | ⟨a, _ | ⟨b, _ | ⟨c, _ | ⟨d, _ | ⟨e, rest⟩⟩⟩⟩⟩ <;>
    simp [setIndex, join, String.intercalate, String.intercalate.go, String.append_assoc,
      Outcome.ofExcept]

theorem serviceIpCidrToClusterDnsIp_eq_spec (ipFamily : Option IpFamily)
    (serviceIpv4Cidr serviceIpv6Cidr : Option String) (log : Log) :
    serviceIpCidrToClusterDnsIp ipFamily serviceIpv4Cidr serviceIpv6Cidr log =
      (.ofExcept (clusterDnsIpSpec ipFamily serviceIpv4Cidr serviceIpv6Cidr), log) := by
  rcases ipFamily with _ | _ | _ | family
  · rfl
  · cases serviceIpv4Cidr with
    | none => rfl
    | some cidr => exact ipv4_eq_spec cidr log
  · cases serviceIpv6Cidr with
    | none => rfl
    | some cidr =>
      simp [serviceIpCidrToClusterDnsIp, clusterDnsIpSpec, index, split, List.getElem?_map,
        splitOn_head_eq_takeWhile, Outcome.ofExcept]
  · cases serviceIpv4Cidr with
    | none => rfl
    | some cidr => exact ipv4_eq_spec cidr log

/-- Deriving the address makes no call, and fails `Remaining`. -/
theorem clusterDnsIp_does {P : Call → Prop} (cluster : Cluster) :
    Does P (·.resources = .remaining) (clusterDnsIp cluster) := by
  refine does_context_bind rfl fun config _ =>
    ⟨fun log => ⟨[], by simp [serviceIpCidrToClusterDnsIp_eq_spec], by simp⟩, fun log e failed => ?_⟩
  simp only [serviceIpCidrToClusterDnsIp_eq_spec, clusterDnsIpSpec] at failed
  repeat' split at failed
  all_goals first | cases failed; rfl | cases failed

/-! ## Canonical IPv4 networks -/

theorem mem_toDigitsCore_ten (fuel n : Nat) (ds : List Char) :
    ∀ ch ∈ Nat.toDigitsCore 10 fuel n ds, ch ∈ ds ∨ ∃ d < 10, ch = Nat.digitChar d := by
  induction fuel generalizing n ds with
  | zero => intro ch h; exact .inl h
  | succ fuel ih =>
    intro ch h
    have digit : ∃ d < 10, Nat.digitChar (n % 10) = Nat.digitChar d :=
      ⟨n % 10, Nat.mod_lt _ (by omega), rfl⟩
    change ch ∈ if n / 10 = 0 then Nat.digitChar (n % 10) :: ds
      else Nat.toDigitsCore 10 fuel (n / 10) (Nat.digitChar (n % 10) :: ds) at h
    split at h
    · rcases List.mem_cons.mp h with rfl | h
      exacts [.inr digit, .inl h]
    · rcases ih _ _ ch h with h | h
      · rcases List.mem_cons.mp h with rfl | h
        exacts [.inr digit, .inl h]
      · exact .inr h

theorem dot_not_mem_toString (n : Nat) : '.' ∉ (toString n).data := by
  intro h
  rcases mem_toDigitsCore_ten (n + 1) n [] '.' h with h | ⟨d, hd, heq⟩
  · simp at h
  · revert heq; revert d; decide

/-- The 32-bit value of the address `a.b.c.d`. -/
def ipv4Address (a b c d : Nat) : Nat := ((a * 256 + b) * 256 + c) * 256 + d

/-- The first address of the network of `address/p`. -/
def networkAddress (address p : Nat) : Nat := address - address % 2 ^ (32 - p)

/-- The CIDR text `a.b.c.0/p`. -/
def ipv4Cidr (a b c p : Nat) : String :=
  toString a ++ "." ++ toString b ++ "." ++ toString c ++ ".0/" ++ toString p

theorem split_ipv4Cidr (a b c p : Nat) :
    split (ipv4Cidr a b c p) '.' = [toString a, toString b, toString c, "0/" ++ toString p] := by
  have hdata : (ipv4Cidr a b c p).data =
      ['.'].intercalate
        [(toString a).data, (toString b).data, (toString c).data, '0' :: '/' :: (toString p).data] := by
    simp [ipv4Cidr, List.intercalate]
  simp only [split, hdata]
  rw [List.splitOn_intercalate]
  · rfl
  · simp [dot_not_mem_toString]
  · simp

theorem serviceIpCidrToClusterDnsIp_canonical (family : IpFamily) (a b c p : Nat)
    (serviceIpv6Cidr : Option String) (log : Log) (notIpv6 : family ≠ .ipv6) (short : p ≤ 24)
    (canonical : ipv4Address a b c 0 % 2 ^ (32 - p) = 0) :
    serviceIpCidrToClusterDnsIp (some family) (some (ipv4Cidr a b c p)) serviceIpv6Cidr log =
      (.ok (toString a ++ "." ++ toString b ++ "." ++ toString c ++ ".10"), log) ∧
    ipv4Address a b c 10 = networkAddress (ipv4Address a b c 0) p + 10 ∧
    ipv4Address a b c 10 < networkAddress (ipv4Address a b c 0) p + 2 ^ (32 - p) := by
  have hostBits : 2 ^ 8 ≤ 2 ^ (32 - p) := Nat.pow_le_pow_right (by omega) (by omega)
  refine ⟨?_, ?_, ?_⟩
  · rw [serviceIpCidrToClusterDnsIp_eq_spec]
    cases family <;> simp_all [clusterDnsIpSpec, split_ipv4Cidr, Outcome.ofExcept]
  all_goals simp only [networkAddress, canonical, ipv4Address] at *; omega

/-- The derivation of the cluster DNS IP: on every input the source computes
`clusterDnsIpSpec`, never indexing out of bounds, and on a canonical IPv4
network the address is the network's tenth. -/
theorem serviceIpCidrToClusterDnsIp_derivation :
    (∀ ipFamily serviceIpv4Cidr serviceIpv6Cidr (log : Log),
      serviceIpCidrToClusterDnsIp ipFamily serviceIpv4Cidr serviceIpv6Cidr log =
        (.ofExcept (clusterDnsIpSpec ipFamily serviceIpv4Cidr serviceIpv6Cidr), log)) ∧
    (∀ (family : IpFamily) (a b c p : Nat) serviceIpv6Cidr (log : Log), family ≠ .ipv6 → p ≤ 24 →
      ipv4Address a b c 0 % 2 ^ (32 - p) = 0 →
      serviceIpCidrToClusterDnsIp (some family) (some (ipv4Cidr a b c p)) serviceIpv6Cidr log =
        (.ok (toString a ++ "." ++ toString b ++ "." ++ toString c ++ ".10"), log) ∧
      ipv4Address a b c 10 = networkAddress (ipv4Address a b c 0) p + 10 ∧
      ipv4Address a b c 10 < networkAddress (ipv4Address a b c 0) p + 2 ^ (32 - p)) :=
  ⟨serviceIpCidrToClusterDnsIp_eq_spec, fun family a b c p serviceIpv6Cidr log notIpv6 short canonical =>
    serviceIpCidrToClusterDnsIp_canonical family a b c p serviceIpv6Cidr log notIpv6 short canonical⟩

end TestSys.Eks
