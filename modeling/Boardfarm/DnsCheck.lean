import Boardfarm.Python

/-!
# The WAN device's DNS check

`_validate_dns_env_request` resolves `acs_server.boardfarm.com`, pings each returned address once,
tallies the answers per IP version in `ping_status`, and compares each tally with the count the
request expects, where the request names one. It raises `ContingencyCheckError` exactly when some
version and status the request names has a different count, and returns otherwise
(`validateDnsEnvRequest_raises_iff`). The text it raises is the same whatever the counts: the last
two parts of its message are plain strings, not f-strings (`dnsCheckMessage`).

The resolver's parser, the address regex and the pings belong to the device: the model takes the
parser's `domain_ip_addr` entry, `re.match(AllValidIpv6AddressesRegex, ip)` as `isIpv6`, the
answer of the `i`-th ping as `ping i ip`, and Python's `!=` between an expected count and a tally
as `differs`.
-/

namespace Boardfarm

/-- The text of the `ContingencyCheckError` for a version and status. -/
def dnsCheckMessage (ipVersion status : String) : String :=
  "DNS check failed for " ++ ipVersion ++ " " ++ status ++ " servers " ++
    "- requested: \x7bacs_server_config[ip_version][status]\x7d, " ++ "actual: \x7bvalue\x7d"

/-- `ping_status` holding the tallies `a`, `b`, `c`, `d`. -/
def pingStatus (a b c d : Nat) : List (String × List (String × Nat)) :=
  [("ipv4", [("reachable", a), ("unreachable", b)]),
    ("ipv6", [("reachable", c), ("unreachable", d)])]

/-- `ping_status[v][s] += 1`. -/
def bumpStatus (ps : List (String × List (String × Nat))) (v s : String) :
    List (String × List (String × Nat)) :=
  ps.map fun e => if e.1 = v then (e.1, e.2.map fun c => if c.1 = s then (c.1, c.2 + 1) else c)
    else e

section Validate

variable {β : Type} (differs : β → Nat → Bool) (isIpv6 : String → Bool)
  (ping : Nat → String → Bool)

/-- The version the address regex gives an address. -/
def ipVersionOf (ip : String) : String := if isIpv6 ip then "ipv6" else "ipv4"

/-- The status a ping's answer is tallied under. -/
def pingStatusOf (up : Bool) : String := if up then "reachable" else "unreachable"

/-- The tally loop from the `i`-th address on: the addresses pinged, in order, and the tallies. -/
def tallyPings : Nat → List (String × List (String × Nat)) → List String →
    List String × List (String × List (String × Nat))
  | _, ps, [] => ([], ps)
  | i, ps, ip :: rest =>
    let r := tallyPings (i + 1)
      (bumpStatus ps (ipVersionOf isIpv6 ip) (pingStatusOf (ping i ip))) rest
    (ip :: r.1, r.2)

/-- The inner comparison loop, over the statuses of one version. -/
def checkStatuses (ipVersion : String) (expected : List (String × β)) :
    List (String × Nat) → Except PyError Unit
  | [] => .ok ()
  | (status, value) :: rest =>
    match expected.lookup status with
    | none => checkStatuses ipVersion expected rest
    | some want =>
      if differs want value then .error (.contingencyCheckError (dnsCheckMessage ipVersion status))
      else checkStatuses ipVersion expected rest

/-- The outer comparison loop, over `ping_status.items()`. -/
def checkVersions (acsServerConfig : List (String × List (String × β))) :
    List (String × List (String × Nat)) → Except PyError Unit
  | [] => .ok ()
  | (ipVersion, item) :: rest =>
    match acsServerConfig.lookup ipVersion with
    | none => checkVersions acsServerConfig rest
    | some expected =>
      match checkStatuses differs ipVersion expected item with
      | .error e => .error e
      | .ok () => checkVersions acsServerConfig rest

/-- `_validate_dns_env_request(acs_server_config)`, given the parser's `domain_ip_addr` entry:
the addresses pinged, in order, and how the call ends. -/
def validateDnsEnvRequest (domainIpAddr : Option (List String))
    (acsServerConfig : List (String × List (String × β))) : List String × Except PyError Unit :=
  let r := tallyPings isIpv6 ping 0 (pingStatus 0 0 0 0) (domainIpAddr.getD [])
  (r.1, checkVersions differs acsServerConfig r.2)

/-- How many of the addresses from the `i`-th on, the `j`-th pinged as call `j`, are of version `v`
and answered with status `s`. -/
def pingCountFrom (i : Nat) (addrs : List String) (v s : String) : Nat :=
  ((addrs.enumFrom i).filter fun p =>
    ipVersionOf isIpv6 p.2 = v && pingStatusOf (ping p.1 p.2) = s).length

theorem tallyPings_pinged (i : Nat) (ps : List (String × List (String × Nat))) (addrs : List String) :
    (tallyPings isIpv6 ping i ps addrs).1 = addrs := by
  induction addrs generalizing i ps with
  | nil => rfl
  | cons ip rest ih => simp [tallyPings, ih]

theorem bumpStatus_pingStatus (a b c d : Nat) (v6 up : Bool) :
    bumpStatus (pingStatus a b c d) (if v6 then "ipv6" else "ipv4")
        (if up then "reachable" else "unreachable") =
      pingStatus (a + if !v6 && up then 1 else 0) (b + if !v6 && !up then 1 else 0)
        (c + if v6 && up then 1 else 0) (d + if v6 && !up then 1 else 0) := by
  cases v6 <;> cases up <;> rfl

theorem pingCountFrom_cons (i : Nat) (ip : String) (rest : List String) (v s : String) :
    pingCountFrom isIpv6 ping i (ip :: rest) v s =
      (if ipVersionOf isIpv6 ip = v ∧ pingStatusOf (ping i ip) = s then 1 else 0) +
        pingCountFrom isIpv6 ping (i + 1) rest v s := by
  simp only [pingCountFrom, List.enumFrom_cons, List.filter_cons, Bool.and_eq_true,
    decide_eq_true_eq]
  by_cases h : ipVersionOf isIpv6 ip = v ∧ pingStatusOf (ping i ip) = s <;> simp [h]
  omega

theorem tallyPings_counts (i : Nat) (a b c d : Nat) (addrs : List String) :
    (tallyPings isIpv6 ping i (pingStatus a b c d) addrs).2 =
      pingStatus (a + pingCountFrom isIpv6 ping i addrs "ipv4" "reachable")
        (b + pingCountFrom isIpv6 ping i addrs "ipv4" "unreachable")
        (c + pingCountFrom isIpv6 ping i addrs "ipv6" "reachable")
        (d + pingCountFrom isIpv6 ping i addrs "ipv6" "unreachable") := by
  induction addrs generalizing i a b c d with
  | nil => rfl
  | cons ip rest ih =>
    simp only [tallyPings, ipVersionOf, pingStatusOf, bumpStatus_pingStatus, ih, pingCountFrom_cons]
    rcases Bool.eq_false_or_eq_true (isIpv6 ip) with h6 | h6 <;>
      rcases Bool.eq_false_or_eq_true (ping i ip) with hp | hp <;> simp [h6, hp] <;> congr 1 <;> omega

theorem checkStatuses_ok_or (v : String) (expected : List (String × β)) :
    ∀ item, checkStatuses differs v expected item = .ok () ∨
      ∃ s, checkStatuses differs v expected item = .error (.contingencyCheckError (dnsCheckMessage v s))
  | [] => .inl rfl
  | (s, value) :: rest => by
    simp only [checkStatuses]
    split
    · exact checkStatuses_ok_or v expected rest
    · split
      · exact .inr ⟨s, rfl⟩
      · exact checkStatuses_ok_or v expected rest

theorem checkStatuses_ne_ok_iff (v : String) (expected : List (String × β)) :
    ∀ item, checkStatuses differs v expected item ≠ .ok () ↔
      ∃ p ∈ item, ∃ want, expected.lookup p.1 = some want ∧ differs want p.2 = true
  | [] => by simp [checkStatuses]
  | (s, value) :: rest => by
    rw [List.exists_mem_cons_iff, ← checkStatuses_ne_ok_iff v expected rest]
    simp only [checkStatuses]
    split
    · rename_i hs
      simp [hs]
    · rename_i want hs
      split
      · rename_i hd
        exact iff_of_true (by simp) (.inl ⟨want, hs, hd⟩)
      · rename_i hd
        simp [hs, hd]

theorem checkVersions_ok_or (acsServerConfig : List (String × List (String × β))) :
    ∀ ps, checkVersions differs acsServerConfig ps = .ok () ∨
      ∃ msg, checkVersions differs acsServerConfig ps = .error (.contingencyCheckError msg)
  | [] => .inl rfl
  | (v, item) :: rest => by
    simp only [checkVersions]
    split
    · exact checkVersions_ok_or acsServerConfig rest
    · rename_i expected _
      rcases checkStatuses_ok_or differs v expected item with h | ⟨s, h⟩ <;> rw [h]
      · exact checkVersions_ok_or acsServerConfig rest
      · exact .inr ⟨_, rfl⟩

theorem checkVersions_ne_ok_iff (acsServerConfig : List (String × List (String × β))) :
    ∀ ps, checkVersions differs acsServerConfig ps ≠ .ok () ↔
      ∃ q ∈ ps, ∃ expected, acsServerConfig.lookup q.1 = some expected ∧
        ∃ p ∈ q.2, ∃ want, expected.lookup p.1 = some want ∧ differs want p.2 = true
  | [] => by simp [checkVersions]
  | (v, item) :: rest => by
    rw [List.exists_mem_cons_iff, ← checkVersions_ne_ok_iff acsServerConfig rest]
    simp only [checkVersions]
    split
    · rename_i hv
      simp [hv]
    · rename_i expected hv
      simp only [hv, Option.some.injEq, exists_eq_left']
      rw [← checkStatuses_ne_ok_iff differs v expected item]
      rcases checkStatuses_ok_or differs v expected item with h | ⟨s, h⟩ <;> rw [h]
      · simp
      · exact iff_of_true (by simp) (.inl (by simp))

/-- `_validate_dns_env_request` pings each returned address once, in order, and raises
`ContingencyCheckError` exactly when a version and status the request names expect a count that
differs from the number of addresses of that version answering with that status; otherwise it
returns. -/
theorem validateDnsEnvRequest_raises_iff (addrs : List String)
    (acsServerConfig : List (String × List (String × β))) :
    (validateDnsEnvRequest differs isIpv6 ping (some addrs) acsServerConfig).1 = addrs ∧
    ((validateDnsEnvRequest differs isIpv6 ping (some addrs) acsServerConfig).2 = .ok () ∨
      ∃ msg, (validateDnsEnvRequest differs isIpv6 ping (some addrs) acsServerConfig).2 =
        .error (.contingencyCheckError msg)) ∧
    ((validateDnsEnvRequest differs isIpv6 ping (some addrs) acsServerConfig).2 ≠ .ok () ↔
      ∃ v ∈ ["ipv4", "ipv6"], ∃ expected, acsServerConfig.lookup v = some expected ∧
        ∃ s ∈ ["reachable", "unreachable"], ∃ want, expected.lookup s = some want ∧
          differs want (pingCountFrom isIpv6 ping 0 addrs v s) = true) := by
  refine ⟨tallyPings_pinged isIpv6 ping 0 _ addrs, checkVersions_ok_or differs acsServerConfig _, ?_⟩
  simp only [validateDnsEnvRequest, Option.getD_some]
  rw [tallyPings_counts, checkVersions_ne_ok_iff]
  simp only [Nat.zero_add, pingStatus, List.exists_mem_cons_iff, List.not_mem_nil, false_and,
    exists_false, or_false]

end Validate

end Boardfarm
