import Mathlib.Logic.Function.Basic
import Boardfarm.Address

/-!
# The DNS book

A `DNS` book holds, per host name, the addresses its DNS view (`dnsv4`, `dnsv6`) and its hosts
view (`hosts_v4`, `hosts_v6`) answer with. The constructor seeds the device's own name
`<device_name>.boardfarm.com` and the auxiliary URL, and starts the hosts view as a copy of the DNS
view. `configure_hosts` keeps the first `reachable` entries of the device's hosts list and appends
`unreachable` synthetic addresses past the auxiliary one (`configureHosts_of_lt`); it changes
nothing else (`configureHosts_frame`), so the DNS view and every other name keep their constructed
contents over any run of calls (`configureRun_frame`). It truncates the hosts list it finds, not
the DNS list, so only the first call is answered from the DNS view (`configureHosts_new`) and a
later one depends on the calls before it (`configureHosts_second_call`).

The lists the constructor shares between the two views are never changed in place: the hosts
list of the device's name is replaced by a fresh slice before anything is appended to it. So the
tables are modelled as values, a `defaultdict(list)` as a function that is `[]` where nothing was
written.
-/

namespace Boardfarm

/-- An entry of an address list: the address text a caller passed, an address object, or the text
`str(a)` of an address object. -/
inductive HostEntry (bits : Nat) where
  | text (s : String)
  | address (a : IPAddress bits)
  | rendered (a : IPAddress bits)
  deriving DecidableEq, Repr

/-- `table[name].append(x)`. -/
def appendAt {α : Type} (t : String → List α) (name : String) (x : α) : String → List α :=
  Function.update t name (t name ++ [x])

/-- `lst[:n]`. -/
def sliceTo {α : Type} (l : List α) (n : Int) : List α :=
  if 0 ≤ n then l.take n.toNat else l.take (l.length - n.natAbs)

/-- A `DNS` book, without the `NSLookup` helper it also holds. -/
structure DNS where
  auxv4 : Option IPv4Address
  auxv6 : Option IPv6Address
  deviceName : String
  dnsv4 : String → List (HostEntry 32)
  dnsv6 : String → List (HostEntry 128)
  hostsV4 : String → List (HostEntry 32)
  hostsV6 : String → List (HostEntry 128)

namespace DNS

/-- `_dns_name_suffix`. -/
def dnsNameSuffix : String := ".boardfarm.com"

/-- The device's own name: `f"{self._device_name}{self._dns_name_suffix}"`. -/
def primaryName (b : DNS) : String := b.deviceName ++ dnsNameSuffix

/-- `_add_dns_addresses(ipv4_address, ipv6_address)`. -/
def addDnsAddresses (b : DNS) (ipv4Address ipv6Address : Option String) : DNS :=
  let b := match ipv4Address with
    | some a => { b with dnsv4 := appendAt b.dnsv4 b.primaryName (.text a) }
    | none => b
  match ipv6Address with
  | some a => { b with dnsv6 := appendAt b.dnsv6 b.primaryName (.text a) }
  | none => b

/-- One address family of `_add_aux_dns_addresses`: the auxiliary address under the device's name,
and under the auxiliary URL when there is one. -/
def addAux {bits : Nat} (t : String → List (HostEntry bits)) (name : String) (aux : IPAddress bits)
    (auxUrl : Option String) : String → List (HostEntry bits) :=
  match auxUrl with
  | some u => appendAt (appendAt t name (.address aux)) u (.address aux)
  | none => appendAt t name (.address aux)

/-- `_add_aux_dns_addresses(aux_url)`. -/
def addAuxDnsAddresses (b : DNS) (auxUrl : Option String) : DNS :=
  let b := match b.auxv4 with
    | some a => { b with dnsv4 := addAux b.dnsv4 b.primaryName a auxUrl }
    | none => b
  match b.auxv6 with
  | some a => { b with dnsv6 := addAux b.dnsv6 b.primaryName a auxUrl }
  | none => b

/-- `DNS(console, device_name, ipv4_address, ipv6_address, ipv4_aux_address, ipv6_aux_address,
aux_url)`. -/
def new (deviceName : String) (ipv4Address ipv6Address : Option String)
    (ipv4AuxAddress : Option IPv4Address) (ipv6AuxAddress : Option IPv6Address)
    (auxUrl : Option String) : DNS :=
  let b : DNS :=
    { auxv4 := ipv4AuxAddress, auxv6 := ipv6AuxAddress, deviceName := deviceName,
      dnsv4 := fun _ => [], dnsv6 := fun _ => [], hostsV4 := fun _ => [], hostsV6 := fun _ => [] }
  let b := (b.addDnsAddresses ipv4Address ipv6Address).addAuxDnsAddresses auxUrl
  { b with hostsV4 := b.dnsv4, hostsV6 := b.dnsv6 }

/-- The `for val in range(...)` loop of `configure_hosts` from `val` on, `n` passes left:
`str(aux + (val + 1))` appended to `acc` each pass, up to the first exception. -/
def appendUnreachable {bits : Nat} (aux : Option (IPAddress bits)) :
    List (HostEntry bits) → Nat → Nat → List (HostEntry bits) × Option PyError
  | acc, 0, _ => (acc, none)
  | acc, n + 1, val =>
    match aux with
    | none => (acc, some (.typeError "unsupported operand type(s) for +: \x27NoneType\x27 and \x27int\x27"))
    | some a =>
      match a.add (val + 1) with
      | .error e => (acc, some e)
      | .ok ip => appendUnreachable aux (acc ++ [.rendered ip]) n (val + 1)

/-- `configure_hosts(reachable_ipv4, unreachable_ipv4, reachable_ipv6, unreachable_ipv6)`. -/
def configureHosts (b : DNS) (reachableIpv4 unreachableIpv4 reachableIpv6 unreachableIpv6 : Int) :
    Outcome DNS :=
  let p := b.primaryName
  let valV4 := sliceTo (b.hostsV4 p) reachableIpv4
  let valV6 := sliceTo (b.hostsV6 p) reachableIpv6
  let r4 := appendUnreachable b.auxv4 valV4 unreachableIpv4.toNat 0
  let b4 : DNS :=
    { b with hostsV4 := Function.update b.hostsV4 p r4.1,
             hostsV6 := Function.update b.hostsV6 p valV6 }
  match r4.2 with
  | some e => ⟨b4, some e⟩
  | none =>
    let r6 := appendUnreachable b.auxv6 valV6 unreachableIpv6.toNat 0
    ⟨{ b4 with hostsV6 := Function.update b.hostsV6 p r6.1 }, r6.2⟩

/-- Successive calls of `configure_hosts`, up to the first that raises. -/
def configureRun (b : DNS) : List (Int × Int × Int × Int) → Outcome DNS
  | [] => ⟨b, none⟩
  | (r4, u4, r6, u6) :: calls =>
    let o := b.configureHosts r4 u4 r6 u6
    match o.raised with
    | some e => ⟨o.state, some e⟩
    | none => configureRun o.state calls

section Hosts

variable {bits : Nat}

/-- `[str(aux + 1), ..., str(aux + n)]`. -/
def unreachableEntries (aux : IPAddress bits) (n : Nat) : List (HostEntry bits) :=
  (List.range n).map fun k => .rendered (IPAddress.ofNat bits (aux.toNat + k + 1))

theorem appendUnreachable_of_lt (a : IPAddress bits) :
    ∀ (n val : Nat) (acc : List (HostEntry bits)), a.toNat + val + n < 2 ^ bits →
      appendUnreachable (some a) acc n val =
        (acc ++ (List.range n).map fun k => .rendered (IPAddress.ofNat bits (a.toNat + val + k + 1)),
          none)
  | 0, val, acc, _ => by simp [appendUnreachable]
  | n + 1, val, acc, h => by
    have hval : ((val : Int) + 1).toNat = val + 1 := by omega
    have hadd := a.add_of_lt (n := (val : Int) + 1) (by omega) (by rw [hval]; omega)
    have ih := appendUnreachable_of_lt a n (val + 1)
      (acc ++ [.rendered ⟨a.toNat + (val + 1), by omega⟩]) (by omega)
    simp only [hval] at hadd
    simp only [appendUnreachable]
    rw [hadd]
    dsimp only
    rw [ih, List.range_succ_eq_map]
    simp only [List.map_cons, List.map_map, List.append_assoc, List.singleton_append]
    rw [IPAddress.ofNat_of_lt (by omega)]
    congr 3
    exact List.map_congr_left fun k _ => by simp only [Function.comp_apply]; congr 3; omega

/-- `configure_hosts` with both auxiliary addresses present and the synthetic addresses inside
their spaces: the device's hosts lists become their first `reachable` entries followed by the
synthetic addresses, and nothing else changes. -/
theorem configureHosts_of_lt (b : DNS) {a4 : IPv4Address} {a6 : IPv6Address}
    (h4 : b.auxv4 = some a4) (h6 : b.auxv6 = some a6) (r4 u4 r6 u6 : Int)
    (hu4 : a4.toNat + u4.toNat < 2 ^ 32) (hu6 : a6.toNat + u6.toNat < 2 ^ 128) :
    b.configureHosts r4 u4 r6 u6 =
      ⟨{ b with
          hostsV4 := Function.update b.hostsV4 b.primaryName
            (sliceTo (b.hostsV4 b.primaryName) r4 ++ unreachableEntries a4 u4.toNat),
          hostsV6 := Function.update b.hostsV6 b.primaryName
            (sliceTo (b.hostsV6 b.primaryName) r6 ++ unreachableEntries a6 u6.toNat) }, none⟩ := by
  simp only [configureHosts, h4, h6, appendUnreachable_of_lt a4 u4.toNat 0 _ (by omega),
    appendUnreachable_of_lt a6 u6.toNat 0 _ (by omega), unreachableEntries, Nat.add_zero,
    Function.update_idem]

/-- `b'` differs from `b` at most in the hosts lists of the device's own name. -/
structure SameBut (b b' : DNS) : Prop where
  auxv4 : b'.auxv4 = b.auxv4
  auxv6 : b'.auxv6 = b.auxv6
  deviceName : b'.deviceName = b.deviceName
  dnsv4 : b'.dnsv4 = b.dnsv4
  dnsv6 : b'.dnsv6 = b.dnsv6
  hostsV4 : ∀ n, n ≠ b.primaryName → b'.hostsV4 n = b.hostsV4 n
  hostsV6 : ∀ n, n ≠ b.primaryName → b'.hostsV6 n = b.hostsV6 n

theorem SameBut.refl (b : DNS) : SameBut b b :=
  ⟨rfl, rfl, rfl, rfl, rfl, fun _ _ => rfl, fun _ _ => rfl⟩

theorem SameBut.trans {b b' b'' : DNS} (h : SameBut b b') (h' : SameBut b' b'') : SameBut b b'' := by
  have hp : b'.primaryName = b.primaryName := by simp [primaryName, h.deviceName]
  exact ⟨h'.auxv4.trans h.auxv4, h'.auxv6.trans h.auxv6, h'.deviceName.trans h.deviceName,
    h'.dnsv4.trans h.dnsv4, h'.dnsv6.trans h.dnsv6,
    fun n hn => (h'.hostsV4 n (hp ▸ hn)).trans (h.hostsV4 n hn),
    fun n hn => (h'.hostsV6 n (hp ▸ hn)).trans (h.hostsV6 n hn)⟩

/-- Whatever it is given, and whether or not it raises, `configure_hosts` changes only the hosts
lists of the device's own name. -/
theorem configureHosts_frame (b : DNS) (r4 u4 r6 u6 : Int) :
    SameBut b (b.configureHosts r4 u4 r6 u6).state := by
  simp only [configureHosts]
  split <;>
    exact ⟨rfl, rfl, rfl, rfl, rfl, fun n hn => Function.update_noteq hn _ _,
      fun n hn => Function.update_noteq hn _ _⟩

/-- Over any run of `configure_hosts` calls the DNS view, the auxiliary addresses and the hosts
lists of every other name keep their values. -/
theorem configureRun_frame (b : DNS) :
    ∀ calls, SameBut b (b.configureRun calls).state
  | [] => SameBut.refl b
  | (r4, u4, r6, u6) :: calls => by
    simp only [configureRun]
    split
    · exact configureHosts_frame b r4 u4 r6 u6
    · exact (configureHosts_frame b r4 u4 r6 u6).trans (configureRun_frame _ calls)

theorem new_auxv4 (deviceName : String) (ipv4Address ipv6Address : Option String)
    (aux4 : Option IPv4Address) (aux6 : Option IPv6Address) (auxUrl : Option String) :
    (new deviceName ipv4Address ipv6Address aux4 aux6 auxUrl).auxv4 = aux4 := by
  cases ipv4Address <;> cases ipv6Address <;> cases aux4 <;> cases aux6 <;> rfl

theorem new_auxv6 (deviceName : String) (ipv4Address ipv6Address : Option String)
    (aux4 : Option IPv4Address) (aux6 : Option IPv6Address) (auxUrl : Option String) :
    (new deviceName ipv4Address ipv6Address aux4 aux6 auxUrl).auxv6 = aux6 := by
  cases ipv4Address <;> cases ipv6Address <;> cases aux4 <;> cases aux6 <;> rfl

/-- The first call on a freshly built book answers from the DNS view: the device's hosts lists
become `dnsv4[P][:r4]` and `dnsv6[P][:r6]`, each followed by its synthetic addresses. -/
theorem configureHosts_new (deviceName : String) (ipv4Address ipv6Address : Option String)
    (a4 : IPv4Address) (a6 : IPv6Address) (auxUrl : Option String) (r4 u4 r6 u6 : Int)
    (hu4 : a4.toNat + u4.toNat < 2 ^ 32) (hu6 : a6.toNat + u6.toNat < 2 ^ 128) :
    let b := new deviceName ipv4Address ipv6Address (some a4) (some a6) auxUrl
    (b.configureHosts r4 u4 r6 u6).raised = none ∧
      (b.configureHosts r4 u4 r6 u6).state.hostsV4 b.primaryName =
        sliceTo (b.dnsv4 b.primaryName) r4 ++ unreachableEntries a4 u4.toNat ∧
      (b.configureHosts r4 u4 r6 u6).state.hostsV6 b.primaryName =
        sliceTo (b.dnsv6 b.primaryName) r6 ++ unreachableEntries a6 u6.toNat := by
  intro b
  rw [configureHosts_of_lt b (new_auxv4 ..) (new_auxv6 ..) r4 u4 r6 u6 hu4 hu6]
  exact ⟨rfl, by simp; rfl, by simp; rfl⟩

/-- Book `wan` with address `10.0.0.1` and auxiliary addresses `10.0.0.100` and `::1`. After
`configure_hosts(0, 1, 0, 0)`, the call `configure_hosts(2, 0, 0, 0)` leaves the device's IPv4
hosts list holding only the synthetic `10.0.0.101`, where `dnsv4[P][:2]` is `10.0.0.1` and
`10.0.0.100`. -/
theorem configureHosts_second_call :
    ((new "wan" (some "10.0.0.1") none (some ⟨167772260, by decide⟩) (some ⟨1, by decide⟩)
        none).configureRun [(0, 1, 0, 0), (2, 0, 0, 0)]).state.hostsV4 "wan.boardfarm.com" =
      [.rendered ⟨167772261, by decide⟩] ∧
    sliceTo ((new "wan" (some "10.0.0.1") none (some ⟨167772260, by decide⟩) (some ⟨1, by decide⟩)
        none).dnsv4 "wan.boardfarm.com") 2 =
      [.text "10.0.0.1", .address ⟨167772260, by decide⟩] := by
  decide

end Hosts

end DNS

end Boardfarm
