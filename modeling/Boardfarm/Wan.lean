import Boardfarm.Python
import Mathlib.Data.String.Basic

/-!
# Setting up the WAN device

`_setup_wan` reads the device's `options`, a comma-separated list, and walks it once: a
`wan-static-route:` option sets the route text (each `-` turned into ` via `), four flags set
attributes, and a `wan-static-ipv6:` or `wan-static-ip:` option deletes and re-adds its address on
the interface. Then each `;`-piece of the route text is deleted, up to its first `via`, and
added.

Over every options text whose addresses all parse, the console runs `ifconfig` down and up, the
address commands of the options in order, and then the routes of the last `wan-static-route:`
option only: an earlier one leaves no trace (`setupWan_of_addresses`). A bad address stops the
set-up where it stands: the addresses before it stay changed, and no route is touched
(`setupWan_of_bad_address`). Whether it raises or not, each flag is set by its own option among those
before the first that raises, and `wan_dhcp_server` is never turned on (`setupWan_flags`). A route
option `wan-static-route:<dst>-<gw>` whose parts hold no `-` is deleted as `<dst> `, the blank
before `via` kept, and added as `<dst> via <gw>` (`setupWan_route`).

`IPv4Interface(value)` and `IPv6Interface(value)` with their `str()` are the parameters
`ipv4Interface` and `ipv6Interface`: CPython's `ipaddress` parses them. The console records the
commands it runs; `_setup_wan` reads none of their output.
-/

namespace Boardfarm

/-- What `_setup_wan` changes on a `LinuxWAN`: the attributes it sets, and the commands its console
has run, in order. -/
structure WanSetup where
  staticRoute : String
  wanDhcp : Bool
  wanNoEth0 : Bool
  wanDhcpServer : Bool
  wanDhcpv6 : Bool
  commands : List String

/-- The values `LinuxWAN.__init__` gives the attributes. -/
def WanSetup.initial : WanSetup := ⟨"", false, false, false, false, []⟩

def WanSetup.run (w : WanSetup) (cmds : List String) : WanSetup :=
  { w with commands := w.commands ++ cmds }

/-- `[x.strip() for x in self._config["options"].split(",")]`. -/
def wanOptions (options : String) : List String := (Py.split options ',').map Py.strip

/-- The route text of a `wan-static-route:` option. -/
def routeText (opt : String) : String :=
  Py.replaceStr (Py.replaceStr opt "wan-static-route:" "") "-" " via "

section Setup

variable (iface : String) (ipv4Interface ipv6Interface : String → Except PyError String)

/-- One pass of the option loop of `_setup_wan`. -/
def setupWanOption (w : WanSetup) (opt : String) : Outcome WanSetup :=
  if Py.startswith opt "wan-static-route:" then ⟨{ w with staticRoute := routeText opt }, none⟩
  else if opt = "wan-dhcp-client" then ⟨{ w with wanDhcp := true }, none⟩
  else if opt = "wan-no-eth0" then ⟨{ w with wanNoEth0 := true }, none⟩
  else if opt = "wan-no-dhcp-server" then ⟨{ w with wanDhcpServer := false }, none⟩
  else if opt = "wan-dhcp-client-v6" then ⟨{ w with wanDhcpv6 := true }, none⟩
  else if Py.startswith opt "wan-static-ipv6:" then
    match ipv6Interface (Py.replaceStr opt "wan-static-ipv6:" "") with
    | .error e => ⟨w, some e⟩
    | .ok i =>
      ⟨w.run ["sysctl -w net.ipv6.conf." ++ iface ++ ".accept_dad=0",
        "ip -6 addr del " ++ i ++ " dev " ++ iface, "ip -6 addr add " ++ i ++ " dev " ++ iface], none⟩
  else if Py.startswith opt "wan-static-ip:" then
    match ipv4Interface (Py.replaceStr opt "wan-static-ip:" "") with
    | .error e => ⟨w, some e⟩
    | .ok i =>
      ⟨w.run ["ip -4 addr del " ++ i ++ " dev " ++ iface, "ip -4 addr add " ++ i ++ " dev " ++ iface],
        none⟩
  else ⟨w, none⟩

/-- The option loop, up to the first option that raises. -/
def setupWanOptions : WanSetup → List String → Outcome WanSetup
  | w, [] => ⟨w, none⟩
  | w, opt :: opts =>
    match (setupWanOption iface ipv4Interface ipv6Interface w opt).raised with
    | some e => ⟨(setupWanOption iface ipv4Interface ipv6Interface w opt).state, some e⟩
    | none => setupWanOptions (setupWanOption iface ipv4Interface ipv6Interface w opt).state opts

/-- The two commands of one route: `ip route del {route.split('via')[0]}`, `ip route add {route}`. -/
def routeCommands (route : String) : Except PyError (List String) := do
  let parts ← Py.splitStr route "via"
  let dest ← Py.subscript parts 0
  pure ["ip route del " ++ dest, "ip route add " ++ route]

/-- The route loop of `_setup_wan`. -/
def addRoutes : WanSetup → List String → Outcome WanSetup
  | w, [] => ⟨w, none⟩
  | w, route :: routes =>
    match routeCommands route with
    | .error e => ⟨w, some e⟩
    | .ok cmds => addRoutes (w.run cmds) routes

/-- The commands `_setup_wan` runs first. -/
def ifconfigCommands : List String :=
  ["ifconfig " ++ iface ++ " down", "ifconfig " ++ iface ++ " up"]

/-- `_setup_wan()` on a device whose configuration has the options text `options`, if any. -/
def setupWan (options : Option String) (w : WanSetup) : Outcome WanSetup :=
  match options with
  | none => ⟨w, none⟩
  | some options =>
    let o := setupWanOptions iface ipv4Interface ipv6Interface (w.run (ifconfigCommands iface))
      (wanOptions options)
    match o.raised with
    | some _ => o
    | none => if o.state.staticRoute.isEmpty then o else addRoutes o.state (Py.split o.state.staticRoute ';')

/-! ## What one option does -/

/-- The commands an option runs, or the error its address raises. -/
def addressCommands (opt : String) : Except PyError (List String) :=
  if Py.startswith opt "wan-static-route:" then .ok []
  else if Py.startswith opt "wan-static-ipv6:" then
    (ipv6Interface (Py.replaceStr opt "wan-static-ipv6:" "")).map fun i =>
      ["sysctl -w net.ipv6.conf." ++ iface ++ ".accept_dad=0",
        "ip -6 addr del " ++ i ++ " dev " ++ iface, "ip -6 addr add " ++ i ++ " dev " ++ iface]
  else if Py.startswith opt "wan-static-ip:" then
    (ipv4Interface (Py.replaceStr opt "wan-static-ip:" "")).map fun i =>
      ["ip -4 addr del " ++ i ++ " dev " ++ iface, "ip -4 addr add " ++ i ++ " dev " ++ iface]
  else .ok []

/-- The options the loop gets through: those before the first one whose address raises. -/
def optionsBeforeRaise (opts : List String) : List String :=
  opts.takeWhile fun opt => (addressCommands iface ipv4Interface ipv6Interface opt).isOk

end Setup

def routeOf (opt : String) : Option String :=
  if Py.startswith opt "wan-static-route:" then some (routeText opt) else none

/-- The route text after the options `opts`, from `init`: the last one an option sets. -/
def lastRoute (init : String) (opts : List String) : String :=
  ((opts.filterMap routeOf).getLast?).getD init

/-- `route.split('via')[0]`. -/
def viaHead (route : String) : String :=
  ⟨(Py.splitStrFrom "via".data 0 route.data).headD []⟩

/-- The commands the route loop runs for a route text: nothing for an empty one. -/
def routeCommandsOf (route : String) : List String :=
  if route.isEmpty then []
  else (Py.split route ';').flatMap fun r => ["ip route del " ++ viaHead r, "ip route add " ++ r]

section Spec

variable {iface : String} {ipv4Interface ipv6Interface : String → Except PyError String}

@[simp]
theorem WanSetup.run_commands (w : WanSetup) (cmds : List String) :
    (w.run cmds).commands = w.commands ++ cmds := rfl

@[simp]
theorem WanSetup.run_staticRoute (w : WanSetup) (cmds : List String) :
    (w.run cmds).staticRoute = w.staticRoute := rfl

theorem lastRoute_cons (init opt : String) (opts : List String) :
    lastRoute init (opt :: opts) = lastRoute ((routeOf opt).getD init) opts := by
  unfold lastRoute
  rw [List.filterMap_cons]
  cases routeOf opt with
  | none => rfl
  | some r => rw [List.getLast?_cons, Option.getD_some, Option.getD_some]

theorem not_startswith_of_flag {opt pre : String}
    (hflag : opt = "wan-dhcp-client" ∨ opt = "wan-no-eth0" ∨ opt = "wan-no-dhcp-server" ∨
      opt = "wan-dhcp-client-v6")
    (hpre : pre = "wan-static-route:" ∨ pre = "wan-static-ipv6:" ∨ pre = "wan-static-ip:") :
    Py.startswith opt pre = false := by
  rcases hflag with rfl | rfl | rfl | rfl <;> rcases hpre with rfl | rfl | rfl <;> decide

/-- What one option does to the commands, the route text and the outcome. -/
theorem setupWanOption_spec (w : WanSetup) (opt : String) :
    (setupWanOption iface ipv4Interface ipv6Interface w opt).state.commands =
        w.commands ++ ((addressCommands iface ipv4Interface ipv6Interface opt).toOption.getD []) ∧
      (setupWanOption iface ipv4Interface ipv6Interface w opt).state.staticRoute =
        (routeOf opt).getD w.staticRoute ∧
      (setupWanOption iface ipv4Interface ipv6Interface w opt).raised =
        match addressCommands iface ipv4Interface ipv6Interface opt with
        | .error e => some e
        | .ok _ => none := by
  unfold setupWanOption addressCommands routeOf
  by_cases hr : Py.startswith opt "wan-static-route:" = true
  · simp [hr, Except.toOption]
  by_cases hflag : opt = "wan-dhcp-client" ∨ opt = "wan-no-eth0" ∨ opt = "wan-no-dhcp-server" ∨
      opt = "wan-dhcp-client-v6"
  · have h6 := not_startswith_of_flag hflag (.inr (.inl rfl))
    have h4 := not_startswith_of_flag hflag (.inr (.inr rfl))
    rcases hflag with rfl | rfl | rfl | rfl <;> simp [hr, h6, h4, Except.toOption]
  simp only [not_or] at hflag
  simp only [hr, hflag, Bool.false_eq_true, if_false]
  split_ifs
  · cases ipv6Interface _ <;> simp [Except.toOption, Except.map]
  · cases ipv4Interface _ <;> simp [Except.toOption, Except.map]
  · simp [Except.toOption]

theorem splitStrFrom_ne_nil (sep : List Char) : ∀ (skip : Nat) (s : List Char),
    Py.splitStrFrom sep skip s ≠ []
  | skip, [] => by cases skip <;> simp [Py.splitStrFrom]
  | skip + 1, _ :: s => splitStrFrom_ne_nil sep skip s
  | 0, c :: s => by
    rw [Py.splitStrFrom]
    split
    · exact List.cons_ne_nil _ _
    · obtain ⟨l, ls, hl⟩ := List.exists_cons_of_ne_nil (splitStrFrom_ne_nil sep 0 s)
      rw [hl]
      exact List.cons_ne_nil _ _

theorem routeCommands_eq (route : String) :
    routeCommands route = .ok ["ip route del " ++ viaHead route, "ip route add " ++ route] := by
  obtain ⟨p, ps, hps⟩ := List.exists_cons_of_ne_nil (splitStrFrom_ne_nil "via".data 0 route.data)
  have hsub : Py.subscript (String.mk p :: ps.map String.mk) 0 = .ok (String.mk p) :=
    Py.subscript_of_lt (i := 0) (by simp)
  simp only [routeCommands, Py.splitStr, if_neg (show ¬"via".isEmpty = true by decide), hps,
    List.map_cons, bind, Except.bind, hsub, pure, Except.pure, viaHead, List.headD_cons]

theorem addRoutes_eq : ∀ (w : WanSetup) (routes : List String),
    addRoutes w routes =
      ⟨w.run (routes.flatMap fun r => ["ip route del " ++ viaHead r, "ip route add " ++ r]), none⟩
  | w, [] => by simp [addRoutes, WanSetup.run]
  | w, r :: routes => by
    simp only [addRoutes, routeCommands_eq]
    rw [addRoutes_eq]
    simp [WanSetup.run, List.append_assoc]

theorem setupWanOptions_of_ok : ∀ (w : WanSetup) (opts : List String) (cmds : List (List String)),
    opts.mapM (addressCommands iface ipv4Interface ipv6Interface) = .ok cmds →
      (setupWanOptions iface ipv4Interface ipv6Interface w opts).raised = none ∧
        (setupWanOptions iface ipv4Interface ipv6Interface w opts).state.commands =
          w.commands ++ cmds.flatten ∧
        (setupWanOptions iface ipv4Interface ipv6Interface w opts).state.staticRoute =
          lastRoute w.staticRoute opts
  | w, [], cmds, h => by
    cases h
    exact ⟨rfl, by simp [setupWanOptions], rfl⟩
  | w, opt :: opts, cmds, h => by
    obtain ⟨c, cs, hopt, hrest, rfl⟩ := mapM_cons_eq_ok h
    obtain ⟨hc, hs, hraised⟩ := @setupWanOption_spec iface ipv4Interface ipv6Interface w opt
    simp only [hopt] at hc hraised
    obtain ⟨h1, h2, h3⟩ := setupWanOptions_of_ok _ opts cs hrest
    simp only [setupWanOptions, hraised]
    refine ⟨h1, ?_, ?_⟩
    · rw [h2, hc]
      simp [Except.toOption]
    · rw [h3, hs, lastRoute_cons]

theorem setupWanOptions_of_error (e : PyError) (bad : String) (post : List String)
    (hbad : addressCommands iface ipv4Interface ipv6Interface bad = .error e) :
    ∀ (w : WanSetup) (pre : List String) (cmds : List (List String)),
      pre.mapM (addressCommands iface ipv4Interface ipv6Interface) = .ok cmds →
      (setupWanOptions iface ipv4Interface ipv6Interface w (pre ++ bad :: post)).raised = some e ∧
        (setupWanOptions iface ipv4Interface ipv6Interface w (pre ++ bad :: post)).state.commands =
          w.commands ++ cmds.flatten
  | w, [], cmds, h => by
    cases h
    obtain ⟨hc, -, hraised⟩ := @setupWanOption_spec iface ipv4Interface
      ipv6Interface w bad
    simp only [hbad] at hc hraised
    simp only [List.nil_append, setupWanOptions, hraised]
    exact ⟨trivial, by simpa [Except.toOption] using hc⟩
  | w, opt :: pre, cmds, h => by
    obtain ⟨c, cs, hopt, hrest, rfl⟩ := mapM_cons_eq_ok h
    obtain ⟨hc, -, hraised⟩ := @setupWanOption_spec iface ipv4Interface ipv6Interface w opt
    simp only [hopt] at hc hraised
    obtain ⟨h1, h2⟩ := setupWanOptions_of_error e bad post hbad _ pre cs hrest
    rw [List.cons_append]
    simp only [setupWanOptions, hraised]
    refine ⟨h1, ?_⟩
    rw [h2, hc]
    simp [Except.toOption]

theorem addressCommands_of_flag {opt : String}
    (hflag : opt = "wan-dhcp-client" ∨ opt = "wan-no-eth0" ∨ opt = "wan-no-dhcp-server" ∨
      opt = "wan-dhcp-client-v6") :
    addressCommands iface ipv4Interface ipv6Interface opt = .ok [] := by
  rw [addressCommands, not_startswith_of_flag hflag (.inl rfl),
    not_startswith_of_flag hflag (.inr (.inl rfl)), not_startswith_of_flag hflag (.inr (.inr rfl))]
  rfl

/-- What one option does to the flags: a flag option sets its own, and no other option touches
them, whether it raises or not. -/
theorem setupWanOption_flags (w : WanSetup) (opt : String) :
    (setupWanOption iface ipv4Interface ipv6Interface w opt).state.wanDhcp =
        (w.wanDhcp || opt == "wan-dhcp-client") ∧
      (setupWanOption iface ipv4Interface ipv6Interface w opt).state.wanNoEth0 =
        (w.wanNoEth0 || opt == "wan-no-eth0") ∧
      (setupWanOption iface ipv4Interface ipv6Interface w opt).state.wanDhcpv6 =
        (w.wanDhcpv6 || opt == "wan-dhcp-client-v6") ∧
      (setupWanOption iface ipv4Interface ipv6Interface w opt).state.wanDhcpServer =
        (w.wanDhcpServer && !(opt == "wan-no-dhcp-server")) := by
  by_cases hflag : opt = "wan-dhcp-client" ∨ opt = "wan-no-eth0" ∨ opt = "wan-no-dhcp-server" ∨
      opt = "wan-dhcp-client-v6"
  · have hr := not_startswith_of_flag hflag (.inl rfl)
    rcases hflag with rfl | rfl | rfl | rfl <;> simp [setupWanOption, hr]
  simp only [not_or] at hflag
  obtain ⟨h1, h2, h3, h4⟩ := hflag
  unfold setupWanOption
  split_ifs <;> (try split) <;> simp [h1, h2, h3, h4, WanSetup.run]

end Spec

/-- Over every options text whose address options all parse, `_setup_wan` raises nothing; the
console runs `ifconfig` down and up, the address commands of the options in order, and then the
routes of the last `wan-static-route:` option (or of the route text the device had), each
deleted up to its first `via` and added; and the device keeps that last route text. -/
theorem setupWan_of_addresses (iface : String)
    (ipv4Interface ipv6Interface : String → Except PyError String) (options : String)
    (w : WanSetup) (cmds : List (List String))
    (hparse : (wanOptions options).mapM (addressCommands iface ipv4Interface ipv6Interface) =
      .ok cmds) :
    (setupWan iface ipv4Interface ipv6Interface (some options) w).raised = none ∧
      (setupWan iface ipv4Interface ipv6Interface (some options) w).state.commands =
        w.commands ++ ifconfigCommands iface ++ cmds.flatten ++
          routeCommandsOf (lastRoute w.staticRoute (wanOptions options)) ∧
      (setupWan iface ipv4Interface ipv6Interface (some options) w).state.staticRoute =
        lastRoute w.staticRoute (wanOptions options) := by
  obtain ⟨h1, h2, h3⟩ := setupWanOptions_of_ok (w.run (ifconfigCommands iface)) _ cmds hparse
  simp only [setupWan, h1]
  rw [WanSetup.run_staticRoute] at h3
  by_cases hempty : (lastRoute w.staticRoute (wanOptions options)).isEmpty = true
  · rw [h3, if_pos hempty, routeCommandsOf, if_pos hempty]
    exact ⟨h1, by simpa using h2, h3⟩
  · rw [h3, if_neg hempty, addRoutes_eq, routeCommandsOf, if_neg hempty]
    refine ⟨rfl, ?_, by simpa using h3⟩
    rw [WanSetup.run_commands, h2]
    simp [List.append_assoc]

example : (setupWan "eth1" Except.ok Except.ok
      (some "wan-static-route:10.1.0.0/16-10.0.0.1, wan-static-route:10.2.0.0/16-10.0.0.1")
      WanSetup.initial).state.commands =
    ["ifconfig eth1 down", "ifconfig eth1 up", "ip route del 10.2.0.0/16 ",
      "ip route add 10.2.0.0/16 via 10.0.0.1"] := by
  decide

/-- Options that set a route twice and an address: the second route is the one added. -/
theorem setupWan_of_addresses_twoRoutes :
    (wanOptions "wan-static-route:10.1.0.0/16-10.0.0.1, wan-static-ip:10.0.0.2/24, wan-static-route:10.2.0.0/16-10.0.0.1").mapM
        (addressCommands "eth1" Except.ok Except.ok) =
      .ok [[], ["ip -4 addr del 10.0.0.2/24 dev eth1", "ip -4 addr add 10.0.0.2/24 dev eth1"], []] ∧
    ((setupWan "eth1" Except.ok Except.ok (some "wan-static-route:10.1.0.0/16-10.0.0.1, wan-static-ip:10.0.0.2/24, wan-static-route:10.2.0.0/16-10.0.0.1") WanSetup.initial).raised = none ∧
      (setupWan "eth1" Except.ok Except.ok (some "wan-static-route:10.1.0.0/16-10.0.0.1, wan-static-ip:10.0.0.2/24, wan-static-route:10.2.0.0/16-10.0.0.1") WanSetup.initial).state.commands =
        WanSetup.initial.commands ++ ifconfigCommands "eth1" ++
          [[], ["ip -4 addr del 10.0.0.2/24 dev eth1", "ip -4 addr add 10.0.0.2/24 dev eth1"], []].flatten ++
          routeCommandsOf (lastRoute WanSetup.initial.staticRoute (wanOptions "wan-static-route:10.1.0.0/16-10.0.0.1, wan-static-ip:10.0.0.2/24, wan-static-route:10.2.0.0/16-10.0.0.1")) ∧
      (setupWan "eth1" Except.ok Except.ok (some "wan-static-route:10.1.0.0/16-10.0.0.1, wan-static-ip:10.0.0.2/24, wan-static-route:10.2.0.0/16-10.0.0.1") WanSetup.initial).state.staticRoute =
        lastRoute WanSetup.initial.staticRoute (wanOptions "wan-static-route:10.1.0.0/16-10.0.0.1, wan-static-ip:10.0.0.2/24, wan-static-route:10.2.0.0/16-10.0.0.1")) :=
  have h : (wanOptions "wan-static-route:10.1.0.0/16-10.0.0.1, wan-static-ip:10.0.0.2/24, wan-static-route:10.2.0.0/16-10.0.0.1").mapM
      (addressCommands "eth1" Except.ok Except.ok) =
        .ok [[], ["ip -4 addr del 10.0.0.2/24 dev eth1", "ip -4 addr add 10.0.0.2/24 dev eth1"], []] := by
    decide
  ⟨h, setupWan_of_addresses "eth1" Except.ok Except.ok _ WanSetup.initial _ h⟩

/-- Over every options text with an address option that does not parse, after options whose
addresses do: `_setup_wan` raises that option's error, the console has run `ifconfig` down and
up and the address commands of the options before it, and no route command. -/
theorem setupWan_of_bad_address (iface : String)
    (ipv4Interface ipv6Interface : String → Except PyError String) (options : String)
    (w : WanSetup) (pre post : List String) (bad : String) (e : PyError)
    (cmds : List (List String)) (hopts : wanOptions options = pre ++ bad :: post)
    (hpre : pre.mapM (addressCommands iface ipv4Interface ipv6Interface) = .ok cmds)
    (hbad : addressCommands iface ipv4Interface ipv6Interface bad = .error e) :
    (setupWan iface ipv4Interface ipv6Interface (some options) w).raised = some e ∧
      (setupWan iface ipv4Interface ipv6Interface (some options) w).state.commands =
        w.commands ++ ifconfigCommands iface ++ cmds.flatten := by
  obtain ⟨h1, h2⟩ := setupWanOptions_of_error e bad post hbad (w.run (ifconfigCommands iface)) pre
    cmds hpre
  simp only [setupWan, hopts, h1]
  exact ⟨trivial, by simpa using h2⟩

/-- The flags after a run of options: each is set by its option among those before the first that
raises, and the flags of the others stay as they were. -/
theorem setupWanOptions_flags : ∀ (w : WanSetup) (opts : List String),
    (setupWanOptions iface ipv4Interface ipv6Interface w opts).state.wanDhcp =
        (w.wanDhcp || (optionsBeforeRaise iface ipv4Interface ipv6Interface opts).contains
          "wan-dhcp-client") ∧
      (setupWanOptions iface ipv4Interface ipv6Interface w opts).state.wanNoEth0 =
        (w.wanNoEth0 || (optionsBeforeRaise iface ipv4Interface ipv6Interface opts).contains
          "wan-no-eth0") ∧
      (setupWanOptions iface ipv4Interface ipv6Interface w opts).state.wanDhcpv6 =
        (w.wanDhcpv6 || (optionsBeforeRaise iface ipv4Interface ipv6Interface opts).contains
          "wan-dhcp-client-v6") ∧
      (setupWanOptions iface ipv4Interface ipv6Interface w opts).state.wanDhcpServer =
        (w.wanDhcpServer && !(optionsBeforeRaise iface ipv4Interface ipv6Interface opts).contains
          "wan-no-dhcp-server")
  | w, [] => by simp [setupWanOptions, optionsBeforeRaise]
  | w, opt :: opts => by
    obtain ⟨-, -, hraised⟩ := @setupWanOption_spec iface ipv4Interface ipv6Interface w opt
    obtain ⟨h1, h2, h3, h4⟩ := @setupWanOption_flags iface ipv4Interface ipv6Interface w opt
    cases hopt : addressCommands iface ipv4Interface ipv6Interface opt with
    | error e =>
      have hne : ∀ name, (name = "wan-dhcp-client" ∨ name = "wan-no-eth0" ∨
          name = "wan-no-dhcp-server" ∨ name = "wan-dhcp-client-v6") → (opt == name) = false :=
        fun name hname => beq_eq_false_iff_ne.mpr fun h => by
          subst h
          rw [addressCommands_of_flag hname] at hopt
          cases hopt
      simp only [hopt] at hraised
      simp only [setupWanOptions, hraised, h1, h2, h3, h4, optionsBeforeRaise, List.takeWhile_cons,
        hopt, Except.isOk, Except.toBool, Bool.false_eq_true, if_false, List.contains_nil,
        hne _ (.inl rfl), hne _ (.inr (.inl rfl)), hne _ (.inr (.inr (.inl rfl))),
        hne _ (.inr (.inr (.inr rfl))), Bool.or_false, Bool.not_false, Bool.and_true, and_self]
    | ok c =>
      simp only [hopt] at hraised
      obtain ⟨g1, g2, g3, g4⟩ := setupWanOptions_flags
        (setupWanOption iface ipv4Interface ipv6Interface w opt).state opts
      simp only [setupWanOptions, hraised]
      rw [g1, g2, g3, g4, h1, h2, h3, h4]
      simp only [optionsBeforeRaise,
        List.takeWhile_cons, hopt, Except.isOk, Except.toBool, if_true, List.contains_cons,
        Bool.beq_comm (a := opt), Bool.or_assoc, Bool.not_or, Bool.and_assoc, and_self]

/-- Over every options text, whether `_setup_wan` raises or not: `wan_dhcp`, `wan_no_eth0` and
`wan_dhcpv6` end set exactly when they were set or their option comes before the first option that
raises, and `wan_dhcp_server` ends set exactly when it was set and no `wan-no-dhcp-server` comes
before it; the routes touch no flag, so `_setup_wan` never sets `wan_dhcp_server`. -/
theorem setupWan_flags (iface : String)
    (ipv4Interface ipv6Interface : String → Except PyError String) (options : String)
    (w : WanSetup) :
    (setupWan iface ipv4Interface ipv6Interface (some options) w).state.wanDhcp =
        (w.wanDhcp || (optionsBeforeRaise iface ipv4Interface ipv6Interface
          (wanOptions options)).contains "wan-dhcp-client") ∧
      (setupWan iface ipv4Interface ipv6Interface (some options) w).state.wanNoEth0 =
        (w.wanNoEth0 || (optionsBeforeRaise iface ipv4Interface ipv6Interface
          (wanOptions options)).contains "wan-no-eth0") ∧
      (setupWan iface ipv4Interface ipv6Interface (some options) w).state.wanDhcpv6 =
        (w.wanDhcpv6 || (optionsBeforeRaise iface ipv4Interface ipv6Interface
          (wanOptions options)).contains "wan-dhcp-client-v6") ∧
      (setupWan iface ipv4Interface ipv6Interface (some options) w).state.wanDhcpServer =
        (w.wanDhcpServer && !(optionsBeforeRaise iface ipv4Interface ipv6Interface
          (wanOptions options)).contains "wan-no-dhcp-server") := by
  have h := @setupWanOptions_flags iface ipv4Interface ipv6Interface (w.run (ifconfigCommands iface))
    (wanOptions options)
  simp only [setupWan]
  split
  · exact h
  · split
    · exact h
    · simpa [addRoutes_eq] using h

/-- An `IPv4Interface` that refuses the text `bad` and keeps any other. -/
def refuseBad (value : String) : Except PyError String :=
  if value = "bad" then .error (.addressValueError "Expected 4 octets in \x27bad\x27") else .ok value

/-- A good address, a bad one, then a route: the route is never added. -/
theorem setupWan_of_bad_address_route :
    wanOptions "wan-static-ip:10.0.0.2/24, wan-static-ip:bad, wan-static-route:10.1.0.0/16-10.0.0.1" =
        ["wan-static-ip:10.0.0.2/24"] ++ "wan-static-ip:bad" :: ["wan-static-route:10.1.0.0/16-10.0.0.1"] ∧
      ["wan-static-ip:10.0.0.2/24"].mapM (addressCommands "eth1" refuseBad Except.ok) =
        .ok [["ip -4 addr del 10.0.0.2/24 dev eth1", "ip -4 addr add 10.0.0.2/24 dev eth1"]] ∧
      addressCommands "eth1" refuseBad Except.ok "wan-static-ip:bad" =
        .error (.addressValueError "Expected 4 octets in \x27bad\x27") ∧
      ((setupWan "eth1" refuseBad Except.ok
          (some "wan-static-ip:10.0.0.2/24, wan-static-ip:bad, wan-static-route:10.1.0.0/16-10.0.0.1")
          WanSetup.initial).raised = some (.addressValueError "Expected 4 octets in \x27bad\x27") ∧
        (setupWan "eth1" refuseBad Except.ok
          (some "wan-static-ip:10.0.0.2/24, wan-static-ip:bad, wan-static-route:10.1.0.0/16-10.0.0.1")
          WanSetup.initial).state.commands =
          WanSetup.initial.commands ++ ifconfigCommands "eth1" ++
            [["ip -4 addr del 10.0.0.2/24 dev eth1", "ip -4 addr add 10.0.0.2/24 dev eth1"]].flatten) :=
  have hopts : wanOptions
      "wan-static-ip:10.0.0.2/24, wan-static-ip:bad, wan-static-route:10.1.0.0/16-10.0.0.1" =
        ["wan-static-ip:10.0.0.2/24"] ++ "wan-static-ip:bad" ::
          ["wan-static-route:10.1.0.0/16-10.0.0.1"] := by decide
  have hpre : ["wan-static-ip:10.0.0.2/24"].mapM (addressCommands "eth1" refuseBad Except.ok) =
      .ok [["ip -4 addr del 10.0.0.2/24 dev eth1", "ip -4 addr add 10.0.0.2/24 dev eth1"]] := by
    decide
  have hbad : addressCommands "eth1" refuseBad Except.ok "wan-static-ip:bad" =
      .error (.addressValueError "Expected 4 octets in \x27bad\x27") := by decide
  ⟨hopts, hpre, hbad, setupWan_of_bad_address "eth1" refuseBad Except.ok _ WanSetup.initial _ _ _ _ _
    hopts hpre hbad⟩

/-! ## The route option -/

theorem startswith_route (dst gw : String) :
    Py.startswith ("wan-static-route:" ++ dst ++ "-" ++ gw) "wan-static-route:" = true := by
  rw [Py.startswith, String.data_append, String.data_append, String.data_append, List.append_assoc,
    List.append_assoc]
  exact List.isPrefixOf_iff_prefix.mpr (List.prefix_append _ _)

/-- `wan-static-route:<dst>-<gw>`, for a `dst` and a `gw` without `-`, sets the route
`<dst> via <gw>`: its one `-` cannot hold the two of `wan-static-route:`. -/
theorem routeText_eq {dst gw : String} (hdst : '-' ∉ dst.data) (hgw : '-' ∉ gw.data) :
    routeText ("wan-static-route:" ++ dst ++ "-" ++ gw) = dst ++ " via " ++ gw := by
  have hdash : "-".data = ['-'] := rfl
  have hempty : "".data = [] := rfl
  have hcount : (dst.data ++ '-' :: gw.data).count '-' < "wan-static-route:".data.count '-' := by
    rw [List.count_append, List.count_cons_self, List.count_eq_zero_of_not_mem hdst,
      List.count_eq_zero_of_not_mem hgw]
    decide
  have hfirst := @Py.replaceFrom_append_sep "wan-static-route:".data [] (by decide) []
    (dst.data ++ '-' :: gw.data) fun t ht hne => absurd (List.mem_singleton.mp ht) hne
  rw [List.nil_append, List.nil_append, List.nil_append,
    Py.replaceFrom_of_noMatchIn _ (Py.noMatchIn_of_count_lt hcount)] at hfirst
  have hsecond := @Py.replaceFrom_append_sep ['-'] " via ".data (by decide) dst.data gw.data
    (Py.noMatchIn_of_not_mem _ hdst)
  rw [Py.replaceFrom_of_noMatchIn _ (Py.noMatchIn_of_not_mem [] hgw), List.singleton_append]
    at hsecond
  apply String.ext
  simp only [routeText, Py.replaceStr, if_neg (show ¬"wan-static-route:".isEmpty = true by decide),
    if_neg (show ¬"-".isEmpty = true by decide), String.data_append, hdash, hempty,
    List.append_assoc, List.singleton_append, hfirst, hsecond]

theorem routeOf_route {dst gw : String} (hdst : '-' ∉ dst.data) (hgw : '-' ∉ gw.data) :
    routeOf ("wan-static-route:" ++ dst ++ "-" ++ gw) = some (dst ++ " via " ++ gw) := by
  rw [routeOf, if_pos (startswith_route dst gw), routeText_eq hdst hgw]

theorem lastRoute_append_cons (init : String) (pre post : List String) {opt route : String}
    (hopt : routeOf opt = some route)
    (hpost : ∀ o ∈ post, Py.startswith o "wan-static-route:" = false) :
    lastRoute init (pre ++ opt :: post) = route := by
  have hnil : post.filterMap routeOf = [] :=
    List.filterMap_eq_nil_iff.mpr fun o ho => by rw [routeOf, if_neg (by simp [hpost o ho])]
  rw [lastRoute, List.filterMap_append, List.filterMap_cons_some hopt, hnil,
    List.getLast?_concat, Option.getD_some]

/-- `route.split('via')[0]` of `<dst> via <gw>`, for a `dst` without `v`: `<dst>` and the
blank after it. -/
theorem viaHead_route {dst : String} (gw : String) (hdst : 'v' ∉ dst.data) :
    viaHead (dst ++ " via " ++ gw) = dst ++ " " := by
  have hsep : "via".data = ['v', 'i', 'a'] := rfl
  have hdata : (dst ++ " via " ++ gw).data =
      (dst.data ++ [' ']) ++ (['v', 'i', 'a'] ++ ' ' :: gw.data) := by
    simp only [String.data_append, show " via ".data = [' ', 'v', 'i', 'a', ' '] from rfl,
      List.append_assoc, List.cons_append, List.nil_append]
  have hno : Py.NoMatchIn ['v', 'i', 'a'] (dst.data ++ [' ']) (['v', 'i', 'a'] ++ ' ' :: gw.data) :=
    Py.noMatchIn_of_not_mem _ (by simpa using hdst)
  rw [viaHead, hsep, hdata, Py.splitStrFrom_append_sep (by decide) _ hno]
  rfl

/-- Over every options text whose address options all parse and whose last route option is
`wan-static-route:<dst>-<gw>`, with no `-` or `;` in `dst` and `gw` and no `v` in `dst`:
`_setup_wan` raises nothing, runs `ip route del <dst> ` (the blank before `via` kept) and
`ip route add <dst> via <gw>` after the address commands, and keeps the route `<dst> via <gw>`. -/
theorem setupWan_route (iface : String)
    (ipv4Interface ipv6Interface : String → Except PyError String) (options : String)
    (w : WanSetup) (cmds : List (List String)) (pre post : List String) (dst gw : String)
    (hopts : wanOptions options = pre ++ ("wan-static-route:" ++ dst ++ "-" ++ gw) :: post)
    (hpost : ∀ opt ∈ post, Py.startswith opt "wan-static-route:" = false)
    (hparse : (wanOptions options).mapM (addressCommands iface ipv4Interface ipv6Interface) =
      .ok cmds)
    (hdst : '-' ∉ dst.data ∧ ';' ∉ dst.data ∧ 'v' ∉ dst.data) (hgw : '-' ∉ gw.data ∧ ';' ∉ gw.data) :
    (setupWan iface ipv4Interface ipv6Interface (some options) w).raised = none ∧
      (setupWan iface ipv4Interface ipv6Interface (some options) w).state.commands =
        w.commands ++ ifconfigCommands iface ++ cmds.flatten ++
          ["ip route del " ++ dst ++ " ", "ip route add " ++ dst ++ " via " ++ gw] ∧
      (setupWan iface ipv4Interface ipv6Interface (some options) w).state.staticRoute =
        dst ++ " via " ++ gw := by
  have hsemi : ';' ∉ (dst ++ " via " ++ gw).data := by
    simp only [String.data_append, List.mem_append, not_or]
    exact ⟨⟨hdst.2.1, by decide⟩, hgw.2⟩
  have hne : (dst ++ " via " ++ gw).isEmpty = false := by
    rw [Bool.eq_false_iff]
    intro h
    have hd := congrArg String.data ((String.isEmpty_iff _).mp h)
    rw [String.data_append, String.data_append] at hd
    exact absurd (List.append_eq_nil.mp (List.append_eq_nil.mp hd).1).2 (by decide)
  have hroute : lastRoute w.staticRoute (wanOptions options) = dst ++ " via " ++ gw := by
    rw [hopts, lastRoute_append_cons _ _ _ (routeOf_route hdst.1 hgw.1) hpost]
  obtain ⟨h1, h2, h3⟩ := setupWanOptions_of_ok (w.run (ifconfigCommands iface)) _ cmds hparse
  rw [WanSetup.run_staticRoute, hroute] at h3
  simp only [setupWan, h1]
  rw [h3, hne, if_neg Bool.false_ne_true, addRoutes_eq, Py.split_of_not_mem hsemi]
  refine ⟨rfl, ?_, by simpa using h3⟩
  rw [WanSetup.run_commands, h2, List.flatMap_singleton, viaHead_route gw hdst.2.2]
  simp [List.append_assoc, String.append_assoc]

/-- An address, then the route `10.1.0.0/16-10.0.0.1`: deleted as `10.1.0.0/16 `, then added. -/
theorem setupWan_route_afterAddress :
    wanOptions "wan-static-ip:10.0.0.2/24, wan-static-route:10.1.0.0/16-10.0.0.1" =
        ["wan-static-ip:10.0.0.2/24"] ++ ("wan-static-route:" ++ "10.1.0.0/16" ++ "-" ++ "10.0.0.1") :: [] ∧
      (∀ opt ∈ ([] : List String), Py.startswith opt "wan-static-route:" = false) ∧
      (wanOptions "wan-static-ip:10.0.0.2/24, wan-static-route:10.1.0.0/16-10.0.0.1").mapM (addressCommands "eth1" Except.ok Except.ok) = .ok [["ip -4 addr del 10.0.0.2/24 dev eth1", "ip -4 addr add 10.0.0.2/24 dev eth1"], []] ∧
      ('-' ∉ "10.1.0.0/16".data ∧ ';' ∉ "10.1.0.0/16".data ∧ 'v' ∉ "10.1.0.0/16".data) ∧
      ('-' ∉ "10.0.0.1".data ∧ ';' ∉ "10.0.0.1".data) ∧
      ((setupWan "eth1" Except.ok Except.ok (some "wan-static-ip:10.0.0.2/24, wan-static-route:10.1.0.0/16-10.0.0.1") WanSetup.initial).raised = none ∧
        (setupWan "eth1" Except.ok Except.ok (some "wan-static-ip:10.0.0.2/24, wan-static-route:10.1.0.0/16-10.0.0.1") WanSetup.initial).state.commands =
          WanSetup.initial.commands ++ ifconfigCommands "eth1" ++ [["ip -4 addr del 10.0.0.2/24 dev eth1", "ip -4 addr add 10.0.0.2/24 dev eth1"], []].flatten ++
            ["ip route del " ++ "10.1.0.0/16" ++ " ", "ip route add " ++ "10.1.0.0/16" ++ " via " ++ "10.0.0.1"] ∧
        (setupWan "eth1" Except.ok Except.ok (some "wan-static-ip:10.0.0.2/24, wan-static-route:10.1.0.0/16-10.0.0.1") WanSetup.initial).state.staticRoute =
          "10.1.0.0/16" ++ " via " ++ "10.0.0.1") :=
  have hopts : wanOptions "wan-static-ip:10.0.0.2/24, wan-static-route:10.1.0.0/16-10.0.0.1" =
      ["wan-static-ip:10.0.0.2/24"] ++ ("wan-static-route:" ++ "10.1.0.0/16" ++ "-" ++ "10.0.0.1") :: [] := by
    decide
  have hpost : ∀ opt ∈ ([] : List String), Py.startswith opt "wan-static-route:" = false :=
    fun _ h => absurd h (List.not_mem_nil _)
  have hparse : (wanOptions "wan-static-ip:10.0.0.2/24, wan-static-route:10.1.0.0/16-10.0.0.1").mapM (addressCommands "eth1" Except.ok Except.ok) = .ok [["ip -4 addr del 10.0.0.2/24 dev eth1", "ip -4 addr add 10.0.0.2/24 dev eth1"], []] := by
    decide
  have hdst : '-' ∉ "10.1.0.0/16".data ∧ ';' ∉ "10.1.0.0/16".data ∧ 'v' ∉ "10.1.0.0/16".data := by
    decide
  have hgw : '-' ∉ "10.0.0.1".data ∧ ';' ∉ "10.0.0.1".data := by decide
  ⟨hopts, hpost, hparse, hdst, hgw, setupWan_route "eth1" Except.ok Except.ok _ WanSetup.initial _ _ _
    _ _ hopts hpost hparse hdst hgw⟩

end Boardfarm
