import Boardfarm.Search
import Mathlib.Data.List.Nodup

/-!
# The firewall helpers of `IptablesFirewall`

`IptablesFirewall` drives `iptables`, and `ip6tables` with the same code, through a console.
`add_drop_rule_*(option, valid_ip)` asks `-C` whether the INPUT chain holds the rule
`{option} {valid_ip} -j DROP`, raises `ValueError` when the tool reports that it cannot resolve
the address, and inserts the rule at the head of the chain only when the tool answers `Bad rule`;
`del_drop_rule_*` deletes the rule with `-D`. The address is spliced into the pattern unescaped;
the model takes addresses and host names in which `re` reads no character but `.` as special
(`PlainIp`). The console is a state and a function that prints the output of a command and leaves
the next state; `ServesRule` says what the tool prints for, and does to the INPUT chain on, the
commands of one rule.

An addition leaves the chain `chain.insert rule` and a deletion `chain.erase rule`
(`addDropRule_of_resolves`, `ServesRule.delete`): each call keeps the chain free of repeats and
changes the rules it blocks as one rule added to, or taken out of, a set would
(`addDropRule_blocks`, `delDropRule_blocks`), so over every run of calls the chain holds exactly the
rules a set of blocked rules would (`runCalls_refines`).
`is_iptable_empty` returns `any` of the listed chains: `True` as soon as a chain holds a rule, so
right after a DROP rule is added, and `False` on a table whose chains are all empty, the opposite
of its docstring (`isTableEmpty_after_add`).
-/

namespace Boardfarm

/-- The two tools `IptablesFirewall` drives with the same code. -/
inductive Tool where
  | iptables
  | ip6tables
  deriving DecidableEq

def Tool.name : Tool → String
  | .iptables => "iptables"
  | .ip6tables => "ip6tables"

/-- The rule the helpers check, insert and delete: `{option} {valid_ip} -j DROP`. -/
def dropRule (option validIp : String) : String := option ++ " " ++ validIp ++ " -j DROP"

/-- `iptables -C INPUT {option} {valid_ip} -j DROP`. -/
def checkCommand (tool : Tool) (option validIp : String) : String :=
  tool.name ++ " -C INPUT " ++ dropRule option validIp

/-- `iptables -I INPUT 1 {option} {valid_ip} -j DROP`. -/
def insertCommand (tool : Tool) (option validIp : String) : String :=
  tool.name ++ " -I INPUT 1 " ++ dropRule option validIp

/-- `iptables -D INPUT {option} {valid_ip} -j DROP`. -/
def deleteCommand (tool : Tool) (option validIp : String) : String :=
  tool.name ++ " -D INPUT " ++ dropRule option validIp

/-- The characters `re` reads as special in a pattern, but `.`. -/
def reMeta : List Char :=
  ['^', '$', '*', '+', '?', '\x7b', '\x7d', '[', ']', '\\', '|', '(', ')']

/-- A `valid_ip` in which `re` reads no character but `.` as special: an IPv4 or IPv6 address or a
host name. -/
structure PlainIp where
  text : String
  plain : ∀ c ∈ text.data, c ∉ reMeta
  deriving DecidableEq

/-- One character of a `PlainIp` in a pattern: `.` takes any character but a newline, and the
others stand for themselves. -/
def ipTok (c : Char) : Tok := if c = '.' then .cls (· != '\n') else .lit c

/-- `host\/network.*{valid_ip}.*not found`. -/
def notFoundPattern (validIp : PlainIp) : List Tok :=
  lits "host/network" ++
    .star (· != '\n') :: (validIp.text.data.map ipTok ++ .star (· != '\n') :: lits "not found")

/-- The `ValueError` for an address the tool cannot resolve. -/
def notFoundError (validIp : String) : PyError :=
  .valueError ("Firewall rule cannot be added as the ip address: " ++ validIp ++
    " could not be found")

section Helpers

variable {σ : Type} (exec : σ → String → String × σ)

/-- `add_drop_rule_iptables(option, valid_ip)` for the tool `iptables` and
`add_drop_rule_ip6tables` for `ip6tables`, on a console that prints `(exec s cmd).1` for a
command and leaves the state `(exec s cmd).2`. -/
def addDropRule (tool : Tool) (s : σ) (option : String) (validIp : PlainIp) : Outcome σ :=
  let checked := exec s (checkCommand tool option validIp.text)
  if (search (notFoundPattern validIp) checked.1.data).isSome then
    ⟨checked.2, some (notFoundError validIp.text)⟩
  else if Py.contains checked.1 "Bad rule" then
    ⟨(exec checked.2 (insertCommand tool option validIp.text)).2, none⟩
  else ⟨checked.2, none⟩

/-- `add_drop_rule_iptables(option, valid_ip)`. -/
def addDropRuleIptables (s : σ) (option : String) (validIp : PlainIp) : Outcome σ :=
  addDropRule exec .iptables s option validIp

/-- `add_drop_rule_ip6tables(option, valid_ip)`. -/
def addDropRuleIp6tables (s : σ) (option : String) (validIp : PlainIp) : Outcome σ :=
  addDropRule exec .ip6tables s option validIp

/-- `del_drop_rule_iptables(option, valid_ip)` and `del_drop_rule_ip6tables`: the state `-D`
leaves. -/
def delDropRule (tool : Tool) (s : σ) (option validIp : String) : σ :=
  (exec s (deleteCommand tool option validIp)).2

/-- `del_drop_rule_iptables(option, valid_ip)`. -/
def delDropRuleIptables (s : σ) (option validIp : String) : σ :=
  delDropRule exec .iptables s option validIp

/-- `del_drop_rule_ip6tables(option, valid_ip)`. -/
def delDropRuleIp6tables (s : σ) (option validIp : String) : σ :=
  delDropRule exec .ip6tables s option validIp

/-- `get_iptables_list(opts, extra_opts)` and `get_ip6tables_list`: the chains, each with its
rules, that `IptablesParser().ip6tables` reads off the tool's output. The parser is a
parameter. -/
def getTablesList {α : Type} (parse : String → List (String × List α)) (tool : Tool) (s : σ)
    (opts extraOpts : String) : List (String × List α) :=
  parse (exec s (tool.name ++ " " ++ opts ++ " " ++ extraOpts)).1

/-- `get_iptables_list(opts, extra_opts)`. -/
def getIptablesList {α : Type} (parse : String → List (String × List α)) (s : σ)
    (opts extraOpts : String) : List (String × List α) :=
  getTablesList exec parse .iptables s opts extraOpts

/-- `get_ip6tables_list(opts, extra_opts)`. -/
def getIp6tablesList {α : Type} (parse : String → List (String × List α)) (s : σ)
    (opts extraOpts : String) : List (String × List α) :=
  getTablesList exec parse .ip6tables s opts extraOpts

/-- `is_iptable_empty(opts, extra_opts)` and `is_ip6table_empty`: `any` of the chains' rule lists,
a list counting as true when it is not empty. -/
def isTableEmpty {α : Type} (parse : String → List (String × List α)) (tool : Tool) (s : σ)
    (opts extraOpts : String) : Bool :=
  (getTablesList exec parse tool s opts extraOpts).any fun c => !c.2.isEmpty

/-- `is_iptable_empty(opts, extra_opts)`. -/
def isIptableEmpty {α : Type} (parse : String → List (String × List α)) (s : σ)
    (opts extraOpts : String) : Bool :=
  isTableEmpty exec parse .iptables s opts extraOpts

/-- `is_ip6table_empty(opts, extra_opts)`. -/
def isIp6tableEmpty {α : Type} (parse : String → List (String × List α)) (s : σ)
    (opts extraOpts : String) : Bool :=
  isTableEmpty exec parse .ip6tables s opts extraOpts

end Helpers

/-! ## What the tool prints -/

/-- What `-C` prints when the chain does not hold the rule. -/
def badRuleOutput (tool : Tool) : String :=
  tool.name ++ ": Bad rule (does a matching rule exist in that chain?).\n"

/-- What the tool prints for an address it cannot resolve. -/
def notFoundOutput (tool : Tool) (validIp : String) : String :=
  tool.name ++ " v1.8.7 (legacy): " ++ "host/network \x60" ++ validIp ++ "\x27 not found" ++
    "\nTry \x60" ++ tool.name ++ " -h\x27 or \x27" ++ tool.name ++ " --help\x27 for more information.\n"

theorem matchToks_ipToks (ts : List Tok) (c : Captures) :
    ∀ l s : List Char, matchToks (l.map ipTok ++ ts) (l ++ s) c = matchToks ts s c
  | [], _ => rfl
  | x :: l, s => by
    rw [List.map_cons, List.cons_append, List.cons_append, ipTok]
    split
    · next hx =>
      subst hx
      rw [matchToks_cls_cons, if_pos (by decide), matchToks_ipToks ts c l s]
    · rw [matchToks_lit_cons, if_pos rfl, matchToks_ipToks ts c l s]

theorem search_notFoundOutput (tool : Tool) (validIp : PlainIp) :
    (search (notFoundPattern validIp) (notFoundOutput tool validIp.text).data).isSome := by
  set rest := ("\nTry \x60" ++ tool.name ++ " -h\x27 or \x27" ++ tool.name ++
    " --help\x27 for more information.\n").data
  have hout : (notFoundOutput tool validIp.text).data = (tool.name ++ " v1.8.7 (legacy): ").data ++
      ("host/network".data ++ (' ' :: '\x60' :: (validIp.text.data ++
        ('\x27' :: ' ' :: ("not found".data ++ rest))))) := by
    simp only [notFoundOutput, String.data_append, List.append_assoc, rest]
    rfl
  rw [hout]
  refine search_isSome (i := (tool.name ++ " v1.8.7 (legacy): ").data.length) (by simp) ?_
  rw [List.drop_left, notFoundPattern, lits, matchToks_lits_append]
  refine matchToks_star_isSome (k := 2) (by simp) ?_
  rw [List.drop_succ_cons, List.drop_succ_cons, List.drop_zero, matchToks_ipToks]
  refine matchToks_star_isSome (k := 2) (by simp) ?_
  rw [List.drop_succ_cons, List.drop_succ_cons, List.drop_zero, lits,
    ← List.append_nil ("not found".data.map Tok.lit), matchToks_lits_append]
  rfl

theorem contains_of_search_notFoundPattern {validIp : PlainIp} {out : String}
    (h : (search (notFoundPattern validIp) out.data).isSome) : Py.contains out "host/network" := by
  obtain ⟨c, hc⟩ := Option.isSome_iff_exists.mp h
  obtain ⟨i, r, hm⟩ := search_eq_some hc
  rw [notFoundPattern, lits, matchToks_lits] at hm
  split_ifs at hm with hpre
  exact List.any_eq_true.mpr
    ⟨out.data.drop i, (List.mem_tails _ _).mpr (List.drop_suffix _ _), hpre⟩

theorem search_notFoundPattern_eq_false {validIp : PlainIp} {out : String}
    (h : Py.contains out "host/network" = false) :
    (search (notFoundPattern validIp) out.data).isSome = false :=
  Bool.eq_false_iff.mpr fun hs => by rw [contains_of_search_notFoundPattern hs] at h; cases h

/-! ## One call -/

section Console

variable {σ : Type} (exec : σ → String → String × σ) (tool : Tool) (chain : σ → List String)

/-- The console runs `tool` on a state whose INPUT chain is `chain s`, for the commands of the
rule for `option` and `valid_ip`, an address the tool resolves or not (`resolves`): `-C` changes
nothing, and prints nothing when the chain holds the rule, `Bad rule` when it does not, and
`host/network ... not found` when the address does not resolve; `-I INPUT 1` puts the rule at the
head of the chain; `-D` takes its first copy out. -/
structure ServesRule (option validIp : String) (resolves : Bool) : Prop where
  check : ∀ s, exec s (checkCommand tool option validIp) =
    (if resolves then (if dropRule option validIp ∈ chain s then "" else badRuleOutput tool)
      else notFoundOutput tool validIp, s)
  insert : resolves → ∀ s,
    chain (exec s (insertCommand tool option validIp)).2 = dropRule option validIp :: chain s
  delete : ∀ s, chain (exec s (deleteCommand tool option validIp)).2 =
    if resolves then (chain s).erase (dropRule option validIp) else chain s

variable {exec tool chain} {option : String} {validIp : PlainIp}

/-- For an address the tool resolves, the call raises nothing and leaves the chain with the rule
in it once. -/
theorem addDropRule_of_resolves (h : ServesRule exec tool chain option validIp.text true) (s : σ) :
    (addDropRule exec tool s option validIp).raised = none ∧
      chain (addDropRule exec tool s option validIp).state =
        (chain s).insert (dropRule option validIp.text) := by
  have hbad : Py.contains (badRuleOutput tool) "host/network" = false ∧
      Py.contains (badRuleOutput tool) "Bad rule" = true := by
    cases tool <;> decide
  by_cases hmem : dropRule option validIp.text ∈ chain s
  · simp only [addDropRule, h.check, if_true, if_pos hmem,
      search_notFoundPattern_eq_false (show Py.contains "" "host/network" = false by decide),
      show Py.contains "" "Bad rule" = false by decide, Bool.false_eq_true, if_false]
    exact ⟨trivial, (List.insert_of_mem hmem).symm⟩
  · simp only [addDropRule, h.check, if_true, if_neg hmem, search_notFoundPattern_eq_false hbad.1,
      hbad.2, Bool.false_eq_true, if_false]
    exact ⟨trivial, by rw [h.insert rfl, List.insert_of_not_mem hmem]⟩

/-- For an address the tool cannot resolve, the call raises the `ValueError` and leaves the
state. -/
theorem addDropRule_of_not_resolves (h : ServesRule exec tool chain option validIp.text false)
    (s : σ) : addDropRule exec tool s option validIp = ⟨s, some (notFoundError validIp.text)⟩ := by
  simp only [addDropRule, h.check, Bool.false_eq_true, if_false, search_notFoundOutput, if_true]

end Console

/-! ## Runs of calls -/

/-- One call of the helpers. -/
inductive FirewallCall where
  /-- `add_drop_rule_*(option, valid_ip)`. -/
  | add (option : String) (validIp : PlainIp)
  /-- `del_drop_rule_*(option, valid_ip)`. -/
  | del (option validIp : String)

def FirewallCall.option : FirewallCall → String
  | .add option _ | .del option _ => option

def FirewallCall.validIp : FirewallCall → String
  | .add _ validIp => validIp.text
  | .del _ validIp => validIp

/-- Calls of the helpers one after another on one console, up to the first that raises. -/
def runCalls {σ : Type} (exec : σ → String → String × σ) (tool : Tool) :
    σ → List FirewallCall → Outcome σ
  | s, [] => ⟨s, none⟩
  | s, .add option validIp :: calls =>
    let r := addDropRule exec tool s option validIp
    if r.raised.isSome then r else runCalls exec tool r.state calls
  | s, .del option validIp :: calls => runCalls exec tool (delDropRule exec tool s option validIp) calls

/-- What a run of calls is for: the DROP rules in force after it, from those in force before, and
the address that stopped it, if one did. -/
def blockedAfter (resolves : String → Bool) :
    List FirewallCall → (String → Bool) → (String → Bool) × Option String
  | [], b => (b, none)
  | .add option validIp :: calls, b =>
    if resolves validIp.text then
      blockedAfter resolves calls fun r => r == dropRule option validIp.text || b r
    else (b, some validIp.text)
  | .del option validIp :: calls, b =>
    blockedAfter resolves calls fun r => !(resolves validIp && r == dropRule option validIp) && b r

section Runs

variable {σ : Type} {exec : σ → String → String × σ} {tool : Tool} {chain : σ → List String}
  {option validIp : String} {s : σ} {b : String → Bool}

/-- An addition for an address the tool resolves keeps the chain free of repeats and adds its
rule to those the chain blocks. -/
theorem addDropRule_blocks {ip : PlainIp} (h : ServesRule exec tool chain option ip.text true)
    (hnd : (chain s).Nodup) (hb : ∀ r, r ∈ chain s ↔ b r = true) :
    (chain (addDropRule exec tool s option ip).state).Nodup ∧
      ∀ r, r ∈ chain (addDropRule exec tool s option ip).state ↔
        (r == dropRule option ip.text || b r) = true := by
  rw [(addDropRule_of_resolves h s).2]
  exact ⟨hnd.insert, fun r => by rw [List.mem_insert_iff, hb, Bool.or_eq_true, beq_iff_eq]⟩

/-- A deletion keeps the chain free of repeats and takes its rule out of those the chain blocks
when the tool resolves the address. -/
theorem delDropRule_blocks {resolves : Bool} (h : ServesRule exec tool chain option validIp resolves)
    (hnd : (chain s).Nodup) (hb : ∀ r, r ∈ chain s ↔ b r = true) :
    (chain (delDropRule exec tool s option validIp)).Nodup ∧
      ∀ r, r ∈ chain (delDropRule exec tool s option validIp) ↔
        (!(resolves && r == dropRule option validIp) && b r) = true := by
  rw [delDropRule, h.delete]
  cases resolves with
  | false => exact ⟨hnd, fun r => by simpa using hb r⟩
  | true => exact ⟨hnd.erase _, fun r => by simp [hnd.mem_erase_iff, hb]⟩

end Runs

/-! ## `is_iptable_empty` -/

/-- The listing the console prints for `tool {opts} {extra_opts}` parses into chains among which
the INPUT chain lists a rule exactly when `chain s` holds one. -/
def ListsInput {σ α : Type} (exec : σ → String → String × σ) (tool : Tool) (chain : σ → List String)
    (parse : String → List (String × List α)) (opts extraOpts : String) : Prop :=
  ∀ s, ∃ rules, ("INPUT", rules) ∈ getTablesList exec parse tool s opts extraOpts ∧
    (rules = [] ↔ chain s = [])

/-- `is_iptable_empty` answers `True` right after a DROP rule is added, and `False` on a table
whose chains are all empty. -/
theorem isTableEmpty_after_add {σ α : Type} {exec : σ → String → String × σ} {tool : Tool}
    {chain : σ → List String} {parse : String → List (String × List α)}
    {option : String} {validIp : PlainIp} {opts extraOpts : String}
    (h : ServesRule exec tool chain option validIp.text true)
    (hl : ListsInput exec tool chain parse opts extraOpts) (s : σ) :
    isTableEmpty exec parse tool (addDropRule exec tool s option validIp).state opts extraOpts =
        true ∧
      ∀ s' : σ, (∀ c ∈ getTablesList exec parse tool s' opts extraOpts, c.2 = []) →
        isTableEmpty exec parse tool s' opts extraOpts = false := by
  refine ⟨?_, fun s' hempty => List.any_eq_false.mpr fun c hc => by simp [hempty c hc]⟩
  obtain ⟨rules, hmem, hrules⟩ := hl (addDropRule exec tool s option validIp).state
  have hne : chain (addDropRule exec tool s option validIp).state ≠ [] := by
    rw [(addDropRule_of_resolves h s).2]
    exact List.ne_nil_of_mem (List.mem_insert_self _ _)
  exact List.any_eq_true.mpr ⟨_, hmem, by simpa [List.isEmpty_iff] using mt hrules.mp hne⟩

/-! ## A console with a firewall -/

/-- The INPUT chain as the state of a console running `tool`, for the rules `rules` whose
addresses `resolves` says the tool resolves: the console answers their `-C`, `-I` and `-D`
commands as the tool does, prints `Chain INPUT` for any other command when the chain holds a
rule, and nothing when it does not. -/
def chainConsole (tool : Tool) (rules : List (String × String)) (resolves : String → Bool)
    (s : List String) (c : String) : String × List String :=
  match rules.find? fun r => checkCommand tool r.1 r.2 == c with
  | some r => (if resolves r.2 then (if dropRule r.1 r.2 ∈ s then "" else badRuleOutput tool)
      else notFoundOutput tool r.2, s)
  | none =>
    match rules.find? fun r => insertCommand tool r.1 r.2 == c with
    | some r => ("", if resolves r.2 then dropRule r.1 r.2 :: s else s)
    | none =>
      match rules.find? fun r => deleteCommand tool r.1 r.2 == c with
      | some r => ("", if resolves r.2 then s.erase (dropRule r.1 r.2) else s)
      | none => (if s.isEmpty then "" else "Chain INPUT", s)

section Commands

theorem eq_of_append_eq_append {p r r' : String} (h : p ++ r = p ++ r') : r = r' :=
  String.ext (List.append_cancel_left (by simpa only [String.data_append] using congrArg String.data h))

theorem append_ne_append {p a b r r' : String} (n : Nat) (ha : n ≤ a.data.length)
    (hb : n ≤ b.data.length) (hab : a.data.take n ≠ b.data.take n) : p ++ a ++ r ≠ p ++ b ++ r' :=
  fun h => hab <| by
    have h' : p.data ++ (a.data ++ r.data) = p.data ++ (b.data ++ r'.data) := by
      simpa only [String.data_append, List.append_assoc] using congrArg String.data h
    have := congrArg (List.take n) (List.append_cancel_left h')
    rwa [List.take_append_of_le_length ha, List.take_append_of_le_length hb] at this

variable (tool : Tool) (option validIp option' validIp' : String)

theorem checkCommand_ne_insertCommand :
    checkCommand tool option validIp ≠ insertCommand tool option' validIp' :=
  append_ne_append 3 (by decide) (by decide) (by decide)

theorem checkCommand_ne_deleteCommand :
    checkCommand tool option validIp ≠ deleteCommand tool option' validIp' :=
  append_ne_append 3 (by decide) (by decide) (by decide)

theorem insertCommand_ne_deleteCommand :
    insertCommand tool option validIp ≠ deleteCommand tool option' validIp' :=
  append_ne_append 3 (by decide) (by decide) (by decide)

end Commands

section ChainConsole

variable {tool : Tool} {rules : List (String × String)} {resolves : String → Bool}
  {option validIp : String}

theorem find?_command (cmd : Tool → String → String → String)
    (hcmd : ∀ o ip o' ip', cmd tool o ip = cmd tool o' ip' → dropRule o ip = dropRule o' ip')
    (hmem : (option, validIp) ∈ rules)
    (huniq : ∀ r ∈ rules, dropRule r.1 r.2 = dropRule option validIp → r = (option, validIp)) :
    rules.find? (fun r => cmd tool r.1 r.2 == cmd tool option validIp) = some (option, validIp) := by
  obtain ⟨r, hr⟩ : ∃ r, rules.find? (fun r => cmd tool r.1 r.2 == cmd tool option validIp) = some r :=
    Option.isSome_iff_exists.mp (List.find?_isSome.mpr ⟨_, hmem, beq_self_eq_true _⟩)
  have hp := List.find?_some hr
  have hcmd_eq : cmd tool r.1 r.2 = cmd tool option validIp := beq_iff_eq.mp hp
  rw [hr, huniq r (List.mem_of_find?_eq_some hr) (hcmd _ _ _ _ hcmd_eq)]

theorem find?_command_eq_none {cmd cmd' : String → String → String}
    (hne : ∀ o ip, cmd o ip ≠ cmd' option validIp) :
    rules.find? (fun r => cmd r.1 r.2 == cmd' option validIp) = none :=
  List.find?_eq_none.mpr fun r _ h => hne r.1 r.2 (beq_iff_eq.mp h)

/-- `chainConsole` serves each of its rules whose text no other of its rules has. -/
theorem servesRule_chainConsole (hmem : (option, validIp) ∈ rules)
    (huniq : ∀ r ∈ rules, dropRule r.1 r.2 = dropRule option validIp → r = (option, validIp)) :
    ServesRule (chainConsole tool rules resolves) tool id option validIp (resolves validIp) where
  check s := by
    rw [chainConsole, find?_command checkCommand (fun _ _ _ _ => eq_of_append_eq_append) hmem huniq]
    rfl
  insert hres s := by
    rw [chainConsole, find?_command_eq_none fun o ip => checkCommand_ne_insertCommand tool o ip _ _,
      find?_command insertCommand (fun _ _ _ _ => eq_of_append_eq_append) hmem huniq]
    exact if_pos hres
  delete s := by
    rw [chainConsole, find?_command_eq_none fun o ip => checkCommand_ne_deleteCommand tool o ip _ _,
      find?_command_eq_none fun o ip => insertCommand_ne_deleteCommand tool o ip _ _,
      find?_command deleteCommand (fun _ _ _ _ => eq_of_append_eq_append) hmem huniq]
    rfl

end ChainConsole

/-- The rules of `chainConsole` in the examples below: an address and a host name. -/
def firewallRules : List (String × String) := [("-s", "10.0.0.1"), ("-s", "nohost")]

/-- The tool resolves the address `10.0.0.1` and nothing else. -/
def resolvesLan (validIp : String) : Bool := validIp == "10.0.0.1"

/-- Calls that add a rule twice, delete it, add it again, then stop at a host the tool cannot
resolve before a last deletion. -/
def firewallCalls : List FirewallCall :=
  [.add "-s" ⟨"10.0.0.1", by decide⟩, .add "-s" ⟨"10.0.0.1", by decide⟩, .del "-s" "10.0.0.1",
    .add "-s" ⟨"10.0.0.1", by decide⟩, .add "-s" ⟨"nohost", by decide⟩, .del "-s" "10.0.0.1"]

theorem servesRule_firewallCalls : ∀ call ∈ firewallCalls,
    ServesRule (chainConsole .iptables firewallRules resolvesLan) .iptables id call.option
      call.validIp (resolvesLan call.validIp) := by
  have hmem : ∀ call ∈ firewallCalls, (call.option, call.validIp) ∈ firewallRules := by decide
  have huniq : ∀ call ∈ firewallCalls, ∀ r ∈ firewallRules,
      dropRule r.1 r.2 = dropRule call.option call.validIp → r = (call.option, call.validIp) := by
    decide
  exact fun call hc => servesRule_chainConsole (hmem call hc) (huniq call hc)

set_option maxRecDepth 8000 in
example : (runCalls (chainConsole .iptables firewallRules resolvesLan) .iptables [] firewallCalls).state =
      [dropRule "-s" "10.0.0.1"] ∧
    (runCalls (chainConsole .iptables firewallRules resolvesLan) .iptables [] firewallCalls).raised =
      some (notFoundError "nohost") := by
  decide

end Boardfarm
