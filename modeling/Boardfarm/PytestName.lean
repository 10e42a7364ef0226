import Boardfarm.Python

/-!
# The test name from `PYTEST_CURRENT_TEST`

pytest keeps the node id of the running test in `PYTEST_CURRENT_TEST`, followed by the phase, as
in `tests/test_a.py::test_b (setup)`. `get_pytest_name()` cuts that text at the first ` (setup)`,
takes the segment after the first `::` and replaces each space with `_`. The segment after the
last `::` is another one as soon as the node id has two `::`, which it has for a test method
`file::Class::name`: the code then returns the class (`getPytestName_classTest`). Over every
node id `file::n₁::…::nₖ` the code returns `n₁` and the segment after the last `::` is `nₖ`
(`getPytestName_nodeId`).
-/

namespace Boardfarm

/-- `get_pytest_name()` with `PYTEST_CURRENT_TEST` holding `pytestCurrentTest`; `none` when it is
unset, where `os.environ.get` returns `None`, which has no `split`. -/
def getPytestName (pytestCurrentTest : Option String) : Except PyError String :=
  match pytestCurrentTest with
  | none => .error (.attributeError "\x27NoneType\x27 object has no attribute \x27split\x27")
  | some s => do
    let parts ← Py.splitStr s " (setup)"
    let head ← Py.subscript parts 0
    let segments ← Py.splitStr head "::"
    let name ← Py.subscript segments 1
    pure (Py.replace name ' ' '_')

/-- The segment of a text after its last `::`; all of the text when it has none. -/
def afterLastSep : List Char → List Char
  | [] => []
  | c :: s =>
    if Py.contains ⟨s⟩ "::" then afterLastSep s
    else if "::".data.isPrefixOf (c :: s) then s.drop 1
    else c :: s

/-- The name the specification describes for a value of `PYTEST_CURRENT_TEST`: the segment after
its last `::`, without a ` (setup)` suffix, each space replaced by `_`. -/
def specPytestName (s : String) : String :=
  let seg := afterLastSep s.data
  let seg := if " (setup)".data.isSuffixOf seg then seg.take (seg.length - " (setup)".length) else seg
  Py.replace ⟨seg⟩ ' ' '_'

/-- `PYTEST_CURRENT_TEST` for the test `file::n₁::…::nₖ`, in its setup phase or bare. -/
def nodeIdText (file : List Char) (names : List (List Char)) (setup : Bool) : String :=
  ⟨"::".data.intercalate (file :: names) ++ if setup then " (setup)".data else []⟩

section NodeId

theorem sep_data : "::".data = [':', ':'] := rfl

theorem setup_data : " (setup)".data = [' ', '(', 's', 'e', 't', 'u', 'p', ')'] := rfl

theorem intercalate_singleton (sep p : List Char) : sep.intercalate [p] = p := List.append_nil p

theorem intercalate_cons_cons (sep p q : List Char) (ps : List (List Char)) :
    sep.intercalate (p :: q :: ps) = p ++ (sep ++ sep.intercalate (q :: ps)) := by
  simp [List.intercalate, List.intersperse_cons_cons]

theorem not_mem_intercalate {c : Char} {sep : List Char} (hsep : c ∉ sep) :
    ∀ ps : List (List Char), (∀ p ∈ ps, c ∉ p) → c ∉ sep.intercalate ps
  | [], _ => List.not_mem_nil c
  | [p], h => by
    rw [intercalate_singleton]
    exact h p (List.mem_singleton_self p)
  | p :: q :: ps, h => by
    rw [intercalate_cons_cons, List.mem_append, List.mem_append, not_or, not_or]
    exact ⟨h p (List.mem_cons_self _ _), hsep,
      not_mem_intercalate hsep (q :: ps) fun r hr => h r (List.mem_cons_of_mem _ hr)⟩

theorem splitStrFrom_intercalate :
    ∀ (p : List Char) (ps : List (List Char)), (∀ q ∈ p :: ps, ':' ∉ q) →
      Py.splitStrFrom "::".data 0 ("::".data.intercalate (p :: ps)) = p :: ps
  | p, [], h => by
    rw [sep_data, intercalate_singleton]
    exact Py.splitStrFrom_of_noMatchIn (by decide)
      (Py.noMatchIn_of_not_mem [] (h p (List.mem_cons_self _ _)))
  | p, q :: ps, h => by
    rw [intercalate_cons_cons, sep_data, Py.splitStrFrom_append_sep (by decide) _
        (Py.noMatchIn_of_not_mem _ (h p (List.mem_cons_self _ _))),
      ← sep_data, splitStrFrom_intercalate q ps fun r hr => h r (List.mem_cons_of_mem _ hr)]

theorem splitStrFrom_setup {body : List Char} (h : '(' ∉ body) (setup : Bool) :
    Py.splitStrFrom " (setup)".data 0 (body ++ if setup then " (setup)".data else []) =
      if setup then [body, []] else [body] := by
  rw [setup_data]
  cases setup with
  | false =>
    rw [if_neg Bool.false_ne_true, List.append_nil]
    exact Py.splitStrFrom_of_noMatchIn (by decide) (Py.noMatchIn_of_not_mem_second h (by decide))
  | true =>
    have hsplit := Py.splitStrFrom_append_sep (by decide) []
      (@Py.noMatchIn_of_not_mem_second ' ' '(' ['s', 'e', 't', 'u', 'p', ')'] _ _ h (by decide))
    rw [List.append_nil] at hsplit
    rw [if_pos rfl, hsplit]
    rfl

theorem afterLastSep_append_of_contains (u : List Char) {v : List Char}
    (hv : Py.contains ⟨v⟩ "::") : afterLastSep (u ++ v) = afterLastSep v := by
  induction u with
  | nil => rfl
  | cons c u ih => rw [List.cons_append, afterLastSep, if_pos (Py.contains_append_left u hv), ih]

theorem afterLastSep_sep {t : List Char} (ht : ':' ∉ t) : afterLastSep (':' :: ':' :: t) = t := by
  have hrest : Py.NoMatchIn [':', ':'] t [] := Py.noMatchIn_of_not_mem [] ht
  have hnone : Py.contains ⟨':' :: t⟩ "::" = false := by
    refine List.any_eq_false.mpr fun x hx => ?_
    change x ∈ (':' :: t).tails at hx
    rw [List.tails_cons, List.mem_cons] at hx
    rw [sep_data]
    rcases hx with rfl | hx
    · simp only [List.isPrefixOf, beq_self_eq_true, Bool.true_and]
      rw [Py.isPrefixOf_cons_of_head? fun he => ht (List.mem_of_mem_head? he)]
      exact Bool.false_ne_true
    · rcases x with _ | ⟨y, x⟩
      · decide
      · have hx := hrest _ hx (List.cons_ne_nil _ _)
        rw [List.append_nil] at hx
        rw [hx]
        exact Bool.false_ne_true
  have hsep : [':', ':'].isPrefixOf (':' :: ':' :: t) :=
    List.isPrefixOf_iff_prefix.mpr (List.prefix_append [':', ':'] t)
  rw [afterLastSep, if_neg (by rw [hnone]; decide), sep_data, if_pos hsep]
  rfl

theorem afterLastSep_intercalate (sfx : List Char) (hsfx : ':' ∉ sfx) :
    ∀ (p : List Char) (names : List (List Char)) (hnames : names ≠ []), (∀ q ∈ names, ':' ∉ q) →
      afterLastSep ("::".data.intercalate (p :: names) ++ sfx) = names.getLast hnames ++ sfx
  | p, [n], _, h => by
    have hn : ':' ∉ n ++ sfx := by
      simpa [not_or] using And.intro (h n (List.mem_singleton_self _)) hsfx
    rw [intercalate_cons_cons, intercalate_singleton, List.append_assoc, List.append_assoc,
      afterLastSep_append_of_contains p (v := "::".data ++ (n ++ sfx))
        (Py.contains_of_eq_append (a := []) (b := n ++ sfx) rfl)]
    exact afterLastSep_sep hn
  | p, n :: m :: ns, _, h => by
    have hw : Py.contains ⟨"::".data.intercalate (n :: m :: ns) ++ sfx⟩ "::" := by
      rw [intercalate_cons_cons]
      exact Py.contains_of_eq_append (a := n) (b := "::".data.intercalate (m :: ns) ++ sfx)
        (by simp only [List.append_assoc])
    rw [intercalate_cons_cons]
    simp only [List.append_assoc]
    rw [← List.append_assoc p, afterLastSep_append_of_contains _ hw,
      afterLastSep_intercalate sfx hsfx n (m :: ns) (List.cons_ne_nil _ _)
        fun q hq => h q (List.mem_cons_of_mem _ hq)]
    rfl

end NodeId

/-- On a node id, the code returns the first name after the file. -/
theorem getPytestName_nodeIdText (file n : List Char) (ns : List (List Char)) (setup : Bool)
    (hchars : ∀ p ∈ file :: n :: ns, ':' ∉ p ∧ '(' ∉ p) :
    getPytestName (some (nodeIdText file (n :: ns) setup)) = .ok (Py.replace ⟨n⟩ ' ' '_') := by
  set body := "::".data.intercalate (file :: n :: ns) with hbody
  have hparen : '(' ∉ body := not_mem_intercalate (by decide) _ fun q hq => (hchars q hq).2
  have hparts : Py.splitStr (nodeIdText file (n :: ns) setup) " (setup)" =
      .ok ((if setup then [body, []] else [body]).map String.mk) := by
    rw [Py.splitStr, if_neg (by decide), nodeIdText, ← hbody]
    exact congrArg (fun l => (.ok (l.map String.mk) : Except PyError (List String)))
      (splitStrFrom_setup hparen setup)
  have hhead : Py.subscript ((if setup then [body, []] else [body]).map String.mk) 0 = .ok ⟨body⟩ := by
    cases setup <;> rfl
  have hsegments : Py.splitStr ⟨body⟩ "::" = .ok ((file :: n :: ns).map String.mk) := by
    rw [Py.splitStr, if_neg (by decide), hbody,
      splitStrFrom_intercalate _ _ fun q hq => (hchars q hq).1]
  have hname : Py.subscript ((file :: n :: ns).map String.mk) 1 = .ok ⟨n⟩ :=
    Py.subscript_of_lt (i := 1) (by simp)
  simp only [getPytestName, hparts, hhead, hsegments, hname, bind, Except.bind, pure, Except.pure]

/-- On a node id, the specification reads the last name. -/
theorem specPytestName_nodeIdText (file : List Char) (names : List (List Char)) (setup : Bool)
    (hnames : names ≠ []) (hchars : ∀ p ∈ file :: names, ':' ∉ p ∧ '(' ∉ p) :
    specPytestName (nodeIdText file names setup) = Py.replace ⟨names.getLast hnames⟩ ' ' '_' := by
  have hseg := afterLastSep_intercalate (if setup then " (setup)".data else [])
    (by cases setup <;> decide) file names hnames fun q hq => (hchars q (List.mem_cons_of_mem _ hq)).1
  have hlastParen : '(' ∉ names.getLast hnames :=
    (hchars _ (List.mem_cons_of_mem _ (List.getLast_mem hnames))).2
  simp only [specPytestName, nodeIdText, hseg]
  cases setup with
  | false =>
    have hsuffix : " (setup)".data.isSuffixOf (names.getLast hnames) = false := by
      refine Bool.eq_false_iff.mpr fun hs => hlastParen ?_
      exact (List.isSuffixOf_iff_suffix.mp hs).subset (by rw [setup_data]; decide)
    simp only [Bool.false_eq_true, if_false, List.append_nil, hsuffix]
  | true =>
    have hsuffix : " (setup)".data.isSuffixOf (names.getLast hnames ++ " (setup)".data) :=
      List.isSuffixOf_iff_suffix.mpr (List.suffix_append _ _)
    rw [if_pos rfl, if_pos hsuffix, List.take_left'
      (by rw [show " (setup)".length = 8 from rfl]; simp [setup_data])]

/-- Over every node id `file::n₁::…::nₖ` whose parts hold no `:` and no `(`, in its setup phase or
bare, the code returns `n₁` and the specification `nₖ`, spaces replaced by `_`: the two agree
when the node id has one `::`, and not in general for a test method. -/
theorem getPytestName_nodeId (file : List Char) (names : List (List Char)) (setup : Bool)
    (hnames : names ≠ []) (hchars : ∀ p ∈ file :: names, ':' ∉ p ∧ '(' ∉ p) :
    getPytestName (some (nodeIdText file names setup)) =
        .ok (Py.replace ⟨names.head hnames⟩ ' ' '_') ∧
      specPytestName (nodeIdText file names setup) =
        Py.replace ⟨names.getLast hnames⟩ ' ' '_' := by
  obtain ⟨n, ns, rfl⟩ := List.exists_cons_of_ne_nil hnames
  exact ⟨getPytestName_nodeIdText file n ns setup hchars,
    specPytestName_nodeIdText file _ setup hnames hchars⟩

/-- The setup phase of the method `test_b` of the class `TestA`. -/
theorem getPytestName_nodeId_testMethod :
    ["TestA".data, "test_b".data] ≠ [] ∧
      (∀ p ∈ ["tests/test_a.py".data, "TestA".data, "test_b".data], ':' ∉ p ∧ '(' ∉ p) ∧
      getPytestName (some (nodeIdText "tests/test_a.py".data ["TestA".data, "test_b".data] true)) =
          .ok (Py.replace ⟨"TestA".data⟩ ' ' '_') ∧
        specPytestName (nodeIdText "tests/test_a.py".data ["TestA".data, "test_b".data] true) =
          Py.replace ⟨"test_b".data⟩ ' ' '_' :=
  ⟨by decide, by decide, getPytestName_nodeId _ _ true (by decide) (by decide)⟩

/-- The setup phase of the method `test_b` of the class `TestA`: the code returns the class. -/
theorem getPytestName_classTest :
    getPytestName (some "tests/test_a.py::TestA::test_b (setup)") = .ok "TestA" ∧
      specPytestName "tests/test_a.py::TestA::test_b (setup)" = "test_b" := by
  decide

end Boardfarm
