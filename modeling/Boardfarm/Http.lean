import Boardfarm.Search

/-!
# `HTTPResult`: what `http_get` reads from `curl -v`

`http_get(console, url, timeout)` runs `curl -v` on the console and parses its output with
`HTTPResult._parse_response`: a response that mentions a refused or timed-out connection raises
`UseCaseFailure`; otherwise `raw` is `re.findall(r"\<(\!DOC|head).*\>", response, re.S)[0]` and
`code` is `re.findall(r"< HTTP\/.*\s(\d+)", response)[0]`, each an `IndexError` when the pattern
finds nothing.

`findall` with one group lists the group's text, not the match: so `raw` is the text of
`(\!DOC|head)`, always `!DOC` or `head`, never the document (`parseResponse_eq_ok`). The code is a
run of decimal digits after `< HTTP/` and a blank on one line, the whole run. BeautifulSoup's
`prettify` is a parameter.
-/

namespace Boardfarm

/-- `re.findall(pattern, s)[0]` for a pattern with one group: the group of the leftmost match,
which is the first `findall` lists, or `IndexError` when it lists none. -/
def findallFirst (alts : List (List Tok)) (s : String) : Except PyError String :=
  match searchAlts alts s.data with
  | none => .error (.indexError "list index out of range")
  | some c => .ok ⟨(c.group 1).getD []⟩

/-- `\<(w).*\>` with `re.S`: `.` takes every character. -/
def rawAlternative (w : String) : List Tok :=
  .lit '<' :: .groupStart 1 :: (lits w ++ [.groupEnd 1, .star fun _ => true, .lit '>'])

/-- `\<(\!DOC|head).*\>`, one alternative for each branch of the group. -/
def rawPattern : List (List Tok) := [rawAlternative "!DOC", rawAlternative "head"]

/-- `< HTTP\/.*\s(\d+)`. -/
def codePattern : List Tok :=
  lits "< HTTP/" ++
    [.star (· != '\n'), .cls Py.isSpace, .groupStart 1, .cls Py.isDecimal, .star Py.isDecimal,
      .groupEnd 1]

/-- The exception `_parse_response` raises for a failed connection. -/
def useCaseFailure (response : String) : PyError :=
  .other "UseCaseFailure" ("Curl Failure due to the following reason " ++ response)

/-- `HTTPResult._parse_response(response)`: `raw`, `code` and `beautified_text`. -/
def parseResponse (prettify : String → String) (response : String) :
    Except PyError (String × String × String) :=
  if Py.contains response "Connection refused" || Py.contains response "Connection timed out" then
    .error (useCaseFailure response)
  else do
    let raw ← findallFirst rawPattern response
    let code ← findallFirst [codePattern] response
    pure (raw, code, prettify raw)

/-- An `HTTPResult`. -/
structure HTTPResult where
  response : String
  raw : String
  code : String
  beautifiedText : String

/-- `HTTPResult(response)`. -/
def HTTPResult.new (prettify : String → String) (response : String) : Except PyError HTTPResult := do
  let parsed ← parseResponse prettify response
  pure ⟨response, parsed.1, parsed.2.1, parsed.2.2⟩

def curlCommand (url : String) (timeout : Int) : String :=
  "curl -v --connect-timeout " ++ toString timeout ++ " " ++ url

/-- `http_get(console, url, timeout)`. -/
def httpGet (executeCommand : String → String) (prettify : String → String) (url : String)
    (timeout : Int) : Except PyError HTTPResult :=
  HTTPResult.new prettify (executeCommand (curlCommand url timeout))

section Patterns

variable {c : Captures}

theorem matchToks_star_lit_captures {p : Char → Bool} {d : Char} {s r : List Char} {c' : Captures}
    (h : matchToks [.star p, .lit d] s c = some (r, c')) : c' = c := by
  obtain ⟨k, -, h⟩ := matchToks_star_eq_some h
  cases hs : s.drop k with
  | nil => rw [hs] at h; cases h
  | cons y rest =>
    rw [hs, matchToks_lit_cons] at h
    split_ifs at h
    exact (Prod.mk.inj (Option.some.inj h)).2.symm

theorem rawAlternative_group {w : String} {s r : List Char}
    (h : matchToks (rawAlternative w) s ⟨[], []⟩ = some (r, c)) : c.group 1 = some w.data := by
  cases s with
  | nil => cases h
  | cons x s =>
    rw [rawAlternative, matchToks_lit_cons] at h
    split_ifs at h
    rw [lits, matchToks_group_lits] at h
    split_ifs at h
    rw [matchToks_star_lit_captures h]
    rfl

/-- What `< HTTP\/.*\s(\d+)` finds: after `< HTTP/`, on one line, a blank and then a run of decimal
digits, which is group 1, the whole run. -/
theorem search_codePattern {s : List Char} (h : searchAlts [codePattern] s = some c) :
    ∃ pre mid sp code rest, s = pre ++ "< HTTP/".data ++ mid ++ sp :: code ++ rest ∧
      (∀ x ∈ mid, x ≠ '\n') ∧ Py.isSpace sp ∧ code ≠ [] ∧ (∀ x ∈ code, Py.isDecimal x) ∧
      (∀ x ∈ rest.head?, Py.isDecimal x = false) ∧ c.group 1 = some code := by
  obtain ⟨i, ts, hts, r, h⟩ := searchAlts_eq_some h
  rw [List.mem_singleton] at hts
  subst hts
  rw [codePattern, lits, matchToks_lits] at h
  split_ifs at h with h₁
  obtain ⟨k, hk, h⟩ := matchToks_star_eq_some h
  cases hsp : ((s.drop i).drop "< HTTP/".data.length).drop k with
  | nil => rw [hsp] at h; cases h
  | cons sp t =>
    rw [hsp, matchToks_cls_cons] at h
    split_ifs at h with hsp'
    rw [matchToks_groupStart] at h
    cases t with
    | nil => cases h
    | cons x t =>
      rw [matchToks_cls_cons] at h
      split_ifs at h with hx
      rw [@matchToks_star_of_isSome [.groupEnd 1] _ _ _ fun _ _ => rfl, matchToks_groupEnd] at h
      obtain ⟨rfl, rfl⟩ := Prod.mk.inj (Option.some.inj h)
      have htd := List.takeWhile_append_dropWhile Py.isDecimal t
      have hlen : (x :: t).length - (t.dropWhile Py.isDecimal).length =
          (t.takeWhile Py.isDecimal).length + 1 := by
        have := congrArg List.length htd
        rw [List.length_append] at this
        simp only [List.length_cons]
        omega
      refine ⟨s.take i, ((s.drop i).drop "< HTTP/".data.length).take k, sp,
        x :: t.takeWhile Py.isDecimal, t.dropWhile Py.isDecimal, ?_,
        fun y hy => by simpa using forall_mem_take_of_le_takeWhile hk y hy, hsp',
        List.cons_ne_nil _ _, ?_, ?_, ?_⟩
      · calc s = s.take i ++ s.drop i := (List.take_append_drop i s).symm
          _ = _ := by
            conv_lhs => rw [eq_append_of_isPrefixOf h₁, ← List.take_append_drop k (List.drop _ _),
              hsp, ← htd]
            simp only [List.append_assoc, List.cons_append]
      · intro y hy
        rcases List.mem_cons.mp hy with rfl | hy
        · exact hx
        · exact List.mem_takeWhile_imp hy
      · intro y hy
        have := List.head?_dropWhile_not Py.isDecimal t
        rw [Option.mem_def] at hy
        rw [hy] at this
        exact this
      · simp only [Captures.group, List.lookup_cons_self, Option.getD_some, hlen,
          List.take_succ_cons]
        rw [← List.prefix_iff_eq_take.mp (List.takeWhile_prefix Py.isDecimal)]

end Patterns

/-- What `_parse_response` returns: a response that mentions no refused or timed-out connection,
`raw` the text of the group `(\!DOC|head)`, so `!DOC` or `head` and never the document, `code` a
run of decimal digits after `< HTTP/` and a blank on one line, and `prettify` of `raw`. -/
theorem parseResponse_eq_ok {prettify : String → String} {response raw code text : String}
    (h : parseResponse prettify response = .ok (raw, code, text)) :
    Py.contains response "Connection refused" = false ∧
      Py.contains response "Connection timed out" = false ∧ (raw = "!DOC" ∨ raw = "head") ∧
      (∃ pre mid sp rest, response.data = pre ++ "< HTTP/".data ++ mid ++ sp :: code.data ++ rest ∧
        (∀ x ∈ mid, x ≠ '\n') ∧ Py.isSpace sp ∧ code.data ≠ [] ∧ (∀ x ∈ code.data, Py.isDecimal x) ∧
        ∀ x ∈ rest.head?, Py.isDecimal x = false) ∧
      text = prettify raw := by
  unfold parseResponse at h
  split_ifs at h with hc
  simp only [Bool.or_eq_true, not_or, Bool.not_eq_true] at hc
  obtain ⟨raw', hraw, h⟩ := bind_eq_ok h
  obtain ⟨code', hcode, h⟩ := bind_eq_ok h
  obtain ⟨rfl, rfl, rfl⟩ : raw' = raw ∧ code' = code ∧ prettify raw' = text := by
    simpa [pure, Except.pure] using h
  refine ⟨hc.1, hc.2, ?_, ?_, rfl⟩
  · unfold findallFirst at hraw
    split at hraw
    · cases hraw
    · rename_i c hs
      obtain ⟨i, ts, hts, r, hm⟩ := searchAlts_eq_some hs
      simp only [rawPattern, List.mem_cons, List.mem_singleton, List.not_mem_nil, or_false] at hts
      cases hraw
      rcases hts with rfl | rfl
      · exact .inl (by rw [rawAlternative_group hm]; rfl)
      · exact .inr (by rw [rawAlternative_group hm]; rfl)
  · unfold findallFirst at hcode
    split at hcode
    · cases hcode
    · rename_i c hs
      obtain ⟨pre, mid, sp, code, rest, hs, hm, hsp, hne, hd, hr, hg⟩ := search_codePattern hs
      cases hcode
      rw [hg]
      exact ⟨pre, mid, sp, rest, hs, hm, hsp, hne, hd, hr⟩

/-- What `_parse_response` raises: `UseCaseFailure` quoting the response when it mentions a refused
or timed-out connection, and `IndexError` when a pattern finds nothing. -/
theorem parseResponse_raises (prettify : String → String) (response : String) :
    Raises (fun e => e = useCaseFailure response ∧ (Py.contains response "Connection refused" ∨
      Py.contains response "Connection timed out") ∨ e = .indexError "list index out of range")
      (parseResponse prettify response) := by
  have hf : ∀ alts, Raises (fun e => e = useCaseFailure response ∧
      (Py.contains response "Connection refused" ∨ Py.contains response "Connection timed out") ∨
      e = .indexError "list index out of range") (findallFirst alts response) := by
    intro alts
    unfold findallFirst
    split
    · exact .error (.inr rfl)
    · exact .ok _
  unfold parseResponse
  split_ifs with hc
  · exact .error (.inl ⟨rfl, by simpa using hc⟩)
  · exact .bind (hf _) fun _ => .bind (hf _) fun _ => .ok _

/-- What `http_get` raises: `UseCaseFailure` quoting the output of `curl -v` when it mentions a
refused or timed-out connection, and `IndexError` when a pattern finds nothing. -/
theorem httpGet_raises (executeCommand prettify : String → String) (url : String) (timeout : Int) :
    Raises (fun e => e = useCaseFailure (executeCommand (curlCommand url timeout)) ∧
      (Py.contains (executeCommand (curlCommand url timeout)) "Connection refused" ∨
        Py.contains (executeCommand (curlCommand url timeout)) "Connection timed out") ∨
      e = .indexError "list index out of range") (httpGet executeCommand prettify url timeout) :=
  .bind (parseResponse_raises _ _) fun _ => .ok _

/-- A result of `http_get`: the output of `curl -v` for the URL, `raw` `!DOC` or `head` and never
the page, a code of decimal digits that the output spells after `< HTTP/` and a blank on one line,
and the prettified `raw`. -/
theorem httpGet_eq_ok {executeCommand prettify : String → String} {url : String} {timeout : Int}
    {res : HTTPResult} (h : httpGet executeCommand prettify url timeout = .ok res) :
    res.response = executeCommand (curlCommand url timeout) ∧ (res.raw = "!DOC" ∨ res.raw = "head") ∧
      (∃ pre mid sp rest, res.response.data = pre ++ "< HTTP/".data ++ mid ++ sp :: res.code.data ++ rest ∧
        (∀ x ∈ mid, x ≠ '\n') ∧ Py.isSpace sp ∧ res.code.data ≠ [] ∧
        (∀ x ∈ res.code.data, Py.isDecimal x) ∧ ∀ x ∈ rest.head?, Py.isDecimal x = false) ∧
      res.beautifiedText = prettify res.raw := by
  obtain ⟨⟨raw, code, text⟩, hp, h⟩ := bind_eq_ok h
  cases h
  obtain ⟨-, -, hraw, hcode, htext⟩ := parseResponse_eq_ok hp
  exact ⟨rfl, hraw, hcode, htext⟩

/-- What `curl -v` prints for a page: the response headers, each after `< `, then the page. -/
def curlOutput : String :=
  "< HTTP/1.1 200 OK\r\n< Content-Type: text/html\r\n<\r\n<!DOCTYPE html>\n<html><head></head></html>\n"

/-- `http_get` on a console that prints `curlOutput`, and the theorem there: `raw` is `!DOC`. -/
theorem httpGet_eq_ok_curlOutput :
    httpGet (fun _ => curlOutput) id "http://10.0.0.1" 20 = .ok ⟨curlOutput, "!DOC", "200", "!DOC"⟩ ∧
    let res : HTTPResult := ⟨curlOutput, "!DOC", "200", "!DOC"⟩
    res.response = curlOutput ∧ (res.raw = "!DOC" ∨ res.raw = "head") ∧
      (∃ pre mid sp rest, res.response.data = pre ++ "< HTTP/".data ++ mid ++ sp :: res.code.data ++ rest ∧
        (∀ x ∈ mid, x ≠ '\n') ∧ Py.isSpace sp ∧ res.code.data ≠ [] ∧
        (∀ x ∈ res.code.data, Py.isDecimal x) ∧ ∀ x ∈ rest.head?, Py.isDecimal x = false) ∧
      res.beautifiedText = id res.raw :=
  have h : httpGet (fun _ => curlOutput) id "http://10.0.0.1" 20 =
      .ok ⟨curlOutput, "!DOC", "200", "!DOC"⟩ := rfl
  ⟨h, httpGet_eq_ok h⟩

end Boardfarm
