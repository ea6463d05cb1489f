import Http2Headers.Proofs.AuthorityText

/-!
# The grammar of authorities

What `Authority.parse?` accepts, said as a grammar over the characters of the text
(`Authority.Grammar`), one rule per shape of authority:

* `[inside]` with no `]` inside: the host is the whole text, brackets kept, and there is no port;
* `[inside]:port`: the same host, and the port;
* no leading `[` and no colon: the host is the text;
* no leading `[` and exactly one colon: the host before the colon and the port after it;
* no leading `[` and two or more colons: a bare IPv6 literal, wrapped in brackets, with no port.

A port text is one or more ASCII digits whose decimal value fits sixteen bits (`PortText`): zeros
may lead it, and a sign, a blank or a digit of another script makes it no port. Reading accepts
exactly the texts of the grammar and gives the authority the grammar assigns
(`parse?_eq_some_iff_grammar`), so every other text reads as nothing: a `[` never closed, anything
but a port after the `]`, a bad port after the only colon. Each host the grammar assigns is a run of
whole characters of the text, cut just after its first `]` or just before its colon, or the whole
text wrapped in brackets.

Both directions split a text by its first character, its first `]` and its number of colons, with
one reading lemma per shape (`parse?_bracketed`, `parse?_unclosed`, `parse?_of_colon_free`,
`parse?_of_one_colon`, `parse?_of_two_colons`), and read a port through `readPort?_eq_some_iff`.
-/

namespace Http2Headers

namespace Text

theorem digitValue?_eq_some_iff {c : Char} {d : Nat} :
    digitValue? c = some d ↔ c.isDigit = true ∧ c.toNat - '0'.toNat = d := by
  by_cases hc : c.isDigit = true
  · rw [digitValue?_of_isDigit hc, Option.some.injEq]
    exact ⟨fun h => ⟨hc, h⟩, fun h => h.2⟩
  · have hnone : digitValue? c = none := by
      simp only [Char.isDigit, Bool.and_eq_true, decide_eq_true_eq] at hc
      simp only [digitValue?, Char.le_def]
      rw [if_neg hc]
    simp [hnone, hc]

/-- A run read as a number is all ASCII digits, worth their decimal value after `acc`. -/
theorem digitsFrom_eq_some_iff (cs : List Char) (acc n : Nat) :
    digitsFrom acc cs = some n ↔
      (∀ c ∈ cs, c.isDigit = true) ∧ Nat.ofDigitChars 10 cs acc = n := by
  constructor
  · intro h
    induction cs generalizing acc with
    | nil =>
      rw [digitsFrom, Option.some.injEq] at h
      exact ⟨List.forall_mem_nil _, h⟩
    | cons c cs ih =>
      rw [digitsFrom, Option.bind_eq_some_iff] at h
      obtain ⟨d, hd, hrest⟩ := h
      obtain ⟨hc, rfl⟩ := digitValue?_eq_some_iff.1 hd
      obtain ⟨hall, hval⟩ := ih _ hrest
      exact ⟨List.forall_mem_cons.2 ⟨hc, hall⟩, by rw [Nat.ofDigitChars_cons, hval]⟩
  · rintro ⟨hall, rfl⟩
    exact digitsFrom_of_isDigit cs acc hall

theorem digitsValue?_eq_some_iff {cs : List Char} {n : Nat} :
    digitsValue? cs = some n ↔
      cs ≠ [] ∧ (∀ c ∈ cs, c.isDigit = true) ∧ Nat.ofDigitChars 10 cs 0 = n := by
  cases cs with
  | nil => simp [digitsValue?]
  | cons c cs =>
    rw [show digitsValue? (c :: cs) = digitsFrom 0 (c :: cs) from rfl, digitsFrom_eq_some_iff]
    exact ⟨fun h => ⟨List.cons_ne_nil _ _, h⟩, fun h => h.2⟩

end Text

namespace Authority

/-- `P` is the text of the port `p`: one or more ASCII digits whose decimal value is `p`. Zeros
may lead the digits; a value over 65535 is no sixteen-bit port, so its digits name none. -/
structure PortText (P : List Char) (p : UInt16) : Prop where
  ne_nil : P ≠ []
  isDigit : ∀ c ∈ P, c.isDigit = true
  value : Nat.ofDigitChars 10 P 0 = p.toNat

/-- A port is read from exactly its port texts. -/
theorem readPort?_eq_some_iff {P : List Char} {p : UInt16} :
    readPort? P = some p ↔ PortText P p := by
  rw [readPort?, Option.map_eq_some_iff]
  constructor
  · rintro ⟨n, hn, rfl⟩
    obtain ⟨hdigits, hle⟩ := Option.filter_eq_some_iff.1 hn
    obtain ⟨hne, hall, hval⟩ := Text.digitsValue?_eq_some_iff.1 hdigits
    have hbound : n ≤ 65535 := of_decide_eq_true hle
    exact ⟨hne, hall, by rw [hval, UInt16.toNat_ofNat', Nat.mod_eq_of_lt (by omega)]⟩
  · rintro ⟨hne, hall, hval⟩
    have hbound : p.toNat ≤ 65535 := Nat.le_of_lt_succ p.toNat_lt
    exact ⟨p.toNat, Option.filter_eq_some_iff.2
      ⟨Text.digitsValue?_eq_some_iff.2 ⟨hne, hall, hval⟩, decide_eq_true hbound⟩,
      UInt16.ofNat_toNat⟩

/-- After the closing bracket comes nothing, or a colon and a port text. -/
theorem afterBracket?_eq_some_iff {host : String} {after : List Char} {a : Authority} :
    afterBracket? host after = some a ↔
      (after = [] ∧ a = ⟨host, none⟩) ∨
        ∃ port p, after = ':' :: port ∧ PortText port p ∧ a = ⟨host, some p⟩ := by
  match after with
  | [] => simp [afterBracket?, eq_comm]
  | c :: port =>
    by_cases hc : c = ':'
    · subst hc
      simp only [afterBracket?, Option.map_eq_some_iff, readPort?_eq_some_iff]
      constructor
      · rintro ⟨p, hp, rfl⟩
        exact .inr ⟨port, p, rfl, hp, rfl⟩
      · rintro (⟨hnil, -⟩ | ⟨port', p, hport, hp, rfl⟩)
        · cases hnil
        · cases hport
          exact ⟨p, hp, rfl⟩
    · simp [afterBracket?, hc]

/-- A list without `c` is all in the class of characters other than `c`. -/
theorem forall_ne_of_not_mem {c : Char} {l : List Char} (h : c ∉ l) :
    ∀ x ∈ l, decide (x ≠ c) = true :=
  fun _ hx => decide_eq_true fun hxc => h (hxc ▸ hx)

/-- A list whose elements are all in the class is taken whole. -/
theorem span_of_forall {p : Char → Bool} {l : List Char} (hl : ∀ x ∈ l, p x = true) :
    l.span p = (l, []) := by
  rw [List.span_eq_takeWhile_dropWhile, List.takeWhile_eq_self_iff.2 hl,
    List.dropWhile_eq_nil_iff.2 hl]

/-- Before the first `c`, a list holds one `c` fewer than it holds in all. -/
theorem count_eq_succ_of_first {c : Char} {l host rest : List Char} (hs : l = host ++ c :: rest)
    (hhost : c ∉ host) : l.count c = rest.count c + 1 := by
  rw [hs, List.count_append, List.count_cons_self, List.count_eq_zero.2 hhost, Nat.zero_add]

/-- A text that starts with `[` and never closes it does not read. -/
theorem parse?_unclosed {s : String} {rest : List Char} (hs : s.toList = '[' :: rest)
    (hclose : ']' ∉ rest) : parse? s = none := by
  have hspan : rest.span (· ≠ ']') = (rest, []) := span_of_forall (forall_ne_of_not_mem hclose)
  simp only [parse?, hs, hspan]

/-- A text with no leading `[` and no colon is a host alone. -/
theorem parse?_of_colon_free {s : String} (hhead : s.toList.head? ≠ some '[')
    (hcolon : ':' ∉ s.toList) : parse? s = some ⟨s, none⟩ := by
  have hspan : s.toList.span (· ≠ ':') = (s.toList, []) :=
    span_of_forall (forall_ne_of_not_mem hcolon)
  unfold parse?
  split
  · next rest heq => simp [heq] at hhead
  · simp only [hspan]

/-- A text with no leading `[` and one colon is a host and a port. -/
theorem parse?_of_one_colon {s : String} {host port : List Char}
    (hhead : s.toList.head? ≠ some '[') (hs : s.toList = host ++ ':' :: port)
    (hhost : ':' ∉ host) (hport : ':' ∉ port) :
    parse? s = (readPort? port).map fun p => ⟨String.ofList host, some p⟩ := by
  -- the host is a prefix of the text, so it does not start with `[` either
  have hfirst : host.head? ≠ some '[' := by
    cases host with
    | nil => simp
    | cons d ds => simpa [hs] using hhead
  rw [← String.ofList_toList (s := s), hs]
  exact parse?_hostPort hfirst hhost hport

/-- A text with no leading `[` and two or more colons is a bare IPv6 literal. -/
theorem parse?_of_two_colons {s : String} (hhead : s.toList.head? ≠ some '[')
    (hcolons : 2 ≤ s.toList.count ':') : parse? s = some ⟨"[" ++ s ++ "]", none⟩ := by
  obtain ⟨host, port, hhost, hs, -⟩ :=
    List.exists_erase_eq (List.count_pos_iff.1 (by omega : 0 < s.toList.count ':'))
  -- a second colon follows the first
  have hport : ':' ∈ port := by
    rw [count_eq_succ_of_first hs hhost] at hcolons
    exact List.count_pos_iff.1 (by omega)
  have hspan : s.toList.span (· ≠ ':') = (host, ':' :: port) := by
    rw [hs]
    exact span_append_cons (forall_ne_of_not_mem hhost) (by simp)
  unfold parse?
  split
  · next rest heq => simp [heq] at hhead
  · simp only [hspan, if_pos hport]

/-- The authorities a text reads as: one rule for each of the five shapes listed above. -/
inductive Grammar (s : String) : Authority → Prop
  | bracketed {inside : List Char} (hs : s.toList = '[' :: inside ++ [']'])
      (hin : ']' ∉ inside) :
      Grammar s ⟨String.ofList ('[' :: inside ++ [']']), none⟩
  | bracketedPort {inside port : List Char} {p : UInt16}
      (hs : s.toList = '[' :: inside ++ ']' :: ':' :: port) (hin : ']' ∉ inside)
      (hport : PortText port p) :
      Grammar s ⟨String.ofList ('[' :: inside ++ [']']), some p⟩
  | host (hhead : s.toList.head? ≠ some '[') (hcolon : ':' ∉ s.toList) : Grammar s ⟨s, none⟩
  | hostPort {host port : List Char} {p : UInt16} (hhead : s.toList.head? ≠ some '[')
      (hs : s.toList = host ++ ':' :: port) (hhost : ':' ∉ host) (hcolon : ':' ∉ port)
      (hport : PortText port p) :
      Grammar s ⟨String.ofList host, some p⟩
  | bareV6 (hhead : s.toList.head? ≠ some '[') (hcolons : 2 ≤ s.toList.count ':') :
      Grammar s ⟨"[" ++ s ++ "]", none⟩

/-- What reading gives is what the grammar assigns. -/
theorem grammar_of_parse? {s : String} {a : Authority} (h : parse? s = some a) : Grammar s a := by
  by_cases hhead : s.toList.head? = some '['
  · obtain ⟨rest, hs⟩ := List.head?_eq_some_iff.1 hhead
    by_cases hclose : ']' ∈ rest
    · -- the host runs to the first `]`
      obtain ⟨inside, after, hin, hrest, -⟩ := List.exists_erase_eq hclose
      have htext : s = String.ofList ('[' :: (inside ++ ']' :: after)) := by
        rw [← hrest, ← hs, String.ofList_toList]
      rw [htext, parse?_bracketed hin, afterBracket?_eq_some_iff] at h
      rcases h with ⟨rfl, rfl⟩ | ⟨port, p, rfl, hport, rfl⟩
      · exact .bracketed (by rw [hs, hrest, List.cons_append]) hin
      · exact .bracketedPort (by rw [hs, hrest, List.cons_append]) hin hport
    · rw [parse?_unclosed hs hclose] at h
      cases h
  · rcases Nat.lt_or_ge (s.toList.count ':') 2 with hfew | hmany
    · by_cases hcolon : ':' ∈ s.toList
      · -- one colon: the host before it, the port after it
        obtain ⟨host, port, hhost, hs, -⟩ := List.exists_erase_eq hcolon
        have hport : ':' ∉ port := by
          rw [count_eq_succ_of_first hs hhost] at hfew
          exact List.count_eq_zero.1 (by omega)
        rw [parse?_of_one_colon hhead hs hhost hport] at h
        obtain ⟨p, hp, rfl⟩ := Option.map_eq_some_iff.1 h
        exact .hostPort hhead hs hhost hport (readPort?_eq_some_iff.1 hp)
      · rw [parse?_of_colon_free hhead hcolon] at h
        cases h
        exact .host hhead hcolon
    · rw [parse?_of_two_colons hhead hmany] at h
      cases h
      exact .bareV6 hhead hmany

/-- Every text of the grammar reads as the authority the grammar assigns. -/
theorem parse?_of_grammar {s : String} {a : Authority} (h : Grammar s a) : parse? s = some a := by
  cases h with
  | @bracketed inside hs hin =>
    have htext : s.toList = '[' :: (inside ++ ']' :: []) := hs
    rw [← String.ofList_toList (s := s), htext, parse?_bracketed hin]
    rfl
  | @bracketedPort inside port p hs hin hport =>
    have htext : s.toList = '[' :: (inside ++ ']' :: ':' :: port) := hs
    rw [← String.ofList_toList (s := s), htext, parse?_bracketed hin]
    simp only [afterBracket?, readPort?_eq_some_iff.2 hport, Option.map_some]
  | host hhead hcolon => exact parse?_of_colon_free hhead hcolon
  | hostPort hhead hs hhost hcolon hport =>
    rw [parse?_of_one_colon hhead hs hhost hcolon, readPort?_eq_some_iff.2 hport]
    rfl
  | bareV6 hhead hcolons => exact parse?_of_two_colons hhead hcolons

/-- Reading an authority accepts exactly the texts of the grammar, and gives the authority the
grammar assigns to the text. -/
theorem parse?_eq_some_iff_grammar (s : String) (a : Authority) :
    parse? s = some a ↔ Grammar s a :=
  ⟨grammar_of_parse?, parse?_of_grammar⟩

example : parse? "[::1]:08080" = some ⟨"[::1]", some 8080⟩ ∧ parse? "host:+80" = none ∧
    parse? "host:٨٠" = none ∧ parse? "host:65536" = none := by
  decide

end Authority

end Http2Headers
