import Mathlib.Data.List.TakeDrop
import Mathlib.Data.List.TakeWhile
import Http2Headers.Authority

/-!
# Authorities read back from their text

An authority is written as its host, then `:` and the port if it has one, the port in decimal
without leading zeros. Reading that text gives the authority back for three of the four shapes
reading knows (`parse?_eq_some_cases`): a bracketed literal, a host, and a host with a port,
whatever zeros led its port. A bare IPv6 literal is wrapped in brackets without a look at what is
inside, so when it holds a `]` of its own, that `]` closes the wrapped host early on reading it
back, and what follows is no port: the text does not read at all (`render_reads_back`).
-/

namespace Http2Headers

namespace Text

theorem digitValue?_of_isDigit {c : Char} (h : c.isDigit = true) :
    digitValue? c = some (c.toNat - '0'.toNat) := by
  simp only [Char.isDigit, Bool.and_eq_true, decide_eq_true_eq] at h
  simp only [digitValue?, Char.le_def]
  rw [if_pos ⟨h.1, h.2⟩]

theorem digitsFrom_of_isDigit :
    ∀ (cs : List Char) (acc : Nat), (∀ c ∈ cs, c.isDigit = true) →
      digitsFrom acc cs = some (Nat.ofDigitChars 10 cs acc)
  | [], acc, _ => rfl
  | c :: cs, acc, h => by
    rw [digitsFrom, digitValue?_of_isDigit (h c (by simp)), Option.bind_some, Nat.ofDigitChars_cons,
      digitsFrom_of_isDigit cs _ fun x hx => h x (by simp [hx])]

/-- Reading back the decimal numeral of a number gives the number. -/
theorem digitsValue?_toDigits (n : Nat) : digitsValue? (Nat.toDigits 10 n) = some n := by
  have hdigits : ∀ c ∈ Nat.toDigits 10 n, c.isDigit = true :=
    fun c hc => Nat.isDigit_of_mem_toDigits (by decide) (by decide) hc
  cases h : Nat.toDigits 10 n with
  | nil => exact absurd h Nat.toDigits_ne_nil
  | cons c cs =>
    show digitsFrom 0 (c :: cs) = some n
    rw [← h, digitsFrom_of_isDigit _ _ hdigits, Nat.ofDigitChars_ten_toDigits]

/-- Digits followed by anything that is no digit do not read. -/
theorem digitsFrom_eq_none_of_mem {c : Char} (hc : digitValue? c = none) :
    ∀ {cs : List Char} (acc : Nat), c ∈ cs → digitsFrom acc cs = none
  | d :: ds, acc, hmem => by
    rw [digitsFrom]
    rcases List.mem_cons.1 hmem with rfl | hmem
    · rw [hc, Option.bind_none]
    · cases digitValue? d with
      | none => rfl
      | some v => exact digitsFrom_eq_none_of_mem hc _ hmem

end Text

namespace Authority

/-- The decimal digits of a port read back as the port. -/
theorem readPort?_toDigits (p : UInt16) : readPort? (Nat.toDigits 10 p.toNat) = some p := by
  rw [readPort?, Text.digitsValue?_toDigits]
  have hlt := p.toNat_lt
  simp only [Option.filter_some, decide_eq_true (by omega : p.toNat ≤ 65535), if_true,
    Option.map_some, UInt16.ofNat_toNat]

/-- No character but a digit occurs among the decimal digits of a number. -/
theorem not_mem_toDigits {c : Char} (hc : c.isDigit = false) (n : Nat) :
    c ∉ Nat.toDigits 10 n := by
  intro hmem
  rw [Nat.isDigit_of_mem_toDigits (by decide) (by decide) hmem] at hc
  cases hc

/-- A list splits at its first element outside the class. -/
theorem span_append_cons {p : Char → Bool} {l rest : List Char} {c : Char}
    (hl : ∀ x ∈ l, p x = true) (hc : p c = false) : (l ++ c :: rest).span p = (l, c :: rest) := by
  rw [List.span_eq_takeWhile_dropWhile, List.takeWhile_append_of_pos hl,
    List.dropWhile_append_of_pos hl]
  simp [hc]

/-- A text that starts with `[` is read up to its first `]`. -/
theorem parse?_bracketed {inside after : List Char} (hin : ']' ∉ inside) :
    parse? (String.ofList ('[' :: (inside ++ ']' :: after))) =
      afterBracket? (String.ofList ('[' :: inside ++ [']'])) after := by
  have hspan : (inside ++ ']' :: after).span (· ≠ ']') = (inside, ']' :: after) :=
    span_append_cons (fun x hx => decide_eq_true fun h => hin (h ▸ hx)) (by simp)
  simp only [parse?, String.toList_ofList, hspan]

/-- A text with one colon and no leading `[` is a host and a port. -/
theorem parse?_hostPort {host port : List Char} (hhead : host.head? ≠ some '[')
    (hhost : ':' ∉ host) (hport : ':' ∉ port) :
    parse? (String.ofList (host ++ ':' :: port)) =
      (readPort? port).map fun p => ⟨String.ofList host, some p⟩ := by
  have hspan : (host ++ ':' :: port).span (· ≠ ':') = (host, ':' :: port) :=
    span_append_cons (fun x hx => decide_eq_true fun h => hhost (h ▸ hx)) (by simp)
  unfold parse?
  rw [String.toList_ofList]
  split
  · next rest heq =>
    cases host with
    | nil => cases heq
    | cons c cs =>
      simp only [List.cons_append, List.cons.injEq] at heq
      simp [heq.1] at hhead
  · simp only [hspan, hport, if_false]

/-- What a list splits into at its first element outside the class. -/
theorem eq_append_of_span {p : Char → Bool} {l l₁ l₂ : List Char} (h : l.span p = (l₁, l₂)) :
    l = l₁ ++ l₂ ∧ ∀ x ∈ l₁, p x = true := by
  rw [List.span_eq_takeWhile_dropWhile, Prod.mk.injEq] at h
  refine ⟨by rw [← h.1, ← h.2, List.takeWhile_append_dropWhile], fun x hx => ?_⟩
  rw [← h.1] at hx
  exact List.mem_takeWhile_imp hx

/-- A list split at its first element outside the class goes on with that element. -/
theorem span_snd_head {p : Char → Bool} {l l₁ l₂ : List Char} {c : Char}
    (h : l.span p = (l₁, c :: l₂)) : p c = false := by
  rw [List.span_eq_takeWhile_dropWhile, Prod.mk.injEq] at h
  have hne : l.dropWhile p ≠ [] := by rw [h.2]; exact List.cons_ne_nil _ _
  have hhead := List.head_dropWhile_not p hne
  simp only [h.2, List.head_cons] at hhead
  exact hhead

/-- After a closing bracket, text that ends in another `]` is neither nothing nor a port. -/
theorem afterBracket?_append_bracket (host : String) (post : List Char) :
    afterBracket? host (post ++ [']']) = none := by
  match post with
  | [] => rfl
  | c :: rest =>
    by_cases hc : c = ':'
    · subst hc
      have hdigits : Text.digitsValue? (rest ++ [']']) = none := by
        cases rest with
        | nil => rfl
        | cons d ds => exact Text.digitsFrom_eq_none_of_mem (c := ']') (by decide) 0 (by simp)
      simp [afterBracket?, readPort?, hdigits]
    · simp [afterBracket?, hc]

/-- Whether a text reads as a bare IPv6 literal: it does not start with `[` and has two or more
colons. -/
def isBareV6 (s : String) : Bool :=
  s.toList.head? != some '[' && 2 ≤ s.toList.count ':'

/-- The text of a bracketed host, with or without a port, reads back as the same authority. -/
theorem parse?_render_bracketed {inside : List Char} (hin : ']' ∉ inside) (port : Option UInt16) :
    parse? (render ⟨String.ofList ('[' :: inside ++ [']']), port⟩) =
      some ⟨String.ofList ('[' :: inside ++ [']']), port⟩ := by
  cases port with
  | none =>
    have htext : render ⟨String.ofList ('[' :: inside ++ [']']), none⟩ =
        String.ofList ('[' :: (inside ++ [']'])) := rfl
    rw [htext, parse?_bracketed hin]
    rfl
  | some p =>
    have htext : render ⟨String.ofList ('[' :: inside ++ [']']), some p⟩ =
        String.ofList ('[' :: (inside ++ ']' :: ':' :: (toString p.toNat).toList)) :=
      String.ext (by simp [render])
    rw [htext, parse?_bracketed hin]
    simp [afterBracket?, readPort?_toDigits]

/-- The four shapes of a text that reads as an authority: a bracketed literal, kept with its
brackets and with or without a port; a host with no colon; a host and a port around one colon; and
a bare IPv6 literal with two or more colons, wrapped in brackets. -/
theorem parse?_eq_some_cases {s : String} {a : Authority} (h : parse? s = some a) :
    (s.toList.head? = some '[' ∧
      ∃ inside port, ']' ∉ inside ∧ a = ⟨String.ofList ('[' :: inside ++ [']']), port⟩) ∨
    (s.toList.head? ≠ some '[' ∧ ':' ∉ s.toList ∧ a = ⟨s, none⟩) ∨
    (s.toList.head? ≠ some '[' ∧ ∃ host port p, s.toList = host ++ ':' :: port ∧ ':' ∉ host ∧
      ':' ∉ port ∧ a = ⟨String.ofList host, some p⟩) ∨
    (s.toList.head? ≠ some '[' ∧ 2 ≤ s.toList.count ':' ∧ a = ⟨"[" ++ s ++ "]", none⟩) := by
  have hs := h
  unfold parse? at h
  split at h
  · next rest hrest =>
    refine .inl ⟨by simp [hrest], ?_⟩
    split at h
    · next inside after hspan =>
      have hin : ']' ∉ inside := fun hmem => by simpa using (eq_append_of_span hspan).2 _ hmem
      cases after with
      | nil =>
        cases h
        exact ⟨inside, none, hin, rfl⟩
      | cons c port =>
        by_cases hc : c = ':'
        · subst hc
          obtain ⟨p, -, rfl⟩ := Option.map_eq_some_iff.1 h
          exact ⟨inside, some p, hin, rfl⟩
        · simp [afterBracket?, hc] at h
    · cases h
  · next cs hnot =>
    have hhead : s.toList.head? ≠ some '[' := fun hh => by
      obtain ⟨rest, hrest⟩ := List.head?_eq_some_iff.1 hh
      exact hnot rest hrest
    split at h
    · next host hspan =>
      cases h
      obtain ⟨heq, hall⟩ := eq_append_of_span hspan
      refine .inr (.inl ⟨hhead, fun hmem => ?_, rfl⟩)
      rw [heq, List.append_nil] at hmem
      simpa using hall _ hmem
    · next host c port hspan =>
      obtain ⟨heq, hall⟩ := eq_append_of_span hspan
      have hc : c = ':' := by simpa using span_snd_head hspan
      subst hc
      have hhost : ':' ∉ host := fun hmem => by simpa using hall _ hmem
      split at h
      · next hport =>
        cases h
        refine .inr (.inr (.inr ⟨hhead, ?_, rfl⟩))
        have hpos := List.count_pos_iff.2 hport
        rw [heq, List.count_append, List.count_cons_self]
        omega
      · next hport =>
        obtain ⟨p, -, rfl⟩ := Option.map_eq_some_iff.1 h
        exact .inr (.inr (.inl ⟨hhead, host, port, p, heq, hhost, hport, rfl⟩))

/-- The text of a host and a port reads back as them, when the host has no colon and does not
start with `[`. -/
theorem parse?_render_hostPort {host : List Char} (hfirst : host.head? ≠ some '[')
    (hhost : ':' ∉ host) (p : UInt16) :
    parse? (render ⟨String.ofList host, some p⟩) = some ⟨String.ofList host, some p⟩ := by
  have htext : render ⟨String.ofList host, some p⟩ =
      String.ofList (host ++ ':' :: Nat.toDigits 10 p.toNat) :=
    String.ext (by simp [render])
  rw [htext, parse?_hostPort hfirst hhost (not_mem_toDigits (by decide) _), readPort?_toDigits]
  rfl

/-- A text with a `]` in it, wrapped in brackets, does not read: its first `]` closes the host
early, and what is left after it ends in `]`. -/
theorem parse?_wrap_of_close {s : String} (hclose : ']' ∈ s.toList) :
    parse? ("[" ++ s ++ "]") = none := by
  obtain ⟨pre, rest, hsplit⟩ : ∃ pre rest, s.toList.span (· ≠ ']') = (pre, rest) := ⟨_, _, rfl⟩
  obtain ⟨hs, hpre⟩ := eq_append_of_span hsplit
  have hnotin : ']' ∉ pre := fun hmem => by simpa using hpre _ hmem
  cases rest with
  | nil =>
    rw [hs, List.append_nil] at hclose
    exact absurd hclose hnotin
  | cons d post =>
    have hd : d = ']' := by simpa using span_snd_head hsplit
    subst hd
    have htext : "[" ++ s ++ "]" = String.ofList ('[' :: (pre ++ ']' :: (post ++ [']']))) :=
      String.ext (by simp [hs])
    rw [htext, parse?_bracketed hnotin, afterBracket?_append_bracket]

/-- Reading the text of an authority that was read from `s` gives it back, unless `s` was a bare
IPv6 literal with a `]` in it: its text then does not read at all. -/
theorem render_reads_back {s : String} {a : Authority} (h : parse? s = some a) :
    parse? a.render = if isBareV6 s && s.toList.contains ']' then none else some a := by
  rcases parse?_eq_some_cases h with
    ⟨hhead, inside, port, hin, rfl⟩ | ⟨hhead, hcolon, rfl⟩ |
      ⟨hhead, host, port, p, heq, hhost, hport, rfl⟩ | ⟨hhead, hcount, rfl⟩
  · have hbare : isBareV6 s = false := by simp [isBareV6, hhead]
    rw [hbare, Bool.false_and, if_neg Bool.false_ne_true]
    exact parse?_render_bracketed hin port
  · have hbare : isBareV6 s = false := by simp [isBareV6, List.count_eq_zero.2 hcolon]
    rw [hbare, Bool.false_and, if_neg Bool.false_ne_true]
    exact h
  · have hbare : isBareV6 s = false := by
      simp [isBareV6, heq, List.count_eq_zero.2 hhost, List.count_eq_zero.2 hport]
    rw [hbare, Bool.false_and, if_neg Bool.false_ne_true]
    -- the host is a prefix of `s`, so it does not start with `[` either
    have hfirst : host.head? ≠ some '[' := by
      cases host with
      | nil => simp
      | cons d ds => simpa [heq] using hhead
    exact parse?_render_hostPort hfirst hhost p
  · have hbare : isBareV6 s = true := by simp [isBareV6, hhead, hcount]
    rw [hbare, Bool.true_and]
    by_cases hclose : ']' ∈ s.toList
    · rw [if_pos (List.contains_iff_mem.2 hclose)]
      exact parse?_wrap_of_close hclose
    · rw [if_neg (by simpa using hclose)]
      have hwrap : "[" ++ s ++ "]" = String.ofList ('[' :: s.toList ++ [']']) :=
        String.ext (by simp)
      rw [hwrap]
      exact parse?_render_bracketed hclose none

/-- The text `example.com:0443` reads with its port's leading zero dropped, and the text of what
it reads reads back. -/
theorem render_reads_back_leading_zeros :
    parse? "example.com:0443" = some ⟨"example.com", some 443⟩ ∧
      parse? (render ⟨"example.com", some 443⟩) =
        if isBareV6 "example.com:0443" && "example.com:0443".toList.contains ']' then none
        else some ⟨"example.com", some 443⟩ :=
  have h : parse? "example.com:0443" = some ⟨"example.com", some 443⟩ := by decide
  ⟨h, render_reads_back h⟩

/-- The text `a]:b:c` reads as the bare literal `[a]:b:c]`, whose text does not read. -/
theorem bare_literal_with_bracket_unreadable :
    parse? "a]:b:c" = some ⟨"[a]:b:c]", none⟩ ∧ parse? (render ⟨"[a]:b:c]", none⟩) = none := by
  decide

end Authority

end Http2Headers
