import Mathlib
import Logbook.Proofs.Regex.Preference
import Logbook.Proofs.Regex.Sweep
import Logbook.Redaction.Pattern

/-!
# Redaction of email addresses

The letters of the marker can be part of an address, so replacing one address can make another one of its
neighbours: of `a@b.cc@d.ee` a first pass leaves the marker and `@d.ee`, which is an address again.  This happens
only where an `@` follows right behind an address with a domain behind it, and it cannot happen a second
time: two passes leave no address.

Two facts about a pass carry the proof.  An `@` that has become part of an address stood right behind an address in
the text before (`at_behind_address`).  And if a domain stands between two `@` of the result, then none stands
behind the second one (`not_domain_behind`): otherwise the first domain would have been the local part of an
address that the pass overlooked.  Both depend on the pass taking the longest address at each place, so that
behind an address its domain does not go on (`not_goesOn_of_prefers`).

## Key results

- `longestFirst_address`: the preferred address at a place is the longest
- `at_behind_address` / `not_domain_behind`: what a pass leaves of the `@` signs
- `noMatch_of_two_sweeps`: two passes leave no address
-/

namespace Logbook.Redaction.Email

open Regex

/-- The characters in front of the `@`. -/
def localPart : CharSet := ⟨[(37, 37), (43, 43), (45, 46), (48, 57), (65, 90), (95, 95), (97, 122)]⟩

/-- The characters of a domain. -/
def domain : CharSet := ⟨[(45, 46), (48, 57), (65, 90), (97, 122)]⟩

/-- The characters behind the last dot. -/
def letter : CharSet := ⟨[(65, 90), (97, 122)]⟩

/-- A dot and letters. -/
def topLevel : Regex := .seq (.char '.') (.rep (.set letter) 2 none true)

/-- An `@` and a domain. -/
def atDomain : Regex := .seq (.char '@') (.seq (.rep (.set domain) 1 none true) topLevel)

def address : Regex := .seq (.rep (.set localPart) 1 none true) atDomain

/-- What the pattern means. -/
theorem regex_email : Pattern.email.regex = address := by cbv

/-! ## Characters -/

/-- A letter may stand in a domain. -/
theorem domain_of_letter {c : Char} (h : letter.contains c = true) : domain.contains c = true := by
  simp only [letter, domain, CharSet.contains, CharSet.containsPoint, List.any_cons, List.any_nil,
    Bool.or_false, Bool.or_eq_true, Bool.and_eq_true, decide_eq_true_eq] at h ⊢
  omega

/-- What may stand in a domain may stand in front of it. -/
theorem localPart_of_domain {c : Char} (h : domain.contains c = true) : localPart.contains c = true := by
  simp only [localPart, domain, CharSet.contains, CharSet.containsPoint, List.any_cons, List.any_nil,
    Bool.or_false, Bool.or_eq_true, Bool.and_eq_true, decide_eq_true_eq] at h ⊢
  omega

/-- A dot may stand in a domain. -/
theorem domain_dot : domain.contains '.' = true := by decide

/-- A dot is no letter. -/
theorem letter_dot : letter.contains '.' = false := by decide

/-- There is no at sign in front of a domain. -/
theorem localPart_at : localPart.contains '@' = false := by decide

/-! ## Addresses in a text -/

/-- The text goes on with the end of a domain: domain characters, a dot and two letters. -/
def GoesOn (text : List Char) : Prop :=
  ∃ p a b rest, text = p ++ '.' :: a :: b :: rest ∧ (∀ c ∈ p, domain.contains c = true) ∧
    letter.contains a = true ∧ letter.contains b = true

/-- A domain stands at the start of the text. -/
def Domain (text : List Char) : Prop :=
  ∃ c rest, text = c :: rest ∧ domain.contains c = true ∧ GoesOn rest

/-- A domain that goes on does so with more behind it. -/
theorem GoesOn.append {text : List Char} (h : GoesOn text) (more : List Char) :
    GoesOn (text ++ more) := by
  obtain ⟨p, a, b, rest, rfl, hp, ha, hb⟩ := h
  exact ⟨p, a, b, rest ++ more, by simp, hp, ha, hb⟩

/-- A domain that goes on does so with more in front. -/
theorem GoesOn.cons {text : List Char} (h : GoesOn text) {c : Char} (hc : domain.contains c = true) :
    GoesOn (c :: text) := by
  obtain ⟨p, a, b, rest, rfl, hp, ha, hb⟩ := h
  refine ⟨c :: p, a, b, rest, rfl, fun d hd => ?_, ha, hb⟩
  rcases List.mem_cons.1 hd with rfl | hd
  · exact hc
  · exact hp d hd

/-- A text that starts with a domain does so with more behind it. -/
theorem Domain.append {text : List Char} (h : Domain text) (more : List Char) :
    Domain (text ++ more) := by
  obtain ⟨c, rest, rfl, hc, hrest⟩ := h
  exact ⟨c, rest ++ more, rfl, hc, hrest.append more⟩

/-- A domain goes on behind its first character. -/
theorem Domain.goesOn {text : List Char} (h : Domain text) : GoesOn text := by
  obtain ⟨c, rest, rfl, hc, hrest⟩ := h
  exact hrest.cons hc

/-- Nothing goes on in an empty text. -/
theorem not_goesOn_nil : ¬ GoesOn [] := by
  rintro ⟨p, a, b, rest, h, -⟩
  simp at h

/-- An address is a local part, an `@` and a domain up to the end. -/
theorem reads_address_iff {before : Option Char} {xs : List Char} {after : Option Char} :
    address.Reads before xs after ↔ ∃ l d top, xs = l ++ '@' :: (d ++ '.' :: top) ∧
      (1 ≤ l.length ∧ ∀ c ∈ l, localPart.contains c = true) ∧
      (1 ≤ d.length ∧ ∀ c ∈ d, domain.contains c = true) ∧
      (2 ≤ top.length ∧ ∀ c ∈ top, letter.contains c = true) := by
  constructor
  · rintro ⟨l, ys, rfl, hl, y, zs, rfl, hy, d, ds, rfl, hd, x, top, rfl, hx, htop⟩
    obtain rfl := reads_char_iff.1 hy
    obtain rfl := reads_char_iff.1 hx
    exact ⟨l, d, top, rfl, reads_run_iff.1 hl, reads_run_iff.1 hd, reads_run_iff.1 htop⟩
  · rintro ⟨l, d, top, rfl, hl, hd, htop⟩
    exact ⟨l, _, rfl, reads_run_iff.2 hl, ['@'], _, rfl, reads_char_iff.2 rfl, d, _, rfl, reads_run_iff.2 hd,
      ['.'], top, rfl, reads_char_iff.2 rfl, reads_run_iff.2 htop⟩

/-- An address has an at sign in it. -/
theorem not_reads_nil (before after : Option Char) : ¬ address.Reads before [] after := by
  intro h
  obtain ⟨l, d, top, hnil, -⟩ := reads_address_iff.1 h
  simp at hnil

/-- An address is a local part with an `@` and a domain behind it, and the whole domain is domain characters. -/
theorem exists_domain_of_reads {before : Option Char} {m : List Char} {after : Option Char}
    (h : address.Reads before m after) : ∃ l y, m = l ++ '@' :: y ∧ l ≠ [] ∧
      (∀ c ∈ l, localPart.contains c = true) ∧ (∀ c ∈ y, domain.contains c = true) ∧ Domain y := by
  obtain ⟨l, d, top, rfl, ⟨hlne, hl⟩, ⟨hdne, hd⟩, htopne, htop⟩ := reads_address_iff.1 h
  refine ⟨l, d ++ '.' :: top, rfl, List.length_pos_iff.1 hlne, hl, ?_, ?_⟩
  · -- a dot and letters may stand in a domain too
    intro c hc
    rcases List.mem_append.1 hc with hc | hc
    · exact hd c hc
    · rcases List.mem_cons.1 hc with rfl | hc
      · exact domain_dot
      · exact domain_of_letter (htop c hc)
  · -- two letters at the end are enough
    match d, top with
    | c :: d, a :: b :: top =>
      exact ⟨c, d ++ '.' :: a :: b :: top, rfl, hd c (by simp), d, a, b, top, rfl,
        fun e he => hd e (by simp [he]), htop a (by simp), htop b (by simp)⟩

/-- No address starts a text exactly if no local part at its start has an `@` and a domain behind it. -/
theorem misses_address_iff {before : Option Char} {text : List Char} :
    address.Misses before text ↔ ∀ l z, text = l ++ '@' :: z → l ≠ [] →
      (∀ c ∈ l, localPart.contains c = true) → ¬ Domain z := by
  constructor
  · -- an address is cut off behind the second letter of its end
    rintro h l z rfl hne hl ⟨c, rest, rfl, hc, p, a, b, more, rfl, hp, ha, hb⟩
    refine h (l ++ '@' :: ((c :: p) ++ '.' :: [a, b])) more (by simp) (reads_address_iff.2 ?_)
    refine ⟨l, c :: p, [a, b], rfl, ⟨List.length_pos_iff.2 hne, hl⟩, ⟨by simp, fun d hd => ?_⟩, by simp, ?_⟩
    · rcases List.mem_cons.1 hd with rfl | hd
      · exact hc
      · exact hp d hd
    · simp [ha, hb]
  · rintro h xs post rfl hreads
    obtain ⟨l, y, rfl, hne, hl, -, hy⟩ := exists_domain_of_reads hreads
    exact h l (y ++ post) (by simp) hne hl (hy.append post)

/-! ## The longest address is preferred -/

variable {t : Subject}

/-- The places that a run goes through have characters of its set. -/
theorem getElem?_of_mem_ends_run {s : CharSet} {least i j : Nat} {greedy : Bool} (hi : i ≤ t.size)
    (hj : j ∈ ends t (.rep (.set s) least none greedy) i) {x : Nat} (hx : i ≤ x) (hxj : x < j) :
    ∃ c, t[x]? = some c ∧ s.contains c = true := by
  obtain ⟨pre, rest, hcut, rfl⟩ := exists_cut hi
  obtain ⟨xs, post, hrest, hjlen, hreads⟩ := (mem_ends hcut).1 hj
  obtain ⟨-, hall⟩ := reads_run_iff.1 hreads
  have hlt : x - pre.length < xs.length := by omega
  refine ⟨xs[x - pre.length], ?_, hall _ (List.getElem_mem hlt)⟩
  rw [← Array.getElem?_toList, hcut, hrest, List.getElem?_append_right hx, List.getElem?_append_left hlt,
    List.getElem?_eq_getElem hlt]

theorem mem_ends_char {c : Char} {i j : Nat} (h : j ∈ ends t (.char c) i) : t[i]? = some c ∧ j = i + 1 := by
  simp only [char, ends] at h
  split at h
  next d hd =>
    split at h
    next hdc =>
      rw [hd, singleton_contains.1 hdc]
      exact ⟨rfl, List.mem_singleton.1 h⟩
    next => cases h
  next => cases h

/-- A single character in front changes nothing about what is preferred. -/
theorem longestFirst_char_seq {c : Char} {b : Regex} (hb : ∀ i, LongestFirst (ends t b i)) (i : Nat) :
    LongestFirst (ends t (.seq (.char c) b) i) := by
  have hpairwise : (ends t (.char c) i).Pairwise (· > ·) := by
    rcases ends_set (t := t) (.singleton c) i with h | h <;> simp [char, h]
  rw [ends]
  refine longestFirst_followed hpairwise (fun n _ => hb n) fun n hn m hm hlt => ?_
  obtain ⟨-, rfl⟩ := mem_ends_char hn
  obtain ⟨-, rfl⟩ := mem_ends_char hm
  omega

/-- The last letters of a domain are tried longest first. -/
theorem longestFirst_topLevel (i : Nat) : LongestFirst (ends t topLevel i) :=
  longestFirst_char_seq (fun j => longestFirst_of_pairwise (pairwise_ends_run letter 1 j)) i

/-- A dot further on leads further: the letters behind the dots before it do not reach beyond it. -/
theorem longestFirst_domain (i : Nat) :
    LongestFirst (ends t (.seq (.rep (.set domain) 1 none true) topLevel) i) := by
  rw [ends]
  refine longestFirst_followed (pairwise_ends_run domain 0 i) (fun n _ => longestFirst_topLevel n) ?_
  intro n hn m hm hlt k hk l hl
  have hforward : ∀ r : Regex, Forward (ends t r) t.size := forward_ends
  rw [topLevel, ends, mem_followed] at hk hl
  obtain ⟨k', hk', hk⟩ := hk
  obtain ⟨l', hl', hl⟩ := hl
  obtain ⟨hdot, rfl⟩ := mem_ends_char hk'
  obtain ⟨hdot', rfl⟩ := mem_ends_char hl'
  have hnlt : n < t.size := (Array.getElem?_eq_some_iff.1 hdot).1
  have hnk := (hforward _ (n + 1) hnlt k hk).1
  -- otherwise the dot at `n` would be one of the letters behind `m`
  by_cases hln : l ≤ n
  · omega
  · obtain ⟨c, hc, hletter⟩ := getElem?_of_mem_ends_run (by omega) hl (show m + 1 ≤ n by omega) (by omega)
    rw [hdot] at hc
    obtain rfl := Option.some.inj hc
    rw [letter_dot] at hletter
    cases hletter

/-- The preferred address at a place is the longest. -/
theorem longestFirst_address {i : Nat} (hi : i ≤ t.size) : LongestFirst (ends t address i) := by
  rw [address, ends]
  have hforward : ∀ r : Regex, Forward (ends t r) t.size := forward_ends
  refine longestFirst_followed (pairwise_ends_run localPart 0 i)
    (fun n _ => longestFirst_char_seq longestFirst_domain n) ?_
  intro n hn m hm hlt k hk l hl
  rw [atDomain, ends, mem_followed] at hl
  obtain ⟨l', hl', hl⟩ := hl
  obtain ⟨hat, -⟩ := mem_ends_char hl'
  -- the local part goes through `m`, but not through an `@`
  obtain ⟨c, hc, hlocal⟩ := getElem?_of_mem_ends_run hi hn (hforward _ i hi m hm).1 hlt
  rw [hat] at hc
  obtain rfl := Option.some.inj hc
  rw [localPart_at] at hlocal
  cases hlocal

/-- Behind a preferred address its domain does not go on. -/
theorem not_goesOn_of_prefers {pre m post : List Char} (h : address.Prefers pre m post) : ¬ GoesOn post := by
  rintro ⟨p, a, b, rest, rfl, hp, ha, hb⟩
  obtain ⟨l, d, top, rfl, hl, ⟨hdne, hd⟩, -, htop⟩ := reads_address_iff.1 h.reads
  -- with what goes on, the address would be longer
  have hdomain : ∀ c ∈ d ++ '.' :: top ++ p, domain.contains c = true := by
    intro c hc
    simp only [List.mem_append, List.mem_cons] at hc
    rcases hc with (hc | rfl | hc) | hc
    · exact hd c hc
    · exact domain_dot
    · exact domain_of_letter (htop c hc)
    · exact hp c hc
  have hlonger : address.Reads pre.getLast? (l ++ '@' :: ((d ++ '.' :: top ++ p) ++ '.' :: [a, b]))
      rest.head? := by
    refine reads_address_iff.2 ⟨l, d ++ '.' :: top ++ p, [a, b], rfl, hl, ⟨?_, hdomain⟩, by simp, ?_⟩
    · rw [List.length_append, List.length_append]
      omega
    · simp [ha, hb]
  have hcut : (pre ++ (l ++ '@' :: (d ++ '.' :: top)) ++ (p ++ '.' :: a :: b :: rest)).toArray.toList
      = pre ++ ((l ++ '@' :: ((d ++ '.' :: top ++ p) ++ '.' :: [a, b])) ++ rest) := by simp
  have hmem := (mem_ends hcut).2 ⟨_, rest, rfl, rfl, hlonger⟩
  have hle := longestFirst_address (by simp) _ h _ hmem
  simp only [List.length_append, List.length_cons, List.length_nil] at hle
  omega

/-! ## What a pass leaves -/

/-- What is written for an address. -/
def marker : List Char := mask.toList

/-- The mask has no dot. -/
theorem dot_notMem_marker : '.' ∉ marker := by decide

/-- The mask has no at sign. -/
theorem at_notMem_marker : '@' ∉ marker := by decide

variable {pre gap m rest text out : List Char}

/-- A gap in front of an address does not end in characters of its local part. -/
theorem not_localPart_of_clear (hgap : address.Clear pre gap (m ++ rest)) {before after : Option Char}
    (hm : address.Reads before m after) {front back : List Char} (hsplit : gap = front ++ back)
    (hne : back ≠ []) : ¬ ∀ c ∈ back, localPart.contains c = true := by
  intro hback
  obtain ⟨l, y, rfl, -, hl, -, hy⟩ := exists_domain_of_reads hm
  have hmiss := misses_address_iff.1 (hgap front back hsplit hne) (back ++ l) (y ++ rest)
  refine hmiss (by simp) (by simp [hne]) (fun c hc => ?_) (hy.append rest)
  rcases List.mem_append.1 hc with hc | hc
  · exact hback c hc
  · exact hl c hc

/-- A domain that goes on from a gap over a marker ends in the gap. -/
theorem goesOn_of_goesOn_marker (hgap : address.Clear pre gap (m ++ rest)) {before after : Option Char}
    (hm : address.Reads before m after) (hout : ¬ GoesOn out) {front back : List Char}
    (hsplit : gap = front ++ back) (h : GoesOn (back ++ (marker ++ out))) : GoesOn back := by
  obtain ⟨p, a, b, w, heq, hp, ha, hb⟩ := h
  rcases place_of_notMem dot_notMem_marker heq with ⟨g, rfl, htail⟩ | ⟨more, rfl, rfl⟩
  · -- the dot is in the gap, and the gap does not end in it or in the letter behind it
    rcases g with _ | ⟨a', _ | ⟨b', g⟩⟩
    · have hdot : gap = (front ++ p) ++ ['.'] := by simp [hsplit]
      refine absurd (fun c hc => ?_) (not_localPart_of_clear hgap hm hdot (by simp))
      rw [List.mem_singleton.1 hc]
      exact localPart_of_domain domain_dot
    · obtain ⟨rfl, -⟩ := List.cons.inj htail
      have hletter : gap = (front ++ p) ++ ['.', a] := by simp [hsplit]
      refine absurd (fun c hc => ?_) (not_localPart_of_clear hgap hm hletter (by simp))
      rcases List.mem_cons.1 hc with rfl | hc
      · exact localPart_of_domain domain_dot
      · rw [List.mem_singleton.1 hc]
        exact localPart_of_domain (domain_of_letter ha)
    · obtain ⟨rfl, htail'⟩ := List.cons.inj htail
      obtain ⟨rfl, -⟩ := List.cons.inj htail'
      exact ⟨p, a, b, g, rfl, hp, ha, hb⟩
  · exact absurd ⟨more, a, b, w, rfl, fun c hc => hp c (by simp [hc]), ha, hb⟩ hout

/-- A domain that reaches into the mask is one without it. -/
theorem domain_of_domain_marker (hgap : address.Clear pre gap (m ++ rest)) {before after : Option Char}
    (hm : address.Reads before m after) (hout : ¬ GoesOn out) {front back : List Char}
    (hsplit : gap = front ++ back) (h : Domain (back ++ (marker ++ out))) : Domain back := by
  cases back with
  | nil =>
    exact absurd (goesOn_of_goesOn_marker hgap hm hout hsplit h.goesOn) not_goesOn_nil
  | cons c back =>
    obtain ⟨d, w, heq, hd, hw⟩ := h
    obtain ⟨rfl, rfl⟩ := List.cons.inj heq
    have hsplit' : gap = (front ++ [c]) ++ back := by simp [hsplit]
    exact ⟨c, back, rfl, hd, goesOn_of_goesOn_marker hgap hm hout hsplit' hw⟩

/-- A pass does not make a domain go on. -/
theorem not_goesOn_of_sweep (h : Sweep address marker pre text out) (htext : ¬ GoesOn text) :
    ¬ GoesOn out := by
  induction h with
  | done => exact htext
  | @next pre gap m rest out hgap hm _ ih =>
    intro hgoes
    rw [List.append_assoc] at hgoes htext
    have hgap' : gap = [] ++ gap := rfl
    exact htext ((goesOn_of_goesOn_marker hgap hm.reads (ih (not_goesOn_of_prefers hm)) hgap' hgoes).append _)

/-- **Where an `@` can be part of an address after a pass.**  It starts the text, or it stood right behind an
address, and the domain behind it was there before. -/
theorem at_behind_address (h : Sweep address marker pre text out) {x y : List Char}
    (hout : out = x ++ '@' :: y) (hx : ∀ c, x.getLast? = some c → localPart.contains c = true)
    (hy : Domain y) :
    (x = [] ∧ ∃ z, text = '@' :: z ∧ Domain z) ∨
      ∃ front m z before after, text = front ++ m ++ '@' :: z ∧ address.Reads before m after ∧ Domain z := by
  induction h generalizing x y with
  | @done pre text hnone =>
    subst hout
    rcases List.eq_nil_or_concat x with rfl | ⟨x, c, rfl⟩
    · exact .inl ⟨rfl, y, rfl, hy⟩
    · -- the character in front of the `@` would be the local part of an address
      have hc := hx c (by simp)
      have hmiss := misses_address_iff.1 (hnone x ([c] ++ '@' :: y) (by simp)) [c] y rfl (by simp)
      exact absurd hy (hmiss (by simpa using hc))
  | @next pre gap m rest out hgap hm hsweep ih =>
    have hgoes := not_goesOn_of_sweep hsweep (not_goesOn_of_prefers hm)
    rw [List.append_assoc] at hout
    -- the at sign is in the gap, or behind the match, as the marker has none
    rcases place_of_notMem at_notMem_marker hout with ⟨g, rfl, rfl⟩ | ⟨more, rfl, rfl⟩
    · have hsplit : x ++ '@' :: g = (x ++ ['@']) ++ g := by simp
      -- a domain that reaches into the marker is one without it
      have hg : Domain g := domain_of_domain_marker hgap hm.reads hgoes hsplit hy
      rcases List.eq_nil_or_concat x with rfl | ⟨x, c, rfl⟩
      · exact .inl ⟨rfl, g ++ (m ++ rest), by simp, hg.append _⟩
      · have hc := hx c (by simp)
        have hmiss := misses_address_iff.1 (hgap x ([c] ++ '@' :: g) (by simp) (by simp)) [c]
          (g ++ (m ++ rest)) (by simp) (by simp)
        exact absurd (hg.append (m ++ rest)) (hmiss (by simpa using hc))
    · -- behind the match the rest was swept alike
      have hmore : ∀ c, more.getLast? = some c → localPart.contains c = true := fun c hc =>
        hx c (by rw [List.getLast?_append, hc, Option.some_or])
      rcases ih rfl hmore hy with ⟨rfl, z, rfl, hz⟩ | ⟨front, m', z, before, after, rfl, hm', hz⟩
      · exact .inr ⟨gap, m, z, _, _, rfl, hm.reads, hz⟩
      · exact .inr ⟨gap ++ m ++ front, m', z, before, after, by simp, hm', hz⟩

/-- **After a pass no domain stands behind an `@` that ends a domain.** -/
theorem not_domain_behind (h : Sweep address marker pre text out) {x y z : List Char}
    (hout : out = x ++ '@' :: (y ++ '@' :: z)) (hy : ∀ c ∈ y, domain.contains c = true) (hdomain : Domain y) :
    ¬ Domain z := by
  have hlocal : ∀ c ∈ y, localPart.contains c = true := fun c hc => localPart_of_domain (hy c hc)
  have hne : y ≠ [] := by
    rintro rfl
    exact not_goesOn_nil hdomain.goesOn
  induction h generalizing x with
  | done hnone =>
    subst hout
    exact misses_address_iff.1 (hnone (x ++ ['@']) (y ++ '@' :: z) (by simp)) y z rfl hne hlocal
  | @next pre gap m rest out hgap hm hsweep ih =>
    intro hz
    have hgoes := not_goesOn_of_sweep hsweep (not_goesOn_of_prefers hm)
    rw [List.append_assoc] at hout
    rcases place_of_notMem at_notMem_marker hout with ⟨g, rfl, htail⟩ | ⟨more, rfl, rfl⟩
    · rcases place_of_notMem at_notMem_marker htail.symm with ⟨g', rfl, rfl⟩ | ⟨more, rfl, rfl⟩
      · -- both signs are in the gap, so the first domain is a local part the pass overlooked
        have hsplit : x ++ '@' :: (y ++ '@' :: g') = (x ++ '@' :: y ++ ['@']) ++ g' := by simp
        have hg' : Domain g' := domain_of_domain_marker hgap hm.reads hgoes hsplit hz
        exact misses_address_iff.1 (hgap (x ++ ['@']) (y ++ '@' :: g') (by simp) (by simp)) y
          (g' ++ (m ++ rest)) (by simp) hne hlocal (hg'.append _)
      · -- the first domain reaches over the marker, so it ends in the gap, which then ends in a local part
        have hsplit : x ++ '@' :: g = (x ++ ['@']) ++ g := by simp
        have hg : Domain g := by
          refine domain_of_domain_marker hgap hm.reads hgoes hsplit ?_
          simpa using hdomain.append ('@' :: z)
        have hgne : g ≠ [] := by
          rintro rfl
          exact not_goesOn_nil hg.goesOn
        exact not_localPart_of_clear hgap hm.reads hsplit hgne fun c hc => hlocal c (by simp [hc])
    · exact ih rfl hz

/-- **Two passes leave no address.** -/
theorem noMatch_of_two_sweeps {first second : List Char} (h : Sweep address marker [] text first)
    (h' : Sweep address marker [] first second) : address.NoMatch [] second := by
  rintro front back rfl
  refine misses_address_iff.2 fun l z hback hne hl hz => ?_
  subst hback
  have hlast : ∀ c, (front ++ l).getLast? = some c → localPart.contains c = true := by
    intro c hc
    rw [List.getLast?_append, List.getLast?_eq_some_getLast hne, Option.some_or] at hc
    exact Option.some.inj hc ▸ hl _ (List.getLast_mem hne)
  rcases at_behind_address h' (x := front ++ l) (by simp) hlast hz with
    ⟨hnil, -⟩ | ⟨more, m, y, before, after, hfirst, hm, hy⟩
  · exact hne (List.append_eq_nil_iff.1 hnil).2
  · -- the address in front of the `@` ends in a domain, and so does what follows
    obtain ⟨l', d, rfl, -, -, hd, hdomain⟩ := exists_domain_of_reads hm
    exact not_domain_behind h (x := more ++ l') (by rw [hfirst]; simp) hd hdomain hy

end Logbook.Redaction.Email
