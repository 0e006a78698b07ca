import Logbook.Duration
import Logbook.Proofs.Json.Number
import Logbook.Text.Split

/-!
# Reading durations back

`Duration.render` writes a duration as parts in the largest units first, and `Duration.parse` adds them up again.  The
texts of the parts and what they come to go together (`Duration.Adds`): the writer makes such texts, the reader takes
one after another.  Every duration that the reader can make comes back, since its seconds fit a word.

## Key results

- `Duration.readParts_part`: one part is read in front of the others
- `Duration.adds_renderParts`: what is written adds up to the duration
- `Duration.parse_render`: a duration reads back
- `Duration.lt_of_parse`: what is read can be written and read again
-/

namespace Logbook

/-- Joined parts are the first and the others, each behind a separator. -/
theorem Text.join_cons (sep : Char) (part : List Char) (parts : List (List Char)) :
    join sep (part :: parts) = part ++ parts.flatMap (sep :: ·) := by
  induction parts generalizing part with
  | nil => simp [join]
  | cons next parts ih =>
    rw [join, ih, List.flatMap_cons, List.cons_append]
    exact List.cons_ne_nil next parts

namespace Duration

/-- Durations are shorter than this. -/
def limit : Nat := wordLimit * 1_000_000_000

/-! ## Names of units -/

/-- A character that goes on with a unit. -/
def isInUnit (c : Char) : Bool := !c.isDigit && !Text.isBlank c && isUnitLetter c && c != '.'

/-- A letter of a unit is neither digit nor blank, and no point. -/
theorem isInUnit_iff {c : Char} : isInUnit c = true ↔
    ((c.isDigit = false ∧ Text.isBlank c = false) ∧ isUnitLetter c = true) ∧ c ≠ '.' := by
  simp [isInUnit]

/-- The names of units are words of such letters. -/
theorem chars_of_named? {name : String} {unit : Unit} (h : Unit.named? name = some unit) :
    name.toList ≠ [] ∧ ∀ c ∈ name.toList, isInUnit c = true := by
  -- the names are listed, so it is checked for each
  have hall : ∀ name : String, (Unit.named? name).isSome →
      name.toList ≠ [] ∧ name.toList.all isInUnit = true := by
    intro name hname
    unfold Unit.named? at hname
    split at hname
    all_goals first | decide | cases hname
  obtain ⟨hne, hchars⟩ := hall name (by rw [h]; rfl)
  exact ⟨hne, List.all_eq_true.1 hchars⟩

/-- A unit is no shorter than what it is counted in. -/
theorem one_le_grains (unit : Unit) : 1 ≤ unit.length / unit.grain := by
  cases unit <;> decide

/-! ## What texts add up to -/

/-- The texts are counts with units that come to so many nanoseconds in all, each of them in range. -/
inductive Adds : List String → Nat → Prop where
  | nil : Adds [] 0
  | cons {count total : Nat} {name : String} {unit : Unit} {texts : List String}
      (hname : Unit.named? name = some unit) (hcount : count * (unit.length / unit.grain) < wordLimit)
      (h : Adds texts total) : Adds ((toString count ++ name) :: texts) (count * unit.length + total)

/-- Parts that are written one after another add up. -/
theorem Adds.append {texts texts' : List String} {total total' : Nat} (h : Adds texts total)
    (h' : Adds texts' total') : Adds (texts ++ texts') (total + total') := by
  -- along the first parts, which are added one by one
  induction h with
  | nil => simpa using h'
  | cons hname hcount _ ih =>
    rw [Nat.add_assoc]
    exact .cons hname hcount ih

/-! ## Reading -/

/-- A number is printed by its digits. -/
theorem toList_toString (n : Nat) : (toString n).toList = Nat.toDigits 10 n := by
  rw [Nat.toString_eq_repr, Nat.toList_repr]

/-- What stands behind the first of some parts. -/
def behind (texts : List String) : List Char := texts.flatMap fun text => ' ' :: text.toList

/-- Every part behind the first has a blank in front of it. -/
theorem length_le_behind (texts : List String) : texts.length ≤ (behind texts).length := by
  induction texts with
  | nil => exact Nat.le_refl 0
  | cons text texts ih =>
    have hcons : behind (text :: texts) = ' ' :: (text.toList ++ behind texts) := rfl
    rw [hcons, List.length_cons, List.length_cons, List.length_append]
    omega

/-- Digits are read up to a letter. -/
theorem readWhole_append {cs : List Char} (hcs : ∀ c ∈ cs, c.isDigit = true) {letter : Char}
    (hletter : isInUnit letter = true) (rest : List Char) {n : Nat} (hn : Nat.ofDigitChars 10 cs n < wordLimit)
    (place : Nat) : ∃ place', readWhole n place (cs ++ letter :: rest)
      = .ok (Nat.ofDigitChars 10 cs n, ⟨place', letter :: rest⟩) := by
  -- by induction on the digits, with those read so far in the number
  induction cs generalizing n place with
  | nil =>
    obtain ⟨⟨⟨hdigit, hblank⟩, hunit⟩, -⟩ := isInUnit_iff.1 hletter
    exact ⟨place, by simp [readWhole, hdigit, hblank, hunit]⟩
  | cons c cs ih =>
    have hstep : 10 * n + (c.toNat - '0'.toNat) = n * 10 + digit c := by
      rw [Nat.mul_comm]
      rfl
    rw [Nat.ofDigitChars_cons, hstep] at hn ⊢
    -- the digits so far make no larger number than all of them
    have hle := Json.le_ofDigitChars cs (n * 10 + digit c)
    obtain ⟨place', hrest⟩ := ih (fun d hd => hcs d (List.mem_cons_of_mem c hd)) hn (place + 1)
    refine ⟨place', ?_⟩
    rw [List.cons_append, readWhole, if_pos (hcs c List.mem_cons_self), if_neg (by omega), hrest]

/-- The letters of a unit are read up to the blank behind it, or to the end. -/
theorem readUnit_append {name : List Char} (hname : ∀ c ∈ name, isInUnit c = true) (acc : List Char)
    (texts : List String) (place : Nat) : ∃ place', readUnit acc place (name ++ behind texts)
      = .ok (String.ofList (acc.reverse ++ name), ⟨place', behind texts⟩) := by
  -- by induction on the name, with the letters read so far in reverse
  induction name generalizing acc place with
  | nil =>
    rw [List.append_nil, List.nil_append]
    -- behind the name is a blank, or nothing
    cases texts with
    | nil => exact ⟨place, rfl⟩
    | cons text texts => exact ⟨place, rfl⟩
  | cons c name ih =>
    obtain ⟨⟨⟨hdigit, hblank⟩, hunit⟩, -⟩ := isInUnit_iff.1 (hname c List.mem_cons_self)
    obtain ⟨place', hrest⟩ := ih (fun d hd => hname d (List.mem_cons_of_mem c hd)) (c :: acc) (place + c.utf8Size)
    refine ⟨place', ?_⟩
    rw [List.cons_append, readUnit, hdigit, hblank, hunit, hrest]
    simp

/-- What follows a part: the end, or the first digit of the next one. -/
def readRest (fuel : Nat) (d : Duration) (c : Cursor) : Except Fault Duration := do
  match ← firstDigit c.place c.rest with
  | none => .ok d
  | some (n, c) => readParts fuel d n c

/-- A duration is added if the sum stays below the limit. -/
theorem plus_eq (d : Duration) (nanoseconds : Nat) : d.plus nanoseconds
    = if limit ≤ d.nanoseconds + nanoseconds then .error .overflow
      else .ok ⟨d.nanoseconds + nanoseconds⟩ := rfl

/-- A whole count of a unit is added. -/
theorem add_whole {name : String} {unit : Unit} (hname : Unit.named? name = some unit) {d : Duration} {count : Nat}
    (hcount : count * (unit.length / unit.grain) < wordLimit) (hd : d.nanoseconds + count * unit.length < limit) :
    d.add count none name = .ok ⟨d.nanoseconds + count * unit.length⟩ := by
  have htimes : times count unit.length unit.grain = .ok (count * unit.length) := by
    rw [times, if_neg (Nat.not_le_of_lt hcount)]
  have hplus : d.plus (count * unit.length) = .ok ⟨d.nanoseconds + count * unit.length⟩ := by
    rw [plus_eq, if_neg (Nat.not_le_of_lt hd)]
  simp only [add, hname]
  rw [bind_of_ok htimes, bind_of_ok hplus]

/-- A part is read behind its first digit, and the others after it. -/
theorem readParts_part {name : String} {unit : Unit} (hname : Unit.named? name = some unit) {d : Duration} {count : Nat}
    (hcount : count * (unit.length / unit.grain) < wordLimit) (hd : d.nanoseconds + count * unit.length < limit)
    {c : Char} {cs : List Char} (hdigits : Nat.toDigits 10 count = c :: cs) (texts : List String) (fuel place : Nat) :
    ∃ place', readParts (fuel + 1) d (digit c) ⟨place, cs ++ (name.toList ++ behind texts)⟩
      = readRest fuel ⟨d.nanoseconds + count * unit.length⟩ ⟨place', behind texts⟩ := by
  obtain ⟨hne, hletters⟩ := chars_of_named? hname
  obtain ⟨letter, letters, hletter⟩ := List.exists_cons_of_ne_nil hne
  -- the first digit is read already, and the others go on with it
  have hvalue : Nat.ofDigitChars 10 cs (digit c) = count := by
    have hten := Nat.ofDigitChars_ten_toDigits (n := count)
    rwa [hdigits, Nat.ofDigitChars_cons, Nat.mul_zero, Nat.zero_add] at hten
  -- each unit counts at least one grain, so the count alone fits a word too
  have hsmall : count < wordLimit := by
    have hle := Nat.le_mul_of_pos_right count (one_le_grains unit)
    omega
  have hdigit : ∀ e ∈ cs, e.isDigit = true := fun e he =>
    Json.isDigit_of_mem_toDigits e (by rw [hdigits]; exact List.mem_cons_of_mem c he)
  -- the digits end at the first letter, and the letters at the blank
  obtain ⟨mid, hwhole⟩ := readWhole_append hdigit (hletters letter (by simp [hletter])) (letters ++ behind texts)
    (by rwa [hvalue]) place
  obtain ⟨place', hunit⟩ := readUnit_append hletters [] texts mid
  refine ⟨place', ?_⟩
  have hnumber : readNumber (digit c) ⟨place, cs ++ (name.toList ++ behind texts)⟩
      = .ok (count, none, ⟨mid, name.toList ++ behind texts⟩) := by
    have hpoint : letter ≠ '.' := (isInUnit_iff.1 (hletters letter (by simp [hletter]))).2
    rw [hletter, List.cons_append, readNumber, bind_of_ok hwhole, hvalue]
    simp [hpoint]
  rw [List.reverse_nil, List.nil_append, String.ofList_toList] at hunit
  rw [readParts, bind_of_ok hnumber]
  calc
    _ = _ := bind_of_ok hunit _
    _ = _ := bind_of_ok (add_whole hname hcount hd) _

/-- A count begins with a digit. -/
theorem firstDigit_toDigits (count place : Nat) (rest : List Char) : ∃ c cs, Nat.toDigits 10 count = c :: cs ∧
    firstDigit place (Nat.toDigits 10 count ++ rest) = .ok (some (digit c, ⟨place + 1, cs ++ rest⟩)) := by
  obtain ⟨c, cs, hdigits⟩ := List.exists_cons_of_ne_nil (Nat.toDigits_ne_nil (n := count) (b := 10))
  have hdigit : c.isDigit = true := Json.isDigit_of_mem_toDigits c (by rw [hdigits]; exact List.mem_cons_self)
  refine ⟨c, cs, hdigits, ?_⟩
  rw [hdigits, List.cons_append, firstDigit, if_pos hdigit]

/-- What is left of the parts is read and added. -/
theorem readRest_of_adds {texts : List String} {total : Nat} (h : Adds texts total) {fuel : Nat}
    (hfuel : texts.length ≤ fuel) {d : Duration} (hd : d.nanoseconds + total < limit) (place : Nat) :
    readRest fuel d ⟨place, behind texts⟩ = .ok ⟨d.nanoseconds + total⟩ := by
  -- along the parts, each of which takes a step
  induction h generalizing fuel d place with
  | nil => rfl
  | @cons count total name unit texts hname hcount _ ih =>
    obtain ⟨fuel, rfl⟩ := Nat.exists_eq_add_one_of_ne_zero (Nat.ne_zero_of_lt hfuel)
    obtain ⟨c, cs, hdigits, hfirst⟩ := firstDigit_toDigits count (place + 1) (name.toList ++ behind texts)
    have hbehind : behind ((toString count ++ name) :: texts)
        = ' ' :: (Nat.toDigits 10 count ++ (name.toList ++ behind texts)) := by
      rw [behind, List.flatMap_cons, ← behind, String.toList_append, toList_toString]
      simp
    have hblank : firstDigit place (' ' :: (Nat.toDigits 10 count ++ (name.toList ++ behind texts)))
        = .ok (some (digit c, ⟨place + 1 + 1, cs ++ (name.toList ++ behind texts)⟩)) := by
      rw [firstDigit, if_neg (by decide), if_pos (by decide), ← hfirst]
      rfl
    have hthis : d.nanoseconds + count * unit.length < limit := by omega
    have hothers : d.nanoseconds + count * unit.length + total < limit := by omega
    obtain ⟨place', hpart⟩ := readParts_part hname hcount hthis hdigits texts fuel (place + 1 + 1)
    rw [readRest, hbehind, bind_of_ok hblank]
    calc
      _ = readRest fuel ⟨d.nanoseconds + count * unit.length⟩ ⟨place', behind texts⟩ := hpart
      _ = .ok ⟨d.nanoseconds + count * unit.length + total⟩ := ih (Nat.le_of_succ_le_succ hfuel) hothers place'
      _ = _ := by rw [Nat.add_assoc]

/-- Parts with blanks between them are read as what they add up to. -/
theorem parse_of_adds {text : String} {texts : List String} {total : Nat} (h : Adds (text :: texts) total)
    (htotal : total < limit) : parse (" ".intercalate (text :: texts)) = .ok ⟨total⟩ := by
  cases h with
  | @cons count total name unit _ hname hcount h =>
    let cs := Nat.toDigits 10 count ++ (name.toList ++ behind texts)
    have hlist : (" ".intercalate ((toString count ++ name) :: texts)).toList = cs := by
      rw [show " " = String.singleton ' ' from rfl, Text.toList_intercalate, List.map_cons, Text.join_cons,
        String.toList_append, toList_toString, List.flatMap_map, List.append_assoc]
      rfl
    -- the first part is read, and the others are added to it
    obtain ⟨c, digits, hdigits, hfirst⟩ := firstDigit_toDigits count 0 (name.toList ++ behind texts)
    have hthis : (⟨0⟩ : Duration).nanoseconds + count * unit.length < limit := by
      show 0 + count * unit.length < limit
      omega
    have hothers : (⟨0⟩ : Duration).nanoseconds + count * unit.length + total < limit := by
      show 0 + count * unit.length + total < limit
      omega
    -- each part takes at least one character, so the fuel is enough
    have hsteps : texts.length ≤ cs.length := by
      have hle := length_le_behind texts
      rw [List.length_append, List.length_append]
      omega
    obtain ⟨place', hpart⟩ := readParts_part hname hcount hthis hdigits texts cs.length 1
    rw [parse, hlist, bind_of_ok hfirst]
    calc
      _ = readRest cs.length ⟨0 + count * unit.length⟩ ⟨place', behind texts⟩ := hpart
      _ = .ok ⟨0 + count * unit.length + total⟩ := readRest_of_adds h hsteps hothers place'
      _ = _ := by rw [Nat.zero_add]

/-! ## Writing -/

/-- A part that is printed is added: none for zero, and with a plural from two on. -/
theorem adds_renderPart {count : Nat} {name : String} {unit : Unit} {plural : Bool}
    (hname : Unit.named? name = some unit) (hplural : plural = true → Unit.named? (name ++ "s") = some unit)
    (hcount : count * (unit.length / unit.grain) < wordLimit) :
    Adds (renderPart count name plural) (count * unit.length) := by
  unfold renderPart
  split
  next hzero =>
    rw [hzero, Nat.zero_mul]
    exact .nil
  next =>
    -- the plural is the name of the unit too
    have hlong : Unit.named? (name ++ if plural && 1 < count then "s" else "") = some unit := by
      split
      next h => exact hplural (by simp at h; exact h.1)
      next => rwa [String.append_empty]
    rw [String.append_assoc]
    exact .cons hlong hcount .nil

/-- The units of seconds, and those of nanoseconds, make up the whole. -/
theorem total_of_parts (s n : Nat) :
    s / 31557600 * Unit.year.length + s % 31557600 / 2630016 * Unit.month.length
      + s % 31557600 % 2630016 / 86400 * Unit.day.length + s % 31557600 % 2630016 % 86400 / 3600 * Unit.hour.length
      + s % 31557600 % 2630016 % 86400 % 3600 / 60 * Unit.minute.length
      + s % 31557600 % 2630016 % 86400 % 60 * Unit.second.length
      + n / 1000000 * Unit.millisecond.length + n / 1000 % 1000 * Unit.microsecond.length
      + n % 1000 * Unit.nanosecond.length = s * 1_000_000_000 + n := by
  simp only [Unit.length]
  omega

/-- What is written of a duration adds up to it. -/
theorem adds_renderParts {d : Duration} (hd : d.nanoseconds < limit) : Adds d.renderParts d.nanoseconds := by
  let s := d.seconds
  let n := d.subsecond
  have hs : s < wordLimit := (Nat.div_lt_iff_lt_mul (by decide)).2 hd
  have hn : n < 1_000_000_000 := Nat.mod_lt _ (by decide)
  have hword : 1_000_000_000 < wordLimit := by decide
  let ofYear := s % 31557600
  let ofMonth := ofYear % 2630016
  let ofDay := ofMonth % 86400
  -- each count is small enough to be read, as it is less than the number of its units in the next
  have hyears := @adds_renderPart (s / 31557600) "year" .year true rfl (fun _ => rfl)
    (by simp [Unit.length, Unit.grain]; omega)
  have hmonths := @adds_renderPart (ofYear / 2630016) "month" .month true rfl (fun _ => rfl)
    (by simp [Unit.length, Unit.grain]; omega)
  have hdays := @adds_renderPart (ofMonth / 86400) "day" .day true rfl (fun _ => rfl)
    (by simp [Unit.length, Unit.grain]; omega)
  have hhours := @adds_renderPart (ofDay / 3600) "h" .hour false rfl nofun
    (by simp [Unit.length, Unit.grain]; omega)
  have hminutes := @adds_renderPart (ofDay % 3600 / 60) "m" .minute false rfl nofun
    (by simp [Unit.length, Unit.grain]; omega)
  have hseconds := @adds_renderPart (ofDay % 60) "s" .second false rfl nofun
    (by simp [Unit.length, Unit.grain]; omega)
  have hmillis := @adds_renderPart (n / 1000000) "ms" .millisecond false rfl nofun
    (by simp [Unit.length, Unit.grain]; omega)
  have hmicros := @adds_renderPart (n / 1000 % 1000) "us" .microsecond false rfl nofun
    (by simp [Unit.length, Unit.grain]; omega)
  have hnanos := @adds_renderPart (n % 1000) "ns" .nanosecond false rfl nofun
    (by simp [Unit.length, Unit.grain]; omega)
  -- in a row the parts add up to the whole
  have hall := ((((((((hyears.append hmonths).append hdays).append hhours).append hminutes).append hseconds).append
    hmillis).append hmicros).append hnanos)
  have hparts : Adds d.renderParts _ := hall
  rw [total_of_parts s n] at hparts
  have hsplit : s * 1_000_000_000 + n = d.nanoseconds := Nat.div_add_mod' _ _
  rwa [hsplit] at hparts

/-- **A duration reads back.** -/
theorem parse_render {d : Duration} (hd : d.nanoseconds < limit) : parse d.render = .ok d := by
  rw [render]
  split
  -- zero is printed as a part of its own
  next hzero =>
    have hd : d = ⟨0⟩ := by
      cases d
      simpa [isZero] using hzero
    rw [hd]
    exact parse_of_adds (@Adds.cons 0 0 "s" .second [] rfl (by decide) .nil) (by decide)
  next hne =>
    have hadds := adds_renderParts hd
    cases hparts : d.renderParts with
    -- parts that add up to more than zero are not none
    | nil =>
      have hzero : ∀ total, Adds [] total → total = 0 := fun | _, .nil => rfl
      rw [hparts] at hadds
      exact absurd (by simpa [isZero] using hzero _ hadds) hne
    | cons text texts =>
      rw [hparts] at hadds
      exact parse_of_adds hadds hd

/-! ## What can be read -/

/-- A sum is below the limit. -/
theorem lt_of_plus {d d' : Duration} {nanoseconds : Nat} (h : d.plus nanoseconds = .ok d') :
    d'.nanoseconds < limit := by
  rw [plus_eq] at h
  rcases Nat.lt_or_ge (d.nanoseconds + nanoseconds) limit with hlt | hle
  · rw [if_neg (Nat.not_le_of_lt hlt)] at h
    cases h
    exact hlt
  · rw [if_pos hle] at h
    cases h

/-- What is added stays below the limit. -/
theorem lt_of_add {d d' : Duration} {n : Nat} {f : Option Fraction} {unit : String} (h : d.add n f unit = .ok d') :
    d'.nanoseconds < limit := by
  unfold add at h
  split at h
  next => cases h
  next u _ =>
    obtain ⟨whole, -, h⟩ := exists_of_bind_ok h
    obtain ⟨longer, hlonger, h⟩ := exists_of_bind_ok h
    cases f with
    -- the whole count is the last that is added
    | none =>
      cases h
      exact lt_of_plus hlonger
    -- the fraction is the last that is added
    | some f =>
      obtain ⟨part, -, h⟩ := exists_of_bind_ok h
      exact lt_of_plus h

/-- What is read part by part stays below the limit. -/
theorem lt_of_readParts {fuel : Nat} {d d' : Duration} {n : Nat} {c : Cursor} (h : readParts fuel d n c = .ok d') :
    d'.nanoseconds < limit := by
  -- by induction on the steps: the last part that is added is checked
  induction fuel generalizing d n c with
  | zero => cases h
  | succ fuel ih =>
    rw [readParts] at h
    obtain ⟨⟨n, f, c⟩, -, h⟩ := exists_of_bind_ok h
    obtain ⟨⟨unit, c⟩, -, h⟩ := exists_of_bind_ok h
    obtain ⟨longer, hlonger, h⟩ := exists_of_bind_ok h
    obtain ⟨next, -, h⟩ := exists_of_bind_ok h
    cases next with
    | none =>
      cases h
      exact lt_of_add hlonger
    | some next => exact ih h

/-- Every duration that is read is short enough to be read back. -/
theorem lt_of_parse {text : String} {d : Duration} (h : parse text = .ok d) : d.nanoseconds < limit := by
  rw [parse] at h
  obtain ⟨first, -, h⟩ := exists_of_bind_ok h
  cases first with
  | none => cases h
  | some first => exact lt_of_readParts h

end Duration

end Logbook
