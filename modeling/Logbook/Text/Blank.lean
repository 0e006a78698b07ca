import Logbook.Unicode.Property

/-!
# Blanks

`trim` takes blanks off both ends of a text.  Its main laws: trimming twice is trimming once
(`trim_trim`), and a trimmed text neither starts nor ends with a blank (`head?_trimList`).
-/

namespace Logbook.Text

/-- White space of any script. -/
def isBlank (c : Char) : Bool := Property.whiteSpace.contains c

def trimLeft (cs : List Char) : List Char := cs.dropWhile isBlank

def trimRight (cs : List Char) : List Char := (cs.reverse.dropWhile isBlank).reverse

/-- The text without the blanks at its ends. -/
def trimList (cs : List Char) : List Char := trimRight (trimLeft cs)

def trim (s : String) : String := String.ofList (trimList s.toList)

/-- The text holds blanks only. -/
def isBlankList (cs : List Char) : Bool := cs.all isBlank

/-- Nothing blank is left at the start. -/
theorem head?_trimLeft {cs : List Char} {c : Char} (h : (trimLeft cs).head? = some c) :
    isBlank c = false := by
  induction cs with
  | nil => simp [trimLeft] at h
  | cons d ds ih =>
    by_cases hd : isBlank d
    · apply ih
      simpa [trimLeft, hd] using h
    · have : c = d := by
        simp [trimLeft, hd] at h
        exact h.symm
      simpa [this] using hd

/-- A text that starts with no blank stays as it is. -/
theorem trimLeft_of_head {cs : List Char} (h : ∀ c, cs.head? = some c → isBlank c = false) :
    trimLeft cs = cs := by
  cases cs with
  | nil => rfl
  | cons c cs => simp [trimLeft, h c rfl]

/-- Trimming the start again changes nothing. -/
@[simp] theorem trimLeft_trimLeft (cs : List Char) : trimLeft (trimLeft cs) = trimLeft cs :=
  trimLeft_of_head fun _ h => head?_trimLeft h

/-- The end is the start of the reversed text. -/
theorem trimRight_eq (cs : List Char) : trimRight cs = (trimLeft cs.reverse).reverse := rfl

/-- Trimming the end again changes nothing. -/
@[simp] theorem trimRight_trimRight (cs : List Char) : trimRight (trimRight cs) = trimRight cs := by
  simp [trimRight_eq]

/-- A text is its trimmed start followed by blanks. -/
theorem exists_trimRight_append (cs : List Char) : ∃ ws, cs = trimRight cs ++ ws := by
  refine ⟨(cs.reverse.takeWhile isBlank).reverse, ?_⟩
  rw [trimRight, ← List.reverse_append, List.takeWhile_append_dropWhile, List.reverse_reverse]

/-- What `trimList` leaves starts with no blank. -/
theorem head?_trimList {cs : List Char} {c : Char} (h : (trimList cs).head? = some c) :
    isBlank c = false := by
  obtain ⟨ws, hws⟩ := exists_trimRight_append (trimLeft cs)
  have h' : (trimLeft cs).head? = some c := by
    rw [hws, List.head?_append]
    simp [trimList] at h
    simp [h]
  exact head?_trimLeft h'

/-- Trimming again changes nothing. -/
@[simp] theorem trimList_trimList (cs : List Char) : trimList (trimList cs) = trimList cs := by
  have h : trimLeft (trimList cs) = trimList cs := trimLeft_of_head fun _ h => head?_trimList h
  rw [trimList, h]
  simp [trimList]

/-- Trimming again changes nothing. -/
@[simp] theorem trim_trim (s : String) : trim (trim s) = trim s := by simp [trim]

/-- Of blanks nothing is left. -/
theorem trimList_of_isBlankList {cs : List Char} (h : isBlankList cs = true) : trimList cs = [] := by
  have hleft : trimLeft cs = [] := by
    induction cs with
    | nil => rfl
    | cons c cs ih =>
      obtain ⟨hc, hcs⟩ : isBlank c = true ∧ isBlankList cs = true := by simpa [isBlankList] using h
      simpa [trimLeft, hc] using ih hcs
  rw [trimList, hleft]
  rfl

/-- Trimming the start adds no character. -/
theorem mem_of_mem_trimLeft {cs : List Char} {c : Char} (h : c ∈ trimLeft cs) : c ∈ cs :=
  (List.dropWhile_sublist _).subset h

/-- Trimming adds no character. -/
theorem mem_of_mem_trimList {cs : List Char} {c : Char} (h : c ∈ trimList cs) : c ∈ cs := by
  rw [trimList, trimRight_eq, List.mem_reverse] at h
  exact mem_of_mem_trimLeft (List.mem_reverse.1 (mem_of_mem_trimLeft h))

/-- A text with no blank at either end is trimmed already. -/
theorem trimList_of_ends {cs : List Char} (hfirst : ∀ c, cs.head? = some c → isBlank c = false)
    (hlast : ∀ c, cs.getLast? = some c → isBlank c = false) : trimList cs = cs := by
  rw [trimList, trimLeft_of_head hfirst, trimRight_eq, trimLeft_of_head, List.reverse_reverse]
  simpa using hlast

end Logbook.Text
