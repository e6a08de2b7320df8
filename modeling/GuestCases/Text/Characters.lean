/-!
Characters and trimming. A character is blank when Unicode gives it the property White_Space;
`trim` drops the longest blank runs at the two ends of a text and nothing else. Texts are compared
up to the case of ASCII letters, and other letters have no case here. Classes of characters that
Unicode defines are given by sorted ranges.
-/

namespace GuestCases.Text

/-- The 25 characters with the Unicode property White_Space. -/
def isBlank (c : Char) : Bool :=
  let n := c.toNat
  (0x9 ≤ n && n ≤ 0xD) || n == 0x20 || n == 0x85 || n == 0xA0 || n == 0x1680 ||
    (0x2000 ≤ n && n ≤ 0x200A) || n == 0x2028 || n == 0x2029 || n == 0x202F || n == 0x205F ||
    n == 0x3000

def dropBlankEnd (cs : List Char) : List Char :=
  (cs.reverse.dropWhile isBlank).reverse

def trimChars (cs : List Char) : List Char :=
  dropBlankEnd (cs.dropWhile isBlank)

def trim (s : String) : String :=
  String.ofList (trimChars s.toList)

theorem dropWhile_isBlank_eq_self (cs : List Char)
    (h : ∀ c, cs.head? = some c → isBlank c = false) : cs.dropWhile isBlank = cs := by
  cases cs with
  | nil => rfl
  | cons c rest => exact List.dropWhile_cons_of_neg (by simp [h c rfl])

theorem head?_dropWhile_isBlank (cs : List Char) (c : Char)
    (h : (cs.dropWhile isBlank).head? = some c) : isBlank c = false := by
  have hnot := List.head?_dropWhile_not isBlank cs
  simpa only [h] using hnot

theorem dropBlankEnd_isPrefix (cs : List Char) : dropBlankEnd cs <+: cs := by
  have hsuffix := List.dropWhile_suffix (l := cs.reverse) isBlank
  simpa only [dropBlankEnd, List.reverse_reverse] using List.reverse_prefix.mpr hsuffix

theorem trimChars_isInfix (cs : List Char) : trimChars cs <:+: cs :=
  (dropBlankEnd_isPrefix _).isInfix.trans (List.dropWhile_suffix isBlank).isInfix

theorem trimChars_sublist (cs : List Char) : (trimChars cs).Sublist cs :=
  (trimChars_isInfix cs).sublist

/-- A trimmed text begins with no blank. -/
theorem head?_trimChars (cs : List Char) (c : Char) (h : (trimChars cs).head? = some c) :
    isBlank c = false := by
  obtain ⟨rest, hrest⟩ := dropBlankEnd_isPrefix (cs.dropWhile isBlank)
  apply head?_dropWhile_isBlank cs c
  rw [← hrest, List.head?_append, ← trimChars, h, Option.some_or]

/-- A trimmed text ends with no blank. -/
theorem getLast?_trimChars (cs : List Char) (c : Char) (h : (trimChars cs).getLast? = some c) :
    isBlank c = false := by
  rw [trimChars, dropBlankEnd, List.getLast?_reverse] at h
  exact head?_dropWhile_isBlank _ c h

/-- Trimming changes nothing when there is no blank at either end. -/
theorem trimChars_eq_self (cs : List Char)
    (hhead : ∀ c, cs.head? = some c → isBlank c = false)
    (hlast : ∀ c, cs.getLast? = some c → isBlank c = false) : trimChars cs = cs := by
  rw [trimChars, dropWhile_isBlank_eq_self cs hhead, dropBlankEnd,
    dropWhile_isBlank_eq_self cs.reverse (by simpa only [List.head?_reverse] using hlast),
    List.reverse_reverse]

/-- Blanks around characters of which none is blank are all that is trimmed. -/
theorem trimChars_between (before cs after : List Char) (hbefore : ∀ c ∈ before, isBlank c = true)
    (hcs : ∀ c ∈ cs, isBlank c = false) (hafter : ∀ c ∈ after, isBlank c = true) :
    trimChars (before ++ cs ++ after) = cs := by
  have hend : ∀ c ∈ after.reverse, isBlank c = true := fun c hc =>
    hafter c (List.mem_reverse.mp hc)
  rw [trimChars, List.append_assoc, List.dropWhile_append_of_pos hbefore]
  cases cs with
  | nil =>
    have hnone : (after ++ []).dropWhile isBlank = [] := List.dropWhile_append_of_pos hafter
    rw [List.nil_append, ← List.append_nil after, hnone]
    rfl
  | cons c rest =>
    rw [List.cons_append, List.dropWhile_cons_of_neg (by simp [hcs c List.mem_cons_self]),
      ← List.cons_append, dropBlankEnd, List.reverse_append, List.dropWhile_append_of_pos hend,
      dropWhile_isBlank_eq_self, List.reverse_reverse]
    intro d hd
    exact hcs d (List.mem_reverse.mp (List.mem_of_head? hd))

theorem trimChars_trimChars (cs : List Char) : trimChars (trimChars cs) = trimChars cs :=
  trimChars_eq_self _ (head?_trimChars cs) (getLast?_trimChars cs)

theorem count_dropWhile_isBlank (c : Char) (hc : isBlank c = false) (cs : List Char) :
    (cs.dropWhile isBlank).count c = cs.count c := by
  induction cs with
  | nil => rfl
  | cons d rest ih =>
    by_cases hd : isBlank d = true
    · have hne : d ≠ c := fun heq => by simp [heq, hc] at hd
      rw [List.dropWhile_cons_of_pos hd, ih, List.count_cons_of_ne hne]
    · rw [List.dropWhile_cons_of_neg hd]

/-- Trimming drops no character that is not blank. -/
theorem count_trimChars (c : Char) (hc : isBlank c = false) (cs : List Char) :
    (trimChars cs).count c = cs.count c := by
  rw [trimChars, dropBlankEnd, List.count_reverse, count_dropWhile_isBlank c hc,
    List.count_reverse, count_dropWhile_isBlank c hc]

theorem mem_trimChars_iff (c : Char) (hc : isBlank c = false) (cs : List Char) :
    c ∈ trimChars cs ↔ c ∈ cs := by
  rw [← List.count_pos_iff, count_trimChars c hc, List.count_pos_iff]

theorem toList_trim (s : String) : (trim s).toList = trimChars s.toList := by
  simp [trim]

def lowerChars (cs : List Char) : List Char :=
  cs.map Char.toLower

def lower (s : String) : String :=
  String.ofList (lowerChars s.toList)

def beginsWith (head text : List Char) : Bool :=
  (lowerChars head).isPrefixOf (lowerChars text)

def inRanges : List (Nat × Nat) → Nat → Bool
  | [], _ => false
  | (low, high) :: rest, n => if n < low then false else n ≤ high || inRanges rest n

end GuestCases.Text
