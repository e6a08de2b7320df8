import GuestCases.Proofs.HeaderLines

/-!
MSR lines read back. The name ends at the first quote that no backslash escapes, every other
argument but the last ends at a comma, and the macro says whether a size is among them. So a line is
that of one entry only, when the numbers of the entry are in normal form and its hook is a word.
-/

namespace GuestCases

namespace Numeral

def IsNormal (text : String) : Prop :=
  ∃ first rest, text.toList = '0' :: 'x' :: first :: rest ∧
    (∀ c ∈ first :: rest, c ∈ "0123456789abcdef".toList) ∧ (first = '0' → rest = [])

theorem IsNormal.isWord {text : String} (h : IsNormal text) : Text.IsWord text.toList := by
  obtain ⟨first, rest, htext, hdigits, -⟩ := h
  have hmarks : "0123456789abcdefx".toList.all Text.isWordChar = true := by decide +kernel
  rw [htext]
  intro c hc
  apply List.all_eq_true.mp hmarks
  rcases List.mem_cons.mp hc with rfl | hc
  · decide
  · rcases List.mem_cons.mp hc with rfl | hc
    · decide
    · exact List.mem_append_left ['x'] (hdigits c hc)

theorem isNormal_hexText (value : Nat) : IsNormal (hexText value) := by
  obtain ⟨first, rest, hdigits, hzero, -⟩ :=
    toDigits_eq_cons (by decide : 1 < 16) (Nat.le_refl 16) value
  have hmem : ∀ digit < 16, Nat.digitChar digit ∈ "0123456789abcdef".toList := by decide
  refine ⟨first, rest, by rw [toList_hexText, hdigits], fun c hc => ?_, hzero⟩
  obtain ⟨digit, hlt, rfl⟩ := exists_digit_of_mem_toDigits value c (hdigits ▸ hc)
  exact hmem digit hlt

/-- The number of a normal form is that of its digits. -/
theorem valueFrom_of_readHex (text : String) (value : Nat) (first : Char) (rest : List Char)
    (htext : text.toList = '0' :: 'x' :: first :: rest) (hnormal : IsNormal text)
    (hsign : '+' ∉ first :: rest) (h : readHex text = .ok value) :
    valueFrom 16 0 (first :: rest) = some value := by
  simp only [readHex, hnormal.isWord.trimChars_eq] at h
  simp only [htext, List.isEmpty_cons, Bool.false_eq_true, if_false, hexValue?, afterHexMark?,
    Option.getD_some, word?, unsigned?_eq_natural? 16 _ hsign] at h
  split at h
  · rename_i found hfound
    obtain rfl := Except.ok.inj h
    exact ((natural?_eq_some_iff _ _ _).mp (Option.filter_eq_some_iff.mp hfound).1).2
  · cases h

/-- Only one normal form is that of one. -/
theorem readHex_eq_one_iff (text : String) (h : IsNormal text) :
    readHex text = .ok 1 ↔ text = "0x1" := by
  constructor
  · intro hread
    obtain ⟨first, rest, htext, hdigits, hzero⟩ := id h
    have hsign : '+' ∉ first :: rest := fun hmem => absurd (hdigits '+' hmem) (by decide)
    have hvalue := valueFrom_of_readHex text 1 first rest htext h hsign hread
    obtain ⟨digit, ⟨hdigit, -⟩, hrest⟩ := (valueFrom_cons_eq_some_iff _ _ _ _ _).mp hvalue
    have hone : "0123456789abcdef".toList.all fun c => digit? c != some 1 || c == '1' := by decide
    have hnone : "0123456789abcdef".toList.all fun c => digit? c != some 0 || c == '0' := by decide
    have hmem := hdigits first List.mem_cons_self
    rw [Nat.zero_mul, Nat.zero_add] at hrest
    cases rest with
    | nil =>
      obtain rfl := Option.some.inj hrest
      obtain rfl : first = '1' := by simpa [hdigit] using List.all_eq_true.mp hone first hmem
      exact String.toList_inj.mp htext
    | cons next others =>
      -- A digit before the last one counts sixteen or more, so it is a zero at the beginning.
      obtain ⟨second, -, hothers⟩ := (valueFrom_cons_eq_some_iff _ _ _ _ _).mp hrest
      have hle := le_of_valueFrom 16 _ 1 others (by decide) hothers
      obtain rfl : digit = 0 := by omega
      have hfirst : first = '0' := by simpa [hdigit] using List.all_eq_true.mp hnone first hmem
      cases hzero hfirst
  · rintro rfl
    rfl

end Numeral

namespace Msr

def untilQuote? : List Char → Option (List Char × List Char)
  | [] => none
  | '"' :: rest => some ([], rest)
  | '\\' :: c :: rest => (untilQuote? rest).map fun (text, after) => ('\\' :: c :: text, after)
  | c :: rest => (untilQuote? rest).map fun (text, after) => (c :: text, after)

def unescape : List Char → List Char
  | [] => []
  | '\\' :: c :: rest => c :: unescape rest
  | c :: rest => c :: unescape rest

def argument? (cs : List Char) : Option (List Char × List Char) :=
  (skip? ", " (cs.dropWhile (· ≠ ','))).map fun rest => (cs.takeWhile (· ≠ ','), rest)

def macroName (direction : Direction) (sized : Bool) : String :=
  if sized then direction.declarator ++ "_SIZE" else direction.declarator

/-- The direction that the macro declares, and whether a size is among its arguments. -/
def formOfMacro? (name : List Char) : Option (Direction × Bool) :=
  [(Direction.read, false), (.read, true), (.write, false), (.write, true)].find?
    fun (direction, sized) => (macroName direction sized).toList == name

def noHook : String := "NO_PRE_COND"

def Outcome.ofTokens? (trap hook : String) : Option Outcome :=
  if trap = Outcome.native.trapToken then some .native
  else
    ([Trap.gp, .ve].find? fun kind => kind.token == trap).map fun kind =>
      if hook = noHook then .traps kind else .trapsIf kind hook

def printedMacro (line : List Char) : List Char :=
  (line.takeWhile (· ≠ '(')).drop 1

def quotedText? (line : List Char) : Option (List Char) :=
  (untilQuote? ((line.dropWhile (· ≠ '"')).drop 1)).map Prod.fst

def sizeArgument? (sized : Bool) (cs : List Char) : Option (List Char × List Char) :=
  if sized then argument? cs else some ("0x1".toList, cs)

def Entry.ofChars? (line : List Char) : Option Entry := do
  let (direction, sized) ← formOfMacro? (printedMacro line)
  let (name, cs) ← untilQuote? ((line.dropWhile (· ≠ '"')).drop 1)
  let cs ← skip? ", " cs
  let (first, cs) ← argument? cs
  let (trap, cs) ← argument? cs
  let (hook, cs) ← argument? cs
  let outcome ← Outcome.ofTokens? (String.ofList trap) (String.ofList hook)
  let (size, cs) ← sizeArgument? sized cs
  let version ← "),".toList.isSuffixOf? cs
  pure ⟨String.ofList (unescape name), String.ofList first, String.ofList size, outcome, direction,
    String.ofList version⟩

def Entry.ofLine? (line : String) : Option Entry :=
  ofChars? line.toList

/-- The numbers of the entry are in normal form, and its hook, if any, is a word that does not stand
for none. -/
structure Entry.IsPlain (entry : Entry) : Prop where
  first : Numeral.IsNormal entry.first
  size : Numeral.IsNormal entry.size
  hook : ∀ hook ∈ entry.outcome.hook?, Text.IsWord hook.toList ∧ hook ≠ noHook

theorem untilQuote?_escape (name rest : List Char) :
    untilQuote? (Entry.escape name ++ '"' :: rest) = some (Entry.escape name, rest) := by
  induction name with
  | nil => rfl
  | cons c others ih =>
    rw [Entry.escape, List.flatMap_cons, ← Entry.escape]
    by_cases hquote : c = '"'
    · subst hquote
      simp [untilQuote?, ih]
    · by_cases hslash : c = '\\'
      · subst hslash
        simp [untilQuote?, ih]
      · simp [untilQuote?, hquote, hslash, ih]

theorem unescape_escape (name : List Char) : unescape (Entry.escape name) = name := by
  induction name with
  | nil => rfl
  | cons c others ih =>
    rw [Entry.escape, List.flatMap_cons, ← Entry.escape]
    by_cases hquote : c = '"'
    · subst hquote
      simp [unescape, ih]
    · by_cases hslash : c = '\\'
      · subst hslash
        simp [unescape, ih]
      · simp [unescape, hquote, hslash, ih]

theorem isPrefixOf?_append (before after : List Char) :
    before.isPrefixOf? (before ++ after) = some after := by
  induction before with
  | nil => rfl
  | cons c rest ih => simp [List.isPrefixOf?, ih]

theorem skip?_append (literal : String) (rest : List Char) :
    skip? literal (literal.toList ++ rest) = some rest :=
  isPrefixOf?_append literal.toList rest

theorem isSuffixOf?_append (before after : List Char) :
    after.isSuffixOf? (before ++ after) = some before := by
  simp [List.isSuffixOf?, isPrefixOf?_append]

/-- A word ends at the comma behind it. -/
theorem argument?_append (word rest : List Char) (h : Text.IsWord word) :
    argument? (word ++ (", ".toList ++ rest)) = some (word, rest) := by
  have hcomma : ',' ∉ word := h.not_mem ',' (by decide +kernel)
  have htake : (word ++ (", ".toList ++ rest)).takeWhile (· ≠ ',') = word :=
    takeWhile_ne_append ',' word (' ' :: rest) hcomma
  have hdrop : (word ++ (", ".toList ++ rest)).dropWhile (· ≠ ',') = ", ".toList ++ rest :=
    dropWhile_ne_append ',' word (' ' :: rest) hcomma
  rw [argument?, htake, hdrop, skip?_append, Option.map_some]

theorem formOfMacro?_macroName (direction : Direction) (sized : Bool) :
    formOfMacro? (macroName direction sized).toList = some (direction, sized) := by
  cases direction <;> cases sized <;> decide

theorem Outcome.ofTokens?_tokens (outcome : Outcome) (h : ∀ hook ∈ outcome.hook?, hook ≠ noHook) :
    Outcome.ofTokens? outcome.trapToken outcome.hookToken = some outcome := by
  cases outcome with
  | native => rfl
  | traps trap => cases trap <;> decide
  | trapsIf trap hook =>
    have hhook : hook ≠ noHook := h hook rfl
    cases trap <;> simp [Outcome.ofTokens?, Outcome.trapToken, Outcome.hookToken, Outcome.trap?,
      Outcome.hook?, Trap.token, hhook]

def Entry.printedSize (entry : Entry) : List Char :=
  if entry.isSingle then [] else entry.size.toList ++ ", ".toList

def Entry.printedArguments (entry : Entry) : List Char :=
  entry.first.toList ++ (", ".toList ++ (entry.outcome.trapToken.toList ++ (", ".toList ++
    (entry.outcome.hookToken.toList ++ (", ".toList ++
      (entry.printedSize ++ (entry.specVersion.toList ++ "),".toList)))))))

theorem Entry.toList_line (entry : Entry) :
    entry.line.toList = '\t' :: (macroName entry.direction (!entry.isSingle)).toList ++
      '(' :: '"' :: (escape entry.name.toList ++
        '"' :: (", ".toList ++ entry.printedArguments)) := by
  unfold Entry.line
  split
  · rename_i hsingle
    simp [printedArguments, printedSize, macroName, hsingle, toString]
  · rename_i hsingle
    simp [printedArguments, printedSize, macroName, hsingle, toString]

/-- No parenthesis stands in front of that of the macro, and no quote in front of the name. -/
theorem not_mem_macroName (direction : Direction) (sized : Bool) :
    '(' ∉ '\t' :: (macroName direction sized).toList ∧
      '"' ∉ '\t' :: (macroName direction sized).toList ++ ['('] := by
  cases direction <;> cases sized <;> decide

theorem Entry.printedMacro_line (entry : Entry) :
    printedMacro entry.line.toList = (macroName entry.direction (!entry.isSingle)).toList := by
  rw [printedMacro, toList_line, takeWhile_ne_append '(' _ _ (not_mem_macroName _ _).1]
  rfl

theorem Entry.untilQuote?_line (entry : Entry) :
    untilQuote? ((entry.line.toList.dropWhile (· ≠ '"')).drop 1) =
      some (escape entry.name.toList, ", ".toList ++ entry.printedArguments) := by
  have hline : entry.line.toList =
      ('\t' :: (macroName entry.direction (!entry.isSingle)).toList ++ ['(']) ++
        '"' :: (escape entry.name.toList ++ '"' :: (", ".toList ++ entry.printedArguments)) := by
    rw [toList_line, List.append_assoc]
    rfl
  rw [hline, drop_dropWhile_ne_append '"' _ _ (not_mem_macroName _ _).2,
    untilQuote?_escape]

namespace Entry.IsPlain

variable {entry : Entry}

theorem isSingle_eq (h : entry.IsPlain) : entry.isSingle = decide (entry.size = "0x1") := by
  have hone : (Numeral.readHex entry.size).toOption = some 1 ↔ entry.size = "0x1" := by
    rw [← Numeral.readHex_eq_one_iff entry.size h.size]
    cases Numeral.readHex entry.size <;> simp [Except.toOption]
  rw [Bool.eq_iff_iff, decide_eq_true_iff, ← hone, isSingle, beq_iff_eq, sizeValue?]

theorem sizeArgument?_printedSize (h : entry.IsPlain) (rest : List Char) :
    sizeArgument? (!entry.isSingle) (entry.printedSize ++ rest) =
      some (entry.size.toList, rest) := by
  rw [sizeArgument?, printedSize, h.isSingle_eq]
  by_cases hone : entry.size = "0x1"
  · simp [hone]
  · simp only [hone, decide_false, Bool.not_false, if_true, Bool.false_eq_true, if_false,
      List.append_assoc]
    exact argument?_append _ _ h.size.isWord

/-- Every argument is found where it was written. -/
theorem ofLine?_line (h : entry.IsPlain) : Entry.ofLine? entry.line = some entry := by
  have htrap := isWord_trapToken entry.outcome
  have hhook := isWord_hookToken entry.outcome fun hook hmem => (h.hook hook hmem).1
  have houtcome := Outcome.ofTokens?_tokens entry.outcome fun hook hmem => (h.hook hook hmem).2
  rw [Entry.ofLine?, Entry.ofChars?, Entry.printedMacro_line, formOfMacro?_macroName,
    Entry.untilQuote?_line]
  simp only [Option.bind_eq_bind, Option.bind_some, skip?_append, Entry.printedArguments,
    argument?_append _ _ h.first.isWord, argument?_append _ _ htrap, argument?_append _ _ hhook,
    String.ofList_toList, houtcome, h.sizeArgument?_printedSize, isSuffixOf?_append,
    unescape_escape]
  rfl

end Entry.IsPlain

/-- The entries collected are plain unless the source of the hooks declares one under the name that
stands for none. -/
theorem isPlain_of_collect (files : Files.Tree) (conditions : Dictionary String) (text : String)
    (sources : List Settings.MsrSource) (build : Build Entry)
    (hnone : (Hooks.ofSource text).contains noHook = false)
    (h : (collect family files
      (sources.map (sheetSource ⟨conditions, .ofSource text⟩))).outcome = .ok build)
    (entry : Entry) (hentry : entry ∈ build.entries) : entry.IsPlain := by
  obtain ⟨⟨first, size, hfirst, hsize⟩, hhook⟩ :=
    exists_hexText_of_collect files _ sources build h entry hentry
  refine ⟨hfirst ▸ Numeral.isNormal_hexText first, hsize ▸ Numeral.isNormal_hexText size,
    fun hook hmem => ⟨isWord_of_contains_ofSource text hook (hhook hook hmem), ?_⟩⟩
  rintro rfl
  exact Bool.false_ne_true (hnone.symm.trans (hhook noHook hmem))

/-- What is found in the line of an entry: the entry and no other one, the name between the quotes,
and a size just where it is not that of a single register. -/
structure Entry.ReadsBack (entry : Entry) : Prop where
  decoded : Entry.ofLine? entry.line = some entry
  unique : ∀ other : Entry, other.IsPlain → other.line = entry.line → other = entry
  name : (quotedText? entry.line.toList).map unescape = some entry.name.toList
  sized : printedMacro entry.line.toList =
    (macroName entry.direction (decide (entry.size ≠ "0x1"))).toList

/-- The line of a plain entry can be read back, whatever its name and its version are. -/
theorem readsBack_of_isPlain (entry : Entry) (h : entry.IsPlain) : entry.ReadsBack where
  decoded := h.ofLine?_line
  unique other hother hline := by
    have hdecoded := hother.ofLine?_line
    rw [hline, h.ofLine?_line] at hdecoded
    exact (Option.some.inj hdecoded).symm
  name := by
    rw [quotedText?, Entry.untilQuote?_line, Option.map_some, Option.map_some, unescape_escape]
  sized := by
    rw [Entry.printedMacro_line, h.isSingle_eq, decide_not]

/-- An entry whose name holds a quote and ends with a backslash, and whose version looks like the
end of a line. -/
def oddEntry : Entry :=
  ⟨"A \"B\" \\", "0x3a", "0x2", .trapsIf .gp "pre_perfmon", .write, "VER1_0), \"VER1_5\"),"⟩

theorem readsBack_of_isPlain_odd :
    oddEntry.line = "\tDEF_WRITE_MSR_SIZE(\"A \\\"B\\\" \\\\\", 0x3a, X86_TRAP_GP, pre_perfmon, " ++
      "0x2, VER1_0), \"VER1_5\"),)," ∧
    oddEntry.IsPlain ∧ oddEntry.ReadsBack := by
  have hword : "pre_perfmon".toList.all Text.isWordChar = true := by decide +kernel
  have hplain : oddEntry.IsPlain := {
    first := ⟨'3', ['a'], rfl, by simp, by simp⟩
    size := ⟨'2', [], rfl, by simp, by simp⟩
    hook := by
      intro hook hhook
      obtain rfl := Option.some.inj hhook
      exact ⟨List.all_eq_true.mp hword, by decide⟩ }
  exact ⟨rfl, hplain, readsBack_of_isPlain oddEntry hplain⟩

end Msr

end GuestCases
