import GuestCases.Msr.Description
import GuestCases.Proofs.PrintedTokens
import Mathlib.Data.List.Infix

/-!
The condition that a description holds in parentheses. A scan begins at the first opening
parenthesis, counts the open ones and ends where none is open any more; what stands between is the
condition. So there is none exactly when nothing from the first opening parenthesis on closes all
that it opens. The scan knows its places by the bytes in front of them. Its count never drops below
zero, and whatever it cuts out of the text is cut between characters.
-/

namespace GuestCases

/-- The bytes of the text from `start` to `stop` are those of the part, so that both places lie
between characters. -/
def IsSlice (text : String) (start stop : Nat) (part : String) : Prop :=
  ∃ before after, text = before ++ part ++ after ∧ start = before.utf8ByteSize ∧
    stop = start + part.utf8ByteSize

namespace Msr

def ClosesAll (cs : List Char) : Prop :=
  cs.count ')' = cs.count '('

/-- The characters close all that they open, and nowhere more than that. -/
def IsBalanced (cs : List Char) : Prop :=
  (∀ front, front <+: cs → front.count ')' ≤ front.count '(') ∧ ClosesAll cs

instance (cs : List Char) : Decidable (ClosesAll cs) :=
  inferInstanceAs (Decidable (_ = _))

instance (cs : List Char) : Decidable (IsBalanced cs) :=
  decidable_of_iff ((∀ front ∈ cs.inits, front.count ')' ≤ front.count '(') ∧ ClosesAll cs)
    (by simp only [List.mem_inits, IsBalanced])

def opening (c : Char) : Int :=
  if c = '(' then 1 else if c = ')' then -1 else 0

def surplus (cs : List Char) : Int :=
  cs.count '(' - cs.count ')'

/-- A character that the scan has read: the bytes in front of it, and the number of parentheses
that are open behind it. That is an integer, so only the scan keeps it from being negative. -/
structure Sight where
  offset : Nat
  depth : Int

def scan (depth : Int) (offset : Nat) : List Char → List Sight
  | [] => []
  | c :: rest =>
    ⟨offset, depth + opening c⟩ ::
      if c = ')' ∧ depth + opening c = 0 then []
      else scan (depth + opening c) (offset + c.utf8Size) rest

def fromOpening (text : String) : List Char :=
  text.toList.dropWhile (· ≠ '(')

def openingOffset (text : String) : Nat :=
  (String.ofList (text.toList.takeWhile (· ≠ '('))).utf8ByteSize

def sights (text : String) : List Sight :=
  scan 0 (openingOffset text) (fromOpening text)

/-- The scan finds what the text has for a condition, and each of its steps is possible. -/
structure ScansSafely (text : String) : Prop where
  depth_nonneg : ∀ sight ∈ sights text, 0 ≤ sight.depth
  /-- What the scan reads is cut out of the text from the first opening parenthesis on. -/
  tail : '(' ∈ text.toList →
    IsSlice text (openingOffset text) text.utf8ByteSize (String.ofList (fromOpening text))
  /-- The condition is cut out between the first opening parenthesis and the end of the scan. -/
  condition : ∀ sight ∈ sights text, sight.depth = 0 → ∃ inner,
    IsSlice text (openingOffset text + 1) sight.offset inner ∧
      balanced? text = some (Text.trim inner)
  ends : balanced? text ≠ none → ∃ sight ∈ sights text, sight.depth = 0

theorem opening_open : opening '(' = 1 := rfl

theorem opening_close : opening ')' = -1 := rfl

theorem succ_add_opening_close (n : Nat) : ((n + 1 : Nat) : Int) + opening ')' = n := by
  rw [opening_close]
  omega

theorem opening_of_ne (c : Char) (hopen : c ≠ '(') (hclose : c ≠ ')') : opening c = 0 := by
  simp [opening, hopen, hclose]

theorem opening_nonneg (c : Char) (hclose : c ≠ ')') : 0 ≤ opening c := by
  by_cases hopen : c = '('
  · rw [hopen]
    decide
  · exact Int.le_of_eq (opening_of_ne c hopen hclose).symm

theorem surplus_nil : surplus [] = 0 := rfl

theorem surplus_cons (c : Char) (cs : List Char) : surplus (c :: cs) = opening c + surplus cs := by
  simp only [surplus, opening, List.count_cons, beq_iff_eq]
  by_cases hopen : c = '('
  · subst hopen
    simp
    omega
  · by_cases hclose : c = ')'
    · subst hclose
      simp
      omega
    · simp [hopen, hclose]

theorem closesAll_iff (cs : List Char) : ClosesAll cs ↔ surplus cs = 0 := by
  unfold ClosesAll surplus
  omega

theorem isBalanced_iff (cs : List Char) :
    IsBalanced cs ↔ (∀ front, front <+: cs → 0 ≤ surplus front) ∧ surplus cs = 0 := by
  rw [IsBalanced, closesAll_iff]
  refine and_congr_left fun _ => forall₂_congr fun front _ => ?_
  unfold surplus
  omega

theorem forall_prefix_cons_iff {α : Type} (P : List α → Prop) (c : α) (cs : List α) :
    (∀ front, front <+: c :: cs → P front) ↔ P [] ∧ ∀ front, front <+: cs → P (c :: front) := by
  constructor
  · intro h
    exact ⟨h [] List.nil_prefix, fun front hfront => h _ ((List.prefix_cons_inj c).mpr hfront)⟩
  · rintro ⟨hnil, hcons⟩ front hfront
    rcases List.prefix_cons_iff.mp hfront with rfl | ⟨rest, rfl, hrest⟩
    · exact hnil
    · exact hcons rest hrest

/-- In front of a closing parenthesis the inner characters close all of `depth` open ones, and
nowhere more than that. -/
def Closes (depth : Int) (cs inner : List Char) : Prop :=
  ∃ rest, cs = inner ++ ')' :: rest ∧ (∀ front, front <+: inner → 0 ≤ depth + surplus front) ∧
    depth + surplus inner = 0

/-- No beginning of the characters closes `depth` open parentheses and one more. -/
def NeverCloses (depth : Int) (cs : List Char) : Prop :=
  ∀ front, front <+: cs → depth + 1 + surplus front ≠ 0

theorem closes_close_iff (cs inner : List Char) : Closes 0 (')' :: cs) inner ↔ inner = [] := by
  constructor
  · rintro ⟨rest, h, hfronts, -⟩
    cases inner with
    | nil => rfl
    | cons c others =>
      obtain ⟨rfl, -⟩ := List.cons.inj h
      have hfront := hfronts [')'] (List.prefix_append [')'] others)
      exact absurd hfront (by decide)
  · rintro rfl
    refine ⟨cs, rfl, fun front hfront => ?_, rfl⟩
    rw [List.prefix_nil.mp hfront]
    decide

/-- Unless it closes the last open parenthesis, a character belongs to the inner ones. -/
theorem closes_cons_iff (depth : Int) (hdepth : 0 ≤ depth) (c : Char)
    (hc : c = ')' → depth ≠ 0) (cs inner : List Char) :
    Closes depth (c :: cs) inner ↔
      ∃ others, Closes (depth + opening c) cs others ∧ c :: others = inner := by
  constructor
  · rintro ⟨rest, h, hfronts, hall⟩
    cases inner with
    | nil =>
      obtain ⟨rfl, -⟩ := List.cons.inj h
      rw [surplus_nil, Int.add_zero] at hall
      exact absurd hall (hc rfl)
    | cons d others =>
      obtain ⟨rfl, rfl⟩ := List.cons.inj h
      refine ⟨others, ⟨rest, rfl, fun front hfront => ?_, ?_⟩, rfl⟩
      · have hlonger := hfronts (c :: front) ((List.prefix_cons_inj c).mpr hfront)
        rwa [surplus_cons, ← Int.add_assoc] at hlonger
      · rwa [surplus_cons, ← Int.add_assoc] at hall
  · rintro ⟨others, ⟨rest, rfl, hfronts, hall⟩, rfl⟩
    refine ⟨rest, rfl, (forall_prefix_cons_iff _ c others).mpr ⟨?_, fun front hfront => ?_⟩, ?_⟩
    · rwa [surplus_nil, Int.add_zero]
    · rw [surplus_cons, ← Int.add_assoc]
      exact hfronts front hfront
    · rwa [surplus_cons, ← Int.add_assoc]

theorem neverCloses_cons_iff (depth : Int) (c : Char) (cs : List Char) :
    NeverCloses depth (c :: cs) ↔ depth + 1 ≠ 0 ∧ NeverCloses (depth + opening c) cs := by
  have hstep : ∀ front, depth + 1 + (opening c + surplus front) =
      depth + opening c + 1 + surplus front := by
    intro front
    omega
  unfold NeverCloses
  rw [forall_prefix_cons_iff]
  simp only [surplus_nil, surplus_cons, Int.add_zero, hstep]

theorem closing?_eq_some_iff (depth : Nat) (cs inner : List Char) :
    closing? depth cs = some inner ↔ Closes depth cs inner := by
  fun_induction closing? depth cs generalizing inner with
  | case1 => simp [Closes]
  | case2 depth rest ih =>
    rw [closes_cons_iff depth (by omega) '(' (fun h => absurd h (by decide)), opening_open,
      Option.map_eq_some_iff]
    exact exists_congr fun others => and_congr_left fun _ => ih others
  | case3 rest =>
    rw [Int.natCast_zero, closes_close_iff, Option.some_inj, eq_comm]
  | case4 rest n ih =>
    rw [closes_cons_iff _ (by omega) ')' (by omega), succ_add_opening_close,
      Option.map_eq_some_iff]
    exact exists_congr fun others => and_congr_left fun _ => ih others
  | case5 depth c rest hopen hclose ih =>
    rw [closes_cons_iff depth (by omega) c fun hc => (hclose hc).elim,
      opening_of_ne c hopen hclose, Int.add_zero, Option.map_eq_some_iff]
    exact exists_congr fun others => and_congr_left fun _ => ih others

/-- Nothing closes the parentheses when no beginning of the characters does. -/
theorem closing?_eq_none_iff (depth : Nat) (cs : List Char) :
    closing? depth cs = none ↔ NeverCloses depth cs := by
  fun_induction closing? depth cs with
  | case1 depth =>
    simp only [NeverCloses, List.prefix_nil, forall_eq, surplus_nil, true_iff]
    omega
  | case2 depth rest ih =>
    rw [neverCloses_cons_iff, opening_open, Option.map_eq_none_iff, ih]
    exact (and_iff_right (by omega)).symm
  | case3 rest =>
    have hclosed : ¬NeverCloses 0 (')' :: rest) := by
      intro h
      exact h [')'] (List.prefix_append [')'] rest) rfl
    simpa using hclosed
  | case4 rest n ih =>
    rw [neverCloses_cons_iff, succ_add_opening_close, Option.map_eq_none_iff, ih]
    exact (and_iff_right (by omega)).symm
  | case5 depth c rest hopen hclose ih =>
    rw [neverCloses_cons_iff, opening_of_ne c hopen hclose, Int.add_zero, Option.map_eq_none_iff,
      ih]
    exact (and_iff_right (by omega)).symm

/-- While parentheses are open the scan never counts fewer than none. -/
theorem depth_nonneg_of_mem_scan (depth : Int) (hdepth : 0 < depth) (offset : Nat)
    (cs : List Char) : ∀ sight ∈ scan depth offset cs, 0 ≤ sight.depth := by
  induction cs generalizing depth offset with
  | nil => simp [scan]
  | cons c rest ih =>
    have hnext : 0 ≤ depth + opening c ∧ (c ≠ ')' → 0 < depth + opening c) := by
      by_cases hclose : c = ')'
      · subst hclose
        rw [opening_close]
        exact ⟨by omega, fun h => absurd rfl h⟩
      · have hopening := opening_nonneg c hclose
        exact ⟨by omega, fun _ => by omega⟩
    intro sight hsight
    rw [scan] at hsight
    rcases List.mem_cons.mp hsight with rfl | hlater
    · exact hnext.1
    · split at hlater
      · cases hlater
      · rename_i hgoes
        refine ih _ ?_ _ sight hlater
        by_cases hclose : c = ')'
        · have hne : depth + opening c ≠ 0 := fun h => hgoes ⟨hclose, h⟩
          omega
        · exact hnext.2 hclose

/-- A character behind which parentheses are open is not the end of the scan. -/
theorem mem_scan_cons_iff (depth : Int) (offset : Nat) (c : Char) (rest : List Char)
    (hopen : depth + opening c ≠ 0) (sight : Sight) :
    sight ∈ scan depth offset (c :: rest) ∧ sight.depth = 0 ↔
      sight ∈ scan (depth + opening c) (offset + c.utf8Size) rest ∧ sight.depth = 0 := by
  rw [scan, if_neg fun h => hopen h.2, List.mem_cons]
  refine and_congr_left fun hzero => or_iff_right ?_
  rintro rfl
  exact hopen hzero

/-- The scan counts no open parenthesis just at the one that closes the last of them. -/
theorem mem_scan_and_depth_eq_zero_iff (depth offset : Nat) (cs : List Char) (sight : Sight) :
    sight ∈ scan (depth + 1) offset cs ∧ sight.depth = 0 ↔
      ∃ inner, closing? depth cs = some inner ∧
        sight = ⟨offset + (String.ofList inner).utf8ByteSize, 0⟩ := by
  have hmap : ∀ (c : Char) (found : Option (List Char)) (offset : Nat),
      (∃ inner, found.map (c :: ·) = some inner ∧
        sight = ⟨offset + (String.ofList inner).utf8ByteSize, 0⟩) ↔
      ∃ inner, found = some inner ∧
        sight = ⟨offset + c.utf8Size + (String.ofList inner).utf8ByteSize, 0⟩ := by
    intro c found offset
    simp [Nat.add_assoc]
  fun_induction closing? depth cs generalizing offset with
  | case1 => simp [scan]
  | case2 depth rest ih =>
    refine (mem_scan_cons_iff _ _ _ _ (by rw [opening_open]; omega) _).trans ?_
    exact (ih _).trans (hmap _ _ _).symm
  | case3 rest =>
    have hscan : scan (0 + 1) offset (')' :: rest) = [⟨offset, 0⟩] := rfl
    rw [Int.natCast_zero, hscan, List.mem_singleton]
    constructor
    · rintro ⟨rfl, -⟩
      exact ⟨[], rfl, rfl⟩
    · rintro ⟨inner, hinner, rfl⟩
      cases hinner
      exact ⟨rfl, rfl⟩
  | case4 rest n ih =>
    have hdepth : ((n + 1 : Nat) : Int) + 1 + opening ')' = n + 1 := by
      rw [opening_close]
      omega
    rw [mem_scan_cons_iff _ _ _ _ (by omega), hdepth]
    exact (ih _).trans (hmap _ _ _).symm
  | case5 depth c rest hopen hclose ih =>
    rw [mem_scan_cons_iff _ _ _ _ (by rw [opening_of_ne c hopen hclose]; omega),
      opening_of_ne c hopen hclose, Int.add_zero]
    exact (ih _).trans (hmap _ _ _).symm

theorem takeWhile_append_fromOpening (text : String) :
    text.toList.takeWhile (· ≠ '(') ++ fromOpening text = text.toList :=
  List.takeWhile_append_dropWhile

/-- A text has no opening parenthesis, or what begins at its first one is not empty. -/
theorem fromOpening_cases (text : String) :
    '(' ∉ text.toList ∧ fromOpening text = [] ∨
      '(' ∈ text.toList ∧ ∃ rest, fromOpening text = '(' :: rest := by
  have hsplit := takeWhile_append_fromOpening text
  have hfirst := List.head?_dropWhile_not (· ≠ '(') text.toList
  rw [← fromOpening] at hfirst
  cases hcs : fromOpening text with
  | nil =>
    refine .inl ⟨fun hmem => ?_, rfl⟩
    rw [hcs, List.append_nil] at hsplit
    rw [← hsplit] at hmem
    simpa using List.all_eq_true.mp List.all_takeWhile '(' hmem
  | cons c rest =>
    rw [hcs] at hfirst
    obtain rfl : c = '(' := by simpa using hfirst
    refine .inr ⟨?_, rest, rfl⟩
    rw [← hsplit, hcs]
    simp

theorem balanced?_of_fromOpening_eq_nil (text : String) (h : fromOpening text = []) :
    balanced? text = none := by
  rw [fromOpening] at h
  simp only [balanced?, balancedChars?, h, Option.map_none]

theorem balanced?_of_fromOpening_eq_cons (text : String) (rest : List Char)
    (h : fromOpening text = '(' :: rest) :
    balanced? text = (closing? 0 rest).map fun inner => Text.trim (String.ofList inner) := by
  rw [fromOpening] at h
  simp only [balanced?, balancedChars?, h, Option.map_map]
  refine congrArg (Option.map · (closing? 0 rest)) (funext fun inner => ?_)
  simp [Text.trim]

/-- A text has no condition when nothing from its first opening parenthesis on closes all that it
opens. -/
theorem balanced?_eq_none_iff (text : String) : balanced? text = none ↔
    '(' ∉ text.toList ∨
      ∀ front, front ≠ [] → front <+: fromOpening text → ¬ClosesAll front := by
  rcases fromOpening_cases text with ⟨hmem, hcs⟩ | ⟨hmem, rest, hcs⟩
  · simp [balanced?_of_fromOpening_eq_nil text hcs, hmem]
  · rw [balanced?_of_fromOpening_eq_cons text rest hcs, Option.map_eq_none_iff,
      closing?_eq_none_iff, hcs, or_iff_right (not_not.mpr hmem)]
    have hfronts := forall_prefix_cons_iff (fun front => front ≠ [] → ¬ClosesAll front) '(' rest
    constructor
    · intro h front hne hfront
      refine hfronts.mpr ⟨fun hnil => absurd rfl hnil, fun others hothers _ => ?_⟩ front hfront hne
      rw [closesAll_iff, surplus_cons, opening_open]
      exact h others hothers
    · intro h others hothers
      have hfront := (hfronts.mp fun front hfront hne => h front hne hfront).2 others hothers
      rw [closesAll_iff, surplus_cons, opening_open] at hfront
      exact hfront (List.cons_ne_nil _ _)

theorem sights_of_fromOpening_eq_cons (text : String) (rest : List Char)
    (h : fromOpening text = '(' :: rest) :
    sights text = ⟨openingOffset text, 1⟩ :: scan 1 (openingOffset text + 1) rest := by
  rw [sights, h]
  rfl

theorem isSlice_of_toList_eq (text : String) (before part after : List Char)
    (h : text.toList = before ++ (part ++ after)) :
    IsSlice text (String.ofList before).utf8ByteSize
      ((String.ofList before).utf8ByteSize + (String.ofList part).utf8ByteSize)
      (String.ofList part) := by
  refine ⟨String.ofList before, String.ofList after, ?_, rfl, rfl⟩
  rw [← String.ofList_append, ← String.ofList_append, List.append_assoc, ← h, String.ofList_toList]

theorem isSlice_fromOpening (text : String) :
    IsSlice text (openingOffset text) text.utf8ByteSize (String.ofList (fromOpening text)) := by
  have htext := takeWhile_append_fromOpening text
  have hslice := isSlice_of_toList_eq text _ (fromOpening text) []
    (by rw [List.append_nil, htext])
  rwa [← String.utf8ByteSize_append, ← String.ofList_append, htext, String.ofList_toList]
    at hslice

theorem isSlice_inner (text : String) (inner after : List Char)
    (h : fromOpening text = '(' :: (inner ++ ')' :: after)) :
    IsSlice text (openingOffset text + 1)
      (openingOffset text + 1 + (String.ofList inner).utf8ByteSize) (String.ofList inner) := by
  have hslice := isSlice_of_toList_eq text (text.toList.takeWhile (· ≠ '(') ++ ['(']) inner
    (')' :: after) (by
      rw [List.append_assoc, List.singleton_append, ← h, takeWhile_append_fromOpening])
  rwa [String.ofList_append, String.utf8ByteSize_append] at hslice

theorem scansSafely (text : String) : ScansSafely text := by
  rcases fromOpening_cases text with ⟨hmem, hcs⟩ | ⟨-, rest, hcs⟩
  · have hsights : sights text = [] := by rw [sights, hcs, scan]
    have hnone := balanced?_of_fromOpening_eq_nil text hcs
    exact ⟨by simp [hsights], fun h => absurd h hmem, by simp [hsights], fun h => absurd hnone h⟩
  · have hsights := sights_of_fromOpening_eq_cons text rest hcs
    have hbalanced := balanced?_of_fromOpening_eq_cons text rest hcs
    have hzero := mem_scan_and_depth_eq_zero_iff 0 (openingOffset text + 1) rest
    constructor
    case depth_nonneg =>
      intro sight hsight
      rw [hsights] at hsight
      rcases List.mem_cons.mp hsight with rfl | hlater
      · exact Int.one_nonneg
      · exact depth_nonneg_of_mem_scan 1 (by decide) _ rest sight hlater
    case tail => exact fun _ => isSlice_fromOpening text
    case condition =>
      intro sight hsight hdepth
      rw [hsights] at hsight
      rcases List.mem_cons.mp hsight with rfl | hlater
      · cases hdepth
      · obtain ⟨inner, hinner, rfl⟩ := (hzero sight).mp ⟨hlater, hdepth⟩
        obtain ⟨after, rfl, -⟩ := (closing?_eq_some_iff 0 rest inner).mp hinner
        refine ⟨String.ofList inner, isSlice_inner text inner after hcs, ?_⟩
        rw [hbalanced, hinner, Option.map_some]
    case ends =>
      intro hsome
      rw [hbalanced, ne_eq, Option.map_eq_none_iff] at hsome
      obtain ⟨inner, hinner⟩ := Option.ne_none_iff_exists'.mp hsome
      obtain ⟨hmem, hdepth⟩ := (hzero _).mpr ⟨inner, hinner, rfl⟩
      refine ⟨_, ?_, hdepth⟩
      rw [hsights]
      exact List.mem_cons_of_mem _ hmem

/-- A condition is what stands, trimmed, between the first opening parenthesis and the one that
closes it. A text has none when it opens none, or when nothing from its first opening parenthesis on
closes all that it opens. The scan that finds it never counts fewer than no open parentheses and
cuts only between characters. -/
theorem balanced_condition_exact :
    (∀ before condition after : String, '(' ∉ before.toList → IsBalanced condition.toList →
      balanced? (before ++ "(" ++ condition ++ ")" ++ after) = some (Text.trim condition)) ∧
    ∀ text : String,
      (balanced? text = none ↔
        '(' ∉ text.toList ∨
          ∀ front, front ≠ [] → front <+: fromOpening text → ¬ClosesAll front) ∧
      ScansSafely text := by
  refine ⟨fun before condition after hbefore hbalanced => ?_,
    fun text => ⟨balanced?_eq_none_iff text, scansSafely text⟩⟩
  obtain ⟨hfronts, hall⟩ := (isBalanced_iff condition.toList).mp hbalanced
  have hopening : fromOpening (before ++ "(" ++ condition ++ ")" ++ after) =
      '(' :: (condition.toList ++ ')' :: after.toList) := by
    have htext : (before ++ "(" ++ condition ++ ")" ++ after).toList =
        before.toList ++ '(' :: (condition.toList ++ ')' :: after.toList) := by simp
    rw [fromOpening, htext, dropWhile_ne_append '(' _ _ hbefore]
  have hclosing : closing? 0 (condition.toList ++ ')' :: after.toList) = some condition.toList := by
    rw [closing?_eq_some_iff]
    refine ⟨after.toList, rfl, fun front hfront => ?_, ?_⟩
    · rw [Int.natCast_zero, Int.zero_add]
      exact hfronts front hfront
    · rw [Int.natCast_zero, Int.zero_add, hall]
  rw [balanced?_of_fromOpening_eq_cons _ _ hopening, hclosing, Option.map_some,
    String.ofList_toList]

theorem balanced_condition_exact_nested :
    '(' ∉ "Inject_GP€".toList ∧ IsBalanced " ü(a)((b)€) ".toList ∧
      balanced? ("Inject_GP€" ++ "(" ++ " ü(a)((b)€) " ++ ")" ++ ") é(") =
        some (Text.trim " ü(a)((b)€) ") := by
  have hbefore : '(' ∉ "Inject_GP€".toList := by decide
  have hbalanced : IsBalanced " ü(a)((b)€) ".toList := by decide
  exact ⟨hbefore, hbalanced, balanced_condition_exact.1 _ _ _ hbefore hbalanced⟩

end Msr

end GuestCases
