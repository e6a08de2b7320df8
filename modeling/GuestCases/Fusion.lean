import GuestCases.Journal
import GuestCases.Kind
import GuestCases.Text.Characters
import Std.Data.HashMap

/-!
Fusing the entries of one specification source into those of the sources before it. A family of
cases says how its entries are recognised across sources, in what order they stand, how two of
them become one, and how they are written; a text of an entry holds alternatives, and merging
appends the ones that it lacks. An incoming entry is merged into the first entry with its key, or
appended when there is none. The positions of the keys are kept beside the entries, so that an
entry is found without a search. The main statement, `fuse_eq_foldl_absorb`, is that the result is
the one of absorbing the incoming entries into the list one by one; `length_fuse` says that the
entries counted as new are the ones by which the list grows.

The entries of several sources are assembled: one source keeps its row order; several are sorted,
fused in order, and sorted again.
-/

namespace GuestCases

structure Family (ε κ : Type) where
  kind : Kind
  /-- Entries with equal keys are one case. -/
  fuseKey : ε → κ
  /-- Entries stand in the lexicographic order of these keys. -/
  sortKey : ε → List Int
  /-- The first entry with the alternatives of the second. -/
  merge : ε → ε → ε
  fuseKey_merge : ∀ first second, fuseKey (merge first second) = fuseKey first
  /-- The text of an entry in the header. -/
  line : ε → String
  /-- The lines around the entries. -/
  opening : String
  closing : String

def Family.body {ε κ : Type} (family : Family ε κ) (entries : List ε) : List String :=
  family.opening :: entries.map family.line ++ [family.closing]

end GuestCases

namespace GuestCases.Alternatives

def separator : List Char := [' ', '|', ' ']

def parts : List Char → List (List Char)
  | [] => [[]]
  | ' ' :: '|' :: ' ' :: rest => [] :: parts rest
  | c :: rest =>
    match parts rest with
    | [] => [[c]]
    | part :: others => (c :: part) :: others

def pieces (cs : List Char) : List (List Char) :=
  (parts cs).map Text.trimChars

def alternatives (cs : List Char) : List (List Char) :=
  (pieces cs).filter (!·.isEmpty)

def add (cs piece : List Char) : List Char :=
  if cs.isEmpty then piece
  else if piece ∈ pieces cs then cs
  else cs ++ separator ++ piece

def mergeChars (cs incoming : List Char) : List Char :=
  (alternatives incoming).foldl add cs

def merge (existing incoming : String) : String :=
  String.ofList (mergeChars existing.toList incoming.toList)

end GuestCases.Alternatives

namespace GuestCases

variable {ε κ : Type}

namespace Family

/-- Merging into an entry leaves the keys of a list as they are. -/
theorem map_fuseKey_modify (family : Family ε κ) (entries : List ε) (entry : ε)
    (position : Nat) :
    (entries.modify position (family.merge · entry)).map family.fuseKey =
      entries.map family.fuseKey := by
  induction entries generalizing position with
  | nil => simp
  | cons first rest ih => cases position <;> simp [family.fuseKey_merge, ih]

variable [DecidableEq κ]

def absorb (family : Family ε κ) : List ε → ε → List ε
  | [], entry => [entry]
  | first :: rest, entry =>
    if family.fuseKey first = family.fuseKey entry then family.merge first entry :: rest
    else first :: family.absorb rest entry

/-- Absorbing changes the first entry with the key, or adds one at the end. -/
theorem absorb_eq (family : Family ε κ) (entries : List ε) (entry : ε) :
    family.absorb entries entry =
      match (entries.map family.fuseKey).idxOf? (family.fuseKey entry) with
      | some position => entries.modify position (family.merge · entry)
      | none => entries ++ [entry] := by
  induction entries with
  | nil => simp [absorb]
  | cons first rest ih =>
    by_cases hkey : family.fuseKey first = family.fuseKey entry
    · simp [absorb, hkey, List.idxOf?_cons]
    · simp only [absorb, hkey, ih, List.map_cons, List.idxOf?_cons]
      cases (rest.map family.fuseKey).idxOf? (family.fuseKey entry) <;> simp [hkey]

end Family

/-- Entries that are being fused, the position of the first entry with each key, and how many
entries came in with a key that no entry had. -/
structure Fusion (ε κ : Type) [BEq κ] [Hashable κ] where
  entries : Array ε
  positions : Std.HashMap κ Nat
  appended : Nat

namespace Fusion

variable [DecidableEq κ] [Hashable κ]

def empty : Fusion ε κ := ⟨#[], ∅, 0⟩

/-- One more entry at the end. It stands for its key unless an earlier entry does. -/
def push (family : Family ε κ) (fusion : Fusion ε κ) (entry : ε) : Fusion ε κ where
  entries := fusion.entries.push entry
  positions := fusion.positions.insertIfNew (family.fuseKey entry) fusion.entries.size
  appended := fusion.appended

def absorb (family : Family ε κ) (fusion : Fusion ε κ) (entry : ε) : Fusion ε κ :=
  match fusion.positions[family.fuseKey entry]? with
  | some position =>
    { fusion with entries := fusion.entries.modify position (family.merge · entry) }
  | none => { push family fusion entry with appended := fusion.appended + 1 }

def ofList (family : Family ε κ) (entries : List ε) : Fusion ε κ :=
  entries.foldl (push family) empty

def Indexed (family : Family ε κ) (fusion : Fusion ε κ) : Prop :=
  ∀ key, fusion.positions[key]? = (fusion.entries.toList.map family.fuseKey).idxOf? key

theorem indexed_empty (family : Family ε κ) : Indexed family empty := by
  simp [Indexed, empty]

theorem Indexed.push {family : Family ε κ} {fusion : Fusion ε κ} (h : Indexed family fusion)
    (entry : ε) : Indexed family (fusion.push family entry) := by
  intro key
  have hkey := h key
  simp only [Fusion.push, Std.HashMap.getElem?_insertIfNew, Array.toList_push, List.map_append,
    List.map_cons, List.map_nil, List.idxOf?, List.findIdx?_append] at hkey ⊢
  rw [← hkey]
  by_cases heq : family.fuseKey entry = key
  · subst heq
    cases hfound : fusion.positions[family.fuseKey entry]? <;>
      simp [Std.HashMap.mem_iff_isSome_getElem?, hfound]
  · simp [heq]

theorem Indexed.absorb {family : Family ε κ} {fusion : Fusion ε κ} (h : Indexed family fusion)
    (entry : ε) : Indexed family (fusion.absorb family entry) := by
  unfold Fusion.absorb
  split
  · intro key
    simpa [family.map_fuseKey_modify] using h key
  · exact h.push entry

theorem Indexed.toList_absorb {family : Family ε κ} {fusion : Fusion ε κ}
    (h : Indexed family fusion) (entry : ε) :
    (fusion.absorb family entry).entries.toList =
      family.absorb fusion.entries.toList entry := by
  rw [family.absorb_eq, ← h (family.fuseKey entry), Fusion.absorb]
  split <;> simp [Fusion.push, *]

theorem Indexed.foldl_push {family : Family ε κ} {fusion : Fusion ε κ}
    (h : Indexed family fusion) (entries : List ε) :
    Indexed family (entries.foldl (Fusion.push family) fusion) := by
  induction entries generalizing fusion with
  | nil => exact h
  | cons entry rest ih => exact ih (h.push entry)

theorem indexed_ofList (family : Family ε κ) (entries : List ε) :
    Indexed family (ofList family entries) :=
  (indexed_empty family).foldl_push entries

theorem toList_foldl_push (family : Family ε κ) (fusion : Fusion ε κ) (entries : List ε) :
    (entries.foldl (push family) fusion).entries.toList = fusion.entries.toList ++ entries := by
  induction entries generalizing fusion with
  | nil => simp
  | cons entry rest ih => simp [ih, push]

theorem toList_ofList (family : Family ε κ) (entries : List ε) :
    (ofList family entries).entries.toList = entries := by
  simp [ofList, toList_foldl_push, empty]

theorem Indexed.toList_foldl_absorb {family : Family ε κ} {fusion : Fusion ε κ}
    (h : Indexed family fusion) (entries : List ε) :
    (entries.foldl (Fusion.absorb family) fusion).entries.toList =
      entries.foldl family.absorb fusion.entries.toList := by
  induction entries generalizing fusion with
  | nil => rfl
  | cons entry rest ih => simpa [h.toList_absorb] using ih (h.absorb entry)

theorem appended_ofList (family : Family ε κ) (entries : List ε) :
    (ofList family entries).appended = 0 := by
  have hpush : ∀ fusion : Fusion ε κ,
      (entries.foldl (push family) fusion).appended = fusion.appended := by
    induction entries with
    | nil => exact fun _ => rfl
    | cons entry rest ih => exact fun fusion => ih (fusion.push family entry)
  exact hpush empty

/-- Absorbing an entry counts it exactly when there is one entry more. -/
theorem size_absorb (family : Family ε κ) (fusion : Fusion ε κ) (entry : ε) :
    (fusion.absorb family entry).entries.size + fusion.appended =
      fusion.entries.size + (fusion.absorb family entry).appended := by
  unfold absorb
  split
  · simp
  · simp [push]
    omega

theorem size_foldl_absorb (family : Family ε κ) (fusion : Fusion ε κ) (incoming : List ε) :
    (incoming.foldl (absorb family) fusion).entries.size + fusion.appended =
      fusion.entries.size + (incoming.foldl (absorb family) fusion).appended := by
  induction incoming generalizing fusion with
  | nil => rfl
  | cons entry rest ih =>
    have hentry := size_absorb family fusion entry
    have hrest := ih (fusion.absorb family entry)
    rw [List.foldl_cons]
    omega

end Fusion

namespace Family

variable [DecidableEq κ] [Hashable κ]

def fusion (family : Family ε κ) (base incoming : List ε) : Fusion ε κ :=
  incoming.foldl (Fusion.absorb family) (Fusion.ofList family base)

def fuse (family : Family ε κ) (base incoming : List ε) : List ε :=
  (family.fusion base incoming).entries.toList

theorem fuse_eq_foldl_absorb (family : Family ε κ) (base incoming : List ε) :
    family.fuse base incoming = incoming.foldl family.absorb base := by
  rw [fuse, fusion, (Fusion.indexed_ofList family base).toList_foldl_absorb,
    Fusion.toList_ofList]

def appended (base fused : List ε) : Nat :=
  fused.length - base.length

theorem length_fuse (family : Family ε κ) (base incoming : List ε) :
    (family.fuse base incoming).length =
      base.length + (family.fusion base incoming).appended := by
  have hsize := Fusion.size_foldl_absorb family (Fusion.ofList family base) incoming
  have hbase := congrArg List.length (Fusion.toList_ofList family base)
  rw [Fusion.appended_ofList] at hsize
  simp only [Array.length_toList] at hbase
  simp only [fuse, fusion, Array.length_toList]
  omega

/-- The count of a fusion is the growth of the list. -/
theorem appended_fuse (family : Family ε κ) (base incoming : List ε) :
    appended base (family.fuse base incoming) = (family.fusion base incoming).appended := by
  rw [appended, length_fuse, Nat.add_sub_cancel_left]

end Family

def keysInOrder : List Int → List Int → Bool
  | [], _ => true
  | _ :: _, [] => false
  | a :: first, b :: second => a < b || (a = b && keysInOrder first second)

namespace Family

variable {ε κ : Type}

def inOrder (family : Family ε κ) (first second : ε) : Bool :=
  keysInOrder (family.sortKey first) (family.sortKey second)

/-- The entries in order; entries with equal sort keys keep their order. Every sort key is computed
once, and the entries are sorted together with their keys. -/
def sort (family : Family ε κ) (entries : List ε) : List ε :=
  let keyed := entries.map fun entry => (family.sortKey entry, entry)
  (keyed.mergeSort fun first second => keysInOrder first.1 second.1).map Prod.snd

theorem sort_eq_mergeSort (family : Family ε κ) (entries : List ε) :
    family.sort entries = entries.mergeSort family.inOrder := by
  have hkeyed : ∀ pair ∈ entries.map fun entry => (family.sortKey entry, entry),
      pair.1 = family.sortKey pair.2 := by simp
  rw [sort, List.map_mergeSort (s := family.inOrder)]
  · simp [List.map_map, Function.comp_def]
  · intro first hfirst second hsecond
    rw [hkeyed first hfirst, hkeyed second hsecond, inOrder]

variable [DecidableEq κ] [Hashable κ]

def fuseAll (family : Family ε κ) (base : List ε) :
    List (List ε) → List LogLine × List ε
  | [] => ([], base)
  | batch :: rest =>
    let fusion := family.fusion base batch
    let line : LogLine :=
      ⟨.debug, s!"fused {family.kind.key} batch: {fusion.appended} new entries"⟩
    let (log, entries) := family.fuseAll fusion.entries.toList rest
    (line :: log, entries)

def assembleLogged (family : Family ε κ) : List (List ε) → List LogLine × List ε
  | [] => ([], [])
  | [batch] => ([], batch)
  | first :: rest =>
    let (log, entries) := family.fuseAll (family.sort first) rest
    (log, family.sort entries)

def assemble (family : Family ε κ) (batches : List (List ε)) : List ε :=
  (family.assembleLogged batches).2

end Family

end GuestCases
