import GuestCases.Numeral.Digits
import GuestCases.Text.Word

/-!
Leaf groups. A header such as `Leaf 0x4, Sub-Leaves 0x0-0x3` names a leaf of CPUID and the
sub-leaves to which the fields below it belong. The leaf is the word after the first `Leaf `
that starts the text or follows neither a word character nor a hyphen. The sub-leaves are those
of the first range in the text, else the first single sub-leaf, else `0x0` alone.
-/

namespace GuestCases.Cpuid

structure LeafGroup where
  leaf : String
  subleaves : List String
deriving DecidableEq, Repr

def defaultSubleaf : String := "0x0"

def maxSpan : Nat := 0x100

def LeafGroup.firstSubleaf (group : LeafGroup) : String :=
  group.subleaves.head?.getD defaultSubleaf

inductive LeafFault where
  | invalidBound (bound : String)
  | invertedRange (first last : String)
  | rangeTooWide (first last : String)
deriving DecidableEq, Repr

def LeafFault.message : LeafFault → String
  | .invalidBound bound => s!"sub-leaf bound '{bound}' is not hexadecimal"
  | .invertedRange first last => s!"sub-leaf range {first}-{last} is inverted"
  | .rangeTooWide first last =>
    s!"sub-leaf range {first}-{last} spans more than {Numeral.hexText maxSpan} sub-leaves"

def wordAfter? (mark cs : List Char) : Option (List Char) :=
  (mark.isPrefixOf? cs).bind fun rest =>
    let word := Text.leadingWord rest
    if word.isEmpty then none else some word

def rangeAfter? (mark cs : List Char) : Option (List Char × List Char) :=
  (mark.isPrefixOf? cs).bind fun rest =>
    let first := Text.leadingWord rest
    match Text.afterWord rest with
    | '-' :: tail =>
      let last := Text.leadingWord tail
      if first.isEmpty || last.isEmpty then none else some (first, last)
    | _ => none

/-- The first answer of `read?` on the ends of the characters, longest first. -/
def firstEnd? {α : Type} (read? : List Char → Option α) : List Char → Option α
  | [] => read? []
  | c :: rest =>
    match read? (c :: rest) with
    | some found => some found
    | none => firstEnd? read? rest

def leafMark : List Char := "Leaf ".toList

def singleMark : List Char := "Sub-Leaf ".toList

def rangeMark : List Char := "Sub-Leaves ".toList

def endsPhrase (c : Char) : Bool :=
  !(Text.isWordChar c) && c != '-'

/-- The first leaf named in the characters; `free` says whether one may be named at their
start. -/
def leafFrom? (free : Bool) : List Char → Option (List Char)
  | [] => none
  | c :: rest =>
    match if free then wordAfter? leafMark (c :: rest) else none with
    | some leaf => some leaf
    | none => leafFrom? (endsPhrase c) rest

def hexTexts (first count : Nat) : List String :=
  (List.range count).map fun i => Numeral.hexText (first + i)

def expandRange (first last : String) : Except LeafFault (List String) :=
  match Numeral.readHex first with
  | .error _ => .error (.invalidBound first)
  | .ok low =>
    match Numeral.readHex last with
    | .error _ => .error (.invalidBound last)
    | .ok high =>
      if high < low then .error (.invertedRange first last)
      else if maxSpan ≤ high - low then .error (.rangeTooWide first last)
      else .ok (hexTexts low (high - low + 1))

/-- The sub-leaf that a single word names; `N` stands for none. -/
def singleSubleaf (word : List Char) : String :=
  if word = ['N'] then defaultSubleaf else String.ofList word

def subleavesOf (cs : List Char) : Except LeafFault (List String) :=
  match firstEnd? (rangeAfter? rangeMark) cs with
  | some (first, last) => expandRange (String.ofList first) (String.ofList last)
  | none =>
    match firstEnd? (wordAfter? singleMark) cs with
    | some word => .ok [singleSubleaf word]
    | none => .ok [defaultSubleaf]

def LeafGroup.ofName (name : String) : Except LeafFault (Option LeafGroup) :=
  let cs := name.toList
  match leafFrom? true cs with
  | none => .ok none
  | some leaf => (subleavesOf cs).map fun subleaves => some ⟨String.ofList leaf, subleaves⟩

end GuestCases.Cpuid
