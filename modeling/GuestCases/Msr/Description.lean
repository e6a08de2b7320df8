import GuestCases.Dictionary
import GuestCases.Msr.Access
import GuestCases.Text.Characters
import GuestCases.Text.Word

/-!
Descriptions of virtualized accesses, and the precondition hooks they rest on. The compliance
module declares a hook as `static void name(struct test_msr *c)`, with blanks wherever C allows
them, and the declared hooks are gathered from the text of its header. A description begins with
one of five forms, up to the case of ASCII letters. The contingent forms hold a condition in
parentheses; the condition map turns it into a hook, an unmapped condition is taken for a hook
itself, and only declared hooks count.
-/

namespace GuestCases.Msr

structure Hooks where
  names : List String
deriving DecidableEq, Repr

namespace Hooks

def ofNames (names : List String) : Hooks :=
  ⟨(Dictionary.ofList (names.map fun name => (name, ()))).keys⟩

def contains (hooks : Hooks) (name : String) : Bool :=
  hooks.names.contains name

end Hooks

def skipBlank (cs : List Char) : List Char :=
  cs.dropWhile Text.isBlank

def skipBlanks? : List Char → Option (List Char)
  | [] => none
  | c :: rest => if Text.isBlank c then some (skipBlank rest) else none

def skip? (literal : String) (cs : List Char) : Option (List Char) :=
  literal.toList.isPrefixOf? cs

def signature? (cs : List Char) : Option (List Char × List Char) := do
  let cs ← skip? "static" cs
  let cs ← skipBlanks? cs
  let cs ← skip? "void" cs
  let cs ← skipBlanks? cs
  let name := Text.leadingWord cs
  if name.isEmpty then none
  let cs ← skip? "(" (skipBlank (Text.afterWord cs))
  let cs ← skip? "struct" (skipBlank cs)
  let cs ← skipBlanks? cs
  let cs ← skip? "test_msr" cs
  let cs ← skip? "*" (skipBlank cs)
  let cs ← skip? "c" (skipBlank cs)
  let cs ← skip? ")" (skipBlank cs)
  pure (name, cs)

/-- The hooks declared in the characters from left to right, without the first `covered`
characters, which belong to the declaration before. -/
def declaredFrom (covered : Nat) : List Char → List String
  | [] => []
  | c :: rest =>
    match covered with
    | n + 1 => declaredFrom n rest
    | 0 =>
      match signature? (c :: rest) with
      | some (name, after) =>
        String.ofList name :: declaredFrom (rest.length - after.length) rest
      | none => declaredFrom 0 rest

def Hooks.ofSource (source : String) : Hooks :=
  .ofNames (declaredFrom 0 source.toList)

inductive Unresolved where
  | empty
  | unrecognized (description : String)
  | unbalanced (description : String)
  | unknownHook (description hook : String)
deriving DecidableEq, Repr

def Unresolved.message : Unresolved → String
  | .empty => "no description"
  | .unrecognized description => s!"unrecognized description '{description}'"
  | .unbalanced description => s!"unbalanced parentheses in '{description}'"
  | .unknownHook description hook => s!"unknown precondition '{hook}' in '{description}'"

/-- The characters up to the parenthesis that closes the last of `depth + 1` open ones. -/
def closing? (depth : Nat) : List Char → Option (List Char)
  | [] => none
  | '(' :: rest => (closing? (depth + 1) rest).map ('(' :: ·)
  | ')' :: rest =>
    match depth with
    | 0 => some []
    | n + 1 => (closing? n rest).map (')' :: ·)
  | c :: rest => (closing? depth rest).map (c :: ·)

def balancedChars? (cs : List Char) : Option (List Char) :=
  match cs.dropWhile (· ≠ '(') with
  | [] => none
  | _ :: rest => (closing? 0 rest).map Text.trimChars

def balanced? (text : String) : Option String :=
  (balancedChars? text.toList).map String.ofList

structure Resolver where
  conditions : Dictionary String
  hooks : Hooks
deriving DecidableEq

namespace Resolver

def dangling (resolver : Resolver) : List (String × String) :=
  resolver.conditions.pairs.filter fun pair => !resolver.hooks.contains pair.2

def hookOf (resolver : Resolver) (condition : String) : String :=
  (resolver.conditions.find? condition).getD condition

def contingent (resolver : Resolver) (text : String) (trap : Trap) :
    Except Unresolved Outcome :=
  match balanced? text with
  | none => .error (.unbalanced text)
  | some condition =>
    let hook := resolver.hookOf condition
    if resolver.hooks.contains hook then .ok (.trapsIf trap hook)
    else .error (.unknownHook text hook)

end Resolver

inductive Form where
  | native
  | always (trap : Trap)
  | contingent (trap : Trap)
deriving DecidableEq, Repr

def forms : List (String × Form) :=
  [("native", .native), ("#GP(0)", .always .gp), ("#VE", .always .ve),
    ("Inject_GP(", .contingent .gp), ("Inject_GP_or_VE", .contingent .ve)]

def formOf? (text : String) : Option Form :=
  (forms.find? fun form => Text.beginsWith form.1.toList text.toList).map Prod.snd

def Resolver.classify (resolver : Resolver) (description : String) :
    Except Unresolved Outcome :=
  let text := Text.trim description
  if text.isEmpty then .error .empty
  else
    match formOf? text with
    | some .native => .ok .native
    | some (.always trap) => .ok (.traps trap)
    | some (.contingent trap) => resolver.contingent text trap
    | none => .error (.unrecognized text)

end GuestCases.Msr
