import GuestCases.Kind

/-!
The arguments of the command line. Options may stand in any order, each at most once; the value
of an option follows it as the next argument or in the same one.
-/

namespace GuestCases.Command

inductive Invocation where
  | generate (settings : String) (only : Option Kind) (dryRun : Bool)
  | dump (settings : String) (kind : Kind)
  | preconditions (hooks : String) (conditions : Option String)
  | version
deriving DecidableEq, Repr

structure OptionForm where
  name : String
  short : Option Char
  takesValue : Bool
deriving DecidableEq, Repr

inductive Argument where
  | long (name : String) (value : Option String)
  | short (letter : Char) (rest : List Char)
  | endOfOptions
  | plain
deriving DecidableEq, Repr

def argumentOf (text : String) : Argument :=
  match text.toList with
  | ['-', '-'] => .endOfOptions
  | '-' :: '-' :: cs =>
    let name := String.ofList (cs.takeWhile (· ≠ '='))
    match cs.dropWhile (· ≠ '=') with
    | [] => .long name none
    | _ :: value => .long name (some (String.ofList value))
  | '-' :: letter :: rest => .short letter rest
  | _ => .plain

def attachedValue? : List Char → Option String
  | [] => none
  | '=' :: rest => some (String.ofList rest)
  | rest => some (String.ofList rest)

/-- The options of the arguments and their values, an empty one for an option without, or `none`
when the arguments are no options of these forms. -/
def readOptions (forms : List OptionForm) : List String → Option (List (String × String))
  | [] => some []
  | text :: rest =>
    match argumentOf text with
    | .plain => none
    | .endOfOptions => if rest.isEmpty then some [] else none
    | .long name value =>
      match forms.find? fun form => form.name == name with
      | none => none
      | some form => withValue form value rest
    | .short letter attached =>
      match forms.find? fun form => form.short == some letter with
      | none => none
      | some form => withValue form (attachedValue? attached) rest
where
  /-- Goes on after an option whose own argument held the value, if one was there. -/
  withValue (form : OptionForm) (attached : Option String) (rest : List String) :
      Option (List (String × String)) :=
    match form.takesValue, attached with
    | false, none => (readOptions forms rest).map ((form.name, "") :: ·)
    | false, some _ => none
    | true, some value => (readOptions forms rest).map ((form.name, value) :: ·)
    | true, none =>
      match rest with
      | [] => none
      | value :: rest =>
        if argumentOf value = .plain then
          (readOptions forms rest).map ((form.name, value) :: ·)
        else none

def distinct (options : List (String × String)) : Bool :=
  (options.map Prod.fst).Nodup

def pathOf? (options : List (String × String)) (name : String) : Option (Option String) :=
  match options.lookup name with
  | none => some none
  | some value => if value.isEmpty then none else some (some value)

def kindOf? (options : List (String × String)) (name : String) : Option (Option Kind) :=
  match options.lookup name with
  | none => some none
  | some value => (Kind.ofText value).toOption.map some

def configForm : OptionForm := ⟨"config", some 'c', true⟩

def generateForms : List OptionForm :=
  [configForm, ⟨"only", none, true⟩, ⟨"dry-run", none, false⟩]

def dumpForms : List OptionForm :=
  [configForm, ⟨"kind", none, true⟩]

def preconditionForms : List OptionForm :=
  [⟨"header", none, true⟩, ⟨"map", none, true⟩]

def defaultSettings : String := "config.json"

def generateOf? (options : List (String × String)) : Option Invocation := do
  let settings ← pathOf? options "config"
  let only ← kindOf? options "only"
  pure (.generate (settings.getD defaultSettings) only (options.lookup "dry-run").isSome)

def dumpOf? (options : List (String × String)) : Option Invocation := do
  let settings ← pathOf? options "config"
  let kind ← ← kindOf? options "kind"
  pure (.dump (settings.getD defaultSettings) kind)

def preconditionsOf? (options : List (String × String)) : Option Invocation := do
  let hooks ← ← pathOf? options "header"
  let conditions ← pathOf? options "map"
  pure (.preconditions hooks conditions)

def optionsOf? (forms : List OptionForm) (arguments : List String) :
    Option (List (String × String)) :=
  (readOptions forms arguments).filter distinct

/-- Whether a first argument asks for the version, whatever follows it. -/
def asksVersion (text : String) : Bool :=
  match argumentOf text with
  | .long "version" none => true
  | .short 'V' _ => true
  | _ => false

def Invocation.ofArguments? : List String → Option Invocation
  | "generate" :: rest => (optionsOf? generateForms rest).bind generateOf?
  | "dump" :: rest => (optionsOf? dumpForms rest).bind dumpOf?
  | "preconditions" :: rest => (optionsOf? preconditionForms rest).bind preconditionsOf?
  | first :: _ => if asksVersion first then some .version else none
  | [] => none

end GuestCases.Command
