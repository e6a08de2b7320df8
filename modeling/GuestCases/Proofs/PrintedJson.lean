import GuestCases.Json.Value
import GuestCases.Json.Reader
import GuestCases.Proofs.NumberParts

/-!
Printed JSON reads back. A printed value is read as its tokens, whatever stands behind it, and the
tokens are read as the value with the fields of its objects in the order of a dictionary. The
numbers in it have to be such that their own texts read back, and arrays and objects may be nested
as deep as a reader follows them.
-/

namespace GuestCases.Json

open Numeral

def EndsWord (cs : List Char) : Prop :=
  ∀ c ∈ cs.head?, isNumberChar c = false ∧ isWordLetter c = false

mutual

def tokensOf : Json → List Token
  | .null => [.null]
  | .boolean value => [.boolean value]
  | .number value => [.number value]
  | .text value => [.text value]
  | .array [] => [.openArray, .closeArray]
  | .array (item :: rest) => .openArray :: tokensOf item ++ tokensOfItems rest ++ [.closeArray]
  | .object [] => [.openObject, .closeObject]
  | .object ((key, value) :: rest) =>
    .openObject :: .text key :: .colon :: tokensOf value ++ tokensOfFields rest ++ [.closeObject]

def tokensOfItems : List Json → List Token
  | [] => []
  | item :: rest => .comma :: tokensOf item ++ tokensOfItems rest

def tokensOfFields : List (String × Json) → List Token
  | [] => []
  | (key, value) :: rest => .comma :: .text key :: .colon :: tokensOf value ++ tokensOfFields rest

end

mutual

def inOrder : Json → Json
  | .null => .null
  | .boolean value => .boolean value
  | .number value => .number value
  | .text value => .text value
  | .array items => .array (itemsInOrder items)
  | .object fields => .object (Dictionary.ofList (fieldsInOrder fields)).pairs

def itemsInOrder : List Json → List Json
  | [] => []
  | item :: rest => inOrder item :: itemsInOrder rest

def fieldsInOrder : List (String × Json) → List (String × Json)
  | [] => []
  | (key, value) :: rest => (key, inOrder value) :: fieldsInOrder rest

end

/-- A value that can be read where so many arrays and objects may still be opened. -/
inductive Readable : Nat → Json → Prop where
  | null (room : Nat) : Readable room .null
  | boolean (room : Nat) (value : Bool) : Readable room (.boolean value)
  | number (room : Nat) {value : Number} (h : Number.ofChars? value.text.toList = some value) :
      Readable room (.number value)
  | text (room : Nat) (value : String) : Readable room (.text value)
  | array {room : Nat} {items : List Json} (h : ∀ item ∈ items, Readable room item) :
      Readable (room + 1) (.array items)
  | object {room : Nat} {fields : List (String × Json)}
      (h : ∀ field ∈ fields, Readable room field.2) : Readable (room + 1) (.object fields)

theorem tokens_cons_of_move {lexing next : Lexing} {c : Char} {found : List Token}
    (h : move lexing c = some (found, next)) (rest : List Char) :
    tokens lexing (c :: rest) = (tokens next rest).map (found ++ ·) := by
  simp only [tokens, h, Option.bind_eq_bind, Option.bind_some]
  cases tokens next rest <;> rfl

theorem tokens_cons_of_quiet_move {lexing next : Lexing} {c : Char}
    (h : move lexing c = some ([], next)) (rest : List Char) :
    tokens lexing (c :: rest) = tokens next rest := by
  rw [tokens_cons_of_move h]
  exact Option.map_id'

theorem tokens_lineAt (level : Nat) (rest : List Char) :
    tokens .between (lineAt level ++ rest) = tokens .between rest := by
  have hspaces : ∀ count, tokens .between (List.replicate count ' ' ++ rest) =
      tokens .between rest := by
    intro count
    induction count with
    | zero => rfl
    | succ count ih =>
      rw [List.replicate_succ, List.cons_append, tokens_cons_of_quiet_move rfl, ih]
  rw [lineAt, List.cons_append, tokens_cons_of_quiet_move rfl, hspaces]

/-- An escape by number is read as its character. -/
theorem tokens_fourDigits (read : List Char) (code : Nat) (hcode : code < 0x20) (rest : List Char) :
    tokens (.code read none 0 0) (fourDigits code ++ rest) =
      tokens (.text (Char.ofNat code :: read)) rest := by
  have hdigits : ∀ code < 0x20, fourDigits code =
      ['0', '0', Nat.digitChar (code / 16), Nat.digitChar (code % 16)] := by
    decide
  have hfinish : finishCode read none code = some (.text (Char.ofNat code :: read)) := by
    unfold finishCode
    rw [if_neg (by omega), if_neg (by omega)]
  have hzero : digitIn? 16 '0' = some 0 := rfl
  have hvalue : code / 16 * 16 + code % 16 = code := Nat.div_add_mod' code 16
  simp [hdigits code hcode, tokens, move, hzero, digitIn?_digitChar (code / 16) (by omega),
    digitIn?_digitChar (code % 16) (by omega), hvalue, hfinish]

/-- A character of a written text is read as itself. -/
theorem tokens_writtenChar (read : List Char) (c : Char) (rest : List Char) :
    tokens (.text read) (writtenChar c ++ rest) = tokens (.text (c :: read)) rest := by
  have hescape : ∀ letter shown, letter ≠ 'u' → escaped? letter = some shown →
      tokens (.text read) ('\\' :: letter :: rest) = tokens (.text (shown :: read)) rest := by
    intro letter shown hletter hshown
    rw [tokens_cons_of_quiet_move rfl, tokens_cons_of_quiet_move]
    simp [move, hletter, hshown]
  unfold writtenChar
  split
  case h_1 => exact hescape '"' _ (by decide) rfl
  case h_2 => exact hescape '\\' _ (by decide) rfl
  case h_3 => exact hescape 'b' _ (by decide) rfl
  case h_4 => exact hescape 'f' _ (by decide) rfl
  case h_5 => exact hescape 'n' _ (by decide) rfl
  case h_6 => exact hescape 'r' _ (by decide) rfl
  case h_7 => exact hescape 't' _ (by decide) rfl
  case h_8 hquote hbackslash _ _ _ _ _ =>
    split
    · rename_i hcontrol
      have hcode := tokens_fourDigits read c.toNat hcontrol rest
      rw [Char.ofNat_toNat] at hcode
      rw [← hcode, List.cons_append, tokens_cons_of_quiet_move rfl, List.cons_append,
        tokens_cons_of_quiet_move rfl]
    · rename_i hplain
      exact tokens_cons_of_quiet_move
        (by rw [move, if_neg hquote, if_neg hbackslash, if_neg hplain]) rest

/-- A written text is read as the text. -/
theorem tokens_writtenText (text : String) (rest : List Char) :
    tokens .between (writtenText text ++ rest) =
      (tokens .between rest).map (.text text :: ·) := by
  have hchars : ∀ cs read, tokens (.text read) (cs.flatMap writtenChar ++ '"' :: rest) =
      (tokens .between rest).map (.text (String.ofList (read.reverse ++ cs)) :: ·) := by
    intro cs
    induction cs with
    | nil =>
      intro read
      have hclose : move (.text read) '"' =
          some ([.text (String.ofList read.reverse)], .between) := rfl
      rw [List.append_nil]
      exact tokens_cons_of_move hclose rest
    | cons c cs ih =>
      intro read
      rw [List.flatMap_cons, List.append_assoc, tokens_writtenChar, ih]
      simp
  have hopen : writtenText text ++ rest =
      '"' :: (text.toList.flatMap writtenChar ++ '"' :: rest) := by
    simp [writtenText]
  rw [hopen, tokens_cons_of_quiet_move rfl, hchars, List.reverse_nil, List.nil_append,
    String.ofList_toList]

/-- A word or a number ends where no character of it follows. -/
theorem tokens_of_endsWord {lexing : Lexing} {token : Token} (rest : List Char)
    (hfinish : finish lexing = some [token])
    (hmove : ∀ c, isNumberChar c = false → isWordLetter c = false →
      move lexing c = (opening? c).map fun made => (token :: made.1, made.2))
    (h : EndsWord rest) : tokens lexing rest = (tokens .between rest).map (token :: ·) := by
  cases rest with
  | nil =>
    rw [tokens, hfinish]
    rfl
  | cons c rest =>
    obtain ⟨hnumber, hword⟩ := h c rfl
    have hbetween : move .between c = opening? c := rfl
    simp only [tokens, hmove c hnumber hword, hbetween]
    cases opening? c with
    | none => rfl
    | some made =>
      simp only [Option.map_some, Option.bind_eq_bind, Option.bind_some]
      cases tokens made.2 rest <;> rfl

/-- Characters that a token goes on with are read into it. -/
theorem tokens_run {gather : List Char → Lexing} {goesOn : Char → Bool}
    (hmove : ∀ read c, goesOn c = true → move (gather read) c = some ([], gather (c :: read)))
    (cs rest : List Char) (hcs : ∀ c ∈ cs, goesOn c = true) (read : List Char) :
    tokens (gather read) (cs ++ rest) = tokens (gather (cs.reverse ++ read)) rest := by
  induction cs generalizing read with
  | nil => rfl
  | cons c cs ih =>
    obtain ⟨hc, hcs⟩ := List.forall_mem_cons.mp hcs
    rw [List.cons_append, tokens_cons_of_quiet_move (hmove read c hc), ih hcs]
    simp

theorem tokens_word (first : Char) (word : List Char) (token : Token)
    (hfirst : move .between first = some ([], .word [first]))
    (hword : word.all isWordLetter = true)
    (htoken : wordToken? (word.reverse ++ [first]) = some token) (rest : List Char)
    (h : EndsWord rest) :
    tokens .between (first :: word ++ rest) = (tokens .between rest).map (token :: ·) := by
  rw [List.cons_append, tokens_cons_of_quiet_move hfirst,
    tokens_run (fun read c hc => by rw [move, if_pos hc]) word rest (List.all_eq_true.mp hword)]
  refine tokens_of_endsWord rest (by rw [finish, htoken]; rfl) (fun c _ hletter => ?_) h
  rw [move, if_neg (by simp [hletter]), htoken]
  cases opening? c <;> rfl

theorem tokens_number (first : Char) (digits : List Char) (number : Number)
    (hfirst : move .between first = some ([], .number [first]))
    (hdigits : ∀ c ∈ digits, isNumberChar c = true)
    (hnumber : Number.ofChars? (first :: digits) = some number) (rest : List Char)
    (h : EndsWord rest) :
    tokens .between (first :: digits ++ rest) =
      (tokens .between rest).map (.number number :: ·) := by
  have htoken : numberToken? (digits.reverse ++ [first]) = some (.number number) := by
    simp [numberToken?, hnumber]
  rw [List.cons_append, tokens_cons_of_quiet_move hfirst,
    tokens_run (fun read c hc => by rw [move, if_pos hc]) digits rest hdigits]
  refine tokens_of_endsWord rest (by rw [finish, htoken]; rfl) (fun c hnone _ => ?_) h
  rw [move, if_neg (by simp [hnone]), htoken]
  cases opening? c <;> rfl

theorem opening?_of_isDigit (c : Char) (h : isDigit c = true) :
    opening? c = some ([], .number [c]) := by
  unfold opening?
  split
  all_goals first
    | exact absurd h (by decide)
    | simp [h]

/-- The text of a number that reads back is read as the number. -/
theorem tokens_numberText (number : Number)
    (hnumber : Number.ofChars? number.text.toList = some number) (rest : List Char)
    (h : EndsWord rest) : tokens .between (number.text.toList ++ rest) =
      (tokens .between rest).map (.number number :: ·) := by
  obtain ⟨first, digits, hcs, hfirst, hdigits⟩ := Number.exists_cons_of_ofChars? _ number hnumber
  rw [hcs] at hnumber ⊢
  refine tokens_number first digits number ?_ hdigits hnumber rest h
  rcases hfirst with hdigit | rfl
  · exact opening?_of_isDigit first hdigit
  · rfl

theorem endsWord_cons {c : Char} (hnumber : isNumberChar c = false) (hword : isWordLetter c = false)
    (rest : List Char) : EndsWord (c :: rest) := by
  rintro d ⟨⟩
  exact ⟨hnumber, hword⟩

theorem EndsWord.writtenItems {rest : List Char} (h : EndsWord rest) (level : Nat)
    (items : List Json) : EndsWord (writtenItems level items ++ rest) := by
  cases items with
  | nil => exact h
  | cons item items => exact endsWord_cons rfl rfl _

theorem EndsWord.writtenFields {rest : List Char} (h : EndsWord rest) (level : Nat)
    (fields : List (String × Json)) : EndsWord (writtenFields level fields ++ rest) := by
  cases fields with
  | nil => exact h
  | cons field fields => exact endsWord_cons rfl rfl _

def ReadsTokens (value : Json) : Prop :=
  ∀ level rest, EndsWord rest →
    tokens .between (written level value ++ rest) = (tokens .between rest).map (tokensOf value ++ ·)

theorem tokens_writtenItems (level : Nat) (items : List Json) (h : ∀ item ∈ items, ReadsTokens item)
    (rest : List Char) (hrest : EndsWord rest) :
    tokens .between (writtenItems level items ++ rest) =
      (tokens .between rest).map (tokensOfItems items ++ ·) := by
  induction items with
  | nil => exact Option.map_id'.symm
  | cons item items ih =>
    obtain ⟨hitem, hitems⟩ := List.forall_mem_cons.mp h
    have hcomma : move .between ',' = some ([.comma], .between) := rfl
    rw [writtenItems]
    simp only [List.append_assoc, List.cons_append]
    rw [tokens_cons_of_move hcomma, tokens_lineAt, hitem _ _ (hrest.writtenItems level items),
      ih hitems]
    simp only [Option.map_map]
    congr 1
    funext found
    simp [tokensOfItems]

theorem tokens_writtenFields (level : Nat) (fields : List (String × Json))
    (h : ∀ field ∈ fields, ReadsTokens field.2) (rest : List Char) (hrest : EndsWord rest) :
    tokens .between (writtenFields level fields ++ rest) =
      (tokens .between rest).map (tokensOfFields fields ++ ·) := by
  induction fields with
  | nil => exact Option.map_id'.symm
  | cons field fields ih =>
    obtain ⟨key, value⟩ := field
    obtain ⟨hvalue, hfields⟩ := List.forall_mem_cons.mp h
    have hcomma : move .between ',' = some ([.comma], .between) := rfl
    have hcolon : move .between ':' = some ([.colon], .between) := rfl
    have hspace : move .between ' ' = some ([], .between) := rfl
    rw [writtenFields]
    simp only [List.append_assoc, List.cons_append, List.nil_append]
    rw [tokens_cons_of_move hcomma, tokens_lineAt, tokens_writtenText, tokens_cons_of_move hcolon,
      tokens_cons_of_quiet_move hspace, hvalue _ _ (hrest.writtenFields level fields), ih hfields]
    simp only [Option.map_map]
    congr 1
    funext found
    simp [tokensOfFields]

theorem readsTokens_array (items : List Json) (h : ∀ item ∈ items, ReadsTokens item) :
    ReadsTokens (.array items) := by
  intro level rest _
  have hopen : move .between '[' = some ([.openArray], .between) := rfl
  have hclose : move .between ']' = some ([.closeArray], .between) := rfl
  cases items with
  | nil =>
    rw [written]
    simp only [List.cons_append, List.nil_append]
    rw [tokens_cons_of_move hopen, tokens_cons_of_move hclose, Option.map_map]
    rfl
  | cons item items =>
    obtain ⟨hitem, hitems⟩ := List.forall_mem_cons.mp h
    have hend : EndsWord (lineAt level ++ (']' :: rest)) := endsWord_cons rfl rfl _
    rw [written]
    simp only [List.append_assoc, List.cons_append, List.nil_append]
    rw [tokens_cons_of_move hopen, tokens_lineAt, hitem _ _ (hend.writtenItems _ items),
      tokens_writtenItems _ items hitems _ hend, tokens_lineAt, tokens_cons_of_move hclose]
    simp only [Option.map_map]
    congr 1
    funext found
    simp [tokensOf]

theorem readsTokens_object (fields : List (String × Json))
    (h : ∀ field ∈ fields, ReadsTokens field.2) : ReadsTokens (.object fields) := by
  intro level rest _
  have hopen : move .between '\x7b' = some ([.openObject], .between) := rfl
  have hclose : move .between '\x7d' = some ([.closeObject], .between) := rfl
  cases fields with
  | nil =>
    rw [written]
    simp only [List.cons_append, List.nil_append]
    rw [tokens_cons_of_move hopen, tokens_cons_of_move hclose, Option.map_map]
    rfl
  | cons field fields =>
    obtain ⟨key, value⟩ := field
    obtain ⟨hvalue, hfields⟩ := List.forall_mem_cons.mp h
    have hend : EndsWord (lineAt level ++ ('\x7d' :: rest)) := endsWord_cons rfl rfl _
    have hcolon : move .between ':' = some ([.colon], .between) := rfl
    have hspace : move .between ' ' = some ([], .between) := rfl
    rw [written]
    simp only [List.append_assoc, List.cons_append, List.nil_append]
    rw [tokens_cons_of_move hopen, tokens_lineAt, tokens_writtenText, tokens_cons_of_move hcolon,
      tokens_cons_of_quiet_move hspace, hvalue _ _ (hend.writtenFields _ fields),
      tokens_writtenFields _ fields hfields _ hend, tokens_lineAt, tokens_cons_of_move hclose]
    simp only [Option.map_map]
    congr 1
    funext found
    simp [tokensOf]

/-- A value that can be read is read as its tokens. -/
theorem Readable.readsTokens {room : Nat} {value : Json} (h : Readable room value) :
    ReadsTokens value := by
  induction h with
  | null =>
    intro level rest hrest
    exact tokens_word 'n' ['u', 'l', 'l'] .null rfl (by decide) (by decide) rest hrest
  | boolean _ value =>
    intro level rest hrest
    cases value with
    | true =>
      exact tokens_word 't' ['r', 'u', 'e'] (.boolean true) rfl (by decide) (by decide) rest hrest
    | false =>
      exact tokens_word 'f' ['a', 'l', 's', 'e'] (.boolean false) rfl (by decide) (by decide) rest
        hrest
  | number _ h =>
    intro level rest hrest
    rw [written, tokens_numberText _ h rest hrest]
    rfl
  | text _ value =>
    intro level rest _
    rw [written, tokens_writtenText]
    rfl
  | array _ ih => exact readsTokens_array _ ih
  | object _ ih => exact readsTokens_object _ ih

def Awaited.TakesValue (awaited : Awaited) : Prop :=
  ∀ stack token, token ≠ .closeArray → readToken awaited stack token = startValue stack token

theorem takesValue_value : Awaited.TakesValue .value :=
  fun _ _ _ => rfl

theorem takesValue_firstItem : Awaited.TakesValue .firstItem := by
  intro stack token hclose
  cases token with
  | closeArray => exact absurd rfl hclose
  | _ => rfl

def ReadsValue (room : Nat) (value : Json) : Prop :=
  ∀ stack rest, stack.length + room ≤ maxDepth → ∀ awaited : Awaited, awaited.TakesValue →
    ofTokens? awaited stack (tokensOf value ++ rest) = ofTokens? (.after value.inOrder) stack rest

theorem ofTokens?_cons_of_readToken {awaited next : Awaited} {stack after : List Frame}
    {token : Token}
    (h : readToken awaited stack token = some (next, after)) (rest : List Token) :
    ofTokens? awaited stack (token :: rest) = ofTokens? next after rest := by
  rw [ofTokens?, h]
  rfl

theorem ofTokens?_tokensOfItems {room : Nat} (items : List Json)
    (h : ∀ item ∈ items, ReadsValue room item) (first : Json) (before : List Json)
    (stack : List Frame) (hroom : stack.length + (room + 1) ≤ maxDepth) (rest : List Token) :
    ofTokens? (.after first) (.array before :: stack)
        (tokensOfItems items ++ .closeArray :: rest) =
      ofTokens? (.after (.array ((first :: before).reverse ++ itemsInOrder items))) stack rest := by
  induction items generalizing first before with
  | nil =>
    rw [itemsInOrder, List.append_nil]
    exact ofTokens?_cons_of_readToken rfl rest
  | cons item items ih =>
    obtain ⟨hitem, hitems⟩ := List.forall_mem_cons.mp h
    have hcomma : readToken (.after first) (.array before :: stack) .comma =
        some (.value, .array (first :: before) :: stack) := rfl
    rw [tokensOfItems, List.cons_append, List.cons_append, ofTokens?_cons_of_readToken hcomma,
      List.append_assoc, hitem _ _ (by simp; omega) .value takesValue_value, ih hitems,
      itemsInOrder]
    simp

theorem ofTokens?_tokensOfFields {room : Nat} (fields : List (String × Json))
    (h : ∀ field ∈ fields, ReadsValue room field.2) (first : Json) (key : String)
    (before : Dictionary Json) (stack : List Frame) (hroom : stack.length + (room + 1) ≤ maxDepth)
    (rest : List Token) :
    ofTokens? (.after first) (.object before.pairs key :: stack)
        (tokensOfFields fields ++ .closeObject :: rest) =
      ofTokens? (.after (.object ((fieldsInOrder fields).foldl
        (fun dictionary pair => dictionary.insert pair.1 pair.2) (before.insert key first)).pairs))
        stack rest := by
  induction fields generalizing first key before with
  | nil => exact ofTokens?_cons_of_readToken rfl rest
  | cons field fields ih =>
    obtain ⟨next, value⟩ := field
    obtain ⟨hvalue, hfields⟩ := List.forall_mem_cons.mp h
    have hcomma : readToken (.after first) (.object before.pairs key :: stack) .comma =
        some (.key (before.insert key first).pairs, stack) := rfl
    have hkey : readToken (.key (before.insert key first).pairs) stack (.text next) =
        some (.colon (before.insert key first).pairs next, stack) := rfl
    have hcolon : readToken (.colon (before.insert key first).pairs next) stack .colon =
        some (.value, .object (before.insert key first).pairs next :: stack) := rfl
    rw [tokensOfFields]
    simp only [List.append_assoc, List.cons_append]
    rw [ofTokens?_cons_of_readToken hcomma, ofTokens?_cons_of_readToken hkey,
      ofTokens?_cons_of_readToken hcolon, hvalue _ _ (by simp; omega) .value takesValue_value,
      ih hfields, fieldsInOrder, List.foldl_cons]

/-- A token that is a value on its own is read as that value. -/
theorem readsValue_of_startValue {room : Nat} {value : Json} {token : Token}
    (htokens : tokensOf value = [token]) (hclose : token ≠ .closeArray)
    (hstart : ∀ stack, startValue stack token = some (.after value.inOrder, stack)) :
    ReadsValue room value := by
  intro stack rest _ awaited htakes
  rw [htokens]
  exact ofTokens?_cons_of_readToken ((htakes stack token hclose).trans (hstart stack)) rest

theorem readsValue_array {room : Nat} (items : List Json)
    (h : ∀ item ∈ items, ReadsValue room item) : ReadsValue (room + 1) (.array items) := by
  intro stack rest hroom awaited htakes
  have hopen : readToken awaited stack .openArray = some (.firstItem, .array [] :: stack) := by
    rw [htakes stack _ (by simp), startValue, if_pos (by omega)]
  cases items with
  | nil =>
    rw [tokensOf, List.cons_append, ofTokens?_cons_of_readToken hopen]
    exact ofTokens?_cons_of_readToken rfl rest
  | cons item items =>
    obtain ⟨hitem, hitems⟩ := List.forall_mem_cons.mp h
    rw [tokensOf]
    simp only [List.append_assoc, List.cons_append, List.nil_append]
    rw [ofTokens?_cons_of_readToken hopen,
      hitem _ _ (by simp; omega) .firstItem takesValue_firstItem,
      ofTokens?_tokensOfItems items hitems _ _ stack hroom]
    rfl

theorem readsValue_object {room : Nat} (fields : List (String × Json))
    (h : ∀ field ∈ fields, ReadsValue room field.2) : ReadsValue (room + 1) (.object fields) := by
  intro stack rest hroom awaited htakes
  have hopen : readToken awaited stack .openObject = some (.firstKey, stack) := by
    rw [htakes stack _ (by simp), startValue, if_pos (by omega)]
  cases fields with
  | nil =>
    rw [tokensOf, List.cons_append, ofTokens?_cons_of_readToken hopen]
    exact ofTokens?_cons_of_readToken rfl rest
  | cons field fields =>
    obtain ⟨key, value⟩ := field
    obtain ⟨hvalue, hfields⟩ := List.forall_mem_cons.mp h
    have hkey : readToken .firstKey stack (.text key) = some (.colon [] key, stack) := rfl
    have hcolon : readToken (.colon [] key) stack .colon =
        some (.value, .object [] key :: stack) := rfl
    rw [tokensOf]
    simp only [List.append_assoc, List.cons_append, List.nil_append]
    rw [ofTokens?_cons_of_readToken hopen, ofTokens?_cons_of_readToken hkey,
      ofTokens?_cons_of_readToken hcolon, hvalue _ _ (by simp; omega) .value takesValue_value]
    exact ofTokens?_tokensOfFields fields hfields _ key .empty stack hroom rest

/-- A value that can be read is read with its fields in order. -/
theorem Readable.readsValue {room : Nat} {value : Json} (h : Readable room value) :
    ReadsValue room value := by
  induction h with
  | null => exact readsValue_of_startValue rfl (by simp) fun _ => rfl
  | boolean => exact readsValue_of_startValue rfl (by simp) fun _ => rfl
  | number => exact readsValue_of_startValue rfl (by simp) fun _ => rfl
  | text => exact readsValue_of_startValue rfl (by simp) fun _ => rfl
  | array _ ih => exact readsValue_array _ ih
  | object _ ih => exact readsValue_object _ ih

/-- What is printed reads back, with the fields of its objects in order; blanks may follow. -/
theorem ofText?_print {value : Json} (h : Readable maxDepth value) (blanks : String)
    (hblanks : ∀ c ∈ blanks.toList, c = ' ' ∨ c = '\n') :
    ofText? (value.print ++ blanks) = some value.inOrder := by
  have hvalue := h.readsValue [] [] (by simp) .value takesValue_value
  have hnone : ∀ cs : List Char, (∀ c ∈ cs, c = ' ' ∨ c = '\n') → tokens .between cs = some [] := by
    intro cs hcs
    induction cs with
    | nil => rfl
    | cons c rest ih =>
      obtain ⟨hc, hrest⟩ := List.forall_mem_cons.mp hcs
      rw [tokens_cons_of_quiet_move (by rcases hc with rfl | rfl <;> rfl), ih hrest]
  have hends : EndsWord blanks.toList := by
    intro c hc
    rcases hblanks c (List.mem_of_head? hc) with rfl | rfl <;> decide
  rw [List.append_nil] at hvalue
  rw [ofText?, String.toList_append, print, String.toList_ofList, h.readsTokens 0 _ hends,
    hnone _ hblanks]
  simp only [Option.map_some, List.append_nil, Option.bind_eq_bind, Option.bind_some]
  exact hvalue

end GuestCases.Json
