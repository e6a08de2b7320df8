import GuestCases.Proofs.CaseLines
import GuestCases.Proofs.DeclaredHooks

/-!
The lines of generated headers. A header is its guard, the opening of its body, what each entry
leaves, and the closing. The words that a line is made of hold no line feed, but the texts that it
shows are written as they are. So every case stands on its own line, and every marker on two,
exactly when no text that the header shows holds a line feed.
-/

namespace GuestCases

/-- The lines of a text as an editor shows them, the one behind the last line feed included. -/
def physicalLines (text : String) : List (List Char) :=
  text.toList.splitOn '\n'

def Kind.macros : Kind → List String
  | .cpuid => Cpuid.statementMacros
  | .msr => Msr.declarationMacros

def Kind.opening : Kind → String
  | .cpuid => Cpuid.family.opening
  | .msr => Msr.family.opening

def Kind.closing : Kind → String
  | .cpuid => Cpuid.family.closing
  | .msr => Msr.family.closing

def collectedLines (settings : Settings) (files : Files.Tree) :
    Kind → Except PassFault (List CaseLine)
  | .cpuid => (collectCpuid settings files).outcome.map fun build =>
      build.entries.map Cpuid.Entry.caseLine
  | .msr => (collectMsr settings files).outcome.map fun build =>
      build.entries.map Msr.Entry.caseLine

def CaseLine.regularFeeds (lines : List CaseLine) : Nat :=
  3 + lines.length + lines.countP CaseLine.isMarker

def CaseLine.ownLines (line : CaseLine) : List (List Char) :=
  if line.isMarker then [[], line.text.toList.drop 1] else [line.text.toList]

structure Header.HasLayout (header : Header) (kind : Kind) (lines : List CaseLine) : Prop where
  entries : header.entries = lines.length
  printed : ∀ line ∈ lines, line.IsPrinted kind.macros
  physical : physicalLines header.text =
    [s!"#define AUTOGEN_{kind.tag}".toList, kind.opening.toList] ++
      lines.flatMap (fun line => physicalLines line.text) ++ [kind.closing.toList, []]
  feeds : lineFeeds header.text = CaseLine.regularFeeds lines +
    (lines.map fun line => (line.shown.map lineFeeds).sum).sum

theorem physicalLines_of_lineFeeds (text : String) (h : lineFeeds text = 0) :
    physicalLines text = [text.toList] := by
  have hnone : '\n' ∉ text.toList := List.count_eq_zero.mp h
  rw [physicalLines, List.splitOn_eq_splitOnP]
  exact List.splitOnP_eq_singleton fun c hc => beq_false_of_ne fun heq => hnone (heq ▸ hc)

/-- Each line of a header is ended by a line feed. -/
theorem physicalLines_headerText (kind : Kind) (lines : List String) :
    physicalLines (headerText kind lines) =
      (s!"#define AUTOGEN_{kind.tag}" :: lines).flatMap physicalLines ++ [[]] := by
  unfold headerText
  generalize s!"#define AUTOGEN_{kind.tag}" :: lines = all
  induction all with
  | nil => rfl
  | cons line rest ih =>
    have hline : physicalLines (line ++ "\n" ++ String.join (rest.map (· ++ "\n"))) =
        physicalLines line ++ physicalLines (String.join (rest.map (· ++ "\n"))) := by
      have hend : "\n".toList = ['\n'] := rfl
      simp only [physicalLines, String.toList_append, hend, List.append_assoc,
        List.singleton_append, List.splitOn_append_cons_self]
    rw [List.map_cons, String.join_cons, hline, ih, List.flatMap_cons, List.append_assoc]

theorem lineFeeds_guard (kind : Kind) : lineFeeds s!"#define AUTOGEN_{kind.tag}" = 0 := by
  cases kind <;> rfl

theorem lineFeeds_headerText (kind : Kind) (lines : List String) :
    lineFeeds (headerText kind lines) = lines.length + 1 + (lines.map lineFeeds).sum := by
  have hjoined : ∀ all : List String, lineFeeds (String.join (all.map (· ++ "\n"))) =
      all.length + (all.map lineFeeds).sum := by
    intro all
    induction all with
    | nil => rfl
    | cons line rest ih =>
      have hend : lineFeeds "\n" = 1 := rfl
      simp only [List.map_cons, String.join_cons, lineFeeds_append, ih, hend, List.length_cons,
        List.sum_cons]
      omega
  rw [headerText, hjoined, List.map_cons, List.sum_cons, lineFeeds_guard, List.length_cons,
    Nat.zero_add]

theorem sum_lineFeeds (macros : List String) (lines : List CaseLine)
    (h : ∀ line ∈ lines, line.IsPrinted macros) :
    (lines.map fun line => lineFeeds line.text).sum = lines.countP CaseLine.isMarker +
      (lines.map fun line => (line.shown.map lineFeeds).sum).sum := by
  induction lines with
  | nil => rfl
  | cons line rest ih =>
    obtain ⟨hline, hrest⟩ := List.forall_mem_cons.mp h
    rw [List.map_cons, List.sum_cons, hline.feeds, ih hrest, List.countP_cons, List.map_cons,
      List.sum_cons]
    omega

/-- A header of lines as they are printed has the layout of its kind. -/
theorem hasLayout_ofBuild {ε κ : Type} (family : Family ε κ) (path : String) (build : Build ε)
    (caseLine : ε → CaseLine) (htext : ∀ entry, (caseLine entry).text = family.line entry)
    (hopening : family.kind.opening = family.opening)
    (hclosing : family.kind.closing = family.closing)
    (hprinted : ∀ entry ∈ build.entries, (caseLine entry).IsPrinted family.kind.macros) :
    (Header.ofBuild family path build).HasLayout family.kind (build.entries.map caseLine) := by
  have hopened : lineFeeds family.opening = 0 := by
    rw [← hopening]
    cases family.kind <;> rfl
  have hclosed : lineFeeds family.closing = 0 := by
    rw [← hclosing]
    cases family.kind <;> rfl
  have hlines : ((build.entries.map caseLine).map fun line => lineFeeds line.text) =
      (build.entries.map family.line).map lineFeeds := by
    simp [htext]
  have hall : ∀ line ∈ build.entries.map caseLine, line.IsPrinted family.kind.macros :=
    List.forall_mem_map.mpr hprinted
  exact {
    entries := (List.length_map _).symm
    printed := hall
    physical := by
      rw [Header.text, physicalLines_headerText, hopening, hclosing]
      simp [Header.ofBuild, Family.body, List.flatMap_append, List.flatMap_map, htext,
        physicalLines_of_lineFeeds _ (lineFeeds_guard family.kind),
        physicalLines_of_lineFeeds _ hopened, physicalLines_of_lineFeeds _ hclosed]
    feeds := by
      rw [Header.text, lineFeeds_headerText]
      simp only [Header.ofBuild, Family.body, List.map_append, List.map_cons, List.sum_append,
        List.sum_cons, List.map_nil, List.sum_nil, hopened, hclosed, List.length_append,
        List.length_cons, List.length_map, List.length_nil, ← hlines, sum_lineFeeds _ _ hall,
        CaseLine.regularFeeds]
      omega
  }

namespace Cpuid

/-- Assembling keeps the words of the entries that sheets give. -/
theorem hasWords_of_collect (files : Files.Tree) (sources : List Settings.CpuidSource)
    (build : Build Entry)
    (h : (collect family files (sources.map sheetSource)).outcome = .ok build) (entry : Entry)
    (hentry : entry ∈ build.entries) : entry.HasWords := by
  obtain ⟨source, hsource, part, original, ⟨sheet, -, hread⟩, hmem, hextends⟩ :=
    exists_extends_of_mem_collect mergeable files _ build h entry hentry
  obtain ⟨settings, -, rfl⟩ := List.mem_map.mp hsource
  have hwords := hasWords_of_read _ _ sheet part hread original hmem
  have hleaf : entry.leaf = original.leaf :=
    (congrArg Entry.leaf hextends.bare_eq : (mergeable.bare entry).leaf = _)
  have hsubleaf : entry.subleaf = original.subleaf :=
    (congrArg Entry.subleaf hextends.bare_eq : (mergeable.bare entry).subleaf = _)
  exact ⟨hleaf ▸ hwords.leaf, hsubleaf ▸ hwords.subleaf⟩

end Cpuid

namespace Msr

theorem isWord_of_signature? (cs name after : List Char) (h : signature? cs = some (name, after)) :
    Text.IsWord name := by
  simp only [signature?, Option.bind_eq_bind, Option.bind_eq_some_iff] at h
  obtain ⟨-, -, -, -, -, -, named, -, hnamed⟩ := h
  split at hnamed
  · cases hnamed
  · simp only [Option.bind_eq_some_iff] at hnamed
    obtain ⟨-, -, -, -, -, -, -, -, -, -, -, -, rest, -, hname⟩ := hnamed
    obtain ⟨rfl, -⟩ := Prod.mk.inj (Option.some.inj hname)
    exact Text.isWord_leadingWord named

/-- Declared hooks are named by words. -/
theorem isWord_of_mem_declaredFrom (covered : Nat) (cs : List Char) (name : String)
    (h : name ∈ declaredFrom covered cs) : Text.IsWord name.toList := by
  induction cs generalizing covered with
  | nil => cases h
  | cons c rest ih =>
    cases covered with
    | succ n => exact ih n h
    | zero =>
      rw [declaredFrom] at h
      split at h
      · rename_i found after hfound
        rcases List.mem_cons.mp h with rfl | hlater
        · rw [String.toList_ofList]
          exact isWord_of_signature? _ found after hfound
        · exact ih _ hlater
      · exact ih 0 h

theorem isWord_of_contains_ofSource (source name : String)
    (h : (Hooks.ofSource source).contains name = true) : Text.IsWord name.toList := by
  have hmem : name ∈ (Hooks.ofSource source).names := by simpa [Hooks.contains] using h
  have hname := (Dictionary.mem_keys_ofList_iff _ name).mp hmem
  rw [List.map_map] at hname
  exact isWord_of_mem_declaredFrom 0 source.toList name (by simpa using hname)

/-- The indices of a row's entries are normal forms of numbers. -/
theorem exists_hexText_of_rowGives (source : Source) (row : Row) (share : Build Entry)
    (h : RowGives source row share) (entry : Entry) (hentry : entry ∈ share.entries) :
    ∃ first size, entry.first = Numeral.hexText first ∧ entry.size = Numeral.hexText size := by
  obtain ⟨geometry, direction, ⟨first, last, size, -, rfl⟩, hcase⟩ := h.exists_isCase entry hentry
  exact ⟨first, size, hcase.first, hcase.size⟩

theorem Outcome.exists_eq_trapsIf (outcome : Outcome) (hook : String)
    (h : outcome.hook? = some hook) : ∃ trap, outcome = .trapsIf trap hook := by
  unfold Outcome.hook? at h
  split at h
  · rename_i trap found
    obtain rfl := Option.some.inj h
    exact ⟨trap, rfl⟩
  · cases h

/-- An assembled entry keeps the indices and the outcome of an entry of some row. -/
theorem exists_hexText_of_collect (files : Files.Tree) (resolver : Resolver)
    (sources : List Settings.MsrSource) (build : Build Entry)
    (h : (collect family files (sources.map (sheetSource resolver))).outcome = .ok build)
    (entry : Entry) (hentry : entry ∈ build.entries) :
    (∃ first size, entry.first = Numeral.hexText first ∧ entry.size = Numeral.hexText size) ∧
      ∀ hook ∈ entry.outcome.hook?, resolver.hooks.contains hook = true := by
  obtain ⟨shares, hshares, hentries, -⟩ := exists_shares_of_collect files _ sources build h
  rw [hentries] at hentry
  obtain ⟨original, horiginal, hextends⟩ :=
    Family.exists_extends_of_mem_assemble mergeable _ entry hentry
  obtain ⟨path, version, row, share, hrow, hmem⟩ :=
    exists_rowGives_of_mem files _ sources shares hshares original horiginal
  have hfirst : entry.first = original.first :=
    (congrArg Entry.first hextends.bare_eq : (mergeable.bare entry).first = _)
  have hsize : entry.size = original.size :=
    (congrArg Entry.size hextends.bare_eq : (mergeable.bare entry).size = _)
  rw [hfirst, hsize]
  refine ⟨exists_hexText_of_rowGives _ row share hrow original hmem, fun hook hhook => ?_⟩
  rw [outcome_eq_of_extends original entry hextends] at hhook
  obtain ⟨trap, houtcome⟩ := original.outcome.exists_eq_trapsIf hook hhook
  exact contains_of_rowGives _ row share hrow original hmem trap hook houtcome

theorem hasWords_of_collect (files : Files.Tree) (conditions : Dictionary String) (text : String)
    (sources : List Settings.MsrSource) (build : Build Entry)
    (h : (collect family files
      (sources.map (sheetSource ⟨conditions, .ofSource text⟩))).outcome = .ok build)
    (entry : Entry) (hentry : entry ∈ build.entries) : entry.HasWords := by
  obtain ⟨⟨first, size, hfirst, hsize⟩, hhook⟩ :=
    exists_hexText_of_collect files _ sources build h entry hentry
  exact {
    first := hfirst ▸ Numeral.isWord_hexText first
    size := hsize ▸ Numeral.isWord_hexText size
    hook := fun hook hmem => isWord_of_contains_ofSource text hook (hhook hook hmem) }

end Msr

/-- The header of a kind has the layout of what its entries leave. -/
theorem exists_hasLayout_of_generate (kind : Kind) (settings : Settings) (files : Files.Tree)
    (header : Header) (h : (generate kind settings files).outcome = .ok header) :
    ∃ lines, collectedLines settings files kind = .ok lines ∧ header.HasLayout kind lines := by
  cases kind with
  | cpuid =>
    obtain ⟨⟨cpuid, build⟩, hsection, hheader⟩ := (Attempt.outcome_bind_eq_ok_iff _ _ _).mp h
    obtain rfl := Except.ok.inj hheader
    have hcollect := ((Cpuid.outcome_collectSection_eq_ok_iff _ _ _ _).mp hsection).2
    have hbuild : (collectCpuid settings files).outcome = .ok build :=
      (Attempt.outcome_bind_eq_ok_iff _ _ _).mpr ⟨(cpuid, build), hsection, rfl⟩
    refine ⟨build.entries.map Cpuid.Entry.caseLine, by simp [collectedLines, hbuild, Except.map],
      hasLayout_ofBuild Cpuid.family _ build _ (fun _ => rfl) rfl rfl fun entry hentry => ?_⟩
    exact (Cpuid.hasWords_of_collect files _ build hcollect entry hentry).isPrinted
  | msr =>
    obtain ⟨⟨msr, build⟩, hsection, hheader⟩ := (Attempt.outcome_bind_eq_ok_iff _ _ _).mp h
    obtain rfl := Except.ok.inj hheader
    obtain ⟨-, resolver, hresolver, hcollect⟩ :=
      (Msr.outcome_collectSection_eq_ok_iff _ _ _ _).mp hsection
    obtain ⟨text, conditions, -, -, rfl⟩ :=
      (Msr.outcome_loadResolver_eq_ok_iff files msr resolver).mp hresolver
    have hbuild : (collectMsr settings files).outcome = .ok build :=
      (outcome_collectMsr_eq_ok_iff settings files build).mpr ⟨msr, hsection⟩
    refine ⟨build.entries.map Msr.Entry.caseLine, by simp [collectedLines, hbuild, Except.map],
      hasLayout_ofBuild Msr.family _ build _ (fun _ => rfl) rfl rfl fun entry hentry => ?_⟩
    exact (Msr.hasWords_of_collect files conditions text _ build hcollect entry hentry).isPrinted

theorem CaseLine.IsPrinted.physicalLines_eq {macros : List String} {line : CaseLine}
    (h : line.IsPrinted macros) (hshown : ∀ text ∈ line.shown, lineFeeds text = 0) :
    physicalLines line.text = line.ownLines := by
  unfold CaseLine.ownLines
  split
  · rename_i hmarker
    obtain ⟨caption, hcaption, htext⟩ := h.marker hmarker
    have hrest : lineFeeds ("\t// " ++ caption) = 0 := by
      rw [lineFeeds_append, hshown caption (by simp [hcaption])]
      rfl
    have hlist : line.text.toList = [] ++ '\n' :: ("\t// " ++ caption).toList := by
      rw [htext]
      simp
    rw [physicalLines, hlist, List.splitOn_append_cons_self, ← physicalLines,
      physicalLines_of_lineFeeds _ hrest]
    rfl
  · rename_i hstatement
    have hzero : (line.shown.map lineFeeds).sum = 0 :=
      List.sum_eq_zero_iff_forall_eq_nat.mpr (List.forall_mem_map.mpr hshown)
    exact physicalLines_of_lineFeeds _ (by rw [h.feeds, if_neg hstatement, hzero])

/-- A generated header has the layout of its kind. A case whose texts hold no line feed stands on
its own line, and the header has the line feeds of its layout and no other exactly when no text that
it shows holds one. -/
theorem lines_of_generate (kind : Kind) (settings : Settings) (files : Files.Tree)
    (header : Header) (h : (generate kind settings files).outcome = .ok header) :
    ∃ lines, collectedLines settings files kind = .ok lines ∧ header.HasLayout kind lines ∧
      (∀ line ∈ lines, (∀ text ∈ line.shown, lineFeeds text = 0) →
        physicalLines line.text = line.ownLines) ∧
      (lineFeeds header.text = CaseLine.regularFeeds lines ↔
        ∀ line ∈ lines, ∀ text ∈ line.shown, lineFeeds text = 0) := by
  obtain ⟨lines, hlines, hlayout⟩ := exists_hasLayout_of_generate kind settings files header h
  refine ⟨lines, hlines, hlayout, fun line hline => (hlayout.printed line hline).physicalLines_eq,
    ?_⟩
  rw [hlayout.feeds, Nat.add_eq_left, List.sum_eq_zero_iff_forall_eq_nat,
    List.forall_mem_map]
  refine forall₂_congr fun line _ => ?_
  rw [List.sum_eq_zero_iff_forall_eq_nat, List.forall_mem_map]

def namedField (cell : String) : Files.Tree :=
  let text := "Field,Reg.,MSB,LSB,Field Size,Type,Detail\nLeaf 0x1,,,,,,\n" ++ cell ++
    ",ECX,0,0,1,Fixed,1\n"
  Files.Tree.empty.put "cpuid.csv" (.file text.toUTF8)

def namedFieldSettings : Settings where
  path := "config.json"
  directory := ""
  sections := [
    ("cpuid", .object [("header_path", .text "cases.h"),
      ("sources", .array [
        .object [("csv_path", .text "cpuid.csv"), ("fname", .text "Field"),
          ("vtype", .text "Type"), ("vdetail", .text "Detail"), ("version", .text "1.5")]])])]

theorem lines_of_generate_named :
    ∃ header, (generate .cpuid namedFieldSettings (namedField "SSE3")).outcome = .ok header ∧
      header.text = "#define AUTOGEN_CPUID\nvoid initial_cpuid(void) \x7b\n\n\t// Leaf 0x1\n" ++
        "\tEXP_CPUID_BIT(0x1, 0x0, ecx, 0, 1, VER1_5);\t//SSE3\n\x7d\n" ∧
      ∃ lines, collectedLines namedFieldSettings (namedField "SSE3") .cpuid = .ok lines ∧
        header.HasLayout .cpuid lines := by
  have htext : (generate .cpuid namedFieldSettings (namedField "SSE3")).outcome.map Header.text =
      .ok ("#define AUTOGEN_CPUID\nvoid initial_cpuid(void) \x7b\n\n\t// Leaf 0x1\n" ++
        "\tEXP_CPUID_BIT(0x1, 0x0, ecx, 0, 1, VER1_5);\t//SSE3\n\x7d\n") := by
    decide +kernel
  obtain ⟨header, hheader, htext⟩ := (Attempt.map_eq_ok_iff _ _ _).mp htext
  obtain ⟨lines, hlines, hlayout, -⟩ :=
    lines_of_generate .cpuid namedFieldSettings (namedField "SSE3") header hheader
  exact ⟨header, hheader, htext, lines, hlines, hlayout⟩

/-- A name of two lines leaves its second line behind as C code. -/
theorem name_of_two_lines :
    ∃ build header,
      (collectCpuid namedFieldSettings (namedField "\"SSE3\nStreaming\"")).outcome = .ok build ∧
      (generate .cpuid namedFieldSettings (namedField "\"SSE3\nStreaming\"")).outcome =
        .ok header ∧
      lineFeeds header.text ≠
        3 + build.entries.length + build.entries.countP Cpuid.Entry.isMarker ∧
      (physicalLines header.text)[5]? = some "Streaming".toList := by
  have hcounts : (collectCpuid namedFieldSettings
      (namedField "\"SSE3\nStreaming\"")).outcome.map (fun build =>
        (build.entries.length, build.entries.countP Cpuid.Entry.isMarker)) = .ok (2, 1) := by
    decide +kernel
  have hfeeds : (generate .cpuid namedFieldSettings
      (namedField "\"SSE3\nStreaming\"")).outcome.map (fun header =>
        (lineFeeds header.text, (physicalLines header.text)[5]?)) =
          .ok (7, some "Streaming".toList) := by
    decide +kernel
  obtain ⟨build, hbuild, hcounts⟩ := (Attempt.map_eq_ok_iff _ _ _).mp hcounts
  obtain ⟨header, hheader, hfeeds⟩ := (Attempt.map_eq_ok_iff _ _ _).mp hfeeds
  obtain ⟨hlength, hmarkers⟩ := Prod.mk.inj hcounts
  obtain ⟨hcount, hline⟩ := Prod.mk.inj hfeeds
  refine ⟨build, header, hbuild, hheader, ?_, hline⟩
  rw [hlength, hmarkers, hcount]
  decide

end GuestCases
