import GuestCases.Proofs.FailingStages
import GuestCases.Proofs.FileTree

/-!
What a run does to the files. Every pass that makes a header puts the whole text of it at the
place that its path names, and a pass that fails puts nothing anywhere. After a run each place
therefore holds the last header that was made for it, or what it held before.
-/

namespace GuestCases

def headersOf (results : List (Kind × Except PassFault Header)) : List (Kind × Header) :=
  results.filterMap fun result => result.2.toOption.map fun header => (result.1, header)

/-- The last of the headers whose path names the place. -/
def lastHeaderAt? (place : Files.Place) (headers : List (Kind × Header)) :
    Option (Kind × Header) :=
  headers.reverse.find? fun made => Files.placeOf made.2.path = place

def headerBytes (made : Kind × Header) : ByteArray :=
  (headerText made.1 made.2.lines).toUTF8

/-- The second tree is the first with the headers written to it in order: every place holds the
last header for it, and the path of a header reads what is there. -/
structure HoldsHeaders (before after : Files.Tree) (headers : List (Kind × Header)) : Prop where
  node : ∀ place, after.node? place =
    ((lastHeaderAt? place headers).map fun made => .file (headerBytes made)).or
      (before.node? place)
  read : ∀ made ∈ headers, ∃ last,
    lastHeaderAt? (Files.placeOf made.2.path) headers = some last ∧
      after.read made.2.path = .ok (headerBytes last)

def filesAfter (settings : Settings) (write : Bool) (files : Files.Tree) (kind : Kind) :
    Files.Tree :=
  match (pass settings write files kind).outcome with
  | .ok (_, written) => written
  | .error _ => files

theorem results_run_cons (settings : Settings) (write : Bool) (files : Files.Tree) (kind : Kind)
    (rest : List Kind) :
    (run settings write files (kind :: rest)).results =
      (kind, (pass settings write files kind).outcome.map Prod.fst) ::
        (run settings write (filesAfter settings write files kind) rest).results := by
  rw [run, filesAfter]
  cases (pass settings write files kind).outcome <;> rfl

theorem files_run_cons (settings : Settings) (write : Bool) (files : Files.Tree) (kind : Kind)
    (rest : List Kind) :
    (run settings write files (kind :: rest)).files =
      (run settings write (filesAfter settings write files kind) rest).files := by
  rw [run, filesAfter]
  cases (pass settings write files kind).outcome <;> rfl

/-- A run of kinds in a row goes on where the run of the first ones ends. -/
theorem run_append (settings : Settings) (write : Bool) (files : Files.Tree)
    (earlier later : List Kind) :
    let began := (run settings write files earlier).files
    (run settings write files (earlier ++ later)).results =
        (run settings write files earlier).results ++ (run settings write began later).results ∧
      (run settings write files (earlier ++ later)).files =
        (run settings write began later).files := by
  induction earlier generalizing files with
  | nil => exact ⟨rfl, rfl⟩
  | cons kind rest ih =>
    obtain ⟨hresults, hfiles⟩ := ih (filesAfter settings write files kind)
    constructor
    · rw [List.cons_append, results_run_cons, results_run_cons, files_run_cons, hresults,
        List.cons_append]
    · rw [List.cons_append, files_run_cons, files_run_cons, hfiles]

theorem map_fst_results_run (settings : Settings) (write : Bool) (files : Files.Tree)
    (kinds : List Kind) : (run settings write files kinds).results.map Prod.fst = kinds := by
  induction kinds generalizing files with
  | nil => rfl
  | cons kind rest ih => rw [results_run_cons, List.map_cons, ih]

theorem filesAfter_of_fails (settings : Settings) (write : Bool) (files : Files.Tree)
    (kind : Kind) (h : (pass settings write files kind).Fails) :
    filesAfter settings write files kind = files := by
  obtain ⟨fault, hfault⟩ := h
  rw [filesAfter, hfault]

theorem kind_of_generate (kind : Kind) (settings : Settings) (files : Files.Tree)
    (header : Header) (h : (generate kind settings files).outcome = .ok header) :
    header.kind = kind := by
  cases kind with
  | cpuid =>
    obtain ⟨made, -, hheader⟩ := (Attempt.outcome_bind_eq_ok_iff _ _ _).mp h
    exact Except.ok.inj hheader ▸ rfl
  | msr =>
    obtain ⟨made, -, hheader⟩ := (Attempt.outcome_bind_eq_ok_iff _ _ _).mp h
    exact Except.ok.inj hheader ▸ rfl

theorem filesAfter_false (settings : Settings) (files : Files.Tree) (kind : Kind) :
    filesAfter settings false files kind = files := by
  unfold filesAfter
  split
  · rename_i header written hpass
    obtain ⟨made, -, hresult⟩ := (Attempt.outcome_bind_eq_ok_iff _ _ _).mp hpass
    exact (Prod.mk.inj (Except.ok.inj hresult)).2.symm
  · rfl

theorem write_of_pass (settings : Settings) (files written : Files.Tree) (kind : Kind)
    (header : Header) (h : (pass settings true files kind).outcome = .ok (header, written)) :
    files.write header.path (headerText kind header.lines) = .ok written := by
  obtain ⟨made, hmade, hpass⟩ := (Attempt.outcome_bind_eq_ok_iff _ _ _).mp h
  obtain ⟨tree, hwrite, hresult⟩ := (Attempt.outcome_bind_eq_ok_iff _ _ _).mp hpass
  obtain ⟨rfl, rfl⟩ := Prod.mk.inj (Except.ok.inj hresult)
  rw [Attempt.outcome_mapFault_eq_ok_iff, outcome_write, Attempt.mapError_eq_ok_iff,
    Header.text, kind_of_generate kind settings files made hmade] at hwrite
  exact hwrite

theorem lastHeaderAt?_append (place : Files.Place) (headers more : List (Kind × Header)) :
    lastHeaderAt? place (headers ++ more) =
      (lastHeaderAt? place more).or (lastHeaderAt? place headers) := by
  rw [lastHeaderAt?, List.reverse_append, List.find?_append]
  rfl

theorem lastHeaderAt?_singleton (place : Files.Place) (made : Kind × Header) :
    lastHeaderAt? place [made] =
      if Files.placeOf made.2.path = place then some made else none := by
  by_cases hplace : Files.placeOf made.2.path = place <;> simp [lastHeaderAt?, hplace]

theorem exists_lastHeaderAt? (made : Kind × Header) (headers : List (Kind × Header))
    (h : made ∈ headers) :
    ∃ last, lastHeaderAt? (Files.placeOf made.2.path) headers = some last := by
  apply Option.isSome_iff_exists.mp
  rw [lastHeaderAt?, List.find?_isSome]
  exact ⟨made, List.mem_reverse.mpr h, by simp⟩

theorem headersOf_append (results more : List (Kind × Except PassFault Header)) :
    headersOf (results ++ more) = headersOf results ++ headersOf more :=
  List.filterMap_append

/-- The second tree comes from the first by writing the headers in order. Every path to a header
could be followed once, and the directories on it are still there. -/
structure HasWritten (before after : Files.Tree) (headers : List (Kind × Header)) : Prop where
  node : ∀ place, after.node? place =
    ((lastHeaderAt? place headers).map fun made => .file (headerBytes made)).or
      (before.node? place)
  kept : before.KeepsDirectories after
  led : ∀ made ∈ headers, ∃ began : Files.Tree,
    began.LeadsTo made.2.path (Files.placeOf made.2.path) ∧ began.KeepsDirectories after

namespace HasWritten

theorem refl (files : Files.Tree) : HasWritten files files [] where
  node _ := rfl
  kept := Files.Tree.KeepsDirectories.refl files
  led _ hmade := absurd hmade List.not_mem_nil

theorem of_write (before after : Files.Tree) (made : Kind × Header)
    (h : before.write made.2.path (headerText made.1 made.2.lines) = .ok after) :
    HasWritten before after [made] where
  node place := by
    rw [lastHeaderAt?_singleton, Files.Tree.node?_write before after _ _ h]
    by_cases hplace : Files.placeOf made.2.path = place
    · rw [if_pos hplace, if_pos hplace.symm]
      rfl
    · rw [if_neg hplace, if_neg (Ne.symm hplace)]
      rfl
  kept := Files.Tree.keepsDirectories_of_write before after _ _ h
  led := by
    intro other hother
    rw [List.mem_singleton] at hother
    subst hother
    exact ⟨before, Files.Tree.leadsTo_of_write before after _ _ h,
      Files.Tree.keepsDirectories_of_write before after _ _ h⟩

theorem trans {before between after : Files.Tree} {headers more : List (Kind × Header)}
    (h : HasWritten before between headers) (h' : HasWritten between after more) :
    HasWritten before after (headers ++ more) where
  node place := by
    rw [h'.node, h.node, lastHeaderAt?_append, Option.map_or, Option.or_assoc]
  kept := h.kept.trans h'.kept
  led := by
    intro made hmade
    rcases List.mem_append.mp hmade with hmade | hmade
    · obtain ⟨began, hled, hkept⟩ := h.led made hmade
      exact ⟨began, hled, hkept.trans h'.kept⟩
    · exact h'.led made hmade

theorem holdsHeaders {before after : Files.Tree} {headers : List (Kind × Header)}
    (h : HasWritten before after headers) : HoldsHeaders before after headers where
  node := h.node
  read := by
    intro made hmade
    obtain ⟨last, hlast⟩ := exists_lastHeaderAt? made headers hmade
    obtain ⟨began, hled, hkept⟩ := h.led made hmade
    refine ⟨last, hlast, Files.Tree.read_of_leadsTo began after _ _ _ hled hkept ?_⟩
    rw [h.node, hlast]
    rfl

end HasWritten

theorem hasWritten_filesAfter (settings : Settings) (files : Files.Tree) (kind : Kind) :
    HasWritten files (filesAfter settings true files kind)
      (headersOf [(kind, (pass settings true files kind).outcome.map Prod.fst)]) := by
  cases hpass : (pass settings true files kind).outcome with
  | error fault =>
    rw [filesAfter_of_fails settings true files kind ⟨fault, hpass⟩]
    exact HasWritten.refl files
  | ok made =>
    obtain ⟨header, written⟩ := made
    rw [filesAfter, hpass]
    exact HasWritten.of_write files written (kind, header)
      (write_of_pass settings files written kind header hpass)

theorem hasWritten_run (settings : Settings) (files : Files.Tree) (kinds : List Kind) :
    HasWritten files (run settings true files kinds).files
      (headersOf (run settings true files kinds).results) := by
  induction kinds generalizing files with
  | nil => exact HasWritten.refl files
  | cons kind rest ih =>
    rw [results_run_cons, files_run_cons, ← List.singleton_append, headersOf_append]
    exact (hasWritten_filesAfter settings files kind).trans (ih _)

theorem files_run_false (settings : Settings) (files : Files.Tree) (kinds : List Kind) :
    (run settings false files kinds).files = files := by
  induction kinds generalizing files with
  | nil => rfl
  | cons kind rest ih => rw [files_run_cons, filesAfter_false, ih]

/-- A pass that fails gives its fault, and the rest of the run finds the files as it did. -/
theorem run_append_of_fails (settings : Settings) (write : Bool) (files : Files.Tree)
    (earlier later : List Kind) (kind : Kind)
    (h : (pass settings write (run settings write files earlier).files kind).Fails) :
    let began := (run settings write files earlier).files
    ∃ fault,
      (run settings write files (earlier ++ kind :: later)).results =
        (run settings write files earlier).results ++
          (kind, .error fault) :: (run settings write began later).results ∧
      (run settings write files (earlier ++ [kind])).files = began ∧
      (run settings write files (earlier ++ kind :: later)).files =
        (run settings write began later).files := by
  intro began
  have hfiles := filesAfter_of_fails settings write began kind h
  obtain ⟨fault, hfault⟩ := h
  refine ⟨fault, ?_, ?_, ?_⟩
  · rw [(run_append settings write files earlier (kind :: later)).1, results_run_cons, hfault,
      hfiles]
    rfl
  · rw [(run_append settings write files earlier [kind]).2, files_run_cons, hfiles]
    rfl
  · rw [(run_append settings write files earlier (kind :: later)).2, files_run_cons, hfiles]

/-- A run gives one result for each kind in order. It writes whole headers and nothing else, and
only when it is to write. A pass at which a stage fails gives a fault and leaves the files as
they were when it began, and the run goes on from there. -/
theorem run_writes_whole_headers (settings : Settings) (write : Bool) (files : Files.Tree)
    (kinds : List Kind) :
    (run settings write files kinds).results.map Prod.fst = kinds ∧
    (write = false → (run settings write files kinds).files = files) ∧
    (write = true → HoldsHeaders files (run settings write files kinds).files
      (headersOf (run settings write files kinds).results)) ∧
    ∀ earlier kind later, kinds = earlier ++ kind :: later →
      let began := (run settings write files earlier).files
      PassFails settings write began kind →
        ∃ fault,
          (run settings write files kinds).results =
            (run settings write files earlier).results ++
              (kind, .error fault) :: (run settings write began later).results ∧
          (run settings write files (earlier ++ [kind])).files = began ∧
          (run settings write files kinds).files = (run settings write began later).files := by
  refine ⟨map_fst_results_run settings write files kinds, ?_, ?_, ?_⟩
  · rintro rfl
    exact files_run_false settings files kinds
  · rintro rfl
    exact (hasWritten_run settings files kinds).holdsHeaders
  · rintro earlier kind later rfl began hfails
    exact run_append_of_fails settings write files earlier later kind
      ((fails_pass settings write began kind).mpr hfails)

def oneSheet : Files.Tree :=
  Files.Tree.empty.put "cpuid.csv" <| .file <| String.toUTF8 <|
    "Field Name,Reg.,MSB,LSB,Field Size,Type,Detail\n" ++
    "Leaf 1,,,,,,\n" ++
    "AESNI,ECX,25,25,1,Fixed,1\n"

def hooksMissing : Settings where
  path := "config.json"
  directory := ""
  sections := [
    ("cpuid", .object [("header_path", .text "cases.h"),
      ("sources", .array [.object [("csv_path", .text "cpuid.csv"), ("vtype", .text "Type"),
        ("vdetail", .text "Detail")]])]),
    ("msr", .object [("header_path", .text "cases.h"), ("precondition_header", .text "hooks.h"),
      ("sources", .array [.object [("csv_path", .text "msr.csv"), ("rdname", .text "Read"),
        ("wrname", .text "Write")]])])]

theorem run_writes_whole_headers_hooks_missing :
    let began := (run hooksMissing true oneSheet [.cpuid]).files
    let after := run hooksMissing true oneSheet [.cpuid, .msr, .cpuid]
    after.results.map (fun result => result.2.toOption.isSome) = [true, false, true] ∧
      HoldsHeaders oneSheet after.files (headersOf after.results) ∧
      PassFails hooksMissing true began .msr ∧
      (∃ fault,
        after.results = (run hooksMissing true oneSheet [.cpuid]).results ++
          (.msr, .error fault) :: (run hooksMissing true began [.cpuid]).results ∧
        (run hooksMissing true oneSheet [.cpuid, .msr]).files = began ∧
        after.files = (run hooksMissing true began [.cpuid]).files) ∧
      (run hooksMissing false oneSheet [.cpuid, .msr, .cpuid]).files = oneSheet := by
  have hfails : PassFails hooksMissing true (run hooksMissing true oneSheet [.cpuid]).files .msr :=
    by decide +kernel
  have hrun := run_writes_whole_headers hooksMissing true oneSheet [.cpuid, .msr, .cpuid]
  refine ⟨by decide +kernel, hrun.2.2.1 rfl, hfails, ?_, ?_⟩
  · exact hrun.2.2.2 [.cpuid] .msr [.cpuid] rfl hfails
  · exact (run_writes_whole_headers hooksMissing false oneSheet [.cpuid, .msr, .cpuid]).2.1 rfl

end GuestCases
