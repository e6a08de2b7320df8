import GuestCases.Files.Tree

/-!
Where paths lead and what a write changes. A path that can be followed leads to the place that
its segments spell, whatever the tree holds. A write puts a file at that place and leaves every
other place alone, so that directories stay and paths that could be followed still can be.
-/

namespace GuestCases.Files

def placeOf (path : String) : Place :=
  (segments path).foldl advance (Tree.origin path)

namespace Tree

def KeepsDirectories (tree later : Tree) : Prop :=
  ∀ place, tree.node? place = some .directory → later.node? place = some .directory

structure LeadsTo (tree : Tree) (path : String) (place : Place) : Prop where
  named : nameFault? path = none
  no_slash : endsInSlash path = false
  walked : tree.walk (origin path) (segments path) = .ok place
  not_directory : tree.node? place ≠ some .directory

theorem obstacle?_eq_none_iff (tree : Tree) (place : Place) :
    tree.obstacle? place = none ↔ tree.node? place = some .directory := by
  unfold obstacle?
  split <;> simp_all

theorem step_eq_ok_iff (tree : Tree) (place next : Place) (segment : String) :
    tree.step place segment = .ok next ↔
      tree.node? place = some .directory ∧ segment.utf8ByteSize ≤ 255 ∧
        advance place segment = next := by
  rw [← obstacle?_eq_none_iff, step]
  cases tree.obstacle? place with
  | some fault => simp
  | none =>
    by_cases hlong : 255 < segment.utf8ByteSize
    · simp [hlong, Nat.not_le_of_gt hlong]
    · simp [hlong, Nat.le_of_not_lt hlong]

theorem walk_cons_eq_ok_iff (tree : Tree) (place reached : Place) (segment : String)
    (rest : List String) :
    tree.walk place (segment :: rest) = .ok reached ↔
      ∃ next, tree.step place segment = .ok next ∧ tree.walk next rest = .ok reached := by
  rw [walk]
  cases tree.step place segment <;> simp [Except.bind]

theorem walk_concat_eq_ok_iff (tree : Tree) (place reached : Place) (init : List String)
    (segment : String) :
    tree.walk place (init ++ [segment]) = .ok reached ↔
      ∃ parent, tree.walk place init = .ok parent ∧ tree.step parent segment = .ok reached := by
  induction init generalizing place with
  | nil =>
    rw [List.nil_append, walk_cons_eq_ok_iff]
    simp [walk]
  | cons first rest ih =>
    rw [List.cons_append, walk_cons_eq_ok_iff]
    simp only [walk_cons_eq_ok_iff, ih]
    constructor
    · rintro ⟨next, hnext, parent, hparent, hreached⟩
      exact ⟨parent, ⟨next, hnext, hparent⟩, hreached⟩
    · rintro ⟨parent, ⟨next, hnext, hparent⟩, hreached⟩
      exact ⟨next, hnext, parent, hparent, hreached⟩

theorem eq_foldl_advance_of_walk (tree : Tree) (place reached : Place) (names : List String)
    (h : tree.walk place names = .ok reached) : reached = names.foldl advance place := by
  induction names generalizing place with
  | nil => exact (Except.ok.inj h).symm
  | cons segment rest ih =>
    obtain ⟨next, hstep, hrest⟩ := (walk_cons_eq_ok_iff _ _ _ _ _).mp h
    obtain ⟨-, -, rfl⟩ := (step_eq_ok_iff _ _ _ _).mp hstep
    exact ih _ hrest

theorem LeadsTo.place_eq {tree : Tree} {path : String} {place : Place}
    (h : tree.LeadsTo path place) : place = placeOf path :=
  eq_foldl_advance_of_walk tree _ place _ h.walked

/-- A walk only looks at directories, so it can be made wherever they are. -/
theorem walk_of_keepsDirectories (tree later : Tree) (h : tree.KeepsDirectories later)
    (place reached : Place) (names : List String) (hwalk : tree.walk place names = .ok reached) :
    later.walk place names = .ok reached := by
  induction names generalizing place with
  | nil => exact hwalk
  | cons segment rest ih =>
    obtain ⟨next, hstep, hrest⟩ := (walk_cons_eq_ok_iff _ _ _ _ _).mp hwalk
    obtain ⟨hdirectory, hshort, hnext⟩ := (step_eq_ok_iff _ _ _ _).mp hstep
    refine (walk_cons_eq_ok_iff _ _ _ _ _).mpr ⟨next, ?_, ih next hrest⟩
    exact (step_eq_ok_iff _ _ _ _).mpr ⟨h place hdirectory, hshort, hnext⟩

/-- A file can be written where the way to the last name can be followed, the path can name a
file, and no directory is there. -/
theorem target_eq_ok_iff (tree : Tree) (path : String) (place : Place) :
    tree.target path = .ok place ↔
      ∃ init name parent, nameFault? path = none ∧ endsInSlash path = false ∧
        name ≠ "." ∧ name ≠ ".." ∧ segments path = init ++ [name] ∧
        tree.walk (origin path) init = .ok parent ∧ tree.step parent name = .ok place ∧
        tree.node? place ≠ some .directory := by
  unfold target
  constructor
  · intro h
    cases hnamed : nameFault? path with
    | some fault => simp [hnamed] at h
    | none =>
      cases hlast : (segments path).getLast? with
      | none => simp [hnamed, hlast] at h
      | some name =>
        obtain ⟨init, hnames⟩ := List.getLast?_eq_some_iff.mp hlast
        rw [hnamed, hlast, hnames, List.dropLast_concat] at h
        cases hparent : tree.walk (origin path) init with
        | error fault => simp [hparent, bind, Except.bind] at h
        | ok parent =>
          simp only [hparent, bind, Except.bind] at h
          split at h
          · cases h
          split at h
          · cases h
          rename_i hending
          have hname : (endsInSlash path = false ∧ name ≠ ".") ∧ name ≠ ".." := by
            simpa [not_or] using hending
          obtain ⟨⟨hslash, hdot⟩, hdots⟩ := hname
          cases hstep : tree.step parent name with
          | error fault => simp [hstep] at h
          | ok found =>
            simp only [hstep] at h
            split at h
            · cases h
            rename_i hfree
            obtain rfl := Except.ok.inj h
            exact ⟨init, name, parent, rfl, hslash, hdot, hdots, hnames, hparent, hstep, hfree⟩
  · rintro ⟨init, name, parent, hnamed, hslash, hdot, hdots, hnames, hparent, hstep, hfree⟩
    have hdirectory := ((step_eq_ok_iff _ _ _ _).mp hstep).1
    have hobstacle := (obstacle?_eq_none_iff tree parent).mpr hdirectory
    simp [hnamed, hslash, hdot, hdots, hnames, hparent, hstep, hfree, hobstacle, bind, Except.bind]

theorem leadsTo_of_target (tree : Tree) (path : String) (place : Place)
    (h : tree.target path = .ok place) : tree.LeadsTo path place := by
  obtain ⟨init, name, parent, hnamed, hslash, -, -, hnames, hparent, hstep, hfree⟩ :=
    (target_eq_ok_iff tree path place).mp h
  refine ⟨hnamed, hslash, ?_, hfree⟩
  rw [hnames]
  exact (walk_concat_eq_ok_iff _ _ _ _ _).mpr ⟨parent, hparent, hstep⟩

/-- Whether a path can be written does not depend on the text. -/
theorem exists_write_iff (tree : Tree) (path text : String) :
    (∃ written, tree.write path text = .ok written) ↔ ∃ place, tree.target path = .ok place := by
  rw [write]
  cases tree.target path <;> simp [Except.map]

theorem node?_set (tree : Tree) (place other : Place) (node : Option Node)
    (h : isFixed place = false) :
    (tree.set place node).node? other = if other = place then node else tree.node? other := by
  unfold node? set
  by_cases heq : other = place
  · simp [heq, h]
  · simp [heq]

/-- A fixed place holds a directory, so no file is there. -/
theorem LeadsTo.isFixed_eq_false {tree : Tree} {path : String} {place : Place}
    (h : tree.LeadsTo path place) : isFixed place = false :=
  Bool.eq_false_iff.mpr fun hfixed => h.not_directory (by rw [node?, if_pos hfixed])

/-- A write puts the text at the place of the path and changes nothing else. -/
theorem node?_write (tree written : Tree) (path text : String)
    (h : tree.write path text = .ok written) (place : Place) :
    written.node? place =
      if place = placeOf path then some (.file text.toUTF8) else tree.node? place := by
  unfold write at h
  cases htarget : tree.target path with
  | error fault => simp [htarget, Except.map] at h
  | ok found =>
    simp only [htarget, Except.map, Except.ok.injEq] at h
    have hleads := leadsTo_of_target tree path found htarget
    rw [← h, node?_set tree found place _ hleads.isFixed_eq_false, hleads.place_eq]

theorem leadsTo_of_write (tree written : Tree) (path text : String)
    (h : tree.write path text = .ok written) : tree.LeadsTo path (placeOf path) := by
  unfold write at h
  cases htarget : tree.target path with
  | error fault => simp [htarget, Except.map] at h
  | ok place =>
    have hleads := leadsTo_of_target tree path place htarget
    rwa [hleads.place_eq] at hleads

theorem KeepsDirectories.refl (tree : Tree) : tree.KeepsDirectories tree :=
  fun _ hdirectory => hdirectory

theorem KeepsDirectories.trans {first second third : Tree} (h : first.KeepsDirectories second)
    (h' : second.KeepsDirectories third) : first.KeepsDirectories third :=
  fun place hdirectory => h' place (h place hdirectory)

theorem keepsDirectories_of_write (tree written : Tree) (path text : String)
    (h : tree.write path text = .ok written) : tree.KeepsDirectories written := by
  intro place hdirectory
  have hfree := (leadsTo_of_write tree written path text h).not_directory
  have hne : place ≠ placeOf path := fun heq => hfree (heq ▸ hdirectory)
  rw [node?_write tree written path text h, if_neg hne, hdirectory]

/-- A path reads the file at the place to which it leads. -/
theorem read_eq_ok_iff (tree : Tree) (path : String) (content : ByteArray) :
    tree.read path = .ok content ↔
      tree.LeadsTo path (placeOf path) ∧ tree.node? (placeOf path) = some (.file content) := by
  constructor
  · intro hread
    unfold read at hread
    split at hread
    · cases hread
    rename_i hnamed
    cases hwalk : tree.walk (origin path) (segments path) with
    | error fault => simp [hwalk, bind, Except.bind] at hread
    | ok place =>
      obtain rfl : place = placeOf path := eq_foldl_advance_of_walk tree _ place _ hwalk
      simp only [hwalk, bind, Except.bind] at hread
      split at hread
      · cases hread
      · cases hread
      rename_i found hfile
      split at hread
      · cases hread
      rename_i hslash
      obtain rfl := Except.ok.inj hread
      exact ⟨⟨hnamed, Bool.eq_false_iff.mpr hslash, hwalk, by simp [hfile]⟩, hfile⟩
  · rintro ⟨hleads, hfile⟩
    simp [read, hleads.named, hleads.walked, bind, Except.bind, hfile, hleads.no_slash]

/-- A path that led to a place reads the file that is there later. -/
theorem read_of_leadsTo (tree later : Tree) (path : String) (place : Place)
    (content : ByteArray) (h : tree.LeadsTo path place) (hkept : tree.KeepsDirectories later)
    (hfile : later.node? place = some (.file content)) : later.read path = .ok content := by
  have hwalk := walk_of_keepsDirectories tree later hkept _ place _ h.walked
  simp [read, h.named, hwalk, bind, Except.bind, hfile, h.no_slash]

/-- A file that can be read is removed from its place, and nothing else changes. -/
theorem remove_of_read (tree : Tree) (path : String) (content : ByteArray)
    (hread : tree.read path = .ok content) :
    ∃ later, tree.remove path = (true, later) ∧ later.read path = .error .notFound ∧
      ∀ place, later.node? place = if place = placeOf path then none else tree.node? place := by
  obtain ⟨hleads, hfile⟩ := (read_eq_ok_iff tree path content).mp hread
  have hnodes := fun place =>
    node?_set tree (placeOf path) place none hleads.isFixed_eq_false
  have hkept : tree.KeepsDirectories (tree.set (placeOf path) none) := by
    intro place hdirectory
    have hne : place ≠ placeOf path := fun heq => hleads.not_directory (heq ▸ hdirectory)
    rw [hnodes, if_neg hne, hdirectory]
  have hwalk := walk_of_keepsDirectories tree _ hkept _ _ _ hleads.walked
  refine ⟨tree.set (placeOf path) none, ?_, ?_, hnodes⟩
  · simp only [remove, hread, hleads.walked]
  · simp [read, hleads.named, hwalk, bind, Except.bind, hnodes]

theorem remove_of_read_error (tree : Tree) (path : String) (fault : Fault)
    (hread : tree.read path = .error fault) : tree.remove path = (false, tree) := by
  simp only [remove, hread]

/-- The bytes of a text read as the text. -/
theorem readText_of_read (tree : Tree) (path text : String)
    (h : tree.read path = .ok text.toUTF8) : tree.readText path = .ok text := by
  have hvalid : text.toUTF8.IsValidUTF8 := text.isValidUTF8
  have htext : String.fromUTF8? text.toUTF8 = some text := dif_pos hvalid
  simp only [readText, h, Except.bind, htext]

end Tree

end GuestCases.Files
