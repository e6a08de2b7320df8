import GuestCases.Proofs.FileTree
import Mathlib.Data.List.Infix

/-!
What the outcome of a read or a write rests on. A walk along a path looks at the places that the
path passes through and nowhere else, so trees that agree there give the same bytes or the same
fault. A write that was possible once stays possible while the directories stay and the place of
the path does not become one.
-/

namespace GuestCases.Files

def PassesThrough (path : String) (place : Place) : Prop :=
  ∃ init ∈ (segments path).inits, init ≠ [] ∧ init.foldl advance (Tree.origin path) = place

instance (path : String) (place : Place) : Decidable (PassesThrough path place) :=
  inferInstanceAs (Decidable (∃ init ∈ (segments path).inits,
    init ≠ [] ∧ init.foldl advance (Tree.origin path) = place))

namespace Tree

/-- Nothing differs between the trees at the places that the path passes through. -/
def AgreeAlong (tree later : Tree) (path : String) : Prop :=
  ∀ place, PassesThrough path place → later.node? place = tree.node? place

theorem node?_origin (tree : Tree) (path : String) :
    tree.node? (origin path) = some .directory := by
  have hfixed : isFixed (origin path) = true := by
    unfold origin
    split <;> rfl
  rw [node?, if_pos hfixed]

theorem AgreeAlong.node?_foldl {tree later : Tree} {path : String}
    (h : tree.AgreeAlong later path) (init : List String) (hinit : init <+: segments path) :
    later.node? (init.foldl advance (origin path)) =
      tree.node? (init.foldl advance (origin path)) := by
  cases init with
  | nil => exact (later.node?_origin path).trans (tree.node?_origin path).symm
  | cons segment rest =>
    exact h _ ⟨segment :: rest, (List.mem_inits _ _).mpr hinit, List.cons_ne_nil _ _, rfl⟩

theorem obstacle?_congr (tree later : Tree) (place : Place)
    (h : later.node? place = tree.node? place) : later.obstacle? place = tree.obstacle? place := by
  rw [obstacle?, obstacle?, h]

theorem step_congr (tree later : Tree) (place : Place) (segment : String)
    (h : later.node? place = tree.node? place) :
    later.step place segment = tree.step place segment := by
  rw [step, step, obstacle?_congr tree later place h]

theorem walk_congr (tree later : Tree) (place : Place) (names : List String)
    (h : ∀ init, init <+: names →
      later.node? (init.foldl advance place) = tree.node? (init.foldl advance place)) :
    later.walk place names = tree.walk place names := by
  induction names generalizing place with
  | nil => rfl
  | cons segment rest ih =>
    have hplace : later.node? place = tree.node? place := h [] List.nil_prefix
    rw [walk, walk, step_congr tree later place segment hplace]
    cases hstep : tree.step place segment with
    | error fault => rfl
    | ok next =>
      obtain ⟨-, -, rfl⟩ := (step_eq_ok_iff _ _ _ _).mp hstep
      apply ih
      intro init hinit
      exact h (segment :: init) ((List.prefix_cons_inj segment).mpr hinit)

theorem AgreeAlong.walk_eq {tree later : Tree} {path : String} (h : tree.AgreeAlong later path)
    (names : List String) (hnames : names <+: segments path) :
    later.walk (origin path) names = tree.walk (origin path) names := by
  apply walk_congr
  intro init hinit
  exact h.node?_foldl init (hinit.trans hnames)

/-- A path reads the same bytes, or fails for the same reason. -/
theorem AgreeAlong.read_eq {tree later : Tree} {path : String}
    (h : tree.AgreeAlong later path) : later.read path = tree.read path := by
  unfold read
  rw [h.walk_eq (segments path) List.prefix_rfl]
  cases nameFault? path with
  | some fault => rfl
  | none =>
    cases hwalk : tree.walk (origin path) (segments path) with
    | error fault => rfl
    | ok place =>
      obtain rfl := eq_foldl_advance_of_walk tree _ place _ hwalk
      have hnode := h.node?_foldl (segments path) List.prefix_rfl
      simp only [bind, Except.bind, hnode]

theorem readText_congr (tree later : Tree) (path : String) (h : later.read path = tree.read path) :
    later.readText path = tree.readText path := by
  rw [readText, readText, h]

/-- A write to the path takes the same place, or is refused for the same reason. -/
theorem AgreeAlong.target_eq {tree later : Tree} {path : String}
    (h : tree.AgreeAlong later path) : later.target path = tree.target path := by
  unfold target
  cases nameFault? path with
  | some fault => rfl
  | none =>
    cases hlast : (segments path).getLast? with
    | none => rfl
    | some name =>
      obtain ⟨init, hnames⟩ := List.getLast?_eq_some_iff.mp hlast
      have hinit : init <+: segments path := hnames ▸ List.prefix_append init [name]
      simp only [hnames, List.dropLast_concat, h.walk_eq init hinit]
      cases hwalk : tree.walk (origin path) init with
      | error fault => rfl
      | ok parent =>
        obtain rfl := eq_foldl_advance_of_walk tree _ parent _ hwalk
        have hparent := h.node?_foldl init hinit
        have hplace : ∀ place, tree.step (init.foldl advance (origin path)) name = .ok place →
            later.node? place = tree.node? place := by
          intro place hstep
          obtain ⟨-, -, rfl⟩ := (step_eq_ok_iff _ _ _ _).mp hstep
          simpa [List.foldl_append] using h.node?_foldl (init ++ [name]) (hnames ▸ List.prefix_rfl)
        simp only [bind, Except.bind, obstacle?_congr tree later _ hparent,
          step_congr tree later _ name hparent]
        cases hstep : tree.step (init.foldl advance (origin path)) name with
        | error fault => rfl
        | ok place => simp only [hplace place hstep]

/-- What a write needs is directories on the way and none at its end. -/
theorem target_of_keepsDirectories (tree later : Tree) (path : String) (place : Place)
    (h : tree.target path = .ok place) (hkept : tree.KeepsDirectories later)
    (hfree : later.node? place ≠ some .directory) : later.target path = .ok place := by
  obtain ⟨init, name, parent, hnamed, hslash, hdot, hdots, hnames, hparent, hstep, -⟩ :=
    (target_eq_ok_iff tree path place).mp h
  obtain ⟨hdirectory, hshort, hplace⟩ := (step_eq_ok_iff _ _ _ _).mp hstep
  have hwalk : later.walk (origin path) init = .ok parent :=
    walk_of_keepsDirectories tree later hkept _ parent init hparent
  have hlast : later.step parent name = .ok place :=
    (step_eq_ok_iff _ _ _ _).mpr ⟨hkept parent hdirectory, hshort, hplace⟩
  exact (target_eq_ok_iff later path place).mpr
    ⟨init, name, parent, hnamed, hslash, hdot, hdots, hnames, hwalk, hlast, hfree⟩

end Tree

end GuestCases.Files
