import NativeBuild.FileTree.Directory

/-
  Growth of a tree: whatever stood in it stands there still. Entries are made at places of their own
  and removed by nothing here, so a directory made with its missing parents only lets the tree grow
  (`grows_makeDirectories`), also when the way there breaks off.
-/

namespace NativeBuild.FileTree

/-- Whatever stands in the first tree stands in the second. -/
def Grows (t u : FileTree) : Prop :=
  ∀ place node, t.find? place = some node → u.find? place = some node

theorem Grows.refl (t : FileTree) : t.Grows t := fun _ _ h => h

theorem Grows.trans {t u v : FileTree} (h : t.Grows u) (h' : u.Grows v) : t.Grows v :=
  fun place node hn => h' place node (h place node hn)

theorem grows_add (t : FileTree) (place : Location) (node : Node) : t.Grows (t.add place node) := by
  intro other found hfound
  by_cases hroot : other = []
  · rw [hroot, find?_root] at hfound ⊢
    exact hfound
  · rw [find?_of_ne_nil _ hroot] at hfound ⊢
    unfold entryAt? at hfound ⊢
    rw [entries_add, List.find?_append]
    cases hentry : t.entries.find? fun entry => entry.place == other with
    | none =>
      rw [hentry] at hfound
      cases hfound
    | some entry =>
      rw [hentry] at hfound
      exact hfound

theorem grows_makeDirectory {t made : FileTree} {cwd : Location} {path : String} {mode : Nat}
    (h : t.makeDirectory cwd path mode = .ok made) : t.Grows made := by
  obtain ⟨parent, name, -, rfl⟩ := makeDirectory_eq_ok h
  exact grows_add _ _ _

theorem grows_makeAll (t : FileTree) (cwd : Location) (anchor : Path.Anchor) (names : List String) :
    t.Grows (t.makeAll cwd anchor names).2 := by
  induction names with
  | nil =>
    unfold makeAll
    dsimp only
    split
    · next made h => exact grows_makeDirectory h
    · exact .refl t
    · exact .refl t
  | cons name before ih =>
    unfold makeAll
    dsimp only
    split
    · next made h => exact grows_makeDirectory h
    · split
      · next e made hall =>
        rw [hall] at ih
        exact ih
      · next made hall =>
        rw [hall] at ih
        split
        · next done h => exact ih.trans (grows_makeDirectory h)
        · exact ih
        · exact ih
    · exact .refl t

/-- Making a directory and its missing parents removes nothing. -/
theorem grows_makeDirectories (t : FileTree) (cwd : Location) (p : Path) :
    t.Grows (t.makeDirectories cwd p).2 :=
  grows_makeAll t cwd p.anchor p.names.reverse

end NativeBuild.FileTree
