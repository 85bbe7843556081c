import NativeBuild.Containment
import NativeBuild.Proofs.FileTree.Resolution

/-
  What the containment check says about the tree. The canonical texts that it compares are those of
  the places where the two paths lead (`check_apply`), so its verdict is told by the two places
  alone, however the paths are spelled, and an accepted source directory survives the removal of the
  output directory (`check_decides`).

  That holds as long as the system takes the path of every link that is looked up on the way. A path
  may go up without end, and then a link that the system follows is not seen by the check
  (`check_misses_nested`).
-/

namespace NativeBuild

open NativeBuild.Path

namespace FileTree

/-- The tree after a directory was removed with everything below it. -/
def without (t : FileTree) (place : Location) : FileTree :=
  { t with entries := t.entries.filter fun entry => !place.isPrefixOf entry.place }

/-- Whatever is not below the directory stays. -/
theorem find?_without {t : FileTree} {place other : Location} (h : ¬ place <+: other) :
    (t.without place).find? other = t.find? other := by
  have hkept : (t.without place).entryAt? other = t.entryAt? other := by
    unfold entryAt? without
    dsimp only
    rw [List.find?_filter]
    congr 1
    funext entry
    by_cases hentry : entry.place = other
    · have hbegins : place.isPrefixOf other = false := by
        rw [← Bool.not_eq_true, List.isPrefixOf_iff_prefix]
        exact h
      simp [hentry, hbegins]
    · simp [hentry]
  unfold find?
  rw [hkept]

/-- Nothing that is below the directory stays. -/
theorem find?_without_below {t : FileTree} {place other : Location} (h : place <+: other)
    (hne : other ≠ []) : (t.without place).find? other = none := by
  rw [find?_of_ne_nil _ hne, Option.map_eq_none_iff, entryAt?, List.find?_eq_none]
  intro entry hentry heq
  have hplace : entry.place = other := by simpa using heq
  have hkept := (List.mem_filter.mp hentry).2
  rw [hplace, List.isPrefixOf_iff_prefix.mpr h] at hkept
  cases hkept

end FileTree

namespace Containment

/-! ## Paths that climb -/

/-- So many times `..`. -/
def climb (n : Nat) : String := "/".intercalate (List.replicate n "..")

/-- The path that goes up so many times. -/
def climbed (n : Nat) : Path := ⟨.relative, List.replicate n ".."⟩

theorem pieces_climb (n : Nat) : pieces (climb (n + 1)) = List.replicate (n + 1) ".." := by
  refine pieces_intercalate (by simp) fun name hname => ?_
  rw [List.eq_of_mem_replicate hname]
  exact part_up

theorem steps_climb (n : Nat) : FileTree.steps (climb (n + 1)) = List.replicate (n + 1) ".." := by
  have hlast : (List.replicate (n + 1) "..").getLast? ≠ some "" := by
    simp [List.getLast?_replicate]
  rw [FileTree.steps, pieces_climb, if_neg hlast, List.append_nil, List.filter_replicate_of_pos (by decide)]

theorem toString_climbed (n : Nat) (name : String) :
    ((climbed n).child name).toString = "/".intercalate (List.replicate n ".." ++ [name]) := by
  cases n <;> exact String.empty_append

theorem utf8ByteSize_climbed (n : Nat) (name : String) :
    ((climbed n).child name).toString.utf8ByteSize = 3 * n + name.utf8ByteSize := by
  rw [toString_climbed]
  induction n with
  | zero => simp
  | succ n ih =>
    rw [List.replicate_succ, List.cons_append, String.intercalate_cons_of_ne_nil (by simp),
      String.utf8ByteSize_append, String.utf8ByteSize_append, ih]
    rw [show "..".utf8ByteSize = 2 from rfl, show "/".utf8ByteSize = 1 from rfl]
    omega

theorem utf8ByteSize_climb (n : Nat) : (climb (n + 1)).utf8ByteSize = 3 * n + 2 := by
  rw [climb, List.replicate_succ', ← toString_climbed, utf8ByteSize_climbed]
  rfl

/-- From the root, going up stays at the root. -/
theorem spelled_climbed (t : FileTree) (n : Nat) : t.Spelled [] (climbed n) [] := by
  induction n with
  | zero => exact .start Anchor.noConfusion
  | succ n ih =>
    have hnext : climbed (n + 1) = (climbed n).child ".." := by
      simp [climbed, child, List.replicate_succ']
    rw [hnext]
    exact .up ih rfl rfl fun name hname => List.eq_of_mem_replicate hname

theorem up_climbed (n : Nat) : FileTree.up (climbed n) = climbed (n + 1) := by
  cases n with
  | zero => rfl
  | succ n => simp [FileTree.up, climbed, child, List.replicate_succ']

theorem descend_climb (t : FileTree) {follow : Bool}
    {onLink : Location → String → List String → Except Errno FileTree.Reached} (n : Nat)
    (rest : List String) :
    t.descend follow onLink [] (List.replicate n ".." ++ rest) = t.descend follow onLink [] rest := by
  induction n with
  | zero => rfl
  | succ n ih =>
    rw [List.replicate_succ, List.cons_append]
    exact (FileTree.descend_up rfl).trans ih

theorem resolvePieces_climb (t : FileTree) {cwd : Location}
    {enter : FileTree.KnownLinks → Path → String → Except Fault FileTree.Resolution}
    (known : FileTree.KnownLinks) (m n : Nat) :
    t.resolvePieces cwd enter known (climbed m) (List.replicate n "..") =
      .ok ⟨climbed (m + n), true, known⟩ := by
  induction n generalizing m with
  | zero => rfl
  | succ n ih =>
    rw [List.replicate_succ, FileTree.resolvePieces, if_neg (by decide), if_pos rfl, up_climbed, ih,
      Nat.succ_add_eq_add_succ]

/-- A last name that is no link is kept. -/
theorem resolvePieces_last {t : FileTree} {cwd : Location}
    {enter : FileTree.KnownLinks → Path → String → Except Fault FileTree.Resolution}
    {known : FileTree.KnownLinks} {p : Path} {name : String} (hname : Legal name)
    (hlast : t.linkTarget? cwd (p.child name) = none) :
    t.resolvePieces cwd enter known p [name] = .ok ⟨p.child name, true, known⟩ := by
  rw [FileTree.resolvePieces, if_neg (by simp [hname.plain.1]), if_neg hname.plain.2,
    if_neg hname.noNul]
  dsimp only
  rw [hlast]
  rfl

/-- The directory `/o/s`, a link `/n` to it, and a link `/u` that climbs. -/
def climbingTree (height : Nat) : FileTree where
  entries := [⟨["o"], 2, .directory 0o755⟩, ⟨["o", "s"], 3, .directory 0o755⟩,
    ⟨["n"], 4, .link "o/s"⟩, ⟨["u"], 5, .link (climb (height + 1))⟩]

section Climbing

variable (height : Nat)

/-- The system goes over the climbing link as if it were not there. -/
theorem walk_climb (links : Nat) (rest : List String) :
    (climbingTree height).walk true (links + 1) [] ("u" :: rest) =
      (climbingTree height).walk true links [] rest := by
  obtain ⟨onLink, hwalk⟩ := (climbingTree height).walk_eq_descend true links
  have hlooks : (climbingTree height).LooksUp [] "u" (.link (climb (height + 1))) :=
    ⟨rfl, by decide, rfl⟩
  have hlink : (climbingTree height).walk true (links + 1) [] ("u" :: rest) =
      (climbingTree height).walk true links [] (FileTree.steps (climb (height + 1)) ++ rest) := by
    rw [FileTree.walk]
    refine (FileTree.descend_link (by decide) hlooks).trans ?_
    rw [ite_self]
  rw [hlink, steps_climb, hwalk, hwalk, descend_climb]

theorem reach_climb : (climbingTree height).reach [] true "u/u/n" =
    .ok (.found ["o", "s"] (.directory 0o755)) := by
  have hsteps : FileTree.steps "u/u/n" = ["u", "u", "n"] := by decide
  rw [FileTree.reach, if_neg (by decide), if_neg (by decide), hsteps,
    show FileTree.linkLimit = 38 + 1 + 1 from rfl]
  exact (walk_climb height _ _).trans ((walk_climb height _ _).trans rfl)

/-- Resolving the climbing link goes up. -/
theorem resolvePieces_climbing {depth m : Nat} {known : FileTree.KnownLinks} {rest : List String}
    (hshort : 3 * m + 1 < FileTree.pathLimit)
    (hknown : known.lookup ((climbed m).child "u") = none) :
    (climbingTree height).resolvePieces [] (fun known p target =>
        (climbingTree height).resolve [] (depth + 1) known p (pieces target))
        known (climbed m) ("u" :: rest) =
      (climbingTree height).resolvePieces [] (fun known p target =>
        (climbingTree height).resolve [] (depth + 1) known p (pieces target))
        (((climbed m).child "u", some (climbed (m + (height + 1)))) ::
          ((climbed m).child "u", none) :: known) (climbed (m + (height + 1))) rest := by
  have hlink : (climbingTree height).linkTarget? [] ((climbed m).child "u") =
      some (climb (height + 1)) :=
    FileTree.linkTarget?_of_link (spelled_climbed _ m) (by decide) ⟨rfl, by decide, rfl⟩
      (by rw [utf8ByteSize_climbed]; exact hshort)
  have hentered : (climbingTree height).resolve [] (depth + 1)
      (((climbed m).child "u", none) :: known) (climbed m) (pieces (climb (height + 1))) =
      .ok ⟨climbed (m + (height + 1)), true, ((climbed m).child "u", none) :: known⟩ := by
    rw [pieces_climb]
    exact resolvePieces_climb _ _ _ _
  conv => lhs; rw [FileTree.resolvePieces]
  rw [if_neg (by decide), if_neg (by decide), if_neg (by decide)]
  dsimp only
  rw [hlink, hknown]
  dsimp only
  rw [hentered]

/-- The third link is looked up under a path that is too long, and is kept as it is. -/
theorem canonical_climb (hshort : 3 * (height + 1) + 1 < FileTree.pathLimit)
    (hlong : FileTree.pathLimit ≤ 3 * (2 * (height + 1)) + 1) :
    (climbingTree height).canonical [] "u/u/n" = .ok "/n" := by
  have hpieces : pieces "u/u/n" = ["u", "u", "n"] := by decide
  have hlimit : (climbingTree height).depthLimit = 2 * (FileTree.pathLimit / 3 + 2) + 1 := rfl
  obtain ⟨depth, hdepth⟩ : ∃ depth, (climbingTree height).depthLimit = depth + 1 + 1 :=
    ⟨2 * (FileTree.pathLimit / 3 + 1) + 1, by omega⟩
  -- once up the link, and twice
  have hshort' : 3 * (0 + (height + 1)) + 1 < FileTree.pathLimit := by omega
  have hother : ((climbed (0 + (height + 1))).child "u" == (climbed 0).child "u") = false :=
    beq_false_of_ne (by simp [climbed, child, List.replicate_succ])
  have hnew : List.lookup ((climbed (0 + (height + 1))).child "u")
      [((climbed 0).child "u", some (climbed (0 + (height + 1)))), ((climbed 0).child "u", none)] =
        none := by
    rw [List.lookup_cons, hother, List.lookup_cons, hother]
    rfl
  have hlast : (climbingTree height).linkTarget? []
      ((climbed (0 + (height + 1) + (height + 1))).child "n") = none := by
    refine FileTree.linkTarget?_of_long ?_
    rw [utf8ByteSize_climbed, show "n".utf8ByteSize = 1 from rfl]
    omega
  obtain ⟨known, hresolved⟩ : ∃ known, (climbingTree height).resolve []
      (climbingTree height).depthLimit [] ⟨.relative, []⟩ (pieces "u/u/n") =
      .ok ⟨(climbed (0 + (height + 1) + (height + 1))).child "n", true, known⟩ := by
    rw [hpieces, hdepth, FileTree.resolve]
    exact ⟨_, (resolvePieces_climbing height (m := 0) (by decide) rfl).trans
      ((resolvePieces_climbing height hshort' hnew).trans
        (resolvePieces_last (by decide) hlast))⟩
  have hplace : ((climbed (0 + (height + 1) + (height + 1))).child "n").locate [] = ["n"] := by
    rw [locate_child, (spelled_climbed (climbingTree height) _).locate]
    rfl
  rw [FileTree.canonical, hresolved]
  refine congrArg Except.ok ?_
  rw [absolute_eq_locate (by simp) (by simp [climbed, child]), hplace]
  rfl

end Climbing

/-! ## The verdict -/

/-- The refusal of a nested source directory. -/
def refusal : Except Failure Unit := .error ⟨.configuration nestedMessage, none⟩

/-- The text of the second place starts with the text of the first. -/
def Covers (outer inner : Location) : Prop :=
  (ofLocation outer).toString.toList <+: (ofLocation inner).toString.toList

variable {t : FileTree} {cwd sources products : Location} {source output : String}

theorem canonical_of_leadsTo (hlegal : t.NamesLegal) {mode : Nat}
    (hcwd : t.find? cwd = some (.directory mode)) {path : String} {place : Location}
    (h : t.LeadsTo cwd path place) (label : String) :
    canonical t cwd path label = .ok (ofLocation place).toString := by
  rw [canonical, h.canonical hlegal hcwd]

/-- The verdict on two paths is told by the places where they lead. -/
theorem check_apply (hlegal : t.NamesLegal) {mode : Nat}
    (hcwd : t.find? cwd = some (.directory mode)) (hsource : t.LeadsTo cwd source sources)
    (houtput : t.LeadsTo cwd output products) :
    check t cwd source output =
      if startsWith (ofLocation sources).toString (ofLocation products).toString then refusal
      else .ok () := by
  unfold check
  rw [canonical_of_leadsTo hlegal hcwd houtput, canonical_of_leadsTo hlegal hcwd hsource]
  rfl

/-- Sources are refused just when the text of their place starts with that of the output directory.
The verdict depends on the two places alone; it refuses sources that are the output directory or lie
anywhere below it, and what it accepts is not touched when the output directory is removed. -/
theorem check_decides (hlegal : t.NamesLegal) {mode : Nat}
    (hcwd : t.find? cwd = some (.directory mode)) (hsource : t.LeadsTo cwd source sources)
    (houtput : t.LeadsTo cwd output products) :
    (check t cwd source output = refusal ↔ Covers products sources) ∧
    (check t cwd source output = .ok () ↔ ¬ Covers products sources) ∧
    (∀ cwd' source' output' mode', t.find? cwd' = some (.directory mode') →
      t.LeadsTo cwd' source' sources → t.LeadsTo cwd' output' products →
      check t cwd' source' output' = check t cwd source output) ∧
    (products <+: sources → check t cwd source output = refusal) ∧
    (check t cwd source output = .ok () → ∀ place, place <+: sources →
      (t.without products).find? place = t.find? place) := by
  have hverdict := check_apply hlegal hcwd hsource houtput
  have hrefused : check t cwd source output = refusal ↔ Covers products sources := by
    rw [hverdict]
    unfold Covers
    rw [← startsWith_iff]
    cases startsWith (ofLocation sources).toString (ofLocation products).toString <;>
      simp [refusal]
  have haccepted : check t cwd source output = .ok () ↔ ¬ Covers products sources := by
    rw [hverdict]
    unfold Covers
    rw [← startsWith_iff]
    cases startsWith (ofLocation sources).toString (ofLocation products).toString <;>
      simp [refusal]
  refine ⟨hrefused, haccepted, fun cwd' source' output' mode' hcwd' hsource' houtput' => ?_,
    fun hbelow => hrefused.mpr (isPrefix_toString_ofLocation hbelow), fun hok place hplace => ?_⟩
  · rw [hverdict, check_apply hlegal hcwd' hsource' houtput']
  · refine FileTree.find?_without fun hproducts => haccepted.mp hok ?_
    exact isPrefix_toString_ofLocation (hproducts.trans hplace)

/-- The directories `/o/s` and `/x`, and a link to the first. -/
def linkedTree : FileTree where
  entries := [⟨["o"], 2, .directory 0o755⟩, ⟨["o", "s"], 3, .directory 0o755⟩,
    ⟨["x"], 4, .directory 0o755⟩, ⟨["n"], 5, .link "o/s"⟩]

theorem check_decides_linked :
    check linkedTree ["x"] "../n/." "/o//" = refusal ∧
      check linkedTree ["o"] "../n" "../x/." = .ok () ∧
      (linkedTree.without ["x"]).find? ["o", "s"] = some (.directory 0o755) := by
  have hlegal : linkedTree.NamesLegal := by decide
  have hsource : linkedTree.LeadsTo ["x"] "../n/." ["o", "s"] := ⟨⟨_, rfl⟩, by decide⟩
  have houtput : linkedTree.LeadsTo ["x"] "/o//" ["o"] := ⟨⟨_, rfl⟩, by decide⟩
  have hsource' : linkedTree.LeadsTo ["o"] "../n" ["o", "s"] := ⟨⟨_, rfl⟩, by decide⟩
  have houtput' : linkedTree.LeadsTo ["o"] "../x/." ["x"] := ⟨⟨_, rfl⟩, by decide⟩
  obtain ⟨-, -, -, hbelow, -⟩ := check_decides hlegal rfl hsource houtput
  obtain ⟨-, haccepted, -, -, hstays⟩ := check_decides hlegal rfl hsource' houtput'
  have hok := haccepted.mpr (by unfold Covers; decide)
  exact ⟨hbelow (by decide), hok, hstays hok ["o", "s"] (List.prefix_refl _)⟩

/-- A link that climbs keeps the check from seeing that the sources lie below the output directory,
although every text is one that the system takes. -/
theorem check_misses_nested :
    (climb 1000).utf8ByteSize < FileTree.pathLimit ∧ (climbingTree 999).NamesLegal ∧
      (climbingTree 999).find? [] = some (.directory 0o755) ∧
      (climbingTree 999).reach [] true "u/u/n" = .ok (.found ["o", "s"] (.directory 0o755)) ∧
      (climbingTree 999).reach [] true "o" = .ok (.found ["o"] (.directory 0o755)) ∧
      ["o"] <+: ["o", "s"] ∧ Covers ["o"] ["o", "s"] ∧
      check (climbingTree 999) [] "u/u/n" "o" = .ok () := by
  have hlegal : (climbingTree 999).NamesLegal := by decide
  have houtput : (climbingTree 999).reach [] true "o" = .ok (.found ["o"] (.directory 0o755)) := rfl
  have hsource := canonical_climb 999 (by decide) (by decide)
  have hleads : (climbingTree 999).LeadsTo [] "o" ["o"] := ⟨⟨_, houtput⟩, by decide⟩
  have hproducts : (climbingTree 999).canonical [] "o" = .ok "/o" := hleads.canonical hlegal rfl
  refine ⟨?_, hlegal, rfl, reach_climb 999, houtput, by decide, by unfold Covers; decide, ?_⟩
  · rw [utf8ByteSize_climb]
    decide
  · rw [check, canonical, hproducts, canonical, hsource]
    rfl

end Containment

end NativeBuild
