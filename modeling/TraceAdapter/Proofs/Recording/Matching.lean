import TraceAdapter.Proofs.Recording.Reversing

/-!
# Sources to which a path refers

A requested path refers to the recorded sources in whose components it ends, and by
its file name only when there is none.  The empty path has no components, so every
path ends in it.
-/

namespace TraceAdapter

namespace Path

/-!
## Components
-/

theorem exists_splitSlashes_cons {c : Char} (h : c ≠ '/') (cs : List Char) :
    exists piece rest, splitSlashes (c :: cs) = (c :: piece) :: rest := by
  rw [splitSlashes.eq_3 c cs h]
  cases splitSlashes cs with
  | nil => exact ⟨[], [], rfl⟩
  | cons piece rest => exact ⟨piece, rest, rfl⟩

theorem components_ne_nil {p : String} (h : p ≠ "") : components p ≠ [] := by
  unfold components isAbsolute
  cases hchars : p.toList with
  | nil =>
      exfalso
      apply h
      apply String.toList_inj.mp
      rw [hchars]
      rfl
  | cons c cs =>
      by_cases hslash : c = '/'
      · subst hslash
        simp
      · rcases exists_splitSlashes_cons hslash cs with ⟨piece, rest, hpieces⟩
        rw [hpieces]
        by_cases hdot : c :: piece = ['.']
        · simp [hslash, hdot]
        · have hsays : exists part, Component.ofPiece? (c :: piece) = some part := by
            unfold Component.ofPiece?
            by_cases hparent : c :: piece = ['.', '.']
            · exact ⟨.parent, by rw [if_neg (by simp [hdot]), if_pos hparent]⟩
            · exact ⟨.name _, by rw [if_neg (by simp [hdot]), if_neg hparent]⟩
          rcases hsays with ⟨part, hpart⟩
          simp [hpart]

theorem endsWith_iff {p ending : String} :
    endsWith p ending = true ↔ components ending <:+ components p := by
  unfold endsWith
  exact List.isSuffixOf_iff_suffix

theorem endsWith_self (p : String) : endsWith p p = true :=
  endsWith_iff.mpr (List.suffix_refl _)

theorem endsWith_empty (p : String) : endsWith p "" = true :=
  endsWith_iff.mpr List.nil_suffix

/-- Two paths of which one ends in the other have one file name, if the other has any
components. -/
theorem fileName?_of_endsWith {p ending : String} (h : endsWith p ending = true)
    (hsome : ending ≠ "") : fileName? ending = fileName? p := by
  rcases endsWith_iff.mp h with ⟨front, hfront⟩
  unfold fileName?
  have hlast : (components ending).getLast? ≠ none := by
    intro hnone
    exact components_ne_nil hsome (List.getLast?_eq_none_iff.mp hnone)
  rw [← hfront, List.getLast?_append]
  cases hget : (components ending).getLast? with
  | none => exact absurd hget hlast
  | some part => rfl

end Path

namespace Recording

/-!
## Matching
-/

theorem exists_ending_or_none (recorded : List String) (requested : String) :
    (exists ending, ending ∈ recorded ∧ Path.endsWith requested ending = true) ∨
      forall other, other ∈ recorded -> Path.endsWith requested other = false := by
  by_cases hany : exists ending, ending ∈ recorded ∧ Path.endsWith requested ending = true
  · exact Or.inl hany
  · right
    intro other hother
    rw [← Bool.not_eq_true]
    intro hends
    exact hany ⟨other, hother, hends⟩

theorem mem_matchingPaths_of_ending {recorded : List String} {requested ending : String}
    (hending : ending ∈ recorded) (h : Path.endsWith requested ending = true)
    (source : String) :
    source ∈ matchingPaths recorded requested ↔
      source ∈ recorded ∧ Path.endsWith requested source = true := by
  have hsome : (recorded.filter fun p => Path.endsWith requested p).isEmpty = false := by
    rw [List.isEmpty_eq_false_iff]
    exact List.ne_nil_of_mem (List.mem_filter.mpr ⟨hending, h⟩)
  unfold matchingPaths
  dsimp only
  rw [hsome]
  exact List.mem_filter

theorem mem_matchingPaths_of_no_ending {recorded : List String} {requested name : String}
    (h : forall other, other ∈ recorded -> Path.endsWith requested other = false)
    (hname : Path.fileName? requested = some name) (source : String) :
    source ∈ matchingPaths recorded requested ↔
      source ∈ recorded ∧ Path.fileName? source = some name := by
  have hempty : (recorded.filter fun p => Path.endsWith requested p).isEmpty = true := by
    rw [List.isEmpty_iff, List.filter_eq_nil_iff]
    intro other hother
    simp [h other hother]
  unfold matchingPaths
  dsimp only
  rw [hempty, hname]
  simp

theorem mem_matchingPaths_of_endsWith {recorded : List String} {requested source : String}
    (hsource : source ∈ recorded) (h : Path.endsWith requested source = true) :
    source ∈ matchingPaths recorded requested :=
  (mem_matchingPaths_of_ending hsource h source).mpr ⟨hsource, h⟩

/-!
## Recorded paths
-/

/-- The components of one path are the last ones of another and not all of them. -/
def ProperEnding (source path : String) : Prop :=
  Path.components source <:+ Path.components path ∧
    Path.components source ≠ Path.components path

instance (source path : String) : Decidable (ProperEnding source path) :=
  inferInstanceAs (Decidable (_ ∧ _))

/-- Two paths denote one file, or one is a proper ending of the other. -/
theorem same_or_properEnding {path source : String}
    (h : Path.endsWith path source = true) :
    Path.components source = Path.components path ∨ ProperEnding source path := by
  by_cases hsame : Path.components source = Path.components path
  · exact Or.inl hsame
  · exact Or.inr ⟨Path.endsWith_iff.mp h, hsame⟩

end Recording

namespace Replay

theorem pcsOnLine_eq_nil_of_no_map {r : Replay} (h : r.sourceMap? = none) (path : String)
    (line : Nat) : r.pcsOnLine path line = [] := by
  unfold sourceMap? at h
  by_cases hplaces : r.recording.places.isEmpty
  · unfold pcsOnLine
    rw [List.isEmpty_iff.mp hplaces]
    rfl
  · rw [if_neg hplaces] at h
    cases h

theorem resolve_line_eq_ok_iff {r : Replay} {path : String} {line : Nat}
    {steps : List Step} {functions : Option (List Invocation)} {pcs : List Nat} :
    Debugger.resolve r (.line path line) steps functions = .ok pcs ↔
      pcs = r.pcsOnLine path line ∧ pcs ≠ [] := by
  change Breakpoint.resolve r.sourceMap? (.line path line) steps functions = .ok pcs ↔ _
  unfold Breakpoint.resolve
  cases hmap : r.sourceMap? with
  | none =>
      rw [pcsOnLine_eq_nil_of_no_map hmap]
      constructor
      · intro h
        cases h
      · rintro ⟨hpcs, hsome⟩
        exact absurd hpcs hsome
  | some map =>
      cases eq_lines_of_sourceMap? hmap
      change (if (r.pcsOnLine path line).isEmpty then _ else _) = _ ↔ _
      by_cases hempty : r.pcsOnLine path line = []
      · rw [if_pos (List.isEmpty_iff.mpr hempty), hempty]
        constructor
        · intro h
          cases h
        · rintro ⟨hpcs, hsome⟩
          exact absurd hpcs hsome
      · rw [if_neg (mt List.isEmpty_iff.mp hempty)]
        constructor
        · intro h
          cases h
          exact ⟨rfl, hempty⟩
        · rintro ⟨rfl, _⟩
          rfl

theorem exists_place_of_mem_pcsOnLine {r : Replay} {path : String} {line pc : Nat}
    (h : pc ∈ r.pcsOnLine path line) :
    exists place,
      r.place? pc = some place ∧ place.path ∈ r.recording.paths ∧
        place.path ∈ Recording.matchingPaths r.recording.paths path := by
  rcases mem_pcsOnLine_iff_line.mp h with ⟨source, hsource, hline⟩
  rcases line?_eq_some_iff.mp hline with ⟨place, hplace, rfl, _⟩
  exact ⟨place, hplace, (place?_eq_some_iff.mp hplace).mem_paths, hsource⟩

end Replay

namespace Recording

/-- A recorded path refers to itself, and to another file only when that one is a
proper ending of it; to every such file whose path is not empty it does refer.  So a
breakpoint on a line of it stops only in the file itself and in such files. -/
theorem recorded_path_refers {recorded : List String} {path : String}
    (h : path ∈ recorded) :
    path ∈ matchingPaths recorded path ∧
      (forall source, source ∈ matchingPaths recorded path ->
        source ∈ recorded ∧
          (Path.components source = Path.components path ∨ ProperEnding source path)) ∧
      (forall source, source ∈ recorded -> source ≠ "" -> ProperEnding source path ->
        source ∈ matchingPaths recorded path) ∧
      (forall r : Replay, r.recording.paths = recorded ->
        forall line steps functions pcs,
          Debugger.resolve r (.line path line) steps functions = .ok pcs ->
          forall pc, pc ∈ pcs ->
            exists place,
              r.place? pc = some place ∧ place.path ∈ recorded ∧
                (Path.components place.path = Path.components path ∨
                  ProperEnding place.path path)) := by
  refine ⟨?_, ?_, ?_, ?_⟩
  · exact mem_matchingPaths_of_endsWith h (Path.endsWith_self path)
  · intro source hsource
    rcases (mem_matchingPaths_of_ending h (Path.endsWith_self path) source).mp
      hsource with ⟨hrecorded, hends⟩
    exact ⟨hrecorded, same_or_properEnding hends⟩
  · intro source hsource _ hproper
    exact mem_matchingPaths_of_endsWith hsource (Path.endsWith_iff.mpr hproper.1)
  · rintro r rfl line steps functions pcs hresolve pc hpc
    rw [(Replay.resolve_line_eq_ok_iff.mp hresolve).1] at hpc
    rcases Replay.exists_place_of_mem_pcsOnLine hpc with ⟨place, hplace, hpath, hmatching⟩
    rcases (mem_matchingPaths_of_ending h (Path.endsWith_self path) _).mp hmatching with
      ⟨_, hends⟩
    exact ⟨place, hplace, hpath, same_or_properEnding hends⟩

/-- The path of a file in a directory refers to the file of that name above it, and not
to that in another directory. -/
theorem recorded_path_refers_nested :
    "src/Token.sol" ∈ matchingPaths ["src/Token.sol", "lib/Token.sol", "Token.sol"]
        "src/Token.sol" ∧
      "Token.sol" ∈ matchingPaths ["src/Token.sol", "lib/Token.sol", "Token.sol"]
        "src/Token.sol" ∧
      "lib/Token.sol" ∉ matchingPaths ["src/Token.sol", "lib/Token.sol", "Token.sol"]
        "src/Token.sol" := by
  have hrecorded : "src/Token.sol" ∈ ["src/Token.sol", "lib/Token.sol", "Token.sol"] :=
    List.mem_cons_self
  rcases recorded_path_refers hrecorded with ⟨hself, honly, hendings, _⟩
  refine ⟨hself, hendings "Token.sol" (by decide) (by decide) (by decide +kernel), ?_⟩
  intro hother
  exact absurd (honly "lib/Token.sol" hother).2 (by decide +kernel)

/-- A breakpoint on a line of one recorded file also stops in another, whose path is the
ending of its own. -/
theorem recorded_path_refers_to_other_file :
    exists r : Replay,
      r.Opened ∧ r.recording.paths = ["a", "b", "lib/a"] ∧
        "a" ∈ matchingPaths ["a", "b", "lib/a"] "lib/a" ∧
        Path.components "a" ≠ Path.components "lib/a" ∧
        Debugger.resolve r (.line "lib/a" 2) [] none = .ok [3, 7] ∧
        r.place? 7 = some ⟨"a", 1⟩ := by
  rcases Replay.Sample.exists_opened with ⟨r, hopened, hpaths, hplace, _, _, hpcs⟩
  refine ⟨r, hopened, hpaths, by decide +kernel, by decide +kernel, ?_, hplace⟩
  exact Replay.resolve_line_eq_ok_iff.mpr ⟨hpcs.symm, by decide⟩

/-!
## File names
-/

/-- The recorded sources to which a path refers have its file name, and there are some if
any recorded source has it. -/
def MatchesByName (recorded : List String) (requested name : String) : Prop :=
  (forall source, source ∈ matchingPaths recorded requested ->
      Path.fileName? source = some name) ∧
    (matchingPaths recorded requested = [] ↔
      forall source, source ∈ recorded -> Path.fileName? source ≠ some name)

theorem fileName?_of_mem_matchingPaths {recorded : List String}
    {requested name source : String} (h : Path.fileName? requested = some name)
    (hsource : source ∈ matchingPaths recorded requested) :
    source ∈ recorded ∧ (source ≠ "" -> Path.fileName? source = some name) := by
  rcases exists_ending_or_none recorded requested with ⟨ending, hending, hends⟩ | hnone
  · rcases (mem_matchingPaths_of_ending hending hends source).mp hsource with
      ⟨hrecorded, hsuffix⟩
    refine ⟨hrecorded, ?_⟩
    intro hsome
    rw [Path.fileName?_of_endsWith hsuffix hsome, h]
  · rcases (mem_matchingPaths_of_no_ending hnone h source).mp hsource with
      ⟨hrecorded, hsame⟩
    exact ⟨hrecorded, fun _ => hsame⟩

theorem matchingPaths_ne_nil_of_fileName? {recorded : List String}
    {requested name source : String} (h : Path.fileName? requested = some name)
    (hsource : source ∈ recorded) (hname : Path.fileName? source = some name) :
    matchingPaths recorded requested ≠ [] := by
  rcases exists_ending_or_none recorded requested with ⟨ending, hending, hends⟩ | hnone
  · exact List.ne_nil_of_mem (mem_matchingPaths_of_endsWith hending hends)
  · exact List.ne_nil_of_mem
      ((mem_matchingPaths_of_no_ending hnone h source).mpr ⟨hsource, hname⟩)

/-- Paths match by file name exactly if the empty path is not recorded.  Where it is,
every path refers to it, and to the others only as to endings of it. -/
theorem matchesByName_iff {recorded : List String} {requested name : String}
    (h : Path.fileName? requested = some name) :
    (MatchesByName recorded requested name ↔ "" ∉ recorded) ∧
      (forall source, source ∈ matchingPaths recorded requested -> source ≠ "" ->
        Path.fileName? source = some name) ∧
      ("" ∈ recorded ->
        forall source, source ∈ matchingPaths recorded requested ↔
          source ∈ recorded ∧ Path.endsWith requested source = true) := by
  refine ⟨⟨?_, ?_⟩, ?_, ?_⟩
  · rintro ⟨hnames, _⟩ hempty
    cases hnames "" (mem_matchingPaths_of_endsWith hempty (Path.endsWith_empty requested))
  · intro hempty
    have hnames : forall source, source ∈ matchingPaths recorded requested ->
        Path.fileName? source = some name := by
      intro source hsource
      rcases fileName?_of_mem_matchingPaths h hsource with ⟨hrecorded, hsame⟩
      apply hsame
      rintro rfl
      exact hempty hrecorded
    refine ⟨hnames, ?_, ?_⟩
    · intro hnil source hsource hname
      exact matchingPaths_ne_nil_of_fileName? h hsource hname hnil
    · intro hnone
      apply List.eq_nil_iff_forall_not_mem.mpr
      intro source hsource
      rcases fileName?_of_mem_matchingPaths h hsource with ⟨hrecorded, _⟩
      exact hnone source hrecorded (hnames source hsource)
  · intro source hsource
    exact (fileName?_of_mem_matchingPaths h hsource).2
  · intro hempty
    exact mem_matchingPaths_of_ending hempty (Path.endsWith_empty requested)

theorem matchesByName_iff_token :
    MatchesByName ["a/Token.sol", "b/Token.sol"] "/elsewhere/Token.sol" "Token.sol" ∧
      ¬ MatchesByName ["", "src/Token.sol"] "/work/Token.sol" "Token.sol" := by
  constructor
  · exact (matchesByName_iff (by decide +kernel)).1.mpr (by decide)
  · intro hmatches
    exact (matchesByName_iff (by decide +kernel)).1.mp hmatches List.mem_cons_self

/-- The empty path hides the source with the requested file name. -/
theorem matchingPaths_empty_hides :
    Path.fileName? "/work/Token.sol" = some "Token.sol" ∧
      Path.fileName? "src/Token.sol" = some "Token.sol" ∧
      matchingPaths ["", "src/Token.sol"] "/work/Token.sol" = [""] ∧
      Path.fileName? "" = none := by
  decide +kernel

end Recording
end TraceAdapter
