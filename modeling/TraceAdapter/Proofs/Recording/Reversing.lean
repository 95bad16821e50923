import TraceAdapter.Proofs.Recording.Stopping

/-!
# Program counters of a line

Looking up the program counters of a line takes back the lookup of the line of a
program counter, over all sources to which a path refers.
-/

namespace TraceAdapter

namespace Recording

theorem unplaced_append {r : Recording} {earlier later : List Mapping} {pc : Nat} :
    r.Unplaced (earlier ++ later) pc ↔ r.Unplaced earlier pc ∧ r.Unplaced later pc := by
  unfold Unplaced
  simp only [List.mem_append, or_imp, forall_and]

theorem placedAt_append {r : Recording} {earlier later : List Mapping} {pc : Nat}
    {place : SourceOffset} :
    r.PlacedAt (earlier ++ later) pc place ↔
      r.PlacedAt later pc place ∨ r.PlacedAt earlier pc place ∧ r.Unplaced later pc := by
  induction earlier with
  | nil =>
      have hnone : ¬ r.PlacedAt [] pc place := by
        rintro ⟨before, i, after, hsplit, _⟩
        simp at hsplit
      simp [hnone]
  | cons i rest ih =>
      rw [List.cons_append, placedAt_cons, placedAt_cons, ih, unplaced_append]
      constructor
      · rintro ((hlater | ⟨hrest, hnone⟩) | ⟨hpc, hpath, hoffset, hrest, hnone⟩)
        · exact Or.inl hlater
        · exact Or.inr ⟨Or.inl hrest, hnone⟩
        · exact Or.inr ⟨Or.inr ⟨hpc, hpath, hoffset, hrest⟩, hnone⟩
      · rintro (hlater | ⟨hrest | ⟨hpc, hpath, hoffset, hrest⟩, hnone⟩)
        · exact Or.inl (Or.inl hlater)
        · exact Or.inl (Or.inr ⟨hrest, hnone⟩)
        · exact Or.inr ⟨hpc, hpath, hoffset, hrest, hnone⟩

end Recording

namespace Replay

/-- The source map of a replay, also of one without places. -/
def lines (r : Replay) : SourceMap where
  place? := r.place?
  lineColumn? := r.lineColumn?
  pcsOnLine := r.pcsOnLine

theorem eq_lines_of_sourceMap? {r : Replay} {map : SourceMap}
    (h : r.sourceMap? = some map) : map = r.lines := by
  unfold sourceMap? at h
  by_cases hplaces : r.recording.places.isEmpty
  · rw [if_pos hplaces] at h
    cases h
  · rw [if_neg hplaces] at h
    cases h
    rfl

/-!
## Places and lines of program counters
-/

theorem place?_eq_some_iff {r : Replay} {pc : Nat} {place : SourceOffset} :
    r.place? pc = some place ↔ r.recording.PlacedAt r.recording.instructions pc place := by
  rw [← Recording.placeIn?_placesOf_eq_some_iff]
  rfl

theorem mem_places_iff {r : Replay} {pc : Nat} {place : SourceOffset} :
    (pc, place) ∈ r.recording.places ↔ r.place? pc = some place :=
  Recording.mem_iff_placeIn? (Recording.ascending_placesOf _ _)

theorem line?_eq_some_iff {r : Replay} {pc line : Nat} {source : String} :
    r.lines.line? pc = some (source, line) ↔
      exists place,
        r.place? pc = some place ∧ place.path = source ∧
          (r.lineColumn? place.path place.offset).any (·.1 = line) = true := by
  unfold SourceMap.line? lines
  dsimp only
  cases r.place? pc with
  | none => simp
  | some place =>
      cases hposition : r.lineColumn? place.path place.offset with
      | none => simp [hposition]
      | some position => simp [hposition]

theorem mem_pcsOnLine_iff_line {r : Replay} {path : String} {line pc : Nat} :
    pc ∈ r.pcsOnLine path line ↔
      exists source,
        source ∈ Recording.matchingPaths r.recording.paths path ∧
          r.lines.line? pc = some (source, line) := by
  unfold pcsOnLine
  simp only [line?_eq_some_iff, List.mem_map, List.mem_filter, Bool.and_eq_true,
    List.contains_iff_mem]
  constructor
  · rintro ⟨⟨found, place⟩, ⟨hplace, hmatching, hline⟩, rfl⟩
    exact ⟨place.path, hmatching, place, mem_places_iff.mp hplace, rfl, hline⟩
  · rintro ⟨_, hmatching, place, hplace, rfl, hline⟩
    exact ⟨(pc, place), ⟨mem_places_iff.mpr hplace, hmatching, hline⟩, rfl⟩

theorem pairwise_pcsOnLine (r : Replay) (path : String) (line : Nat) :
    (r.pcsOnLine path line).Pairwise (· < ·) := by
  have hascending : Recording.Ascending r.recording.places :=
    Recording.ascending_placesOf _ _
  unfold pcsOnLine
  exact hascending.sublist (List.filter_sublist.map Prod.fst)

theorem not_mem_pcsOnLine_of_no_file {r : Replay} (h : r.Opened) {pc : Nat}
    {place : SourceOffset} (hplace : r.place? pc = some place)
    (hfile : sourceText? r.files r.target.ethdebugDir place.path = none)
    (path : String) (line : Nat) : pc ∉ r.pcsOnLine path line := by
  intro hpc
  rcases mem_pcsOnLine_iff_line.mp hpc with ⟨source, _, hline⟩
  rcases line?_eq_some_iff.mp hline with ⟨found, hfound, _, hposition⟩
  cases hplace.symm.trans hfound
  have hpath := (place?_eq_some_iff.mp hplace).mem_paths
  unfold lineColumn? at hposition
  rw [text?_eq h hpath, hfile] at hposition
  cases hposition

/-- When a later entry gives a program counter a place, an earlier one puts it on no
line. -/
theorem mem_pcsOnLine_of_remapped {r : Replay} (h : r.Opened)
    {earlier later : List Recording.Mapping} {i : Recording.Mapping}
    (hsplit : r.recording.instructions = earlier ++ i :: later)
    (hlater : ¬ r.recording.Unplaced later i.pc) (path : String) (line : Nat) :
    i.pc ∈ r.pcsOnLine path line ↔
      exists place,
        r.recording.PlacedAt later i.pc place ∧
          place.path ∈ Recording.matchingPaths r.recording.paths path ∧
          r.OnLine place line := by
  have hlast : forall place,
      r.recording.PlacedAt r.recording.instructions i.pc place ↔
        r.recording.PlacedAt later i.pc place := by
    intro place
    rw [hsplit, List.append_cons, Recording.placedAt_append]
    simp [hlater]
  rw [mem_pcsOnLine_iff h]
  unfold Hits
  simp only [hlast]

/-- The program counters of a line ascend, and are those whose line is that one in a
source to which the path refers.  The line of a program counter is that of its last
entry with a known source, so entries before it put it on no line, and neither does
a source without a file. -/
theorem pcsOnLine_inverts_line {r : Replay} (h : r.Opened) (path : String)
    (line : Nat) :
    (forall map, r.sourceMap? = some map -> map = r.lines) ∧
      (r.pcsOnLine path line).Pairwise (· < ·) ∧
      (forall pc,
        pc ∈ r.pcsOnLine path line ↔
          exists source,
            source ∈ Recording.matchingPaths r.recording.paths path ∧
              r.lines.line? pc = some (source, line)) ∧
      (forall pc place,
        r.lines.place? pc = some place ↔
          r.recording.PlacedAt r.recording.instructions pc place) ∧
      (forall earlier i later,
        r.recording.instructions = earlier ++ i :: later ->
        ¬ r.recording.Unplaced later i.pc ->
        (i.pc ∈ r.pcsOnLine path line ↔
          exists place,
            r.recording.PlacedAt later i.pc place ∧
              place.path ∈ Recording.matchingPaths r.recording.paths path ∧
              r.OnLine place line)) ∧
      (forall pc place,
        r.lines.place? pc = some place ->
        sourceText? r.files r.target.ethdebugDir place.path = none ->
        pc ∉ r.pcsOnLine path line) := by
  refine ⟨?_, pairwise_pcsOnLine r path line, ?_, ?_, ?_, ?_⟩
  · intro map hmap
    exact eq_lines_of_sourceMap? hmap
  · intro pc
    exact mem_pcsOnLine_iff_line
  · intro pc place
    exact place?_eq_some_iff
  · intro earlier i later hsplit hlater
    exact mem_pcsOnLine_of_remapped h hsplit hlater path line
  · intro pc place hplace hfile
    exact not_mem_pcsOnLine_of_no_file h hplace hfile path line

/-!
## A recording with several entries for one program counter

The last entry for program counter 7 names no source, and the one before it takes the
place of the first.  The second source has no file, and the first path is the ending of
the third.
-/

namespace Sample

def mapping (pc sourceId offset : Nat) : Json.Value :=
  .object [("pc", .nat pc), ("sourceId", .nat sourceId), ("offset", .nat offset)]

def remapped : String :=
  Json.Value.print <|
    .object
      [("steps", .array []),
        ("sources",
          .object [("1", .string "a"), ("2", .string "b"), ("3", .string "lib/a")]),
        ("instructions",
          .array [mapping 7 1 0, mapping 5 2 1, mapping 7 1 1, mapping 7 9 0, mapping 3 3 1])]

def files : Files :=
  Files.ofList
    [("out/trace.json", .file remapped.toByteArray.data.toList),
      ("a", .file [SourceText.lineFeed]), ("lib/a", .file [SourceText.lineFeed])]

def target : Target where
  contractAddress := ""
  ethdebugDir := "out"
  rpcUrl := ""
  functionName := ""
  functionArgs := []
  abiPath := none

theorem exists_opened :
    exists r : Replay,
      r.Opened ∧ r.recording.paths = ["a", "b", "lib/a"] ∧
        r.place? 7 = some ⟨"a", 1⟩ ∧
        r.pcsOnLine "/work/a" 1 = [] ∧ r.pcsOnLine "/work/a" 2 = [7] ∧
        r.pcsOnLine "lib/a" 2 = [3, 7] := by
  have hanswers :
      ((ofFiles files target).toOption.map fun r =>
        (r.recording.paths, r.place? 7, r.pcsOnLine "/work/a" 1, r.pcsOnLine "/work/a" 2,
          r.pcsOnLine "lib/a" 2)) =
        some (["a", "b", "lib/a"], some ⟨"a", 1⟩, [], [7], [3, 7]) := by
    decide +kernel
  cases hopen : ofFiles files target with
  | error e =>
      rw [hopen] at hanswers
      cases hanswers
  | ok r =>
      rw [hopen] at hanswers
      simp only [Except.toOption, Option.map_some, Option.some.injEq, Prod.mk.injEq]
        at hanswers
      exact ⟨r, (ofFiles_ok hopen).1, hanswers⟩

end Sample

theorem pcsOnLine_inverts_line_remapped :
    exists r : Replay,
      r.Opened ∧ r.pcsOnLine "/work/a" 1 = [] ∧ r.pcsOnLine "/work/a" 2 = [7] ∧
        exists source,
          source ∈ Recording.matchingPaths r.recording.paths "/work/a" ∧
            r.lines.line? 7 = some (source, 2) := by
  rcases Sample.exists_opened with ⟨r, hopened, _, _, hfirst, hsecond, _⟩
  refine ⟨r, hopened, hfirst, hsecond, ?_⟩
  rcases pcsOnLine_inverts_line hopened "/work/a" 2 with ⟨_, _, hinverts, _⟩
  apply (hinverts 7).mp
  rw [hsecond]
  exact List.mem_cons_self

end Replay
end TraceAdapter
