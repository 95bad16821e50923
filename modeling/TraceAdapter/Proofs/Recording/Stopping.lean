import TraceAdapter.Proofs.Launch.Success
import TraceAdapter.Proofs.Recording.Lines
import TraceAdapter.Proofs.Recording.Places
import TraceAdapter.Recording.Replay

/-!
# Where breakpoints stop in a recording

A breakpoint on a line stops at the instructions that the recording places on
that line of a file to which the requested path refers.  A breakpoint on a
function stops at the first instructions of its calls, or at the program counter
that its name is a number for.
-/

namespace TraceAdapter

open Breakpoint (Descriptor)

namespace Recording

theorem mem_paths_of_sourcePath? {r : Recording} {id : Nat} {path : String}
    (h : r.sourcePath? id = some path) : path ∈ r.paths := by
  rcases Option.map_eq_some_iff.mp h with ⟨source, hfind, rfl⟩
  exact List.mem_map_of_mem (List.mem_of_find?_eq_some hfind)

theorem PlacedAt.mem_paths {r : Recording} {entries : List Mapping} {pc : Nat}
    {place : SourceOffset} (h : r.PlacedAt entries pc place) :
    place.path ∈ r.paths := by
  rcases h with ⟨_, _, _, _, _, hpath, _⟩
  exact mem_paths_of_sourcePath? hpath

end Recording

namespace Replay

/-!
## Opened recordings

Running a replay and loading an ABI change nothing that was read when it was
opened.
-/

/-- The replay holds what is read from its files. -/
def Opened (r : Replay) : Prop :=
  ofFiles r.files r.target =
    .ok { r with steps := some r.recording.steps, abiFunctions := none }

theorem ofFiles_ok {files : Files} {target : Target} {r : Replay}
    (h : ofFiles files target = .ok r) :
    r.Opened ∧ r.steps = some r.recording.steps ∧
      r.texts = r.recording.paths.filterMap fun path =>
        (sourceText? files target.ethdebugDir path).map fun t => (path, t) := by
  unfold ofFiles at h
  cases hread : files.readText (Path.join target.ethdebugDir traceFile) with
  | error e =>
      simp only [hread] at h
      cases h
  | ok content =>
      cases hdecode : Json.read Recording.decode content with
      | error e =>
          simp only [hread, hdecode] at h
          cases h
      | ok recording =>
          simp only [hread, hdecode] at h
          cases h
          refine ⟨?_, rfl, rfl⟩
          unfold Opened ofFiles
          simp only [hread, hdecode]

theorem Opened.texts_eq {r : Replay} (h : r.Opened) :
    r.texts = r.recording.paths.filterMap fun path =>
      (sourceText? r.files r.target.ethdebugDir path).map fun t => (path, t) :=
  (ofFiles_ok h).2.2

theorem loadAbi_ok {r after : Replay} {path : String}
    (h : r.loadAbi path = .ok after) :
    exists names, after = { r with abiFunctions := names } := by
  unfold loadAbi at h
  cases hread : r.files.readText path with
  | error e =>
      simp only [hread] at h
      cases h
  | ok content =>
      cases hparse : Json.parse content with
      | error e =>
          simp only [hread, hparse] at h
          cases h
      | ok v =>
          cases hnames : Evm.ContractAbi.functionNames? v with
          | none =>
              simp only [hread, hparse, hnames] at h
              cases h
          | some names =>
              simp only [hread, hparse, hnames] at h
              cases h
              exact ⟨some names, rfl⟩

theorem withAbi_eq (r : Replay) (path : Option String) :
    exists names, Launch.withAbi r path = { r with abiFunctions := names } := by
  cases path with
  | none => exact ⟨r.abiFunctions, rfl⟩
  | some path =>
      cases hload : Debugger.loadAbi r path with
      | error e =>
          refine ⟨r.abiFunctions, ?_⟩
          simp only [Launch.withAbi, hload]
      | ok after =>
          simp only [Launch.withAbi, hload]
          exact loadAbi_ok hload

theorem withSnapshot_eq (r : Replay) (wanted : Bool) :
    Launch.withSnapshot r wanted = r := by
  cases wanted <;> rfl

theorem run_ok {r : Replay} {simulation : Simulation}
    (h : r.run.result = .ok simulation) :
    r.steps = some simulation.steps ∧
      simulation.functions = r.recording.functions ∧
      r.run.after = { r with steps := none } := by
  unfold run at h ⊢
  cases hforeign : r.foreignAddress? with
  | some recorded =>
      simp only [hforeign] at h
      cases h
  | none =>
      cases hsteps : r.steps with
      | none =>
          simp only [hforeign, hsteps] at h
          cases h
      | some steps =>
          simp only [hforeign, hsteps] at h
          cases h
          exact ⟨rfl, rfl, rfl⟩

/-- What a launch over recordings makes current was read from files, and its
trace and calls are the recorded ones. -/
theorem opened_of_launch {c : Launch.Collaborators Files Replay}
    (hcreate : c.create = ofFiles) {a : Protocol.LaunchArguments}
    {l : Launch.Launched Replay} (h : (Launch.launch c a).result = .ok l) :
    l.debugger.Opened ∧ l.simulation.steps = l.debugger.recording.steps ∧
      l.simulation.functions = l.debugger.recording.functions := by
  rcases Launch.launch_ok h with ⟨target, opened, files, _, hopen, hstart⟩
  rw [hcreate] at hopen
  rcases ofFiles_ok hopen with ⟨hopened, hsteps, _⟩
  rcases Launch.start_ok hstart with ⟨bound, hbound, hrun, hafter, _, _⟩
  rcases withAbi_eq opened target.abiPath with ⟨names, habi⟩
  rw [habi, withSnapshot_eq] at hbound
  subst hbound
  rcases run_ok hrun with ⟨htaken, hfunctions, hleft⟩
  have hdebugger :
      l.debugger = { opened with steps := none, abiFunctions := names } :=
    hafter.trans hleft
  rw [hdebugger]
  have hrecorded : some opened.recording.steps = some l.simulation.steps :=
    hsteps.symm.trans htaken
  exact ⟨hopened, (Option.some.inj hrecorded).symm, hfunctions⟩

/-!
## Lines of files
-/

def OnLine (r : Replay) (place : SourceOffset) (line : Nat) : Prop :=
  exists bytes,
    sourceBytes? r.files r.target.ethdebugDir place.path = some bytes ∧
      place.offset ≤ bytes.length ∧
      line = (SourceText.lineFeedsBefore bytes place.offset + 1) % Numeral.bound32

theorem text?_eq {r : Replay} (h : r.Opened) {path : String}
    (hpath : path ∈ r.recording.paths) :
    r.text? path = sourceText? r.files r.target.ethdebugDir path := by
  unfold text?
  rw [h.texts_eq]
  -- A source whose file is not found leaves no text, so a look-up passes it over.
  generalize r.recording.paths = paths at hpath
  induction paths with
  | nil => cases hpath
  | cons first rest ih =>
      cases htext : sourceText? r.files r.target.ethdebugDir first with
      | none =>
          rw [List.filterMap_cons_none (by simp [htext])]
          rcases List.mem_cons.mp hpath with rfl | hmem
          · rw [htext, Option.map_eq_none_iff, List.find?_eq_none]
            intro t ht hkey
            rcases List.mem_filterMap.mp ht with ⟨other, _, hother⟩
            rcases Option.map_eq_some_iff.mp hother with ⟨text, hfound, rfl⟩
            have hsame : other = path := eq_of_beq hkey
            rw [hsame, htext] at hfound
            cases hfound
          · exact ih hmem
      | some text =>
          rw [List.filterMap_cons_some (by rw [htext]; rfl)]
          by_cases hfirst : first = path
          · subst hfirst
            simp [htext]
          · rcases List.mem_cons.mp hpath with heq | hmem
            · exact absurd heq.symm hfirst
            · rw [List.find?_cons_of_neg (by simpa using hfirst)]
              exact ih hmem

theorem lineColumn?_iff {r : Replay} (h : r.Opened) {place : SourceOffset}
    (hpath : place.path ∈ r.recording.paths) {line : Nat} :
    (r.lineColumn? place.path place.offset).any (·.1 = line) = true ↔
      r.OnLine place line := by
  unfold lineColumn? OnLine
  rw [text?_eq h hpath]
  unfold sourceText?
  cases sourceBytes? r.files r.target.ethdebugDir place.path with
  | none => simp
  | some bytes =>
      have hline := SourceText.exists_lineColumn?_iff bytes place.offset line
      simp only [Option.map_some, Option.bind_some, Option.some.injEq,
        exists_eq_left', ← hline]
      cases (SourceText.ofBytes bytes).lineColumn? place.offset with
      | none => simp
      | some position =>
          rcases position with ⟨l, column⟩
          simp

/-!
## Breakpoints
-/

/-- Whether a breakpoint stops at a program counter. -/
def Hits (r : Replay) (d : Descriptor) (pc : Nat) : Prop :=
  match d with
  | .line path line =>
      exists place,
        r.recording.PlacedAt r.recording.instructions pc place ∧
          place.path ∈ Recording.matchingPaths r.recording.paths path ∧
          r.OnLine place line
  | .function name =>
      match Breakpoint.rawPc? name with
      | some raw => pc = raw
      | none =>
          exists f entry,
            f ∈ r.recording.functions.getD [] ∧ f.name = name ∧
              r.recording.steps[f.entryStep]? = some entry ∧ pc = entry.pc

theorem mem_pcsOnLine_iff {r : Replay} (h : r.Opened) {path : String}
    {line pc : Nat} : pc ∈ r.pcsOnLine path line ↔ r.Hits (.line path line) pc := by
  unfold pcsOnLine Hits
  constructor
  · intro hpc
    rcases List.mem_map.mp hpc with ⟨⟨found, place⟩, hfilter, rfl⟩
    rcases List.mem_filter.mp hfilter with ⟨hmem, htest⟩
    rw [Recording.places_eq,
      Recording.mem_iff_placeIn? (Recording.ascending_placesOf _ _),
      Recording.placeIn?_placesOf_eq_some_iff] at hmem
    rw [Bool.and_eq_true, List.contains_iff_mem] at htest
    exact ⟨place, hmem, htest.1, (lineColumn?_iff h hmem.mem_paths).mp htest.2⟩
  · rintro ⟨place, hplaced, hmatching, hline⟩
    refine List.mem_map.mpr ⟨(pc, place), List.mem_filter.mpr ⟨?_, ?_⟩, rfl⟩
    · rw [Recording.places_eq,
        Recording.mem_iff_placeIn? (Recording.ascending_placesOf _ _),
        Recording.placeIn?_placesOf_eq_some_iff]
      exact hplaced
    · rw [Bool.and_eq_true, List.contains_iff_mem]
      exact ⟨hmatching, (lineColumn?_iff h hplaced.mem_paths).mpr hline⟩

end Replay
end TraceAdapter
