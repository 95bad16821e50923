import Mathlib.Data.List.Induction
import Mathlib.Tactic.Push
import TraceAdapter.Proofs.History
import TraceAdapter.Proofs.Recording.Stopping
import TraceAdapter.Proofs.Text.Utf8

/-!
# Uses of a replay

A replay is run, loads ABIs and is asked about the source, in any order.  Its steps are
handed out by the first run and by no other, and by none when the recording is of another
contract.  An ABI counts for nothing but one line that a run prints, and what is told of
the source never changes.
-/

namespace TraceAdapter
namespace Replay

open History (Stands not_stands_nil stands_snoc)

inductive Use where
  | run
  | load (files : Files) (path : String)
  | ask

inductive Answer where
  | ran (printed : List UInt8) (result : Except Error Simulation)
  | loaded (fault? : Option Error)
  | told (map : Option SourceMap) (variables? : Option (Nat -> List VariableLocation))

def Use.loads : Use -> Bool
  | load _ _ => true
  | _ => false

def Answer.isLoaded : Answer -> Bool
  | loaded _ => true
  | _ => false

/-- Use a replay, which stays what it was when an ABI cannot be loaded. -/
def use (r : Replay) : Use -> Answer × Replay
  | .run => (.ran r.run.printed r.run.result, r.run.after)
  | .load files path =>
      match { r with files }.loadAbi path with
      | .ok after => (.loaded none, after)
      | .error e => (.loaded (some e), r)
  | .ask => (.told r.sourceMap? r.variables?, r)

def afterAll (r : Replay) (uses : List Use) : Replay := uses.foldl (fun r u => (r.use u).2) r

/-- What some uses come to, one after the other. -/
def answers : Replay -> List Use -> List Answer
  | _, [] => []
  | r, u :: rest => (r.use u).1 :: (r.use u).2.answers rest

theorem afterAll_snoc (r : Replay) (uses : List Use) (u : Use) :
    r.afterAll (uses ++ [u]) = ((r.afterAll uses).use u).2 :=
  List.foldl_append

theorem getElem?_answers (r : Replay) (uses : List Use) (i : Nat) :
    (r.answers uses)[i]? = (uses[i]?).map fun u => ((r.afterAll (uses.take i)).use u).1 := by
  induction uses generalizing r i with
  | nil => rfl
  | cons u rest ih =>
      cases i with
      | zero => rfl
      | succ i => exact ih (r.use u).2 i

/-!
## What a load gives
-/

/-- An ABI file gives some names of functions to every replay that loads it. -/
def Gives (files : Files) (path : String) (names : List String) : Prop :=
  forall r : Replay,
    { r with files }.loadAbi path = .ok { r with files, abiFunctions := some names }

/-- An ABI file can be loaded by no replay. -/
def Refused (files : Files) (path : String) (e : Error) : Prop :=
  forall r : Replay, { r with files }.loadAbi path = .error e

theorem gives_or_refused (files : Files) (path : String) :
    (exists names, Gives files path names) ∨ exists e, Refused files path e := by
  unfold Gives Refused loadAbi
  cases hread : files.readText path with
  | error e => exact Or.inr ⟨_, fun r => by simp only [hread]; rfl⟩
  | ok content =>
      cases hparse : Json.parse content with
      | error e => exact Or.inr ⟨_, fun r => by simp only [hread, hparse]; rfl⟩
      | ok v =>
          cases hnames : Evm.ContractAbi.functionNames? v with
          | none => exact Or.inr ⟨_, fun r => by simp only [hread, hparse, hnames]; rfl⟩
          | some names => exact Or.inl ⟨names, fun r => by simp only [hread, hparse, hnames]⟩

theorem Gives.unique {files : Files} {path : String} {names other : List String}
    (h : Gives files path names) (h' : Gives files path other) (r : Replay) :
    names = other := by
  have hsame := (h r).symm.trans (h' r)
  simpa using hsame

theorem use_load_of_gives {files : Files} {path : String} {names : List String}
    (h : Gives files path names) (r : Replay) :
    r.use (.load files path) = (.loaded none, { r with files, abiFunctions := some names }) := by
  unfold use
  simp only [h r]

theorem use_load_of_refused {files : Files} {path : String} {e : Error}
    (h : Refused files path e) (r : Replay) :
    r.use (.load files path) = (.loaded (some e), r) := by
  unfold use
  simp only [h r]

/-!
## What a run does
-/

/-- The recorded address is another than that of the target, the case of letters apart. -/
def Foreign (recording : Recording) (target : Target) : Prop :=
  exists address, recording.contractAddress = some address ∧
    Text.lowerAscii address ≠ Text.lowerAscii target.contractAddress

def replayedBefore : Error := .simulation "trace has already been replayed"

theorem foreignAddress?_eq_some_iff {r : Replay} {address : String} :
    r.foreignAddress? = some address ↔
      r.recording.contractAddress = some address ∧
        Text.lowerAscii address ≠ Text.lowerAscii r.target.contractAddress := by
  unfold foreignAddress? Text.sameIgnoringCase
  rw [Option.filter_eq_some_iff]
  simp

theorem foreignAddress?_eq_none_iff {r : Replay} :
    r.foreignAddress? = none ↔ ¬ Foreign r.recording r.target := by
  rw [Option.eq_none_iff_forall_ne_some]
  simp only [ne_eq, foreignAddress?_eq_some_iff]
  exact not_exists.symm

def recordedElsewhere (r : Replay) : Error :=
  .simulation <|
    r.tracePath ++ " was recorded for " ++ r.recording.contractAddress.getD "" ++ ", not " ++
      r.target.contractAddress

theorem run_of_foreign {r : Replay} (h : Foreign r.recording r.target) :
    r.run = ⟨[], .error r.recordedElsewhere, r⟩ := by
  rcases h with ⟨address, haddress⟩
  unfold run recordedElsewhere
  rw [foreignAddress?_eq_some_iff.mpr haddress, haddress.1]
  rfl

theorem run_of_steps {r : Replay} (h : ¬ Foreign r.recording r.target) {steps : List Step}
    (hsteps : r.steps = some steps) :
    r.run = ⟨Utf8.encode (r.warning ++ r.report steps), .ok ⟨steps, r.recording.functions⟩,
      { r with steps := none }⟩ := by
  unfold run
  rw [foreignAddress?_eq_none_iff.mpr h, hsteps]

theorem run_of_no_steps {r : Replay} (h : ¬ Foreign r.recording r.target)
    (hsteps : r.steps = none) :
    r.run = ⟨Utf8.encode r.warning, .error replayedBefore, r⟩ := by
  unfold run
  rw [foreignAddress?_eq_none_iff.mpr h, hsteps]
  rfl

/-!
## What uses leave as it was
-/

/-- A replay differs from another at most in its steps and in what was loaded. -/
def Kept (r after : Replay) : Prop :=
  after =
    { r with files := after.files, steps := after.steps, abiFunctions := after.abiFunctions }

namespace Kept

variable {r after last : Replay}

theorem refl (r : Replay) : Kept r r := rfl

theorem symm (h : Kept r after) : Kept after r := by
  unfold Kept
  rw [h]

theorem trans (h : Kept r after) (hlast : Kept after last) : Kept r last := by
  unfold Kept at hlast
  rw [h] at hlast
  exact hlast

theorem target_eq (h : Kept r after) : after.target = r.target := by
  rw [h]

theorem recording_eq (h : Kept r after) : after.recording = r.recording := by
  rw [h]

theorem report_eq (h : Kept r after) (steps : List Step) :
    after.report steps = r.report steps := by
  rw [h]
  rfl

theorem recordedElsewhere_eq (h : Kept r after) :
    after.recordedElsewhere = r.recordedElsewhere := by
  rw [h]
  rfl

theorem sourceMap?_eq (h : Kept r after) : after.sourceMap? = r.sourceMap? := by
  rw [h]
  rfl

theorem variables?_eq (h : Kept r after) : after.variables? = r.variables? := by
  rw [h]
  rfl

theorem foreign_iff (h : Kept r after) :
    Foreign after.recording after.target ↔ Foreign r.recording r.target := by
  rw [h.recording_eq, h.target_eq]

end Kept

theorem kept_use (r : Replay) (u : Use) : Kept r (r.use u).2 := by
  cases u with
  | run =>
      by_cases hforeign : Foreign r.recording r.target
      · show Kept r r.run.after
        rw [run_of_foreign hforeign]
        exact Kept.refl r
      · show Kept r r.run.after
        cases hsteps : r.steps with
        | none =>
            rw [run_of_no_steps hforeign hsteps]
            exact Kept.refl r
        | some steps =>
            rw [run_of_steps hforeign hsteps]
            rfl
  | load files path =>
      rcases gives_or_refused files path with ⟨names, hnames⟩ | ⟨e, he⟩
      · rw [use_load_of_gives hnames]
        rfl
      · rw [use_load_of_refused he]
        exact Kept.refl r
  | ask => exact Kept.refl r

theorem kept_afterAll (r : Replay) (uses : List Use) : Kept r (r.afterAll uses) := by
  induction uses using List.reverseRecOn with
  | nil => exact Kept.refl r
  | append_singleton uses u ih =>
      rw [afterAll_snoc]
      exact ih.trans (kept_use _ u)

/-!
## Steps are handed out once
-/

theorem steps_use_of_ne_run {u : Use} (h : u ≠ .run) (r : Replay) :
    (r.use u).2.steps = r.steps := by
  cases u with
  | run => exact absurd rfl h
  | load files path =>
      rcases gives_or_refused files path with ⟨names, hnames⟩ | ⟨e, he⟩
      · rw [use_load_of_gives hnames]
      · rw [use_load_of_refused he]
  | ask => rfl

theorem steps_use_of_foreign {r : Replay} (h : Foreign r.recording r.target) (u : Use) :
    (r.use u).2.steps = r.steps := by
  by_cases hu : u = .run
  · subst hu
    show r.run.after.steps = r.steps
    rw [run_of_foreign h]
  · exact steps_use_of_ne_run hu r

theorem steps_use_run {r : Replay} (h : ¬ Foreign r.recording r.target) :
    (r.use .run).2.steps = none := by
  show r.run.after.steps = none
  cases hsteps : r.steps with
  | none => rw [run_of_no_steps h hsteps, hsteps]
  | some steps => rw [run_of_steps h hsteps]

theorem steps_afterAll_of_foreign {r : Replay} (h : Foreign r.recording r.target)
    (uses : List Use) : (r.afterAll uses).steps = r.steps := by
  induction uses using List.reverseRecOn with
  | nil => rfl
  | append_singleton uses u ih =>
      have hforeign := (kept_afterAll r uses).foreign_iff.mpr h
      rw [afterAll_snoc, steps_use_of_foreign hforeign, ih]

theorem steps_afterAll_of_not_mem {uses : List Use} (h : .run ∉ uses) (r : Replay) :
    (r.afterAll uses).steps = r.steps := by
  induction uses using List.reverseRecOn with
  | nil => rfl
  | append_singleton uses u ih =>
      rw [List.mem_append, not_or, List.mem_singleton] at h
      rw [afterAll_snoc, steps_use_of_ne_run (Ne.symm h.2), ih h.1]

theorem steps_afterAll_of_mem {r : Replay} (hown : ¬ Foreign r.recording r.target)
    {uses : List Use} (h : .run ∈ uses) : (r.afterAll uses).steps = none := by
  induction uses using List.reverseRecOn with
  | nil => cases h
  | append_singleton uses u ih =>
      have hstill : ¬ Foreign (r.afterAll uses).recording (r.afterAll uses).target :=
        fun hforeign => hown ((kept_afterAll r uses).foreign_iff.mp hforeign)
      rw [afterAll_snoc]
      by_cases hu : u = .run
      · rw [hu]
        exact steps_use_run hstill
      · have hbefore : .run ∈ uses := by
          rcases List.mem_append.mp h with hmem | hlast
          · exact hmem
          · exact absurd (List.mem_singleton.mp hlast).symm hu
        rw [steps_use_of_ne_run hu, ih hbefore]

/-!
## Names in force
-/

/-- A use puts names of functions in force. -/
def Loads (names : List String) (u : Use) : Prop :=
  exists files path, u = .load files path ∧ Gives files path names

/-- Names of functions are in force after some uses: they are those of the last ABI that
could be loaded. -/
def InForce (uses : List Use) (names : List String) : Prop :=
  Stands (Loads names) (fun u => exists other, Loads other u) uses

theorem abiFunctions_use_of_loads {u : Use} {names : List String} (h : Loads names u)
    (r : Replay) : (r.use u).2.abiFunctions = some names := by
  rcases h with ⟨files, path, rfl, hnames⟩
  rw [use_load_of_gives hnames]

theorem abiFunctions_use_of_not_loads {u : Use} (h : ¬ exists names, Loads names u)
    (r : Replay) : (r.use u).2.abiFunctions = r.abiFunctions := by
  cases u with
  | run =>
      show r.run.after.abiFunctions = r.abiFunctions
      unfold run
      split
      · rfl
      · split <;> rfl
  | load files path =>
      rcases gives_or_refused files path with ⟨names, hnames⟩ | ⟨e, he⟩
      · exact absurd ⟨names, files, path, rfl, hnames⟩ h
      · rw [use_load_of_refused he]
  | ask => rfl

theorem abiFunctions_afterAll_iff {r : Replay} (h : r.abiFunctions = none) (uses : List Use)
    (names : List String) :
    (r.afterAll uses).abiFunctions = some names ↔ InForce uses names := by
  induction uses using List.reverseRecOn with
  | nil =>
      rw [show (r.afterAll []).abiFunctions = none from h]
      exact iff_of_false nofun not_stands_nil
  | append_singleton uses u ih =>
      unfold InForce at ih ⊢
      rw [afterAll_snoc, stands_snoc, ← ih]
      by_cases hloads : exists other, Loads other u
      · rcases hloads with ⟨other, hother⟩
        rw [abiFunctions_use_of_loads hother, Option.some.injEq]
        constructor
        · rintro rfl
          exact Or.inl hother
        · rintro (hnames | ⟨_, hnone⟩)
          · rcases hother with ⟨files, path, rfl, hgives⟩
            rcases hnames with ⟨files', path', hsame, hgives'⟩
            cases hsame
            exact hgives.unique hgives' r
          · exact absurd ⟨other, hother⟩ hnone
      · have hnot : ¬ Loads names u := fun hnames => hloads ⟨names, hnames⟩
        rw [abiFunctions_use_of_not_loads hloads, or_iff_right hnot, and_iff_left hloads]

/-!
## The line about the ABI
-/

def bareName (target : Target) : String := Text.before '(' target.functionName

/-- What is printed of a target function that the names in force do not have. -/
def warningLine (target : Target) : String :=
  s!"Warning: function '{bareName target}' not found in ABI\n"

/-- Names are in force, and that of the target function is not among them. -/
def Unknown (uses : List Use) (target : Target) : Prop :=
  exists names, InForce uses names ∧ bareName target ≠ "" ∧ bareName target ∉ names

theorem warning_of_unknown {r : Replay} {names : List String}
    (h : r.abiFunctions = some names) (hname : bareName r.target ≠ "")
    (hnot : bareName r.target ∉ names) : r.warning = warningLine r.target := by
  unfold warning
  rw [h]
  dsimp only
  rw [if_pos (by simpa [bareName] using And.intro hname hnot)]
  rfl

theorem warning_eq_empty {r : Replay}
    (h : forall names, r.abiFunctions = some names ->
      bareName r.target ≠ "" -> bareName r.target ∈ names) : r.warning = "" := by
  unfold warning
  split
  · rfl
  · rename_i names hnames
    dsimp only
    rw [if_neg]
    simpa [bareName] using h names hnames

theorem warning_cases (r : Replay) : r.warning = "" ∨ r.warning = warningLine r.target := by
  by_cases hknown : forall names, r.abiFunctions = some names ->
      bareName r.target ≠ "" -> bareName r.target ∈ names
  · exact Or.inl (warning_eq_empty hknown)
  · push Not at hknown
    rcases hknown with ⟨names, hnames, hname, hnot⟩
    exact Or.inr (warning_of_unknown hnames hname hnot)

/-!
## Runs of a history
-/

variable {r : Replay} {uses : List Use} {i : Nat}

theorem use_eq_run_of_answer {printed : List UInt8} {result : Except Error Simulation}
    (h : (r.answers uses)[i]? = some (.ran printed result)) : uses[i]? = some .run := by
  rw [getElem?_answers, Option.map_eq_some_iff] at h
  rcases h with ⟨u, hu, hanswer⟩
  rw [hu]
  cases u with
  | run => rfl
  | load files path =>
      rcases gives_or_refused files path with ⟨names, hnames⟩ | ⟨e, he⟩
      · rw [use_load_of_gives hnames] at hanswer
        cases hanswer
      · rw [use_load_of_refused he] at hanswer
        cases hanswer
  | ask => cases hanswer

theorem answer_run (h : uses[i]? = some .run) :
    (r.answers uses)[i]? =
      some (.ran (r.afterAll (uses.take i)).run.printed (r.afterAll (uses.take i)).run.result) := by
  rw [getElem?_answers, h]
  rfl

theorem answer_ask (h : uses[i]? = some .ask) :
    (r.answers uses)[i]? = some (.told r.sourceMap? r.variables?) := by
  have hkept := kept_afterAll r (uses.take i)
  rw [getElem?_answers, h, ← hkept.sourceMap?_eq, ← hkept.variables?_eq]
  rfl

theorem answer_run_of_foreign (hforeign : Foreign r.recording r.target)
    (h : uses[i]? = some .run) :
    (r.answers uses)[i]? = some (.ran [] (.error r.recordedElsewhere)) := by
  have hkept := kept_afterAll r (uses.take i)
  rw [answer_run h, run_of_foreign (hkept.foreign_iff.mpr hforeign),
    hkept.recordedElsewhere_eq]

theorem answer_first_run (hown : ¬ Foreign r.recording r.target) {steps : List Step}
    (hsteps : r.steps = some steps) (h : uses[i]? = some .run) (hfirst : .run ∉ uses.take i) :
    (r.answers uses)[i]? =
      some (.ran (Utf8.encode ((r.afterAll (uses.take i)).warning ++ r.report steps))
        (.ok ⟨steps, r.recording.functions⟩)) := by
  have hkept := kept_afterAll r (uses.take i)
  have hleft := (steps_afterAll_of_not_mem hfirst r).trans hsteps
  rw [answer_run h, run_of_steps (hown ∘ hkept.foreign_iff.mp) hleft, hkept.report_eq,
    hkept.recording_eq]

theorem answer_later_run (hown : ¬ Foreign r.recording r.target) (h : uses[i]? = some .run)
    (hlater : .run ∈ uses.take i) :
    (r.answers uses)[i]? =
      some (.ran (Utf8.encode (r.afterAll (uses.take i)).warning) (.error replayedBefore)) := by
  have hkept := kept_afterAll r (uses.take i)
  rw [answer_run h,
    run_of_no_steps (hown ∘ hkept.foreign_iff.mp) (steps_afterAll_of_mem hown hlater)]

theorem mem_take_of_lt {j : Nat} (h : uses[i]? = some .run) (hlt : i < j) :
    .run ∈ uses.take j := by
  rw [List.mem_iff_getElem?]
  exact ⟨i, (List.getElem?_take_of_lt hlt).trans h⟩

/-- A run that succeeds hands out the recorded steps, and is the first. -/
theorem first_of_success (hsteps : r.steps = some r.recording.steps) {printed : List UInt8}
    {simulation : Simulation} (h : (r.answers uses)[i]? = some (.ran printed (.ok simulation))) :
    simulation = ⟨r.recording.steps, r.recording.functions⟩ ∧ .run ∉ uses.take i := by
  have hrun := use_eq_run_of_answer h
  by_cases hforeign : Foreign r.recording r.target
  · rw [answer_run_of_foreign hforeign hrun] at h
    cases h
  · by_cases hlater : .run ∈ uses.take i
    · rw [answer_later_run hforeign hrun hlater] at h
      cases h
    · rw [answer_first_run hforeign hsteps hrun hlater] at h
      cases h
      exact ⟨rfl, hlater⟩

/-!
## Histories without loads
-/

/-- Two answers are alike, but for the line about the ABI that one run prints first. -/
inductive SameButWarned (target : Target) : Answer -> Answer -> Prop where
  | same (answer : Answer) : SameButWarned target answer answer
  | warned (printed : List UInt8) (result : Except Error Simulation) :
      SameButWarned target (.ran (Utf8.encode (warningLine target) ++ printed) result)
        (.ran printed result)

theorem sameButWarned_run {q r : Replay} (h : Kept q r) (hsteps : r.steps = q.steps)
    (hnone : q.abiFunctions = none) :
    SameButWarned q.target (.ran r.run.printed r.run.result) (.ran q.run.printed q.run.result) := by
  have hquiet : q.warning = "" := warning_eq_empty fun names hnames => by
    rw [hnone] at hnames
    cases hnames
  have hwarned (text : String) (result : Except Error Simulation) :
      SameButWarned q.target (.ran (Utf8.encode (r.warning ++ text)) result)
        (.ran (Utf8.encode (q.warning ++ text)) result) := by
    rw [hquiet, String.empty_append, Utf8.encode_append]
    rcases warning_cases r with hr | hr
    · rw [hr]
      exact .same _
    · rw [hr, h.target_eq]
      exact .warned _ _
  by_cases hforeign : Foreign q.recording q.target
  · rw [run_of_foreign (h.foreign_iff.mpr hforeign), run_of_foreign hforeign,
      h.recordedElsewhere_eq]
    exact .same _
  · have hforeign' := hforeign ∘ h.foreign_iff.mp
    cases hleft : q.steps with
    | none =>
        rw [run_of_no_steps hforeign' (hsteps.trans hleft), run_of_no_steps hforeign hleft]
        simpa using hwarned "" (.error replayedBefore)
    | some steps =>
        rw [run_of_steps hforeign' (hsteps.trans hleft), run_of_steps hforeign hleft,
          h.report_eq, h.recording_eq]
        exact hwarned _ _

theorem steps_use_run_eq {q r : Replay} (h : Kept q r) (hsteps : r.steps = q.steps) :
    (r.use .run).2.steps = (q.use .run).2.steps := by
  by_cases hforeign : Foreign q.recording q.target
  · rw [steps_use_of_foreign hforeign, steps_use_of_foreign (h.foreign_iff.mpr hforeign), hsteps]
  · rw [steps_use_run hforeign, steps_use_run (hforeign ∘ h.foreign_iff.mp)]

/-- Two replays that differ at most in what they loaded, one of which loads nothing. -/
theorem forall₂_without_loads {q r : Replay} (h : Kept q r) (hsteps : r.steps = q.steps)
    (hnone : q.abiFunctions = none) (uses : List Use) :
    List.Forall₂ (SameButWarned q.target) ((r.answers uses).filter (! ·.isLoaded))
      (q.answers (uses.filter (! ·.loads))) := by
  induction uses generalizing q r with
  | nil => exact .nil
  | cons u rest ih =>
      have hkept := (kept_use q u).target_eq
      cases u with
      | run =>
          have hafter : (q.use .run).2.abiFunctions = none := by
            rw [abiFunctions_use_of_not_loads _ q, hnone]
            rintro ⟨names, files, path, hload, _⟩
            cases hload
          have hstill : Kept (q.use .run).2 (r.use .run).2 :=
            (kept_use q .run).symm.trans (h.trans (kept_use r .run))
          have hrest := ih hstill (steps_use_run_eq h hsteps) hafter
          rw [hkept] at hrest
          exact .cons (sameButWarned_run h hsteps hnone) hrest
      | load files path =>
          have hgone : (r.answers (.load files path :: rest)).filter (! ·.isLoaded) =
              ((r.use (.load files path)).2.answers rest).filter (! ·.isLoaded) := by
            rcases gives_or_refused files path with ⟨names, hnames⟩ | ⟨e, he⟩
            · rw [answers, use_load_of_gives hnames]
              rfl
            · rw [answers, use_load_of_refused he]
              rfl
          have hload : Use.load files path ≠ .run := by
            intro hrun
            cases hrun
          rw [hgone]
          exact ih (h.trans (kept_use r _)) ((steps_use_of_ne_run hload r).trans hsteps) hnone
      | ask =>
          have htold : r.use .ask = (.told q.sourceMap? q.variables?, r) := by
            rw [← h.sourceMap?_eq, ← h.variables?_eq]
            rfl
          show List.Forall₂ _ (((r.use .ask).1 :: (r.use .ask).2.answers rest).filter _) _
          rw [htold]
          exact .cons (.same _) (ih h hsteps hnone)

theorem opened_eq {files : Files} {target : Target} {r : Replay}
    (h : ofFiles files target = .ok r) :
    r.target = target ∧ r.steps = some r.recording.steps ∧ r.abiFunctions = none := by
  unfold ofFiles at h
  dsimp only at h
  split at h
  · cases h
  · split at h
    · cases h
    · cases h
      exact ⟨rfl, rfl, rfl⟩

theorem warning_afterAll (h : r.abiFunctions = none) (uses : List Use) :
    (Unknown uses r.target -> (r.afterAll uses).warning = warningLine r.target) ∧
      (¬ Unknown uses r.target -> (r.afterAll uses).warning = "") := by
  have htarget := (kept_afterAll r uses).target_eq
  constructor
  · rintro ⟨names, hnames, hname, hnot⟩
    rw [← htarget] at hname hnot ⊢
    exact warning_of_unknown ((abiFunctions_afterAll_iff h uses names).mpr hnames) hname hnot
  · intro hknown
    apply warning_eq_empty
    intro names hnames hname
    by_contra hnot
    rw [htarget] at hname hnot
    exact hknown ⟨names, (abiFunctions_afterAll_iff h uses names).mp hnames, hname, hnot⟩

/-- Uses of a replay that was just opened.  At most one run succeeds, with what was
recorded.  When the recording is of another contract every run fails and the steps stay;
otherwise the first run succeeds and no other does.  What is told of the source is the same
at all times.  Names of functions stay in force until another ABI could be loaded, and count
for one line that a run prints first: without all loads every other answer is the same. -/
theorem replayed_once {files : Files} {target : Target} {r : Replay}
    (h : ofFiles files target = .ok r) (uses : List Use) :
    (forall (i j : Nat) printed printed' simulation simulation',
      (r.answers uses)[i]? = some (.ran printed (.ok simulation)) ->
      (r.answers uses)[j]? = some (.ran printed' (.ok simulation')) ->
        i = j ∧ simulation = ⟨r.recording.steps, r.recording.functions⟩) ∧
      (Foreign r.recording target ->
        (r.afterAll uses).steps = some r.recording.steps ∧
          forall i : Nat, uses[i]? = some .run ->
            exists e, (r.answers uses)[i]? = some (.ran [] (.error e))) ∧
      (¬ Foreign r.recording target -> forall i : Nat, uses[i]? = some .run ->
        (.run ∉ uses.take i ->
          (r.answers uses)[i]? =
            some (.ran
              (Utf8.encode ((r.afterAll (uses.take i)).warning ++ r.report r.recording.steps))
              (.ok ⟨r.recording.steps, r.recording.functions⟩))) ∧
          (.run ∈ uses.take i ->
            (r.answers uses)[i]? =
              some (.ran (Utf8.encode (r.afterAll (uses.take i)).warning)
                (.error replayedBefore)))) ∧
      (forall i : Nat, uses[i]? = some .ask ->
        (r.answers uses)[i]? = some (.told r.sourceMap? r.variables?)) ∧
      List.Forall₂ (SameButWarned target) ((r.answers uses).filter (! ·.isLoaded))
        (r.answers (uses.filter (! ·.loads))) ∧
      (forall names, (r.afterAll uses).abiFunctions = some names ↔ InForce uses names) ∧
      (Unknown uses target -> (r.afterAll uses).warning = warningLine target) ∧
      (¬ Unknown uses target -> (r.afterAll uses).warning = "") := by
  rcases opened_eq h with ⟨rfl, hsteps, hnone⟩
  refine ⟨?_, ?_, ?_, fun i => answer_ask, forall₂_without_loads (Kept.refl r) rfl hnone uses,
    abiFunctions_afterAll_iff hnone uses, warning_afterAll hnone uses⟩
  · intro i j printed printed' simulation simulation' hi hj
    rcases first_of_success hsteps hi with ⟨hrecorded, hfirst⟩
    rcases first_of_success hsteps hj with ⟨_, hfirst'⟩
    refine ⟨?_, hrecorded⟩
    rcases Nat.lt_trichotomy i j with hlt | heq | hlt
    · exact absurd (mem_take_of_lt (use_eq_run_of_answer hi) hlt) hfirst'
    · exact heq
    · exact absurd (mem_take_of_lt (use_eq_run_of_answer hj) hlt) hfirst
  · intro hforeign
    refine ⟨(steps_afterAll_of_foreign hforeign uses).trans hsteps, ?_⟩
    intro i hi
    exact ⟨_, answer_run_of_foreign hforeign hi⟩
  · intro hown i hi
    exact ⟨answer_first_run hown hsteps hi, answer_later_run hown hi⟩

/-!
## A recording whose target the ABI does not know
-/

namespace Sample

def single : String :=
  Json.Value.print <|
    .object
      [("contractAddress", .string "0xAB"),
        ("steps", .array [.object [("pc", .nat 1), ("op", .string "STOP")]])]

def singleFiles : Files :=
  Files.ofList
    [("out/trace.json", .file single.toByteArray.data.toList),
      ("abi.json", .file "[]".toByteArray.data.toList)]

def singleTarget : Target where
  contractAddress := "0xab"
  ethdebugDir := "out"
  rpcUrl := ""
  functionName := "f(uint256)"
  functionArgs := []
  abiPath := none

end Sample

/-- One step is handed out behind a line about the ABI, which the second load, of a file
that is not there, leaves in force. -/
theorem replayed_once_warned :
    exists r : Replay, ofFiles Sample.singleFiles Sample.singleTarget = .ok r ∧
      (r.answers [.load Sample.singleFiles "abi.json", .load {} "abi.json", .run, .run])[2]? =
        some (.ran (Utf8.encode (warningLine Sample.singleTarget ++ r.report r.recording.steps))
          (.ok ⟨r.recording.steps, r.recording.functions⟩)) ∧
      (r.answers [.load Sample.singleFiles "abi.json", .load {} "abi.json", .run, .run])[3]? =
        some (.ran (Utf8.encode (warningLine Sample.singleTarget)) (.error replayedBefore)) := by
  have hopened :
      ((ofFiles Sample.singleFiles Sample.singleTarget).toOption.map fun r =>
        (r.recording.contractAddress,
          (r.afterAll [.load Sample.singleFiles "abi.json", .load {} "abi.json"]).warning,
          (r.afterAll [.load Sample.singleFiles "abi.json", .load {} "abi.json", .run]).warning)) =
        some (some "0xAB", warningLine Sample.singleTarget, warningLine Sample.singleTarget) := by
    decide +kernel
  cases hopen : ofFiles Sample.singleFiles Sample.singleTarget with
  | error e =>
      rw [hopen] at hopened
      cases hopened
  | ok r =>
      rw [hopen] at hopened
      simp only [Except.toOption, Option.map_some, Option.some.injEq, Prod.mk.injEq] at hopened
      rcases hopened with ⟨haddress, hfirst, hlater⟩
      have hown : ¬ Foreign r.recording Sample.singleTarget := by
        rintro ⟨address, hrecorded, hother⟩
        rw [haddress] at hrecorded
        cases hrecorded
        exact hother (by decide)
      rcases replayed_once hopen
        [.load Sample.singleFiles "abi.json", .load {} "abi.json", .run, .run] with
        ⟨_, _, hruns, _⟩
      refine ⟨r, rfl, ?_, ?_⟩
      · rw [← hfirst]
        exact (hruns hown 2 rfl).1 (by simp)
      · rw [← hlater]
        exact (hruns hown 3 rfl).2 (by simp)

end Replay
end TraceAdapter
