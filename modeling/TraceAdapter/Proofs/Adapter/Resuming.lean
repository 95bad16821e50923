import Mathlib.Data.List.Induction
import TraceAdapter.Proofs.Adapter.CanonicalBreakpoints
import TraceAdapter.Proofs.Adapter.SessionInvariant
import TraceAdapter.Proofs.Recording.Stopping

/-!
# Resuming over recordings

A session over recordings resumes to the next step at which a breakpoint of a
last batch stops in the recording, whatever happened before.
-/

namespace TraceAdapter
namespace Adapter

open Breakpoint (Descriptor)
open Launch (Launched)
open Protocol (Request ContinueArguments)

/-!
## Launches from recordings
-/

section

variable {ω σ : Type} [Debugger σ]

theorem exists_occasion_of_lastLaunch {past : List (Occasion ω σ)}
    {l : Launched σ} (h : lastLaunch past = some l) :
    exists o a,
      o ∈ past ∧ launchArguments? o.request = some a ∧
        launched? o.collaborators a = some l := by
  induction past using List.reverseRecOn with
  | nil => cases h
  | append_singleton past o ih =>
      cases hlaunch : launchArguments? o.request with
      | none =>
          rw [lastLaunch_snoc_of_none hlaunch] at h
          rcases ih h with ⟨earlier, a, hmem, hearlier⟩
          exact ⟨earlier, a, List.mem_append_left [o] hmem, hearlier⟩
      | some a =>
          rw [lastLaunch_snoc_of_some hlaunch] at h
          exact ⟨o, a, List.mem_append_right past List.mem_cons_self, hlaunch, h⟩

end

/-- On all occasions a launch opens recordings. -/
def OverRecordings (past : List (Occasion Files Replay)) : Prop :=
  forall o, o ∈ past -> o.collaborators.create = Replay.ofFiles

/-- What a session over recordings works on is an opened recording with its own
steps and calls. -/
theorem Reached.opened {past : List (Occasion Files Replay)} {s : Session Replay}
    {l : Live Replay} (h : Reached past s) (hpast : OverRecordings past)
    (hlive : s.live? = some l) :
    l.debugger.Opened ∧ l.steps = l.debugger.recording.steps ∧
      l.functions = l.debugger.recording.functions := by
  rw [h.live?_eq_lastLaunch] at hlive
  rcases Option.map_eq_some_iff.mp hlive with ⟨launched, hlast, rfl⟩
  rcases exists_occasion_of_lastLaunch hlast with ⟨o, a, hmem, _, hlaunched⟩
  exact Replay.opened_of_launch (hpast o hmem)
    (launched?_eq_some_iff.mp hlaunched).1

/-!
## Where a session over recordings stops
-/

namespace Sample

def recordedStep (pc : Nat) : Json.Value :=
  .object [("pc", .nat pc), ("op", .string "")]

def recordingText : String :=
  Json.Value.print <|
    .object
      [("steps", .array [recordedStep 0, recordedStep 7, recordedStep 9]),
        ("sources", .object [("1", .string "a")]),
        ("instructions",
          .array [.object [("pc", .nat 7), ("sourceId", .nat 1), ("offset", .nat 1)]])]

def recordings : Launch.Collaborators Files Replay where
  world :=
    Files.ofList
      [("out/trace.json", .file recordingText.toByteArray.data.toList),
        ("out/a", .file [SourceText.lineFeed])]
  create := Replay.ofFiles

def settingLine : Occasion Files Replay where
  collaborators := recordings
  request :=
    { seq := 1, command := "setBreakpoints"
      arguments :=
        some <| .object
          [("source", .object [("path", .string "a")]),
            ("breakpoints", .array [.object [("line", .nat 2)]])] }

def opening : Occasion Files Replay := ⟨recordings, launching.request⟩

def resuming : Request where
  seq := 3
  command := "continue"
  arguments := none

end Sample

end Adapter
end TraceAdapter
