import TraceAdapter.Debugger.Scripted
import TraceAdapter.Proofs.Adapter.Handlers

/-!
# Reached sessions

A session is reached by handling requests one after the other, from the empty
session on.  What collaborators do may differ from request to request, and so
may the order in which the stored breakpoints are walked.  All that a request
can do to a session is one of five changes.
-/

namespace TraceAdapter

open Breakpoint (Descriptor)
open Launch (Launched)
open Protocol (Request LaunchArguments SetBreakpointsArguments)

/-- A request and the collaborators that it finds. -/
structure Occasion (ω σ : Type) where
  collaborators : Launch.Collaborators ω σ
  request : Request

namespace Adapter

variable {ω σ : Type}

/-!
## What a request asks for
-/

def batch? (r : Request) : Option (String × List Descriptor) :=
  match Command.ofName? r.command with
  | some .setBreakpoints =>
      match arguments SetBreakpointsArguments.decode {} r with
      | .error _ => none
      | .ok a =>
          let path := a.source.path.getD ""
          some (path, a.breakpoints.flatMap (Session.descriptors path))
  | _ => none

def launchArguments? (r : Request) : Option LaunchArguments :=
  match Command.ofName? r.command with
  | some .launch => (arguments LaunchArguments.decode {} r).toOption
  | _ => none

theorem batch?_eq_none {r : Request}
    (h : Command.ofName? r.command ≠ some .setBreakpoints) : batch? r = none := by
  unfold batch?
  split
  · rename_i hset
    exact absurd hset h
  · rfl

theorem launchArguments?_eq_none {r : Request}
    (h : Command.ofName? r.command ≠ some .launch) : launchArguments? r = none := by
  unfold launchArguments?
  split
  · rename_i hlaunch
    exact absurd hlaunch h
  · rfl

variable [Debugger σ]

/-!
## What a request changes
-/

/-- What a request may make of a session. -/
inductive Change (c : Launch.Collaborators ω σ) (s : Session σ) (r : Request) :
    Session σ -> Prop where
  | stays : batch? r = none -> launchArguments? r = none -> Change c s r s
  | moves {index : Nat} {after : Session σ} :
      batch? r = none -> launchArguments? r = none ->
      s.moveTo index = .ok after ->
      Change c s r after
  | sets {path : String} {batch : List Descriptor} :
      batch? r = some (path, batch) -> launchArguments? r = none ->
      Change c s r (s.setBatch path batch).2
  | fails {a : LaunchArguments} :
      batch? r = none -> launchArguments? r = some a ->
      launched? c a = none ->
      Change c s r s.clear
  | launches {a : LaunchArguments} {l : Launched σ} {after : Session σ} :
      batch? r = none -> launchArguments? r = some a ->
      launched? c a = some l ->
      s.clear.install l.debugger l.simulation l.entry = .ok after ->
      Change c s r after.registerStored

theorem change_moveAndReply {c : Launch.Collaborators ω σ} {r : Request}
    (hbatch : batch? r = none) (hlaunch : launchArguments? r = none)
    (s : Session σ) (index : Nat) (reply : Reply) :
    Change c s r (moveAndReply s index reply : Handled ω σ).session := by
  unfold moveAndReply
  cases hmove : s.moveTo index with
  | error e => exact Change.stays hbatch hlaunch
  | ok after => exact Change.moves hbatch hlaunch hmove

theorem change_step {c : Launch.Collaborators ω σ} {r : Request}
    (hbatch : batch? r = none) (hlaunch : launchArguments? r = none)
    (s : Session σ) (target : List Step -> Nat -> Nat) :
    Change c s r (step s target : Handled ω σ).session := by
  unfold step
  cases s.trace? with
  | none => exact Change.stays hbatch hlaunch
  | some steps => exact change_moveAndReply hbatch hlaunch s _ _

theorem change_resume {c : Launch.Collaborators ω σ} {r : Request}
    (hbatch : batch? r = none) (hlaunch : launchArguments? r = none)
    (s : Session σ) : Change c s r (resume s : Handled ω σ).session := by
  unfold resume
  cases s.trace? with
  | none => exact Change.stays hbatch hlaunch
  | some steps => exact change_moveAndReply hbatch hlaunch s _ _

theorem change_withArguments {α : Type} {decoder : Json.Decoder α} {absent : α}
    {c : Launch.Collaborators ω σ} {s : Session σ} {r : Request}
    {handler : α -> Handled ω σ}
    (hbad : forall e, arguments decoder absent r = .error e -> Change c s r s)
    (hgood : forall a, arguments decoder absent r = .ok a ->
      Change c s r (handler a).session) :
    Change c s r (withArguments decoder absent s r handler).session := by
  cases harguments : arguments decoder absent r with
  | error e =>
      rw [withArguments_of_error harguments]
      exact hbad e harguments
  | ok a =>
      rw [withArguments_of_ok harguments]
      exact hgood a harguments

theorem change_launch {c : Launch.Collaborators ω σ} {r : Request}
    {a : LaunchArguments} (hbatch : batch? r = none)
    (hlaunch : launchArguments? r = some a) (s : Session σ) :
    Change c s r (launch c s a).session := by
  rcases launch_cases c s a with
    ⟨_, hfailed, _, hsession⟩ | ⟨l, after, hlaunched, hinstall, _, hsession⟩
  · rw [hsession]
    exact Change.fails hbatch hlaunch hfailed
  · rw [hsession]
    exact Change.launches hbatch hlaunch hlaunched hinstall

theorem change_setBreakpoints (c : Launch.Collaborators ω σ) (s : Session σ)
    {r : Request} (hcommand : Command.ofName? r.command = some .setBreakpoints) :
    Change c s r (handleCommand c s r .setBreakpoints).session := by
  have hlaunch : launchArguments? r = none := by
    apply launchArguments?_eq_none
    rw [hcommand]
    simp
  apply change_withArguments
  · intro e he
    exact Change.stays (by simp [batch?, hcommand, he]) hlaunch
  · intro a ha
    exact Change.sets (by simp [batch?, hcommand, ha]) hlaunch

theorem change_handle (c : Launch.Collaborators ω σ) (s : Session σ)
    (r : Request) : Change c s r (handle c s r).session := by
  unfold handle
  cases hcommand : Command.ofName? r.command with
  | none =>
      have hbatch : batch? r = none := by
        apply batch?_eq_none
        simp [hcommand]
      have hlaunch : launchArguments? r = none := by
        apply launchArguments?_eq_none
        simp [hcommand]
      exact Change.stays hbatch hlaunch
  | some command =>
      -- Only two commands ask for a batch or a launch; all others move or stay.
      by_cases hset : command = .setBreakpoints
      · subst hset
        exact change_setBreakpoints c s hcommand
      · have hbatch : batch? r = none := by
          apply batch?_eq_none
          rw [hcommand]
          exact fun heq => hset (Option.some.inj heq)
        by_cases hrun : command = .launch
        · subst hrun
          apply change_withArguments
          · intro e he
            exact Change.stays hbatch
              (by simp [launchArguments?, hcommand, he, Except.toOption])
          · intro a ha
            exact change_launch hbatch
              (by simp [launchArguments?, hcommand, ha, Except.toOption]) s
        · have hlaunch : launchArguments? r = none := by
            apply launchArguments?_eq_none
            rw [hcommand]
            exact fun heq => hrun (Option.some.inj heq)
          have hstays : Change c s r s := Change.stays hbatch hlaunch
          cases command with
          | launch => exact absurd rfl hrun
          | setBreakpoints => exact absurd rfl hset
          | resume =>
              apply change_withArguments
              · intro e _he
                exact hstays
              · intro a _ha
                exact change_resume hbatch hlaunch s
          | next => exact change_step hbatch hlaunch s _
          | stepOut => exact change_step hbatch hlaunch s _
          | stepIn => exact change_step hbatch hlaunch s _
          | stackTrace =>
              exact change_withArguments (fun _ _ => hstays) (fun _ _ => hstays)
          | listVariables =>
              exact change_withArguments (fun _ _ => hstays) (fun _ _ => hstays)
          | evaluate =>
              exact change_withArguments (fun _ _ => hstays) (fun _ _ => hstays)
          | greet => exact hstays
          | configurationDone => exact hstays
          | threads => exact hstays
          | scopes => exact hstays
          | disconnect => exact hstays
          | terminate => exact hstays

/-!
## Runs
-/

/-- A session that requests lead to, with the occasions on which they were
handled. -/
inductive Reached : List (Occasion ω σ) -> Session σ -> Prop where
  | start : Reached [] {}
  | reordered {past : List (Occasion ω σ)} {s : Session σ}
      {store : Breakpoint.Store} :
      Reached past s -> s.breakpoints.Reordered store ->
      Reached past { s with breakpoints := store }
  | handled {past : List (Occasion ω σ)} {s : Session σ} (o : Occasion ω σ) :
      Reached past s ->
      Reached (past ++ [o]) (handle o.collaborators s o.request).session

theorem Change.matched {c : Launch.Collaborators ω σ} {s after : Session σ}
    {r : Request} (h : Change c s r after) (hs : s.Matched) : after.Matched := by
  cases h with
  | stays => exact hs
  | moves _ _ hmove => exact hs.moveTo hmove
  | sets => exact hs.setBatch _ _
  | fails => exact hs.clear
  | launches _ _ _ hinstall => exact hs.launch hinstall

theorem Reached.matched {past : List (Occasion ω σ)} {s : Session σ}
    (h : Reached past s) : s.Matched := by
  induction h with
  | start => exact Session.matched_empty
  | reordered _h horder ih => exact ih.reordered horder
  | handled o _h ih => exact (change_handle o.collaborators _ o.request).matched ih

/-- The occasions on which requests are handled in turn. -/
def occasions (c : Launch.Collaborators ω σ) (s : Session σ) :
    List Request -> List (Occasion ω σ)
  | [] => []
  | r :: rest =>
      ⟨c, r⟩ :: occasions (c.after (handle c s r).world?) (handle c s r).session rest

theorem Reached.handleAll {past : List (Occasion ω σ)} {s : Session σ}
    (h : Reached past s) (c : Launch.Collaborators ω σ) (requests : List Request) :
    Reached (past ++ occasions c s requests) (sessionAfter c s requests) := by
  induction requests generalizing past c s with
  | nil =>
      rw [occasions, List.append_nil]
      exact h
  | cons r rest ih =>
      rw [occasions, List.append_cons, sessionAfter_cons]
      exact ih (h.handled ⟨c, r⟩) _

/-!
## A small history

One line of a source is mapped to the second step of three.
-/

namespace Sample

def debugger : Scripted where
  steps := [⟨0, "PUSH1", [], none, none, none, none, none⟩,
    ⟨7, "ADD", [], none, none, none, none, none⟩,
    ⟨9, "STOP", [], none, none, none, none, none⟩]
  functions := some [⟨"transfer", 0, none⟩]
  places := some [(7, "Token.sol", some (3, 1))]

def collaborators : Launch.Collaborators Unit Scripted where
  world := ()
  create := fun _ _ => .ok debugger

def setting : Occasion Unit Scripted where
  collaborators := collaborators
  request :=
    { seq := 1, command := "setBreakpoints"
      arguments :=
        some <| .object
          [("source", .object [("path", .string "Token.sol")]),
            ("breakpoints", .array [.object [("line", .nat 3)]])] }

def launching : Occasion Unit Scripted where
  collaborators := collaborators
  request :=
    { seq := 2, command := "launch"
      arguments :=
        some <| .object
          [("contractAddress", .string "0x01"), ("ethdebugDir", .string "out")] }

def failing : Occasion Unit Scripted where
  collaborators := collaborators
  request := { seq := 3, command := "launch" }

end Sample

end Adapter
end TraceAdapter
