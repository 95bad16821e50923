import TraceAdapter.Proofs.Protocol.LaunchFields
import TraceAdapter.Proofs.Protocol.LenientNumbers

/-!
# Numbers of a fork

The block and the port of a fork are the two numbers among the arguments of a launch.  An
entry that gives one of them sets it and does nothing else, and an entry that gives no
number spoils all arguments.
-/

namespace TraceAdapter
namespace Protocol

open Json
open Json.Schema

inductive ForkOption where
  | block
  | port
  deriving DecidableEq, Repr

namespace ForkOption

def name : ForkOption -> String
  | block => "forkBlock"
  | port => "forkPort"

def of? : ForkOption -> LaunchArguments -> Option Nat
  | block, a => a.forkBlock
  | port, a => a.forkPort

def set (o : ForkOption) (n? : Option Nat) (a : LaunchArguments) : LaunchArguments :=
  match o with
  | block => { a with forkBlock := n? }
  | port => { a with forkPort := n? }

@[simp] theorem of?_set (o : ForkOption) (n? : Option Nat) (a : LaunchArguments) :
    o.of? (o.set n? a) = n? := by
  cases o with
  | block => rfl
  | port => rfl

theorem name_mem (o : ForkOption) : o.name ∈ LaunchArguments.numberFields := by
  cases o with
  | block => decide
  | port => decide

end ForkOption

namespace LaunchArguments

/-!
## Objects without an entry
-/

def withoutKey (name : String) (entries : List (String × Value)) : List (String × Value) :=
  entries.filter fun e => e.1 != name

variable {name : String} {entries : List (String × Value)}

theorem nodup_withoutKey (h : (entries.map Prod.fst).Nodup) :
    ((withoutKey name entries).map Prod.fst).Nodup :=
  h.sublist (List.filter_sublist.map Prod.fst)

theorem get?_withoutKey_self : (Value.object (withoutKey name entries)).get? name = none := by
  unfold Value.get? withoutKey
  dsimp only
  rw [Option.map_eq_none_iff, List.find?_eq_none]
  intro e he hname
  have hne := (List.mem_filter.mp he).2
  rw [bne_iff_ne] at hne
  exact hne (eq_of_beq hname)

theorem get?_withoutKey_of_ne {other : String} (h : other ≠ name) :
    (Value.object (withoutKey name entries)).get? other = (Value.object entries).get? other := by
  have hsame : (fun e : String × Value =>
      decide ((e.1 != name) = true ∧ (e.1 == other) = true)) = fun e => e.1 == other := by
    funext e
    by_cases he : e.1 = other
    · simp [he, h]
    · simp [he]
  unfold Value.get? withoutKey
  dsimp only
  rw [List.find?_filter, hsame]

/-!
## Entries of fork options
-/

variable {o : ForkOption} {v : Value} {n? : Option Nat}

/-- What is set and what was not there before. -/
def SetApart (o : ForkOption) (n? : Option Nat) (name : String) (a b : Option Nat) : Prop :=
  if name = o.name then a = n? ∧ b = none else a = b

theorem eq_set_of_fieldByField {a b : LaunchArguments}
    (h : FieldByField (fun _ => Eq) (SetApart o n?) (fun _ => Eq) a b) : a = o.set n? b := by
  cases a
  cases b
  cases h
  cases o with
  | block => simp_all [SetApart, ForkOption.name, ForkOption.set]
  | port => simp_all [SetApart, ForkOption.name, ForkOption.set]

theorem alike_of_set (hdistinct : (entries.map Prod.fst).Nodup)
    (hmem : (o.name, v) ∈ entries) (h : Gives v n?) :
    Alike (SetApart o n? o.name)
      ((Schema.default o.name numberOrText none).build (fieldsOf schema.fields entries))
      ((Schema.default o.name numberOrText none).build
        (fieldsOf schema.fields (withoutKey o.name entries))) := by
  have hfield := (hasField_number o.name_mem).mem
  have hget : (Value.object entries).get? o.name = some v :=
    (find?_key_eq_some_iff hdistinct).mpr hmem
  have hset : (Schema.default o.name numberOrText none).build
      (fieldsOf schema.fields entries) = .ok n? := by
    unfold Schema.default
    dsimp only
    rw [get?_fieldsOf hfield, hget]
    exact ofValue_numberOrText_iff.mpr h
  have habsent : (Schema.default o.name numberOrText none).build
      (fieldsOf schema.fields (withoutKey o.name entries)) = .ok none := by
    unfold Schema.default
    dsimp only
    rw [get?_fieldsOf hfield, get?_withoutKey_self]
    rfl
  rw [hset, habsent]
  apply Alike.made
  unfold SetApart
  rw [if_pos rfl]
  exact ⟨rfl, rfl⟩

theorem decode_of_gives (hdistinct : (entries.map Prod.fst).Nodup)
    (hmem : (o.name, v) ∈ entries) (h : Gives v n?) :
    ofValue decode (.object entries) =
      (ofValue decode (.object (withoutKey o.name entries))).map (o.set n?) := by
  have hread : ofValue numberOrText v = .ok n? := ofValue_numberOrText_iff.mpr h
  have hfaults : entries.findSome? (fault? schema.fields) =
      (withoutKey o.name entries).findSome? (fault? schema.fields) := by
    symm
    apply findSome?_filter_of_none
    intro e he hname
    have hv : e = (o.name, v) :=
      List.inj_on_of_nodup_map hdistinct he hmem (by simpa using hname)
    rw [hv]
    exact (hasField_number o.name_mem).fault?_of_ok hread
  have hother {other : String} (hne : other ≠ o.name) :
      (Value.object entries).get? other =
        (Value.object (withoutKey o.name entries)).get? other :=
    (get?_withoutKey_of_ne hne).symm
  have hbuild : Alike (FieldByField (fun _ => Eq) (SetApart o n?) (fun _ => Eq))
      (schema.build (fieldsOf schema.fields entries))
      (schema.build (fieldsOf schema.fields (withoutKey o.name entries))) := by
    apply alike_build
    · intro name hname
      have hne : name ≠ o.name := fun heq => (number_apart o.name_mem).1 (heq ▸ hname)
      exact (hasField_text hname).alike_of_get?_eq (hother hne) Eq.refl none
    · intro name hname
      by_cases heq : name = o.name
      · rw [heq]
        exact alike_of_set hdistinct hmem h
      · apply (hasField_number hname).alike_of_get?_eq (hother heq)
        intro a
        unfold SetApart
        rw [if_neg heq]
    · intro name hname
      have hne : name ≠ o.name := fun heq => (number_apart o.name_mem).2.1 (heq ▸ hname)
      exact (hasField_list hname).alike_of_get?_eq (hother hne) Eq.refl none
    · rfl
    · intro name hname
      have hne : name ≠ o.name := fun heq => (number_apart o.name_mem).2.2 (heq ▸ hname)
      rw [get?_fieldsOf (mem_names_of_other hname), get?_fieldsOf (mem_names_of_other hname),
        hother hne]
  have halike := (Schema.alike_decode rfl hdistinct (nodup_withoutKey hdistinct) hfaults hbuild
    "LaunchArguments").imp fun _ _ => eq_set_of_fieldByField
  exact halike.eq_map

theorem decode_of_not_gives (hdistinct : (entries.map Prod.fst).Nodup)
    (hmem : (o.name, v) ∈ entries) (h : forall n?, ¬ Gives v n?) :
    exists cause, ofValue decode (.object entries) = .error cause := by
  have hfault : exists fault, fault? schema.fields (o.name, v) = some fault := by
    cases hread : ofValue numberOrText v with
    | ok n? => exact absurd (ofValue_numberOrText_iff.mp hread) (h n?)
    | error fault =>
        exact ⟨fault, (hasField_number o.name_mem).fault?_of_error hread⟩
  have hsome : (entries.findSome? (fault? schema.fields)).isSome = true := by
    rcases hfault with ⟨fault, hfault⟩
    rw [List.findSome?_isSome_iff]
    exact ⟨(o.name, v), hmem, Option.isSome_of_eq_some hfault⟩
  rcases Option.isSome_iff_exists.mp hsome with ⟨cause, hcause⟩
  refine ⟨cause, ?_⟩
  show ofValue (schema.decode "LaunchArguments") _ = _
  rw [decode_object hdistinct, hcause, Option.elim_some]

end LaunchArguments
end Protocol
end TraceAdapter
