import TraceAdapter.Proofs.Json.Comparing
import TraceAdapter.Protocol.LaunchArguments

/-!
# Arguments of launches field by field

Two objects that hold related values in each field are read as arguments that are
related field by field, or fail alike.
-/

namespace TraceAdapter
namespace Protocol
namespace LaunchArguments

open Json
open Json.Schema

def textFields : List String :=
  ["contractFile", "contractAddress", "ethdebugDir", "abiPath", "rpc", "forkUrl",
    "function_signature", "function"]

def numberFields : List String := ["forkBlock", "forkPort"]

def listFields : List String := ["function_args", "functionArgs"]

def otherFields : List String := ["constructorArgs", "reuseFork", "keepFork", "noSnapshot"]

theorem text_apart {name : String} (h : name ∈ textFields) :
    name ∉ numberFields ∧ name ∉ listFields ∧ name ∉ otherFields := by
  have hall : forall name, name ∈ textFields ->
      name ∉ numberFields ∧ name ∉ listFields ∧ name ∉ otherFields := by
    decide
  exact hall name h

theorem number_apart {name : String} (h : name ∈ numberFields) :
    name ∉ textFields ∧ name ∉ listFields ∧ name ∉ otherFields := by
  have hall : forall name, name ∈ numberFields ->
      name ∉ textFields ∧ name ∉ listFields ∧ name ∉ otherFields := by
    decide
  exact hall name h

theorem list_apart {name : String} (h : name ∈ listFields) :
    name ∉ textFields ∧ name ∉ numberFields ∧ name ∉ otherFields := by
  have hall : forall name, name ∈ listFields ->
      name ∉ textFields ∧ name ∉ numberFields ∧ name ∉ otherFields := by
    decide
  exact hall name h

theorem mem_names_of_other {name : String} (h : name ∈ otherFields) :
    name ∈ schema.fields.map Field.name := by
  have hall : forall name, name ∈ otherFields -> name ∈ schema.fields.map Field.name := by
    decide
  exact hall name h

theorem build_default_congr {α : Type} {fields fields' : Fields}
    (horigin : fields.origin = fields'.origin) {name : String}
    (h : fields.get? name = fields'.get? name) (item : Decoder α) (absent : α) :
    (Schema.default name item absent).build fields =
      (Schema.default name item absent).build fields' := by
  unfold Schema.default
  dsimp only
  rw [h, horigin]

/-- The field of a name checks what its item reads. -/
def HasField {α : Type} (name : String) (item : Decoder α) : Prop :=
  schema.fields.find? (fun f => f.name == name) =
    some ⟨name, fun o d => (item o d).map fun _ => ()⟩

theorem hasField_text {name : String} (h : name ∈ textFields) :
    HasField name (Decoder.option Decoder.text) := by
  simp only [textFields, List.mem_cons, List.not_mem_nil, or_false] at h
  rcases h with rfl | rfl | rfl | rfl | rfl | rfl | rfl | rfl
  all_goals rfl

theorem hasField_number {name : String} (h : name ∈ numberFields) :
    HasField name numberOrText := by
  simp only [numberFields, List.mem_cons, List.not_mem_nil, or_false] at h
  rcases h with rfl | rfl
  all_goals rfl

theorem hasField_list {name : String} (h : name ∈ listFields) :
    HasField name (Decoder.option (Decoder.list Decoder.value)) := by
  simp only [listFields, List.mem_cons, List.not_mem_nil, or_false] at h
  rcases h with rfl | rfl
  all_goals rfl

section

variable {α : Type} {name : String} {item : Decoder α}

theorem HasField.mem (h : HasField name item) : name ∈ schema.fields.map Field.name :=
  List.mem_map.mpr ⟨_, List.mem_of_find?_eq_some h, rfl⟩

theorem HasField.fault?_of_ok (h : HasField name item) {v : Value} {a : α}
    (hread : ofValue item v = .ok a) : fault? schema.fields (name, v) = none := by
  unfold HasField at h
  have hcheck : ((ofValue item v).map fun _ => ()) = .ok () := by
    rw [hread]
    rfl
  exact fault?_of_check h hcheck

theorem HasField.fault?_of_error (h : HasField name item) {v : Value} {cause : DecodeError}
    (hread : ofValue item v = .error cause) :
    fault? schema.fields (name, v) = some cause := by
  unfold HasField at h
  have hcheck : ((ofValue item v).map fun _ => ()) = .error cause := by
    rw [hread]
    rfl
  unfold fault?
  rw [h, Option.bind_some]
  dsimp only
  unfold ofValue at hcheck
  rw [hcheck]

theorem HasField.alike_of_get?_eq (h : HasField name item)
    {entries entries' : List (String × Value)}
    (hsame : (Value.object entries).get? name = (Value.object entries').get? name)
    {R : α -> α -> Prop} (hrefl : forall a, R a a) (absent : α) :
    Alike R ((Schema.default name item absent).build (fieldsOf schema.fields entries))
      ((Schema.default name item absent).build (fieldsOf schema.fields entries')) := by
  have hget : (fieldsOf schema.fields entries).get? name =
      (fieldsOf schema.fields entries').get? name := by
    rw [get?_fieldsOf h.mem, get?_fieldsOf h.mem, hsame]
  have horigin : (fieldsOf schema.fields entries).origin =
      (fieldsOf schema.fields entries').origin := rfl
  rw [build_default_congr horigin hget]
  exact Alike.refl hrefl _

end

/-- Arguments with related texts, numbers and lists, a relation for each field, and with
the same values elsewhere. -/
structure FieldByField (T : String -> Option String -> Option String -> Prop)
    (N : String -> Option Nat -> Option Nat -> Prop)
    (L : String -> Option (List Value) -> Option (List Value) -> Prop)
    (a b : LaunchArguments) : Prop where
  contractFile : T "contractFile" a.contractFile b.contractFile
  contractAddress : T "contractAddress" a.contractAddress b.contractAddress
  ethdebugDir : T "ethdebugDir" a.ethdebugDir b.ethdebugDir
  abiPath : T "abiPath" a.abiPath b.abiPath
  rpc : T "rpc" a.rpc b.rpc
  constructorArgs : a.constructorArgs = b.constructorArgs
  forkUrl : T "forkUrl" a.forkUrl b.forkUrl
  forkBlock : N "forkBlock" a.forkBlock b.forkBlock
  forkPort : N "forkPort" a.forkPort b.forkPort
  reuseFork : a.reuseFork = b.reuseFork
  keepFork : a.keepFork = b.keepFork
  noSnapshot : a.noSnapshot = b.noSnapshot
  functionSignature : T "function_signature" a.functionSignature b.functionSignature
  function : T "function" a.function b.function
  functionArgsSnake : L "function_args" a.functionArgsSnake b.functionArgsSnake
  functionArgs : L "functionArgs" a.functionArgs b.functionArgs

section

variable {T : String -> Option String -> Option String -> Prop}
variable {N : String -> Option Nat -> Option Nat -> Prop}
variable {L : String -> Option (List Value) -> Option (List Value) -> Prop}
variable {fields fields' : Fields}

theorem alike_build
    (htext : forall name, name ∈ textFields ->
      Alike (T name) ((Schema.optional name Decoder.text).build fields)
        ((Schema.optional name Decoder.text).build fields'))
    (hnumber : forall name, name ∈ numberFields ->
      Alike (N name) ((Schema.default name numberOrText none).build fields)
        ((Schema.default name numberOrText none).build fields'))
    (hlist : forall name, name ∈ listFields ->
      Alike (L name) ((Schema.optional name (Decoder.list Decoder.value)).build fields)
        ((Schema.optional name (Decoder.list Decoder.value)).build fields'))
    (horigin : fields.origin = fields'.origin)
    (hother : forall name, name ∈ otherFields -> fields.get? name = fields'.get? name) :
    Alike (FieldByField T N L) (schema.build fields) (schema.build fields') := by
  have hsame {α : Type} (name : String) (hname : name ∈ otherFields) (item : Decoder α)
      (absent : α) :
      Alike Eq ((Schema.default name item absent).build fields)
        ((Schema.default name item absent).build fields') := by
    rw [build_default_congr horigin (hother name hname)]
    exact Alike.refl Eq.refl _
  have hmk :
      Carries (T "contractFile") (Carries (T "contractAddress")
        (Carries (T "ethdebugDir") (Carries (T "abiPath") (Carries (T "rpc")
        (Carries Eq (Carries (T "forkUrl") (Carries (N "forkBlock")
        (Carries (N "forkPort") (Carries Eq (Carries Eq (Carries Eq
        (Carries (T "function_signature") (Carries (T "function")
        (Carries (L "function_args") (Carries (L "functionArgs")
        (FieldByField T N L)))))))))))))))) LaunchArguments.mk LaunchArguments.mk :=
    fun _ _ hfile _ _ haddress _ _ hdir _ _ habi _ _ hrpc _ _ hargs _ _ hurl _ _ hblock
      _ _ hport _ _ hreuse _ _ hkeep _ _ hsnapshot _ _ hsignature _ _ hfunction
      _ _ hsnake _ _ hcamel =>
      ⟨hfile, haddress, hdir, habi, hrpc, hargs, hurl, hblock, hport, hreuse, hkeep,
        hsnapshot, hsignature, hfunction, hsnake, hcamel⟩
  exact (htext "contractFile" (by decide)).map hmk
    |>.seq (htext "contractAddress" (by decide))
    |>.seq (htext "ethdebugDir" (by decide))
    |>.seq (htext "abiPath" (by decide))
    |>.seq (htext "rpc" (by decide))
    |>.seq (hsame "constructorArgs" (by decide) (Decoder.list Decoder.value) [])
    |>.seq (htext "forkUrl" (by decide))
    |>.seq (hnumber "forkBlock" (by decide))
    |>.seq (hnumber "forkPort" (by decide))
    |>.seq (hsame "reuseFork" (by decide) Decoder.bool false)
    |>.seq (hsame "keepFork" (by decide) Decoder.bool false)
    |>.seq (hsame "noSnapshot" (by decide) Decoder.bool false)
    |>.seq (htext "function_signature" (by decide))
    |>.seq (htext "function" (by decide))
    |>.seq (hlist "function_args" (by decide))
    |>.seq (hlist "functionArgs" (by decide))

end

end LaunchArguments
end Protocol
end TraceAdapter
