import TraceAdapter.Proofs.Protocol.LaunchFields
import TraceAdapter.Proofs.Protocol.LenientNumbers

/-!
# Options that are left out

An editor sends empty fields of a form along.  An option of a launch that is null, an
empty text or an empty list, or a blank text in place of a number, is read as if it were
not there.
-/

namespace TraceAdapter
namespace Protocol
namespace LaunchArguments

open Json
open Json.Schema

/-!
## Arguments without empty ones
-/

def nonEmptyList? (items? : Option (List Value)) : Option (List Value) :=
  items?.filter fun items => ! items.isEmpty

/-- The arguments with what is empty left out. -/
def given (a : LaunchArguments) : LaunchArguments :=
  { a with
    contractFile := nonEmpty? a.contractFile
    contractAddress := nonEmpty? a.contractAddress
    ethdebugDir := nonEmpty? a.ethdebugDir
    abiPath := nonEmpty? a.abiPath
    rpc := nonEmpty? a.rpc
    forkUrl := nonEmpty? a.forkUrl
    functionSignature := nonEmpty? a.functionSignature
    function := nonEmpty? a.function
    functionArgsSnake := nonEmptyList? a.functionArgsSnake
    functionArgs := nonEmptyList? a.functionArgs }

@[simp] theorem nonEmpty?_nonEmpty? (s? : Option String) :
    nonEmpty? (nonEmpty? s?) = nonEmpty? s? := by
  unfold nonEmpty?
  rw [Option.filter_filter]
  simp only [Bool.and_self]

@[simp] theorem nonEmptyList?_nonEmptyList? (items? : Option (List Value)) :
    nonEmptyList? (nonEmptyList? items?) = nonEmptyList? items? := by
  unfold nonEmptyList?
  rw [Option.filter_filter]
  simp only [Bool.and_self]

theorem getD_nonEmptyList? (items? : Option (List Value)) :
    (nonEmptyList? items?).getD [] = items?.getD [] := by
  cases items? with
  | none => rfl
  | some items =>
      cases items with
      | nil => rfl
      | cons first rest => rfl

@[simp] theorem functionName?_given (a : LaunchArguments) :
    a.given.functionName? = a.functionName? := by
  show (nonEmpty? (nonEmpty? _)).or (nonEmpty? (nonEmpty? _)) = _
  rw [nonEmpty?_nonEmpty?, nonEmpty?_nonEmpty?]
  rfl

@[simp] theorem arguments_given (a : LaunchArguments) : a.given.arguments = a.arguments := by
  show ((nonEmptyList? (nonEmptyList? _)).or (nonEmptyList? _)).getD [] =
    ((nonEmptyList? _).or _).getD []
  rw [nonEmptyList?_nonEmptyList?, Option.getD_or, Option.getD_or, getD_nonEmptyList?]

theorem given_eq_of_fieldByField {a b : LaunchArguments}
    (h : FieldByField (fun _ s s' => nonEmpty? s = nonEmpty? s') (fun _ => Eq)
      (fun _ items items' => nonEmptyList? items = nonEmptyList? items') a b) :
    a.given = b.given := by
  cases a
  cases b
  cases h
  unfold given
  simp only at *
  simp only [*]

/-!
## Entries that leave an option out
-/

def leavesOut (e : String × Value) : Bool :=
  match e.2 with
  | .null => (textFields ++ numberFields ++ listFields).contains e.1
  | .string s =>
      textFields.contains e.1 && s.isEmpty ||
        numberFields.contains e.1 && s.toList.all Text.isBlank
  | .array items => listFields.contains e.1 && items.isEmpty
  | _ => false

/-- The same entries, in the same order, but for those that leave an option out. -/
structure SameGiven (entries entries' : List (String × Value)) : Prop where
  distinct : (entries.map Prod.fst).Nodup
  distinct' : (entries'.map Prod.fst).Nodup
  same : (entries.filter fun e => ! leavesOut e) = entries'.filter fun e => ! leavesOut e

theorem SameGiven.symm {entries entries' : List (String × Value)}
    (h : SameGiven entries entries') : SameGiven entries' entries :=
  ⟨h.distinct', h.distinct, h.same.symm⟩

/-- An item is read from what leaves the field out like from nothing. -/
def Blank {α β : Type} (name : String) (item : Decoder α) (absent : α) (g : α -> β) : Prop :=
  forall v, leavesOut (name, v) = true -> exists a, ofValue item v = .ok a ∧ g a = g absent

theorem blank_text {name : String} (h : name ∈ textFields) :
    Blank name (Decoder.option Decoder.text) none nonEmpty? := by
  rcases text_apart h with ⟨hnumber, hlist, _⟩
  intro v hv
  cases v with
  | null => exact ⟨none, rfl, rfl⟩
  | string s =>
      refine ⟨some s, rfl, ?_⟩
      have hempty : s = "" := by simpa [leavesOut, h, hnumber] using hv
      rw [hempty]
      rfl
  | array items => simp [leavesOut, hlist] at hv
  | bool b => cases hv
  | number x => cases hv
  | object entries => cases hv

theorem blank_number {name : String} (h : name ∈ numberFields) :
    Blank name numberOrText none id := by
  rcases number_apart h with ⟨htext, hlist, _⟩
  intro v hv
  refine ⟨none, ?_, rfl⟩
  rw [ofValue_numberOrText_iff]
  cases v with
  | null => exact .null
  | string s =>
      have hblank : s.toList.all Text.isBlank = true := by
        simpa [leavesOut, h, htext] using hv
      exact .blank hblank
  | array items => simp [leavesOut, hlist] at hv
  | bool b => cases hv
  | number x => cases hv
  | object entries => cases hv

theorem blank_list {name : String} (h : name ∈ listFields) :
    Blank name (Decoder.option (Decoder.list Decoder.value)) none nonEmptyList? := by
  rcases list_apart h with ⟨htext, hnumber, _⟩
  intro v hv
  cases v with
  | null => exact ⟨none, rfl, rfl⟩
  | array items =>
      have hempty : items = [] := by simpa [leavesOut, h] using hv
      rw [hempty]
      exact ⟨some [], rfl, rfl⟩
  | string s => simp [leavesOut, htext, hnumber] at hv
  | bool b => cases hv
  | number x => cases hv
  | object entries => cases hv

theorem mem_of_leavesOut {e : String × Value} (h : leavesOut e = true) :
    e.1 ∈ textFields ∨ e.1 ∈ numberFields ∨ e.1 ∈ listFields := by
  rcases e with ⟨name, v⟩
  cases v with
  | null => simpa [leavesOut] using h
  | string s =>
      have hcases : name ∈ textFields ∧ s = "" ∨
          name ∈ numberFields ∧ s.toList.all Text.isBlank = true := by
        simpa [leavesOut] using h
      rcases hcases with ⟨hname, _⟩ | ⟨hname, _⟩
      · exact Or.inl hname
      · exact Or.inr (Or.inl hname)
  | array items =>
      have hboth : name ∈ listFields ∧ items = [] := by simpa [leavesOut] using h
      exact Or.inr (Or.inr hboth.1)
  | bool b => cases h
  | number x => cases h
  | object entries => cases h

theorem fault?_of_leavesOut {e : String × Value} (h : leavesOut e = true) :
    fault? schema.fields e = none := by
  rcases mem_of_leavesOut h with hname | hname | hname
  · rcases blank_text hname e.2 h with ⟨a, ha, _⟩
    exact (hasField_text hname).fault?_of_ok ha
  · rcases blank_number hname e.2 h with ⟨a, ha, _⟩
    exact (hasField_number hname).fault?_of_ok ha
  · rcases blank_list hname e.2 h with ⟨a, ha, _⟩
    exact (hasField_list hname).fault?_of_ok ha

/-!
## Objects that differ in what they leave out
-/

theorem findSome?_given (entries : List (String × Value)) :
    (entries.filter fun e => ! leavesOut e).findSome? (fault? schema.fields) =
      entries.findSome? (fault? schema.fields) := by
  apply findSome?_filter_of_none
  intro e _ hout
  exact fault?_of_leavesOut (by simpa using hout)

namespace SameGiven

variable {entries entries' : List (String × Value)}

theorem mem_of_mem (h : SameGiven entries entries') {e : String × Value}
    (hgiven : ¬ leavesOut e = true) (he : e ∈ entries) : e ∈ entries' := by
  have hkept : e ∈ entries.filter fun e => ! leavesOut e :=
    List.mem_filter.mpr ⟨he, by simpa using hgiven⟩
  rw [h.same] at hkept
  exact (List.mem_filter.mp hkept).1

theorem leavesOut_of_ne (h : SameGiven entries entries') {name : String}
    (hne : (Value.object entries).get? name ≠ (Value.object entries').get? name) {v : Value}
    (hv : (Value.object entries).get? name = some v) : leavesOut (name, v) = true := by
  by_contra hgiven
  have hmem : (name, v) ∈ entries := (find?_key_eq_some_iff h.distinct).mp hv
  have hv' : (Value.object entries').get? name = some v :=
    (find?_key_eq_some_iff h.distinct').mpr (h.mem_of_mem hgiven hmem)
  exact hne (hv.trans hv'.symm)

theorem get?_eq_of_other (h : SameGiven entries entries') {name : String}
    (hname : name ∈ otherFields) :
    (Value.object entries).get? name = (Value.object entries').get? name := by
  have hapart : ¬ (name ∈ textFields ∨ name ∈ numberFields ∨ name ∈ listFields) := by
    rintro (hmem | hmem | hmem)
    · exact (text_apart hmem).2.2 hname
    · exact (number_apart hmem).2.2 hname
    · exact (list_apart hmem).2.2 hname
  by_contra hne
  cases hv : (Value.object entries).get? name with
  | some v => exact hapart (mem_of_leavesOut (h.leavesOut_of_ne hne hv))
  | none =>
      cases hv' : (Value.object entries').get? name with
      | some v =>
          exact hapart (mem_of_leavesOut (h.symm.leavesOut_of_ne (Ne.symm hne) hv'))
      | none => exact hne (hv.trans hv'.symm)

theorem build_of_ne {α β : Type} {name : String} {item : Decoder α} {absent : α} {g : α -> β}
    (h : SameGiven entries entries') (hfield : HasField name item)
    (hblank : Blank name item absent g)
    (hne : (Value.object entries).get? name ≠ (Value.object entries').get? name) :
    exists a, (Schema.default name item absent).build (fieldsOf schema.fields entries) =
      .ok a ∧ g a = g absent := by
  unfold Schema.default
  dsimp only
  rw [get?_fieldsOf hfield.mem]
  cases hv : (Value.object entries).get? name with
  | none => exact ⟨absent, rfl, rfl⟩
  | some v => exact hblank v (h.leavesOut_of_ne hne hv)

theorem alike_field {α β : Type} {name : String} {item : Decoder α} {absent : α} {g : α -> β}
    (h : SameGiven entries entries') (hfield : HasField name item)
    (hblank : Blank name item absent g) :
    Alike (fun a b => g a = g b)
      ((Schema.default name item absent).build (fieldsOf schema.fields entries))
      ((Schema.default name item absent).build (fieldsOf schema.fields entries')) := by
  by_cases hsame : (Value.object entries).get? name = (Value.object entries').get? name
  · have hrefl (a : α) : g a = g a := rfl
    exact hfield.alike_of_get?_eq hsame hrefl absent
  · rcases h.build_of_ne hfield hblank hsame with ⟨a, ha, hg⟩
    rcases h.symm.build_of_ne hfield hblank (Ne.symm hsame) with ⟨b, hb, hg'⟩
    rw [ha, hb]
    exact .made (hg.trans hg'.symm)

/-- Objects with the same given entries are read as the same arguments, what is empty
left out, or fail alike. -/
theorem alike_decode (h : SameGiven entries entries') :
    Alike (fun a b => a.given = b.given) (ofValue decode (.object entries))
      (ofValue decode (.object entries')) := by
  have hfaults : entries.findSome? (fault? schema.fields) =
      entries'.findSome? (fault? schema.fields) := by
    rw [← findSome?_given entries, h.same, findSome?_given]
  have hother (name : String) (hname : name ∈ otherFields) :
      (fieldsOf schema.fields entries).get? name =
        (fieldsOf schema.fields entries').get? name := by
    rw [get?_fieldsOf (mem_names_of_other hname), get?_fieldsOf (mem_names_of_other hname),
      h.get?_eq_of_other hname]
  have hbuild := alike_build
    (fun name hname => h.alike_field (hasField_text hname) (blank_text hname))
    (fun name hname => h.alike_field (hasField_number hname) (blank_number hname))
    (fun name hname => h.alike_field (hasField_list hname) (blank_list hname))
    rfl hother
  have hfields := Schema.alike_decode rfl h.distinct h.distinct' hfaults hbuild
    "LaunchArguments"
  exact hfields.imp fun _ _ => given_eq_of_fieldByField

end SameGiven

end LaunchArguments
end Protocol
end TraceAdapter
