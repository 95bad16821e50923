import TraceAdapter.Proofs.Json.Records

/-!
# Records of two objects

What a schema makes of an object depends on its entries one by one: the first entry with
a fault decides what is reported, and without a fault each field is looked up by its
name.  So two objects whose entries differ in some fields only make records that differ
in these fields only.
-/

namespace TraceAdapter
namespace Json

mutual

theorem isComplete_ofValue : (v : Value) -> (Document.ofValue v).isComplete = true
  | .null => rfl
  | .bool _ => rfl
  | .number _ => rfl
  | .string _ => rfl
  | .array items => by
      rw [Document.ofValue, Document.isComplete, itemsComplete_ofValues items]
      rfl
  | .object entries => by
      rw [Document.ofValue, Document.isComplete, entriesComplete_ofValues entries]
      rfl

theorem itemsComplete_ofValues :
    (items : List Value) -> itemsComplete (itemsOfValues items) = true
  | [] => rfl
  | v :: rest => by
      rw [itemsOfValues, itemsComplete, isComplete_ofValue v, itemsComplete_ofValues rest]
      rfl

theorem entriesComplete_ofValues :
    (entries : List (String × Value)) ->
      entriesComplete (entriesOfValues entries) = true
  | [] => rfl
  | (key, v) :: rest => by
      rw [entriesOfValues, entriesComplete, isComplete_ofValue v,
        entriesComplete_ofValues rest]
      rfl

end

theorem findSome?_filter_of_none {γ δ : Type} {f : γ -> Option δ} {keep : γ -> Bool}
    {entries : List γ} (h : forall e, e ∈ entries -> ¬ keep e = true -> f e = none) :
    (entries.filter keep).findSome? f = entries.findSome? f := by
  induction entries with
  | nil => rfl
  | cons e rest ih =>
      have hrest := ih fun e' he' => h e' (List.mem_cons_of_mem e he')
      by_cases hkeep : keep e = true
      · rw [List.filter_cons_of_pos hkeep, List.findSome?_cons, List.findSome?_cons, hrest]
      · rw [List.filter_cons_of_neg hkeep, List.findSome?_cons, hrest,
          h e List.mem_cons_self hkeep]

namespace Schema

variable {α β α' β' : Type}

/-!
## Entries one by one
-/

def fault? (known : List Field) (e : String × Value) : Option DecodeError :=
  (known.find? fun f => f.name == e.1).bind fun f =>
    match f.check .tree (Document.ofValue e.2) with
    | .error fault => some fault
    | .ok _ => none

def foundIn (known : List Field) (entries : List (String × Value)) :
    List (String × Document) :=
  (entries.filter fun e => (known.find? fun f => f.name == e.1).isSome).map fun e =>
    (e.1, Document.ofValue e.2)

def fieldsOf (known : List Field) (entries : List (String × Value)) : Fields :=
  ⟨.tree, foundIn known entries, .missingField⟩

theorem fault?_of_check {known : List Field} {e : String × Value} {f : Field}
    (hfield : (known.find? fun f => f.name == e.1) = some f) {u : Unit}
    (hcheck : f.check .tree (Document.ofValue e.2) = .ok u) : fault? known e = none := by
  unfold fault?
  rw [hfield, Option.bind_some, hcheck]

theorem checkEntries_ofValues {known : List Field} {entries : List (String × Value)}
    (hdistinct : (entries.map Prod.fst).Nodup) (found : List (String × Document))
    (hnew : forall e, e ∈ entries -> e.1 ∉ found.map Prod.fst) :
    checkEntries known .tree found (entriesOfValues entries) =
      (entries.findSome? (fault? known)).elim
        (.ok (found.reverse ++ foundIn known entries)) .error := by
  -- What was found is kept with the last entry first.
  induction entries generalizing found with
  | nil =>
      show Except.ok found.reverse = Except.ok (found.reverse ++ [])
      rw [List.append_nil]
  | cons e rest ih =>
      rcases List.nodup_cons.mp hdistinct with ⟨hfirst, hrest⟩
      have hlater : forall e', e' ∈ rest -> e'.1 ∉ found.map Prod.fst :=
        fun e' he' => hnew e' (List.mem_cons_of_mem e he')
      rw [entriesOfValues, checkEntries, List.findSome?_cons]
      dsimp only [Literal.plain]
      cases hfield : known.find? fun f => f.name == e.1 with
      | none =>
          have hfault : fault? known e = none := by
            unfold fault?
            rw [hfield, Option.bind_none]
          have hskip : foundIn known (e :: rest) = foundIn known rest := by
            unfold foundIn
            rw [List.filter_cons, hfield]
            rfl
          dsimp only
          rw [if_pos (isComplete_ofValue e.2), hfault, hskip]
          exact ih hrest found hlater
      | some f =>
          have hnone : ¬ (found.any fun e' => e'.1 == e.1) = true := by
            rw [List.any_eq_true]
            rintro ⟨e', he', heq⟩
            exact hnew e List.mem_cons_self
              (List.mem_map.mpr ⟨e', he', eq_of_beq heq⟩)
          dsimp only
          rw [if_neg hnone]
          cases hcheck : f.check .tree (Document.ofValue e.2) with
          | error fault =>
              have hfault : fault? known e = some fault := by
                unfold fault?
                rw [hfield, Option.bind_some, hcheck]
              rw [hfault]
              rfl
          | ok u =>
              have hkeep : foundIn known (e :: rest) =
                  (e.1, Document.ofValue e.2) :: foundIn known rest := by
                unfold foundIn
                rw [List.filter_cons, hfield]
                rfl
              rw [fault?_of_check hfield hcheck, hkeep]
              have hgo := ih hrest ((e.1, Document.ofValue e.2) :: found) <| by
                intro e' he' hmem
                rw [List.map_cons, List.mem_cons] at hmem
                rcases hmem with hsame | hmem
                · exact hfirst (List.mem_map.mpr ⟨e', he', hsame⟩)
                · exact hlater e' he' hmem
              rw [List.reverse_cons, List.append_assoc] at hgo
              exact hgo

theorem decode_object {s : Schema α} {entries : List (String × Value)}
    (hdistinct : (entries.map Prod.fst).Nodup) (name : String) :
    ofValue (s.decode name) (.object entries) =
      (entries.findSome? (fault? s.fields)).elim (s.build (fieldsOf s.fields entries))
        .error := by
  show s.ofEntries .tree (entriesOfValues entries) true = _
  unfold ofEntries
  rw [checkEntries_ofValues hdistinct [] fun _ _ => List.not_mem_nil]
  cases entries.findSome? (fault? s.fields) with
  | some fault => rfl
  | none => rfl

theorem get?_fieldsOf {known : List Field} {name : String}
    (h : name ∈ known.map Field.name) (entries : List (String × Value)) :
    (fieldsOf known entries).get? name =
      ((Value.object entries).get? name).map Document.ofValue := by
  rcases List.mem_map.mp h with ⟨f, hf, rfl⟩
  have hkeep : (fun e : String × Value =>
      decide ((known.find? fun g => g.name == e.1).isSome = true ∧
        (e.1 == f.name) = true)) = fun e => e.1 == f.name := by
    funext e
    by_cases hname : e.1 = f.name
    · have hsome : (known.find? fun g => g.name == f.name).isSome = true :=
        List.find?_isSome.mpr ⟨f, hf, beq_self_eq_true _⟩
      simp only [hname, hsome, beq_self_eq_true, and_self, decide_true]
    · simp [hname]
  unfold Fields.get? fieldsOf foundIn Value.get?
  dsimp only
  rw [List.find?_map, List.find?_filter, Option.map_map, Option.map_map]
  have hsame := congrArg (fun p => (entries.find? p).map fun e => Document.ofValue e.2) hkeep
  exact hsame

/-!
## Alike results
-/

/-- Two readings come to the same fault, or to what is related. -/
inductive Alike (R : α -> β -> Prop) : Except DecodeError α -> Except DecodeError β -> Prop
    where
  | fault (e : DecodeError) : Alike R (.error e) (.error e)
  | made {a : α} {b : β} (h : R a b) : Alike R (.ok a) (.ok b)

theorem Alike.refl {R : α -> α -> Prop} (hR : forall a, R a a) (x : Except DecodeError α) :
    Alike R x x := by
  cases x with
  | error e => exact .fault e
  | ok a => exact .made (hR a)

theorem Alike.imp {R S : α -> β -> Prop} {x : Except DecodeError α} {y : Except DecodeError β}
    (h : Alike R x y) (himp : forall a b, R a b -> S a b) : Alike S x y := by
  cases h with
  | fault e => exact .fault e
  | made hab => exact .made (himp _ _ hab)

theorem Alike.eq_map {g : β -> α} {x : Except DecodeError α} {y : Except DecodeError β}
    (h : Alike (fun a b => a = g b) x y) : x = y.map g := by
  cases h with
  | fault e => rfl
  | made hab =>
      rw [hab]
      rfl

/-- Functions are related when they take what is related to what is related. -/
def Carries (R : α -> α' -> Prop) (S : β -> β' -> Prop) (g : α -> β) (g' : α' -> β') :
    Prop :=
  forall a a', R a a' -> S (g a) (g' a')

variable {R : α -> α' -> Prop} {S : β -> β' -> Prop} {fields fields' : Fields}

theorem Alike.mapped {x : Except DecodeError α} {x' : Except DecodeError α'} {g : α -> β}
    {g' : α' -> β'} (h : Alike R x x') (hg : Carries R S g g') :
    Alike S (x.map g) (x'.map g') := by
  cases h with
  | fault e => exact .fault e
  | made hab => exact .made (hg _ _ hab)

theorem Alike.map {s : Schema α} {s' : Schema α'} {g : α -> β} {g' : α' -> β'}
    (h : Alike R (s.build fields) (s'.build fields')) (hg : Carries R S g g') :
    Alike S ((g <$> s).build fields) ((g' <$> s').build fields') :=
  h.mapped hg

theorem Alike.seq {f : Schema (α -> β)} {f' : Schema (α' -> β')} {s : Schema α}
    {s' : Schema α'} (hf : Alike (Carries R S) (f.build fields) (f'.build fields'))
    (hs : Alike R (s.build fields) (s'.build fields')) :
    Alike S ((f <*> s).build fields) ((f' <*> s').build fields') := by
  show Alike S ((Schema.seq f s).build fields) ((Schema.seq f' s').build fields')
  unfold Schema.seq
  dsimp only
  generalize f.build fields = x at hf
  generalize f'.build fields' = x' at hf
  cases hf with
  | fault e => exact .fault e
  | made hg => exact hs.mapped hg

theorem alike_decode {s : Schema α} {s' : Schema α'} (hfields : s.fields = s'.fields)
    {entries entries' : List (String × Value)}
    (hdistinct : (entries.map Prod.fst).Nodup) (hdistinct' : (entries'.map Prod.fst).Nodup)
    (hfaults : entries.findSome? (fault? s.fields) = entries'.findSome? (fault? s.fields))
    (hbuild : Alike R (s.build (fieldsOf s.fields entries))
      (s'.build (fieldsOf s.fields entries'))) (name : String) :
    Alike R (ofValue (s.decode name) (.object entries))
      (ofValue (s'.decode name) (.object entries')) := by
  rw [decode_object hdistinct, decode_object hdistinct', ← hfields, hfaults]
  cases entries'.findSome? (fault? s.fields) with
  | some fault => exact .fault fault
  | none => exact hbuild

end Schema

end Json
end TraceAdapter
