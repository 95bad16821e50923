import TraceAdapter.Json.Reading
import TraceAdapter.Proofs.Json.Values

/-!
# Reading again

A decoder is stable under a way to write when whatever it makes of a document it
makes again of what that is written as.
-/

namespace TraceAdapter
namespace Json

theorem Origin.enter_of_room {o : Origin} (h : o.room = none) : o.enter = some o := by
  cases o with
  | text room => cases h
  | tree => rfl
  | buffer => rfl
  | settings => rfl

namespace Decoder

variable {α : Type}

/-- A decoder makes something of a value, wherever the value comes from that is at
hand already. -/
def Reads (item : Decoder α) (v : Value) (a : α) : Prop :=
  forall o : Origin, o.room = none -> item o (Document.ofValue v) = .ok a

/-- What was made of a document is made again of what it is written as. -/
def Stable (item : Decoder α) (write : α -> Value) : Prop :=
  forall o d a, item o d = .ok a -> item.Reads (write a) a

/-- What was made of a value is made again of what it is written as. -/
def Restored (item : Decoder α) (write : α -> Value) : Prop :=
  forall v a, ofValue item v = .ok a -> ofValue item (write a) = .ok a

theorem Stable.restored {item : Decoder α} {write : α -> Value}
    (h : item.Stable write) : item.Restored write :=
  fun v a ha => h .tree (Document.ofValue v) a ha .tree rfl

/-!
## Texts, truth values and numbers
-/

theorem stable_text : text.Stable .string := fun _ _ _ _ _ _ => rfl

theorem stable_bool : bool.Stable .bool := fun _ _ _ _ _ _ => rfl

theorem integer_eq_ok {low high i : Int} {expected : String} {o : Origin} {d : Document}
    (h : integer low high expected o d = .ok i) : low ≤ i ∧ i ≤ high := by
  unfold integer at h
  split at h
  · split at h
    · rename_i hrange
      cases h
      exact hrange
    · cases h
  · cases h

theorem reads_integer {low high i : Int} (h : low ≤ i ∧ i ≤ high) (expected : String) :
    (integer low high expected).Reads (.int i) i := by
  intro o _
  show (if low ≤ i ∧ i ≤ high then Except.ok i else _) = _
  rw [if_pos h]

theorem stable_int64 : int64.Stable .int := by
  intro o d i h
  exact reads_integer (integer_eq_ok h) "i64"

def Fits64 (i : Int) : Prop :=
  -(Numeral.signedBound64 : Int) ≤ i ∧ i < Numeral.signedBound64

theorem fits64_of_int64 {i : Int} {o : Origin} {d : Document} (h : int64 o d = .ok i) :
    Fits64 i := by
  have hrange := integer_eq_ok h
  exact ⟨hrange.1, Int.lt_of_le_sub_one hrange.2⟩

theorem reads_int64 {i : Int} (h : Fits64 i) : int64.Reads (.int i) i :=
  reads_integer ⟨h.1, Int.le_sub_one_of_lt h.2⟩ "i64"

theorem lt_of_natural {bound n : Nat} {expected : String} {o : Origin} {d : Document}
    (h : natural bound expected o d = .ok n) : n < bound := by
  unfold natural at h
  cases hinteger : integer 0 (bound - 1) expected o d with
  | error e =>
      rw [hinteger] at h
      cases h
  | ok i =>
      rw [hinteger] at h
      cases h
      have hrange := integer_eq_ok hinteger
      omega

theorem reads_natural {bound n : Nat} (h : n < bound) (expected : String) :
    (natural bound expected).Reads (.nat n) n := by
  intro o ho
  have hrange : (0 : Int) ≤ n ∧ (n : Int) ≤ bound - 1 :=
    ⟨Int.natCast_nonneg n, Int.le_sub_one_of_lt (Int.ofNat_lt.mpr h)⟩
  unfold natural
  rw [Value.nat, ← Value.int, reads_integer hrange expected o ho]
  rfl

theorem stable_natural (bound : Nat) (expected : String) :
    (natural bound expected).Stable .nat := by
  intro o d n h
  exact reads_natural (lt_of_natural h) expected

theorem stable_nat32 : nat32.Stable .nat := stable_natural Numeral.bound32 "u32"

theorem stable_nat64 : nat64.Stable .nat := stable_natural Numeral.bound64 "u64"

theorem stable_size : size.Stable .nat := stable_natural Numeral.bound64 "usize"

/-!
## Values
-/

theorem reads_value {v : Value} (h : v.Sound) : value.Reads v v := by
  intro o ho
  have hvalue : (Document.ofValue v).value? none = some v := h
  unfold value
  rw [ho, hvalue]

theorem value_eq_ok {o : Origin} {d : Document} {v : Value} (h : value o d = .ok v) :
    d.value? o.room = some v := by
  unfold value at h
  split at h
  · rename_i hvalue
    cases h
    exact hvalue
  · cases h

theorem stable_value : value.Stable id := by
  intro o d v h
  exact reads_value (sound_of_value? d (value_eq_ok h))

theorem eq_null_of_value {o : Origin} {d : Document} (h : value o d = .ok .null) :
    d = .null := by
  have hvalue := value_eq_ok h
  cases d with
  | null => rfl
  | broken => cases hvalue
  | bool b => cases hvalue
  | number n =>
      rcases Option.map_eq_some_iff.mp hvalue with ⟨_, _, hnull⟩
      cases hnull
  | string s =>
      rcases Option.map_eq_some_iff.mp hvalue with ⟨_, _, hnull⟩
      cases hnull
  | array items closed =>
      rw [Document.value?] at hvalue
      repeat' split at hvalue
      all_goals cases hvalue
  | object entries closed =>
      rw [Document.value?] at hvalue
      repeat' split at hvalue
      all_goals cases hvalue

/-!
## Values that may be null
-/

theorem option_of_ne_null {item : Decoder α} {d : Document} (h : d ≠ .null)
    (o : Origin) : option item o d = (item o d).map some := by
  cases d with
  | null => exact absurd rfl h
  | _ => rfl

theorem ofValue_ne_null {v : Value} (h : v ≠ .null) : Document.ofValue v ≠ .null := by
  cases v with
  | null => exact absurd rfl h
  | _ => nofun

theorem Reads.option {item : Decoder α} {v : Value} {a : α} (h : item.Reads v a)
    (hv : v ≠ .null) : (option item).Reads v (some a) := by
  intro o ho
  rw [option_of_ne_null (ofValue_ne_null hv), h o ho]
  rfl

theorem reads_null (item : Decoder α) : (option item).Reads .null none := fun _ _ => rfl

theorem option_cases {item : Decoder α} {o : Origin} {d : Document} {a? : Option α}
    (h : option item o d = .ok a?) :
    a? = none ∨ exists a, a? = some a ∧ d ≠ .null ∧ item o d = .ok a := by
  by_cases hd : d = .null
  · subst hd
    cases h
    exact Or.inl rfl
  · rw [option_of_ne_null hd] at h
    cases hitem : item o d with
    | error e =>
        rw [hitem] at h
        cases h
    | ok a =>
        rw [hitem] at h
        cases h
        exact Or.inr ⟨a, rfl, hd, rfl⟩

theorem Stable.orNull {item : Decoder α} {write : α -> Value} (h : item.Stable write)
    (hnull : forall a, write a ≠ .null) :
    (Decoder.option item).Stable (Value.orNull write) := by
  intro o d a? ha
  rcases option_cases ha with rfl | ⟨a, rfl, _, hitem⟩
  · exact reads_null item
  · exact (h o d a hitem).option (hnull a)

/-!
## Lists
-/

theorem reads_items {item : Decoder α} {write : α -> Value} {as : List α}
    (h : forall a, a ∈ as -> item.Reads (write a) a) {o : Origin} (ho : o.room = none) :
    items item o (itemsOfValues (as.map write)) = .ok as := by
  induction as with
  | nil => rfl
  | cons a rest ih =>
      rw [List.map_cons, itemsOfValues, items, h a List.mem_cons_self o ho,
        ih fun a' ha' => h a' (List.mem_cons_of_mem a ha')]
      rfl

theorem reads_list {item : Decoder α} {write : α -> Value} {as : List α}
    (h : forall a, a ∈ as -> item.Reads (write a) a) :
    (list item).Reads (.array (as.map write)) as := by
  intro o ho
  rw [Document.ofValue, list, Origin.enter_of_room ho]
  dsimp only
  rw [reads_items h ho]
  rfl

theorem reads_nil (item : Decoder α) : (list item).Reads (.array []) [] :=
  -- No item is written, so any way to write items will do.
  @reads_list α item (fun _ => .null) [] fun _ ha => absurd ha List.not_mem_nil

theorem exists_of_mem_items {item : Decoder α} {o : Origin} {ds : List Document}
    {as : List α} (h : items item o ds = .ok as) {a : α} (ha : a ∈ as) :
    exists d, item o d = .ok a := by
  induction ds generalizing as with
  | nil =>
      cases h
      cases ha
  | cons d rest ih =>
      rw [items] at h
      split at h
      · cases h
      · rename_i first hfirst
        cases hrest : items item o rest with
        | error e =>
            rw [hrest] at h
            cases h
        | ok others =>
            rw [hrest] at h
            cases h
            rcases List.mem_cons.mp ha with rfl | hmem
            · exact ⟨d, hfirst⟩
            · exact ih hrest hmem

theorem list_eq_ok {item : Decoder α} {o : Origin} {d : Document} {as : List α}
    (h : list item o d = .ok as) :
    exists inner ds, items item inner ds = .ok as := by
  unfold list at h
  split at h
  · split at h
    · cases h
    · split at h
      · cases h
      · rename_i ds _ _ inner _ _ _ hitems
        split at h
        · cases h
          exact ⟨inner, ds, hitems⟩
        · cases h
  · cases h

theorem Stable.list {item : Decoder α} {write : α -> Value} (h : item.Stable write) :
    (list item).Stable fun as => .array (as.map write) := by
  intro o d as has
  rcases list_eq_ok has with ⟨inner, ds, hitems⟩
  apply reads_list
  intro a ha
  rcases exists_of_mem_items hitems ha with ⟨d', hd'⟩
  exact h inner d' a hd'

theorem stable_values : (Decoder.list value).Stable .array := by
  intro o d vs h
  have hvs : (Decoder.list value).Reads (.array (vs.map id)) vs :=
    stable_value.list o d vs h
  rw [List.map_id] at hvs
  exact hvs

end Decoder

end Json
end TraceAdapter
