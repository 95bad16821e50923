/-!
# Lists with keys

A list of pairs with at most one pair for each key, in the order in which the
keys came first.
-/

namespace TraceAdapter
namespace Keyed

variable {α : Type}

def get? (key : String) : List (String × α) -> Option α
  | [] => none
  | (k, v) :: rest => if k = key then some v else get? key rest

def put (key : String) (value : α) : List (String × α) -> List (String × α)
  | [] => [(key, value)]
  | (k, v) :: rest =>
      if k = key then (k, value) :: rest else (k, v) :: put key value rest

def drop (key : String) (pairs : List (String × α)) : List (String × α) :=
  pairs.filter fun p => p.1 ≠ key

/-!
## Laws
-/

@[simp] theorem get?_nil (key : String) : get? key ([] : List (String × α)) = none := rfl

theorem get?_put_self (key : String) (value : α) (pairs : List (String × α)) :
    get? key (put key value pairs) = some value := by
  induction pairs with
  | nil => simp [put, get?]
  | cons p rest ih =>
      rcases p with ⟨k, v⟩
      by_cases h : k = key
      · simp [put, get?, h]
      · simp [put, get?, h, ih]

theorem get?_put_of_ne {key other : String} (h : other ≠ key) (value : α)
    (pairs : List (String × α)) :
    get? other (put key value pairs) = get? other pairs := by
  induction pairs with
  | nil => simp [put, get?, Ne.symm h]
  | cons p rest ih =>
      rcases p with ⟨k, v⟩
      by_cases hk : k = key
      · subst hk
        simp [put, get?, Ne.symm h]
      · by_cases ho : k = other
        · subst ho
          simp [put, get?, hk]
        · simp [put, get?, hk, ho, ih]

theorem get?_drop_self (key : String) (pairs : List (String × α)) :
    get? key (drop key pairs) = none := by
  induction pairs with
  | nil => rfl
  | cons p rest ih =>
      rcases p with ⟨k, v⟩
      by_cases h : k = key
      · simpa [drop, h] using ih
      · simpa [drop, h, get?] using ih

theorem get?_drop_of_ne {key other : String} (h : other ≠ key)
    (pairs : List (String × α)) :
    get? other (drop key pairs) = get? other pairs := by
  induction pairs with
  | nil => rfl
  | cons p rest ih =>
      rcases p with ⟨k, v⟩
      by_cases hk : k = key
      · subst hk
        simpa [drop, get?, Ne.symm h] using ih
      · by_cases ho : k = other
        · subst ho
          simp [drop, hk, get?]
        · simpa [drop, hk, get?, ho] using ih

/-!
## Keys

With at most one pair for each key, looking a key up and finding its pair in
the list are the same, so the order of the pairs does not matter.
-/

def keys (pairs : List (String × α)) : List String := pairs.map Prod.fst

@[simp] theorem keys_nil : keys ([] : List (String × α)) = [] := rfl

@[simp] theorem keys_cons (p : String × α) (rest : List (String × α)) :
    keys (p :: rest) = p.1 :: keys rest := rfl

theorem mem_of_get?_eq_some {key : String} {value : α}
    {pairs : List (String × α)} (h : get? key pairs = some value) :
    (key, value) ∈ pairs := by
  induction pairs with
  | nil => cases h
  | cons p rest ih =>
      rcases p with ⟨k, v⟩
      by_cases hk : k = key
      · simp [get?, hk] at h
        simp [hk, h]
      · simp [get?, hk] at h
        exact List.mem_cons_of_mem _ (ih h)

theorem mem_keys_of_mem {key : String} {value : α} {pairs : List (String × α)}
    (h : (key, value) ∈ pairs) : key ∈ keys pairs :=
  List.mem_map_of_mem (f := Prod.fst) h

theorem get?_of_mem {key : String} {value : α} {pairs : List (String × α)}
    (honce : (keys pairs).Nodup) (h : (key, value) ∈ pairs) :
    get? key pairs = some value := by
  induction pairs with
  | nil => cases h
  | cons p rest ih =>
      rcases p with ⟨k, v⟩
      rcases List.nodup_cons.mp honce with ⟨hfresh, hrest⟩
      rcases List.mem_cons.mp h with heq | hmem
      · cases heq
        simp [get?]
      · have hne : k ≠ key := by
          intro heq
          exact hfresh (heq ▸ mem_keys_of_mem hmem)
        simp [get?, hne, ih hrest hmem]

theorem get?_eq_some_iff {key : String} {value : α} {pairs : List (String × α)}
    (honce : (keys pairs).Nodup) :
    get? key pairs = some value ↔ (key, value) ∈ pairs :=
  ⟨mem_of_get?_eq_some, get?_of_mem honce⟩

theorem get?_perm {first second : List (String × α)} (h : first.Perm second)
    (honce : (keys first).Nodup) (key : String) :
    get? key first = get? key second := by
  have honce' : (keys second).Nodup := (h.map Prod.fst).nodup_iff.mp honce
  apply Option.ext
  intro value
  rw [get?_eq_some_iff honce, get?_eq_some_iff honce']
  exact h.mem_iff

theorem mem_keys_put {key other : String} {value : α} {pairs : List (String × α)} :
    other ∈ keys (put key value pairs) ↔ other = key ∨ other ∈ keys pairs := by
  induction pairs with
  | nil => simp [put]
  | cons p rest ih =>
      rcases p with ⟨k, v⟩
      by_cases hk : k = key
      · simp [put, hk]
      · simp only [put, hk, if_false, keys_cons, List.mem_cons, ih]
        exact or_left_comm

theorem nodup_keys_put {key : String} {value : α} {pairs : List (String × α)}
    (h : (keys pairs).Nodup) : (keys (put key value pairs)).Nodup := by
  induction pairs with
  | nil => simp [put]
  | cons p rest ih =>
      rcases p with ⟨k, v⟩
      rcases List.nodup_cons.mp h with ⟨hfresh, hrest⟩
      by_cases hk : k = key
      · simpa [put, hk] using h
      · have hfresh' : k ∉ keys (put key value rest) := by
          rw [mem_keys_put]
          rintro (heq | hmem)
          · exact hk heq
          · exact hfresh hmem
        simpa [put, hk] using And.intro hfresh' (ih hrest)

theorem mem_keys_drop {key other : String} {pairs : List (String × α)} :
    other ∈ keys (drop key pairs) ↔ other ≠ key ∧ other ∈ keys pairs := by
  simp only [keys, drop, List.mem_map, List.mem_filter, decide_eq_true_eq]
  constructor
  · rintro ⟨p, ⟨hp, hne⟩, rfl⟩
    exact ⟨hne, p, hp, rfl⟩
  · rintro ⟨hne, p, hp, rfl⟩
    exact ⟨p, ⟨hp, hne⟩, rfl⟩

theorem nodup_keys_drop {key : String} {pairs : List (String × α)}
    (h : (keys pairs).Nodup) : (keys (drop key pairs)).Nodup :=
  List.Nodup.sublist (List.filter_sublist.map Prod.fst) h

end Keyed
end TraceAdapter
