import Mathlib.Data.List.Nodup
import TraceAdapter.Proofs.Json.Stability

/-!
# Reading records again

The fields of a schema have their names, and a record is written as entries with some
of these names.  A field is written as one entry, or as none when it has the value
that it has where it is absent.  A schema that keeps what its fields hold makes the
same record again of the entries, in whichever order they are.
-/

namespace TraceAdapter
namespace Json

theorem find?_key_eq_some_iff {α : Type} {entries : List (String × α)}
    (h : (entries.map Prod.fst).Nodup) {key : String} {a : α} :
    (entries.find? fun e => e.1 == key).map Prod.snd = some a ↔ (key, a) ∈ entries := by
  rw [Option.map_eq_some_iff]
  constructor
  · rintro ⟨⟨key', a'⟩, hfind, rfl⟩
    have hkey := List.find?_some hfind
    exact eq_of_beq hkey ▸ List.mem_of_find?_eq_some hfind
  · intro hmem
    cases hfind : entries.find? fun e => e.1 == key with
    | none =>
        have hnone := List.find?_eq_none.mp hfind (key, a) hmem
        exact absurd (beq_self_eq_true key) hnone
    | some e =>
        refine ⟨e, rfl, ?_⟩
        have hkey := List.find?_some hfind
        have he := List.mem_of_find?_eq_some hfind
        have heq := List.inj_on_of_nodup_map h he hmem (eq_of_beq hkey)
        rw [heq]

namespace Fields

/-- As far as some names go the fields hold the values of entries. -/
def Hold (fields : Fields) (names : List String) (entries : List (String × Value)) :
    Prop :=
  forall name, name ∈ names -> forall d,
    fields.get? name = some d ↔
      exists v, (name, v) ∈ entries ∧ Document.ofValue v = d

theorem Hold.part {fields : Fields} {names part : List String}
    {entries those : List (String × Value)} (h : fields.Hold names entries)
    (hpart : forall name, name ∈ part -> name ∈ names)
    (hthose : forall name, name ∈ part -> forall v,
      (name, v) ∈ entries ↔ (name, v) ∈ those) :
    fields.Hold part those := by
  intro name hname d
  rw [h name (hpart name hname)]
  simp only [hthose name hname]

theorem get?_eq_some_iff {fields : Fields} (h : (fields.found.map Prod.fst).Nodup)
    {name : String} {d : Document} :
    fields.get? name = some d ↔ (name, d) ∈ fields.found :=
  find?_key_eq_some_iff h

end Fields

namespace Schema

variable {α β π ρ : Type}

def names (s : Schema α) : List String := s.fields.map Field.name

/-- A schema makes a record of entries, wherever their values come from. -/
structure Restores (s : Schema α) (entries : List (String × Value)) (a : α) : Prop where
  known : forall e, e ∈ entries -> e.1 ∈ s.names
  distinct : (entries.map Prod.fst).Nodup
  checked : forall e, e ∈ entries -> forall f, f ∈ s.fields -> f.name = e.1 ->
    forall o : Origin, o.room = none -> f.check o (Document.ofValue e.2) = .ok ()
  built : forall fields : Fields, fields.origin.room = none ->
    fields.Hold s.names entries -> s.build fields = .ok a

/-- What a schema makes of fields consists of parts, and the entries that these are
written as restore it. -/
def Keeps (s : Schema α) (make : π -> α) (write : π -> List (String × Value)) : Prop :=
  s.names.Nodup -> forall fields a, s.build fields = .ok a ->
    exists p, make p = a ∧ s.Restores (write p) a

/-!
## Single fields
-/

section Field

variable {name : String} {item : Decoder α}

/-- A field is written as an entry, or as none when it has the value for when it is
absent. -/
inductive WrittenAs (name : String) (item : Decoder α) (absent : Option α) (a : α) :
    List (String × Value) -> Prop where
  | entry {v : Value} : item.Reads v a -> WrittenAs name item absent a [(name, v)]
  | omitted : absent = some a -> WrittenAs name item absent a []

theorem restores_default {absent a : α} {entries : List (String × Value)}
    (h : WrittenAs name item (some absent) a entries) :
    (default name item absent).Restores entries a := by
  cases h with
  | omitted habsent =>
      cases habsent
      refine ⟨nofun, List.nodup_nil, nofun, ?_⟩
      intro fields _ hhold
      have hnone : fields.get? name = none := by
        rw [Option.eq_none_iff_forall_ne_some]
        intro d hd
        rcases (hhold name List.mem_cons_self d).mp hd with ⟨v, hv, _⟩
        cases hv
      unfold default
      dsimp only
      rw [hnone]
  | entry hread =>
      rename_i v
      constructor
      · intro e he
        cases List.mem_singleton.mp he
        exact List.mem_cons_self
      · exact List.nodup_singleton name
      · intro e he f hf _ o ho
        cases List.mem_singleton.mp he
        cases List.mem_singleton.mp hf
        show (item o (Document.ofValue v)).map _ = _
        rw [hread o ho]
        rfl
      · intro fields ho hhold
        have hsome : fields.get? name = some (Document.ofValue v) :=
          (hhold name List.mem_cons_self _).mpr ⟨v, List.mem_cons_self, rfl⟩
        unfold default
        dsimp only
        rw [hsome]
        exact hread fields.origin ho

theorem restores_required {v : Value} {a : α} (h : item.Reads v a) :
    (required name item).Restores [(name, v)] a := by
  have hdefault : (default name item a).Restores [(name, v)] a :=
    restores_default (WrittenAs.entry h)
  refine ⟨hdefault.known, hdefault.distinct, hdefault.checked, ?_⟩
  intro fields ho hhold
  have hsome : fields.get? name = some (Document.ofValue v) :=
    (hhold name List.mem_cons_self _).mpr ⟨v, List.mem_cons_self, rfl⟩
  unfold required
  dsimp only
  rw [hsome]
  exact h fields.origin ho

theorem writtenAs_optional {write : α -> Value} {a? : Option α}
    (h : forall a, a? = some a -> item.Reads (write a) a ∧ write a ≠ .null) :
    WrittenAs name (Decoder.option item) (some none) a? <| entry? name write a? := by
  cases a? with
  | none => exact .omitted rfl
  | some a => exact .entry ((h a rfl).1.option (h a rfl).2)

theorem required_build_eq_ok {fields : Fields} {a : α}
    (h : (required name item).build fields = .ok a) :
    exists d, item fields.origin d = .ok a := by
  unfold required at h
  dsimp only at h
  split at h
  · exact ⟨_, h⟩
  · cases h

theorem optional_build_eq_some {fields : Fields} {a : α}
    (h : (optional name item).build fields = .ok (some a)) :
    exists d, item fields.origin d = .ok a := by
  unfold optional default at h
  dsimp only at h
  split at h
  · rcases Decoder.option_cases h with hnone | ⟨_, hsome, _, hitem⟩
    · cases hnone
    · cases hsome
      exact ⟨_, hitem⟩
  · cases h

theorem keeps_required (name : String) {write : α -> Value} (h : item.Stable write) :
    (required name item).Keeps id fun a => [(name, write a)] := by
  intro _ fields a ha
  rcases required_build_eq_ok ha with ⟨d, hd⟩
  exact ⟨a, rfl, restores_required (h fields.origin d a hd)⟩

theorem keeps_default (name : String) {absent : α} {write : α -> List (String × Value)}
    (hread : forall o d a, item o d = .ok a ->
      WrittenAs name item (some absent) a (write a))
    (habsent : WrittenAs name item (some absent) absent (write absent)) :
    (default name item absent).Keeps id write := by
  intro _ fields a ha
  refine ⟨a, rfl, ?_⟩
  unfold default at ha
  dsimp only at ha
  split at ha
  · exact restores_default (hread _ _ a ha)
  · cases ha
    exact restores_default habsent

theorem keeps_always (name : String) (absent : α) {write : α -> Value}
    (h : item.Stable write)
    (habsent : item.Reads (write absent) absent) :
    (default name item absent).Keeps id fun a => [(name, write a)] :=
  keeps_default name (fun o d a ha => WrittenAs.entry (h o d a ha))
    (WrittenAs.entry habsent)

theorem keeps_optional (name : String) {write : α -> Value} (h : item.Stable write)
    (hnull : forall o d a, item o d = .ok a -> write a = .null -> d = .null) :
    (optional name item).Keeps id fun a? => entry? name write a? := by
  apply keeps_default
  · intro o d a? ha
    rcases Decoder.option_cases ha with rfl | ⟨a, rfl, hd, hitem⟩
    · exact WrittenAs.omitted rfl
    · exact WrittenAs.entry ((h o d a hitem).option fun hv => hd (hnull o d a hitem hv))
  · exact WrittenAs.omitted rfl

end Field

/-!
## Fields after one another
-/

theorem map_build_eq_ok {s : Schema α} {g : α -> β} {fields : Fields} {b : β}
    (h : (g <$> s).build fields = .ok b) :
    exists a, s.build fields = .ok a ∧ g a = b := by
  change (s.build fields).map g = .ok b at h
  cases ha : s.build fields with
  | error e =>
      rw [ha] at h
      cases h
  | ok a =>
      rw [ha] at h
      cases h
      exact ⟨a, rfl, rfl⟩

theorem seq_build_eq_ok {f : Schema (α -> β)} {s : Schema α} {fields : Fields} {b : β}
    (h : (f <*> s).build fields = .ok b) :
    exists g a, f.build fields = .ok g ∧ s.build fields = .ok a ∧ g a = b := by
  change (seq f s).build fields = .ok b at h
  unfold seq at h
  dsimp only at h
  cases hg : f.build fields with
  | error e =>
      rw [hg] at h
      cases h
  | ok g =>
      rw [hg] at h
      rcases map_build_eq_ok h with ⟨a, ha, hb⟩
      exact ⟨g, a, rfl, ha, hb⟩

theorem seq_build_of_ok {f : Schema (α -> β)} {s : Schema α} {fields : Fields}
    {g : α -> β} {a : α} (hf : f.build fields = .ok g) (hs : s.build fields = .ok a) :
    (f <*> s).build fields = .ok (g a) := by
  show (seq f s).build fields = _
  unfold seq
  dsimp only
  rw [hf, hs]
  rfl

theorem map_build_of_ok {s : Schema α} {fields : Fields} {a : α}
    (h : s.build fields = .ok a) (g : α -> β) : (g <$> s).build fields = .ok (g a) := by
  show (s.build fields).map g = _
  rw [h]
  rfl

theorem Restores.map {s : Schema α} {entries : List (String × Value)} {a : α}
    (h : s.Restores entries a) (g : α -> β) : (g <$> s).Restores entries (g a) := by
  refine ⟨h.known, h.distinct, h.checked, ?_⟩
  intro fields ho hhold
  exact map_build_of_ok (h.built fields ho hhold) g

theorem names_seq (f : Schema (α -> β)) (s : Schema α) :
    (f <*> s).names = f.names ++ s.names := List.map_append

theorem Restores.seq {f : Schema (α -> β)} {s : Schema α}
    {before after : List (String × Value)} {g : α -> β} {a : α}
    (hf : f.Restores before g) (hs : s.Restores after a)
    (hnames : (f <*> s).names.Nodup) :
    (f <*> s).Restores (before ++ after) (g a) := by
  have hapart : f.names.Disjoint s.names := by
    rw [names_seq] at hnames
    exact List.disjoint_of_nodup_append hnames
  -- An entry and a field of one name are on the same side.
  constructor
  · intro e he
    rw [names_seq]
    rcases List.mem_append.mp he with hmem | hmem
    · exact List.mem_append_left _ (hf.known e hmem)
    · exact List.mem_append_right _ (hs.known e hmem)
  · rw [List.map_append]
    refine List.nodup_append'.mpr ⟨hf.distinct, hs.distinct, ?_⟩
    intro name hbefore hafter
    rcases List.mem_map.mp hbefore with ⟨e, he, rfl⟩
    rcases List.mem_map.mp hafter with ⟨e', he', hname⟩
    exact hapart (hf.known e he) (hname ▸ hs.known e' he')
  · intro e he field hfield hname
    rcases List.mem_append.mp he with hmem | hmem
    · rcases List.mem_append.mp hfield with hin | hin
      · exact hf.checked e hmem field hin hname
      · have hother : e.1 ∈ s.names := hname ▸ List.mem_map_of_mem hin
        exact absurd hother (hapart (hf.known e hmem))
    · rcases List.mem_append.mp hfield with hin | hin
      · have hother : e.1 ∈ f.names := hname ▸ List.mem_map_of_mem hin
        exact absurd (hs.known e hmem) (hapart hother)
      · exact hs.checked e hmem field hin hname
  · intro fields ho hhold
    rw [names_seq] at hhold
    have hbefore : fields.Hold f.names before := by
      apply hhold.part fun _ => List.mem_append_left _
      intro name hname v
      have hnot : (name, v) ∉ after := fun hmem => hapart hname (hs.known _ hmem)
      simp only [List.mem_append, hnot, or_false]
    have hafter : fields.Hold s.names after := by
      apply hhold.part fun _ => List.mem_append_right _
      intro name hname v
      have hnot : (name, v) ∉ before := fun hmem => hapart (hf.known _ hmem) hname
      simp only [List.mem_append, hnot, false_or]
    exact seq_build_of_ok (hf.built fields ho hbefore) (hs.built fields ho hafter)

theorem Keeps.map {s : Schema α} {make : π -> α} {write : π -> List (String × Value)}
    (h : s.Keeps make write) (g : α -> β) : (g <$> s).Keeps (fun p => g (make p)) write := by
  intro hnames fields b hb
  rcases map_build_eq_ok hb with ⟨a, ha, rfl⟩
  rcases h hnames fields a ha with ⟨p, rfl, hrestores⟩
  exact ⟨p, rfl, hrestores.map g⟩

theorem Keeps.seq {f : Schema (α -> β)} {s : Schema α} {make : π -> α -> β}
    {make' : ρ -> α} {write : π -> List (String × Value)}
    {write' : ρ -> List (String × Value)} (hf : f.Keeps make write)
    (hs : s.Keeps make' write') :
    (f <*> s).Keeps (fun p : π × ρ => make p.1 (make' p.2))
      fun p => write p.1 ++ write' p.2 := by
  intro hnames fields b hb
  have happend := hnames
  rw [names_seq] at happend
  rcases seq_build_eq_ok hb with ⟨g, a, hg, ha, rfl⟩
  rcases hf happend.of_append_left fields g hg with ⟨p, rfl, hbefore⟩
  rcases hs happend.of_append_right fields a ha with ⟨q, rfl, hafter⟩
  exact ⟨(p, q), rfl, hbefore.seq hafter hnames⟩

/-!
## Whole records
-/

theorem Restores.perm {s : Schema α} {entries other : List (String × Value)} {a : α}
    (h : s.Restores entries a) (hperm : other.Perm entries) : s.Restores other a where
  known := fun e he => h.known e (hperm.mem_iff.mp he)
  distinct := (hperm.map Prod.fst).nodup_iff.mpr h.distinct
  checked := fun e he => h.checked e (hperm.mem_iff.mp he)
  built := fun fields ho hhold =>
    h.built fields ho (hhold.part (fun _ hname => hname) fun _ _ _ => hperm.mem_iff)

theorem checkEntries_cons {known : List Field} {o : Origin} {e : String × Value}
    (hknown : e.1 ∈ known.map Field.name)
    (hchecked : forall f, f ∈ known -> f.name = e.1 ->
      f.check o (Document.ofValue e.2) = .ok ())
    {found : List (String × Document)} (hnew : e.1 ∉ found.map Prod.fst)
    (rest : List (String × Value)) :
    checkEntries known o found (entriesOfValues (e :: rest)) =
      checkEntries known o ((e.1, Document.ofValue e.2) :: found)
        (entriesOfValues rest) := by
  rcases List.mem_map.mp hknown with ⟨field, hfield, hname⟩
  have hsome : (known.find? fun f => f.name == e.1).isSome = true :=
    List.find?_isSome.mpr ⟨field, hfield, beq_iff_eq.mpr hname⟩
  rcases Option.isSome_iff_exists.mp hsome with ⟨f, hf⟩
  have hsame := List.find?_some hf
  have hcheck := hchecked f (List.mem_of_find?_eq_some hf) (eq_of_beq hsame)
  have hnone : ¬ (found.any fun e' => e'.1 == e.1) = true := by
    rw [List.any_eq_true]
    rintro ⟨e', he', heq⟩
    exact hnew (List.mem_map.mpr ⟨e', he', eq_of_beq heq⟩)
  rw [entriesOfValues, checkEntries]
  dsimp only [Literal.plain]
  rw [hf]
  dsimp only
  rw [if_neg hnone, hcheck]

theorem checkEntries_of_checked {known : List Field} {o : Origin}
    {entries : List (String × Value)}
    (hknown : forall e, e ∈ entries -> e.1 ∈ known.map Field.name)
    (hdistinct : (entries.map Prod.fst).Nodup)
    (hchecked : forall e, e ∈ entries -> forall f, f ∈ known -> f.name = e.1 ->
      f.check o (Document.ofValue e.2) = .ok ())
    (found : List (String × Document))
    (hnew : forall e, e ∈ entries -> e.1 ∉ found.map Prod.fst) :
    checkEntries known o found (entriesOfValues entries) =
      .ok (found.reverse ++ entries.map fun e => (e.1, Document.ofValue e.2)) := by
  -- What was found is kept with the last entry first.
  induction entries generalizing found with
  | nil =>
      rw [entriesOfValues, checkEntries, List.map_nil, List.append_nil]
  | cons e rest ih =>
      rcases List.nodup_cons.mp hdistinct with ⟨hfirst, hrest⟩
      rw [checkEntries_cons (hknown e List.mem_cons_self) (hchecked e List.mem_cons_self)
          (hnew e List.mem_cons_self),
        ih (fun e' he' => hknown e' (List.mem_cons_of_mem e he')) hrest
          fun e' he' => hchecked e' (List.mem_cons_of_mem e he')]
      · rw [List.reverse_cons, List.append_assoc]
        rfl
      · intro e' he' hmem
        rcases List.mem_cons.mp hmem with heq | hmem
        · exact hfirst (heq ▸ List.mem_map_of_mem he')
        · exact hnew e' (List.mem_cons_of_mem e he') hmem

theorem Restores.reads {s : Schema α} {entries : List (String × Value)} {a : α}
    (h : s.Restores entries a) (name : String) :
    (s.decode name).Reads (.object entries) a := by
  intro o ho
  have hentries := checkEntries_of_checked h.known h.distinct
    (fun e he f hf hname => h.checked e he f hf hname o ho) []
    (fun _ _ => List.not_mem_nil)
  rw [Document.ofValue, decode, Origin.enter_of_room ho]
  dsimp only
  unfold ofEntries
  rw [hentries]
  apply h.built _ ho
  intro name _ d
  have hdistinct : ((entries.map fun e => (e.1, Document.ofValue e.2)).map
      Prod.fst).Nodup := by
    rw [List.map_map]
    exact h.distinct
  rw [Fields.get?_eq_some_iff hdistinct]
  constructor
  · intro hmem
    rcases List.mem_map.mp hmem with ⟨⟨key, v⟩, he, heq⟩
    cases heq
    exact ⟨v, he, rfl⟩
  · rintro ⟨v, hv, rfl⟩
    exact List.mem_map.mpr ⟨(name, v), hv, rfl⟩

theorem exists_build_of_decode {s : Schema α} {name : String} {o : Origin}
    {d : Document} {a : α} (h : s.decode name o d = .ok a) :
    exists fields, s.build fields = .ok a := by
  unfold decode at h
  split at h
  · split at h
    · cases h
    · unfold ofEntries at h
      split at h
      · cases h
      · split at h
        · exact ⟨_, h⟩
        · cases h
  · split at h
    · cases h
    · unfold ofItems at h
      split at h
      · cases h
      · split at h
        · cases h
        · dsimp only at h
          split at h
          · cases h
          · rename_i made hmade
            split at h
            · cases h
            · split at h
              · cases h
                exact ⟨_, hmade⟩
              · cases h
  · cases h

theorem exists_build_of_map_decode {s : Schema α} {name : String} {o : Origin}
    {d : Document} {g : α -> β} {b : β} (h : (s.decode name o d).map g = .ok b) :
    exists fields a, s.build fields = .ok a ∧ g a = b := by
  cases ha : s.decode name o d with
  | error e =>
      rw [ha] at h
      cases h
  | ok a =>
      rw [ha] at h
      cases h
      rcases exists_build_of_decode ha with ⟨fields, hfields⟩
      exact ⟨fields, a, hfields, rfl⟩

/-- What was made of fields is made again of the entries that its schema keeps, in
whichever order they are written. -/
theorem Keeps.reads_of_build {s : Schema α} {make : π -> α}
    {write : π -> List (String × Value)} (h : s.Keeps make write)
    (hnames : s.names.Nodup) {entries : α -> List (String × Value)}
    (hentries : forall p, (entries (make p)).Perm (write p)) {fields : Fields} {a : α}
    (ha : s.build fields = .ok a) (name : String) :
    (s.decode name).Reads (.object (entries a)) a := by
  rcases h hnames fields a ha with ⟨p, rfl, hrestores⟩
  exact (hrestores.perm (hentries p)).reads name

theorem Keeps.stable {s : Schema α} {make : π -> α} {write : π -> List (String × Value)}
    (h : s.Keeps make write) (hnames : s.names.Nodup)
    {entries : α -> List (String × Value)}
    (hentries : forall p, (entries (make p)).Perm (write p)) (name : String) :
    (s.decode name).Stable fun a => .object (entries a) := by
  intro o d a ha
  rcases exists_build_of_decode ha with ⟨fields, hfields⟩
  exact h.reads_of_build hnames hentries hfields name

end Schema

end Json
end TraceAdapter
