import TraceAdapter.Proofs.Json.Records
import TraceAdapter.Protocol.Message

/-!
# Messages are read again

A message is written with its kind first.  The kind is found again and the other
fields are set aside as they are, so a message is stable when its fields are.
-/

namespace TraceAdapter
namespace Protocol

open Json
open Json.Schema

/-!
## Fields beside the kind
-/

def Request.entries (r : Request) : List (String × Value) :=
  [("seq", .int r.seq), ("command", .string r.command)] ++
    entry? "arguments" id r.arguments

def Response.entries (r : Response) : List (String × Value) :=
  [("seq", .int r.seq), ("request_seq", .int r.requestSeq), ("success", .bool r.success),
    ("command", .string r.command)] ++
    entry? "message" .string r.message ++ entry? "body" id r.body

def Event.entries (e : Event) : List (String × Value) :=
  [("seq", .int e.seq), ("event", .string e.event), ("body", e.body)]

theorem keeps_value (name : String) :
    (Schema.optional name Decoder.value).Keeps id fun v? => entry? name id v? := by
  apply keeps_optional name Decoder.stable_value
  rintro o d v hv rfl
  exact Decoder.eq_null_of_value hv

theorem Request.reads_of_build {fields : Fields} {r : Request}
    (h : Request.schema.build fields = .ok r) :
    (Request.schema.decode "RequestMessage").Reads (.object r.entries) r := by
  have hkeeps := (keeps_required "seq" Decoder.stable_int64).map Request.mk
    |>.seq (keeps_required "command" Decoder.stable_text)
    |>.seq (keeps_value "arguments")
  exact hkeeps.reads_of_build (by decide) (fun _ => List.Perm.refl _) h "RequestMessage"

theorem Response.reads_of_build {fields : Fields} {r : Response}
    (h : Response.schema.build fields = .ok r) :
    (Response.schema.decode "ResponseMessage").Reads (.object r.entries) r := by
  have hkeeps := (keeps_required "seq" Decoder.stable_int64).map Response.mk
    |>.seq (keeps_required "request_seq" Decoder.stable_int64)
    |>.seq (keeps_required "success" Decoder.stable_bool)
    |>.seq (keeps_required "command" Decoder.stable_text)
    |>.seq (keeps_optional "message" Decoder.stable_text nofun)
    |>.seq (keeps_value "body")
  exact hkeeps.reads_of_build (by decide) (fun _ => List.Perm.refl _) h "ResponseMessage"

theorem Event.reads_of_build {fields : Fields} {e : Event}
    (h : Event.schema.build fields = .ok e) :
    (Event.schema.decode "EventMessage").Reads (.object e.entries) e := by
  have hnull : Decoder.value.Reads (id .null) .null := fun _ _ => rfl
  have hkeeps := (keeps_required "seq" Decoder.stable_int64).map Event.mk
    |>.seq (keeps_required "event" Decoder.stable_text)
    |>.seq (keeps_always "body" .null Decoder.stable_value hnull)
  exact hkeeps.reads_of_build (by decide) (fun _ => List.Perm.refl _) h "EventMessage"

namespace Message

/-!
## The kind
-/

theorem Kind.decode_name (kind : Kind) (o : Origin) :
    Kind.decode o (Document.ofValue (.string kind.name)) = .ok kind := by
  cases kind <;> rfl

theorem splitEntries_of_untagged {o : Origin} (ho : o.room = none)
    {entries : List (String × Value)} (h : forall e, e ∈ entries -> e.1 ≠ tag)
    (kind : Option Kind) (aside : List (Literal × Document)) :
    splitEntries o kind aside (entriesOfValues entries) =
      .ok (kind, aside.reverse ++ entriesOfValues entries) := by
  induction entries generalizing aside with
  | nil =>
      rw [entriesOfValues, splitEntries, List.append_nil]
  | cons e rest ih =>
      have hreadable : ((Document.ofValue e.2).value? o.room).isNone = false := by
        rw [ho, Option.isNone_eq_false_iff]
        exact isSome_value? e.2
      rw [entriesOfValues, splitEntries]
      show (if e.1 = tag then _
        else if ((Document.ofValue e.2).value? o.room).isNone = true then _ else _) = _
      rw [if_neg (h e List.mem_cons_self), hreadable, if_neg Bool.false_ne_true,
        ih fun e' he' => h e' (List.mem_cons_of_mem e he'), List.reverse_cons,
        List.append_assoc]
      rfl

theorem decode_tagged {o : Origin} (ho : o.room = none) (kind : Kind)
    {entries : List (String × Value)} (h : forall e, e ∈ entries -> e.1 ≠ tag) :
    decode o (Document.ofValue (.object ((tag, .string kind.name) :: entries))) =
      ofFields kind (Document.ofValue (.object entries)) := by
  have hsplit : splitEntries o none []
      (entriesOfValues ((tag, .string kind.name) :: entries)) =
      .ok (some kind, entriesOfValues entries) := by
    rw [entriesOfValues, splitEntries]
    dsimp only [Literal.plain]
    rw [if_pos rfl, if_neg nofun, Kind.decode_name]
    exact splitEntries_of_untagged ho h (some kind) []
  rw [Document.ofValue, decode, Origin.enter_of_room ho]
  dsimp only
  rw [hsplit]
  rfl

theorem exists_ofFields_of_decode {o : Origin} {d : Document} {m : Message}
    (h : decode o d = .ok m) : exists kind fields, ofFields kind fields = .ok m := by
  unfold decode at h
  split at h
  · split at h
    · cases h
    · split at h
      · cases h
      · split at h
        · split at h
          · cases h
          · exact ⟨_, _, h⟩
        · cases h
  · split at h
    · cases h
    · split at h
      · split at h
        · cases h
        · cases h
      · split at h
        · cases h
        · split at h
          · exact ⟨_, _, h⟩
          · cases h
  · cases h

theorem reads_tagged {kind : Kind} {entries : List (String × Value)} {keys : List String}
    {m : Message} (hkeys : (entries.map Prod.fst).Sublist keys) (htag : tag ∉ keys)
    (h : ofFields kind (Document.ofValue (.object entries)) = .ok m) :
    decode.Reads (.object ((tag, .string kind.name) :: entries)) m := by
  intro o ho
  rw [decode_tagged ho kind, h]
  rintro e he heq
  exact htag (heq ▸ hkeys.subset (List.mem_map_of_mem he))

/-!
## The three kinds
-/

theorem reads_request {fields : Fields} {r : Request}
    (h : Request.schema.build fields = .ok r) :
    decode.Reads (toJson (.request r)) (.request r) := by
  have hkeys : (r.entries.map Prod.fst).Sublist ["seq", "command", "arguments"] := by
    unfold Request.entries
    rw [List.map_append]
    exact (List.Sublist.refl _).append (keys_entry _ _ _)
  apply reads_tagged hkeys (by decide)
  show (Request.schema.decode "RequestMessage" .buffer _).map Message.request = _
  rw [Request.reads_of_build h .buffer rfl]
  rfl

theorem reads_response {fields : Fields} {r : Response}
    (h : Response.schema.build fields = .ok r) :
    decode.Reads (toJson (.response r)) (.response r) := by
  have hkeys : (r.entries.map Prod.fst).Sublist
      ["seq", "request_seq", "success", "command", "message", "body"] := by
    unfold Response.entries
    rw [List.map_append, List.map_append]
    exact ((List.Sublist.refl _).append (keys_entry _ _ _)).append (keys_entry _ _ _)
  apply reads_tagged hkeys (by decide)
  show (Response.schema.decode "ResponseMessage" .buffer _).map Message.response = _
  rw [Response.reads_of_build h .buffer rfl]
  rfl

theorem reads_event {fields : Fields} {e : Event}
    (h : Event.schema.build fields = .ok e) :
    decode.Reads (toJson (.event e)) (.event e) := by
  have hkeys : (e.entries.map Prod.fst).Sublist ["seq", "event", "body"] :=
    List.Sublist.refl _
  apply reads_tagged hkeys (by decide)
  show (Event.schema.decode "EventMessage" .buffer _).map Message.event = _
  rw [Event.reads_of_build h .buffer rfl]
  rfl

theorem build_of_ofFields {kind : Kind} {fields : Document} {m : Message}
    (h : ofFields kind fields = .ok m) :
    exists found : Fields,
      match m with
      | .request r => Request.schema.build found = .ok r
      | .response r => Response.schema.build found = .ok r
      | .event e => Event.schema.build found = .ok e := by
  cases kind with
  | request =>
      rcases exists_build_of_map_decode h with ⟨found, r, hfound, rfl⟩
      exact ⟨found, hfound⟩
  | response =>
      rcases exists_build_of_map_decode h with ⟨found, r, hfound, rfl⟩
      exact ⟨found, hfound⟩
  | event =>
      rcases exists_build_of_map_decode h with ⟨found, e, hfound, rfl⟩
      exact ⟨found, hfound⟩

theorem stable_decode : decode.Stable toJson := by
  intro o d m h
  rcases exists_ofFields_of_decode h with ⟨kind, fields, hfields⟩
  rcases build_of_ofFields hfields with ⟨found, hfound⟩
  cases m with
  | request r => exact reads_request hfound
  | response r => exact reads_response hfound
  | event e => exact reads_event hfound

/-!
## Messages that a server makes

They were not read, so their fields have to be of the kinds that are read.
-/

theorem fits64_of_decode {o : Origin} {d : Document} {r : Request}
    (h : decode o d = .ok (.request r)) : Decoder.Fits64 r.seq := by
  rcases exists_ofFields_of_decode h with ⟨kind, fields, hfields⟩
  rcases build_of_ofFields hfields with ⟨found, hfound⟩
  rcases seq_build_eq_ok hfound with ⟨_, _, hcommand, _, rfl⟩
  rcases seq_build_eq_ok hcommand with ⟨_, _, hseq, _, rfl⟩
  rcases map_build_eq_ok hseq with ⟨seq, hrequired, rfl⟩
  rcases required_build_eq_ok hrequired with ⟨d', hd'⟩
  exact Decoder.fits64_of_int64 hd'

theorem reads_response_of_sound {r : Response} (hseq : Decoder.Fits64 r.seq)
    (hrequest : Decoder.Fits64 r.requestSeq)
    (hbody : forall b, r.body = some b -> b.Sound ∧ b ≠ .null) :
    decode.Reads (toJson (.response r)) (.response r) := by
  have hmessage : (Decoder.option Decoder.text).Reads (.orNull .string r.message)
      r.message := by
    cases r.message with
    | none => exact Decoder.reads_null Decoder.text
    | some text => exact fun _ _ => rfl
  have hvalue : (Decoder.option Decoder.value).Reads (.orNull id r.body) r.body := by
    cases h : r.body with
    | none => exact Decoder.reads_null Decoder.value
    | some b => exact (Decoder.reads_value (hbody b h).1).option (hbody b h).2
  -- Fields that hold all parts of the response, absent ones as null.
  let fields : Fields :=
    { origin := .tree
      found :=
        [("seq", Document.ofValue (.int r.seq)),
          ("request_seq", Document.ofValue (.int r.requestSeq)),
          ("success", Document.ofValue (.bool r.success)),
          ("command", Document.ofValue (.string r.command)),
          ("message", Document.ofValue (.orNull .string r.message)),
          ("body", Document.ofValue (.orNull id r.body))]
      absent := .missingField }
  have hbuild : Response.schema.build fields = .ok r := by
    refine seq_build_of_ok (seq_build_of_ok (seq_build_of_ok (seq_build_of_ok
      (seq_build_of_ok (map_build_of_ok ?_ Response.mk) ?_) ?_) ?_) ?_) ?_
    · exact Decoder.reads_int64 hseq .tree rfl
    · exact Decoder.reads_int64 hrequest .tree rfl
    · rfl
    · rfl
    · exact hmessage .tree rfl
    · exact hvalue .tree rfl
  exact reads_response hbuild

theorem reads_event_of_sound {e : Event} (hseq : Decoder.Fits64 e.seq)
    (hbody : e.body.Sound) : decode.Reads (toJson (.event e)) (.event e) := by
  let fields : Fields :=
    { origin := .tree
      found :=
        [("seq", Document.ofValue (.int e.seq)),
          ("event", Document.ofValue (.string e.event)),
          ("body", Document.ofValue e.body)]
      absent := .missingField }
  have hbuild : Event.schema.build fields = .ok e := by
    refine seq_build_of_ok (seq_build_of_ok (map_build_of_ok ?_ Event.mk) ?_) ?_
    · exact Decoder.reads_int64 hseq .tree rfl
    · rfl
    · exact Decoder.reads_value hbody .tree rfl
  exact reads_event hbuild

end Message

end Protocol
end TraceAdapter
