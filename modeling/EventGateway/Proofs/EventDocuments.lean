import EventGateway.Event.Document
import EventGateway.Proofs.RecordOrder
/-!
# Events, written and read again

What is written of an event is read as the event, wherever its name stands among the members, in whatever order the
parts come, and with any other members among them that can be read in full (`read_in_any_order`).
-/
namespace EventGateway

open Json (Refusal RecordFormat Document)

theorem Presence.ofJson_text (s : Presence) : Presence.ofJson (.text s.text) = .ok s := by
  cases s <;> rfl

namespace Event

/-! ## Parts -/

/-- What a member says about an event. -/
inductive Part where
  | channel (id : Snowflake)
  | message (id : Snowflake)
  | user (id : Snowflake)
  | content (s : String)
  | timestamp (t : Int64)
  | status (s : Presence)

def Part.ofJson (name : String) (v : Json) : Except Refusal Part :=
  match name with
  | "channel_id" => v.asSnowflake.map .channel
  | "message_id" => v.asSnowflake.map .message
  | "author_id" | "user_id" => v.asSnowflake.map .user
  | "content" => v.asText.map .content
  | "timestamp_ms" | "edited_timestamp_ms" => v.asInt64.map .timestamp
  | "status" => (Presence.ofJson v).map .status
  | _ => .error .malformed

def Parts.put (p : Parts) : Part → Parts
  | .channel id => { p with channel := id }
  | .message id => { p with message := id }
  | .user id => { p with user := id }
  | .content s => { p with content := s }
  | .timestamp t => { p with timestamp := t }
  | .status s => { p with status := s }

/-- Which of the parts a name stands for.  No event has two names for one of them. -/
def slot : String → Nat
  | "channel_id" => 0
  | "message_id" => 1
  | "author_id" | "user_id" => 2
  | "content" => 3
  | "timestamp_ms" | "edited_timestamp_ms" => 4
  | "status" => 5
  | _ => 6

def Part.slot : Part → Nat
  | channel _ => 0
  | message _ => 1
  | user _ => 2
  | content _ => 3
  | timestamp _ => 4
  | status _ => 5

theorem member_eq (p : Parts) (name : String) (v : Json) : p.member name v = (Part.ofJson name v).map p.put := by
  have hmap : ∀ {α : Type} (x : Except Refusal α) (make : α → Part),
      x.map (fun a => p.put (make a)) = (x.map make).map p.put := by
    intro α x make
    cases x <;> rfl
  unfold Parts.member
  split
  · exact hmap _ .channel
  · exact hmap _ .message
  · exact hmap _ .user
  · exact hmap _ .user
  · exact hmap _ .content
  · exact hmap _ .timestamp
  · exact hmap _ .timestamp
  · exact hmap _ .status
  · rename_i hchannel hmessage hauthor huser hcontent htimestamp hedited hstatus
    rw [Part.ofJson.eq_9 _ _ hchannel hmessage hauthor huser hcontent htimestamp hedited hstatus]
    rfl

theorem slot_ofJson {name : String} {v : Json} {x : Part} (h : Part.ofJson name v = .ok x) : x.slot = slot name := by
  unfold Part.ofJson at h
  split at h
  case h_9 => cases h
  all_goals
    obtain ⟨a, -, rfl⟩ := Json.map_eq_ok_iff.1 h
    rfl

/-- **Two different parts are put in one after the other or the other way round.** -/
theorem put_comm {x y : Part} (h : x.slot ≠ y.slot) (p : Parts) : (p.put x).put y = (p.put y).put x := by
  cases x <;> cases y <;> first | rfl | exact absurd rfl h

/-! ## The record of an event -/

/-- How the parts of an event are read. -/
def format (e : Event) : RecordFormat Parts := ⟨e.fields.map Prod.fst, false, Parts.member⟩

/-- What is known of an event once its parts have been read. -/
def known : Event → Parts
  | messageCreated channel message author content timestamp =>
    { Parts.empty with channel, message, user := author, content, timestamp }
  | messageUpdated channel message content timestamp => { Parts.empty with channel, message, content, timestamp }
  | messageDeleted channel message => { Parts.empty with channel, message }
  | typingStarted channel user timestamp => { Parts.empty with channel, user, timestamp }
  | presenceUpdated user status => { Parts.empty with user, status }

theorem shape?_name (e : Event) : ∃ make, shape? e.name = some (e.fields.map Prod.fst, make) ∧ make e.known = e := by
  cases e <;> exact ⟨_, rfl, rfl⟩

theorem name_of_shape? {name : String} {names : List String} {make : Parts → Event}
    (h : shape? name = some (names, make)) (p : Parts) :
    (make p).name = name ∧ (make p).fields.map Prod.fst = names := by
  unfold shape? at h
  split at h
  case h_6 => cases h
  all_goals
    obtain ⟨rfl, rfl⟩ := Prod.mk.inj (Option.some.inj h)
    exact ⟨rfl, rfl⟩

theorem nodup_slots (e : Event) : ((e.fields.map Prod.fst).map slot).Nodup := by
  cases e <;> (simp only [fields, List.map_cons, List.map_nil]; decide +kernel)

theorem swap_members {e : Event} (m m' : String × Json) (hm : m.1 ∈ e.format.names) (hm' : m'.1 ∈ e.format.names)
    (hne : m.1 ≠ m'.1) : e.format.Swap m m' := by
  have hslot : slot m.1 ≠ slot m'.1 := fun h => hne (List.inj_on_of_nodup_map e.nodup_slots hm hm' h)
  have htake : ∀ p m, e.format.take p m = (Part.ofJson m.1 m.2).map p.put := fun p m => member_eq p m.1 m.2
  intro p
  simp only [htake]
  cases hx : Part.ofJson m.1 m.2 with
  | error why => cases Part.ofJson m'.1 m'.2 <;> rfl
  | ok x =>
    cases hy : Part.ofJson m'.1 m'.2 with
    | error why => rfl
    | ok y =>
      rw [← slot_ofJson hx, ← slot_ofJson hy] at hslot
      exact congrArg some (put_comm hslot p)

theorem asSnowflake_ofSnowflake (id : Snowflake) : (Json.ofSnowflake id).asSnowflake = .ok id := by
  rw [Json.ofSnowflake, Json.str, Json.asSnowflake, Snowflake.parse_text]
  rfl

theorem foldlM_fields (e : Event) : e.fields.foldlM e.format.take .empty = .ok e.known := by
  cases e <;>
    simp [fields, known, format, RecordFormat.take, Parts.member, asSnowflake_ofSnowflake, Json.asInt64_toInt, Json.str,
      Json.asText, Except.map, bind, Except.bind, pure, Except.pure, Presence.ofJson_text]

/-! ## The document of an event -/

/-- The members that name the event. -/
def tags (ms : List (String × Json)) : List (String × Json) := ms.filter (·.1 == "type")

def others (ms : List (String × Json)) : List (String × Json) := ms.filter (!·.1 == "type")

theorem splitTag_ofFields_iff {ms : List (String × Json)} {name : String} {rest : Json} :
    splitTag (.ofFields ms) = .ok (name, rest) ↔ tags ms = [("type", .text name)] ∧ rest = .ofFields (others ms) := by
  have htags : (ms.map fun m => (some m.1, m.2)).filter isTag = (tags ms).map fun m => (some m.1, m.2) :=
    List.filter_map
  have hothers : (ms.map fun m => (some m.1, m.2)).filter (!isTag ·) = (others ms).map fun m => (some m.1, m.2) :=
    List.filter_map
  have htag : ∀ m ∈ tags ms, m.1 = "type" := fun m hm => beq_iff_eq.1 (List.mem_filter.1 hm).2
  rw [Json.ofFields, splitTag, htags, hothers]
  cases hms : tags ms with
  | nil => simp
  | cons m more =>
    obtain ⟨tag, v⟩ := m
    obtain rfl : tag = "type" := htag (tag, v) (by rw [hms]; exact List.mem_cons_self)
    cases more with
    | cons m' more => simp
    | nil => cases v <;> simp [Json.ofFields, eq_comm]

/-- **Which objects are read as an event.** -/
theorem ofJson_ofFields_iff {ms : List (String × Json)} {e : Event} :
    ofJson (.ofFields ms) = .ok e ↔
      (∀ m ∈ ms, m.2.readable (maxDepth - 1) = true) ∧ tags ms = [("type", .text e.name)] ∧
        ∃ make p, shape? e.name = some (e.fields.map Prod.fst, make) ∧
          e.format.readAll (e.fields.map Prod.fst) .empty (.ofFields (others ms)) = .ok p ∧ make p = e := by
  have hroom : maxDepth = maxDepth - 1 + 1 := rfl
  rw [← Json.readable_ofFields, ← hroom, ofJson]
  constructor
  · intro h
    split at h
    · rename_i hreadable
      refine ⟨hreadable, ?_⟩
      cases hsplit : splitTag (.ofFields ms) with
      | error why => simp [hsplit, bind, Except.bind] at h
      | ok split =>
        obtain ⟨name, rest⟩ := split
        obtain ⟨htags, rfl⟩ := splitTag_ofFields_iff.1 hsplit
        rw [hsplit] at h
        cases hshape : shape? name with
        | none => simp [hshape, bind, Except.bind] at h
        | some shape =>
          obtain ⟨names, make⟩ := shape
          simp only [bind, Except.bind, hshape] at h
          split at h
          · cases h
          · rename_i p hread
            obtain rfl := Except.ok.inj h
            obtain ⟨hname, hnames⟩ := name_of_shape? hshape p
            rw [hname, hnames, format, hnames]
            exact ⟨htags, make, p, hshape, hread, rfl⟩
    · cases h
  · rintro ⟨hreadable, htags, make, p, hshape, hread, hmake⟩
    rw [if_pos hreadable, splitTag_ofFields_iff.2 ⟨htags, rfl⟩]
    simp only [bind, Except.bind, hshape]
    rw [format] at hread
    rw [hread]
    exact congrArg Except.ok hmake

theorem ofJson_json (e : Event) : ofJson e.json = .ok e := by
  obtain ⟨make, hshape, hmake⟩ := e.shape?_name
  have hparts : e.format.parts e.fields = e.fields :=
    List.filter_eq_self.2 fun m hm => List.contains_iff_mem.2 (List.mem_map_of_mem hm)
  have hread : e.format.readAll (e.fields.map Prod.fst) .empty (.ofFields e.fields) = .ok e.known := by
    refine (RecordFormat.readAll_ofFields_iff (by cases e <;> simp [fields, Json.ofSnowflake, Json.str, Json.whole])).2 ?_
    rw [RecordFormat.Admits, hparts]
    exact ⟨⟨e.nodup_slots.of_map, fun h => absurd h Bool.false_ne_true⟩, e.foldlM_fields, fun name hname => hname⟩
  have hothers : others (("type", .str e.name) :: e.fields) = e.fields := by cases e <;> rfl
  refine ofJson_ofFields_iff.2 ⟨?_, by cases e <;> rfl, make, e.known, hshape, by rw [hothers]; exact hread, hmake⟩
  cases e <;> simp [fields, Json.ofSnowflake, Json.str, Json.readable, Json.reach]

/-- **Members may change places, and others may join them that the reader understands.** -/
theorem ofJson_perm {e : Event} {ms ms' extra : List (String × Json)} (hperm : ms'.Perm (ms ++ extra))
    (hextra : ∀ m ∈ extra, m.1 ≠ "type" ∧ m.1 ∉ e.fields.map Prod.fst) (hwhole : ∀ m ∈ ms', m.2.whole = true) :
    ofJson (.ofFields ms') = .ok e ↔
      ofJson (.ofFields ms) = .ok e ∧ ∀ m ∈ extra, m.2.readable (maxDepth - 1) = true := by
  have hreadable : (∀ m ∈ ms', m.2.readable (maxDepth - 1) = true) ↔
      (∀ m ∈ ms, m.2.readable (maxDepth - 1) = true) ∧ ∀ m ∈ extra, m.2.readable (maxDepth - 1) = true := by
    simp only [hperm.mem_iff, List.mem_append, or_imp, forall_and]
  have hnotag : tags extra = [] := List.filter_eq_nil_iff.2 fun m hm => by simpa using (hextra m hm).1
  have htags : (tags ms').Perm (tags ms) := by
    have hfilter := hperm.filter (·.1 == "type")
    rw [List.filter_append] at hfilter
    exact hfilter.trans (by rw [← tags, ← tags, hnotag, List.append_nil])
  have hothers : (others ms').Perm (others ms ++ extra) := by
    have hself : others extra = extra := List.filter_eq_self.2 fun m hm => by simpa using (hextra m hm).1
    have hfilter := hperm.filter (!·.1 == "type")
    rw [List.filter_append] at hfilter
    exact hfilter.trans (by rw [← others, ← others, hself])
  have hread := Json.toOption_eq_iff.1 (RecordFormat.toOption_readAll_perm (e.fields.map Prod.fst) rfl
    (fun m m' => swap_members m m') hothers (fun m hm => (hextra m hm).2)
    (fun m hm => hwhole m (List.mem_filter.1 hm).1) Parts.empty)
  have hsingle : tags ms' = [("type", .text e.name)] ↔ tags ms = [("type", .text e.name)] :=
    ⟨fun h => List.perm_singleton.1 (h ▸ htags.symm), fun h => List.perm_singleton.1 (h ▸ htags)⟩
  rw [ofJson_ofFields_iff, ofJson_ofFields_iff, hreadable, hsingle]
  simp only [hread]
  tauto

/-! ## The text of an event -/

theorem plain_json (e : Event) : e.json.plain = true := by
  cases e <;>
    simp [json, fields, Json.ofFields, Json.ofSnowflake, Json.str, Json.plain, Json.plainMembers, Json.isInteger_int64]

theorem read_json (e : Event) : read e.json.render = .ok e := by
  rw [read, Json.readText_render _ e.plain_json, ofJson_json]

/-- **An event survives its text, and the order of its members does not matter.**  What is written of an event is read
as the event.  Two objects whose members are the same but for their order are read alike, and if one has other members
beside them, it is read as the event exactly if those can be read in full: their texts spell characters, their numbers
are finite, and they are nested within the limit.  Whatever is read is read again from what is written of it. -/
theorem read_in_any_order (e : Event) :
    read e.json.render = .ok e ∧
      (∀ (ms ms' extra : List (String × Json)) (t t' : String), Document (.ofFields ms) t.toList →
        Document (.ofFields ms') t'.toList → ms'.Perm (ms ++ extra) →
        (∀ m ∈ extra, m.1 ≠ "type" ∧ m.1 ∉ e.fields.map Prod.fst) →
        (read t' = .ok e ↔ read t = .ok e ∧ ∀ m ∈ extra, m.2.readable (maxDepth - 1) = true)) ∧
      ∀ (t : String) (f : Event), read t = .ok f → read f.json.render = .ok f := by
  refine ⟨e.read_json, fun ms ms' extra t t' ht ht' hperm hextra => ?_, fun _ f _ => f.read_json⟩
  rw [read, read, Json.readText_of_document ht, Json.readText_of_document ht']
  exact ofJson_perm hperm hextra (Json.whole_of_mem_fields ht'.whole)

/-- The name last, an unknown member with a name of its own first, and the parts the other way round. -/
theorem read_in_any_order_reversed :
    let e := presenceUpdated ⟨-1⟩ .doNotDisturb
    let t := "\x7b\"x\":[\x7b\"type\":7\x7d],\"status\":\"dnd\",\"user_id\":\"-1\",\"type\":\"PRESENCE_UPDATED\"\x7d"
    read t = .ok e ∧ read e.json.render = .ok e := by
  intro e t
  obtain ⟨hself, horder, hagain⟩ := read_in_any_order e
  let ms : List (String × Json) := ("type", .str e.name) :: e.fields
  let x : String × Json := ("x", .array [.ofFields [("type", .nat 7)]])
  have hdocument : Document (.ofFields (x :: ms.reverse)) t.toList :=
    Json.document_of_render (by decide +kernel) (by decide +kernel)
  have hperm : (x :: ms.reverse).Perm (ms ++ [x]) :=
    ((List.reverse_perm ms).cons x).trans (List.perm_append_singleton x ms).symm
  have hread : read t = .ok e :=
    (horder ms _ [x] _ t (Json.document_of_render e.plain_json rfl) hdocument hperm (by decide +kernel)).2
      ⟨hself, by decide +kernel⟩
  exact ⟨hread, hagain t e hread⟩

/-- **A member that is no part is not passed over, but read in full.**  A text that spells no characters and a number
that is not finite are good JSON and nested no deeper than the limit, and no event is read where they are. -/
theorem unread_beside_unreadable :
    let parts := "\x7b\"type\":\"MESSAGE_DELETED\",\"channel_id\":\"1\",\"message_id\":\"2\""
    read (parts ++ "\x7d") = .ok (messageDeleted ⟨1⟩ ⟨2⟩) ∧
      ∀ extra ∈ ["\"\\ud800\"", "1e400"], (Json.readText Json.pass (parts ++ ",\"x\":" ++ extra ++ "\x7d")).isOk = true ∧
        read (parts ++ ",\"x\":" ++ extra ++ "\x7d") = .error .malformed := by
  decide +kernel

end Event
end EventGateway
