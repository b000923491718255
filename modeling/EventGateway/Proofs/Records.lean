import EventGateway.Json.Record
/-!
# Records — which members they are read from

The members of a record stand in an object, or in an array in the order of their names.  A reader takes in the parts
among them one after the other, and refuses a part that is given twice (`read_eq_ok_iff`).
-/
namespace EventGateway

theorem mapError_eq_ok_iff {ε ε' α : Type} {f : ε → ε'} {x : Except ε α} {a : α} : x.mapError f = .ok a ↔ x = .ok a := by
  cases x with
  | error e => constructor <;> intro h <;> cases h
  | ok b => exact ⟨fun h => congrArg _ (Except.ok.inj h), fun h => congrArg _ (Except.ok.inj h)⟩

namespace Json

/-! ## Single values -/

theorem asInteger_eq_ok_iff {low high n : Int} {v : Json} :
    v.asInteger low high = .ok n ↔ v = .integer n ∧ low ≤ n ∧ n ≤ high := by
  constructor
  · intro h
    cases v with
    | integer m =>
      rw [asInteger] at h
      split at h
      · rename_i hm
        obtain rfl := Except.ok.inj h
        exact ⟨rfl, hm⟩
      · cases h
    | null | bool | real | text | garbled | array | object | cut => cases h
  · rintro ⟨rfl, hlow, hhigh⟩
    exact if_pos ⟨hlow, hhigh⟩

theorem map_eq_ok_iff {α β : Type} {f : α → β} {x : Except Refusal α} {b : β} :
    x.map f = .ok b ↔ ∃ a, x = .ok a ∧ f a = b := by
  cases x with
  | error e => simp [Except.map]
  | ok a => simp [Except.map]

theorem asUInt32_eq_ok_iff {v : Json} {n : UInt32} : v.asUInt32 = .ok n ↔ v = .nat n.toNat := by
  simp only [asUInt32, map_eq_ok_iff, asInteger_eq_ok_iff, nat]
  constructor
  · rintro ⟨m, ⟨rfl, hlow, hhigh⟩, rfl⟩
    simp only [UInt32.size] at hhigh
    rw [UInt32.toNat_ofNat_of_lt' (by simp only [UInt32.size]; omega), Int.toNat_of_nonneg hlow]
  · rintro rfl
    have := n.toNat_lt
    exact ⟨_, ⟨rfl, Int.natCast_nonneg _, by simp only [UInt32.size]; omega⟩, by simp⟩

theorem asUInt64_eq_ok_iff {v : Json} {n : UInt64} : v.asUInt64 = .ok n ↔ v = .nat n.toNat := by
  simp only [asUInt64, map_eq_ok_iff, asInteger_eq_ok_iff, nat]
  constructor
  · rintro ⟨m, ⟨rfl, hlow, hhigh⟩, rfl⟩
    simp only [UInt64.size] at hhigh
    rw [UInt64.toNat_ofNat_of_lt' (by simp only [UInt64.size]; omega), Int.toNat_of_nonneg hlow]
  · rintro rfl
    have := n.toNat_lt
    exact ⟨_, ⟨rfl, Int.natCast_nonneg _, by simp only [UInt64.size]; omega⟩, by simp⟩

theorem asInt64_eq_ok_iff {v : Json} {n : Int64} : v.asInt64 = .ok n ↔ v = .integer n.toInt := by
  simp only [asInt64, map_eq_ok_iff, asInteger_eq_ok_iff]
  constructor
  · rintro ⟨m, ⟨rfl, hlow, hhigh⟩, rfl⟩
    rw [Int64.toInt_ofInt_of_le hlow (Int.lt_of_le_of_lt hhigh (by decide))]
  · rintro rfl
    exact ⟨_, ⟨rfl, n.minValue_le_toInt, n.toInt_le⟩, Int64.ofInt_toInt n⟩

theorem asInt64_toInt (n : Int64) : (integer n.toInt).asInt64 = .ok n := asInt64_eq_ok_iff.2 rfl

theorem asId_eq_ok_iff {v : Json} {n : UInt64} :
    v.asId = .ok n ↔ v = .nat n.toNat ∨ ∃ s, v = .text s ∧ Text.Decimal.readUInt64 s = .ok n := by
  cases v with
  | text s =>
    simp [asId, mapError_eq_ok_iff, nat]
  | integer m =>
    rw [asId]
    by_cases hm : 0 ≤ m ∧ m < UInt64.size
    · rw [if_pos hm]
      have heq := asUInt64_eq_ok_iff (v := .integer m) (n := n)
      rw [asUInt64, asInteger_eq_ok_iff.2 ⟨rfl, hm.1, by have := hm.2; simp only [UInt64.size] at this ⊢; omega⟩] at heq
      simpa [Except.map] using heq
    · rw [if_neg hm]
      constructor
      · intro h
        split at h <;> cases h
      · rintro (h | ⟨s, h, -⟩)
        · obtain rfl := integer.inj h
          have := n.toNat_lt
          exact absurd ⟨Int.natCast_nonneg _, by simp only [UInt64.size]; omega⟩ hm
        · cases h
  | null | bool | real | garbled | array | object | cut => simp [asId, nat]

/-! ## Members -/

/-- **The members of a record**: those of an object, or the items of an array under the first of the names. -/
inductive Members (names : List String) : Json → List (String × Json) → Prop where
  | object (ms : List (String × Json)) : Members names (.ofFields ms) ms
  | array {ms : List (String × Json)} (h : ms.map Prod.fst <+: names) : Members names (.array (ms.map Prod.snd)) ms

theorem whole_of_mem_fields : ∀ {ms : List (String × Json)}, wholeMembers (ms.map fun m => (some m.1, m.2)) = true →
    ∀ m ∈ ms, m.2.whole = true
  | _ :: _, h, m, hm => by
    rw [List.map_cons, wholeMembers, Bool.and_eq_true] at h
    rcases List.mem_cons.1 hm with rfl | hm
    · exact h.1
    · exact whole_of_mem_fields h.2 m hm

theorem whole_of_mem_items : ∀ {ms : List (String × Json)}, wholeItems (ms.map Prod.snd) = true →
    ∀ m ∈ ms, m.2.whole = true
  | _ :: _, h, m, hm => by
    rw [List.map_cons, wholeItems, Bool.and_eq_true] at h
    rcases List.mem_cons.1 hm with rfl | hm
    · exact h.1
    · exact whole_of_mem_items h.2 m hm

theorem Members.whole {names : List String} {v : Json} {ms : List (String × Json)} (h : Members names v ms)
    (hv : v.whole = true) : ∀ m ∈ ms, m.2.whole = true := by
  cases h with
  | object => exact whole_of_mem_fields hv
  | array => exact whole_of_mem_items hv

/-- What a part of a record is: what its member says, or something else if there is none. -/
inductive Given {α : Type} (Reads : Json → α → Prop) (otherwise : α) : Option Json → α → Prop where
  | given {v : Json} {a : α} (h : Reads v a) : Given Reads otherwise (some v) a
  | missing : Given Reads otherwise none otherwise

theorem Given.eq_of_missing {α : Type} {Reads : Json → α → Prop} {otherwise a : α} (h : Given Reads otherwise none a) :
    a = otherwise := by
  cases h
  rfl

theorem Given.unique {α : Type} {Reads : Json → α → Prop} {otherwise a b : α} {member : Option Json}
    (hreads : ∀ {v a b}, member = some v → Reads v a → Reads v b → a = b) (ha : Given Reads otherwise member a)
    (hb : Given Reads otherwise member b) : a = b := by
  cases ha with
  | given ha =>
    cases hb with
    | given hb => exact hreads rfl ha hb
  | missing => exact hb.eq_of_missing.symm

namespace RecordFormat

variable {σ : Type} (f : RecordFormat σ)

/-- The members that are parts of the record. -/
def parts (ms : List (String × Json)) : List (String × Json) := ms.filter (f.names.contains ·.1)

/-- Whether a record may have members of these names: each part once, and other ones unless the format is strict. -/
def Admits (ms : List (String × Json)) : Prop :=
  ((f.parts ms).map Prod.fst).Nodup ∧ (f.strict = true → ∀ m ∈ ms, m.1 ∈ f.names)

def take (s : σ) (m : String × Json) : Except Refusal σ := f.part s m.1 m.2

variable {f} {p : Progress σ} {name : String} {v : Json} {ms : List (String × Json)}

/-- No part is there twice if its name is not. -/
theorem nodup_parts_iff :
    ((f.parts ms).map Prod.fst).Nodup ↔ ∀ name ∈ f.names, (ms.map Prod.fst).count name ≤ 1 := by
  have hparts : (f.parts ms).map Prod.fst = (ms.map Prod.fst).filter (f.names.contains ·) := by
    rw [List.filter_map]
    rfl
  rw [hparts, List.nodup_iff_count]
  constructor
  · intro h name hname
    have hcount := h name
    rwa [List.count_filter (List.contains_iff_mem.2 hname)] at hcount
  · intro h name
    by_cases hname : name ∈ f.names
    · rw [List.count_filter (List.contains_iff_mem.2 hname)]
      exact h name hname
    · rw [List.count_eq_zero_of_not_mem fun hmem => hname (List.contains_iff_mem.1 (List.mem_filter.1 hmem).2)]
      exact Nat.zero_le 1

/-! ## One member -/

theorem member_part (hname : name ∈ f.names) (hseen : name ∉ p.seen) :
    f.member p (some name, v) = (f.part p.state name v).map (⟨·, name :: p.seen⟩) := by
  rw [member, if_pos (List.contains_iff_mem.2 hname), if_neg (by simpa using hseen)]
  rfl

theorem member_seen (hname : name ∈ f.names) (hseen : name ∈ p.seen) :
    f.member p (some name, v) = .error .malformed := by
  rw [member, if_pos (List.contains_iff_mem.2 hname), if_pos (List.contains_iff_mem.2 hseen)]

theorem member_refused (hname : name ∉ f.names) (hstrict : f.strict = true) :
    f.member p (some name, v) = .error .malformed := by
  rw [member, if_neg (by simpa using hname), if_pos hstrict]

theorem member_passed (hname : name ∉ f.names) (hstrict : f.strict = false) (hv : v.whole = true) :
    f.member p (some name, v) = .ok p := by
  rw [member, if_neg (by simpa using hname), if_neg (by simp [hstrict]), pass, if_pos hv]
  rfl

theorem parts_cons_of_mem (hname : name ∈ f.names) : f.parts ((name, v) :: ms) = (name, v) :: f.parts ms :=
  List.filter_cons_of_pos (List.contains_iff_mem.2 hname)

theorem parts_cons_of_not_mem (hname : name ∉ f.names) : f.parts ((name, v) :: ms) = f.parts ms :=
  List.filter_cons_of_neg (by simpa using hname)

/-! ## All members -/

/-- A member whose name spells no characters is refused. -/
theorem exists_names : ∀ {members : List (Option String × Json)} {p q : Progress σ}, members.foldlM f.member p = .ok q →
    ∃ ms : List (String × Json), members = ms.map fun m => (some m.1, m.2)
  | [], _, _, _ => ⟨[], rfl⟩
  | (none, _) :: _, _, _, h => by cases h
  | (some name, v) :: members, p, q, h => by
    rw [List.foldlM_cons] at h
    cases hmember : f.member p (some name, v) with
    | error e => simp [hmember, bind, Except.bind] at h
    | ok p' =>
      rw [hmember] at h
      obtain ⟨ms, rfl⟩ := exists_names h
      exact ⟨(name, v) :: ms, rfl⟩

/-- The members of an object are read if they may be there, no part has been seen before and each is taken in. -/
theorem foldlM_member_iff {s : σ} : ∀ {ms : List (String × Json)} {p : Progress σ}, (∀ m ∈ ms, m.2.whole = true) →
    (((ms.map fun m => (some m.1, m.2)).foldlM f.member p).map (·.state) = .ok s ↔
      f.Admits ms ∧ (∀ m ∈ f.parts ms, m.1 ∉ p.seen) ∧ (f.parts ms).foldlM f.take p.state = .ok s)
  | [], p, _ => by simp [Admits, parts, Except.map, pure, Except.pure]
  | (name, v) :: ms, p, hwhole => by
    have hrest : ∀ m ∈ ms, m.2.whole = true := fun m hm => hwhole m (List.mem_cons_of_mem _ hm)
    rw [List.map_cons, List.foldlM_cons]
    by_cases hname : name ∈ f.names
    · by_cases hseen : name ∈ p.seen
      · rw [member_seen hname hseen, parts_cons_of_mem hname]
        simp [bind, Except.bind, Except.map, hseen]
      · rw [member_part hname hseen, parts_cons_of_mem hname, List.foldlM_cons, take]
        cases hpart : f.part p.state name v with
        | error e => simp [bind, Except.bind, Except.map]
        | ok s' =>
          have ih := foldlM_member_iff (s := s) (p := ⟨s', name :: p.seen⟩) hrest
          simp only [Except.map, bind, Except.bind] at ih ⊢
          rw [ih, Admits, Admits, parts_cons_of_mem hname]
          simp only [List.map_cons, List.nodup_cons, List.mem_cons, List.mem_map, not_or, not_exists, not_and]
          grind
    · rw [parts_cons_of_not_mem hname]
      cases hstrict : f.strict with
      | true =>
        rw [member_refused hname hstrict]
        simp [bind, Except.bind, Except.map, Admits, hstrict, hname]
      | false =>
        rw [member_passed hname hstrict (hwhole _ List.mem_cons_self)]
        have ih := foldlM_member_iff (s := s) (p := p) hrest
        simpa [bind, Except.bind, Admits, hstrict, parts_cons_of_not_mem hname] using ih

theorem positional_iff {s : σ} : ∀ (names : List String) (vs : List Json) (p : Progress σ),
    (f.positional names vs p).map (·.state) = .ok s ↔
      ∃ ms : List (String × Json), vs = ms.map Prod.snd ∧ ms.map Prod.fst <+: names ∧
        ms.foldlM f.take p.state = .ok s
  | names, [], p => by
    rw [positional]
    constructor
    · intro h
      exact ⟨[], rfl, List.nil_prefix, h⟩
    · rintro ⟨ms, hvs, -, h⟩
      rw [List.map_eq_nil_iff.1 hvs.symm] at h
      exact h
  | [], v :: vs, p => by
    rw [positional]
    constructor
    · intro h
      cases h
    · rintro ⟨ms, hvs, hnames, -⟩
      rw [List.map_eq_nil_iff.1 (List.prefix_nil.1 hnames)] at hvs
      cases hvs
  | name :: names, v :: vs, p => by
    rw [positional]
    cases hpart : f.part p.state name v with
    | error e =>
      constructor
      · intro h
        simp [bind, Except.bind, Except.map] at h
      · rintro ⟨ms, hvs, hnames, h⟩
        obtain ⟨m, ms, rfl, rfl, rfl⟩ := List.map_eq_cons_iff.1 hvs.symm
        obtain ⟨hm, -⟩ := List.cons_prefix_cons.1 hnames
        rw [List.foldlM_cons, take, hm, hpart] at h
        simp [bind, Except.bind] at h
    | ok s' =>
      have ih := positional_iff names vs ⟨s', name :: p.seen⟩ (s := s)
      simp only [bind, Except.bind]
      rw [ih]
      constructor
      · rintro ⟨ms, rfl, hnames, h⟩
        refine ⟨(name, v) :: ms, rfl, List.cons_prefix_cons.2 ⟨rfl, hnames⟩, ?_⟩
        rw [List.foldlM_cons, take, hpart]
        exact h
      · rintro ⟨ms, hvs, hnames, h⟩
        obtain ⟨m, ms, rfl, rfl, rfl⟩ := List.map_eq_cons_iff.1 hvs.symm
        obtain ⟨hm, hnames⟩ := List.cons_prefix_cons.1 hnames
        rw [List.foldlM_cons, take, hm, hpart] at h
        exact ⟨ms, rfl, hnames, h⟩

/-- **What a record is read from.** -/
theorem read_eq_ok_iff (hnames : f.names.Nodup) {start s : σ} (hv : v.whole = true) :
    (f.read start v).map (·.state) = .ok s ↔
      ∃ ms, Members f.names v ms ∧ f.Admits ms ∧ (f.parts ms).foldlM f.take start = .ok s := by
  constructor
  · intro h
    cases v with
    | object members =>
      rw [read] at h
      obtain ⟨ms, rfl⟩ : ∃ ms : List (String × Json), members = ms.map fun m => (some m.1, m.2) := by
        cases hread : members.foldlM f.member ⟨start, []⟩ with
        | error e => rw [hread] at h; cases h
        | ok q => exact exists_names hread
      obtain ⟨hadmits, -, htake⟩ := (foldlM_member_iff (whole_of_mem_fields hv)).1 h
      exact ⟨ms, .object ms, hadmits, htake⟩
    | array vs =>
      rw [read] at h
      obtain ⟨ms, rfl, hfirst, htake⟩ := (positional_iff _ _ _).1 h
      have hmem : ∀ m ∈ ms, m.1 ∈ f.names := fun m hm => hfirst.subset (List.mem_map_of_mem hm)
      have hparts : f.parts ms = ms := List.filter_eq_self.2 fun m hm => List.contains_iff_mem.2 (hmem m hm)
      refine ⟨ms, .array hfirst, ⟨?_, fun _ => hmem⟩, ?_⟩
      · rw [hparts]
        exact hfirst.sublist.nodup hnames
      · rwa [hparts]
    | null | bool | integer | real | text | garbled | cut => cases h
  · rintro ⟨ms, hms, hadmits, htake⟩
    cases hms with
    | object =>
      refine (foldlM_member_iff (p := ⟨start, []⟩) (whole_of_mem_fields hv)).2 ⟨hadmits, fun m _ => ?_, htake⟩
      exact List.not_mem_nil
    | array hfirst =>
      have hparts : f.parts ms = ms := List.filter_eq_self.2 fun m hm =>
        List.contains_iff_mem.2 (hfirst.subset (List.mem_map_of_mem hm))
      rw [hparts] at htake
      exact (positional_iff _ _ _).2 ⟨ms, rfl, hfirst, htake⟩

/-! ## One part -/

theorem lookup_parts (hname : name ∈ f.names) : ∀ ms : List (String × Json), (f.parts ms).lookup name = ms.lookup name
  | [] => rfl
  | m :: ms => by
    by_cases hm : m.1 ∈ f.names
    · rw [parts_cons_of_mem hm, List.lookup_cons, List.lookup_cons, lookup_parts hname ms]
    · have hne : (name == m.1) = false := beq_eq_false_iff_ne.2 fun h => hm (h ▸ hname)
      rw [parts_cons_of_not_mem hm, List.lookup_cons, hne, lookup_parts hname ms]

theorem lookup_of_mem : ∀ {ms : List (String × Json)}, (ms.map Prod.fst).Nodup → ∀ m ∈ ms, ms.lookup m.1 = some m.2
  | m :: ms, hnodup, x, hx => by
    obtain ⟨hm, hnodup⟩ := List.nodup_cons.1 hnodup
    rw [List.lookup_cons]
    rcases List.mem_cons.1 hx with rfl | hx
    · rw [beq_self_eq_true]
    · have hne : (x.1 == m.1) = false := beq_eq_false_iff_ne.2 fun h => hm (h ▸ List.mem_map_of_mem hx)
      rw [hne]
      exact lookup_of_mem hnodup x hx

/-- **Every part is taken in for itself**: what a record shows of it is what its own member says, and what was there
before if it has none.  `view` is what is shown of the part. -/
theorem given_of_take {α : Type} (view : σ → α) {Reads : Json → α → Prop} :
    ∀ {ms : List (String × Json)} {s s' : σ}, (ms.map Prod.fst).Nodup →
      (∀ {s s' v}, (name, v) ∈ ms → f.part s name v = .ok s' → Reads v (view s')) →
      (∀ {s s' m}, m ∈ ms → m.1 ≠ name → f.take s m = .ok s' → view s' = view s) →
      ms.foldlM f.take s = .ok s' → Given Reads (view s) (ms.lookup name) (view s')
  | [], s, s', _, _, _, h => by
    obtain rfl : s = s' := Except.ok.inj h
    exact .missing
  | m :: ms, s, s', hnodup, hpart, hother, h => by
    obtain ⟨hm, hnodup⟩ := List.nodup_cons.1 hnodup
    rw [List.foldlM_cons] at h
    cases htake : f.take s m with
    | error e => simp [htake, bind, Except.bind] at h
    | ok s₁ =>
      rw [htake] at h
      have hrest := given_of_take view hnodup (fun hv => hpart (List.mem_cons_of_mem _ hv))
        (fun hmem => hother (List.mem_cons_of_mem _ hmem)) h
      rw [List.lookup_cons]
      by_cases hname : m.1 = name
      · subst hname
        have hnone : ms.lookup m.1 = none := List.lookup_eq_none_iff.2 fun x hx =>
          bne_iff_ne.2 fun heq => hm (List.mem_map.2 ⟨x, hx, heq.symm⟩)
        rw [hnone] at hrest
        rw [beq_self_eq_true, hrest.eq_of_missing]
        exact .given (hpart List.mem_cons_self htake)
      · rw [beq_eq_false_iff_ne.2 (Ne.symm hname), ← hother List.mem_cons_self hname htake]
        exact hrest

/-- Members are taken in if each of them can be. -/
theorem exists_take : ∀ {ms : List (String × Json)}, (∀ m ∈ ms, ∀ s, ∃ s', f.take s m = .ok s') → ∀ s,
    ∃ s', ms.foldlM f.take s = .ok s'
  | [], _, s => ⟨s, rfl⟩
  | m :: ms, h, s => by
    obtain ⟨s₁, hs₁⟩ := h m List.mem_cons_self s
    obtain ⟨s', hs'⟩ := exists_take (fun m hm => h m (List.mem_cons_of_mem _ hm)) s₁
    exact ⟨s', by rw [List.foldlM_cons, hs₁]; exact hs'⟩

end RecordFormat
end Json
end EventGateway
