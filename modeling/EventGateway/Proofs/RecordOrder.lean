import EventGateway.Proofs.IdForms
import Mathlib.Data.List.Nodup
/-!
# Records — in whatever order their members stand

A record that must have some of its parts is read from an object if these are among its members (`readAll_ofFields_iff`).
Where the parts do not stand in each other's way, the members may change places, and other members may join them
(`toOption_readAll_perm`).
-/
namespace EventGateway.Json

/-- **Steps that can be swapped may be taken in any order.** -/
theorem toOption_foldlM_perm {ε σ β : Type} {step : σ → β → Except ε σ} {l l' : List β} (h : l.Perm l') :
    (∀ a ∈ l, ∀ b ∈ l, ∀ s, (step s a >>= (step · b)).toOption = (step s b >>= (step · a)).toOption) →
      ∀ s, (l.foldlM step s).toOption = (l'.foldlM step s).toOption := by
  induction h with
  | nil => exact fun _ _ => rfl
  | cons x _ ih =>
    intro hswap s
    rw [List.foldlM_cons, List.foldlM_cons]
    refine toOption_bind_congr rfl fun s' => ih (fun a ha b hb => ?_) s'
    exact hswap a (List.mem_cons_of_mem _ ha) b (List.mem_cons_of_mem _ hb)
  | swap x y l =>
    intro hswap s
    simp only [List.foldlM_cons, ← bind_assoc]
    exact toOption_bind_congr (hswap y (by simp) x (by simp) s) fun _ => rfl
  | trans h _ ih ih' =>
    intro hswap s
    rw [ih hswap s]
    exact ih' (fun a ha b hb => hswap a (h.mem_iff.2 ha) b (h.mem_iff.2 hb)) s

/-- An object can be read in full if each of its values can, with one level less. -/
theorem readable_ofFields {room : Nat} : ∀ {ms : List (String × Json)},
    (ofFields ms).readable (room + 1) = true ↔ ∀ m ∈ ms, m.2.readable room = true
  | [] => by simp [ofFields, readable, reach, reachMembers]
  | m :: ms => by
    have ih : (ofFields ms).readable (room + 1) = true ↔ _ := readable_ofFields
    simp only [ofFields, readable, reach, beq_iff_eq, Nat.add_one_ne_zero, if_false, Nat.add_sub_cancel, List.map_cons,
      reachMembers, List.forall_mem_cons] at ih ⊢
    rw [← ih]
    cases hm : m.2.reach room with
    | full => simp
    | past => cases ms <;> simp
    | stuck => simp

namespace RecordFormat

variable {σ : Type} {f : RecordFormat σ} {ms ms' extra : List (String × Json)}

/-- A reader remembers the name of a part that it has taken in. -/
theorem seen_of_member {p q : Progress σ} {m : String × Json} (hwhole : m.2.whole = true)
    (h : f.member p (some m.1, m.2) = .ok q) : q.seen = (f.parts [m]).map Prod.fst ++ p.seen := by
  by_cases hname : m.1 ∈ f.names
  · rw [parts_cons_of_mem hname]
    by_cases hseen : m.1 ∈ p.seen
    · rw [member_seen hname hseen] at h
      cases h
    · rw [member_part hname hseen, map_eq_ok_iff] at h
      obtain ⟨s, -, rfl⟩ := h
      rfl
  · rw [parts_cons_of_not_mem hname]
    cases hstrict : f.strict with
    | true =>
      rw [member_refused hname hstrict] at h
      cases h
    | false =>
      rw [member_passed hname hstrict hwhole] at h
      obtain rfl := Except.ok.inj h
      rfl

theorem mem_seen {name : String} : ∀ {ms : List (String × Json)} {p q : Progress σ}, (∀ m ∈ ms, m.2.whole = true) →
    (ms.map fun m => (some m.1, m.2)).foldlM f.member p = .ok q →
      (name ∈ q.seen ↔ name ∈ p.seen ∨ name ∈ (f.parts ms).map Prod.fst)
  | [], p, q, _, h => by
    obtain rfl : p = q := Except.ok.inj h
    simp [parts]
  | m :: ms, p, q, hwhole, h => by
    rw [List.map_cons, List.foldlM_cons] at h
    cases hmember : f.member p (some m.1, m.2) with
    | error e => simp [hmember, bind, Except.bind] at h
    | ok p' =>
      rw [hmember] at h
      have hparts : f.parts (m :: ms) = f.parts [m] ++ f.parts ms := List.filter_append [m] ms
      rw [mem_seen (fun m hm => hwhole m (List.mem_cons_of_mem _ hm)) h,
        seen_of_member (hwhole m List.mem_cons_self) hmember, hparts, List.map_append, List.mem_append, List.mem_append,
        or_assoc, or_left_comm]

/-- **What a record with required parts is read from**, as an object. -/
theorem readAll_ofFields_iff {required : List String} {start s : σ} (hwhole : ∀ m ∈ ms, m.2.whole = true) :
    f.readAll required start (.ofFields ms) = .ok s ↔
      f.Admits ms ∧ (f.parts ms).foldlM f.take start = .ok s ∧
        ∀ name ∈ required, name ∈ (f.parts ms).map Prod.fst := by
  have hread := foldlM_member_iff (f := f) (p := ⟨start, []⟩) (s := s) hwhole
  rw [readAll]
  have hfold : f.read start (.ofFields ms) = (ms.map fun m => (some m.1, m.2)).foldlM f.member ⟨start, []⟩ := rfl
  rw [hfold]
  cases hall : (ms.map fun m => (some m.1, m.2)).foldlM f.member ⟨start, []⟩ with
  | error e =>
    rw [hall] at hread
    simp only [Except.map, reduceCtorEq, List.not_mem_nil, not_false_eq_true, implies_true, true_and, false_iff] at hread
    simp only [bind, Except.bind, reduceCtorEq, false_iff]
    exact fun h => hread ⟨h.1, h.2.1⟩
  | ok q =>
    have hseen : required.all q.seen.contains = true ↔ ∀ name ∈ required, name ∈ (f.parts ms).map Prod.fst := by
      simp only [List.all_eq_true, List.contains_iff_mem, mem_seen hwhole hall, List.not_mem_nil, false_or]
    rw [hall] at hread
    simp only [Except.map, Except.ok.injEq, List.not_mem_nil, not_false_eq_true, implies_true, true_and] at hread
    rw [← hseen, ← and_assoc, ← hread]
    simp only [bind, Except.bind]
    split
    · rename_i hrequired
      simp [hrequired, pure, Except.pure]
    · rename_i hrequired
      simp [hrequired, throw, throwThe, MonadExceptOf.throw]

/-! ## Other orders -/

theorem parts_append_extra (hextra : ∀ m ∈ extra, m.1 ∉ f.names) : f.parts (ms ++ extra) = f.parts ms := by
  have hnone : f.parts extra = [] := List.filter_eq_nil_iff.2 fun m hm => by simpa using hextra m hm
  rw [parts, List.filter_append]
  exact (congrArg _ hnone).trans (List.append_nil _)

/-- Two members of a record that may change places. -/
def Swap (f : RecordFormat σ) (m m' : String × Json) : Prop :=
  ∀ s, (f.take s m >>= (f.take · m')).toOption = (f.take s m' >>= (f.take · m)).toOption

/-- **The order of the members does not matter, and neither do members that are no parts**, as long as the parts can be
taken in one before the other or the other way round. -/
theorem toOption_readAll_perm (required : List String) (hstrict : f.strict = false)
    (hswap : ∀ m m', m.1 ∈ f.names → m'.1 ∈ f.names → m.1 ≠ m'.1 → f.Swap m m') (hperm : ms'.Perm (ms ++ extra))
    (hextra : ∀ m ∈ extra, m.1 ∉ f.names) (hwhole : ∀ m ∈ ms', m.2.whole = true) (start : σ) :
    (f.readAll required start (.ofFields ms')).toOption = (f.readAll required start (.ofFields ms)).toOption := by
  have hparts : (f.parts ms').Perm (f.parts ms) := by
    have happend : f.parts (ms ++ extra) = f.parts ms := parts_append_extra hextra
    rw [← happend]
    exact hperm.filter _
  have hms : ∀ m ∈ ms, m.2.whole = true := fun m hm => hwhole m (hperm.mem_iff.2 (List.mem_append_left _ hm))
  have hadmits : f.Admits ms' ↔ f.Admits ms := by
    simp only [Admits, hstrict, Bool.false_eq_true, false_implies, and_true]
    exact (hparts.map _).nodup_iff
  refine toOption_eq_iff.2 fun s => ?_
  rw [readAll_ofFields_iff hwhole, readAll_ofFields_iff hms, hadmits]
  refine and_congr_right fun hnodup => and_congr ?_ ?_
  · refine toOption_eq_iff.1 (toOption_foldlM_perm hparts (fun a ha b hb s => ?_) start) s
    by_cases hab : a.1 = b.1
    · -- A part that is there once can only meet itself.
      rw [List.inj_on_of_nodup_map hnodup.1 (hparts.mem_iff.1 ha) (hparts.mem_iff.1 hb) hab]
    · have hname : ∀ m ∈ f.parts ms', m.1 ∈ f.names := fun m hm => List.contains_iff_mem.1 (List.mem_filter.1 hm).2
      exact hswap a b (hname a ha) (hname b hb) hab s
  · simp only [(hparts.map Prod.fst).mem_iff]

end RecordFormat
end EventGateway.Json
