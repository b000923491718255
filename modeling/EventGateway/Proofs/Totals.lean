import EventGateway.Proofs.Moves
/-!
# Totals — what the live sessions hold together

`Registry.total w` is the sum of the weights of the live sessions.  It depends only on the weight found under each id
(`total_congr`), and one session that comes, goes or changes makes the difference of its own weight.  A fan-out reaches
each session that wants the event once, so what is counted over its outcomes is a total too (`tally_outcomes`).
-/
namespace EventGateway

open Std (ExtTreeMap TransOrd LawfulEqOrd)

/-! ## Sums over a list -/

section Tally

variable {α β : Type}

/-- The sum of the weights of a list's elements. -/
def tally (w : α → Nat) : List α → Nat
  | [] => 0
  | x :: xs => w x + tally w xs

theorem tally_map (w : β → Nat) (f : α → β) : ∀ xs : List α, tally w (xs.map f) = tally (fun x => w (f x)) xs
  | [] => rfl
  | x :: xs => by rw [List.map_cons, tally, tally, tally_map w f xs]

theorem tally_add (w w' : α → Nat) : ∀ xs : List α, tally (fun x => w x + w' x) xs = tally w xs + tally w' xs
  | [] => rfl
  | x :: xs => by
    simp only [tally]
    rw [tally_add w w' xs]
    omega

theorem tally_filter (w : α → Nat) (p : α → Bool) : ∀ xs : List α,
    tally w (xs.filter p) = tally (fun x => if p x then w x else 0) xs
  | [] => rfl
  | x :: xs => by
    rw [List.filter_cons, tally, ← tally_filter w p xs]
    split
    · rfl
    · rw [Nat.zero_add]

theorem tally_perm (w : α → Nat) {xs ys : List α} (h : xs.Perm ys) : tally w xs = tally w ys := by
  induction h with
  | nil => rfl
  | cons x _ ih => rw [tally, tally, ih]
  | swap x y l =>
    simp only [tally]
    omega
  | trans _ _ ih ih' => exact ih.trans ih'

theorem countP_eq_tally (p : α → Bool) : ∀ xs : List α, xs.countP p = tally (fun x => (p x).toNat) xs
  | [] => rfl
  | x :: xs => by
    rw [List.countP_cons, tally, ← countP_eq_tally p xs, Nat.add_comm]
    cases p x <;> rfl

theorem foldl_add_eq_tally (w : α → Nat) : ∀ (xs : List α) (n : Nat),
    xs.foldl (fun n x => n + w x) n = n + tally w xs
  | [], _ => rfl
  | x :: xs, n => by rw [List.foldl_cons, tally, foldl_add_eq_tally w xs, Nat.add_assoc]

end Tally

/-! ## Sums over a table -/

section Tables

variable {κ V : Type}

theorem nodup_of_nodup_keys {xs : List (κ × V)} (h : (xs.map Prod.fst).Nodup) : xs.Nodup :=
  List.Pairwise.of_map Prod.fst (fun _ _ hne he => hne (by rw [he])) h

variable [Ord κ] [TransOrd κ]

theorem nodup_keys_toList (m : ExtTreeMap κ V) : (m.toList.map Prod.fst).Nodup := by
  rw [ExtTreeMap.map_fst_toList_eq_keys]
  exact ExtTreeMap.nodup_keys

variable [LawfulEqOrd κ] [DecidableEq κ]

/-- A new key comes once. -/
theorem toList_insert_perm {m : ExtTreeMap κ V} {k : κ} (h : m[k]? = none) (v : V) :
    (m.insert k v).toList.Perm ((k, v) :: m.toList) := by
  have hnew : (k, v) ∉ m.toList := fun hmem => by
    rw [ExtTreeMap.mem_toList_iff_getElem?_eq_some.1 hmem] at h
    cases h
  refine (List.perm_ext_iff_of_nodup (nodup_of_nodup_keys (nodup_keys_toList _))
    (List.nodup_cons.2 ⟨hnew, nodup_of_nodup_keys (nodup_keys_toList m)⟩)).2 fun ⟨i, u⟩ => ?_
  rw [List.mem_cons, ExtTreeMap.mem_toList_iff_getElem?_eq_some, ExtTreeMap.mem_toList_iff_getElem?_eq_some,
    getElem?_insert_eq]
  by_cases hi : i = k
  · subst hi
    simp [h, eq_comm]
  · simp [hi]

end Tables

namespace Registry

/-- **The sum of the weights of the live sessions.** -/
def total (r : Registry) (w : Session → Nat) : Nat := tally (fun x => w x.2) r.sessions.toList

variable {r r' : Registry} {w w' : Session → Nat} {id : SessionId} {s s' : Session}

theorem total_add : r.total (fun s => w s + w' s) = r.total w + r.total w' := tally_add _ _ _

/-- **Only the weight under each id counts.** -/
theorem total_congr (h : ∀ i, (r'.session? i).map w' = (r.session? i).map w) : r'.total w' = r.total w := by
  have hweights : ∀ (r : Registry) (w : Session → Nat),
      r.total w = tally Prod.snd (r.sessions.map fun _ => w).toList := fun r w => by
    rw [ExtTreeMap.toList_map, tally_map]
    rfl
  rw [hweights, hweights]
  congr 2
  refine ExtTreeMap.ext_getElem? fun i => ?_
  rw [ExtTreeMap.getElem?_map, ExtTreeMap.getElem?_map]
  exact h i

/-- A session comes. -/
theorem total_insert (hnew : r.session? id = none)
    (h : ∀ i, r'.session? i = if i = id then some s else r.session? i) : r'.total w = w s + r.total w := by
  have hsessions : r'.sessions = r.sessions.insert id s := by
    refine ExtTreeMap.ext_getElem? fun i => ?_
    rw [getElem?_insert_eq]
    exact h i
  rw [total, hsessions, tally_perm _ (toList_insert_perm hnew s)]
  rfl

/-- A session goes. -/
theorem total_erase (hs : r.session? id = some s)
    (h : ∀ i, r'.session? i = if i = id then none else r.session? i) : r.total w = w s + r'.total w := by
  refine total_insert (r := r') (by rw [h, if_pos rfl]) fun i => ?_
  rw [h]
  by_cases hi : i = id
  · rw [if_pos hi, hi, hs]
  · rw [if_neg hi, if_neg hi]

/-- One session changes. -/
theorem total_replace (hs : r.session? id = some s)
    (h : ∀ i, r'.session? i = if i = id then some s' else r.session? i) : r'.total w + w s = r.total w + w s' := by
  have herased : ∀ i, session? { r with sessions := r.sessions.erase id } i = if i = id then none else r.session? i :=
    fun i => getElem?_erase_eq r.sessions id i
  have hinserted : ∀ i, r'.session? i =
      if i = id then some s' else session? { r with sessions := r.sessions.erase id } i := fun i => by
    rw [h, herased]
    by_cases hi : i = id
    · rw [if_pos hi, if_pos hi]
    · rw [if_neg hi, if_neg hi, if_neg hi]
  have hbefore := total_erase (w := w) hs herased
  have hafter := total_insert (w := w) ((herased id).trans (if_pos rfl)) hinserted
  omega

end Registry

namespace Router

/-! ## Fan-outs -/

/-- **An outcome for each session that wants the event**, and each of them once. -/
theorem outcomes_perm (now : Moment) (e : Event) {r : Router} (hr : r.registry.Consistent) :
    (r.fanOut now e e.scopes).outcomes.Perm ((r.registry.sessions.toList.filter (·.2.wants e)).map
      fun x => (x.1, (x.2.push now.ticks e.payload).1)) := by
  obtain ⟨hprogress, hreached⟩ := fanOut_spec now e (List.Subset.refl e.scopes) hr
  have hnodup : ((r.registry.sessions.toList.filter (·.2.wants e)).map
      fun x => (x.1, (x.2.push now.ticks e.payload).1)).Nodup := by
    refine nodup_of_nodup_keys ?_
    rw [List.map_map]
    exact (nodup_keys_toList r.registry.sessions).sublist (List.filter_sublist.map _)
  refine (List.perm_ext_iff_of_nodup (nodup_of_nodup_keys hprogress.nodup) hnodup).2 fun x => ?_
  rw [List.mem_map]
  constructor
  · intro hx
    obtain ⟨s, hs, hw⟩ := (hreached x.1).1 (List.mem_map_of_mem hx)
    obtain ⟨t, ht, hout⟩ := hprogress.outcome x hx
    obtain rfl : s = t := Option.some.inj (hs.symm.trans ht)
    exact ⟨(x.1, s), List.mem_filter.2 ⟨ExtTreeMap.mem_toList_iff_getElem?_eq_some.2 hs, hw⟩,
      Prod.ext rfl hout.symm⟩
  · rintro ⟨⟨i, s⟩, hmem, rfl⟩
    obtain ⟨hlist, hw⟩ := List.mem_filter.1 hmem
    have hs : r.registry.session? i = some s := ExtTreeMap.mem_toList_iff_getElem?_eq_some.1 hlist
    obtain ⟨⟨j, o⟩, hout, rfl⟩ := List.mem_map.1 ((hreached i).2 ⟨s, hs, hw⟩)
    obtain ⟨t, ht, ho⟩ := hprogress.outcome _ hout
    obtain rfl : s = t := Option.some.inj (hs.symm.trans ht)
    exact ho ▸ hout

/-- **What is counted over the outcomes of a fan-out is a total**: nothing for a session that does not want the event. -/
theorem tally_outcomes (now : Moment) (e : Event) {r : Router} (hr : r.registry.Consistent) (w : PushOutcome → Nat) :
    tally w ((r.fanOut now e e.scopes).outcomes.map Prod.snd) =
      r.registry.total fun s => if s.wants e then w (s.push now.ticks e.payload).1 else 0 := by
  rw [tally_map, tally_perm _ (outcomes_perm now e hr), tally_map, tally_filter]
  rfl

/-- Publishing weighs each live session as it is after an offer. -/
theorem total_publish (now : Moment) (e : Event) {r : Router} (hr : r.registry.Consistent) (w : Session → Nat) :
    (r.publish now e).2.registry.total w = r.registry.total fun s => w (s.offer now.ticks e) := by
  refine Registry.total_congr fun i => ?_
  rw [registry_publish, session?_fanOut now e (List.Subset.refl e.scopes) hr, Option.map_map]
  rfl

end Router
end EventGateway
