import EventGateway.Proofs.JsonGrammar
import Mathlib.Data.List.TakeWhile
/-!
# Scanning documents — the scanner and the grammar say the same

What is spelled is scanned (`value_spelled`), and what is scanned is spelled (`spelled_of_value`); so a text is one
document at most, and it is read exactly if it is one (`readText_eq_ok_iff`).  The scanner's fuel is never short, since
every step but those into an array or an object takes a character away.
-/
namespace EventGateway.Json

open EventGateway.Text

/-! ## The grammar -/

mutual

/-- **How a value is spelled.** -/
inductive Spells : Json → List Char → Prop where
  | null : Spells .null ['n', 'u', 'l', 'l']
  | yes : Spells (.bool true) ['t', 'r', 'u', 'e']
  | no : Spells (.bool false) ['f', 'a', 'l', 's', 'e']
  | number {v : Json} {cs : List Char} (h : Number v cs) : Spells v cs
  | text {v : Json} {cs : List Char} (h : Quoted v cs) : Spells v cs
  | emptyArray {between : List Char} (h : Space between) : Spells (.array []) ('[' :: between ++ [']'])
  | array {vs : List Json} {cs : List Char} (h : SpellsItems vs cs) : Spells (.array vs) ('[' :: cs ++ [']'])
  | emptyObject {between : List Char} (h : Space between) : Spells (.object []) ('{' :: between ++ ['}'])
  | object {ms : List (Option String × Json)} {cs : List Char} (h : SpellsMembers ms cs) :
    Spells (.object ms) ('{' :: cs ++ ['}'])

/-- Values with commas between them. -/
inductive SpellsItems : List Json → List Char → Prop where
  | last {v : Json} {before cs after : List Char} (hbefore : Space before) (h : Spells v cs) (hafter : Space after) :
    SpellsItems [v] (before ++ cs ++ after)
  | cons {v : Json} {vs : List Json} {before cs after rest : List Char} (hbefore : Space before) (h : Spells v cs)
    (hafter : Space after) (hrest : SpellsItems vs rest) : SpellsItems (v :: vs) (before ++ cs ++ after ++ ',' :: rest)

/-- A name, a colon and a value. -/
inductive SpellsMember : Option String × Json → List Char → Prop where
  | mk {name v : Json} {before ns gap before' cs after : List Char} (hbefore : Space before) (hname : Quoted name ns)
    (hgap : Space gap) (hbefore' : Space before') (h : Spells v cs) (hafter : Space after) :
    SpellsMember (asName name, v) (before ++ ns ++ gap ++ ':' :: (before' ++ cs ++ after))

/-- Members with commas between them. -/
inductive SpellsMembers : List (Option String × Json) → List Char → Prop where
  | last {m : Option String × Json} {cs : List Char} (h : SpellsMember m cs) : SpellsMembers [m] cs
  | cons {m : Option String × Json} {ms : List (Option String × Json)} {cs rest : List Char} (h : SpellsMember m cs)
    (hrest : SpellsMembers ms rest) : SpellsMembers (m :: ms) (cs ++ ',' :: rest)

end

/-- **A text that is one document**, with nothing around it but white space. -/
def Document (v : Json) (cs : List Char) : Prop :=
  ∃ before pre after, cs = before ++ pre ++ after ∧ Space before ∧ Spells v pre ∧ Space after

/-! ## How values begin -/

theorem isSpace_of_startsNumber {c : Char} (hc : startsNumber c = true) : isSpace (some c) = false := by
  cases hs : isSpace (some c) with
  | false => rfl
  | true => rcases isSpace_iff.1 hs with rfl | rfl | rfl | rfl <;> cases hc

theorem Spells.head {v : Json} {cs : List Char} (h : Spells v cs) :
    ∃ c tail, cs = c :: tail ∧ isSpace (some c) = false ∧ c ≠ ']' := by
  cases h with
  | null | yes | no => exact ⟨_, _, rfl, rfl, by decide⟩
  | number h =>
    obtain ⟨c, tail, rfl, hc⟩ := h.head
    refine ⟨c, tail, rfl, isSpace_of_startsNumber hc, ?_⟩
    rintro rfl
    cases hc
  | text h =>
    obtain ⟨ps, -, -, rfl⟩ := quoted_iff.1 h
    exact ⟨'"', _, rfl, rfl, by decide⟩
  | emptyArray | array | emptyObject | object => exact ⟨_, _, rfl, rfl, by decide⟩

theorem SpellsItems.head {vs : List Json} {cs : List Char} (h : SpellsItems vs cs) :
    ∃ before c tail, cs = before ++ c :: tail ∧ Space before ∧ isSpace (some c) = false ∧ c ≠ ']' := by
  cases h with
  | last hbefore h =>
    obtain ⟨c, tail, rfl, hc⟩ := h.head
    exact ⟨_, c, _, by rw [List.append_assoc, List.cons_append], hbefore, hc⟩
  | cons hbefore h =>
    obtain ⟨c, tail, rfl, hc⟩ := h.head
    exact ⟨_, c, _, by rw [List.append_assoc, List.append_assoc, List.cons_append], hbefore, hc⟩

theorem SpellsMember.head {m : Option String × Json} {cs : List Char} (h : SpellsMember m cs) :
    ∃ before tail, cs = before ++ '"' :: tail ∧ Space before := by
  cases h with
  | mk hbefore hname =>
    obtain ⟨ps, -, -, rfl⟩ := quoted_iff.1 hname
    exact ⟨_, _, by rw [List.append_assoc, List.append_assoc, List.cons_append, List.cons_append], hbefore⟩

theorem SpellsMembers.head {ms : List (Option String × Json)} {cs : List Char} (h : SpellsMembers ms cs) :
    ∃ before tail, cs = before ++ '"' :: tail ∧ Space before := by
  cases h with
  | last h => exact h.head
  | cons h =>
    obtain ⟨before, tail, rfl, hbefore⟩ := h.head
    exact ⟨before, _, by rw [List.append_assoc, List.cons_append], hbefore⟩

/-! ## What is spelled is scanned -/

section Skipping

variable {before : List Char} (h : Space before) (fuel : Nat) (rest : Source)

include h

theorem value_skip : value fuel (before.map some ++ rest) = value fuel rest := by
  cases fuel with
  | zero => rfl
  | succ fuel => simp only [value, skipSpace_append h]

theorem items_skip : items fuel (before.map some ++ rest) = items fuel rest := by
  cases fuel with
  | zero => rfl
  | succ fuel => simp only [items, value_skip h]

theorem members_skip : members fuel (before.map some ++ rest) = members fuel rest := by
  cases fuel with
  | zero => rfl
  | succ fuel => simp only [members, skipSpace_append h]

end Skipping

theorem value_number {c : Char} (hc : startsNumber c = true) (fuel : Nat) (rest : Source) :
    value (fuel + 1) (some c :: rest) = orCut (number (some c :: rest)) := by
  rw [value, skipSpace_cons (isSpace_of_startsNumber hc)]
  split
  case h_1 h => cases h
  case h_8 => rfl
  all_goals
    rename_i h
    obtain ⟨h, -⟩ := List.cons.inj h
    obtain rfl := Option.some.inj h
    cases hc

/-- The items of an array are scanned from the first character of theirs, which is no closing bracket. -/
theorem value_array {vs : List Json} {cs : List Char} (h : SpellsItems vs cs) (fuel : Nat) (rest : Source) :
    value (fuel + 1) (some '[' :: (cs.map some ++ rest)) =
      (.array (items fuel (cs.map some ++ rest)).1, (items fuel (cs.map some ++ rest)).2) := by
  obtain ⟨before, c, tail, rfl, hbefore, hc, hne⟩ := h.head
  rw [List.map_append, List.append_assoc, items_skip hbefore, value, skipSpace_cons rfl]
  simp only [skipSpace_append hbefore, List.map_cons, List.cons_append, skipSpace_cons hc]
  split
  · rename_i heq
    exact absurd (Option.some.inj (List.cons.inj heq).1) hne
  · rfl

theorem value_object {ms : List (Option String × Json)} {cs : List Char} (h : SpellsMembers ms cs) (fuel : Nat)
    (rest : Source) : value (fuel + 1) (some '{' :: (cs.map some ++ rest)) =
      (.object (members fuel (cs.map some ++ rest)).1, (members fuel (cs.map some ++ rest)).2) := by
  obtain ⟨before, tail, rfl, hbefore⟩ := h.head
  rw [List.map_append, List.append_assoc, members_skip hbefore, value, skipSpace_cons rfl]
  simp only [skipSpace_append hbefore, List.map_cons, List.cons_append, skipSpace_cons (c := '"') rfl]
  rfl

mutual

/-- **A value is scanned from its spelling**, if what stands behind does not go on with a number. -/
theorem value_spelled : ∀ (fuel : Nat) {v : Json} {cs : List Char}, Spells v cs → ∀ {rest : Source}, Ends rest →
    cs.length ≤ fuel → value fuel (cs.map some ++ rest) = (v, some rest)
  | 0, _, _, h, _, _, hfuel => by
    obtain ⟨c, tail, rfl, -⟩ := h.head
    cases hfuel
  | fuel + 1, _, _, h, rest, hrest, hfuel => by
    cases h with
    | null | yes | no => simp [value, skipSpace, isSpace, word]
    | number h =>
      have hscanned := h.scanned hrest
      obtain ⟨c, tail, rfl, hc⟩ := h.head
      rw [List.map_cons, List.cons_append] at hscanned ⊢
      rw [value_number hc, hscanned]
      rfl
    | text h =>
      obtain ⟨body, hbody, hscanned⟩ := h.scanned rest
      rw [hbody, value, skipSpace_cons rfl]
      simp only [hscanned, orCut]
    | @emptyArray between h =>
      have hshape : ('[' :: between ++ [']']).map some ++ rest =
          some '[' :: (between.map some ++ some ']' :: rest) := by simp
      rw [hshape, value, skipSpace_cons rfl]
      simp only [skipSpace_append h, skipSpace_cons (c := ']') rfl]
    | @array vs cs h =>
      have hshape : ('[' :: cs ++ [']']).map some ++ rest = some '[' :: (cs.map some ++ some ']' :: rest) := by simp
      -- The list costs a step of its own and no character; the opening bracket makes up for it.
      have hlength : cs.length < fuel := by
        simp only [List.length_cons, List.length_append, List.length_nil] at hfuel
        omega
      rw [hshape, value_array h, items_spelled fuel h rest hlength]
    | @emptyObject between h =>
      have hshape : ('{' :: between ++ ['}']).map some ++ rest =
          some '{' :: (between.map some ++ some '}' :: rest) := by simp
      rw [hshape, value, skipSpace_cons rfl]
      simp only [skipSpace_append h, skipSpace_cons (c := '}') rfl]
    | @object ms cs h =>
      have hshape : ('{' :: cs ++ ['}']).map some ++ rest = some '{' :: (cs.map some ++ some '}' :: rest) := by simp
      have hlength : cs.length < fuel := by
        simp only [List.length_cons, List.length_append, List.length_nil] at hfuel
        omega
      rw [hshape, value_object h, members_spelled fuel h rest hlength]

theorem items_spelled : ∀ (fuel : Nat) {vs : List Json} {cs : List Char}, SpellsItems vs cs → ∀ rest : Source,
    cs.length < fuel → items fuel (cs.map some ++ some ']' :: rest) = (vs, some rest)
  | 0, _, _, _, _, hfuel => absurd hfuel (Nat.not_lt_zero _)
  | fuel + 1, _, _, h, rest, hfuel => by
    cases h with
    | @last v before cs after hbefore h hafter =>
      have hlength : cs.length ≤ fuel := by
        simp only [List.length_append] at hfuel
        omega
      have hvalue := value_spelled fuel h (ends_append hafter (ends_cons rest (.inr (.inl rfl)))) hlength
      rw [items]
      simp only [List.map_append, List.append_assoc, value_skip hbefore, hvalue, skipSpace_append hafter,
        skipSpace_cons (c := ']') rfl]
    | @cons v vs before cs after tail hbefore h hafter htail =>
      simp only [List.length_append, List.length_cons] at hfuel
      have hends := ends_append hafter (ends_cons (tail.map some ++ some ']' :: rest) (.inl rfl))
      have hvalue := value_spelled fuel h hends (by omega)
      have hitems := items_spelled fuel htail rest (by omega)
      rw [items]
      simp only [List.map_append, List.map_cons, List.append_assoc, List.cons_append, value_skip hbefore, hvalue,
        skipSpace_append hafter, skipSpace_cons (c := ',') rfl, hitems]

theorem members_spelled : ∀ (fuel : Nat) {ms : List (Option String × Json)} {cs : List Char}, SpellsMembers ms cs →
    ∀ rest : Source, cs.length < fuel → members fuel (cs.map some ++ some '}' :: rest) = (ms, some rest)
  | 0, _, _, _, _, hfuel => absurd hfuel (Nat.not_lt_zero _)
  | fuel + 1, _, _, h, rest, hfuel => by
    cases h with
    | last h =>
      cases h with
      | @mk name v before ns gap before' cs after hbefore hname hgap hbefore' h hafter =>
        simp only [List.length_append, List.length_cons] at hfuel
        have hvalue := value_spelled fuel h (ends_append hafter (ends_cons rest (.inr (.inr rfl)))) (by omega)
        obtain ⟨body, hbody, hscanned⟩ := hname.scanned
          (gap.map some ++ some ':' :: (before'.map some ++ (cs.map some ++ (after.map some ++ some '}' :: rest))))
        rw [members]
        simp only [List.map_append, List.map_cons, List.append_assoc, List.cons_append, skipSpace_append hbefore, hbody,
          skipSpace_cons (c := '"') rfl, hscanned, skipSpace_append hgap, skipSpace_cons (c := ':') rfl,
          value_skip hbefore', hvalue, skipSpace_append hafter, skipSpace_cons (c := '}') rfl]
    | @cons _ ms _ tail h htail =>
      cases h with
      | @mk name v before ns gap before' cs after hbefore hname hgap hbefore' h hafter =>
        simp only [List.length_append, List.length_cons] at hfuel
        have hends := ends_append hafter (ends_cons (tail.map some ++ some '}' :: rest) (.inl rfl))
        have hvalue := value_spelled fuel h hends (by omega)
        have hmembers := members_spelled fuel htail rest (by omega)
        obtain ⟨body, hbody, hscanned⟩ := hname.scanned (gap.map some ++ some ':' :: (before'.map some ++
          (cs.map some ++ (after.map some ++ some ',' :: (tail.map some ++ some '}' :: rest)))))
        rw [members]
        simp only [List.map_append, List.map_cons, List.append_assoc, List.cons_append, skipSpace_append hbefore, hbody,
          skipSpace_cons (c := '"') rfl, hscanned, skipSpace_append hgap, skipSpace_cons (c := ':') rfl,
          value_skip hbefore', hvalue, skipSpace_append hafter, skipSpace_cons (c := ',') rfl, hmembers]

end

/-! ## What is scanned is spelled -/

theorem Space.append {before between : List Char} (h : Space before) (h' : Space between) : Space (before ++ between) :=
  fun c hc => (List.mem_append.1 hc).elim (h c) (h' c)

theorem SpellsItems.spaced {vs : List Json} {cs between : List Char} (h : SpellsItems vs cs) (hbetween : Space between) :
    SpellsItems vs (between ++ cs) := by
  cases h with
  | last hbefore h hafter =>
    rw [← List.append_assoc, ← List.append_assoc]
    exact .last (hbetween.append hbefore) h hafter
  | cons hbefore h hafter hrest =>
    rw [← List.append_assoc, ← List.append_assoc, ← List.append_assoc]
    exact .cons (hbetween.append hbefore) h hafter hrest

theorem SpellsMember.spaced {m : Option String × Json} {cs between : List Char} (h : SpellsMember m cs)
    (hbetween : Space between) : SpellsMember m (between ++ cs) := by
  cases h with
  | mk hbefore hname hgap hbefore' h hafter =>
    rw [← List.append_assoc, ← List.append_assoc, ← List.append_assoc]
    exact .mk (hbetween.append hbefore) hname hgap hbefore' h hafter

theorem SpellsMembers.spaced {ms : List (Option String × Json)} {cs between : List Char} (h : SpellsMembers ms cs)
    (hbetween : Space between) : SpellsMembers ms (between ++ cs) := by
  cases h with
  | last h => exact .last (h.spaced hbetween)
  | cons h hrest =>
    rw [← List.append_assoc]
    exact .cons (h.spaced hbetween) hrest

theorem eq_some_of_orCut {r : Option (Json × Source)} {v : Json} {rest : Source} (h : orCut r = (v, some rest)) :
    r = some (v, rest) := by
  cases r with
  | none => cases h
  | some r =>
    obtain ⟨rfl, hrest⟩ := Prod.mk.inj h
    exact congrArg (fun rest => some (r.1, rest)) (Option.some.inj hrest)

theorem eq_append_of_word {spelling : List Char} {w v : Json} {cs : List Char} {rest : Source}
    (h : word spelling w (cs.map some) = (v, some rest)) :
    ∃ after, cs = spelling ++ after ∧ rest = after.map some ∧ v = w := by
  unfold word at h
  split at h
  · rename_i hspells
    obtain ⟨tail, htail⟩ := List.isPrefixOf_iff_prefix.1 hspells
    obtain ⟨spelling', after, rfl, hspelling, rfl⟩ := List.append_eq_map_iff.1 htail
    obtain rfl := (List.map_inj_right fun _ _ => Option.some.inj).1 hspelling
    obtain ⟨rfl, hrest⟩ := Prod.mk.inj h
    refine ⟨after, rfl, ?_, rfl⟩
    rw [← Option.some.inj hrest, List.map_append, List.drop_left' (by rw [List.length_map])]
  · cases h

mutual

/-- **What is scanned as a value is spelled**, behind white space. -/
theorem spelled_of_value : ∀ (fuel : Nat) {cs : List Char} {v : Json} {rest : Source},
    value fuel (cs.map some) = (v, some rest) →
    ∃ before pre after, cs = before ++ pre ++ after ∧ rest = after.map some ∧ Space before ∧ Spells v pre
  | 0, _, _, _, h => by cases h
  | fuel + 1, cs, v, rest, h => by
    obtain ⟨before, cs, rfl, hbefore, hskip⟩ := skipSpace_map cs
    suffices ∃ pre after, cs = pre ++ after ∧ rest = after.map some ∧ Spells v pre by
      obtain ⟨pre, after, rfl, hrest, hpre⟩ := this
      exact ⟨before, pre, after, (List.append_assoc _ _ _).symm, hrest, hbefore, hpre⟩
    rw [value, hskip] at h
    split at h
    case h_1 => cases h
    case h_2 tail hcs =>
      obtain ⟨cs, rfl, rfl⟩ := map_some_eq_cons hcs
      obtain ⟨pre, after, hcs, hrest, hpre⟩ := quoted_of_scanned (eq_some_of_orCut h)
      exact ⟨pre, after, hcs, hrest, .text hpre⟩
    case h_3 tail hcs =>
      obtain ⟨cs, rfl, rfl⟩ := map_some_eq_cons hcs
      obtain ⟨between, cs, rfl, hbetween, hskip⟩ := skipSpace_map cs
      rw [hskip] at h
      split at h
      · rename_i tail hcs
        obtain ⟨after, rfl, rfl⟩ := map_some_eq_cons hcs
        cases h
        exact ⟨_, after, by simp, rfl, .emptyArray hbetween⟩
      · obtain ⟨rfl, hitems⟩ := Prod.mk.inj h
        obtain ⟨pre, after, rfl, hrest, hpre⟩ := spelled_of_items fuel (Prod.ext rfl hitems)
        exact ⟨_, after, by simp, hrest, .array (hpre.spaced hbetween)⟩
    case h_4 tail hcs =>
      obtain ⟨cs, rfl, rfl⟩ := map_some_eq_cons hcs
      obtain ⟨between, cs, rfl, hbetween, hskip⟩ := skipSpace_map cs
      rw [hskip] at h
      split at h
      · rename_i tail hcs
        obtain ⟨after, rfl, rfl⟩ := map_some_eq_cons hcs
        cases h
        exact ⟨_, after, by simp, rfl, .emptyObject hbetween⟩
      · obtain ⟨rfl, hmembers⟩ := Prod.mk.inj h
        obtain ⟨pre, after, rfl, hrest, hpre⟩ := spelled_of_members fuel (Prod.ext rfl hmembers)
        exact ⟨_, after, by simp, hrest, .object (hpre.spaced hbetween)⟩
    case h_5 tail hcs =>
      obtain ⟨cs, rfl, rfl⟩ := map_some_eq_cons hcs
      obtain ⟨after, rfl, hrest, rfl⟩ := eq_append_of_word h
      exact ⟨_, after, rfl, hrest, .null⟩
    case h_6 tail hcs =>
      obtain ⟨cs, rfl, rfl⟩ := map_some_eq_cons hcs
      obtain ⟨after, rfl, hrest, rfl⟩ := eq_append_of_word h
      exact ⟨_, after, rfl, hrest, .yes⟩
    case h_7 tail hcs =>
      obtain ⟨cs, rfl, rfl⟩ := map_some_eq_cons hcs
      obtain ⟨after, rfl, hrest, rfl⟩ := eq_append_of_word h
      exact ⟨_, after, rfl, hrest, .no⟩
    case h_8 =>
      obtain ⟨pre, after, rfl, hrest, hpre⟩ := number_of_scanned (eq_some_of_orCut h)
      exact ⟨pre, after, rfl, hrest, .number hpre⟩

theorem spelled_of_items : ∀ (fuel : Nat) {cs : List Char} {vs : List Json} {rest : Source},
    items fuel (cs.map some) = (vs, some rest) →
    ∃ pre after, cs = pre ++ ']' :: after ∧ rest = after.map some ∧ SpellsItems vs pre
  | 0, _, _, _, h => by cases h
  | fuel + 1, cs, vs, rest, h => by
    rw [items] at h
    split at h
    · cases h
    · rename_i v tail hvalue
      obtain ⟨before, pre, cs, rfl, rfl, hbefore, hpre⟩ := spelled_of_value fuel hvalue
      obtain ⟨after, cs, rfl, hafter, hskip⟩ := skipSpace_map cs
      rw [hskip] at h
      split at h
      · rename_i tail hcs
        obtain ⟨behind, rfl, rfl⟩ := map_some_eq_cons hcs
        cases h
        exact ⟨_, behind, by simp, rfl, .last hbefore hpre hafter⟩
      · rename_i tail hcs
        obtain ⟨cs, rfl, rfl⟩ := map_some_eq_cons hcs
        obtain ⟨rfl, hitems⟩ := Prod.mk.inj h
        obtain ⟨pre', behind, rfl, hrest, hpre'⟩ := spelled_of_items fuel (Prod.ext rfl hitems)
        exact ⟨_, behind, by simp, hrest, .cons hbefore hpre hafter hpre'⟩
      · cases h

theorem spelled_of_members : ∀ (fuel : Nat) {cs : List Char} {ms : List (Option String × Json)} {rest : Source},
    members fuel (cs.map some) = (ms, some rest) →
    ∃ pre after, cs = pre ++ '}' :: after ∧ rest = after.map some ∧ SpellsMembers ms pre
  | 0, _, _, _, h => by cases h
  | fuel + 1, cs, ms, rest, h => by
    rw [members] at h
    obtain ⟨before, cs, rfl, hbefore, hskip⟩ := skipSpace_map cs
    rw [hskip] at h
    split at h
    · rename_i tail hcs
      obtain ⟨cs, rfl, rfl⟩ := map_some_eq_cons hcs
      split at h
      · cases h
      · rename_i name tail hname
        obtain ⟨ns, cs', hcs', rfl, hns⟩ := quoted_of_scanned hname
        obtain ⟨gap, cs', rfl, hgap, hskip⟩ := skipSpace_map cs'
        simp only [hskip] at h
        split at h
        · rename_i tail hcs
          obtain ⟨cs', rfl, rfl⟩ := map_some_eq_cons hcs
          split at h
          · cases h
          · rename_i v tail hvalue
            obtain ⟨before', pre, cs', rfl, rfl, hbefore', hpre⟩ := spelled_of_value fuel hvalue
            obtain ⟨after, cs', rfl, hafter, hskip⟩ := skipSpace_map cs'
            have hmember := SpellsMember.mk hbefore hns hgap hbefore' hpre hafter
            rw [hcs']
            rw [hskip] at h
            split at h
            · rename_i tail hcs
              obtain ⟨behind, rfl, rfl⟩ := map_some_eq_cons hcs
              cases h
              exact ⟨_, behind, by simp, rfl, .last hmember⟩
            · rename_i tail hcs
              obtain ⟨cs', rfl, rfl⟩ := map_some_eq_cons hcs
              obtain ⟨rfl, hmembers⟩ := Prod.mk.inj h
              obtain ⟨pre', behind, rfl, hrest, hpre'⟩ := spelled_of_members fuel (Prod.ext rfl hmembers)
              exact ⟨_, behind, by simp, hrest, .cons hmember hpre'⟩
            · cases h
        · cases h
    · cases h

end

/-! ## Whole documents -/

theorem Quoted.whole {v : Json} {cs : List Char} (h : Quoted v cs) : v.whole = true := by
  obtain ⟨ps, -, rfl, -⟩ := quoted_iff.1 h
  rw [spelled]
  cases hseen : ps.foldl Piece.take (some ([], none)) with
  | none => rfl
  | some seen =>
    obtain ⟨cs, high⟩ := seen
    cases high with
    | some => rfl
    | none =>
      rw [Spelling.done]
      cases cs.reverse.mapM id <;> rfl

mutual

/-- **What is spelled is whole.** -/
theorem Spells.whole : ∀ {v : Json} {cs : List Char}, Spells v cs → v.whole = true
  | _, _, .null | _, _, .yes | _, _, .no => rfl
  | _, _, .number h => by cases h <;> rfl
  | _, _, .text h => h.whole
  | _, _, .emptyArray _ | _, _, .emptyObject _ => rfl
  | _, _, .array h => h.whole
  | _, _, .object h => h.whole

theorem SpellsItems.whole : ∀ {vs : List Json} {cs : List Char}, SpellsItems vs cs → wholeItems vs = true
  | _, _, .last _ h _ => by rw [wholeItems, h.whole]; rfl
  | _, _, .cons _ h _ hrest => by rw [wholeItems, h.whole, hrest.whole]; rfl

theorem SpellsMember.whole : ∀ {m : Option String × Json} {cs : List Char}, SpellsMember m cs → m.2.whole = true
  | _, _, .mk _ _ _ _ h _ => h.whole

theorem SpellsMembers.whole : ∀ {ms : List (Option String × Json)} {cs : List Char}, SpellsMembers ms cs →
    wholeMembers ms = true
  | _, _, .last h => by rw [wholeMembers, h.whole]; rfl
  | _, _, .cons h hrest => by rw [wholeMembers, h.whole, hrest.whole]; rfl

end

theorem Document.whole {v : Json} {cs : List Char} (h : Document v cs) : v.whole = true := by
  obtain ⟨_, _, _, -, -, h, -⟩ := h
  exact h.whole

theorem skipSpace_space {cs : List Char} (h : Space cs) : skipSpace (cs.map some) = [] := by
  have hskip := skipSpace_append h []
  rwa [List.append_nil] at hskip

/-- **The scanner reads a document**, and leaves nothing but white space. -/
theorem scan_document {v : Json} {cs : List Char} (h : Document v cs) :
    ∃ after, scan (cs.map some) = (v, some after) ∧ skipSpace after = [] := by
  obtain ⟨before, pre, after, rfl, hbefore, hpre, hafter⟩ := h
  refine ⟨after.map some, ?_, skipSpace_space hafter⟩
  have hends : Ends (after.map some) := by
    have hends := ends_append hafter ends_nil
    rwa [List.append_nil] at hends
  rw [scan, List.length_map]
  simp only [List.map_append, List.append_assoc, value_skip hbefore]
  refine value_spelled _ hpre hends ?_
  simp only [List.length_append]
  omega

theorem document_of_scan {v : Json} {cs : List Char} {rest : Source} (h : scan (cs.map some) = (v, some rest))
    (hrest : skipSpace rest = []) : Document v cs := by
  obtain ⟨before, pre, after, rfl, rfl, hbefore, hpre⟩ := spelled_of_value _ h
  refine ⟨before, pre, after, rfl, hbefore, hpre, fun c hc => isSpace_iff.1 ?_⟩
  exact List.dropWhile_eq_nil_iff.1 hrest _ (List.mem_map_of_mem hc)

/-- **A text is one document at most.** -/
theorem Document.unique {v w : Json} {cs : List Char} (hv : Document v cs) (hw : Document w cs) : v = w := by
  obtain ⟨_, hv, -⟩ := scan_document hv
  obtain ⟨_, hw, -⟩ := scan_document hw
  exact (Prod.mk.inj (hv.symm.trans hw)).1

section Reading

variable {α : Type} {read : Json → Except Refusal α} {s : String}

/-- **A document is read as what it spells.** -/
theorem readText_of_document {v : Json} (h : Document v s.toList) : readText read s = read v := by
  obtain ⟨rest, hscan, hrest⟩ := scan_document h
  rw [readText, readSource, hscan]
  cases hread : read v with
  | error e => simp [hread, bind, Except.bind]
  | ok a => simp [hread, hrest, bind, Except.bind, pure, Except.pure]

/-- **What is read is a document.** -/
theorem readText_eq_ok_iff {a : α} : readText read s = .ok a ↔ ∃ v, Document v s.toList ∧ read v = .ok a := by
  constructor
  · intro h
    rw [readText, readSource] at h
    cases hscan : scan (s.toList.map some) with
    | mk v rest =>
      rw [hscan] at h
      cases hread : read v with
      | error e => simp [hread, bind, Except.bind] at h
      | ok b =>
        cases rest with
        | none => simp [hread, bind, Except.bind, throw, throwThe, MonadExceptOf.throw] at h
        | some rest =>
          by_cases hrest : skipSpace rest = []
          · simp only [hread, bind, Except.bind, Option.any_some, hrest, List.isEmpty_nil, if_true] at h
            exact ⟨v, document_of_scan hscan hrest, hread.trans h⟩
          · simp [hread, bind, Except.bind, throw, throwThe, MonadExceptOf.throw, hrest] at h
  · rintro ⟨v, hv, hread⟩
    exact (readText_of_document hv).trans hread

end Reading

end EventGateway.Json
