import EventGateway.Text.Blank
/-!
# Trimming and cutting — what is left of a text without the white space around it, and its pieces

Trimming takes away the white space at the ends and stops at the first character that is none (`trimChars_surrounded`),
so it leaves a word exactly if there is white space around the word only (`trim_eq_iff`).  What is left has no white
space at its ends, and trimming it again changes nothing (`trimChars_trimChars`).  A text is cut at the first separator
(`cutAt_eq_some_iff`) or at every one (`splitOn_eq_iff`), and its pieces say something or nothing (`Words`).
-/
namespace EventGateway.Text

/-! ## White space at the ends -/

theorem trimLeftChars_append {before : List Char} (h : ∀ c ∈ before, isBlank c = true) (cs : List Char) :
    trimLeftChars (before ++ cs) = trimLeftChars cs := List.dropWhile_append_of_pos h

theorem trimLeftChars_of_blank {cs : List Char} (h : ∀ c ∈ cs, isBlank c = true) : trimLeftChars cs = [] := by
  have hnil := trimLeftChars_append h []
  rwa [List.append_nil] at hnil

theorem trimLeftChars_of_head? {cs : List Char} (h : ∀ c ∈ cs.head?, isBlank c = false) : trimLeftChars cs = cs := by
  cases cs with
  | nil => rfl
  | cons c cs =>
    refine List.dropWhile_cons_of_neg ?_
    rw [h c rfl]
    exact Bool.false_ne_true

/-- **Nothing but the white space around a text is trimmed away.** -/
theorem trimChars_surrounded {before cs after : List Char} (hbefore : ∀ c ∈ before, isBlank c = true)
    (hafter : ∀ c ∈ after, isBlank c = true) (hhead : ∀ c ∈ cs.head?, isBlank c = false)
    (hlast : ∀ c ∈ cs.getLast?, isBlank c = false) : trimChars (before ++ cs ++ after) = cs := by
  have hleft : trimLeftChars (before ++ cs ++ after) = cs ++ if cs = [] then [] else after := by
    rw [List.append_assoc, trimLeftChars_append hbefore]
    cases cs with
    | nil => exact trimLeftChars_of_blank hafter
    | cons c cs => exact trimLeftChars_of_head? hhead
  have hafter' : ∀ c ∈ (if cs = [] then [] else after).reverse, isBlank c = true := by
    intro c hc
    split at hc
    · cases hc
    · exact hafter c (List.mem_reverse.1 hc)
  rw [trimChars, hleft, List.reverse_append, trimLeftChars_append hafter', trimLeftChars_of_head?,
    List.reverse_reverse]
  rwa [List.head?_reverse]

theorem trimChars_of_ends {cs : List Char} (hhead : ∀ c ∈ cs.head?, isBlank c = false)
    (hlast : ∀ c ∈ cs.getLast?, isBlank c = false) : trimChars cs = cs := by
  have hnone : ∀ c ∈ ([] : List Char), isBlank c = true := fun _ hc => nomatch hc
  have htrim := trimChars_surrounded hnone hnone hhead hlast
  rwa [List.nil_append, List.append_nil] at htrim

theorem trimChars_eq_self {cs : List Char} (h : ∀ c ∈ cs, isBlank c = false) : trimChars cs = cs :=
  trimChars_of_ends (fun c hc => h c (List.mem_of_mem_head? hc)) fun c hc => h c (List.mem_of_getLast? hc)

theorem trim_eq_self {s : String} (h : ∀ c ∈ s.toList, isBlank c = false) : trim s = s := by
  rw [trim, trimChars_eq_self h, String.ofList_toList]

theorem trimLeftChars_spec (cs : List Char) : ∃ before : List Char, (∀ c ∈ before, isBlank c = true) ∧
    cs = before ++ trimLeftChars cs ∧ ∀ c ∈ (trimLeftChars cs).head?, isBlank c = false := by
  refine ⟨cs.takeWhile isBlank, fun c hc => ?_, List.takeWhile_append_dropWhile.symm, fun c hc => ?_⟩
  · exact List.all_eq_true.1 List.all_takeWhile c hc
  · have hhead := List.head?_dropWhile_not isBlank cs
    rw [trimLeftChars] at hc
    rw [hc] at hhead
    exact hhead

/-- **A text is what is left of it between two runs of white space**, and begins and ends with none. -/
theorem trimChars_spec (cs : List Char) : ∃ before after : List Char, (∀ c ∈ before, isBlank c = true) ∧
    (∀ c ∈ after, isBlank c = true) ∧ cs = before ++ trimChars cs ++ after ∧
      (∀ c ∈ (trimChars cs).head?, isBlank c = false) ∧ ∀ c ∈ (trimChars cs).getLast?, isBlank c = false := by
  obtain ⟨before, hbefore, hcs, hhead⟩ := trimLeftChars_spec cs
  obtain ⟨after, hafter, hleft, hlast⟩ := trimLeftChars_spec (trimLeftChars cs).reverse
  have htrim : trimLeftChars cs = trimChars cs ++ after.reverse := by
    rw [trimChars, ← List.reverse_append, ← hleft, List.reverse_reverse]
  refine ⟨before, after.reverse, hbefore, fun c hc => hafter c (List.mem_reverse.1 hc), ?_, fun c hc => ?_, ?_⟩
  · rw [List.append_assoc, ← htrim, ← hcs]
  · refine hhead c ?_
    rw [htrim, List.head?_append, hc]
    rfl
  · rwa [trimChars, List.getLast?_reverse]

theorem trimChars_trimChars (cs : List Char) : trimChars (trimChars cs) = trimChars cs := by
  obtain ⟨-, -, -, -, -, hhead, hlast⟩ := trimChars_spec cs
  exact trimChars_of_ends hhead hlast

theorem trimChars_eq_nil_iff {cs : List Char} : trimChars cs = [] ↔ ∀ c ∈ cs, isBlank c = true := by
  constructor
  · intro h c hc
    obtain ⟨before, after, hbefore, hafter, hcs, -⟩ := trimChars_spec cs
    rw [hcs, h, List.append_nil] at hc
    exact (List.mem_append.1 hc).elim (hbefore c) (hafter c)
  · intro h
    rw [trimChars, trimLeftChars_of_blank h]
    rfl

theorem trim_eq_empty_iff {s : String} : trim s = "" ↔ isAllBlank s = true := by
  rw [trim, isAllBlank, List.all_eq_true, ← trimChars_eq_nil_iff]
  exact ⟨fun h => String.ofList_injective h, fun h => by rw [h]⟩

/-- A word with nothing but white space around it. -/
def Padded (word s : String) : Prop :=
  ∃ before after : String, isAllBlank before = true ∧ isAllBlank after = true ∧ s = before ++ word ++ after

theorem padded_trim (s : String) : Padded (trim s) s := by
  obtain ⟨before, after, hbefore, hafter, hcs, -, -⟩ := trimChars_spec s.toList
  refine ⟨String.ofList before, String.ofList after, ?_, ?_, String.toList_inj.1 ?_⟩
  · simpa [isAllBlank] using hbefore
  · simpa [isAllBlank] using hafter
  · simpa [trim] using hcs

theorem trimChars_of_trim_eq {s : String} (h : trim s = s) : trimChars s.toList = s.toList := by
  have hlist := congrArg String.toList h
  rwa [trim, String.toList_ofList] at hlist

/-- **What is left of a text is the word in it**, if there is white space around the word only. -/
theorem trim_eq_iff {word s : String} (hword : trim word = word) : trim s = word ↔ Padded word s := by
  constructor
  · rintro rfl
    exact padded_trim s
  · rintro ⟨before, after, hbefore, hafter, rfl⟩
    obtain ⟨-, -, -, -, -, hhead, hlast⟩ := trimChars_spec word.toList
    rw [trimChars_of_trim_eq hword] at hhead hlast
    rw [trim, String.toList_append, String.toList_append,
      trimChars_surrounded (List.all_eq_true.1 hbefore) (List.all_eq_true.1 hafter) hhead hlast, String.ofList_toList]

/-- A text that says something, without white space at its ends. -/
structure IsWord (s : String) : Prop where
  ne_empty : s ≠ ""
  head : ∀ c ∈ s.toList.head?, isBlank c = false
  last : ∀ c ∈ s.toList.getLast?, isBlank c = false

theorem IsWord.trim_eq {s : String} (h : IsWord s) : trim s = s := by
  rw [trim, trimChars_of_ends h.head h.last, String.ofList_toList]

theorem isWord_trim {s : String} (h : isAllBlank s = false) : IsWord (trim s) := by
  obtain ⟨-, -, -, -, -, hhead, hlast⟩ := trimChars_spec s.toList
  refine ⟨fun hempty => ?_, by rwa [trim, String.toList_ofList], by rwa [trim, String.toList_ofList]⟩
  rw [trim_eq_empty_iff, h] at hempty
  cases hempty

/-- A text in which there is a word is not blank. -/
theorem Padded.isAllBlank_eq_false {word s : String} (h : Padded word s) (hword : IsWord word) :
    isAllBlank s = false := by
  rw [← Bool.not_eq_true, ← trim_eq_empty_iff, (trim_eq_iff hword.trim_eq).2 h]
  exact hword.ne_empty

/-! ## Pieces -/

theorem takeWhile_append_cons {p : Char → Bool} {before : List Char} {c : Char} (h : ∀ d ∈ before, p d = true)
    (hc : p c = false) (after : List Char) : (before ++ c :: after).takeWhile p = before := by
  rw [List.takeWhile_append_of_pos h, List.takeWhile_cons_of_neg (by rw [hc]; exact Bool.false_ne_true),
    List.append_nil]

theorem dropWhile_append_cons {p : Char → Bool} {before : List Char} {c : Char} (h : ∀ d ∈ before, p d = true)
    (hc : p c = false) (after : List Char) : (before ++ c :: after).dropWhile p = c :: after := by
  rw [List.dropWhile_append_of_pos h, List.dropWhile_cons_of_neg (by rw [hc]; exact Bool.false_ne_true)]

/-- **A text is cut at the first separator.** -/
theorem cutAt_append {c : Char} {before after : String} (h : c ∉ before.toList) :
    cutAt c (before ++ String.ofList [c] ++ after) = some (before, after) := by
  have hbefore : ∀ d ∈ before.toList, (d != c) = true := fun d hd =>
    bne_iff_ne.2 fun hdc => h (hdc ▸ hd)
  have hc : (c != c) = false := bne_self_eq_false c
  have hlist : (before ++ String.ofList [c] ++ after).toList = before.toList ++ c :: after.toList := by simp
  rw [cutAt, hlist, dropWhile_append_cons hbefore hc, takeWhile_append_cons hbefore hc]
  simp only [String.ofList_toList]

/-- **What a text is cut into**, with nothing of the separator before the cut. -/
theorem cutAt_eq_some_iff {c : Char} {s before after : String} :
    cutAt c s = some (before, after) ↔ s = before ++ String.ofList [c] ++ after ∧ c ∉ before.toList := by
  constructor
  · intro h
    have hsplit : s.toList.takeWhile (· != c) ++ s.toList.dropWhile (· != c) = s.toList :=
      List.takeWhile_append_dropWhile
    have hstop := List.head?_dropWhile_not (· != c) s.toList
    rw [cutAt] at h
    split at h
    · cases h
    · next d tail hdrop =>
      rw [hdrop] at hsplit hstop
      obtain rfl : d = c := by simpa using hstop
      obtain ⟨rfl, rfl⟩ := Prod.mk.inj (Option.some.inj h)
      refine ⟨String.toList_inj.1 (by simpa using hsplit.symm), fun hd => ?_⟩
      rw [String.toList_ofList] at hd
      simpa using List.all_eq_true.1 List.all_takeWhile _ hd
  · rintro ⟨rfl, hbefore⟩
    exact cutAt_append hbefore

theorem cutAt_eq_none_iff {c : Char} {s : String} : cutAt c s = none ↔ c ∉ s.toList := by
  constructor
  · intro h hc
    obtain ⟨before, after, hsplit, hbefore⟩ := List.eq_append_cons_of_mem hc
    have hs : s = String.ofList before ++ String.ofList [c] ++ String.ofList after :=
      String.toList_inj.1 (by simpa using hsplit)
    rw [cutAt_eq_some_iff.2 ⟨hs, by rwa [String.toList_ofList]⟩] at h
    cases h
  · intro h
    cases hcut : cutAt c s with
    | none => rfl
    | some parts =>
      obtain ⟨rfl, -⟩ := cutAt_eq_some_iff.1 hcut
      exact absurd (by simp) h

theorem splitChars_of_none {p : Char → Bool} : ∀ {cs : List Char}, (∀ c ∈ cs, p c = false) → splitChars p cs = [cs]
  | [], _ => rfl
  | c :: cs, h => by
    rw [splitChars, h c List.mem_cons_self, splitChars_of_none fun d hd => h d (List.mem_cons_of_mem _ hd)]
    rfl

/-- **The first piece ends at the first separator**, and the others come from what follows it. -/
theorem splitChars_append {p : Char → Bool} {c : Char} (hc : p c = true) (after : List Char) :
    ∀ {piece : List Char}, (∀ d ∈ piece, p d = false) →
      splitChars p (piece ++ c :: after) = piece :: splitChars p after
  | [], _ => by rw [List.nil_append, splitChars, if_pos hc]
  | d :: piece, h => by
    rw [List.cons_append, splitChars, h d List.mem_cons_self,
      splitChars_append hc after fun e he => h e (List.mem_cons_of_mem _ he)]
    rfl

/-- What stands in front without a separator belongs to the first piece. -/
theorem splitChars_append_left {p : Char → Bool} {cs piece : List Char} {rest : List (List Char)}
    (h : splitChars p cs = piece :: rest) : ∀ {before : List Char}, (∀ c ∈ before, p c = false) →
      splitChars p (before ++ cs) = (before ++ piece) :: rest
  | [], _ => h
  | c :: before, hbefore => by
    rw [List.cons_append, splitChars, hbefore c List.mem_cons_self,
      splitChars_append_left h fun d hd => hbefore d (List.mem_cons_of_mem _ hd)]
    rfl

theorem splitChars_ne_nil (p : Char → Bool) : ∀ cs : List Char, splitChars p cs ≠ []
  | [] => List.cons_ne_nil _ _
  | c :: cs => by
    unfold splitChars
    split
    · exact List.cons_ne_nil _ _
    · split <;> exact List.cons_ne_nil _ _

/-- **The first piece is the whole text, or ends at a separator** after which the others come. -/
theorem of_splitChars {p : Char → Bool} : ∀ {cs piece : List Char} {rest : List (List Char)},
    splitChars p cs = piece :: rest → (rest = [] ∧ cs = piece) ∨
      ∃ c after, p c = true ∧ cs = piece ++ c :: after ∧ splitChars p after = rest
  | [], piece, rest, h => by
    obtain ⟨rfl, rfl⟩ := List.cons.inj h
    exact .inl ⟨rfl, rfl⟩
  | c :: cs, piece, rest, h => by
    by_cases hc : p c = true
    · rw [splitChars, if_pos hc] at h
      obtain ⟨rfl, rfl⟩ := List.cons.inj h
      exact .inr ⟨c, cs, hc, rfl, rfl⟩
    · obtain ⟨piece', rest', hsplit⟩ := List.exists_cons_of_ne_nil (splitChars_ne_nil p cs)
      rw [splitChars, if_neg hc, hsplit] at h
      obtain ⟨rfl, rfl⟩ := List.cons.inj h
      rcases of_splitChars hsplit with ⟨rfl, rfl⟩ | ⟨d, after, hd, rfl, hrest⟩
      · exact .inl ⟨rfl, rfl⟩
      · exact .inr ⟨d, after, hd, rfl, hrest⟩

theorem of_splitChars_singleton {p : Char → Bool} {cs piece : List Char} (h : splitChars p cs = [piece]) :
    cs = piece := by
  rcases of_splitChars h with ⟨-, rfl⟩ | ⟨-, after, -, -, hrest⟩
  · rfl
  · exact absurd hrest (splitChars_ne_nil p after)

theorem of_splitChars_cons_cons {c : Char} {cs piece next : List Char} {rest : List (List Char)}
    (h : splitChars (· == c) cs = piece :: next :: rest) :
    ∃ after, cs = piece ++ c :: after ∧ splitChars (· == c) after = next :: rest := by
  rcases of_splitChars h with ⟨hrest, -⟩ | ⟨d, after, hd, hcs, hrest⟩
  · cases hrest
  · obtain rfl := eq_of_beq hd
    exact ⟨after, hcs, hrest⟩

theorem eq_false_of_mem_splitChars {p : Char → Bool} : ∀ {cs piece : List Char}, piece ∈ splitChars p cs →
    ∀ c ∈ piece, p c = false
  | [], piece, h, c, hc => by
    rw [List.mem_singleton.1 h] at hc
    cases hc
  | d :: cs, piece, h, c, hc => by
    obtain ⟨first, rest, hsplit⟩ := List.exists_cons_of_ne_nil (splitChars_ne_nil p cs)
    have ih : ∀ {piece}, piece ∈ first :: rest → ∀ c ∈ piece, p c = false := fun hmem =>
      eq_false_of_mem_splitChars (hsplit ▸ hmem)
    unfold splitChars at h
    split at h
    · rcases List.mem_cons.1 h with rfl | hmem
      · cases hc
      · exact eq_false_of_mem_splitChars hmem c hc
    · next hd =>
      rw [hsplit] at h
      rcases List.mem_cons.1 h with rfl | hmem
      · rcases List.mem_cons.1 hc with rfl | hc
        · exact eq_false_of_ne_true hd
        · exact ih List.mem_cons_self c hc
      · exact ih (List.mem_cons_of_mem _ hmem) c hc

theorem separator_not_mem {c : Char} {cs piece : List Char} (h : piece ∈ splitChars (· == c) cs) : c ∉ piece :=
  fun hc => Bool.false_ne_true ((eq_false_of_mem_splitChars h c hc).symm.trans (beq_self_eq_true c))

theorem beq_separator_eq_false {c : Char} {piece : List Char} (h : c ∉ piece) : ∀ d ∈ piece, (d == c) = false :=
  fun _ hd => beq_eq_false_iff_ne.2 fun he => h (he ▸ hd)

/-- **The pieces of a text** are those texts without the separator that come to it when it is put between them. -/
theorem splitChars_eq_iff {c : Char} : ∀ {pieces : List (List Char)} {cs : List Char},
    splitChars (· == c) cs = pieces ↔ pieces ≠ [] ∧ (∀ piece ∈ pieces, c ∉ piece) ∧ cs = [c].intercalate pieces
  | [], cs => by simp [splitChars_ne_nil]
  | [piece], cs => by
    rw [List.intercalate_singleton]
    constructor
    · intro h
      exact ⟨List.cons_ne_nil _ _, fun x hx => separator_not_mem (h ▸ hx), of_splitChars_singleton h⟩
    · rintro ⟨-, hpiece, rfl⟩
      exact splitChars_of_none (beq_separator_eq_false (hpiece _ List.mem_cons_self))
  | piece :: next :: rest, cs => by
    rw [List.intercalate_cons_cons, List.append_assoc, List.singleton_append]
    constructor
    · intro h
      obtain ⟨after, hcs, hrest⟩ := of_splitChars_cons_cons h
      exact ⟨List.cons_ne_nil _ _, fun x hx => separator_not_mem (h ▸ hx),
        hcs.trans (by rw [(splitChars_eq_iff.1 hrest).2.2])⟩
    · rintro ⟨-, hpieces, rfl⟩
      have hpiece := beq_separator_eq_false (hpieces piece List.mem_cons_self)
      rw [splitChars_append (p := (· == c)) (beq_self_eq_true c) _ hpiece, splitChars_eq_iff.2
        ⟨List.cons_ne_nil _ _, fun x hx => hpieces x (List.mem_cons_of_mem _ hx), rfl⟩]

theorem splitOn_eq_iff {c : Char} {s : String} {pieces : List String} : splitOn c s = pieces ↔
    pieces ≠ [] ∧ (∀ piece ∈ pieces, c ∉ piece.toList) ∧ s = (String.ofList [c]).intercalate pieces := by
  have hpieces : splitOn c s = pieces ↔ splitChars (· == c) s.toList = pieces.map String.toList := by
    rw [splitOn]
    constructor
    · rintro rfl
      simp [Function.comp_def]
    · intro h
      rw [h]
      simp [Function.comp_def]
  rw [hpieces, splitChars_eq_iff, ← String.toList_inj, String.toList_intercalate, String.toList_ofList]
  simp

/-- **What the pieces of a text say**: a blank one nothing, and any other the word in it. -/
inductive Words : List String → List String → Prop where
  | nil : Words [] []
  | blank {piece : String} {pieces words : List String} (h : ∀ c ∈ piece.toList, isBlank c = true)
    (rest : Words pieces words) : Words (piece :: pieces) words
  | word {piece word : String} {pieces words : List String} (hword : IsWord word) (h : Padded word piece)
    (rest : Words pieces words) : Words (piece :: pieces) (word :: words)

/-- **What is left of the pieces are the words in them.** -/
theorem filter_trim_eq_iff : ∀ {pieces words : List String},
    (pieces.map trim).filter (· ≠ "") = words ↔ Words pieces words
  | [], words => by
    constructor
    · rintro rfl
      exact .nil
    · intro h
      cases h
      rfl
  | piece :: pieces, words => by
    rw [List.map_cons, List.filter_cons]
    cases hblank : isAllBlank piece with
    | true =>
      rw [if_neg (by simp [trim_eq_empty_iff.2 hblank]), filter_trim_eq_iff]
      constructor
      · exact .blank (List.all_eq_true.1 hblank)
      · intro h
        cases h with
        | blank _ rest => exact rest
        | word hword h =>
          rw [h.isAllBlank_eq_false hword] at hblank
          cases hblank
    | false =>
      have hword := isWord_trim hblank
      rw [if_pos (by simpa using hword.ne_empty)]
      constructor
      · rintro rfl
        exact .word hword (padded_trim piece) (filter_trim_eq_iff.1 rfl)
      · intro h
        cases h with
        | blank h =>
          rw [isAllBlank, List.all_eq_true.2 h] at hblank
          cases hblank
        | word hword h rest => rw [(trim_eq_iff hword.trim_eq).2 h, filter_trim_eq_iff.2 rest]

end EventGateway.Text
