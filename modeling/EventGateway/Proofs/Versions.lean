import EventGateway.Proofs.Numerals
import EventGateway.Proofs.Trimming
import EventGateway.Wire.Version
import Mathlib.Data.List.Forall2
/-!
# Versions — which version a request is served with

A text names a version if, without the white space around it and one mark, it is one number or two or three with dots
between them (`Names`); the parser reads these texts and no others (`parse?_eq_some_iff`).  The versions that are
spoken stand in ascending order without duplicates, so that a set of versions is the same for every order of its
members (`ofList?_congr`) and a search from its end finds the greatest version that serves (`best?_eq_some_iff`).
-/
namespace EventGateway.Wire

namespace Version

/-! ## Texts -/

/-- A number of 32 bits, with or without a plus sign. -/
def IsPart (cs : List Char) (n : UInt32) : Prop := Text.Decimal.Spelled false cs n.toNat

/-- One number, or two, or three; the third counts for nothing. -/
inductive Spelled : List Char → Version → Prop
  | major {cs : List Char} {n : UInt32} (h : IsPart cs n) : Spelled cs ⟨n, 0⟩
  | revision {cs ds : List Char} {n m : UInt32} (h : IsPart cs n) (h' : IsPart ds m) : Spelled (cs ++ '.' :: ds) ⟨n, m⟩
  | patch {cs ds es : List Char} {n m k : UInt32} (h : IsPart cs n) (h' : IsPart ds m) (h'' : IsPart es k) :
    Spelled (cs ++ '.' :: (ds ++ '.' :: es)) ⟨n, m⟩

/-- **A text names a version**: white space may stand around it, and one mark in front of it. -/
def Names (s : String) (v : Version) : Prop :=
  ∃ mark cs, Text.trimChars s.toList = mark ++ cs ∧ mark ∈ [[], ['v'], ['V']] ∧ Spelled cs v

theorem number?_eq_some_iff {cs : List Char} {n : UInt32} : number? cs = some n ↔ IsPart cs n := by
  have hread := Text.readUInt32_eq_ok_iff (s := String.ofList cs) (n := n)
  rw [String.toList_ofList] at hread
  rw [IsPart, ← hread, number?]
  cases Text.Decimal.readUInt32 (String.ofList cs) <;> simp [Except.toOption]

theorem IsPart.dot_ne {cs : List Char} {n : UInt32} (h : IsPart cs n) : ∀ c ∈ cs, (c == '.') = false := by
  intro c hc
  rcases h.of_unsigned.2 c hc with rfl | hdigit
  · rfl
  · refine beq_eq_false_iff_ne.2 fun he => ?_
    rw [he] at hdigit
    cases hdigit

theorem isPart_write (n : UInt32) : IsPart (Text.Decimal.write n.toNat) n := .plain (Text.Decimal.digits_write n.toNat)

/-- What spells a version begins with a digit or a plus sign, so a mark is no part of it. -/
theorem Spelled.head {cs : List Char} {v : Version} (h : Spelled cs v) :
    ∃ c rest, cs = c :: rest ∧ (c = '+' ∨ Text.Decimal.isDigit c = true) := by
  have hpart {cs : List Char} {n : UInt32} (h : IsPart cs n) (rest : List Char) :
      ∃ c rest', cs ++ rest = c :: rest' ∧ (c = '+' ∨ Text.Decimal.isDigit c = true) := by
    obtain ⟨hne, hchars⟩ := h.of_unsigned
    obtain ⟨c, cs, rfl⟩ := List.exists_cons_of_ne_nil hne
    exact ⟨c, cs ++ rest, rfl, hchars c List.mem_cons_self⟩
  cases h with
  | major h => simpa using hpart h []
  | revision h h' => exact hpart h _
  | patch h h' h'' => exact hpart h _

theorem withoutMark_spec (cs : List Char) : ∃ mark ∈ [[], ['v'], ['V']], cs = mark ++ withoutMark cs := by
  unfold withoutMark
  split
  · exact ⟨['v'], by simp, rfl⟩
  · exact ⟨['V'], by simp, rfl⟩
  · exact ⟨[], by simp, rfl⟩

theorem Spelled.withoutMark {cs mark : List Char} {v : Version} (h : Spelled cs v) (hmark : mark ∈ [[], ['v'], ['V']]) :
    withoutMark (mark ++ cs) = cs := by
  simp only [List.mem_cons, List.not_mem_nil, or_false] at hmark
  rcases hmark with rfl | rfl | rfl
  · obtain ⟨c, rest, rfl, hc⟩ := h.head
    rw [List.nil_append]
    unfold Version.withoutMark
    split
    · next he =>
      rw [(List.cons.inj he).1] at hc
      exact absurd hc (by decide)
    · next he =>
      rw [(List.cons.inj he).1] at hc
      exact absurd hc (by decide)
    · rfl
  · rfl
  · rfl

/-- **A text is read as the version that it names, and no other text is read.** -/
theorem parse?_eq_some_iff {s : String} {v : Version} : parse? s = some v ↔ Names s v := by
  constructor
  · intro h
    obtain ⟨mark, hmark, hcs⟩ := withoutMark_spec (Text.trimChars s.toList)
    refine ⟨mark, _, hcs, hmark, ?_⟩
    unfold parse? at h
    generalize withoutMark (Text.trimChars s.toList) = cs at h ⊢
    split at h
    · next major hsplit =>
      simp only [Option.bind_eq_bind, Option.bind_eq_some_iff, Option.pure_def, Option.some.injEq] at h
      obtain ⟨n, hn, rfl⟩ := h
      obtain rfl := Text.of_splitChars_singleton hsplit
      exact .major (number?_eq_some_iff.1 hn)
    · next major revision hsplit =>
      simp only [Option.bind_eq_bind, Option.bind_eq_some_iff, Option.pure_def, Option.some.injEq] at h
      obtain ⟨n, hn, m, hm, rfl⟩ := h
      obtain ⟨after, rfl, hafter⟩ := Text.of_splitChars_cons_cons hsplit
      obtain rfl := Text.of_splitChars_singleton hafter
      exact .revision (number?_eq_some_iff.1 hn) (number?_eq_some_iff.1 hm)
    · next major revision patch hsplit =>
      simp only [Option.bind_eq_bind, Option.bind_eq_some_iff, Option.pure_def, Option.some.injEq] at h
      obtain ⟨n, hn, m, hm, k, hk, rfl⟩ := h
      obtain ⟨after, rfl, hafter⟩ := Text.of_splitChars_cons_cons hsplit
      obtain ⟨last, rfl, hlast⟩ := Text.of_splitChars_cons_cons hafter
      obtain rfl := Text.of_splitChars_singleton hlast
      exact .patch (number?_eq_some_iff.1 hn) (number?_eq_some_iff.1 hm) (number?_eq_some_iff.1 hk)
    · cases h
  · rintro ⟨mark, cs, htrim, hmark, h⟩
    unfold parse?
    rw [htrim, h.withoutMark hmark]
    cases h with
    | major h =>
      rw [Text.splitChars_of_none h.dot_ne]
      simp [number?_eq_some_iff.2 h]
    | revision h h' =>
      rw [Text.splitChars_append (p := (· == '.')) rfl _ h.dot_ne, Text.splitChars_of_none h'.dot_ne]
      simp [number?_eq_some_iff.2 h, number?_eq_some_iff.2 h']
    | patch h h' h'' =>
      rw [Text.splitChars_append (p := (· == '.')) rfl _ h.dot_ne,
        Text.splitChars_append (p := (· == '.')) rfl _ h'.dot_ne, Text.splitChars_of_none h''.dot_ne]
      simp [number?_eq_some_iff.2 h, number?_eq_some_iff.2 h', number?_eq_some_iff.2 h'']

theorem names_text (v : Version) : Names v.text v := by
  have hpart := Spelled.revision (isPart_write v.major) (isPart_write v.revision)
  have hlist : v.text.toList = Text.Decimal.write v.major.toNat ++ '.' :: Text.Decimal.write v.revision.toNat := by
    simp [text, Text.ofNat]
  refine ⟨[], _, ?_, by simp, hpart⟩
  rw [List.nil_append, hlist]
  refine Text.trimChars_eq_self fun c hc => ?_
  rcases List.mem_append.1 hc with hc | hc
  · exact Text.Decimal.isBlank_eq_false_of_isDigit (Text.Decimal.isDigit_of_mem_write hc)
  · rcases List.mem_cons.1 hc with rfl | hc
    · rfl
    · exact Text.Decimal.isBlank_eq_false_of_isDigit (Text.Decimal.isDigit_of_mem_write hc)

theorem parse_eq_ok {s : String} {v : Version} (h : Names s v) : parse s = .ok v := by
  rw [parse, parse?_eq_some_iff.2 h]
  rfl

theorem parse_eq_error {s : String} (h : ∀ v, ¬Names s v) : parse s = .error (.invalidVersion s) := by
  have hnone : parse? s = none := Option.eq_none_iff_forall_ne_some.2 fun v hv => h v (parse?_eq_some_iff.1 hv)
  rw [parse, hnone]
  rfl

/-- White space around a text makes no difference. -/
theorem names_trim_iff {s : String} {v : Version} : Names (Text.trim s) v ↔ Names s v := by
  rw [Names, Text.trim, String.toList_ofList, Text.trimChars_trimChars]
  rfl

/-! ## Order -/

/-- The order by major number, and by revision among the versions of one major number. -/
def AtMost (v w : Version) : Prop := v.major < w.major ∨ v.major = w.major ∧ v.revision ≤ w.revision

variable {u v w : Version}

theorem le_iff_atMost : v.le w = true ↔ v.AtMost w := by
  simp [le, AtMost]

theorem AtMost.refl (v : Version) : v.AtMost v := .inr ⟨rfl, UInt32.le_refl _⟩

theorem AtMost.trans (h : u.AtMost v) (h' : v.AtMost w) : u.AtMost w := by
  simp only [AtMost, UInt32.lt_iff_toNat_lt, UInt32.le_iff_toNat_le, ← UInt32.toNat_inj] at *
  omega

theorem AtMost.antisymm (h : v.AtMost w) (h' : w.AtMost v) : v = w := by
  cases v
  cases w
  simp only [AtMost, UInt32.lt_iff_toNat_lt, UInt32.le_iff_toNat_le, ← UInt32.toNat_inj, Version.mk.injEq] at *
  omega

theorem atMost_of_not (h : ¬v.AtMost w) : w.AtMost v := by
  simp only [AtMost, UInt32.lt_iff_toNat_lt, UInt32.le_iff_toNat_le, ← UInt32.toNat_inj] at *
  omega

/-- **In order and without duplicates.** -/
def Ascending (vs : List Version) : Prop := vs.Pairwise fun v w => v.AtMost w ∧ v ≠ w

theorem mem_insert : ∀ {vs : List Version}, u ∈ insert v vs ↔ u = v ∨ u ∈ vs
  | [] => List.mem_singleton.trans (by simp)
  | w :: rest => by
    unfold insert
    split
    · next he =>
      obtain rfl := eq_of_beq he
      simp
    · split
      · exact List.mem_cons
      · rw [List.mem_cons, mem_insert, List.mem_cons]
        exact or_left_comm

theorem ascending_insert : ∀ {vs : List Version}, Ascending vs → Ascending (insert v vs)
  | [], _ => List.pairwise_singleton _ _
  | w :: rest, h => by
    obtain ⟨hw, hrest⟩ := List.pairwise_cons.1 h
    unfold insert
    split
    · exact h
    · next hne =>
      have hvw : v ≠ w := fun he => hne (beq_iff_eq.2 he)
      split
      · next hle =>
        rw [le_iff_atMost] at hle
        refine List.pairwise_cons.2 ⟨fun u hu => ?_, h⟩
        rcases List.mem_cons.1 hu with rfl | hu
        · exact ⟨hle, hvw⟩
        · refine ⟨hle.trans (hw u hu).1, fun he => ?_⟩
          subst he
          exact hvw (hle.antisymm (hw v hu).1)
      · next hle =>
        rw [le_iff_atMost] at hle
        refine List.pairwise_cons.2 ⟨fun u hu => ?_, ascending_insert hrest⟩
        rcases mem_insert.1 hu with rfl | hu
        · exact ⟨atMost_of_not hle, hvw.symm⟩
        · exact hw u hu

theorem mem_foldr_insert : ∀ {vs : List Version}, u ∈ vs.foldr insert [] ↔ u ∈ vs
  | [] => Iff.rfl
  | v :: vs => by rw [List.foldr_cons, mem_insert, mem_foldr_insert, List.mem_cons]

theorem ascending_foldr_insert : ∀ vs : List Version, Ascending (vs.foldr insert [])
  | [] => .nil
  | _ :: vs => ascending_insert (ascending_foldr_insert vs)

/-- **An ascending list is determined by its members.** -/
theorem Ascending.eq_of_mem_iff {vs ws : List Version} (hvs : Ascending vs) (hws : Ascending ws)
    (h : ∀ v, v ∈ vs ↔ v ∈ ws) : vs = ws := by
  have hperm : vs.Perm ws := (List.perm_ext_iff_of_nodup (hvs.imp And.right) (hws.imp And.right)).2 h
  exact hperm.eq_of_pairwise (fun _ _ _ _ h h' => h.1.antisymm h'.1) hvs hws

end Version

namespace VersionSet

open Version (Names AtMost Ascending)

theorem ofList?_eq_some {vs : List Version} (hne : vs ≠ []) :
    ∃ set : VersionSet, ofList? vs = some set ∧ Ascending set.versions ∧ ∀ v, v ∈ set.versions ↔ v ∈ vs := by
  obtain ⟨v, rest, rfl⟩ := List.exists_cons_of_ne_nil hne
  have hnonempty : (v :: rest).foldr Version.insert [] ≠ [] :=
    List.ne_nil_of_mem (Version.mem_foldr_insert.2 List.mem_cons_self)
  exact ⟨⟨_, hnonempty⟩, dif_pos hnonempty, Version.ascending_foldr_insert _, fun w => Version.mem_foldr_insert⟩

/-- **The order of the versions and how often each is listed make no difference.** -/
theorem ofList?_congr {vs ws : List Version} (h : ∀ v, v ∈ vs ↔ v ∈ ws) : ofList? vs = ofList? ws := by
  have hsorted : vs.foldr Version.insert [] = ws.foldr Version.insert [] :=
    (Version.ascending_foldr_insert vs).eq_of_mem_iff (Version.ascending_foldr_insert ws) fun v => by
      rw [Version.mem_foldr_insert, Version.mem_foldr_insert, h]
  unfold ofList?
  rw [hsorted]

theorem parse_of_names {texts : List String} {vs : List Version} (h : List.Forall₂ Names texts vs) :
    parse texts = (ofList? vs).elim (.error (.invalidVersion "")) .ok := by
  have hparsed : texts.mapM Version.parse = .ok vs := by
    induction h with
    | nil => rfl
    | cons hname _ ih =>
      rw [List.mapM_cons, Version.parse_eq_ok hname, ih]
      rfl
  rw [parse, hparsed]
  rfl

variable {set : VersionSet}

/-- **The latest version is the greatest.** -/
theorem atMost_latest (h : Ascending set.versions) {v : Version} (hv : v ∈ set.versions) : v.AtMost set.latest := by
  have hsplit := List.dropLast_append_getLast set.nonempty
  rw [← hsplit] at h hv
  rcases List.mem_append.1 hv with hv | hv
  · exact ((List.pairwise_append.1 h).2.2 v hv _ List.mem_cons_self).1
  · obtain rfl := List.mem_singleton.1 hv
    exact .refl _

/-- The version has the major number asked for, and at least the revision asked for. -/
def Serves (v wanted : Version) : Prop := v.major = wanted.major ∧ wanted.revision ≤ v.revision

theorem best?_eq_none_iff {wanted : Version} : set.best? wanted = none ↔ ∀ v ∈ set.versions, ¬Serves v wanted := by
  simp [best?, Serves]

/-- **The best version serves, and is the greatest of its major number.** -/
theorem of_best?_eq_some (h : Ascending set.versions) {v wanted : Version} (hbest : set.best? wanted = some v) :
    v ∈ set.versions ∧ Serves v wanted ∧
      ∀ w ∈ set.versions, w.major = wanted.major → w.revision ≤ v.revision := by
  obtain ⟨hserves, later, earlier, hsplit, hlater⟩ := List.find?_eq_some_iff_append.1 hbest
  have hmem {w : Version} : w ∈ set.versions ↔ w ∈ later ∨ w = v ∨ w ∈ earlier := by
    rw [← List.mem_reverse, hsplit, List.mem_append, List.mem_cons]
  have hbelow : ∀ w ∈ earlier, w.AtMost v := by
    intro w hw
    have hreverse := List.pairwise_reverse.2 h
    rw [hsplit] at hreverse
    exact ((List.pairwise_cons.1 (List.pairwise_append.1 hreverse).2.1).1 w hw).1
  obtain ⟨hmajor, hrevision⟩ : Serves v wanted := by simpa [Serves] using hserves
  refine ⟨hmem.2 (.inr (.inl rfl)), ⟨hmajor, hrevision⟩, fun w hw hwmajor => ?_⟩
  rcases hmem.1 hw with hw | rfl | hw
  · -- a version further up that was passed over does not serve, so its revision is too low
    have hlow : ¬wanted.revision ≤ w.revision := by simpa [hwmajor] using hlater w hw
    exact UInt32.le_trans (UInt32.le_of_lt (UInt32.not_le.1 hlow)) hrevision
  · exact UInt32.le_refl _
  · rcases hbelow w hw with hlt | ⟨-, hle⟩
    · rw [hwmajor, hmajor] at hlt
      exact absurd hlt (UInt32.lt_irrefl _)
    · exact hle

/-! ## Resolution -/

theorem resolve_blank {asked : Option String} (h : ∀ text ∈ asked, Text.isAllBlank text = true) :
    set.resolve asked = .ok set.latest := by
  have hraw : Text.trim (asked.getD "") = "" := by
    cases asked with
    | none => rfl
    | some text => exact Text.trim_eq_empty_iff.2 (h text rfl)
  unfold resolve
  rw [hraw]
  rfl

theorem resolve_text {text : String} (h : Text.isAllBlank text = false) :
    set.resolve (some text) = (Version.parse (Text.trim text)).bind fun wanted =>
      (set.best? wanted).elim (.error (.unsupportedVersion (Text.trim text))) .ok := by
  have hraw : (Text.trim text == "") = false := by
    refine beq_eq_false_iff_ne.2 fun he => ?_
    rw [Text.trim_eq_empty_iff, h] at he
    cases he
  unfold resolve
  rw [Option.getD_some]
  simp only [hraw, Bool.false_eq_true, if_false]
  cases Version.parse (Text.trim text) with
  | error e => rfl
  | ok wanted =>
    dsimp only [bind, Except.bind]
    cases set.best? wanted <;> rfl

/-- A text that names a version has more than white space. -/
theorem isAllBlank_eq_false {text : String} {wanted : Version} (h : Names text wanted) :
    Text.isAllBlank text = false := by
  obtain ⟨mark, cs, htrim, -, hspelled⟩ := h
  obtain ⟨c, rest, rfl, -⟩ := hspelled.head
  refine Bool.eq_false_iff.2 fun hblank => ?_
  rw [Text.isAllBlank, List.all_eq_true, ← Text.trimChars_eq_nil_iff, htrim] at hblank
  simp at hblank

theorem resolve_names {text : String} {wanted : Version} (h : Names text wanted) :
    set.resolve (some text) =
      (set.best? wanted).elim (.error (.unsupportedVersion (Text.trim text))) .ok := by
  rw [resolve_text (isAllBlank_eq_false h), Version.parse_eq_ok (Version.names_trim_iff.2 h)]
  rfl

theorem resolve_invalid {text : String} (hblank : Text.isAllBlank text = false) (h : ∀ wanted, ¬Names text wanted) :
    set.resolve (some text) = .error (.invalidVersion (Text.trim text)) := by
  rw [resolve_text hblank, Version.parse_eq_error fun v hv => h v (Version.names_trim_iff.1 hv)]
  rfl

/-- **A request is served with the right version, whatever versions are spoken.**  Without a version, or with white
space for one, it is the greatest of all; with one, it is the greatest of the major number asked for, as long as it is
at least the one asked for, and the request is refused as unsupported exactly if there is none that is; a text that
names no version is refused as invalid.  The answers depend only on which versions the texts name, not on their order,
their spelling or how often each is listed, and a version that is printed is read back. -/
theorem parse_resolves (texts : List String) (vs : List Version) (hne : texts ≠ [])
    (hnames : List.Forall₂ Names texts vs) :
    ∃ set, parse texts = .ok set ∧
      (∃ v ∈ vs, (∀ w ∈ vs, w.AtMost v) ∧
        ∀ asked : Option String, (∀ text ∈ asked, Text.isAllBlank text = true) → set.resolve asked = .ok v) ∧
      (∀ text wanted, Names text wanted →
        ((∃ v ∈ vs, Serves v wanted) → ∃ v ∈ vs, Serves v wanted ∧
          (∀ w ∈ vs, w.major = wanted.major → w.revision ≤ v.revision) ∧ set.resolve (some text) = .ok v) ∧
        (set.resolve (some text) = .error (.unsupportedVersion (Text.trim text)) ↔ ¬∃ v ∈ vs, Serves v wanted)) ∧
      (∀ text, Text.isAllBlank text = false → (∀ wanted, ¬Names text wanted) →
        set.resolve (some text) = .error (.invalidVersion (Text.trim text))) ∧
      (∀ texts' vs', List.Forall₂ Names texts' vs' → (∀ v, v ∈ vs' ↔ v ∈ vs) → parse texts' = .ok set) ∧
      ∀ v : Version, Version.parse v.text = .ok v := by
  have hvs : vs ≠ [] := by
    rintro rfl
    cases hnames
    exact hne rfl
  obtain ⟨set, hset, hascending, hmem⟩ := ofList?_eq_some hvs
  refine ⟨set, by rw [parse_of_names hnames, hset]; rfl, ?_, fun text wanted hwanted => ⟨?_, ?_⟩, ?_, ?_, ?_⟩
  · refine ⟨set.latest, (hmem _).1 (List.getLast_mem set.nonempty), fun w hw => ?_, fun asked => resolve_blank⟩
    exact atMost_latest hascending ((hmem w).2 hw)
  · rintro ⟨v₀, hv₀, hserves₀⟩
    cases hbest : set.best? wanted with
    | none => exact absurd hserves₀ (best?_eq_none_iff.1 hbest v₀ ((hmem v₀).2 hv₀))
    | some v =>
      obtain ⟨hv, hserves, hgreatest⟩ := of_best?_eq_some hascending hbest
      refine ⟨v, (hmem v).1 hv, hserves, fun w hw => hgreatest w ((hmem w).2 hw), ?_⟩
      rw [resolve_names hwanted, hbest]
      rfl
  · rw [resolve_names hwanted]
    cases hbest : set.best? wanted with
    | none =>
      refine iff_of_true rfl ?_
      rintro ⟨v, hv, hserves⟩
      exact best?_eq_none_iff.1 hbest v ((hmem v).2 hv) hserves
    | some v =>
      obtain ⟨hv, hserves, -⟩ := of_best?_eq_some hascending hbest
      exact iff_of_false nofun fun hnone => hnone ⟨v, (hmem v).1 hv, hserves⟩
  · exact fun text => resolve_invalid
  · intro texts' vs' hnames' hsame
    rw [parse_of_names hnames', ofList?_congr hsame, hset]
    rfl
  · exact fun v => Version.parse_eq_ok v.names_text

/-- Versions out of order, one of them twice and one in another spelling. -/
theorem parse_resolves_unordered :
    ["2.1", " v1 ", "2.+00.7", "2.1"] ≠ [] ∧
      List.Forall₂ Names ["2.1", " v1 ", "2.+00.7", "2.1"] [⟨2, 1⟩, ⟨1, 0⟩, ⟨2, 0⟩, ⟨2, 1⟩] ∧
      ∃ set, parse ["2.1", " v1 ", "2.+00.7", "2.1"] = .ok set ∧ parse ["1", "2", "2.1"] = .ok set ∧
        set.resolve (some " \t") = .ok set.latest ∧
        set.resolve (some "V1.1 ") = .error (.unsupportedVersion "V1.1") ∧
        set.resolve (some "2.1.0.0") = .error (.invalidVersion "2.1.0.0") := by
  have hname {s : String} {v : Version} (h : Version.parse? s = some v) : Names s v := Version.parse?_eq_some_iff.1 h
  have hnames : List.Forall₂ Names ["2.1", " v1 ", "2.+00.7", "2.1"] [⟨2, 1⟩, ⟨1, 0⟩, ⟨2, 0⟩, ⟨2, 1⟩] :=
    .cons (hname (by decide +kernel)) (.cons (hname (by decide +kernel)) (.cons (hname (by decide +kernel))
      (.cons (hname (by decide +kernel)) .nil)))
  have hplain : List.Forall₂ Names ["1", "2", "2.1"] [⟨1, 0⟩, ⟨2, 0⟩, ⟨2, 1⟩] :=
    .cons (hname (by decide +kernel)) (.cons (hname (by decide +kernel)) (.cons (hname (by decide +kernel)) .nil))
  obtain ⟨set, hset, -, hwanted, hinvalid, hsame, -⟩ := parse_resolves _ _ (by decide) hnames
  refine ⟨by decide, hnames, set, hset, hsame _ _ hplain fun v => by simp; tauto, ?_, ?_, ?_⟩
  · exact resolve_blank fun text htext => by
      obtain rfl := Option.some.inj htext
      decide +kernel
  · refine ((hwanted "V1.1 " ⟨1, 1⟩ (hname (by decide +kernel))).2).2 ?_
    simp [Serves]
  · refine hinvalid "2.1.0.0" (by decide +kernel) fun wanted h => ?_
    have hnone : Version.parse? "2.1.0.0" = none := by decide +kernel
    rw [Version.parse?_eq_some_iff.2 h] at hnone
    cases hnone

end VersionSet
end EventGateway.Wire
