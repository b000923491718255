import EventGateway.Proofs.Tokens
/-!
# Presented tokens — the word in front of a token, taken away twice

Whoever is asked for the user of a token takes the word Bearer away from it, and so does the service that validates it.
The second time changes nothing unless there is a second word (`stripBearer_stripBearer_iff`), and a text with the word
in front of it is no token (`verify_of_hasWord`).  So the two agree on every text but one with the word in front of it
twice, which one of them accepts and the other refuses (`signed_repeats_but_for_second_word`).
-/
namespace EventGateway

open Text (isBlank trimChars trimLeftChars)

namespace Token

/-! ## The word -/

/-- The word Bearer stands in front of a text, alone or with a blank behind it. -/
def HasWord (s : String) : Prop :=
  ∃ rest : List Char, s.toList = "Bearer".toList ++ rest ∧ ∀ c ∈ rest.head?, c = ' '

theorem stripBearer_of_word {s : String} {rest : List Char} (h : trimChars s.toList = "Bearer".toList ++ rest)
    (hrest : ∀ c ∈ rest.head?, c = ' ') : stripBearer s = String.ofList (trimLeftChars rest) := by
  have hcs : trimChars s.toList = 'B' :: 'e' :: 'a' :: 'r' :: 'e' :: 'r' :: rest := h
  have hblank : rest.head?.all (· == ' ') = true := by
    cases rest with
    | nil => rfl
    | cons c rest => exact beq_iff_eq.2 (hrest c rfl)
  rw [stripBearer, hcs]
  exact if_pos hblank

theorem stripBearer_of_not_hasWord {s : String} (h : ¬HasWord (Text.trim s)) : stripBearer s = Text.trim s := by
  unfold stripBearer
  dsimp only
  split
  · next rest hcs =>
    split
    · next hblank =>
      refine absurd ⟨rest, ?_, fun c hc => ?_⟩ h
      · rw [Text.trim, String.toList_ofList, hcs]
        rfl
      · rw [Option.mem_def.1 hc] at hblank
        exact eq_of_beq hblank
    · rfl
  · rfl

/-- Of two words one is taken away. -/
theorem stripBearer_second_word {token : String} (h : Written token) :
    stripBearer ("Bearer Bearer " ++ token) = "Bearer " ++ token := by
  obtain ⟨tail, htail⟩ := List.head?_eq_some_iff.1 h.head
  have hhead : ∀ c ∈ ("Bearer " ++ token).toList.head?, isBlank c = false := by
    intro c hc
    obtain rfl : 'B' = c := by simpa using hc
    rfl
  have htrim : trimChars ("Bearer Bearer " ++ token).toList =
      "Bearer".toList ++ ' ' :: ("Bearer " ++ token).toList := by
    refine (Text.trimChars_of_ends (fun c hc => ?_) fun c hc => ?_).trans (by simp)
    · obtain rfl : 'B' = c := by simpa using hc
      rfl
    · have hlast : token.toList.getLast? = some c := by
        rw [String.toList_append, List.getLast?_append, htail, List.getLast?_cons] at hc
        rwa [htail, List.getLast?_cons]
      exact h.solid c (List.mem_of_getLast? hlast)
  rw [stripBearer_of_word htrim fun c hc => (Option.some.inj hc).symm]
  refine (congrArg String.ofList ?_).trans String.ofList_toList
  have hblank : ∀ c ∈ [' '], isBlank c = true := List.forall_mem_singleton.2 rfl
  exact (Text.trimLeftChars_append hblank _).trans (Text.trimLeftChars_of_head? hhead)

/-- **What is left of a text has no white space around it.** -/
theorem trim_stripBearer (s : String) : Text.trim (stripBearer s) = stripBearer s := by
  by_cases h : HasWord (Text.trim s)
  · obtain ⟨rest, hcs, hrest⟩ := h
    rw [Text.trim, String.toList_ofList] at hcs
    obtain ⟨before, -, hsplit, hhead⟩ := Text.trimLeftChars_spec rest
    obtain ⟨-, -, -, -, -, -, hlast⟩ := Text.trimChars_spec s.toList
    rw [stripBearer_of_word hcs hrest, Text.trim, String.toList_ofList, Text.trimChars_of_ends hhead fun c hc => ?_]
    refine hlast c ?_
    rw [hcs, hsplit, ← List.append_assoc, List.getLast?_append, hc]
    rfl
  · rw [stripBearer_of_not_hasWord h, Text.trim, Text.trim, String.toList_ofList, Text.trimChars_trimChars]

/-- **Stripping a text again changes it exactly if it begins with the word again.** -/
theorem stripBearer_stripBearer_iff {s : String} :
    stripBearer (stripBearer s) = stripBearer s ↔ ¬HasWord (stripBearer s) := by
  have htrim := trim_stripBearer s
  constructor
  · rintro h ⟨rest, hcs, hrest⟩
    have hstrip := stripBearer_of_word ((Text.trimChars_of_trim_eq htrim).trans hcs) hrest
    -- The word is gone, so what is left is shorter.
    have hlength := congrArg (fun t : String => t.toList.length) (h.symm.trans hstrip)
    have hle : (trimLeftChars rest).length ≤ rest.length := (List.dropWhile_sublist isBlank).length_le
    simp only [hcs, String.toList_ofList, List.length_append] at hlength
    have hword : "Bearer".toList.length = 6 := rfl
    omega
  · intro h
    rw [stripBearer_of_not_hasWord (by rwa [htrim]), htrim]

/-! ## What begins with the word is no token -/

theorem readPart_of_blank {α : Type} (read : Json → Except Json.Refusal α) {s : String} (h : ' ' ∈ s.toList) :
    readPart read s = none := by
  rw [readPart, Text.Base64.decode_eq_none (by decide) h]
  rfl

/-- No point stands in the word or behind it, so the blank is in the part before the first one. -/
theorem verify_of_hasWord (secret : String) {s : String} (h : HasWord s) : verify secret s = none := by
  obtain ⟨rest, hcs, hrest⟩ := h
  unfold verify
  split
  · next head payload signature hsplit =>
    have hblank : ' ' ∈ head.toList := by
      rw [Text.splitOn, hcs] at hsplit
      cases rest with
      | nil => simp [Text.splitChars] at hsplit
      | cons c tail =>
        obtain rfl : c = ' ' := hrest c rfl
        obtain ⟨piece, pieces, hpieces⟩ := List.exists_cons_of_ne_nil (Text.splitChars_ne_nil (· == '.') tail)
        have hword : ∀ c ∈ "Bearer ".toList, (c == '.') = false := by
          intro c hc
          rw [beq_eq_false_iff_ne]
          rintro rfl
          exact absurd hc (by decide)
        have hfirst := Text.splitChars_append_left hpieces hword
        rw [show "Bearer ".toList ++ tail = "Bearer".toList ++ ' ' :: tail from rfl] at hfirst
        rw [hfirst, List.map_cons] at hsplit
        rw [← (List.cons.inj hsplit).1, String.toList_ofList]
        simp
    rw [readPart_of_blank readHeader hblank]
    rfl
  · rfl

/-- **A text with the word left in front of it is refused by the service.** -/
theorem validate_of_hasWord (secret : String) (now : Int) {presented : String} (h : HasWord (stripBearer presented)) :
    validate secret now presented = .error .invalidToken := by
  have hne : stripBearer presented ≠ "" := by
    obtain ⟨rest, hcs, -⟩ := h
    intro hempty
    rw [hempty] at hcs
    cases hcs
  rw [validate]
  simp only [if_neg hne, verify_of_hasWord secret h]

theorem validate_congr (secret : String) (now : Int) {s t : String} (h : stripBearer s = stripBearer t) :
    validate secret now s = validate secret now t := by
  rw [validate, validate, h]

end Token

/-! ## Two that strip a token -/

namespace Authenticator

open Token (HasWord stripBearer)

/-- **The answer of an authenticator is the verdict of the token service in its own words**: it is the identity of the
user whom the accepted claims name, and otherwise an error for the one of the service or of the claims. -/
structure Repeats (verdict : Except Failure Claims) (agent : String) (answer : Except AuthError Identity) : Prop where
  accepted : ∀ who : Identity,
    answer = .ok who ↔ who.agent = agent ∧ ∃ c, verdict = .ok c ∧ c.user = .ok who.user
  refused : ∀ e : AuthError,
    answer = .error e ↔ ∃ f, e = Failure.authError f ∧ (verdict = .error f ∨ ∃ c, verdict = .ok c ∧ c.user = .error f)

theorem repeats_validate (secret : String) (now : Moment) (who : Wire.Identify) :
    Repeats (Token.validate secret (now.unix / 1000) (stripBearer who.token)) who.agent
      ((signed secret).authenticate now who) := by
  have hanswer : (signed secret).authenticate now who =
      (((Token.validate secret (now.unix / 1000) (stripBearer who.token)).bind Claims.user).mapError
        Failure.authError).map fun user => ⟨user, who.agent⟩ := by
    rw [authenticate, userOf]
    cases Token.validate secret (now.unix / 1000) (stripBearer who.token) with
    | error f => rfl
    | ok c => cases hu : c.user <;> simp [hu, Except.mapError, Except.bind, Except.map, bind, pure, Except.pure]
  rw [hanswer]
  generalize Token.validate secret (now.unix / 1000) (stripBearer who.token) = verdict
  constructor
  · intro identity
    obtain ⟨user, agent⟩ := identity
    cases verdict with
    | error f => simp [Except.bind, Except.mapError, Except.map]
    | ok c => cases hu : c.user <;> simp [hu, Except.bind, Except.mapError, Except.map, and_comm, eq_comm]
  · intro e
    cases verdict with
    | error f => simp [Except.bind, Except.mapError, Except.map, eq_comm]
    | ok c => cases hu : c.user <;> simp [hu, Except.bind, Except.mapError, Except.map, eq_comm]

/-- **The authenticator and the service agree on every token but one with a second word in front of it.**  Where nothing
but a token is left behind the first word, stripping it again does nothing, and the authenticator repeats the verdict of
the service.  Where the word is left there, the service refuses the token; the authenticator takes away that word too
and repeats what the service says of the rest, which it refuses as well if the word is there a third time. -/
theorem signed_repeats_but_for_second_word (secret : String) (now : Moment) (who : Wire.Identify) :
    let stripped := stripBearer who.token
    let verdict := Token.validate secret (now.unix / 1000)
    let answer := (signed secret).authenticate now who
    (¬HasWord stripped ∧ stripBearer stripped = stripped ∧ Repeats (verdict who.token) who.agent answer) ∨
      (HasWord stripped ∧ stripBearer stripped ≠ stripped ∧ verdict who.token = .error .invalidToken ∧
        Repeats (verdict stripped) who.agent answer ∧
        (HasWord (stripBearer stripped) → answer = .error .invalidToken)) := by
  intro stripped verdict answer
  have hrepeats : Repeats (verdict stripped) who.agent answer := repeats_validate secret now who
  by_cases hword : HasWord stripped
  · refine .inr ⟨hword, fun h => Token.stripBearer_stripBearer_iff.1 h hword,
      Token.validate_of_hasWord secret _ hword, hrepeats, fun hthird => ?_⟩
    exact (hrepeats.refused _).2 ⟨_, rfl, .inl (Token.validate_of_hasWord secret _ hthird)⟩
  · have hself : stripBearer stripped = stripped := Token.stripBearer_stripBearer_iff.2 hword
    have hverdict : verdict stripped = verdict who.token := Token.validate_congr secret _ hself
    exact .inl ⟨hword, hself, hverdict ▸ hrepeats⟩

/-- A token with the word in front of it twice stands for its user, and the service says that it is none. -/
theorem second_word_accepted :
    let who : Wire.Identify := ⟨"Bearer Bearer " ++ Token.issue "k" 1000 3600 ⟨7⟩, 0, "t"⟩
    (signed "k").authenticate ⟨0, 2000000⟩ who = .ok ⟨⟨7⟩, "t"⟩ ∧
      Token.validate "k" 2000 who.token = .error .invalidToken := by
  intro who
  let claims : Claims := ⟨Snowflake.text ⟨7⟩, Int64.ofInt 1000, Int64.ofInt 4600⟩
  let token := Token.write "k" claims
  have htoken : Token.Written token := Token.written_write "k" claims
  have honce : stripBearer who.token = "Bearer " ++ token := Token.stripBearer_second_word htoken
  have htwice : stripBearer (stripBearer who.token) = token := by
    rw [honce]
    exact Token.stripBearer_of_presents htoken (.word token)
  have hself : stripBearer token = token := Token.stripBearer_of_presents htoken (.self token)
  have hverdict : Token.validate "k" 2000 (stripBearer who.token) = .ok claims := by
    have hvalidate := Token.validate_write 2000 (.self token) (show 0 ≤ claims.expiresAt.toInt by decide)
    rw [Token.validate_congr "k" 2000 (htwice.trans hself.symm), ← hself, hvalidate]
    exact if_neg (by decide)
  have huser : claims.user = .ok ⟨7⟩ := by rw [Claims.user, Snowflake.parse_text]; rfl
  constructor
  · exact ((repeats_validate "k" ⟨0, 2000000⟩ who).accepted _).2 ⟨rfl, claims, hverdict, huser⟩
  · refine Token.validate_of_hasWord "k" 2000 ?_
    rw [honce]
    exact ⟨' ' :: token.toList, by simp, fun c hc => (Option.some.inj hc).symm⟩

end Authenticator
end EventGateway
