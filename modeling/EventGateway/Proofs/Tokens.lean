import EventGateway.Proofs.Encodings
import EventGateway.Proofs.JsonText
import EventGateway.Proofs.Records
import EventGateway.Proofs.ScopeText
import EventGateway.Token.Authenticator
/-!
# Tokens — what is issued is accepted until it expires

A token is taken apart into the parts it was made of, the signature over the first two is the one that stands behind
them, and the claims are read back from their spelling.  So a token is accepted as its user's, however it is presented,
until its time has come (`issued_accepted`).
-/
namespace EventGateway

open Text (isBlank trimChars)

namespace Token

/-! ## The parts of a token -/

/-- **A part that holds a document is read as the document.** -/
theorem readPart_encodePart {α : Type} (read : Json → Except Json.Refusal α) {v : Json} (hv : v.plain = true) :
    readPart read (encodePart v.render) = (read v).toOption := by
  have hbytes : Json.readBytes read v.render.toUTF8.toList = read v := by
    rw [Json.readBytes, Text.Utf8.chars_toUTF8]
    exact Json.readText_render read hv
  rw [readPart, encodePart, String.toList_ofList, Text.Base64.decode_of_encode]
  show (Json.readBytes read v.render.toUTF8.toList).toOption = _
  rw [hbytes]

/-- A text of which no character is a point or white space. -/
def Solid (s : String) : Prop := ∀ c ∈ s.toList, c ≠ '.' ∧ isBlank c = false

theorem solid_encode (bytes : List UInt8) : Solid (String.ofList (Text.Base64.encode bytes)) := by
  intro c hc
  rw [String.toList_ofList] at hc
  exact Text.Base64.mem_encode hc

/-- **A token is taken apart where it was put together.** -/
theorem splitOn_parts {head payload signature : String} (hhead : Solid head) (hpayload : Solid payload)
    (hsignature : Solid signature) :
    Text.splitOn '.' (head ++ "." ++ payload ++ "." ++ signature) = [head, payload, signature] := by
  have hno : ∀ {s : String}, Solid s → ∀ c ∈ s.toList, (c == '.') = false := fun hs c hc =>
    beq_eq_false_iff_ne.2 (hs c hc).1
  have hlist : (head ++ "." ++ payload ++ "." ++ signature).toList =
      head.toList ++ '.' :: (payload.toList ++ '.' :: signature.toList) := by simp
  rw [Text.splitOn, hlist, Text.splitChars_append (p := (· == '.')) rfl _ (hno hhead),
    Text.splitChars_append (p := (· == '.')) rfl _ (hno hpayload), Text.splitChars_of_none (hno hsignature)]
  simp only [List.map_cons, List.map_nil, String.ofList_toList]

/-! ## Claims -/

theorem plain_json (c : Claims) : c.json.plain = true := by
  simp [Claims.json, Json.ofFields, Json.plain, Json.plainMembers, Json.str, Json.isInteger_int64]

theorem ofJson_json (c : Claims) : Claims.ofJson c.json = .ok c := by
  simp [Claims.ofJson, Claims.json, Claims.format, Json.ofFields, Json.RecordFormat.readAll, Json.RecordFormat.read,
    Json.RecordFormat.member, Json.str, Json.asText, Json.asInt64_toInt, Except.map, bind, Except.bind, pure, Except.pure]

/-- Nothing is said in the claims of whom the token is for. -/
theorem restriction_json (c : Claims) : (restrictionFormat.read ⟨false⟩ c.json).map (·.state) = .ok ⟨false⟩ := by
  simp [Claims.json, restrictionFormat, Json.ofFields, Json.RecordFormat.read, Json.RecordFormat.member, Json.str,
    heard, asTime, Json.reach, Json.pass, Json.whole, Except.map, bind, Except.bind, pure, Except.pure]

/-- **Claims are read back from their document.** -/
theorem readClaims_json (c : Claims) : readClaims c.json = .ok (c, ⟨false⟩) := by
  have hclaims := ofJson_json c
  have hrestriction := restriction_json c
  cases hread : restrictionFormat.read ⟨false⟩ c.json with
  | error e =>
    rw [hread] at hrestriction
    cases hrestriction
  | ok r =>
    rw [hread] at hrestriction
    have hstate : r.state = ⟨false⟩ := Except.ok.inj hrestriction
    rw [Claims.json, Json.ofFields] at hclaims hread ⊢
    simp only [readClaims, hclaims, hread, hstate, bind, Except.bind, pure, Except.pure]

/-- **A token that was written is verified with the secret it was signed with.** -/
theorem verify_write (secret : String) (c : Claims) : verify secret (write secret c) = some (c, ⟨false⟩) := by
  have hheader : readPart readHeader (encodePart header.render) = some () :=
    (readPart_encodePart readHeader (by decide)).trans (by decide)
  have hclaims : readPart readClaims (encodePart c.json.render) = some (c, ⟨false⟩) := by
    rw [readPart_encodePart readClaims (plain_json c), readClaims_json]
    rfl
  have hsplit : Text.splitOn '.' (write secret c) = [encodePart header.render, encodePart c.json.render,
      sign secret (encodePart header.render ++ "." ++ encodePart c.json.render)] :=
    splitOn_parts (solid_encode _) (solid_encode _) (solid_encode _)
  have hguard : ∀ {p : Prop} [Decidable p], p → (guard p : Option Unit) = some () := fun hp => if_pos hp
  rw [verify, hsplit]
  change Option.bind (readPart readHeader _) (fun _ => Option.bind (guard _) fun _ => readPart readClaims _) = _
  rw [hheader, hclaims, hguard rfl]
  rfl

/-! ## Presenting a token -/

/-- **How a token may be presented**: with white space around it, and after the word Bearer and some blanks. -/
inductive Presents (token : String) : String → Prop where
  | bare (before after : String) (hbefore : Text.isAllBlank before = true) (hafter : Text.isAllBlank after = true) :
    Presents token (before ++ token ++ after)
  | bearer (before after : String) (blanks : Nat) (hbefore : Text.isAllBlank before = true)
    (hafter : Text.isAllBlank after = true) :
    Presents token (before ++ "Bearer " ++ String.ofList (List.replicate blanks ' ') ++ token ++ after)

theorem Presents.self (token : String) : Presents token token := by
  have h : Presents token ("" ++ token ++ "") := .bare "" "" rfl rfl
  rwa [String.empty_append, String.append_empty] at h

theorem Presents.word (token : String) : Presents token ("Bearer " ++ token) := by
  have h : Presents token ("" ++ "Bearer " ++ String.ofList (List.replicate 0 ' ') ++ token ++ "") :=
    .bearer "" "" 0 rfl rfl
  rwa [List.replicate_zero, String.empty_append, String.ofList_nil, String.append_empty, String.append_empty] at h

/-- A token as it is written: without white space, and not beginning as the word Bearer does. -/
structure Written (token : String) : Prop where
  solid : ∀ c ∈ token.toList, isBlank c = false
  head : token.toList.head? = some 'e'

/-- An object begins with a brace, and its spelling in base64 with the first six bits of it. -/
theorem head?_encodePart_object (members : List (Option String × Json)) :
    (encodePart (Json.object members).render).toList.head? = some 'e' := by
  have hbytes : (Json.object members).render.toUTF8.toList =
      0x7B :: (Json.charsOfMembers members ++ ['}']).flatMap String.utf8EncodeChar := by
    rw [Text.Utf8.toUTF8_eq_flatMap, Json.render, String.toList_ofList, Json.chars]
    rfl
  rw [encodePart, String.toList_ofList, hbytes, Text.Base64.head?_encode_cons]
  rfl

theorem written_write (secret : String) (c : Claims) : Written (write secret c) := by
  have hlist : (write secret c).toList = (encodePart header.render).toList ++ '.' ::
      ((encodePart c.json.render).toList ++ '.' ::
        (sign secret (encodePart header.render ++ "." ++ encodePart c.json.render)).toList) := by simp [write]
  refine ⟨fun d hd => ?_, ?_⟩
  · rw [hlist] at hd
    simp only [List.mem_append, List.mem_cons] at hd
    rcases hd with hd | rfl | hd | rfl | hd
    · exact (solid_encode _ d hd).2
    · rfl
    · exact (solid_encode _ d hd).2
    · rfl
    · exact (solid_encode _ d hd).2
  · rw [hlist, List.head?_append, header, Json.ofFields, head?_encodePart_object]
    rfl

/-- **What is around a token is taken away from it**, and nothing else. -/
theorem stripBearer_of_presents {token presented : String} (htoken : Written token) (h : Presents token presented) :
    stripBearer presented = token := by
  obtain ⟨tail, htail⟩ := List.head?_eq_some_iff.1 htoken.head
  have hlast : ∀ c ∈ token.toList.getLast?, isBlank c = false := fun c hc => htoken.solid c (List.mem_of_getLast? hc)
  cases h with
  | bare before after hbefore hafter =>
    have htrim : trimChars (before ++ token ++ after).toList = 'e' :: tail := by
      rw [String.toList_append, String.toList_append, ← htail]
      refine Text.trimChars_surrounded (List.all_eq_true.1 hbefore) (List.all_eq_true.1 hafter) (fun c hc => ?_) hlast
      exact htoken.solid c (List.mem_of_mem_head? hc)
    rw [stripBearer, htrim]
    show String.ofList ('e' :: tail) = token
    rw [← htail, String.ofList_toList]
  | bearer before after blanks hbefore hafter =>
    have htrim : trimChars (before ++ "Bearer " ++ String.ofList (List.replicate blanks ' ') ++ token ++ after).toList =
        'B' :: 'e' :: 'a' :: 'r' :: 'e' :: 'r' :: ' ' :: (List.replicate blanks ' ' ++ token.toList) := by
      have hlist : (before ++ "Bearer " ++ String.ofList (List.replicate blanks ' ') ++ token ++ after).toList =
          before.toList ++ ('B' :: 'e' :: 'a' :: 'r' :: 'e' :: 'r' :: ' ' ::
            (List.replicate blanks ' ' ++ token.toList)) ++ after.toList := by simp
      rw [hlist]
      refine Text.trimChars_surrounded (List.all_eq_true.1 hbefore) (List.all_eq_true.1 hafter) (fun c hc => ?_)
        fun c hc => ?_
      · obtain rfl : 'B' = c := Option.some.inj hc
        rfl
      · refine hlast c ?_
        have hne : token.toList ≠ [] := by rw [htail]; exact List.cons_ne_nil _ _
        have hlasts : ("Bearer ".toList ++ List.replicate blanks ' ' ++ token.toList).getLast? = some c := hc
        rw [List.getLast?_append, List.getLast?_eq_some_getLast hne] at hlasts
        rwa [List.getLast?_eq_some_getLast hne]
    have hleft : Text.trimLeftChars (' ' :: (List.replicate blanks ' ' ++ token.toList)) = token.toList := by
      have hblank : ∀ c ∈ List.replicate (blanks + 1) ' ', isBlank c = true := fun c hc => by
        rw [(List.mem_replicate.1 hc).2]
        rfl
      refine (Text.trimLeftChars_append hblank token.toList).trans (Text.trimLeftChars_of_head? fun c hc => ?_)
      exact htoken.solid c (List.mem_of_mem_head? hc)
    rw [stripBearer, htrim]
    simp only [List.head?_cons, hleft, String.ofList_toList]
    rfl

/-! ## Accepting a token -/

theorem check_of_valid {now : Int} {c : Claims} (hexp : 0 ≤ c.expiresAt.toInt) :
    check now c ⟨false⟩ = if c.expiresAt.toInt < now - 60 then .error .tokenExpired else .ok c := by
  have hnonneg : ¬c.expiresAt < 0 := by
    rw [Int64.lt_iff_toInt_lt]
    exact Int.not_lt.2 hexp
  rw [check, if_neg hnonneg, leeway]
  split <;> rfl

/-- **A token is accepted until its time has come**, and refused as expired from then on, however it is presented. -/
theorem validate_write {secret presented : String} {c : Claims} (now : Int) (h : Presents (write secret c) presented)
    (hexp : 0 ≤ c.expiresAt.toInt) : validate secret now (stripBearer presented) =
      if c.expiresAt.toInt < now - 60 then .error .tokenExpired else .ok c := by
  have hwritten := written_write secret c
  have hstrip : stripBearer (stripBearer presented) = write secret c := by
    rw [stripBearer_of_presents hwritten h]
    exact stripBearer_of_presents hwritten (.self _)
  have hne : write secret c ≠ "" := by
    intro hempty
    have hhead := hwritten.head
    rw [hempty] at hhead
    cases hhead
  rw [validate, hstrip]
  simp only [if_neg hne, verify_write]
  exact check_of_valid hexp

end Token

namespace Authenticator

open Token (Presents issue)

/-- **What is issued to a user is accepted as the user's until it expires.**  For every secret, user, lifetime and moment
of issue at which the time of expiry is a number that can be written, and however the token is presented: up to sixty
seconds after that time the client is the user, and what it says about itself stands; from then on its token is
expired. -/
theorem issued_accepted (secret : String) (user : Snowflake) (lifetime : Int64) (issuedAt : Int) (now : Moment)
    (who : Wire.Identify) (hexp : 0 ≤ issuedAt + lifetime.toInt)
    (hfits : issuedAt + lifetime.toInt ≤ Int64.maxValue.toInt)
    (hpresents : Presents (issue secret issuedAt lifetime user) who.token) :
    (signed secret).authenticate now who =
      if issuedAt + lifetime.toInt < now.unix / 1000 - 60 then .error .expired else .ok ⟨user, who.agent⟩ := by
  have hexpires : (Int64.ofInt (issuedAt + lifetime.toInt)).toInt = issuedAt + lifetime.toInt := by
    refine Int64.toInt_ofInt_of_le ?_ (Int.lt_add_one_of_le hfits)
    omega
  have hvalidate := Token.validate_write (now.unix / 1000) hpresents (by rw [hexpires]; exact hexp)
  rw [hexpires] at hvalidate
  rw [authenticate, userOf, hvalidate]
  by_cases hlate : issuedAt + lifetime.toInt < now.unix / 1000 - 60
  · rw [if_pos hlate, if_pos hlate]
    rfl
  · rw [if_neg hlate, if_neg hlate]
    -- The claims are right, so what is left is to read the user from them.
    change Except.bind (((Snowflake.parse user.text).mapError fun _ => Failure.invalidToken).mapError Failure.authError)
      (fun u => Except.ok (⟨u, who.agent⟩ : Identity)) = _
    rw [Snowflake.parse_text]
    rfl

/-- A token of a user with a negative id, in the last second in which it is accepted and in the one after it. -/
theorem issued_accepted_barely :
    let token := issue "k" 1000 3600 ⟨-5⟩
    let who : Wire.Identify := ⟨"\n" ++ "Bearer " ++ String.ofList (List.replicate 1 ' ') ++ token ++ " ", 0, "t"⟩
    (signed "k").authenticate ⟨0, 4660999⟩ who = .ok ⟨⟨-5⟩, "t"⟩ ∧
      (signed "k").authenticate ⟨0, 4661000⟩ who = .error .expired := by
  intro token who
  have hpresents : Presents token who.token := .bearer "\n" " " 1 (by decide) (by decide)
  have haccepted := issued_accepted "k" ⟨-5⟩ 3600 1000 ⟨0, 4660999⟩ who (by decide) (by decide) hpresents
  have hexpired := issued_accepted "k" ⟨-5⟩ 3600 1000 ⟨0, 4661000⟩ who (by decide) (by decide) hpresents
  exact ⟨haccepted.trans (if_neg (by decide)), hexpired.trans (if_pos (by decide))⟩

end Authenticator
end EventGateway
