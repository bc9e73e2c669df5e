import Accounts.Proofs.Token.Segments
import Mathlib.Logic.Basic

/-!
# A signed token is read back

* **`Signer.decodeVerified_sign`**: of a signed token the checks see exactly its claims;
* `decodePayload?_sign`: a revocation sees its identifier and its end;
* `Signer.decodeVerified_issue`, `Signer.issued_says`: an issued token passes from its first to its
  last second, and says whose it is;
* **`Signer.signed_claims_return`**: which claims come back at which second, and how the others are
  refused; an issued token comes back from its first to its last second.
-/

namespace Accounts

namespace Signer

variable (signer : Signer)

theorem checkAlgorithm_sign (c : Claims) :
    checkAlgorithm (signer.sign c).toList = .ok .hs256 := by
  rw [checkAlgorithm, pieces_sign, List.headD_cons, Header.algorithmName?_text]
  rfl

theorem readClaims?_payload {c : Claims} (hc : c.InRange) : readClaims? (payload c) = some c := by
  have hd : (Json.Document.mk c.json.node true).read Claims.read = .ok c :=
    Json.Document.read_eq_ok_iff.2 ⟨Claims.read_node hc, rfl⟩
  rw [readClaims?, document?_payload hc, Option.bind_eq_bind, Option.bind_some, hd,
    Claims.node_json]
  rfl

/-- **Of a signed token the checks see exactly its claims.** -/
theorem decodeVerified_sign {c : Claims} (hc : c.InRange) (now : Int) :
    signer.decodeVerified now (signer.sign c) = signer.checkClaims now c := by
  have hsig : signer.signature c = Algorithm.hs256.sign signer.key
      (bytesOf (Header.text .hs256 ++ '.' :: payload c)) := rfl
  unfold decodeVerified
  rw [checkAlgorithm_sign, cut?_sign]
  simp only [bind, Except.bind, Header.isWellFormed_text, Bool.not_true, Bool.false_eq_true,
    if_false, ← hsig, ne_eq, not_true_eq_false, readClaims?_payload hc]

end Signer

theorem decodePayload?_sign (signer : Signer) {c : Claims} (hc : c.InRange) :
    decodePayload? (signer.sign c) = some ⟨some c.jti, c.exp⟩ := by
  have hd : (Json.Document.mk c.json.node true).read RevocationClaims.read =
      .ok ⟨some c.jti, c.exp⟩ :=
    Json.Document.read_eq_ok_iff.2 ⟨RevocationClaims.read_node hc, rfl⟩
  rw [decodePayload?, Signer.pieces_sign]
  refine Option.bind_eq_some_iff.2 ⟨_, Signer.document?_payload hc, ?_⟩
  exact Outcome.toOption_eq_some_iff.2 hd

/-! ## Issued tokens -/

namespace Signer

theorem lifetime_ofSettings (s : AuthSettings) :
    ((ofSettings s).lifetime : Int) = max 1 (min s.lifetimeHours 8760) * 3600 := by
  have hl : (ofSettings s).lifetime =
      (max 1 (min s.lifetimeHours maxLifetimeHours) * 3600).toNat := rfl
  have hm : maxLifetimeHours = 8760 := rfl
  rw [hl, hm]
  omega

theorem lifetime_bounds (s : AuthSettings) :
    3600 ≤ (ofSettings s).lifetime ∧ (ofSettings s).lifetime ≤ 31536000 := by
  have := lifetime_ofSettings s
  omega

variable {signer : Signer} {i : Identity} {tokenId : Uuid} {start : Timestamp}

theorem inRange_newClaims (h1 : -0x8000000000000000 ≤ start.seconds)
    (h2 : start.seconds + signer.lifetime < 0x8000000000000000) :
    (signer.newClaims i tokenId start).InRange := by
  constructor <;> simp only [newClaims] <;> omega

theorem checkClaims_newClaims (h : 0 ≤ start.seconds) (now : Int) :
    signer.checkClaims now (signer.newClaims i tokenId start) =
      if start.seconds ≤ now ∧ now ≤ start.seconds + signer.lifetime then
        .ok (signer.newClaims i tokenId start)
      else .error .expired := by
  generalize hc : signer.newClaims i tokenId start = c
  have hnbf : c.nbf = start.seconds := by rw [← hc]; rfl
  have hexp : c.exp = start.seconds + signer.lifetime := by rw [← hc]; rfl
  have hiss : c.iss = signer.issuer := by rw [← hc]; rfl
  have haud : c.aud = signer.audience := by rw [← hc]; rfl
  have hjti : c.jti ≠ "" := by rw [← hc]; exact tokenId.text_ne_empty
  rw [checkClaims, if_neg (by omega)]
  by_cases hnow : start.seconds ≤ now ∧ now ≤ start.seconds + signer.lifetime
  · rw [if_neg (by omega), if_neg (by simp [hiss, haud]), if_neg hjti, if_pos hnow]
  · rw [if_pos (by omega), if_neg hnow]

theorem expiresAt_newClaims (h1 : Timestamp.firstSecond ≤ start.seconds + signer.lifetime)
    (h2 : start.seconds + signer.lifetime ≤ Timestamp.lastSecond) :
    (signer.newClaims i tokenId start).expiresAt = ⟨start.seconds + signer.lifetime, 0⟩ :=
  Claims.expiresAt_of_held h1 h2

/-- **An issued token passes from its first to its last second**, and has expired at all others. -/
theorem decodeVerified_issue (h : 0 ≤ start.seconds)
    (hc : (signer.newClaims i tokenId start).InRange) (now : Int) :
    signer.decodeVerified now (signer.issue i tokenId start).token =
      if start.seconds ≤ now ∧ now ≤ start.seconds + signer.lifetime then
        .ok (signer.newClaims i tokenId start)
      else .error .expired := by
  exact (signer.decodeVerified_sign hc now).trans (checkClaims_newClaims h now)

variable (i tokenId) in
theorem issued_says (hstart : 0 ≤ start.seconds)
    (hend : start.seconds + signer.lifetime ≤ Timestamp.lastSecond) :
    ∃ c, c.sub = i.userId ∧ c.username = i.username ∧ c.role = i.role ∧
      c.exp = start.seconds + signer.lifetime ∧
      (signer.issue i tokenId start).expiresAt = ⟨c.exp, 0⟩ ∧
      ∀ now, start.seconds ≤ now → now ≤ c.exp →
        signer.decodeVerified now (signer.issue i tokenId start).token = .ok c := by
  have hfirst := Timestamp.firstSecond_eq
  have hlast := Timestamp.lastSecond_eq
  have hrange : (signer.newClaims i tokenId start).InRange :=
    inRange_newClaims (by omega) (by omega)
  refine ⟨signer.newClaims i tokenId start, rfl, rfl, rfl, rfl,
    expiresAt_newClaims (by omega) hend, fun now hfrom hto => ?_⟩
  rw [decodeVerified_issue hstart hrange, if_pos ⟨hfrom, hto⟩]

/-- **Signing and checking are inverse on the admissible claims.** The reasons to refuse the others
come in a fixed order. An issued token comes back from its first to its last second. -/
theorem signed_claims_return (s : AuthSettings) :
    (∀ (c : Claims) (now : Int), c.InRange → 0 ≤ now →
      (ofSettings s).decodeVerified now ((ofSettings s).sign c) =
        if c.exp < 0 ∨ c.nbf < 0 then .error .malformed
        else if c.exp < now ∨ c.nbf > now then .error .expired
        else if c.iss ≠ s.issuer ∨ c.aud ≠ s.audience ∨ c.jti = "" then .error .malformed
        else .ok c) ∧
    ∀ (u : User) (tokenId : Uuid) (start : Timestamp) (now : Int),
      0 ≤ start.seconds → start.seconds ≤ 253402300799 → 0 ≤ now →
      let issued := (ofSettings s).issue u.identity tokenId start
      issued.tokenId = tokenId.text ∧
      if start.seconds ≤ now ∧ now ≤ issued.expiresAt.seconds then
        ∃ c, (ofSettings s).decodeVerified now issued.token = .ok c ∧
          c.sub = u.id ∧ c.username = u.username ∧ c.role = u.role ∧ c.jti = issued.tokenId ∧
          c.iat = start.seconds ∧ c.nbf = c.iat ∧
          c.exp - c.iat = max 1 (min s.lifetimeHours 8760) * 3600 ∧
          issued.expiresAt = ⟨c.exp, 0⟩
      else (ofSettings s).decodeVerified now issued.token = .error .expired := by
  constructor
  · intro c now hc _
    rw [decodeVerified_sign _ hc, checkClaims]
    simp only [ite_or]
    rfl
  · intro u tokenId start now h0 h1 _ issued
    have hl := lifetime_ofSettings s
    have hb := lifetime_bounds s
    have hfirst : Timestamp.firstSecond = -8334601228800 := by decide
    have hlast : Timestamp.lastSecond = 8210266876799 := by decide
    have hend : issued.expiresAt = ⟨start.seconds + (ofSettings s).lifetime, 0⟩ :=
      expiresAt_newClaims (by omega) (by omega)
    have hc : ((ofSettings s).newClaims u.identity tokenId start).InRange :=
      inRange_newClaims (by omega) (by omega)
    have hdecode := decodeVerified_issue h0 hc now
    refine ⟨rfl, ?_⟩
    rw [hend]
    split
    · next hnow =>
      rw [if_pos hnow] at hdecode
      refine ⟨_, hdecode, rfl, rfl, rfl, rfl, rfl, rfl, ?_, rfl⟩
      simp only [newClaims]
      omega
    · next hnow =>
      rw [if_neg hnow] at hdecode
      exact hdecode

/-- Claims with the least and the greatest times come back with their marks; a token that was issued
in the last second of the year 9999 comes back in its last second, and not in the next. -/
theorem signed_claims_return_at_ends :
    let c : Claims := ⟨⟨List.replicate 32 15, rfl⟩, "\"é\\\n", .admin, "𝄞", "account-service",
      "account-clients", -0x8000000000000000, 0, 0x7fffffffffffffff⟩
    let u : User := ⟨Uuid.random 1, "", "앨리스\t", "", "", .user, "", "", ⟨0, 0⟩, ⟨0, 0⟩⟩
    let issued := (ofSettings {}).issue u.identity (Uuid.random 2) ⟨253402300799, 999999999⟩
    c.InRange ∧ (ofSettings {}).decodeVerified 0 ((ofSettings {}).sign c) = .ok c ∧
      (∃ d, (ofSettings {}).decodeVerified 253402387199 issued.token = .ok d ∧
        d.username = "앨리스\t" ∧ d.exp - d.iat = 86400) ∧
      (ofSettings {}).decodeVerified 253402387200 issued.token = .error .expired := by
  intro c u issued
  have hc : c.InRange := ⟨by decide, by decide, by decide⟩
  refine ⟨hc, ((signed_claims_return {}).1 c 0 hc (by decide)).trans ?_, ?_, ?_⟩
  · simp [c]
  · have h := ((signed_claims_return {}).2 u (Uuid.random 2) ⟨253402300799, 999999999⟩
      253402387199 (by decide) (by decide) (by decide)).2
    rw [if_pos (by decide)] at h
    obtain ⟨d, hd, -, hname, -, -, -, -, hlong, -⟩ := h
    exact ⟨d, hd, hname, hlong⟩
  · have h := ((signed_claims_return {}).2 u (Uuid.random 2) ⟨253402300799, 999999999⟩
      253402387200 (by decide) (by decide) (by decide)).2
    rw [if_neg (by decide)] at h
    exact h

end Signer

end Accounts
