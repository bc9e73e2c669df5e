import Accounts.Proofs.Token.Soundness

/-!
# A wrong signature decides

The name of the algorithm, the form of the header and the signature are looked at before the
payload, the time and the store. Where one of them is wrong, the answer says nothing about the rest.

* `Signer.Missigned`: a payload and a text that is not its signature;
* **`Signer.decodeVerified_eq_invalidSignature_iff`**: which tokens are refused for their signature;
* **`Signer.decodeVerified_eq_unexpected_iff`**: which tokens are refused for their algorithm;
* **`Service.wrong_signature_decides`**: two tokens with one header and wrong signatures have one
  answer, at any two instants and before any two stores, and neither is looked up; so have any two
  tokens with a header of another algorithm.
-/

namespace Accounts

variable {h p s : List Char} {a : Algorithm}

theorem Header.dot_not_mem_of_algorithmName? {name : String}
    (hname : Header.algorithmName? h = some name) : '.' ∉ h := by
  obtain ⟨doc, hdoc, -⟩ := Header.algorithmName?_eq_some hname
  exact Header.dot_not_mem_of_document? hdoc

namespace Signer

/-! ## The algorithm

Only the first segment is asked for it. -/

theorem checkAlgorithm_segments (hh : '.' ∉ h) :
    checkAlgorithm (segments h p s) = checkAlgorithm h := by
  rw [checkAlgorithm, checkAlgorithm, headD_pieces_segments hh, Text.pieces_of_not_mem hh,
    List.headD_cons]

theorem ofName?_eq_none_iff {name : String} :
    Algorithm.ofName? name = none ↔ ∀ a : Algorithm, name ≠ a.name := by
  constructor
  · rintro hnone a rfl
    rw [Algorithm.ofName?_name] at hnone
    cases hnone
  · intro hother
    cases hname : Algorithm.ofName? name with
    | none => rfl
    | some a => exact absurd (ofName?_eq_some hname) (hother a)

theorem checkAlgorithm_eq_unexpected_iff {token : List Char} :
    checkAlgorithm token = .error .unexpectedSigningMethod ↔
      ∃ name, Header.algorithmName? ((Text.pieces '.' token).headD []) = some name ∧
        ∀ a : Algorithm, name ≠ a.name := by
  constructor
  · intro hu
    unfold checkAlgorithm at hu
    split at hu
    · cases hu
    · next name hname =>
      split at hu
      · cases hu
      · next hnone => exact ⟨name, hname, ofName?_eq_none_iff.1 hnone⟩
  · rintro ⟨name, hname, hother⟩
    simp only [checkAlgorithm, hname, ofName?_eq_none_iff.2 hother]

theorem checkAlgorithm_eq_error {token : List Char} {r : RejectReason}
    (hr : checkAlgorithm token = .error r) : r = .malformed ∨ r = .unexpectedSigningMethod := by
  unfold checkAlgorithm at hr
  split at hr
  · cases hr
    exact .inl rfl
  · split at hr
    · cases hr
    · cases hr
      exact .inr rfl

/-! ## The signature -/

variable {signer : Signer} {now : Int}

theorem checkClaims_eq_error {c : Claims} {r : RejectReason}
    (hr : signer.checkClaims now c = .error r) : r = .malformed ∨ r = .expired := by
  unfold checkClaims at hr
  split at hr
  · cases hr
    exact .inl rfl
  split at hr
  · cases hr
    exact .inr rfl
  split at hr
  · cases hr
    exact .inl rfl
  split at hr
  · cases hr
    exact .inl rfl
  · cases hr

variable (signer) in
/-- The payload `p` and the text `s` have no dots, and `s` is not the signature under the header `h`
and `p`. -/
structure Missigned (a : Algorithm) (h p s : List Char) : Prop where
  payload : '.' ∉ p
  signature : '.' ∉ s
  wrong : s ≠ a.sign signer.key (bytesOf (h ++ '.' :: p))

theorem missigned_of_mem (hp : '.' ∉ p) (hs : '.' ∉ s) {c : Char} (hc : c ∈ s)
    (hbase : ∀ n < 64, c ≠ Base64.Alphabet.url.char n) : signer.Missigned a h p s := by
  refine ⟨hp, hs, ?_⟩
  rintro rfl
  obtain ⟨n, hn, hchar⟩ := Base64.mem_encode _ _ _ hc
  exact hbase n hn hchar

/-- The refusals of the local checks, by the step that makes them. -/
theorem decodeVerified_eq_error {token : String} {r : RejectReason}
    (hr : signer.decodeVerified now token = .error r) :
    checkAlgorithm token.toList = .error r ∨ r = .malformed ∨ r = .expired ∨
      r = .invalidSignature ∧ ∃ h p s a, token = String.ofList (segments h p s) ∧
        checkAlgorithm h = .ok a ∧ Header.isWellFormed h = true ∧ signer.Missigned a h p s := by
  rcases Outcome.bind_eq_error_iff.1 hr with hr | ⟨a, ha, hr⟩
  · exact .inl hr
  · refine .inr ?_
    split at hr
    · cases hr
      exact .inl rfl
    · next h p s hcut =>
      obtain ⟨htoken, hp, hs⟩ := cut?_eq_some_iff.1 hcut
      split at hr
      · cases hr
        exact .inl rfl
      · next hform =>
        have hform : Header.isWellFormed h = true := by simpa using hform
        split at hr
        · next hwrong =>
          cases hr
          rw [htoken, checkAlgorithm_segments (dot_not_mem_of_isWellFormed hform)] at ha
          refine .inr (.inr ⟨rfl, h, p, s, a, ?_, ha, hform, hp, hs, hwrong⟩)
          rw [← htoken, String.ofList_toList]
        · split at hr
          · cases hr
            exact .inl rfl
          · exact (checkClaims_eq_error hr).imp_right .inl

/-- **A token is refused for its signature when the header is read and the signature is wrong**,
whatever the payload is and whatever time it is. -/
theorem decodeVerified_eq_invalidSignature_iff {token : String} :
    signer.decodeVerified now token = .error .invalidSignature ↔
      ∃ h p s a, token = String.ofList (segments h p s) ∧ checkAlgorithm h = .ok a ∧
        Header.isWellFormed h = true ∧ signer.Missigned a h p s := by
  constructor
  · intro hr
    rcases decodeVerified_eq_error hr with halg | hr | hr | ⟨-, hwrong⟩
    · exact (checkAlgorithm_eq_error halg).elim nofun nofun
    · cases hr
    · cases hr
    · exact hwrong
  · rintro ⟨h, p, s, a, rfl, ha, hform, hp, hs, hwrong⟩
    refine Outcome.bind_eq_error_iff.2 (.inr ⟨a, ?_, ?_⟩)
    · rw [String.toList_ofList, checkAlgorithm_segments (dot_not_mem_of_isWellFormed hform), ha]
    · rw [String.toList_ofList, cut?_eq_some_iff.2 ⟨rfl, hp, hs⟩]
      simp [hform, hwrong]

/-- **A token is refused for its algorithm when its first segment names another one**, whatever comes
after it and whatever time it is. -/
theorem decodeVerified_eq_unexpected_iff {token : String} :
    signer.decodeVerified now token = .error .unexpectedSigningMethod ↔
      ∃ name, Header.algorithmName? ((Text.pieces '.' token.toList).headD []) = some name ∧
        ∀ a : Algorithm, name ≠ a.name := by
  rw [← checkAlgorithm_eq_unexpected_iff]
  constructor
  · intro hr
    rcases decodeVerified_eq_error hr with halg | hr | hr | ⟨hr, -⟩
    · exact halg
    · cases hr
    · cases hr
    · cases hr
  · exact fun halg => Outcome.bind_eq_error_iff.2 (.inl halg)

end Signer

/-! ## Two tokens with one header -/

namespace Service

variable (service : Service)

/-- **A wrong signature decides.** Under a header that is read, no two payloads, instants and stores
make a difference to the answer on a wrong signature; under a header of another algorithm, nothing
after it does. In both cases the store is not asked. -/
theorem wrong_signature_decides (h : List Char) :
    (∀ a, Signer.checkAlgorithm h = .ok a → Header.isWellFormed h = true →
      ∀ p₁ s₁ p₂ s₂, service.signer.Missigned a h p₁ s₁ → service.signer.Missigned a h p₂ s₂ →
      (∀ now₁ now₂,
        service.signer.decodeVerified now₁ (String.ofList (segments h p₁ s₁)) =
          .error .invalidSignature ∧
        service.signer.decodeVerified now₂ (String.ofList (segments h p₂ s₂)) =
          .error .invalidSignature) ∧
      ∀ o₁ o₂ store₁ store₂,
        service.verify o₁ (String.ofList (segments h p₁ s₁)) store₁ =
          (.ok (.invalid .invalidSignature), store₁) ∧
        service.verify o₂ (String.ofList (segments h p₂ s₂)) store₂ =
          (.ok (.invalid .invalidSignature), store₂)) ∧
    (∀ name, Header.algorithmName? h = some name → (∀ a : Algorithm, name ≠ a.name) →
      ∀ rest₁ rest₂,
      (∀ now₁ now₂,
        service.signer.decodeVerified now₁ (String.ofList (h ++ '.' :: rest₁)) =
          .error .unexpectedSigningMethod ∧
        service.signer.decodeVerified now₂ (String.ofList (h ++ '.' :: rest₂)) =
          .error .unexpectedSigningMethod) ∧
      ∀ o₁ o₂ store₁ store₂,
        service.verify o₁ (String.ofList (h ++ '.' :: rest₁)) store₁ =
          (.ok (.invalid .unexpectedSigningMethod), store₁) ∧
        service.verify o₂ (String.ofList (h ++ '.' :: rest₂)) store₂ =
          (.ok (.invalid .unexpectedSigningMethod), store₂)) := by
  constructor
  · intro a ha hform p₁ s₁ p₂ s₂ hm₁ hm₂
    have hd : ∀ p s, service.signer.Missigned a h p s → ∀ now,
        service.signer.decodeVerified now (String.ofList (segments h p s)) =
          .error .invalidSignature :=
      fun p s hm now => Signer.decodeVerified_eq_invalidSignature_iff.2
        ⟨h, p, s, a, rfl, ha, hform, hm⟩
    exact ⟨fun now₁ now₂ => ⟨hd p₁ s₁ hm₁ now₁, hd p₂ s₂ hm₂ now₂⟩,
      fun o₁ o₂ store₁ store₂ => ⟨service.verify_of_reject (hd p₁ s₁ hm₁ _) store₁,
        service.verify_of_reject (hd p₂ s₂ hm₂ _) store₂⟩⟩
  · intro name hname hother rest₁ rest₂
    have hd : ∀ rest now, service.signer.decodeVerified now (String.ofList (h ++ '.' :: rest)) =
        .error .unexpectedSigningMethod := by
      intro rest now
      refine Signer.decodeVerified_eq_unexpected_iff.2 ⟨name, ?_, hother⟩
      rw [String.toList_ofList,
        Text.pieces_append (Header.dot_not_mem_of_algorithmName? hname), List.headD_cons, hname]
    exact ⟨fun now₁ now₂ => ⟨hd rest₁ now₁, hd rest₂ now₂⟩,
      fun o₁ o₂ store₁ store₂ => ⟨service.verify_of_reject (hd rest₁ _) store₁,
        service.verify_of_reject (hd rest₂ _) store₂⟩⟩

/-- Claims that are over and no claims at all under a signature that is none, and two endings of a
token whose header names no algorithm. -/
theorem wrong_signature_decides_at_once :
    let service : Service := .ofSettings {} .argon2id ⟨0, 0⟩
    let ended : Claims := ⟨Uuid.random 1, "alice", .user, "id", "elsewhere", "", 0, 0, 0⟩
    let t₁ := String.ofList (segments (Header.text .hs512) (Signer.payload ended) ['!'])
    let t₂ := String.ofList (segments (Header.text .hs512) ['?'] ['!'])
    let failing : RevocationStore := { fault := some (.unavailable "down") }
    (∀ o₁ o₂, service.verify o₁ t₁ {} = (.ok (.invalid .invalidSignature), {}) ∧
      service.verify o₂ t₂ failing = (.ok (.invalid .invalidSignature), failing)) ∧
    ∀ now₁ now₂, service.signer.decodeVerified now₁ "eyJhbGciOiJub25lIn0.." =
        .error .unexpectedSigningMethod ∧
      service.signer.decodeVerified now₂ "eyJhbGciOiJub25lIn0.e30" =
        .error .unexpectedSigningMethod := by
  intro service ended t₁ t₂ failing
  have halg : Signer.checkAlgorithm (Header.text .hs512) = .ok .hs512 := by
    rw [Signer.checkAlgorithm, Text.pieces_of_not_mem (Signer.dot_not_mem_header _),
      List.headD_cons, Header.algorithmName?_text]
    rfl
  have hm : ∀ p, '.' ∉ p → service.signer.Missigned .hs512 (Header.text .hs512) p ['!'] :=
    fun p hp => Signer.missigned_of_mem hp (by decide) (List.mem_singleton_self _) (by decide)
  have hother : ∀ a : Algorithm, "none" ≠ a.name := by
    intro a
    cases a <;> decide
  constructor
  · intro o₁ o₂
    exact ((service.wrong_signature_decides (Header.text .hs512)).1 .hs512 halg
      (Header.isWellFormed_text _) _ _ _ _ (hm _ (Signer.dot_not_mem_payload ended))
      (hm _ (by decide))).2 o₁ o₂ {} failing
  · exact ((service.wrong_signature_decides "eyJhbGciOiJub25lIn0".toList).2 "none" rfl
      hother ['.'] "e30".toList).1

end Service

end Accounts
