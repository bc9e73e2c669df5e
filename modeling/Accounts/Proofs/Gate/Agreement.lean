import Accounts.Gate.Authenticate
import Accounts.Proofs.Gate.Bearer
import Accounts.Proofs.Token.Soundness
import Accounts.Rpc.Calls

/-!
# The gate and the remote call agree

Both present a token to the same check and tell its outcome in their own words. The gate names the
reason of a refusal, the remote call only gives its text, and two reasons share one text.

* `RejectReason.message_eq_iff`: which reasons have the same text;
* `Identity.reply`, `RpcFault.refusal`, `RpcFault.outage`: what a remote caller is told;
* `callerOf_eq_ok_iff`, **`validationAnswer_eq_ok_iff`** and the like: which outcome each answer
  stands for;
* `presentable_of_decodeVerified`: only tokens that a header can present pass the local checks;
* **`Service.surfaces_agree`**: one verdict on every token and in every condition of the store.
-/

namespace Accounts

/-! ## Texts -/

theorem Uuid.text_injective {u v : Uuid} (h : u.text = v.text) : u = v := by
  have hp := congrArg Uuid.parse? h
  rw [Uuid.parse?_text, Uuid.parse?_text] at hp
  exact Option.some.inj hp

theorem Role.name_injective {r s : Role} : r.name = s.name → r = s := by
  cases r <;> cases s <;> decide

theorem RejectReason.message_eq_iff {r r' : RejectReason} :
    r'.message = r.message ↔ r' = r ∨ r' = .invalidSignature ∧ r = .expired ∨
      r' = .expired ∧ r = .invalidSignature := by
  cases r <;> cases r' <;> decide

/-! ## What a remote caller is told -/

/-- The reply to a valid token. -/
def Identity.reply (i : Identity) : ValidationReply where
  isValid := true
  userId := i.userId.text
  username := i.username
  role := i.role.name
  errorMessage := ""

/-- The reply without an identity. -/
def ValidationReply.withoutIdentity (text : String) : ValidationReply where
  isValid := false
  userId := ""
  username := ""
  role := ""
  errorMessage := text

/-- The failure that tells a refusal with a text. -/
def RpcFault.refusal (text : String) : RpcFault where
  code := .unauthenticated
  message := text
  details := (ValidationReply.withoutIdentity text).encode

/-- The failure that tells that a check could not be finished. -/
def RpcFault.outage : RpcFault where
  code := .internal
  message := "Internal server error during token validation"
  details := (ValidationReply.withoutIdentity
    "Internal server error during token validation").encode

theorem Identity.reply_injective {i j : Identity} (h : i.reply = j.reply) : i = j := by
  have hid := Uuid.text_injective (congrArg ValidationReply.userId h)
  have hname : i.username = j.username := congrArg ValidationReply.username h
  have hrole := Role.name_injective (congrArg ValidationReply.role h)
  cases i
  cases j
  cases hid
  cases hname
  cases hrole
  rfl

/-! ## Which outcome an answer stands for -/

variable {outcome : Except TokenFault Verification}

theorem callerOf_eq_ok_iff {i : Identity} : callerOf outcome = .ok i ↔ outcome = .ok (.valid i) := by
  rcases outcome with f | (j | r) <;> simp [callerOf]

theorem callerOf_eq_rejected_iff {r : RejectReason} :
    callerOf outcome = .error (.rejected r) ↔ outcome = .ok (.invalid r) := by
  rcases outcome with f | (i | r') <;> simp [callerOf]

theorem callerOf_eq_unavailable_iff :
    callerOf outcome = .error .verificationUnavailable ↔ ∃ f, outcome = .error f := by
  rcases outcome with f | (i | r) <;> simp [callerOf]

theorem validationAnswer_valid (i : Identity) : validationAnswer (.ok (.valid i)) = .ok i.reply := rfl

theorem validationAnswer_invalid (r : RejectReason) :
    validationAnswer (.ok (.invalid r)) = .error (.refusal r.message) := rfl

theorem validationAnswer_error (f : TokenFault) : validationAnswer (.error f) = .error .outage := rfl

theorem refusal_ne_outage (text : String) : RpcFault.refusal text ≠ .outage := fun h => by
  cases congrArg RpcFault.code h

theorem refusal_inj {s t : String} : RpcFault.refusal s = .refusal t ↔ s = t :=
  ⟨congrArg RpcFault.message, congrArg RpcFault.refusal⟩

/-- **An identity is told exactly for a valid token of its own.** -/
theorem validationAnswer_eq_ok_iff {i : Identity} :
    validationAnswer outcome = .ok i.reply ↔ outcome = .ok (.valid i) := by
  rcases outcome with f | (j | r)
  · simp [validationAnswer_error]
  · simp only [validationAnswer_valid, Except.ok.injEq, Verification.valid.injEq]
    exact ⟨Identity.reply_injective, congrArg Identity.reply⟩
  · simp [validationAnswer_invalid]

/-- **A refusal is told with the text of its reason.** -/
theorem validationAnswer_eq_refusal_iff {text : String} :
    validationAnswer outcome = .error (.refusal text) ↔
      ∃ r, outcome = .ok (.invalid r) ∧ r.message = text := by
  rcases outcome with f | (i | r)
  · simp [validationAnswer_error, Ne.symm (refusal_ne_outage text)]
  · simp [validationAnswer_valid]
  · simp [validationAnswer_invalid, refusal_inj]

theorem validationAnswer_eq_outage_iff :
    validationAnswer outcome = .error .outage ↔ ∃ f, outcome = .error f := by
  rcases outcome with f | (i | r)
  · simp [validationAnswer_error]
  · simp [validationAnswer_valid]
  · simp [validationAnswer_invalid, refusal_ne_outage]

/-! ## Tokens that no header presents -/

theorem isHeaderChar_char (a : Base64.Alphabet) : ∀ n < 64, IsHeaderChar (a.char n) := by
  cases a <;> decide

theorem isHeaderChar_of_mem_encode {bytes : Bytes} {c : Char}
    (h : c ∈ Base64.encode .url bytes) : IsHeaderChar c := by
  obtain ⟨n, hn, rfl⟩ := Base64.mem_encode _ bytes c h
  exact isHeaderChar_char _ n hn

theorem presentable_of_decodeVerified {signer : Signer} {now : Int} {token : String} {c : Claims}
    (h : signer.decodeVerified now token = .ok c) : Presentable token := by
  obtain ⟨header, payload, signature, a, hg⟩ := Signer.genuine_of_decodeVerified h
  obtain ⟨_, _, hheader, -⟩ := hg.header
  obtain ⟨_, _, hpayload, -⟩ := hg.payload
  have hdot : IsHeaderChar '.' := by decide
  -- the token is its segments in base64, with dots between them
  rw [hg.segments]
  constructor
  · simp
  · intro c hc
    rw [String.toList_ofList, List.mem_append, List.mem_cons, List.mem_append, List.mem_cons] at hc
    rcases hc with hc | rfl | hc | rfl | hc
    · exact isHeaderChar_of_mem_encode (hheader ▸ hc)
    · exact hdot
    · exact isHeaderChar_of_mem_encode (hpayload ▸ hc)
    · exact hdot
    · exact isHeaderChar_of_mem_encode (hg.signature ▸ hc)

/-! ## The two surfaces -/

namespace Service

variable (service : Service) {o : Occasion} {hs : Headers} {token : String} {st : State}

theorem authenticate_of_token (h : bearerToken hs = .ok token) :
    (service.authenticate o hs st).1 = callerOf (service.verify o token st.revocations).1 := by
  rw [authenticate, h]
  rfl

theorem authenticate_of_fault {f : AuthFault} (h : bearerToken hs = .error f) :
    service.authenticate o hs st = (.error f, st) := by
  rw [authenticate, h]

theorem fst_validateToken (o : Occasion) (token : String) (st : State) :
    (service.validateToken o token st).1 =
      validationAnswer (service.verify o token st.revocations).1 := rfl

theorem revocations_validateToken (o : Occasion) (token : String) (st : State) :
    (service.validateToken o token st).2.revocations =
      (service.verify o token st.revocations).2 := rfl

theorem exists_verify_of_not_presentable (h : ¬ Presentable token) (o : Occasion)
    (store : RevocationStore) :
    ∃ r, service.verify o token store = (.ok (.invalid r), store) := by
  cases hd : service.signer.decodeVerified o.wall.seconds token with
  | error r => exact ⟨r, service.verify_of_reject hd store⟩
  | ok c => exact absurd (presentable_of_decodeVerified hd) h

/-- **The gate and the remote call give one verdict on every token.** Where a header presents the
token, an identity is let in exactly if it is told, a refusal is told by the text of its reason, and
an outage is one for both. Any other token both refuse, and the store is not asked. -/
theorem surfaces_agree (o : Occasion) (st : State)
    (hheader : hs.first? "authorization" = some (Utf8.encode (bearer token))) :
    (Presentable token →
      (∀ i, (service.authenticate o hs st).1 = .ok i ↔
        (service.validateToken o token st).1 = .ok i.reply) ∧
      (∀ r, (service.authenticate o hs st).1 = .error (.rejected r) →
        (service.validateToken o token st).1 = .error (.refusal r.message)) ∧
      (∀ r, (service.validateToken o token st).1 = .error (.refusal r.message) →
        (service.authenticate o hs st).1 = .error (.rejected r) ∨
          r ∈ [.invalidSignature, .expired] ∧ ∃ r' ∈ [.invalidSignature, .expired],
            (service.authenticate o hs st).1 = .error (.rejected r')) ∧
      ((service.authenticate o hs st).1 = .error .verificationUnavailable ↔
        (service.validateToken o token st).1 = .error .outage)) ∧
    (¬ Presentable token →
      (∃ r : RejectReason,
        (service.validateToken o token st).1 = .error (.refusal r.message)) ∧
      (service.validateToken o token st).2.revocations = st.revocations ∧
      ∃ f : AuthFault, service.authenticate o hs st = (.error f, st) ∧ f.status = 401) := by
  rw [fst_validateToken, revocations_validateToken]
  constructor
  · intro ht
    rw [service.authenticate_of_token (bearerToken_eq_ok_iff.2 ⟨hheader, ht⟩)]
    refine ⟨fun i => ?_, fun r h => ?_, fun r h => ?_, ?_⟩
    · rw [callerOf_eq_ok_iff, validationAnswer_eq_ok_iff]
    · exact validationAnswer_eq_refusal_iff.2 ⟨r, callerOf_eq_rejected_iff.1 h, rfl⟩
    · obtain ⟨r', hr', htext⟩ := validationAnswer_eq_refusal_iff.1 h
      have hcaller := callerOf_eq_rejected_iff.2 hr'
      rcases RejectReason.message_eq_iff.1 htext with rfl | ⟨rfl, rfl⟩ | ⟨rfl, rfl⟩
      · exact .inl hcaller
      · exact .inr ⟨by simp, _, by simp, hcaller⟩
      · exact .inr ⟨by simp, _, by simp, hcaller⟩
    · rw [callerOf_eq_unavailable_iff, validationAnswer_eq_outage_iff]
  · intro ht
    obtain ⟨r, hr⟩ := service.exists_verify_of_not_presentable ht o st.revocations
    rw [hr]
    exact ⟨⟨r, validationAnswer_invalid r⟩, rfl, _,
      service.authenticate_of_fault (bearerToken_eq_invalidHeader hheader ht), rfl⟩

/-- The headers with one token. -/
def headersWith (token : String) : Headers := [("Authorization", Utf8.encode (bearer token))]

theorem first?_headersWith (token : String) :
    (headersWith token).first? "authorization" = some (Utf8.encode (bearer token)) := by
  have hname : ("Authorization".toList.map Char.toLower == "authorization".toList) = true := by
    decide
  simp only [Headers.first?, headersWith, List.find?_cons, hname, Option.map_some]

/-- Both know the bearer of a new token, and both refuse a token with a letter beyond ASCII. -/
theorem surfaces_agree_on_issued_token :
    let service : Service := .ofSettings { secret := "secret" } .argon2id ⟨0, 0⟩
    let alice : Identity := ⟨Uuid.random 1, "alice", .user⟩
    let issued := service.signer.issue alice (Uuid.random 2) ⟨1700000000, 0⟩
    let o : Occasion := ⟨⟨1700000001, 0⟩, 0, Uuid.random 3, []⟩
    (service.validateToken o issued.token {}).1 = .ok alice.reply ∧
      (service.authenticate o (headersWith issued.token) {}).1 = .ok alice ∧
      ∃ f : AuthFault,
        service.authenticate o (headersWith "é") {} = (.error f, {}) ∧ f.status = 401 := by
  intro service alice issued o
  have hc : issued.claims.InRange := Signer.inRange_newClaims (by decide) (by decide)
  have hd : service.signer.decodeVerified o.wall.seconds issued.token = .ok issued.claims :=
    (Signer.decodeVerified_issue (by decide) hc _).trans (if_pos (by decide))
  have hrpc : (service.validateToken o issued.token {}).1 = .ok alice.reply := by
    rw [fst_validateToken, service.verify_of_ok hd]
    rfl
  refine ⟨hrpc, ?_, ?_⟩
  · exact (((service.surfaces_agree o {} (first?_headersWith issued.token)).1
      (presentable_of_decodeVerified hd)).1 alice).2 hrpc
  · have hnot : ¬ Presentable "é" := fun h => absurd (h.2 'é' (by decide)) (by decide)
    exact ((service.surfaces_agree o {} (first?_headersWith "é")).2 hnot).2.2

/-- The remote call tells the end of a token's time with the text of a wrong signature, and the gate
does not. -/
theorem refusal_text_without_reason :
    let service : Service := .ofSettings { secret := "secret" } .argon2id ⟨0, 0⟩
    let c : Claims := ⟨Uuid.random 1, "alice", .user, "jti-1", "account-service", "account-clients",
      1700000000, 1700000000, 1700003600⟩
    let token := service.signer.sign c
    let o : Occasion := ⟨⟨1700003601, 0⟩, 0, Uuid.random 3, []⟩
    Presentable token ∧
      (service.authenticate o (headersWith token) {}).1 = .error (.rejected .expired) ∧
      ¬ ((service.authenticate o (headersWith token) {}).1 = .error (.rejected .invalidSignature) ↔
        (service.validateToken o token {}).1 =
          .error (.refusal RejectReason.invalidSignature.message)) := by
  intro service c token o
  have hc : c.InRange := ⟨by decide, by decide, by decide⟩
  have hvalid : service.signer.decodeVerified 1700000000 token = .ok c :=
    (Signer.decodeVerified_sign _ hc _).trans rfl
  have hlate : service.signer.decodeVerified o.wall.seconds token = .error .expired :=
    (Signer.decodeVerified_sign _ hc _).trans rfl
  -- from here on only these facts matter, and not the texts
  clear_value token service
  have ht : Presentable token := presentable_of_decodeVerified hvalid
  have hexpired : service.verify o token {} = (.ok (.invalid .expired), {}) :=
    service.verify_of_reject hlate {}
  have hgate : (service.authenticate o (headersWith token) {}).1 = .error (.rejected .expired) := by
    rw [service.authenticate_of_token (bearerToken_eq_ok_iff.2 ⟨first?_headersWith token, ht⟩)]
    exact callerOf_eq_rejected_iff.2 (congrArg Prod.fst hexpired)
  have hrpc : (service.validateToken o token {}).1 =
      .error (.refusal RejectReason.invalidSignature.message) := by
    rw [fst_validateToken]
    exact validationAnswer_eq_refusal_iff.2 ⟨.expired, congrArg Prod.fst hexpired, rfl⟩
  refine ⟨ht, hgate, fun h => ?_⟩
  have := hgate.symm.trans (h.2 hrpc)
  cases this

end Service

end Accounts
