import Accounts.Proofs.Revocation.Finality
import Accounts.Proofs.Service.Calls
import Accounts.Proofs.Token.Payload

/-!
# Who is let in can log out

The gate reads a token strictly, the logout reads the same header leniently. Whatever the one accepts
the other revokes, and it is that very token.

* `Occasion.SameSecond`: a later occasion in the same second;
* **`Service.logoutTarget_of_decodeVerified`**: what a logout revokes of a token that passes the local
  checks, and for how long;
* `Service.logout_of_target`: what a logout does to a store that answers;
* `Service.serve_logout`, `serve_logout_of_decodeVerified`: the request to log out, for any header
  and for a token that passes the local checks;
* **`Service.logout_revokes_accepted`**: a bearer who was let in logs out, and is not let in again.
-/

namespace Accounts

open Json

/-- A later occasion in the same second of the wall clock. -/
structure Occasion.SameSecond (o o' : Occasion) : Prop where
  wall : o'.wall.seconds = o.wall.seconds
  forward : o.steady ≤ o'.steady
  short : o'.steady < o.steady + nanosPerSecond

theorem Occasion.Together.sameSecond {o o' : Occasion} (h : o.Together o')
    (hwall : o'.wall.seconds = o.wall.seconds) : o.SameSecond o' := by
  obtain ⟨hn, hn', hforward, halike⟩ := h
  have hshort : o'.steady < o.steady + nanosPerSecond := by
    rw [hwall] at halike
    omega
  exact ⟨hwall, hforward, hshort⟩

namespace Service

variable {service : Service} {o : Occasion} {st : State} {token : String} {c : Claims}

/-- **Of a token that passes the local checks a logout revokes the identifier**, to the second in
which it ends. -/
theorem logoutTarget_of_decodeVerified
    (hd : service.signer.decodeVerified o.wall.seconds token = .ok c)
    (hleft : o.wall.seconds < c.exp) (hlife : c.exp ≤ o.wall.seconds + service.signer.lifetime)
    (hrange : service.signer.lifetime ≤ greatestSeconds) :
    service.logoutTarget o.wall.seconds (bearer token) =
      .ok (c.jti, (c.exp - o.wall.seconds).toNat) := by
  have hjti : c.jti ≠ "" := by
    obtain ⟨h, p, s, a, hg⟩ := Signer.genuine_of_decodeVerified hd
    exact hg.jti
  have htime : service.timeLeft o.wall.seconds c.exp = .ok (c.exp - o.wall.seconds).toNat :=
    timeLeft_eq_ok_iff.2 ⟨hleft, by omega, by omega⟩
  rw [logoutTarget_bearer (decodePayload?_of_decodeVerified hd) hjti, htime]
  rfl

theorem logout_of_target {h id : String} {seconds : Nat} (hf : st.revocations.fault = none)
    (ht : service.logoutTarget o.wall.seconds h = .ok (id, seconds)) (hpos : 0 < seconds) :
    service.logout o h st = (.ok (), { st with revocations := { st.revocations with
      table := st.revocations.table.put o.steady id (nanosPerSecond * seconds)
      calls := st.revocations.calls ++ [StoreCall.put id (nanosPerSecond * seconds)] } }.count
        (.revocation .revoked)) := by
  have hnanos : 0 < nanosPerSecond * seconds := Nat.mul_pos (by decide) hpos
  rw [logout, ht]
  simp only [State.revoke]
  rw [if_neg (by omega), Int.toNat_natCast]
  simp [RevocationStore.put, RevocationStore.called, hf, Except.mapError]

/-! ## The request -/

/-- The response of a logout. -/
def logoutResponse : Except LogoutFault Unit → Response
  | .ok _ => done "Logout successful"
  | .error f => f.respond

theorem serve_logout (service : Service) (o : Occasion) (st : State) {r : Request} {value : Bytes}
    {text : String} (hpath : Endpoint.ofPath? r.path = some .logout)
    (hmethod : r.method = "POST") (hvalue : r.headers.first? "authorization" = some value)
    (htext : headerText? value = some text) :
    let counted := st.count (.request r.method (pathLabel r.path))
    (service.serve o r st).1 = logoutResponse (service.logout o text counted).1 ∧
      (service.serve o r st).2.users = st.users ∧
      (service.serve o r st).2.revocations = (service.logout o text counted).2.revocations := by
  intro counted
  have hperform : service.performLogout o r counted =
      (logoutResponse (service.logout o text counted).1, (service.logout o text counted).2) := by
    rw [performLogout, hvalue]
    simp only [htext]
    rcases service.logout o text counted with ⟨f | u, after⟩ <;> rfl
  have haccepts : Endpoint.logout.accepts r.method = true := by
    rw [hmethod]
    rfl
  have henter : service.enter o r .logout counted = service.performLogout o r counted := by
    rw [enter_of_caller (show _ = Except.ok none from rfl), if_pos haccepts]
    rfl
  have hdress : ∀ response, dress r .logout response = response := by
    intro response
    have hhead : r.method ≠ "HEAD" := by
      rw [hmethod]
      decide
    simp only [dress, if_pos haccepts, if_neg hhead]
  have hroute : service.route o r counted = service.performLogout o r counted := by
    rw [route_of_endpoint hpath, henter, hdress]
  rw [fst_serve, users_serve, revocations_serve, hroute]
  refine ⟨congrArg Prod.fst hperform, users_performLogout r counted, ?_⟩
  rw [hperform]

/-- **A token that passes the local checks is logged out**: its identifier is put for the time that
it has left. -/
theorem serve_logout_of_decodeVerified {r : Request}
    (hpath : Endpoint.ofPath? r.path = some .logout) (hmethod : r.method = "POST")
    (ht : bearerToken r.headers = .ok token)
    (hd : service.signer.decodeVerified o.wall.seconds token = .ok c)
    (hleft : o.wall.seconds < c.exp) (hlife : c.exp ≤ o.wall.seconds + service.signer.lifetime)
    (hrange : service.signer.lifetime ≤ greatestSeconds) (hf : st.revocations.fault = none) :
    let ttl := nanosPerSecond * (c.exp - o.wall.seconds).toNat
    (service.serve o r st).1 = done "Logout successful" ∧
      (service.serve o r st).2.revocations = { st.revocations with
        table := st.revocations.table.put o.steady c.jti ttl
        calls := st.revocations.calls ++ [.put c.jti ttl] } := by
  intro ttl
  obtain ⟨hheader, htoken⟩ := bearerToken_eq_ok_iff.1 ht
  have htext := headerText?_encode (forall_mem_bearer.2 htoken.2)
  obtain ⟨hresponse, -, hrevocations⟩ := serve_logout service o st hpath hmethod hheader htext
  have hcounted : (st.count (.request r.method (pathLabel r.path))).revocations.fault = none := hf
  have htarget := logoutTarget_of_decodeVerified hd hleft hlife hrange
  rw [logout_of_target hcounted htarget (by omega)] at hresponse hrevocations
  exact ⟨hresponse, hrevocations⟩

/-! ## Let in, logged out, let in no more -/

theorem exists_of_authenticate {hs : Headers} {i : Identity}
    (h : (service.authenticate o hs st).1 = .ok i) :
    ∃ t c, bearerToken hs = .ok t ∧ service.signer.decodeVerified o.wall.seconds t = .ok c ∧
      i = c.identity ∧ st.revocations.fault = none := by
  obtain ⟨t, hheader, hv⟩ := authenticate_eq_ok_iff.1 h
  obtain ⟨c, hd, rfl⟩ := decodeVerified_of_verify hv
  rw [service.verify_of_ok hd] at hv
  obtain ⟨hanswer, -⟩ := judge_eq_valid hv
  refine ⟨t, c, bearerToken_eq_ok_iff.2 ⟨hheader, presentable_of_decodeVerified hd⟩, hd, rfl, ?_⟩
  simp only [RevocationStore.contains] at hanswer
  split at hanswer
  · cases hanswer
  · next hf => exact hf

theorem authenticate_of_holds {hs : Headers} (ht : bearerToken hs = .ok token)
    (hd : service.signer.decodeVerified o.wall.seconds token = .ok c)
    (hf : st.revocations.fault = none)
    (hholds : st.revocations.table.holds o.steady c.jti = true) :
    (service.authenticate o hs st).1 = .error (.rejected .revoked) := by
  rw [service.authenticate_of_token ht, service.verify_of_ok hd, RevocationStore.contains, hf]
  simp only [hholds]
  rfl

/-- **Whom the gate lets in, the logout lets out.** The header that it accepts presents a token; of
its claims the logout reads the identifier and the end as the checks do. If the token has time left,
and no more than a lifetime, then the request to log out with the same headers succeeds within the
same second: it makes one put, of this identifier for the time left, and the next request in this
second is refused as one with a revoked token. -/
theorem logout_revokes_accepted (s : AuthSettings) (scheme : PasswordScheme)
    (startedAt : Timestamp) {hs : Headers} {i : Identity} :
    let service := ofSettings s scheme startedAt
    (service.authenticate o hs st).1 = .ok i →
    ∃ t c, bearerToken hs = .ok t ∧ service.signer.decodeVerified o.wall.seconds t = .ok c ∧
      i = c.identity ∧ decodePayload? t = some ⟨some c.jti, c.exp⟩ ∧
      (o.wall.seconds < c.exp → c.exp ≤ o.wall.seconds + service.signer.lifetime →
        ∀ r o₁ o₂, Endpoint.ofPath? r.path = some .logout → r.method = "POST" → r.headers = hs →
          o.SameSecond o₁ → o₁.SameSecond o₂ →
          let gated := (service.authenticate o hs st).2
          let answer := service.serve o₁ r gated
          answer.1 = done "Logout successful" ∧ answer.1.status = 200 ∧
            answer.2.revocations.calls = gated.revocations.calls ++
              [.put c.jti (nanosPerSecond * (c.exp - o.wall.seconds).toNat)] ∧
            (service.authenticate o₂ hs answer.2).1 = .error (.rejected .revoked)) := by
  intro service haccepted
  obtain ⟨t, c, ht, hd, hi, hf⟩ := exists_of_authenticate haccepted
  refine ⟨t, c, ht, hd, hi, decodePayload?_of_decodeVerified hd, ?_⟩
  intro hleft hlife r o₁ o₂ hpath hmethod hheaders h₁ h₂
  dsimp only
  have hgated : (service.authenticate o hs st).2.revocations.fault = none := by
    have hsame : st.SameStores (service.authenticate o hs st).2 := sameStores_authenticate
    obtain ⟨calls, hcalls⟩ := hsame.revocations
    rw [hcalls]
    exact hf
  have hrange : service.signer.lifetime ≤ greatestSeconds := by
    have hbound := (Signer.lifetime_bounds s).2
    have hgreatest : greatestSeconds = 9223372036854775 := by decide
    have hsigner : service.signer = .ofSettings s := rfl
    rw [hgreatest, hsigner]
    omega
  -- the logout reads the same claims, at the same second
  rw [← h₁.wall] at hd hleft hlife ⊢
  obtain ⟨hresponse, hrevocations⟩ := serve_logout_of_decodeVerified hpath hmethod (hheaders ▸ ht)
    hd hleft hlife hrange hgated
  generalize service.serve o₁ r (service.authenticate o hs st).2 = answer at hresponse hrevocations ⊢
  have hfault : answer.2.revocations.fault = none := by
    rw [hrevocations]
    exact hgated
  have hholds : answer.2.revocations.table.holds o₂.steady c.jti = true := by
    rw [hrevocations, RevocationTable.holds_put_self]
    have hshort := h₂.short
    have hsecond : nanosPerSecond * 1 ≤ nanosPerSecond * (c.exp - o₁.wall.seconds).toNat :=
      Nat.mul_le_mul_left _ (by omega)
    omega
  refine ⟨hresponse, congrArg Response.status hresponse,
    congrArg RevocationStore.calls hrevocations, ?_⟩
  exact authenticate_of_holds ht (h₂.wall ▸ hd) hfault hholds

/-- So it is whatever the order of the payload, and though another member, that none knows, holds an
identifier and an end of its own. -/
theorem logout_revokes_accepted_unordered :
    let settings : AuthSettings := { secret := "secret", lifetimeHours := 1 }
    let service := ofSettings settings .argon2id ⟨0, 0⟩
    let payload : Json := .object [("exp", .integer 1700003600),
      ("more", .object [("jti", .string "other"), ("exp", .array [.integer 1])]),
      ("jti", .string "mine"), ("aud", .string "account-clients"),
      ("role", .object [("admin", .null)]), ("username", .string "alice"),
      ("iss", .string "account-service"), ("sub", .string (Uuid.random 1).text),
      ("nbf", .integer 1700000000), ("iat", .integer 1700000000)]
    let written := Base64.encode .url (Utf8.encode payload.text)
    let token := String.ofList (segments (Header.text .hs512) written (Algorithm.hs512.sign
      service.signer.key (Signer.bytesOf (Header.text .hs512 ++ '.' :: written))))
    let hs := headersWith token
    let r : Request := { method := "POST", target := "/api/v1/accounts/logout", headers := hs }
    let o : Occasion := ⟨⟨1700000001, 0⟩, 0, Uuid.random 3, []⟩
    let o₁ : Occasion := ⟨⟨1700000001, 1000000⟩, 1000000, Uuid.random 3, []⟩
    let o₂ : Occasion := ⟨⟨1700000001, 2000000⟩, 2000000, Uuid.random 3, []⟩
    (service.authenticate o hs {}).1 = .ok ⟨Uuid.random 1, "alice", .admin⟩ ∧
      (service.serve o₁ r (service.authenticate o hs {}).2).1.status = 200 ∧
      (service.serve o₁ r (service.authenticate o hs {}).2).2.revocations.calls =
        (service.authenticate o hs {}).2.revocations.calls ++ [.put "mine" (nanosPerSecond * 3599)] ∧
      (service.authenticate o₂ hs (service.serve o₁ r (service.authenticate o hs {}).2).2).1 =
        .error (.rejected .revoked) := by
  intro settings service payload written token hs r o o₁ o₂
  let c : Claims := ⟨Uuid.random 1, "alice", .admin, "mine", "account-service", "account-clients",
    1700000000, 1700000000, 1700003600⟩
  have hexact : IsExact payload := by
    simp [payload, IsExact, HasExact, AreExact, Decimal.integerBound]
  have hdoc : Header.document? written = some ⟨payload.node, true⟩ :=
    Header.document?_encode hexact
  have hclaims : Signer.readClaims? written = some c := by
    rw [Signer.readClaims?, hdoc]
    rfl
  have hd : service.signer.decodeVerified o.wall.seconds token = .ok c :=
    (Signer.decodeVerified_segments service.signer .hs512 (Base64.dot_not_mem_encode _ _) hclaims
      1700000001).trans rfl
  -- from here on only what the token means matters, and not its text
  clear_value token written
  have haccepted : (service.authenticate o hs {}).1 = .ok c.identity :=
    authenticate_eq_ok_iff.2 ⟨token, first?_headersWith token, by rw [service.verify_of_ok hd]; rfl⟩
  have h₁ : o.Together o₁ := ⟨by decide, by decide, by decide, by decide⟩
  have h₂ : o₁.Together o₂ := ⟨by decide, by decide, by decide, by decide⟩
  obtain ⟨t, c', ht, hd', -, -, hout⟩ := logout_revokes_accepted settings .argon2id ⟨0, 0⟩ haccepted
  have hpresented : bearerToken hs = .ok token :=
    bearerToken_eq_ok_iff.2 ⟨first?_headersWith token, presentable_of_decodeVerified hd⟩
  obtain rfl : t = token := Except.ok.inj (ht.symm.trans hpresented)
  obtain rfl : c' = c := Except.ok.inj (hd'.symm.trans hd)
  have hpath : Endpoint.ofPath? (targetPath "/api/v1/accounts/logout") = some .logout := by
    decide +kernel
  obtain ⟨-, hstatus, hcalls, hrevoked⟩ := hout (by decide) (by decide) r o₁ o₂ hpath rfl rfl
    (h₁.sameSecond rfl) (h₂.sameSecond rfl)
  dsimp only [service]
  exact ⟨haccepted, hstatus, hcalls, hrevoked⟩

end Service

end Accounts
