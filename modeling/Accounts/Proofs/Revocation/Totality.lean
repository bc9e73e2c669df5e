import Accounts.Proofs.Gate.Bearer
import Accounts.Proofs.Revocation.Logout
import Accounts.Proofs.Token.Unsigned

/-!
# A logout is total and bounded

Whoever logs out chooses the text of the header, and with it the end that the time left is counted
to. Every text is answered, in a fixed order of reasons, and no end makes the count go wrong.

* `difference?`, `Service.timeLeftInWords`: the time left, counted in words of 64 bits;
* **`Service.timeLeftInWords_eq`**: words give what exact integers give;
* `Service.Decides`: what is decided on a text at a second, one case for each answer;
* **`Service.decides_iff`**: exactly one is, and it is the one that the service takes;
* **`Service.logout_total_and_bounded`**: the whole of it.
-/

namespace Accounts

open Json Record

/-! ## The time left in words -/

/-- The difference of two words of 64 bits, or `none` if it is none. -/
def difference? (a b : Int64) : Option Int64 :=
  if a.toBitVec.ssubOverflow b.toBitVec then none else some (a - b)

theorem difference?_eq_some_iff {a b d : Int64} :
    difference? a b = some d ↔ d.toInt = a.toInt - b.toInt := by
  unfold difference?
  constructor
  · intro h
    split at h
    · cases h
    · next hover =>
      cases h
      exact BitVec.toInt_sub_of_not_ssubOverflow hover
  · intro h
    have hover : ¬ a.toBitVec.ssubOverflow b.toBitVec = true := by
      have hlt := d.toInt_lt
      have hle := d.le_toInt
      simp only [BitVec.ssubOverflow, Int64.toInt_toBitVec, Bool.or_eq_true, decide_eq_true_eq]
      omega
    rw [if_neg hover]
    refine congrArg some (Int64.toInt_inj.1 ?_)
    rw [h]
    exact BitVec.toInt_sub_of_not_ssubOverflow hover

theorem difference?_eq_none_iff {a b : Int64} :
    difference? a b = none ↔
      a.toInt - b.toInt < -0x8000000000000000 ∨ 0x8000000000000000 ≤ a.toInt - b.toInt := by
  unfold difference?
  simp only [BitVec.ssubOverflow, Int64.toInt_toBitVec]
  simp
  omega

namespace Service

variable (service : Service)

/-- The seconds from now to the end of a token, at most a lifetime, counted in words. A difference
that is no word lies before now if the end is negative, and is too long otherwise. -/
def timeLeftInWords (now exp : Int64) : Except LogoutFault Int64 :=
  match difference? exp now with
  | none => .error (if exp < 0 then .expired else .malformed)
  | some left =>
    if left ≤ 0 then .error .expired
    else if Int64.maxValue / 1000 < left then .error .malformed
    else .ok (min left (.ofNat service.signer.lifetime))

theorem greatestSeconds_eq : greatestSeconds = 0x7FFFFFFFFFFFFFFF / 1000 := by decide

/-- **Words give what exact integers give**, for every two of them. -/
theorem timeLeftInWords_eq (hlifetime : service.signer.lifetime < 0x8000000000000000)
    (now exp : Int64) :
    (service.timeLeftInWords now exp).map (fun left => left.toInt.toNat) =
      service.timeLeft now.toInt exp.toInt := by
  have hnow := now.toInt_lt
  have hnow' := now.le_toInt
  have hzero : (0 : Int64).toInt = 0 := rfl
  have hgreatest : (Int64.maxValue / 1000).toInt = greatestSeconds := by decide
  have hgreatest' := greatestSeconds_eq
  rw [timeLeftInWords, timeLeft]
  cases hd : difference? exp now with
  | none =>
    rw [difference?_eq_none_iff] at hd
    simp only [Except.map, Int64.lt_iff_toInt_lt, hzero]
    split
    · rw [if_pos (by omega)]
    · rw [if_neg (by omega), if_pos (by omega)]
  | some left =>
    have hleft := difference?_eq_some_iff.1 hd
    simp only [Int64.le_iff_toInt_le, Int64.lt_iff_toInt_lt, hzero, hgreatest, ← hleft]
    split
    · rfl
    split
    · rfl
    have hlife : (Int64.ofNat service.signer.lifetime).toInt = service.signer.lifetime :=
      Int64.toInt_ofNat_of_lt hlifetime
    refine congrArg Except.ok ?_
    rw [show min left (Int64.ofNat service.signer.lifetime) =
      if left ≤ Int64.ofNat service.signer.lifetime then left
      else Int64.ofNat service.signer.lifetime from rfl]
    simp only [Int64.le_iff_toInt_le, hlife]
    split <;> omega

/-! ## What is decided -/

/-- What is decided on a text at a second: why nothing is revoked, or which identifier is revoked for
how many seconds. Only an end that counts is looked at, and only when there is an identifier. -/
inductive Decides (now : Int) (text : String) : Except LogoutFault (String × Nat) → Prop
  | invalidFormat (h : ∀ token, text ≠ bearer token) : Decides now text (.error .invalidFormat)
  | malformed {token : String} (ht : text = bearer token) (h : ∀ c, ¬ Carries token c) :
      Decides now text (.error .malformed)
  | missingTokenId {token : String} {c : RevocationClaims} (ht : text = bearer token)
      (hc : Carries token c) (h : c.jti = none ∨ c.jti = some "") :
      Decides now text (.error .missingTokenId)
  | expired {token id : String} {exp : Int} (ht : text = bearer token)
      (hc : Carries token ⟨some id, exp⟩) (hid : id ≠ "") (h : exp ≤ now) :
      Decides now text (.error .expired)
  | beyond {token id : String} {exp : Int} (ht : text = bearer token)
      (hc : Carries token ⟨some id, exp⟩) (hid : id ≠ "")
      (h : 0x7FFFFFFFFFFFFFFF / 1000 < exp - now) : Decides now text (.error .malformed)
  | revoke {token id : String} {exp : Int} (ht : text = bearer token)
      (hc : Carries token ⟨some id, exp⟩) (hid : id ≠ "") (hleft : now < exp)
      (h : exp - now ≤ 0x7FFFFFFFFFFFFFFF / 1000) :
      Decides now text (.ok (id, min (exp - now).toNat service.signer.lifetime))

variable {service} {now : Int} {text : String}

theorem logoutTarget_of_not_bearer (h : ∀ token, text ≠ bearer token) :
    service.logoutTarget now text = .error .invalidFormat := by
  have hnone : afterBearer? text = none :=
    Option.eq_none_iff_forall_ne_some.2 fun token ht => h token (afterBearer?_eq_some_iff.1 ht)
  rw [logoutTarget, hnone]

theorem logoutTarget_of_not_carries {token : String} (h : ∀ c, ¬ Carries token c) :
    service.logoutTarget now (bearer token) = .error .malformed := by
  have hnone : decodePayload? token = none :=
    Option.eq_none_iff_forall_ne_some.2 fun c hc => h c (decodePayload?_eq_some_iff.1 hc)
  rw [logoutTarget, afterBearer?_bearer]
  simp only [hnone]

theorem logoutTarget_of_missing {token : String} {c : RevocationClaims} (hc : Carries token c)
    (h : c.jti = none ∨ c.jti = some "") :
    service.logoutTarget now (bearer token) = .error .missingTokenId := by
  have hnone : c.jti.filter (· ≠ "") = none := by
    obtain h | h := h <;> rw [h] <;> rfl
  rw [logoutTarget, afterBearer?_bearer]
  simp only [decodePayload?_eq_some_iff.2 hc, hnone]

theorem timeLeft_of_le {exp : Int} (h : exp ≤ now) : service.timeLeft now exp = .error .expired := by
  unfold timeLeft
  rw [if_pos (by omega)]

theorem timeLeft_of_beyond {exp : Int} (h : greatestSeconds < exp - now) :
    service.timeLeft now exp = .error .malformed := by
  have hpos : 0 < greatestSeconds := by decide
  unfold timeLeft
  rw [if_neg (by omega), if_pos h]

theorem Decides.eq_logoutTarget {x : Except LogoutFault (String × Nat)}
    (h : service.Decides now text x) : service.logoutTarget now text = x := by
  cases h with
  | invalidFormat h => exact logoutTarget_of_not_bearer h
  | malformed ht h => exact ht ▸ logoutTarget_of_not_carries h
  | missingTokenId ht hc h => exact ht ▸ logoutTarget_of_missing hc h
  | expired ht hc hid h =>
    rw [ht, logoutTarget_bearer (decodePayload?_eq_some_iff.2 hc) hid, timeLeft_of_le h]
    rfl
  | beyond ht hc hid h =>
    rw [ht, logoutTarget_bearer (decodePayload?_eq_some_iff.2 hc) hid, timeLeft_of_beyond h]
    rfl
  | revoke ht hc hid hleft h =>
    rw [ht, logoutTarget_bearer (decodePayload?_eq_some_iff.2 hc) hid,
      timeLeft_eq_ok_iff.2 ⟨hleft, h, rfl⟩]
    rfl

variable (service now text) in
theorem exists_decides : ∃ x, service.Decides now text x := by
  by_cases hbearer : ∃ token, text = bearer token
  case neg => exact ⟨_, .invalidFormat fun token ht => hbearer ⟨token, ht⟩⟩
  obtain ⟨token, ht⟩ := hbearer
  by_cases hcarries : ∃ c, Carries token c
  case neg => exact ⟨_, .malformed ht fun c hc => hcarries ⟨c, hc⟩⟩
  obtain ⟨⟨jti, exp⟩, hc⟩ := hcarries
  by_cases hmissing : jti = none ∨ jti = some ""
  case pos => exact ⟨_, .missingTokenId ht hc hmissing⟩
  cases jti with
  | none => exact absurd (.inl rfl) hmissing
  | some id =>
    have hid : id ≠ "" := fun e => hmissing (.inr (congrArg some e))
    by_cases hleft : exp ≤ now
    case pos => exact ⟨_, .expired ht hc hid hleft⟩
    by_cases hlong : 0x7FFFFFFFFFFFFFFF / 1000 < exp - now
    case pos => exact ⟨_, .beyond ht hc hid hlong⟩
    exact ⟨_, .revoke ht hc hid (by omega) (by omega)⟩

/-- **Exactly one is decided, and it is the one that the service takes.** -/
theorem decides_iff {x : Except LogoutFault (String × Nat)} :
    service.Decides now text x ↔ x = service.logoutTarget now text := by
  obtain ⟨y, hy⟩ := service.exists_decides now text
  rw [hy.eq_logoutTarget]
  exact ⟨fun hx => hx.eq_logoutTarget.symm.trans hy.eq_logoutTarget, fun h => h ▸ hy⟩

/-! ## The whole -/

theorem logout_eq_of_target {o : Occasion} {id : String} {seconds : Nat}
    (ht : service.logoutTarget o.wall.seconds text = .ok (id, seconds)) (hpos : 0 < seconds)
    (st : State) :
    let put := st.revocations.put o.steady id (nanosPerSecond * seconds)
    (service.logout o text st).1 = put.1.mapError .store ∧
      (service.logout o text st).2.revocations = put.2 ∧
      (service.logout o text st).2.users = st.users := by
  have hnanos : 0 < nanosPerSecond * seconds := Nat.mul_pos (by decide) hpos
  intro put
  rw [logout, ht]
  simp only [State.revoke]
  rw [if_neg (by omega), Int.toNat_natCast]
  exact ⟨rfl, rfl, rfl⟩

/-- **A logout is total and bounded.** With every lifetime that the settings give, whatever the text,
the clock and the state: the time left, counted in words of 64 bits, is the exact one. Exactly one of
six things is decided on the text, each by its condition. If it is a refusal, it is the answer, and
nothing has changed, so no store was called. Otherwise there is one put, of the identifier in the
text, for whole seconds: at least one, and at most a lifetime. The answer says whether it succeeded. -/
theorem logout_total_and_bounded (s : AuthSettings) (scheme : PasswordScheme)
    (startedAt : Timestamp) (o : Occasion) (st : State) (text : String) :
    let service := ofSettings s scheme startedAt
    let answer := service.logout o text st
    (∀ now exp : Int64, (service.timeLeftInWords now exp).map (fun left => left.toInt.toNat) =
      service.timeLeft now.toInt exp.toInt) ∧
    ∃ decision, (∀ x, service.Decides o.wall.seconds text x ↔ x = decision) ∧
      match decision with
      | .error f => answer = (.error f, st)
      | .ok (id, seconds) =>
        let put := st.revocations.put o.steady id (nanosPerSecond * seconds)
        1 ≤ seconds ∧ seconds ≤ service.signer.lifetime ∧ answer.1 = put.1.mapError .store ∧
          answer.2.revocations = put.2 ∧ answer.2.users = st.users ∧
          answer.2.revocations.calls =
            st.revocations.calls ++ [.put id (nanosPerSecond * seconds)] := by
  intro service answer
  have hbounds : 3600 ≤ service.signer.lifetime ∧ service.signer.lifetime ≤ 31536000 :=
    Signer.lifetime_bounds s
  refine ⟨service.timeLeftInWords_eq (by omega), _, fun x => decides_iff, ?_⟩
  cases ht : service.logoutTarget o.wall.seconds text with
  | error f =>
    show service.logout o text st = _
    rw [logout, ht]
  | ok target =>
    obtain ⟨id, seconds⟩ := target
    obtain ⟨hpos, hle⟩ := bounds_of_logoutTarget (by omega) ht
    obtain ⟨hanswer, hput, husers⟩ := logout_eq_of_target ht hpos st
    exact ⟨hpos, hle, hanswer, hput, husers, hput ▸ calls_put _ _ _ _⟩

theorem carries_of_object {exp : Int} (hl : -0x8000000000000000 ≤ exp)
    (hu : exp < 0x8000000000000000) :
    let payload : Json := .object [("exp", .integer exp),
      ("more", .object [("jti", .string "other")]), ("jti", .string "mine")]
    Carries (String.ofList (segments ['x'] (Base64.encode .url (Utf8.encode payload.text)) []))
      ⟨some "mine", exp⟩ := by
  intro payload
  have hexact : IsExact payload := ⟨⟨hl, hu⟩, ⟨trivial, trivial⟩, trivial, trivial⟩
  refine ⟨['x'], Utf8.encode payload.text, [], payload.node, String.toList_ofList, by decide,
    by decide, Document.ofBytes_encode_text hexact, ?_⟩
  have hsays := @RevocationClaims.Says.object [("exp", .number (Numeral.ofInt exp)),
    ("more", .object [(some "jti", .string (some "other"))] true),
    ("jti", .string (some "mine"))] ⟨some "mine", exp⟩ (.text "mine")
    (.integer (Numeral.isWord_ofInt hl hu)) (by simp [Node.isWhole])
  exact hsays

/-- At the bounds: the longest time that counts is cut to a lifetime, and a second more is refused.
The greatest end is too far and the least one is over, though their distances from now are no
words. -/
theorem logout_total_and_bounded_at_the_bounds :
    let settings : AuthSettings := { secret := "secret", lifetimeHours := 1 }
    let service := ofSettings settings .argon2id ⟨0, 0⟩
    let payload (exp : Int) : Json := .object [("exp", .integer exp),
      ("more", .object [("jti", .string "other")]), ("jti", .string "mine")]
    let header (exp : Int) : String := bearer (String.ofList
      (segments ['x'] (Base64.encode .url (Utf8.encode (payload exp).text)) []))
    let o (now : Int) : Occasion := ⟨⟨now, 0⟩, 5, Uuid.random 3, []⟩
    (service.logout (o 7) (header (7 + 0x7FFFFFFFFFFFFFFF / 1000)) {}).1 = .ok () ∧
      (service.logout (o 7) (header (7 + 0x7FFFFFFFFFFFFFFF / 1000)) {}).2.revocations.calls =
        [.put "mine" (nanosPerSecond * 3600)] ∧
      service.logout (o 7) (header (8 + 0x7FFFFFFFFFFFFFFF / 1000)) {} = (.error .malformed, {}) ∧
      service.logout (o (-1)) (header 0x7FFFFFFFFFFFFFFF) {} = (.error .malformed, {}) ∧
      service.logout (o 1) (header (-0x8000000000000000)) {} = (.error .expired, {}) := by
  intro settings service payload header o
  have hcarries (exp : Int) (hl : -0x8000000000000000 ≤ exp) (hu : exp < 0x8000000000000000) :
      ∃ token, header exp = bearer token ∧ Carries token ⟨some "mine", exp⟩ :=
    ⟨_, rfl, carries_of_object hl hu⟩
  -- from here on only what the headers mean matters, and not their text
  clear_value header
  have hrefused {now : Int} {text : String} {f : LogoutFault}
      (h : service.Decides now text (.error f)) :
      service.logout (o now) text {} = (.error f, {}) := by
    obtain ⟨-, decision, hiff, hanswer⟩ :=
      logout_total_and_bounded settings .argon2id ⟨0, 0⟩ (o now) {} text
    rw [← (hiff _).1 h] at hanswer
    exact hanswer
  obtain ⟨-, decision, hiff, hanswer⟩ := logout_total_and_bounded settings .argon2id ⟨0, 0⟩ (o 7) {}
    (header (7 + 0x7FFFFFFFFFFFFFFF / 1000))
  obtain ⟨longest, hlongest, hl⟩ := hcarries (7 + 0x7FFFFFFFFFFFFFFF / 1000) (by decide) (by decide)
  obtain ⟨longer, hlonger, hl'⟩ := hcarries (8 + 0x7FFFFFFFFFFFFFFF / 1000) (by decide) (by decide)
  obtain ⟨greatest, hgreatest, hg⟩ := hcarries 0x7FFFFFFFFFFFFFFF (by decide) (by decide)
  obtain ⟨least, hleast, hm⟩ := hcarries (-0x8000000000000000) (by decide) (by decide)
  rw [← (hiff _).1 (.revoke hlongest hl (by decide) (by decide) (by decide))] at hanswer
  obtain ⟨-, -, hok, -, -, hcalls⟩ := hanswer
  exact ⟨hok, hcalls, hrefused (.beyond hlonger hl' (by decide) (by decide)),
    hrefused (.beyond hgreatest hg (by decide) (by decide)),
    hrefused (.expired hleast hm (by decide) (by decide))⟩

end Service

end Accounts
