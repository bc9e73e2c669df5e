import Accounts.Gate.Bearer
import Accounts.Proofs.Revocation.Logout
import Accounts.Proofs.Text.Utf8

/-!
# Which tokens a header presents

* `IsHeaderChar`, `Presentable`: the characters that a header value shows as text, and the tokens
  that are made of them;
* **`headerText?_eq_some_iff`**: a value is shown as the text whose bytes it is;
* **`bearerToken_eq_ok_iff`**, `bearerToken_eq_invalidHeader`: which token a request presents, and
  which of them are no tokens for the gate.
-/

namespace Accounts

/-- A character that a header value shows as text: visible ASCII, a blank or a tab. -/
def IsHeaderChar (c : Char) : Prop := c.toNat = 9 ∨ (32 ≤ c.toNat ∧ c.toNat < 127)

instance (c : Char) : Decidable (IsHeaderChar c) := inferInstanceAs (Decidable (_ ∨ _))

/-- A token that a header can present: it is not empty, and a value shows all its characters. -/
def Presentable (token : String) : Prop := token ≠ "" ∧ ∀ c ∈ token.toList, IsHeaderChar c

/-! ## Bytes and characters -/

theorem isVisible_iff {b : UInt8} :
    isVisible b = true ↔ b.toNat = 9 ∨ (32 ≤ b.toNat ∧ b.toNat < 127) := by
  simp only [isVisible, Bool.or_eq_true, beq_iff_eq, Bool.and_eq_true, decide_eq_true_eq,
    UInt8.le_iff_toNat_le, UInt8.lt_iff_toNat_lt, ← UInt8.toNat_inj, UInt8.reduceToNat]

theorem utf8EncodeChar_of_lt {c : Char} (h : c.toNat < 128) :
    String.utf8EncodeChar c = [UInt8.ofNat c.toNat] := by
  have hv : c.val.toNat = c.toNat := rfl
  rw [String.utf8EncodeChar, hv, if_pos (by omega)]

theorem exists_utf8EncodeChar_of_le {c : Char} (h : 128 ≤ c.toNat) :
    ∃ b more, String.utf8EncodeChar c = b :: more ∧ 128 ≤ b.toNat := by
  have hc := Utf8.toNat_lt c
  have hv : c.val.toNat = c.toNat := rfl
  unfold String.utf8EncodeChar
  simp only [hv]
  rw [if_neg (by omega)]
  split
  · exact ⟨_, _, rfl, by rw [Utf8.toNat_ofNat_of_lt (by omega)]; omega⟩
  split
  · exact ⟨_, _, rfl, by rw [Utf8.toNat_ofNat_of_lt (by omega)]; omega⟩
  · exact ⟨_, _, rfl, by rw [Utf8.toNat_ofNat_of_lt (by omega)]; omega⟩

theorem all_isVisible_utf8EncodeChar (c : Char) :
    (String.utf8EncodeChar c).all isVisible = true ↔ IsHeaderChar c := by
  by_cases h : c.toNat < 128
  · rw [utf8EncodeChar_of_lt h, List.all_cons, List.all_nil, Bool.and_true, isVisible_iff,
      Utf8.toNat_ofNat_of_lt (by omega), IsHeaderChar]
  · obtain ⟨b, more, hb, hle⟩ := exists_utf8EncodeChar_of_le (Nat.le_of_not_lt h)
    rw [hb, List.all_cons, Bool.and_eq_true, isVisible_iff, IsHeaderChar]
    omega

theorem all_isVisible_encode (s : String) :
    (Utf8.encode s).all isVisible = true ↔ ∀ c ∈ s.toList, IsHeaderChar c := by
  rw [Utf8.encode, List.all_flatMap, List.all_eq_true]
  exact forall₂_congr fun c _ => all_isVisible_utf8EncodeChar c

/-- The character of a byte that is shown as text. -/
def charOf (b : UInt8) : Char := Char.ofNat b.toNat

theorem toNat_charOf {b : UInt8} (h : b.toNat < 128) : (charOf b).toNat = b.toNat := by
  rw [charOf, Char.ofNat, dif_pos (.inl (by omega))]
  rfl

theorem utf8EncodeChar_charOf {b : UInt8} (h : b.toNat < 128) :
    String.utf8EncodeChar (charOf b) = [b] := by
  rw [utf8EncodeChar_of_lt (by rw [toNat_charOf h]; exact h), toNat_charOf h, UInt8.ofNat_toNat]

theorem flatMap_map_charOf {value : Bytes} (h : value.all isVisible = true) :
    (value.map charOf).flatMap String.utf8EncodeChar = value := by
  induction value with
  | nil => rfl
  | cons b value ih =>
    rw [List.all_cons, Bool.and_eq_true, isVisible_iff] at h
    rw [List.map_cons, List.flatMap_cons, utf8EncodeChar_charOf (by omega), ih h.2]
    rfl

theorem encode_injective {s s' : String} (h : Utf8.encode s = Utf8.encode s') : s = s' := by
  have hs := congrArg Utf8.symbols h
  rw [Utf8.symbols_encode, Utf8.symbols_encode] at hs
  exact String.toList_injective ((List.map_inj_right fun _ _ => Option.some.inj).1 hs)

/-! ## Values -/

/-- **A value is shown as the text whose bytes it is**, if all its characters can be shown. -/
theorem headerText?_eq_some_iff {value : Bytes} {s : String} :
    headerText? value = some s ↔ value = Utf8.encode s ∧ ∀ c ∈ s.toList, IsHeaderChar c := by
  rw [headerText?]
  constructor
  · intro h
    split at h
    · next hall =>
      cases h
      have hencode : Utf8.encode (String.ofList (value.map charOf)) = value := by
        rw [Utf8.encode, String.toList_ofList, flatMap_map_charOf hall]
      refine ⟨hencode.symm, (all_isVisible_encode _).1 ?_⟩
      exact (congrArg (List.all · isVisible) hencode).trans hall
    · cases h
  · rintro ⟨rfl, hs⟩
    have hall := (all_isVisible_encode s).2 hs
    rw [if_pos hall]
    refine congrArg some (encode_injective ?_)
    rw [Utf8.encode, String.toList_ofList]
    exact flatMap_map_charOf hall

theorem headerText?_encode {s : String} (h : ∀ c ∈ s.toList, IsHeaderChar c) :
    headerText? (Utf8.encode s) = some s :=
  headerText?_eq_some_iff.2 ⟨rfl, h⟩

theorem headerText?_encode_eq_none {s : String} (h : ¬ ∀ c ∈ s.toList, IsHeaderChar c) :
    headerText? (Utf8.encode s) = none := by
  rw [headerText?, if_neg fun hall => h ((all_isVisible_encode s).1 hall)]

/-! ## Bearer headers -/

theorem forall_mem_bearer {token : String} :
    (∀ c ∈ (bearer token).toList, IsHeaderChar c) ↔ ∀ c ∈ token.toList, IsHeaderChar c := by
  have hstart : ∀ c ∈ "Bearer ".toList, IsHeaderChar c := by simp [IsHeaderChar]
  rw [bearer, String.toList_append]
  simp only [List.mem_append, or_imp, forall_and]
  exact and_iff_right hstart

theorem afterBearer?_eq_some_iff {text token : String} :
    afterBearer? text = some token ↔ text = bearer token := by
  constructor
  · intro h
    obtain ⟨cs, hcs, rfl⟩ := Option.map_eq_some_iff.1 h
    rw [Text.dropStart?_eq_some_iff] at hcs
    refine String.toList_injective ?_
    rw [hcs, bearer, String.toList_append]
    exact congrArg (bearerStart ++ ·) String.toList_ofList.symm
  · rintro rfl
    exact afterBearer?_bearer token

variable {hs : Headers} {token : String}

/-- **Which token a request presents**: the one after `Bearer ` in its first authorization value, if
it can be presented. -/
theorem bearerToken_eq_ok_iff :
    bearerToken hs = .ok token ↔
      hs.first? "authorization" = some (Utf8.encode (bearer token)) ∧ Presentable token := by
  rw [bearerToken]
  cases hs.first? "authorization" with
  | none => simp
  | some value =>
    simp only [Option.some.injEq]
    constructor
    · intro h
      split at h
      · cases h
      · next t ht =>
        obtain ⟨text, htext, hafter⟩ := Option.bind_eq_some_iff.1 ht
        obtain ⟨rfl, hchars⟩ := headerText?_eq_some_iff.1 htext
        split at h
        · cases h
        · next hne =>
          cases h
          rw [afterBearer?_eq_some_iff.1 hafter] at hchars ⊢
          exact ⟨rfl, hne, forall_mem_bearer.1 hchars⟩
    · rintro ⟨rfl, hne, hchars⟩
      rw [headerText?_encode (forall_mem_bearer.2 hchars), Option.bind_some, afterBearer?_bearer]
      exact if_neg hne

theorem bearerToken_eq_invalidHeader
    (h : hs.first? "authorization" = some (Utf8.encode (bearer token)))
    (ht : ¬ Presentable token) : bearerToken hs = .error .invalidHeader := by
  rw [bearerToken, h]
  by_cases hchars : ∀ c ∈ token.toList, IsHeaderChar c
  · have hempty : token = "" := Decidable.byContradiction fun hne => ht ⟨hne, hchars⟩
    simp only [headerText?_encode (forall_mem_bearer.2 hchars), Option.bind_some,
      afterBearer?_bearer]
    exact if_pos hempty
  · simp only [headerText?_encode_eq_none fun h => hchars (forall_mem_bearer.1 h), Option.bind_none]

end Accounts
