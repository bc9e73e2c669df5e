import Accounts.Base64

/-!
# Base64 is read back

* `value?_char`, `char_of_value?`: a character and the six bits that it stands for;
* **`decode?_encode`**: what is written is read;
* **`eq_encode_of_decode?`**: only what is written is read;
* `dot_not_mem_encode`: no dot is written.
-/

namespace Accounts.Base64

/-! ## Six bits -/

theorem value?_char (a : Alphabet) : ∀ n < 64, a.value? (a.char n) = some n := by
  cases a <;> decide

theorem char_of_value? {a : Alphabet} {c : Char} {n : Nat} (h : a.value? c = some n) :
    n < 64 ∧ a.char n = c := by
  have le {x y : Char} : x ≤ y ↔ x.toNat ≤ y.toNat := Iff.rfl
  unfold Alphabet.value? at h
  simp only [le, Char.reduceToNat] at h
  split at h
  · injection h with h
    subst h
    refine ⟨by omega, ?_⟩
    rw [Alphabet.char, if_pos (by omega), show 65 + (c.toNat - 65) = c.toNat by omega,
      Char.ofNat_toNat]
  split at h
  · injection h with h
    subst h
    refine ⟨by omega, ?_⟩
    rw [Alphabet.char, if_neg (by omega), if_pos (by omega),
      show 71 + (c.toNat - 71) = c.toNat by omega, Char.ofNat_toNat]
  split at h
  · injection h with h
    subst h
    refine ⟨by omega, ?_⟩
    rw [Alphabet.char, if_neg (by omega), if_neg (by omega), if_pos (by omega),
      Nat.add_sub_cancel, Char.ofNat_toNat]
  split at h
  · next h62 =>
    injection h with h
    subst h
    exact ⟨by omega, h62.symm⟩
  split at h
  · next h63 =>
    injection h with h
    subst h
    exact ⟨by omega, h63.symm⟩
  · cases h

variable (a : Alphabet)

/-! ## Bytes -/

theorem toUInt8_eq {n : Nat} {x : UInt8} (h : n = x.toNat) : n.toUInt8 = x := by
  subst h
  simp

/-- **What is written is read.** -/
theorem decode?_encode : ∀ bytes : Bytes, decode? a (encode a bytes) = some bytes
  | [] => rfl
  | [x] => by
    have hx := x.toNat_lt
    simp only [encode, decode?, value?_char a _ (show x.toNat / 4 < 64 by omega),
      value?_char a _ (show x.toNat % 4 * 16 < 64 by omega), Option.bind_eq_bind, Option.bind_some]
    rw [if_pos (by omega), toUInt8_eq (x := x) (by omega)]
  | [x, y] => by
    have hx := x.toNat_lt
    have hy := y.toNat_lt
    simp only [encode, decode?, value?_char a _ (show x.toNat / 4 < 64 by omega),
      value?_char a _ (show x.toNat % 4 * 16 + y.toNat / 16 < 64 by omega),
      value?_char a _ (show y.toNat % 16 * 4 < 64 by omega), Option.bind_eq_bind, Option.bind_some]
    rw [if_pos (by omega), toUInt8_eq (x := x) (by omega), toUInt8_eq (x := y) (by omega)]
  | x :: y :: z :: rest => by
    have hx := x.toNat_lt
    have hy := y.toNat_lt
    have hz := z.toNat_lt
    simp only [encode, decode?, value?_char a _ (show x.toNat / 4 < 64 by omega),
      value?_char a _ (show x.toNat % 4 * 16 + y.toNat / 16 < 64 by omega),
      value?_char a _ (show y.toNat % 16 * 4 + z.toNat / 64 < 64 by omega),
      value?_char a _ (show z.toNat % 64 < 64 by omega), decode?_encode rest, Option.bind_eq_bind,
      Option.bind_some]
    rw [toUInt8_eq (x := x) (by omega), toUInt8_eq (x := y) (by omega),
      toUInt8_eq (x := z) (by omega)]

theorem toNat_toUInt8 {n : Nat} (h : n < 256) : n.toUInt8.toNat = n :=
  UInt8.toNat_ofNat_of_lt' h

/-- **Only what is written is read.** -/
theorem eq_encode_of_decode? : ∀ {cs : List Char} {bytes : Bytes},
    decode? a cs = some bytes → cs = encode a bytes
  | [], _, h => by
    cases h
    rfl
  | [_], _, h => by cases h
  | [c, d], _, h => by
    simp only [decode?, Option.bind_eq_bind, Option.bind_eq_some_iff] at h
    obtain ⟨p, hp, q, hq, h⟩ := h
    obtain ⟨hp, rfl⟩ := char_of_value? hp
    obtain ⟨hq, rfl⟩ := char_of_value? hq
    split at h
    · next hrest =>
      cases h
      rw [encode, toNat_toUInt8 (by omega), show (p * 4 + q / 16) / 4 = p by omega,
        show (p * 4 + q / 16) % 4 * 16 = q by omega]
    · cases h
  | [c, d, e], _, h => by
    simp only [decode?, Option.bind_eq_bind, Option.bind_eq_some_iff] at h
    obtain ⟨p, hp, q, hq, r, hr, h⟩ := h
    obtain ⟨hp, rfl⟩ := char_of_value? hp
    obtain ⟨hq, rfl⟩ := char_of_value? hq
    obtain ⟨hr, rfl⟩ := char_of_value? hr
    split at h
    · next hrest =>
      cases h
      rw [encode, toNat_toUInt8 (by omega), toNat_toUInt8 (by omega),
        show (p * 4 + q / 16) / 4 = p by omega,
        show (p * 4 + q / 16) % 4 * 16 + (q % 16 * 16 + r / 4) / 16 = q by omega,
        show (q % 16 * 16 + r / 4) % 16 * 4 = r by omega]
    · cases h
  | c :: d :: e :: f :: rest, _, h => by
    simp only [decode?, Option.bind_eq_bind, Option.bind_eq_some_iff, Option.some.injEq] at h
    obtain ⟨p, hp, q, hq, r, hr, s, hs, more, hmore, rfl⟩ := h
    obtain ⟨hp, rfl⟩ := char_of_value? hp
    obtain ⟨hq, rfl⟩ := char_of_value? hq
    obtain ⟨hr, rfl⟩ := char_of_value? hr
    obtain ⟨hs, rfl⟩ := char_of_value? hs
    rw [encode, toNat_toUInt8 (by omega), toNat_toUInt8 (by omega), toNat_toUInt8 (by omega),
      ← eq_encode_of_decode? hmore, show (p * 4 + q / 16) / 4 = p by omega,
      show (p * 4 + q / 16) % 4 * 16 + (q % 16 * 16 + r / 4) / 16 = q by omega,
      show (q % 16 * 16 + r / 4) % 16 * 4 + (r % 4 * 64 + s) / 64 = r by omega,
      show (r % 4 * 64 + s) % 64 = s by omega]

theorem decode?_eq_some_iff {cs : List Char} {bytes : Bytes} :
    decode? a cs = some bytes ↔ cs = encode a bytes :=
  ⟨eq_encode_of_decode? a, fun h => h ▸ decode?_encode a bytes⟩

/-! ## Characters -/

theorem mem_encode : ∀ (bytes : Bytes), ∀ c ∈ encode a bytes, ∃ n < 64, c = a.char n
  | [], c, h => by cases h
  | [x], c, h => by
    have hx := x.toNat_lt
    simp only [encode, List.mem_cons, List.not_mem_nil, or_false] at h
    rcases h with rfl | rfl
    · exact ⟨_, by omega, rfl⟩
    · exact ⟨_, by omega, rfl⟩
  | [x, y], c, h => by
    have hx := x.toNat_lt
    have hy := y.toNat_lt
    simp only [encode, List.mem_cons, List.not_mem_nil, or_false] at h
    rcases h with rfl | rfl | rfl
    · exact ⟨_, by omega, rfl⟩
    · exact ⟨_, by omega, rfl⟩
    · exact ⟨_, by omega, rfl⟩
  | x :: y :: z :: rest, c, h => by
    have hx := x.toNat_lt
    have hy := y.toNat_lt
    have hz := z.toNat_lt
    simp only [encode, List.mem_cons] at h
    rcases h with rfl | rfl | rfl | rfl | h
    · exact ⟨_, by omega, rfl⟩
    · exact ⟨_, by omega, rfl⟩
    · exact ⟨_, by omega, rfl⟩
    · exact ⟨_, by omega, rfl⟩
    · exact mem_encode rest c h

theorem char_ne_dot (a : Alphabet) : ∀ n < 64, a.char n ≠ '.' := by cases a <;> decide

theorem dot_not_mem_encode (bytes : Bytes) : '.' ∉ encode a bytes := by
  intro h
  obtain ⟨n, hn, he⟩ := mem_encode a bytes _ h
  exact char_ne_dot a n hn he.symm

end Accounts.Base64
