import Accounts.Text.Utf8

/-!
# UTF-8 is read back

* `scalar?_encode`: the bytes of a character tell the character, whatever follows them;
* **`symbols_encode`**: the symbols of an encoded text are its characters;
* **`decode?_encode`**: an encoded text is read;
* `ne_empty_of_decode?`: bytes are no empty text.
-/

namespace Accounts.Utf8

/-! ## One character -/

theorem toNat_ofNat_of_lt {n : Nat} (h : n < 256) : (UInt8.ofNat n).toNat = n :=
  UInt8.toNat_ofNat_of_lt' h

theorem tail?_ofNat {n : Nat} (h : n < 64) : tail? (UInt8.ofNat (n + 0x80)) = some n := by
  unfold tail?
  simp only [UInt8.le_iff_toNat_le, UInt8.lt_iff_toNat_lt, UInt8.reduceToNat,
    toNat_ofNat_of_lt (n := n + 0x80) (by omega), Bool.and_eq_true, decide_eq_true_eq]
  rw [if_pos (by omega), Nat.add_sub_cancel]

theorem charFrom?_toNat {c : Char} {least n : Nat} (hn : n = c.toNat) (h : least ≤ n) :
    charFrom? least n = some c := by
  subst hn
  have hv : c.toNat.isValidChar := c.valid
  have : Char.ofNatAux c.toNat hv = Char.ofNat c.toNat := by rw [Char.ofNat, dif_pos hv]
  rw [charFrom?, dif_pos ⟨hv, h⟩, this, Char.ofNat_toNat]

theorem toNat_lt (c : Char) : c.toNat < 0x110000 := by
  have : c.toNat.isValidChar := c.valid
  unfold Nat.isValidChar at this
  omega

theorem scalar?_one {n : Nat} (h : n < 0x80) (rest : Bytes) :
    scalar? (UInt8.ofNat n) rest = (charFrom? 0 n).map (·, 0) := by
  unfold scalar?
  simp only [UInt8.lt_iff_toNat_lt, UInt8.reduceToNat, toNat_ofNat_of_lt (n := n) (by omega)]
  rw [if_pos h]

theorem scalar?_two {p x : Nat} (hp : p < 32) (hx : x < 64) (rest : Bytes) :
    scalar? (UInt8.ofNat (p + 0xC0)) (UInt8.ofNat (x + 0x80) :: rest) =
      (charFrom? 0x80 (p * 64 + x)).map (·, 1) := by
  unfold scalar?
  simp only [UInt8.lt_iff_toNat_lt, UInt8.reduceToNat, tail?_ofNat hx,
    toNat_ofNat_of_lt (n := p + 0xC0) (by omega)]
  rw [if_neg (by omega), if_pos (by omega), Nat.add_sub_cancel, Option.bind_eq_bind,
    Option.bind_some, if_neg (by omega)]

theorem scalar?_three {p x y : Nat} (hp : p < 16) (hx : x < 64) (hy : y < 64) (rest : Bytes) :
    scalar? (UInt8.ofNat (p + 0xE0)) (UInt8.ofNat (x + 0x80) :: UInt8.ofNat (y + 0x80) :: rest) =
      (charFrom? 0x800 ((p * 64 + x) * 64 + y)).map (·, 2) := by
  unfold scalar?
  simp only [UInt8.lt_iff_toNat_lt, UInt8.reduceToNat, tail?_ofNat hx, tail?_ofNat hy,
    toNat_ofNat_of_lt (n := p + 0xE0) (by omega)]
  rw [if_neg (by omega), if_neg (by omega), if_pos (by omega), Nat.add_sub_cancel]
  rfl

theorem scalar?_four {p x y z : Nat} (hp : p < 8) (hx : x < 64) (hy : y < 64) (hz : z < 64)
    (rest : Bytes) :
    scalar? (UInt8.ofNat (p + 0xF0)) (UInt8.ofNat (x + 0x80) :: UInt8.ofNat (y + 0x80) ::
        UInt8.ofNat (z + 0x80) :: rest) =
      (charFrom? 0x10000 (((p * 64 + x) * 64 + y) * 64 + z)).map (·, 3) := by
  unfold scalar?
  simp only [UInt8.lt_iff_toNat_lt, UInt8.reduceToNat, tail?_ofNat hx, tail?_ofNat hy,
    tail?_ofNat hz, toNat_ofNat_of_lt (n := p + 0xF0) (by omega)]
  rw [if_neg (by omega), if_neg (by omega), if_neg (by omega), if_pos (by omega),
    Nat.add_sub_cancel]
  rfl

/-- **The bytes of a character tell the character**, whatever follows them. -/
theorem scalar?_encode (c : Char) : ∃ b more, String.utf8EncodeChar c = b :: more ∧
    ∀ rest, scalar? b (more ++ rest) = some (c, more.length) := by
  have hc := toNat_lt c
  have hv : c.val.toNat = c.toNat := rfl
  unfold String.utf8EncodeChar
  simp only [hv]
  split
  · refine ⟨_, _, rfl, fun rest => ?_⟩
    rw [List.nil_append, scalar?_one (by omega), charFrom?_toNat rfl (by omega)]
    rfl
  split
  · refine ⟨_, _, rfl, fun rest => ?_⟩
    rw [List.cons_append, scalar?_two (by omega) (by omega),
      charFrom?_toNat (c := c) (by omega) (by omega)]
    rfl
  split
  · refine ⟨_, _, rfl, fun rest => ?_⟩
    rw [List.cons_append, List.cons_append, scalar?_three (by omega) (by omega) (by omega),
      charFrom?_toNat (c := c) (by omega) (by omega)]
    rfl
  · refine ⟨_, _, rfl, fun rest => ?_⟩
    rw [List.cons_append, List.cons_append, List.cons_append,
      scalar?_four (by omega) (by omega) (by omega) (by omega),
      charFrom?_toNat (c := c) (by omega) (by omega)]
    rfl

/-! ## Texts -/

theorem symbolsRev_skip (more rest : Bytes) (acc : List Symbol) :
    symbolsRev more.length acc (more ++ rest) = symbolsRev 0 acc rest := by
  induction more with
  | nil => rfl
  | cons b more ih => exact ih

theorem symbolsRev_encode (cs : List Char) : ∀ acc : List Symbol,
    symbolsRev 0 acc (cs.flatMap String.utf8EncodeChar) = (cs.map some).reverse ++ acc := by
  induction cs with
  | nil => exact fun acc => rfl
  | cons c cs ih =>
    intro acc
    obtain ⟨b, more, hb, hs⟩ := scalar?_encode c
    rw [List.flatMap_cons, hb, List.cons_append, symbolsRev, hs]
    simp only
    rw [symbolsRev_skip, ih]
    simp

/-- **The symbols of an encoded text are its characters.** -/
theorem symbols_encode (s : String) : symbols (encode s) = s.toList.map some := by
  rw [symbols, encode, symbolsRev_encode, List.append_nil, List.reverse_reverse]

theorem charsRev_map_some (cs acc : List Char) :
    charsRev acc (cs.map some) = some (cs.reverse ++ acc) := by
  induction cs generalizing acc with
  | nil => rfl
  | cons c cs ih =>
    rw [List.map_cons, charsRev, ih, List.reverse_cons, List.append_assoc, List.singleton_append]

/-- **An encoded text is read.** -/
theorem decode?_encode (s : String) : decode? (encode s) = some s := by
  rw [decode?, symbols_encode, charsRev_map_some, Option.map_some, List.append_nil,
    List.reverse_reverse, String.ofList_toList]

theorem length_le_symbolsRev (skip : Nat) (acc : List Symbol) (bytes : Bytes) :
    acc.length ≤ (symbolsRev skip acc bytes).length := by
  induction bytes generalizing skip acc with
  | nil => simp [symbolsRev]
  | cons b bytes ih =>
    cases skip with
    | succ skip => exact ih skip acc
    | zero =>
      rw [symbolsRev]
      split <;> exact Nat.le_of_succ_le (ih _ (_ :: acc))

theorem symbols_ne_nil {bytes : Bytes} (h : bytes ≠ []) : symbols bytes ≠ [] := by
  cases bytes with
  | nil => exact absurd rfl h
  | cons b bytes =>
    rw [symbols, Ne, List.reverse_eq_nil_iff]
    refine List.ne_nil_of_length_pos ?_
    rw [symbolsRev]
    split <;> exact length_le_symbolsRev _ [_] bytes

theorem length_of_charsRev {xs : List Symbol} {acc cs : List Char}
    (h : charsRev acc xs = some cs) : cs.length = acc.length + xs.length := by
  induction xs generalizing acc with
  | nil =>
    cases h
    rfl
  | cons x xs ih =>
    cases x with
    | none => cases h
    | some c =>
      rw [ih h, List.length_cons, List.length_cons]
      omega

theorem ne_empty_of_decode? {bytes : Bytes} {s : String} (h : decode? bytes = some s)
    (hbytes : bytes ≠ []) : s ≠ "" := by
  obtain ⟨cs, hcs, rfl⟩ := Option.map_eq_some_iff.1 h
  have hlength := length_of_charsRev hcs
  have hsymbols := List.length_pos_iff.2 (symbols_ne_nil hbytes)
  rw [Ne, String.ofList_eq_empty_iff, List.reverse_eq_nil_iff, ← List.length_eq_zero_iff]
  omega

end Accounts.Utf8
