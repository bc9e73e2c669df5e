import Mathlib.Data.List.TakeWhile
import Accounts.Decimal.Shortest
import Accounts.Proofs.Decimal
import Accounts.Proofs.Text.Blank
import Accounts.Settings.Load

/-!
# Values of variables, written again

A variable is taken for the kind of value that its text looks like, and a setting that is text is
what this value is written as. So it is the text of the variable only if that is how the value is
written.

* **`Decimal.plainText_cases`**: what a float is written as, of digits, a point and a minus alone;
* `Decimal.isNumeral_of_integer?`, `Decimal.isNumeral_of_float?`: the characters of a number;
* `respelled`: the text that a setting has for a variable;
* `IsVerbatim`: a truth value in lower case, a number as it is written, or no such value;
  **`respelled_eq_self_iff`**: these texts are left as they are;
* `isVerbatim_of_strange`: so is every text with a character that no number has, words aside;
* `not_isVerbatim_of_float`: but no float with an exponent or a plus;
* `respelled_eq_self_or`: nothing becomes blank that is not.
-/

namespace Accounts

/-! ## Floats as text -/

namespace Decimal

theorem beq_zero_of_toBits {x : Float} (h : x.toBits &&& 0x7FFFFFFFFFFFFFFF = 0) :
    (x == 0) = true := by
  obtain ⟨⟨bits, hvalid⟩⟩ := x
  have hbits : bits = 0 ∨ bits = 0x8000000000000000 := by
    have hmod : bits.toNat % 0x8000000000000000 = 0 := by
      have hand := congrArg UInt64.toNat h
      rw [UInt64.toNat_and] at hand
      exact (Nat.and_two_pow_sub_one_eq_mod bits.toNat 63).symm.trans hand
    have hlt := bits.toNat_lt
    rw [← UInt64.toNat_inj, ← UInt64.toNat_inj]
    have hzero : (0 : UInt64).toNat = 0 := rfl
    have hsign : (0x8000000000000000 : UInt64).toNat = 0x8000000000000000 := rfl
    omega
  obtain rfl | rfl := hbits
  · exact (by decide +kernel : (Float.ofBits 0 == 0) = true)
  · exact (by decide +kernel : (Float.ofBits 0x8000000000000000 == 0) = true)

namespace Binary

theorem mantissa_ofBits_ne_zero {bits : UInt64} (h : bits ≠ 0)
    (hbound : bits.toNat < 0x8000000000000000) : (ofBits bits).mantissa ≠ 0 := by
  have hfraction : (bits &&& 0xFFFFFFFFFFFFF).toNat = bits.toNat % 0x10000000000000 := by
    rw [UInt64.toNat_and]
    exact Nat.and_two_pow_sub_one_eq_mod bits.toNat 52
  have hbiased : ((bits >>> 52) &&& 0x7FF).toNat = bits.toNat / 0x10000000000000 % 0x800 := by
    rw [UInt64.toNat_and, UInt64.toNat_shiftRight]
    have hshift : bits.toNat >>> ((52 : UInt64).toNat % 64) = bits.toNat / 0x10000000000000 :=
      Nat.shiftRight_eq_div_pow bits.toNat 52
    rw [hshift]
    exact Nat.and_two_pow_sub_one_eq_mod _ 11
  have hne : bits.toNat ≠ 0 := fun hzero => h (UInt64.toNat_inj.1 hzero)
  unfold ofBits
  dsimp only
  split
  · next hzero =>
    rw [hbiased] at hzero
    dsimp only
    omega
  · exact Nat.succ_ne_zero _

variable {b : Binary} {tie : Tie}

theorem onGrid?_ne_zero {k : Int} {d : Nat} (h : b.onGrid? tie k = some d) : d ≠ 0 := by
  unfold onGrid? at h
  generalize ratio b.mantissa b.exponent k = r at h
  obtain ⟨n, den⟩ := r
  dsimp only at h
  cases hdown : b.holds (n / den) k && n / den != 0 with
  | true =>
    have hne : n / den ≠ 0 := by simpa using (Bool.and_eq_true_iff.1 hdown).2
    rw [hdown] at h
    cases hup : b.holds (n / den + 1) k with
    | true =>
      rw [hup] at h
      obtain rfl := Option.some.inj h
      split_ifs
      · exact hne
      · exact Nat.succ_ne_zero _
    | false =>
      rw [hup] at h
      exact Option.some.inj h ▸ hne
  | false =>
    rw [hdown] at h
    cases hup : b.holds (n / den + 1) k with
    | true =>
      rw [hup] at h
      exact Option.some.inj h ▸ Nat.succ_ne_zero _
    | false =>
      rw [hup] at h
      cases h

theorem search_ne_zero (h : b.mantissa ≠ 0) (top : Int) (tries place : Nat) :
    (b.search tie top tries place).1 ≠ 0 := by
  induction tries generalizing place with
  | zero => exact h
  | succ tries ih =>
    rw [search]
    split
    · next d hd => exact onGrid?_ne_zero hd
    · exact ih _

theorem mem_of_mem_withoutZeros {ds : List Char} {c : Char} (h : c ∈ (withoutZeros ds).1) :
    c ∈ ds :=
  List.mem_reverse.1 ((List.dropWhile_sublist _).subset (List.mem_reverse.1 h))

theorem withoutZeros_ne_nil {ds : List Char} {c : Char} (hc : c ∈ ds) (hne : c ≠ '0') :
    (withoutZeros ds).1 ≠ [] := by
  intro h
  have hdropped : ds.reverse.dropWhile (· == '0') = [] := List.reverse_eq_nil_iff.1 h
  have hzero := List.dropWhile_eq_nil_iff.1 hdropped c (List.mem_reverse.2 hc)
  exact hne (by simpa using hzero)

theorem shortest_digits (h : b.mantissa ≠ 0) :
    (b.shortest tie).1 ≠ [] ∧ ∀ c ∈ (b.shortest tie).1, isDigit c = true := by
  have hne : (b.search tie b.coarsest 21 0).1 ≠ 0 := search_ne_zero h _ _ _
  obtain ⟨c, cs, hcs, hc⟩ := digits_of_pos (Nat.pos_of_ne_zero hne)
  refine ⟨withoutZeros_ne_nil (hcs ▸ List.mem_cons_self) hc, fun d hd => ?_⟩
  exact isDigit_of_mem_digits (mem_of_mem_withoutZeros hd)

end Binary

/-- A digit, a point or a minus. -/
def IsPlain (c : Char) : Prop := isDigit c = true ∨ c = '.' ∨ c = '-'

theorem positional_plain {ds : List Char} (k : Int) (hne : ds ≠ [])
    (hds : ∀ c ∈ ds, isDigit c = true) :
    positional ds k ≠ [] ∧ ∀ c ∈ positional ds k, IsPlain c := by
  have hzero {n : Nat} {c : Char} (h : c ∈ List.replicate n '0') : IsPlain c := by
    rw [List.eq_of_mem_replicate h]
    exact .inl rfl
  have hdigit {c : Char} (h : c ∈ ds) : IsPlain c := .inl (hds c h)
  unfold positional
  dsimp only
  split_ifs
  · refine ⟨by simp [hne], fun c hc => ?_⟩
    obtain hc | hc := List.mem_append.1 hc
    · exact hdigit hc
    · exact hzero hc
  · refine ⟨by simp, fun c hc => ?_⟩
    obtain hc | hc := List.mem_append.1 hc
    · exact hdigit (List.mem_of_mem_take hc)
    · obtain rfl | hc := List.mem_cons.1 hc
      · exact .inr (.inl rfl)
      · exact hdigit (List.mem_of_mem_drop hc)
  · refine ⟨by simp, fun c hc => ?_⟩
    obtain hc | hc := List.mem_append.1 hc
    · obtain rfl | hc := List.mem_cons.1 hc
      · exact .inl rfl
      · obtain rfl | hc := List.mem_cons.1 hc
        · exact .inr (.inl rfl)
        · exact hzero hc
    · exact hdigit hc

/-- **What a float is written as**: a word, or digits with a point and a minus at most, and no
exponent. -/
theorem plainText_cases (x : Float) :
    plainText x ∈ ["NaN", "inf", "-inf"] ∨
      (plainText x).toList ≠ [] ∧ ∀ c ∈ (plainText x).toList, IsPlain c := by
  unfold plainText
  split
  · exact .inl (by simp)
  split
  · refine .inl ?_
    split <;> simp
  split
  · refine .inr ?_
    split <;> simp [IsPlain, isDigit]
  next hzero =>
    have hbits : x.toBits &&& 0x7FFFFFFFFFFFFFFF ≠ 0 := fun h => hzero (beq_zero_of_toBits h)
    have hbound : (x.toBits &&& 0x7FFFFFFFFFFFFFFF).toNat < 0x8000000000000000 := by
      rw [UInt64.toNat_and]
      exact Nat.lt_of_le_of_lt Nat.and_le_right (by decide)
    have hmantissa := Binary.mantissa_ofBits_ne_zero hbits hbound
    obtain ⟨hne, hdigits⟩ := @Binary.shortest_digits _ .up hmantissa
    refine .inr ?_
    obtain ⟨hne, hplain⟩ := positional_plain
      ((Binary.ofBits (x.toBits &&& 0x7FFFFFFFFFFFFFFF)).shortest .up).2 hne hdigits
    rw [parts]
    dsimp only
    rw [String.toList_ofList]
    refine ⟨by simp [hne], fun c hc => ?_⟩
    obtain hc | hc := List.mem_append.1 hc
    · split at hc
      · exact .inr (.inr (List.mem_singleton.1 hc))
      · cases hc
    · exact hplain c hc

/-! ## The characters of numbers -/

/-- A character that a number may have. -/
def IsNumeral (c : Char) : Prop := isDigit c = true ∨ c ∈ ['+', '-', '.', 'e', 'E']

variable {cs : List Char} {c : Char}

theorem isDigit_of_nat? {n : Nat} (h : nat? cs = some n) (hc : c ∈ cs) : isDigit c = true := by
  unfold nat? at h
  split at h
  · next hdigits => exact List.all_eq_true.1 hdigits.2 c hc
  · cases h

theorem mem_sign (hc : c ∈ cs) : c ∈ (sign cs).2 ∨ IsNumeral c := by
  unfold sign
  split
  · obtain rfl | hc := List.mem_cons.1 hc
    · exact .inr (.inr (by simp))
    · exact .inl hc
  · obtain rfl | hc := List.mem_cons.1 hc
    · exact .inr (.inr (by simp))
    · exact .inl hc
  · exact .inl hc

theorem isNumeral_of_exponent? {e : Int} (h : exponent? cs = some e) (hc : c ∈ cs) :
    IsNumeral c := by
  cases cs with
  | nil => cases hc
  | cons d ds =>
    rw [exponent?] at h
    split_ifs at h with hd
    obtain ⟨n, hn, -⟩ := Option.map_eq_some_iff.1 h
    obtain ⟨m, hm, -⟩ := Option.bind_eq_some_iff.1 hn
    obtain rfl | hc := List.mem_cons.1 hc
    · obtain rfl | rfl := hd
      · exact .inr (by simp)
      · exact .inr (by simp)
    · obtain hc | hc := mem_sign hc
      · exact .inl (isDigit_of_nat? hm hc)
      · exact hc

theorem mem_fraction (hc : c ∈ cs) : c ∈ (fraction cs).2 ∨ IsNumeral c := by
  unfold fraction
  split
  · next ds =>
    obtain rfl | hc := List.mem_cons.1 hc
    · exact .inr (.inr (by simp))
    · rw [← List.takeWhile_append_dropWhile (p := isDigit) (l := ds)] at hc
      obtain hc | hc := List.mem_append.1 hc
      · exact .inr (.inl (List.mem_takeWhile_imp hc))
      · exact .inl hc
  · exact .inl hc

theorem isNumeral_of_unsignedFloat? {x : Float} (h : unsignedFloat? cs = some x) (hc : c ∈ cs) :
    IsNumeral c := by
  unfold unsignedFloat? at h
  dsimp only at h
  split at h
  · cases h
  · obtain ⟨e, he, -⟩ := Option.bind_eq_some_iff.1 h
    rw [← List.takeWhile_append_dropWhile (p := isDigit) (l := cs)] at hc
    obtain hc | hc := List.mem_append.1 hc
    · exact .inl (List.mem_takeWhile_imp hc)
    · obtain hc | hc := mem_fraction hc
      · exact isNumeral_of_exponent? he hc
      · exact hc

/-- A text without its sign is one of the words that are read as floats, in some case. -/
def IsFloatWord (v : String) : Prop :=
  String.ofList ((sign v.toList).2.map Char.toLower) ∈ ["inf", "infinity", "nan"]

theorem isNumeral_of_float? {v : String} {x : Float} (h : float? v = some x)
    (hword : ¬IsFloatWord v) (hc : c ∈ v.toList) : IsNumeral c := by
  unfold IsFloatWord at hword
  simp only [List.mem_cons, List.not_mem_nil, or_false, not_or] at hword
  obtain ⟨hinf, hinfinity, hnan⟩ := hword
  unfold float? at h
  generalize hsign : sign v.toList = p at h hinf hinfinity hnan
  obtain ⟨negative, cs⟩ := p
  dsimp only at h hinf hinfinity hnan
  rw [if_neg (by simp [hinf, hinfinity]), if_neg hnan] at h
  obtain ⟨size, hsize, -⟩ := Option.map_eq_some_iff.1 h
  obtain hc | hc := mem_sign hc
  · rw [hsign] at hc
    exact isNumeral_of_unsignedFloat? hsize hc
  · exact hc

theorem isNumeral_of_integer? {v : String} {n : Int} (h : integer? v = some n)
    (hc : c ∈ v.toList) : IsNumeral c := by
  unfold integer? at h
  have hdigits {cs : List Char} {p : Nat → Bool} {m : Nat}
      (h : (nat? cs).filter p = some m) (hc : c ∈ cs) : IsNumeral c :=
    .inl (isDigit_of_nat? (Option.filter_eq_some_iff.1 h).1 hc)
  split at h
  · next cs hcs =>
    rw [hcs] at hc
    obtain rfl | hc := List.mem_cons.1 hc
    · exact .inr (by simp)
    · obtain ⟨m, hm, -⟩ := Option.map_eq_some_iff.1 h
      obtain ⟨k, hk, -⟩ := Option.bind_eq_some_iff.1 hm
      exact hdigits hk hc
  · next cs hcs =>
    rw [hcs] at hc
    obtain rfl | hc := List.mem_cons.1 hc
    · exact .inr (by simp)
    · obtain ⟨m, hm, -⟩ := Option.map_eq_some_iff.1 h
      exact hdigits hm hc
  · obtain ⟨m, hm, -⟩ := Option.map_eq_some_iff.1 h
    exact hdigits hm hc

end Decimal

/-! ## Blank texts -/

namespace Decimal

theorem isBlank_of_isPlain {c : Char} (h : IsPlain c) : Text.isBlank c = false := by
  obtain h | rfl | rfl := h
  · exact Text.isBlank_of_isDigit h
  · decide
  · decide

theorem trimmed_ofInt (n : Int) : Text.trimmed (ofInt n) ≠ "" := by
  have hdigits (m : Nat) : ∃ c ∈ digits m, IsPlain c := by
    obtain ⟨c, cs, hcs, -⟩ := digits_eq_cons m
    have hc : c ∈ digits m := hcs ▸ List.mem_cons_self
    exact ⟨c, hc, .inl (isDigit_of_mem_digits hc)⟩
  have hplain : ∃ c ∈ intDigits n, IsPlain c := by
    cases n with
    | ofNat m => exact hdigits m
    | negSucc m => exact ⟨'-', List.mem_cons_self, .inr (.inr rfl)⟩
  obtain ⟨c, hc, hplain⟩ := hplain
  refine Text.trimmed_ne_empty (c := c) ?_ (isBlank_of_isPlain hplain)
  rwa [ofInt, String.toList_ofList]

theorem trimmed_plainText (x : Float) : Text.trimmed (plainText x) ≠ "" := by
  obtain hword | ⟨hne, hplain⟩ := plainText_cases x
  · simp only [List.mem_cons, List.not_mem_nil, or_false] at hword
    obtain hword | hword | hword := hword <;> rw [hword] <;> decide +kernel
  · obtain ⟨c, hc⟩ := List.exists_mem_of_ne_nil _ hne
    exact Text.trimmed_ne_empty hc (isBlank_of_isPlain (hplain c hc))

end Decimal

/-! ## Variables -/

namespace Settings

variable {v : String}

/-- The text that a setting has for a variable. -/
def respelled (v : String) : String :=
  match Scalar.ofText v with
  | .bool b => if b then "true" else "false"
  | .integer n => Decimal.ofInt n
  | .float x => Decimal.plainText x
  | .text s => s
  | .nothing => ""

theorem respelled_cases (v : String) :
    (∃ b, Scalar.ofText v = .bool b ∧ Text.lowercase v ∈ ["true", "false"] ∧
      respelled v = Text.lowercase v) ∨
    (∃ n, Scalar.ofText v = .integer n ∧ Decimal.integer? v = some n ∧
      respelled v = Decimal.ofInt n) ∨
    (∃ x, Scalar.ofText v = .float x ∧ Decimal.float? v = some x ∧
      respelled v = Decimal.plainText x) ∨
    Scalar.ofText v = .text v ∧ respelled v = v := by
  unfold respelled Scalar.ofText
  dsimp only
  split_ifs with htrue hfalse
  · exact .inl ⟨true, rfl, by simp [htrue], htrue.symm⟩
  · exact .inl ⟨false, rfl, by simp [hfalse], hfalse.symm⟩
  · cases hn : Decimal.integer? v with
    | some n => exact .inr (.inl ⟨n, rfl, rfl, rfl⟩)
    | none =>
      cases hx : Decimal.float? v with
      | some x => exact .inr (.inr (.inl ⟨x, rfl, rfl, rfl⟩))
      | none => exact .inr (.inr (.inr ⟨rfl, rfl⟩))

theorem text_ofText (v : String) (origin : Option String) :
    Tree.text (.scalar (Scalar.ofText v) origin) = .ok (respelled v) := by
  rw [respelled]
  obtain ⟨b, h, -⟩ | ⟨n, h, -⟩ | ⟨x, h, -⟩ | ⟨h, -⟩ := respelled_cases v <;> rw [h] <;> rfl

theorem optional_text_ofText (v : String) (origin : Option String) :
    Tree.optional Tree.text (.scalar (Scalar.ofText v) origin) = .ok (some (respelled v)) := by
  rw [respelled]
  obtain ⟨b, h, -⟩ | ⟨n, h, -⟩ | ⟨x, h, -⟩ | ⟨h, -⟩ := respelled_cases v <;> rw [h] <;> rfl

/-- A variable is written as its value is: a truth value in lower case, an integer or a float as the
service writes it, or else any text. -/
structure IsVerbatim (v : String) : Prop where
  truth : ∀ b, Scalar.ofText v = .bool b → Text.lowercase v = v
  integer : ∀ n, Scalar.ofText v = .integer n → Decimal.ofInt n = v
  float : ∀ x, Scalar.ofText v = .float x → Decimal.plainText x = v

/-- **These variables are left as they are**, and no others. -/
theorem respelled_eq_self_iff : respelled v = v ↔ IsVerbatim v := by
  obtain ⟨b, h, -, hv⟩ | ⟨n, h, -, hv⟩ | ⟨x, h, -, hv⟩ | ⟨h, hv⟩ := respelled_cases v
  · rw [hv]
    exact ⟨fun hlow => ⟨fun _ _ => hlow, by simp [h], by simp [h]⟩, fun hlow => hlow.truth b h⟩
  · rw [hv]
    exact ⟨fun hn => ⟨by simp [h], by simpa [h] using hn, by simp [h]⟩, fun hn => hn.integer n h⟩
  · rw [hv]
    exact ⟨fun hx => ⟨by simp [h], by simp [h], by simpa [h] using hx⟩, fun hx => hx.float x h⟩
  · exact ⟨fun _ => ⟨by simp [h], by simp [h], by simp [h]⟩, fun _ => hv⟩

theorem isVerbatim_of_strange {c : Char} (hc : c ∈ v.toList) (hstrange : ¬Decimal.IsNumeral c)
    (htruth : Text.lowercase v ∉ ["true", "false"]) (hword : ¬Decimal.IsFloatWord v) :
    IsVerbatim v := by
  rw [← respelled_eq_self_iff]
  obtain ⟨b, -, hlow, -⟩ | ⟨n, -, hn, -⟩ | ⟨x, -, hx, -⟩ | ⟨-, hv⟩ := respelled_cases v
  · exact absurd hlow htruth
  · exact absurd (Decimal.isNumeral_of_integer? hn hc) hstrange
  · exact absurd (Decimal.isNumeral_of_float? hx hword hc) hstrange
  · exact hv

theorem not_isVerbatim_of_float {x : Float} (h : Scalar.ofText v = .float x) {c : Char}
    (hc : c ∈ v.toList) (hmark : c ∈ ['e', 'E', '+']) : ¬IsVerbatim v := by
  intro hv
  rw [← hv.float x h] at hc
  simp only [List.mem_cons, List.not_mem_nil, or_false] at hmark
  obtain hword | ⟨-, hplain⟩ := Decimal.plainText_cases x
  · simp only [List.mem_cons, List.not_mem_nil, or_false] at hword
    revert hc
    obtain hword | hword | hword := hword <;> rw [hword] <;>
      obtain rfl | rfl | rfl := hmark <;> decide
  · obtain hc | rfl | rfl := hplain c hc
    · revert hc
      obtain rfl | rfl | rfl := hmark <;> decide
    · revert hmark
      decide
    · revert hmark
      decide

theorem respelled_eq_self_or (v : String) :
    respelled v = v ∨ Text.trimmed (respelled v) ≠ "" := by
  obtain ⟨b, -, hlow, h⟩ | ⟨n, -, -, h⟩ | ⟨x, -, -, h⟩ | ⟨-, h⟩ := respelled_cases v
  · rw [h]
    simp only [List.mem_cons, List.not_mem_nil, or_false] at hlow
    obtain hlow | hlow := hlow
    · rw [hlow]
      exact .inr (by decide +kernel)
    · rw [hlow]
      exact .inr (by decide +kernel)
  · rw [h]
    exact .inr (Decimal.trimmed_ofInt n)
  · rw [h]
    exact .inr (Decimal.trimmed_plainText x)
  · exact .inl h

theorem trimmed_respelled (hv : Text.trimmed v ≠ "") : Text.trimmed (respelled v) ≠ "" := by
  obtain h | h := respelled_eq_self_or v
  · rw [h]
    exact hv
  · exact h

theorem respelled_ne_empty (hv : v ≠ "") : respelled v ≠ "" := by
  obtain h | h := respelled_eq_self_or v
  · rw [h]
    exact hv
  · intro hempty
    rw [hempty] at h
    exact h rfl

end Settings

end Accounts
