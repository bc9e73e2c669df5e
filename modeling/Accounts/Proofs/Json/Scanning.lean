import Accounts.Json.Value
import Accounts.Json.Token
import Accounts.Proofs.Decimal

/-!
# Strings and numerals are scanned as they are written

* `scanString_escaped`: one written character gives itself;
* **`scanString_quoted`**: a written text gives itself, up to its last quote;
* `Numeral.ofInt`: the numeral of an integer, and its number (`number?_ofInt`);
* **`scan?_intDigits`**: the digits of an integer give its numeral, up to a mark.
-/

namespace Accounts.Json

open Utf8 (Symbol)

/-! ## Strings -/

theorem hexValue?_hexDigit : ∀ n < 16, hexValue? (some (hexDigit n)) = some n := by decide

theorem hexFour?_low {n : Nat} (h : n < 256) (s : List Symbol) :
    hexFour? (some '0' :: some '0' :: some (hexDigit (n / 16)) :: some (hexDigit (n % 16)) :: s) =
      some n := by
  have h0 : hexValue? (some '0') = some 0 := by decide
  simp only [hexFour?, h0, hexValue?_hexDigit _ (show n / 16 < 16 by omega),
    hexValue?_hexDigit _ (show n % 16 < 16 by omega), Option.bind_eq_bind, Option.bind_some,
    Option.pure_def, Option.some.injEq]
  omega

theorem escape?_number {c : Char} (h : c.toNat < 0x20) (s : List Symbol) :
    escape? (some 'u' :: some '0' :: some '0' :: some (hexDigit (c.toNat / 16)) ::
      some (hexDigit (c.toNat % 16)) :: s) = some (some c, 5) := by
  simp only [escape?, Char.reduceEq, if_false, if_true]
  rw [numberEscape?, hexFour?_low (by omega), Option.bind_eq_bind, Option.bind_some,
    if_neg (by omega), if_neg (by omega), Char.ofNat_toNat]

theorem scanString_letter {c e : Char} (he : ∀ s, escape? (some e :: s) = some (some c, 1))
    (acc : List Char) (s : List Symbol) :
    scanString 0 acc true (some '\\' :: some e :: s) = scanString 0 (c :: acc) true s := by
  rw [scanString, if_neg (by decide), if_pos rfl, he]
  rfl

theorem scanString_escaped (c : Char) (acc : List Char) (s : List Symbol) :
    scanString 0 acc true ((escaped c).map some ++ s) = scanString 0 (c :: acc) true s := by
  unfold escaped
  split
  · next h => subst h; exact scanString_letter (fun _ => rfl) acc s
  split
  · next h => subst h; exact scanString_letter (fun _ => rfl) acc s
  split
  · next h => subst h; exact scanString_letter (fun _ => rfl) acc s
  split
  · next h => subst h; exact scanString_letter (fun _ => rfl) acc s
  split
  · next h => subst h; exact scanString_letter (fun _ => rfl) acc s
  split
  · next h => subst h; exact scanString_letter (fun _ => rfl) acc s
  split
  · next h => subst h; exact scanString_letter (fun _ => rfl) acc s
  split
  · next h =>
    simp only [List.map_cons, List.map_nil, List.cons_append, List.nil_append]
    rw [scanString, if_neg (by decide), if_pos rfl, escape?_number h]
    rfl
  · next hquote hback _ _ _ _ _ hlow =>
    simp only [List.map_cons, List.map_nil, List.cons_append, List.nil_append]
    rw [scanString, if_neg hquote, if_neg hback, if_neg hlow]

/-- **A written text gives itself**, up to its last quote. -/
theorem scanString_quoted (cs acc : List Char) (rest : List Symbol) :
    scanString 0 acc true ((cs.flatMap escaped).map some ++ some '"' :: rest) =
      some (some (String.ofList (acc.reverse ++ cs)), rest) := by
  induction cs generalizing acc with
  | nil => simp [scanString]
  | cons c cs ih =>
    rw [List.flatMap_cons, List.map_append, List.append_assoc, scanString_escaped, ih]
    simp

/-! ## Numerals -/

/-- The numeral of an integer. -/
def Numeral.ofInt : Int → Numeral
  | .ofNat n => ⟨false, Decimal.digits n, [], none⟩
  | .negSucc n => ⟨true, Decimal.digits (n + 1), [], none⟩

theorem Numeral.number?_ofInt {n : Int} (h1 : -(Decimal.integerBound : Int) ≤ n)
    (h2 : n < (Decimal.integerBound : Int)) : (ofInt n).number? = some (.integer n) := by
  have hb : Decimal.integerBound = 9223372036854775808 := rfl
  have hs : UInt64.size = 18446744073709551616 := rfl
  cases n with
  | ofNat n =>
    simp only [Int.ofNat_eq_natCast] at h2
    simp only [number?, ofInt, Decimal.value_digits]
    rw [if_pos (by simp; omega)]
    rfl
  | negSucc n =>
    simp only [number?, ofInt, Decimal.value_digits]
    rw [if_neg (by simp), if_pos (by simp; omega)]
    rfl

/-- What may follow a value: nothing, or a mark that ends it. -/
def Closes : List Symbol → Prop
  | [] => True
  | x :: _ => x = some ',' ∨ x = some ']' ∨ x = some '\x7d'

theorem closes_comma (s : List Symbol) : Closes (some ',' :: s) := .inl rfl

theorem closes_bracket (s : List Symbol) : Closes (some ']' :: s) := .inr (.inl rfl)

theorem closes_brace (s : List Symbol) : Closes (some '\x7d' :: s) := .inr (.inr rfl)

theorem scanDigits_append {ds : List Char} (hd : ∀ c ∈ ds, Decimal.isDigit c = true)
    {rest : List Symbol} (hr : Closes rest) : scanDigits (ds.map some ++ rest) = (ds, rest) := by
  induction ds with
  | nil =>
    cases rest with
    | nil => rfl
    | cons x rest => rcases hr with rfl | rfl | rfl <;> rfl
  | cons c ds ih =>
    have hc := hd c List.mem_cons_self
    have htail := ih fun x hx => hd x (List.mem_cons_of_mem _ hx)
    simp only [scanDigits, Prod.mk.injEq] at htail ⊢
    simp only [List.map_cons, List.cons_append]
    rw [List.takeWhile_cons_of_pos (by exact hc), List.dropWhile_cons_of_pos (by exact hc)]
    exact ⟨by rw [List.filterMap_cons, htail.1]; rfl, htail.2⟩

theorem scanFraction?_of_closes {rest : List Symbol} (hr : Closes rest) :
    scanFraction? rest = some ([], rest) := by
  cases rest with
  | nil => rfl
  | cons x rest => rcases hr with rfl | rfl | rfl <;> rfl

theorem scanExponent?_of_closes {rest : List Symbol} (hr : Closes rest) :
    scanExponent? rest = some (none, rest) := by
  cases rest with
  | nil => rfl
  | cons x rest => rcases hr with rfl | rfl | rfl <;> rfl

theorem scanUnsigned?_digits (negative : Bool) (n : Nat) {rest : List Symbol}
    (hr : Closes rest) :
    Numeral.scanUnsigned? negative ((Decimal.digits n).map some ++ rest) =
      some (⟨negative, Decimal.digits n, [], none⟩, rest) := by
  have hscan := scanDigits_append (fun c hc => Decimal.isDigit_of_mem_digits (n := n) hc) hr
  obtain ⟨c, cs, hc, hzero⟩ := Decimal.digits_eq_cons n
  unfold Numeral.scanUnsigned?
  rw [hscan, hc]
  split
  · next h => cases h
  · next h =>
    simp only [Prod.mk.injEq, List.cons.injEq] at h
    obtain ⟨⟨h0, hcs⟩, -⟩ := h
    rw [hzero h0] at hcs
    cases hcs
  · next h =>
    cases h
    simp only [Option.bind_eq_bind, Option.bind_some, scanFraction?_of_closes hr,
      scanExponent?_of_closes hr]

theorem Numeral.scan?_of_ne {c : Char} (h : c ≠ '-') (s : List Symbol) :
    scan? (some c :: s) = scanUnsigned? false (some c :: s) := by
  unfold scan?
  split
  · next he =>
    injection he with he
    injection he with he
    exact absurd he h
  · rfl

/-- **The digits of an integer give its numeral**, up to a mark. -/
theorem Numeral.scan?_intDigits (n : Int) {rest : List Symbol} (hr : Closes rest) :
    scan? ((Decimal.intDigits n).map some ++ rest) = some (ofInt n, rest) := by
  cases n with
  | ofNat n =>
    obtain ⟨c, cs, hc, -⟩ := Decimal.digits_eq_cons n
    have hne : c ≠ '-' := fun h => by
      have := Decimal.isDigit_of_mem_digits (n := n) (hc ▸ List.mem_cons_self)
      rw [h] at this
      exact absurd this (by decide)
    have h := scanUnsigned?_digits false n hr
    rw [Decimal.intDigits, ofInt, ← h, hc, List.map_cons, List.cons_append]
    exact scan?_of_ne hne _
  | negSucc n => exact scanUnsigned?_digits true (n + 1) hr

end Accounts.Json
