import Accounts.Proofs.Decimal
import Accounts.Proofs.Text.Blank
import Accounts.Proofs.Time.Calendar
import Accounts.Time.Reading

/-!
# Points in time are read back

* `Timestamp.IsCivil`: a point in time of the calendar, where only the last second of a minute may
  be prolonged; **`Timestamp.isCivil_of_parse?`**: what is read is one;
* `Timestamp.number?_padded`, `Timestamp.year?_yearChars`, `Timestamp.fraction?_fractionChars`: the
  parts of a text are read back, whatever follows them;
* **`Timestamp.parse?_isoText`**: the text of a point in time is read as this point;
* `Timestamp.IsPlain`: years of four digits and no leap second; `Timestamp.IsPlain.isCivil`.
-/

namespace Accounts.Timestamp

open Decimal

/-- A point in time of the calendar. Only the last second of a minute may be prolonged. -/
structure IsCivil (t : Timestamp) : Prop where
  seconds_mem : firstSecond ≤ t.seconds ∧ t.seconds ≤ lastSecond
  nanos_lt : t.nanos < 2000000000
  leap : 1000000000 ≤ t.nanos → t.seconds % 60 = 59

/-! ## What is read -/

theorem fraction?_lt {cs rest : List Char} {n : Nat} (h : fraction? cs = some (n, rest)) :
    n < 1000000000 := by
  unfold fraction? at h
  split at h
  · next cs =>
    simp only at h
    split at h
    · cases h
    · obtain ⟨rfl, -⟩ := Prod.mk.inj (Option.some.inj h)
      generalize hds : (cs.take 9).takeWhile isDigit = ds
      have hall : ∀ c ∈ ds, isDigit c = true := by
        rw [← hds]
        exact fun c => List.mem_takeWhile_imp
      have hlen : ds.length ≤ 9 := by
        rw [← hds]
        exact (List.takeWhile_sublist _).length_le.trans (List.length_take_le 9 cs)
      have hpow : Nat.pow 10 9 = Nat.pow 10 ds.length * Nat.pow 10 (9 - ds.length) := by
        have := Nat.pow_add 10 ds.length (9 - ds.length)
        rwa [Nat.add_sub_cancel' hlen] at this
      exact Nat.lt_of_lt_of_eq
        (Nat.mul_lt_mul_of_pos_right (value_lt hall) (Nat.pow_pos (by decide))) hpow.symm
  · obtain ⟨rfl, -⟩ := Prod.mk.inj (Option.some.inj h)
    decide

theorem shift?_mod {cs rest : List Char} {n : Int} (h : shift? cs = some (n, rest)) :
    n % 60 = 0 := by
  simp only [shift?, Option.bind_eq_bind, Option.bind_eq_some_iff] at h
  obtain ⟨⟨hours, cs₁⟩, -, ⟨minutes, cs₂⟩, -, h⟩ := h
  simp only at h
  split at h
  · obtain ⟨rfl, -⟩ := Prod.mk.inj (Option.some.inj h)
    omega
  · cases h

theorem offset?_mod {cs rest : List Char} {n : Int} (h : offset? cs = some (n, rest)) :
    n % 60 = 0 := by
  unfold offset? at h
  split at h
  · cases h
    rfl
  split at h
  · cases h
    rfl
  · cases h
    rfl
  · exact shift?_mod h
  · obtain ⟨⟨m, cs⟩, hm, h⟩ := Option.map_eq_some_iff.1 h
    cases h
    have := shift?_mod hm
    omega
  · obtain ⟨⟨m, cs⟩, hm, h⟩ := Option.map_eq_some_iff.1 h
    cases h
    have := shift?_mod hm
    omega
  · cases h

theorem isCivil_of_ofCivil? {date : Date} {hour minute second nanos : Nat} {offset : Int}
    {t : Timestamp} (hnanos : nanos < 1000000000) (hoffset : offset % 60 = 0)
    (h : ofCivil? date hour minute second nanos offset = some t) : t.IsCivil := by
  unfold ofCivil? at h
  split at h
  · next hin =>
    simp only [Bool.and_eq_true, decide_eq_true_eq] at hin
    simp only at h
    split at h
    · next hseconds =>
      cases h
      refine ⟨hseconds, ?_, ?_⟩
      · simp only
        split <;> omega
      · simp only
        split <;> omega
    · cases h
  · cases h

/-- **What is read is a point in time of the calendar.** -/
theorem isCivil_of_parse? {s : String} {t : Timestamp} (h : parse? s = some t) : t.IsCivil := by
  simp only [parse?, Option.bind_eq_bind, Option.bind_eq_some_iff] at h
  obtain ⟨⟨year, cs₁⟩, -, ⟨month, cs₂⟩, -, ⟨day, cs₃⟩, -, cs₄, -, ⟨hour, cs₅⟩, -, ⟨minute, cs₆⟩, -,
    ⟨second, cs₇⟩, -, ⟨nanos, cs₈⟩, hnanos, ⟨offset, cs₉⟩, hoffset, h⟩ := h
  simp only at h
  split at h
  · exact isCivil_of_ofCivil? (fraction?_lt hnanos) (offset?_mod hoffset) h
  · cases h

/-! ## What is written -/

variable {ds rest : List Char} {width n : Nat}

/-- What follows a number does not go on with it. -/
def Ends (rest : List Char) : Prop := ∀ c ∈ rest.head?, isDigit c = false

theorem Ends.cons {c : Char} (h : isDigit c = false) (cs : List Char) : Ends (c :: cs) := by
  rintro d ⟨⟩
  exact h

theorem Ends.take (h : Ends rest) (k : Nat) : Ends (rest.take k) := by
  cases k with
  | zero => exact nofun
  | succ k =>
    cases rest with
    | nil => exact nofun
    | cons c rest => exact h

theorem takeWhile_digits (hds : ∀ c ∈ ds, isDigit c = true) (hrest : Ends rest) :
    (ds ++ rest).takeWhile isDigit = ds := by
  rw [List.takeWhile_append_of_pos hds]
  cases rest with
  | nil => rw [List.takeWhile_nil, List.append_nil]
  | cons c rest => rw [List.takeWhile_cons_of_neg (by simp [hrest c rfl]), List.append_nil]

theorem dropWhile_digits (hds : ∀ c ∈ ds, isDigit c = true) (hrest : Ends rest) :
    (ds ++ rest).dropWhile isDigit = rest := by
  rw [List.dropWhile_append_of_pos hds]
  cases rest with
  | nil => rfl
  | cons c rest => rw [List.dropWhile_cons_of_neg (by simp [hrest c rfl])]

theorem afterBlanks_cons {c : Char} (h : Text.isBlank c = false) (cs : List Char) :
    afterBlanks (c :: cs) = c :: cs :=
  List.dropWhile_cons_of_neg (by simp [h])

theorem exists_padded_eq (k n : Nat) : ∃ c cs, padded k n = c :: cs ∧ isDigit c = true := by
  obtain ⟨c, cs, hcs, -⟩ := digits_eq_cons n
  have hne : padded k n ≠ [] := by
    rw [padded, hcs]
    simp
  obtain ⟨c, cs, hcs⟩ := List.exists_cons_of_ne_nil hne
  have hc : c ∈ padded k n := hcs ▸ List.mem_cons_self
  exact ⟨c, cs, hcs, isDigit_of_mem_padded hc⟩

theorem afterBlanks_padded (k n : Nat) (rest : List Char) :
    afterBlanks (padded k n ++ rest) = padded k n ++ rest := by
  obtain ⟨c, cs, hcs, hc⟩ := exists_padded_eq k n
  rw [hcs]
  exact afterBlanks_cons (Text.isBlank_of_isDigit hc) _

theorem number?_padded {k : Nat} (hlen : (padded k n).length ≤ width)
    (hrest : (padded k n).length = width ∨ Ends rest) :
    number? width (padded k n ++ rest) = some (n, rest) := by
  have hends : Ends (rest.take (width - (padded k n).length)) := by
    obtain hfull | hrest := hrest
    · rw [hfull, Nat.sub_self]
      exact nofun
    · exact hrest.take _
  have hne : padded k n ≠ [] := by
    obtain ⟨c, cs, hcs, -⟩ := exists_padded_eq k n
    rw [hcs]
    exact List.cons_ne_nil c cs
  simp only [number?, List.take_append, List.take_of_length_le hlen,
    takeWhile_digits (fun c => isDigit_of_mem_padded) hends, if_neg hne, value_padded,
    List.drop_left]

theorem number?_two (h : n < 100) (rest : List Char) :
    number? 2 (padded 2 n ++ rest) = some (n, rest) := by
  have hlen : (padded 2 n).length = 2 := length_padded (by decide) h
  exact number?_padded hlen.le (.inl hlen)

theorem marked?_padded {mark : Char} (hmark : Text.isBlank mark = false) (h : n < 100)
    (rest : List Char) : marked? mark (mark :: (padded 2 n ++ rest)) = some (n, rest) := by
  rw [marked?, afterBlanks_cons hmark]
  simp only [if_true, afterBlanks_padded, number?_two h]

theorem year?_yearChars (year : Int) (hrest : Ends rest) :
    year? (yearChars year ++ rest) = some (year, rest) := by
  unfold yearChars
  split
  · next hyear =>
    have hlen : (padded 4 year.toNat).length = 4 :=
      length_padded (by decide) (show year.toNat < 10000 by omega)
    have hnumber : number? 4 (padded 4 year.toNat ++ rest) = some (year.toNat, rest) :=
      number?_padded hlen.le (.inl hlen)
    obtain ⟨c, cs, hcs, hc⟩ := exists_padded_eq 4 year.toNat
    rw [hcs] at hnumber ⊢
    unfold year?
    split
    · next hminus =>
      obtain ⟨rfl, -⟩ := List.cons.inj hminus
      cases hc
    · next hplus =>
      obtain ⟨rfl, -⟩ := List.cons.inj hplus
      cases hc
    · rw [hnumber, Option.map_some]
      exact congrArg (fun y : Int => some (y, rest)) (Int.toNat_of_nonneg hyear.1)
  · have hnumber : number? (padded 4 year.natAbs ++ rest).length (padded 4 year.natAbs ++ rest) =
        some (year.natAbs, rest) :=
      number?_padded (by rw [List.length_append]; omega) (.inr hrest)
    split
    · next hneg =>
      rw [List.cons_append, year?, hnumber, Option.map_some]
      exact congrArg (fun y : Int => some (y, rest)) (by omega)
    · next hpos =>
      rw [List.cons_append, year?, hnumber, Option.map_some]
      exact congrArg (fun y : Int => some (y, rest)) (by omega)

theorem afterBlanks_yearChars (year : Int) (rest : List Char) :
    afterBlanks (yearChars year ++ rest) = yearChars year ++ rest := by
  unfold yearChars
  split
  · exact afterBlanks_padded _ _ _
  · split <;> exact afterBlanks_cons (by decide) _

theorem fraction?_padded {k m : Nat} (hk : 0 < k ∧ k ≤ 9) (hm : m < Nat.pow 10 k)
    (hn : m * Nat.pow 10 (9 - k) = n) (hrest : Ends rest) :
    fraction? ('.' :: padded k m ++ rest) = some (n, rest) := by
  have hlen : (padded k m).length = k := length_padded hk.1 hm
  have hne : padded k m ≠ [] := by
    rw [Ne, ← List.length_eq_zero_iff, hlen]
    omega
  have hds : ∀ c ∈ padded k m, isDigit c = true := fun c => isDigit_of_mem_padded
  have htake : ((padded k m ++ rest).take 9).takeWhile isDigit = padded k m := by
    rw [List.take_append, List.take_of_length_le (by omega), takeWhile_digits hds (hrest.take _)]
  rw [List.cons_append, fraction?]
  simp only [htake, if_neg hne, value_padded, hlen, dropWhile_digits hds hrest, hn]

theorem fraction?_fractionChars (h : n < 1000000000) (hrest : Ends rest)
    (hdot : rest.head? ≠ some '.') : fraction? (fractionChars n ++ rest) = some (n, rest) := by
  unfold fractionChars
  split
  · next hn =>
    rw [hn, List.nil_append]
    unfold fraction?
    split
    · exact absurd rfl hdot
    · rfl
  split
  · exact fraction?_padded (by decide) (show n / 1000000 < 1000 by omega)
      (show n / 1000000 * 1000000 = n by omega) hrest
  split
  · exact fraction?_padded (by decide) (show n / 1000 < 1000000 by omega)
      (show n / 1000 * 1000 = n by omega) hrest
  · exact fraction?_padded (by decide) h (Nat.mul_one n) hrest

/-! ## Points in time -/

variable {t : Timestamp}

theorem IsCivil.days_mem (h : t.IsCivil) :
    (Date.mk firstYear 1 1).days ≤ t.date.days ∧ t.date.days ≤ (Date.mk lastYear 12 31).days := by
  have hseconds := h.seconds_mem
  rw [date, Date.days_ofDays]
  unfold firstSecond lastSecond at hseconds
  omega

/-- **Date and time of day make the point in time.** -/
theorem ofCivil?_date (h : t.IsCivil) : ofCivil? t.date (t.secondOfDay / 3600)
    (t.secondOfDay / 60 % 60) (t.secondOfDay % 60 + t.nanos / 1000000000) (t.nanos % 1000000000) 0 =
      some t := by
  have hvalid : t.date.isValid = true := Date.isValid_ofDays _
  have hyear := (Date.year_mem_iff hvalid).2 h.days_mem
  have hdays : t.date.days = t.seconds / 86400 := Date.days_ofDays _
  obtain ⟨hseconds, hnanos, hleap⟩ := h
  have hday : (t.secondOfDay : Int) = t.seconds % 86400 :=
    Int.toNat_of_nonneg (Int.emod_nonneg _ (by decide))
  have hsum : t.seconds / 86400 * 86400 + ((t.secondOfDay / 3600 * 3600 +
      t.secondOfDay / 60 % 60 * 60 + min (t.secondOfDay % 60 + t.nanos / 1000000000) 59 : Nat) :
        Int) - 0 = t.seconds := by omega
  have hin : (t.date.isValid && firstYear ≤ t.date.year && t.date.year ≤ lastYear &&
      t.secondOfDay / 3600 < 24 && t.secondOfDay / 60 % 60 < 60 &&
      t.secondOfDay % 60 + t.nanos / 1000000000 ≤ 60) = true := by
    simp only [hvalid, Bool.true_and, Bool.and_eq_true, decide_eq_true_eq]
    omega
  have hnano : (if t.secondOfDay % 60 + t.nanos / 1000000000 = 60 then
      1000000000 + t.nanos % 1000000000 else t.nanos % 1000000000) = t.nanos := by
    split <;> omega
  unfold ofCivil?
  rw [if_pos hin]
  simp only [hdays, hsum, if_pos hseconds, hnano]

theorem date_lt (t : Timestamp) : t.date.month < 100 ∧ t.date.day < 100 := by
  obtain ⟨-, hmonth, -, hday⟩ := Date.isValid_iff.1 (Date.isValid_ofDays (t.seconds / 86400))
  have hdays := Date.daysInMonth_le t.date.year t.date.month
  exact ⟨Nat.lt_of_le_of_lt hmonth (by decide), Nat.lt_of_le_of_lt (hday.trans hdays) (by decide)⟩

/-- **The text of a point in time is read as this point.** -/
theorem parse?_isoText (h : t.IsCivil) : parse? t.isoText = some t := by
  have hminus : Text.isBlank '-' = false := by decide
  have hcolon : Text.isBlank ':' = false := by decide
  have hnanos := h.nanos_lt
  have hday : t.secondOfDay < 86400 := by
    unfold secondOfDay
    omega
  have hhour : t.secondOfDay / 3600 < 100 := by omega
  have hminute : t.secondOfDay / 60 % 60 < 100 := by omega
  have hsecond : t.secondOfDay % 60 + t.nanos / 1000000000 < 100 := by omega
  have hfraction : fraction? (fractionChars (t.nanos % 1000000000) ++ ['Z']) =
      some (t.nanos % 1000000000, ['Z']) :=
    fraction?_fractionChars (Nat.mod_lt _ (by decide)) (.cons (by decide) []) (by decide)
  have hoffset : offset? (afterBlanks ['Z']) = some (0, []) := by decide
  simp only [parse?, isoText, String.toList_ofList, civilChars, List.append_assoc, List.cons_append]
  rw [afterBlanks_yearChars, year?_yearChars _ (.cons (by decide) _)]
  simp only [Option.bind_eq_bind, Option.bind_some, marked?_padded hminus t.date_lt.1,
    marked?_padded hminus t.date_lt.2, separated?, afterBlanks_padded, number?_two hhour,
    marked?_padded hcolon hminute, marked?_padded hcolon hsecond, hfraction, hoffset]
  exact ofCivil?_date h

/-- A point in time in a year of four digits, and in no leap second. -/
structure IsPlain (t : Timestamp) : Prop where
  year_mem : 0 ≤ t.date.year ∧ t.date.year ≤ 9999
  nanos_lt : t.nanos < 1000000000

theorem IsPlain.isCivil (h : t.IsPlain) : t.IsCivil := by
  obtain ⟨hyear, hnanos⟩ := h
  have hvalid : t.date.isValid = true := Date.isValid_ofDays _
  have hyears : firstYear ≤ t.date.year ∧ t.date.year ≤ lastYear := by
    unfold firstYear lastYear
    omega
  have hdays := (Date.year_mem_iff hvalid).1 hyears
  rw [date, Date.days_ofDays] at hdays
  refine ⟨?_, by omega, by omega⟩
  unfold firstSecond lastSecond
  omega

end Accounts.Timestamp
