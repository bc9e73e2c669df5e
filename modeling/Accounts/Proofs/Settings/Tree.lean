import Accounts.Proofs.Lookup
import Accounts.Settings.Load

/-!
# Layers on a tree

A layer is laid on a tree of settings key by key. What stands under a name in the table of a section
afterwards is what the layer has there, or else what stood there before.

* `KeyPath.IsName`, `KeyPath.parse?_name`, `KeyPath.parse?_dotted`: keys of one name and of two;
* `KeyPath.isClear`: keys that are clear of a name in the table of a section;
* `Tree.valueAt`: what stands under a name in the table of a section;
* **`Tree.valueAt_putKey_of_isClear`**: the frame of one put;
* **`Tree.valueAt_lay_keys`**: a layer with keys of two names, as the environment has;
* **`Tree.valueAt_lay_tables`**: a layer of tables, as a file has.
-/

namespace Accounts.Settings

/-! ## Keys -/

namespace KeyPath

/-- A character of the names of settings. -/
def isPlain (c : Char) : Bool := c.isLower || c == '_'

theorem isNameChar_of_isPlain {c : Char} (h : isPlain c = true) : isNameChar c = true := by
  have hsplit : c.isAlphanum = (c.isUpper || c.isLower || c.isDigit) := rfl
  rw [isPlain, Bool.or_eq_true] at h
  obtain h | h := h <;> simp [isNameChar, hsplit, h]

theorem lowerChar_of_isPlain {c : Char} (h : isPlain c = true) : Text.lowerChar c = c := by
  have hbounds : 'Z'.val.toNat < c.val.toNat ∧ c.val.toNat ≤ 'z'.val.toNat := by
    have hlower : c.isLower = (decide ('a'.val ≤ c.val) && decide (c.val ≤ 'z'.val)) := rfl
    simp only [isPlain, hlower, Bool.or_eq_true, Bool.and_eq_true, decide_eq_true_eq,
      beq_iff_eq, UInt32.le_iff_toNat_le] at h
    obtain ⟨hfrom, hto⟩ | rfl := h
    · exact ⟨Nat.lt_of_lt_of_le (by decide) hfrom, hto⟩
    · decide
  have hascii : c.toNat < 0x80 := Nat.lt_of_le_of_lt hbounds.2 (by decide)
  have hupper : ¬(c.val ≥ 'A'.val ∧ c.val ≤ 'Z'.val) := by
    rintro ⟨-, hle⟩
    exact Nat.not_le.2 hbounds.1 (UInt32.le_iff_toNat_le.1 hle)
  rw [Text.lowerChar_ascii hascii]
  exact dif_neg hupper

theorem lowerFrom_of_isPlain {cs : List Char} (h : ∀ c ∈ cs, isPlain c = true)
    (before : List Char) : Text.lowerFrom before cs = cs := by
  induction cs generalizing before with
  | nil => rfl
  | cons c cs ih =>
    obtain ⟨hc, hcs⟩ := List.forall_mem_cons.1 h
    have hsigma : c ≠ 'Σ' := by rintro rfl; exact absurd hc (by decide)
    have hdotted : c ≠ 'İ' := by rintro rfl; exact absurd hc (by decide)
    rw [Text.lowerFrom, if_neg hsigma, if_neg hdotted, lowerChar_of_isPlain hc, ih hcs]
    rfl

/-- A text of the characters of the names of settings, which is a name as it stands. -/
structure IsName (n : String) : Prop where
  nonempty : n.toList ≠ []
  plain : n.toList.all isPlain = true

instance (n : String) : Decidable (IsName n) :=
  decidable_of_iff (n.toList ≠ [] ∧ n.toList.all isPlain = true)
    ⟨fun ⟨h, hplain⟩ => ⟨h, hplain⟩, fun ⟨h, hplain⟩ => ⟨h, hplain⟩⟩

theorem IsName.chars {n : String} (h : IsName n) : ∀ c ∈ n.toList, isNameChar c = true :=
  fun c hc => isNameChar_of_isPlain (List.all_eq_true.1 h.plain c hc)

theorem IsName.low {n : String} (h : IsName n) : Text.lowercase n = n := by
  rw [Text.lowercase, lowerFrom_of_isPlain (List.all_eq_true.1 h.plain), String.ofList_toList]

/-- The key of a name in the table of a section. -/
def dotted (table name : String) : String := table ++ "." ++ name

variable {table name : String}

theorem name?_append (h : IsName name) (rest : List Char)
    (hrest : ∀ c ∈ rest.head?, isNameChar c = false) :
    name? (name.toList ++ rest) = some (name, rest) := by
  have htake : (name.toList ++ rest).takeWhile isNameChar = name.toList := by
    rw [List.takeWhile_append_of_pos h.chars]
    cases rest with
    | nil => simp
    | cons c rest => rw [List.takeWhile_cons_of_neg (by simp [hrest c rfl]), List.append_nil]
  have hdrop : (name.toList ++ rest).dropWhile isNameChar = rest := by
    rw [List.dropWhile_append_of_pos h.chars]
    cases rest with
    | nil => rfl
    | cons c rest => rw [List.dropWhile_cons_of_neg (by simp [hrest c rfl])]
  unfold name?
  rw [htake, hdrop]
  split
  · exact absurd ‹_› h.nonempty
  · rw [String.ofList_toList]

theorem parse?_name (h : IsName name) : parse? name = some ⟨name, []⟩ := by
  have hname := name?_append h [] (by simp)
  rw [List.append_nil] at hname
  rw [parse?, hname]
  rfl

theorem parse?_dotted (htable : IsName table) (hname : IsName name) :
    parse? (dotted table name) = some ⟨table, [.name name]⟩ := by
  have htext : (dotted table name).toList = table.toList ++ '.' :: (name.toList ++ []) := by
    simp [dotted]
  rw [parse?, htext, name?_append htable _ (by simp; decide)]
  simp only [Option.bind_eq_bind, Option.bind_some, List.length_cons, steps?,
    name?_append hname [] (by simp)]
  rfl

/-- What is put under a key leaves a name in the table of a section as it is. -/
def isClear (key table name : String) : Bool :=
  match parse? key with
  | none => Text.lowercase key != table
  | some ⟨first, []⟩ => Text.lowercase first != table
  | some ⟨first, [.name n]⟩ => first != table || Text.lowercase n != name
  | some ⟨first, .name n :: _⟩ => first != table || n != name
  | some ⟨first, .index _ :: _⟩ => first != table

theorem isClear_table (htable : IsName table) (table' name' : String) :
    isClear table table' name' = (table != table') := by
  rw [isClear, parse?_name htable]
  dsimp only
  rw [htable.low]

theorem isClear_dotted (htable : IsName table) (hname : IsName name) (table' name' : String) :
    isClear (dotted table name) table' name' = (table != table' || name != name') := by
  rw [isClear, parse?_dotted htable hname]
  dsimp only
  rw [hname.low]

end KeyPath

open KeyPath

namespace Tree

/-! ## Values in the tables of sections -/

/-- What stands under a name in the table of a section. -/
def valueAt (here : Entries) (table name : String) : Option Tree :=
  (tableAt here table).entries.lookup name

variable {here : Entries} {table name : String} {t : Tree}

theorem lookup_of_valueAt (h : valueAt here table name = some t) :
    ∃ entries origin, here.lookup table = some (.table entries origin) ∧
      ∀ n, entries.lookup n = valueAt here table n := by
  unfold valueAt tableAt at h ⊢
  cases hfound : here.lookup table with
  | none => simp [hfound, entries] at h
  | some u =>
    rw [hfound] at h
    cases u with
    | table es origin => exact ⟨es, origin, rfl, fun n => rfl⟩
    | scalar value origin => simp [entries] at h
    | list items origin => simp [entries] at h

theorem valueAt_setEntry_self (u : Tree) :
    valueAt (setEntry table u here) table name = u.entries.lookup name := by
  rw [valueAt, tableAt, lookup_setEntry_self, Option.getD_some]

theorem valueAt_setEntry_of_ne {other : String} (h : other ≠ table) (u : Tree) :
    valueAt (setEntry table u here) other name = valueAt here other name := by
  rw [valueAt, tableAt, lookup_setEntry_of_ne h, valueAt, tableAt]

theorem valueAt_put_of_ne {other : String} (h : Text.lowercase other ≠ table) (u : Tree) :
    valueAt (put here other u) table name = valueAt here table name := by
  rw [valueAt, tableAt, lookup_put_of_ne (Ne.symm h), valueAt, tableAt]

theorem lookup_entries_getD :
    ((here.lookup table).getD default).entries.lookup name = valueAt here table name := by
  rw [valueAt, tableAt]
  cases here.lookup table <;> rfl

/-! ## Puts -/

/-- **A key that is clear of a name** in the table of a section leaves it as it is. -/
theorem valueAt_putKey_of_isClear {key : String} (h : isClear key table name = true) (t : Tree) :
    valueAt (putKey here key t) table name = valueAt here table name := by
  unfold isClear at h
  unfold putKey
  cases hpath : parse? key with
  | none =>
    simp only [hpath, bne_iff_ne] at h
    exact valueAt_put_of_ne h t
  | some path =>
    obtain ⟨first, steps⟩ := path
    -- below its first name a path changes the table that stands there, if it is the one looked at
    have hbelow (u : Tree) (h : first ≠ table ∨ u.entries.lookup name = valueAt here first name) :
        valueAt (setEntry first u here) table name = valueAt here table name := by
      by_cases hfirst : first = table
      · subst hfirst
        rw [valueAt_setEntry_self]
        exact h.resolve_left fun hne => hne rfl
      · exact valueAt_setEntry_of_ne (Ne.symm hfirst) u
    match steps with
    | [] =>
      simp only [hpath, bne_iff_ne] at h
      exact valueAt_put_of_ne h t
    | [.name n] =>
      simp only [hpath, Bool.or_eq_true, bne_iff_ne] at h
      refine hbelow _ (h.imp_right fun hn => ?_)
      rw [← lookup_entries_getD]
      exact lookup_put_of_ne (Ne.symm hn) t _
    | .name n :: step :: steps =>
      simp only [hpath, Bool.or_eq_true, bne_iff_ne] at h
      refine hbelow _ (h.imp_right fun hn => ?_)
      rw [← lookup_entries_getD]
      exact lookup_setEntry_of_ne (Ne.symm hn) _ _
    | .index i :: steps =>
      simp only [hpath, bne_iff_ne] at h
      exact hbelow _ (.inl h)

/-- A value is a table. -/
def isTable : Tree → Bool
  | .table _ _ => true
  | _ => false

theorem put_of_not_table (ht : t.isTable = false) (hname : Text.lowercase name = name) :
    put here name t = setEntry name t here := by
  cases t with
  | table es origin => cases ht
  | scalar value origin => rw [put, hname]; all_goals simp
  | list items origin => rw [put, hname]; all_goals simp

theorem valueAt_putKey_dotted (htable : IsName table) (hname : IsName name)
    (ht : t.isTable = false) :
    valueAt (putKey here (dotted table name) t) table name = some t := by
  simp only [putKey, parse?_dotted htable hname, putAt, change, put_of_not_table ht hname.low]
  rw [valueAt_setEntry_self]
  exact lookup_setEntry_self _ _ _

theorem lookup_putAll {es : Entries} (honce : (es.map Prod.fst).Nodup)
    (hself : ∀ e ∈ es, e.1 = name → Text.lowercase e.1 = e.1 ∧ e.2.isTable = false)
    (hother : ∀ e ∈ es, e.1 ≠ name → Text.lowercase e.1 ≠ name) :
    (putAll here es).lookup name = (es.lookup name).or (here.lookup name) := by
  induction es generalizing here with
  | nil => rw [putAll]; rfl
  | cons e es ih =>
    obtain ⟨n, t⟩ := e
    obtain ⟨hself, hselfs⟩ := List.forall_mem_cons.1 hself
    obtain ⟨hother, hothers⟩ := List.forall_mem_cons.1 hother
    obtain ⟨hnew, honce⟩ := List.nodup_cons.1 honce
    rw [putAll, ih honce hselfs hothers]
    by_cases hn : n = name
    · subst hn
      obtain ⟨hlow, ht⟩ := hself rfl
      rw [put_of_not_table ht hlow, lookup_of_new hnew, lookup_setEntry_self,
        List.lookup_cons_self]
      rfl
    · rw [lookup_put_of_ne (Ne.symm (hother hn)), lookup_cons_of_ne (Ne.symm hn)]

theorem valueAt_putKey_table (htable : IsName table) {es : Entries} {origin : Option String}
    (honce : (es.map Prod.fst).Nodup)
    (hself : ∀ e ∈ es, e.1 = name → Text.lowercase e.1 = e.1 ∧ e.2.isTable = false)
    (hother : ∀ e ∈ es, e.1 ≠ name → Text.lowercase e.1 ≠ name) :
    valueAt (putKey here table (.table es origin)) table name =
      (es.lookup name).or (valueAt here table name) := by
  simp only [putKey, parse?_name htable, putAt]
  cases es with
  | nil =>
    rw [put, htable.low]
    exact valueAt_setEntry_self _
  | cons e es =>
    rw [put, htable.low, valueAt_setEntry_self]
    exact lookup_putAll honce hself hother

/-! ## Layers -/

/-- **A layer of keys** goes before what it is laid on, where one key puts the value itself and the
others are clear of it. -/
theorem valueAt_lay_keys {layer : Entries} {key : String} (honce : (layer.map Prod.fst).Nodup)
    (hself : ∀ e ∈ layer, e.1 = key → ∀ here, valueAt (putKey here key e.2) table name = some e.2)
    (hother : ∀ e ∈ layer, e.1 ≠ key → isClear e.1 table name = true) :
    valueAt (lay here layer) table name =
      (layer.lookup key).or (valueAt here table name) := by
  induction layer generalizing here with
  | nil => rfl
  | cons e layer ih =>
    obtain ⟨n, t⟩ := e
    obtain ⟨hself, hselfs⟩ := List.forall_mem_cons.1 hself
    obtain ⟨hother, hothers⟩ := List.forall_mem_cons.1 hother
    obtain ⟨hnew, honce⟩ := List.nodup_cons.1 honce
    refine (ih honce hselfs hothers).trans ?_
    by_cases hn : n = key
    · subst hn
      rw [lookup_of_new hnew, hself rfl, List.lookup_cons_self]
      rfl
    · rw [valueAt_putKey_of_isClear (hother hn), lookup_cons_of_ne (Ne.symm hn)]

/-- **A layer of tables** goes before what it is laid on, where the table of the section goes before
the table there and the other names are clear of it. -/
theorem valueAt_lay_tables {layer : Entries} (honce : (layer.map Prod.fst).Nodup)
    (hself : ∀ e ∈ layer, e.1 = table → ∀ here, valueAt (putKey here table e.2) table name =
      (e.2.entries.lookup name).or (valueAt here table name))
    (hother : ∀ e ∈ layer, e.1 ≠ table → isClear e.1 table name = true) :
    valueAt (lay here layer) table name =
      (valueAt layer table name).or (valueAt here table name) := by
  induction layer generalizing here with
  | nil => rfl
  | cons e layer ih =>
    obtain ⟨n, t⟩ := e
    obtain ⟨hself, hselfs⟩ := List.forall_mem_cons.1 hself
    obtain ⟨hother, hothers⟩ := List.forall_mem_cons.1 hother
    obtain ⟨hnew, honce⟩ := List.nodup_cons.1 honce
    refine (ih honce hselfs hothers).trans ?_
    by_cases hn : n = table
    · subst hn
      rw [hself rfl]
      simp [valueAt, tableAt, lookup_of_new hnew, entries]
    · rw [valueAt_putKey_of_isClear (hother hn)]
      simp only [valueAt, tableAt, lookup_cons_of_ne (Ne.symm hn)]

end Tree

end Accounts.Settings
