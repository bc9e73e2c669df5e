import Accounts.Account.Work
import Accounts.Proofs.Text.Blank
import Accounts.Proofs.Uuid

/-!
# The spellings of an identifier

* `Uuid.Spells`: the four forms of an identifier, with digits in either case;
* **`Uuid.parse?_eq_some_iff`**: a text is read as an identifier exactly if it is one of its forms;
* `Uuid.Spells.isFormChar`, `Uuid.Spells.isBlank`: what the characters of a form are;
* `idOf_eq_ok_iff_trimmed`, **`idOf_eq_ok_iff`**: blanks may stand around a form.
-/

namespace Accounts

namespace Uuid

/-- The digits of an identifier, in either case. -/
def IsWritten (u : Uuid) (ds : List Char) : Prop := ds.mapM digit? = some u.digits

/-- The forms of an identifier: digits without hyphens, with hyphens, with hyphens in braces, and
with hyphens after the name of the scheme. -/
inductive Spells (u : Uuid) : List Char → Prop
  | simple {ds : List Char} (h : u.IsWritten ds) : Spells u ds
  | hyphenated {ds : List Char} (h : u.IsWritten ds) : Spells u (hyphenated groups ds)
  | braced {ds : List Char} (h : u.IsWritten ds) :
    Spells u ('\x7b' :: hyphenated groups ds ++ ['\x7d'])
  | urn {ds scheme : List Char} (h : u.IsWritten ds) (hscheme : scheme ∈ schemes) :
    Spells u (scheme ++ hyphenated groups ds)

variable {u v : Uuid} {ds cs : List Char}

/-! ## Digits -/

theorem length_of_mapM_digit? {digits : List (Fin 16)} (h : ds.mapM digit? = some digits) :
    ds.length = digits.length := by
  induction ds generalizing digits with
  | nil =>
    cases h
    rfl
  | cons c ds ih =>
    rw [List.mapM_cons] at h
    obtain ⟨d, -, h⟩ := Option.bind_eq_some_iff.1 h
    obtain ⟨more, hmore, h⟩ := Option.bind_eq_some_iff.1 h
    cases h
    rw [List.length_cons, List.length_cons, ih hmore]

theorem exists_digit_of_mapM {digits : List (Fin 16)} (h : ds.mapM digit? = some digits) {c : Char}
    (hc : c ∈ ds) : ∃ d, digit? c = some d := by
  induction ds generalizing digits with
  | nil => cases hc
  | cons c' ds ih =>
    rw [List.mapM_cons] at h
    obtain ⟨d, hd, h⟩ := Option.bind_eq_some_iff.1 h
    obtain ⟨more, hmore, -⟩ := Option.bind_eq_some_iff.1 h
    obtain rfl | hc := List.mem_cons.1 hc
    · exact ⟨d, hd⟩
    · exact ih hmore hc

theorem IsWritten.length (h : u.IsWritten ds) : ds.length = 32 :=
  (length_of_mapM_digit? h).trans u.length_eq

theorem IsWritten.not_mem {c : Char} (h : u.IsWritten ds) (hc : digit? c = none) : c ∉ ds := by
  intro hmem
  obtain ⟨d, hd⟩ := exists_digit_of_mapM h hmem
  rw [hc] at hd
  cases hd

theorem IsWritten.hyphen_not_mem (h : u.IsWritten ds) : '-' ∉ ds := h.not_mem (by decide)

theorem isWritten_digits (u : Uuid) : u.IsWritten (u.digits.map digitChar) := mapM_digit? u.digits

/-! ## Groups -/

theorem length_hyphenated {sizes : List Nat} (hne : sizes ≠ [])
    (h : cs.length = sizes.foldr (· + ·) 0) :
    (hyphenated sizes cs).length + 1 = cs.length + sizes.length := by
  induction sizes generalizing cs with
  | nil => exact absurd rfl hne
  | cons n sizes ih =>
    rw [List.foldr_cons] at h
    by_cases hs : sizes = []
    · subst hs
      rw [hyphenated, List.length_take, List.length_singleton]
      rw [List.foldr_nil] at h
      omega
    · have hdrop : (cs.drop n).length = sizes.foldr (· + ·) 0 := by
        rw [List.length_drop]
        omega
      have hrest := ih hs hdrop
      rw [List.length_drop] at hrest
      rw [hyphenated_cons hs, List.length_append, List.length_cons, List.length_take,
        List.length_cons]
      omega

theorem count_hyphenated {sizes : List Nat} (hne : sizes ≠ []) (h : '-' ∉ cs) :
    (hyphenated sizes cs).count '-' + 1 = sizes.length := by
  induction sizes generalizing cs with
  | nil => exact absurd rfl hne
  | cons n sizes ih =>
    by_cases hs : sizes = []
    · subst hs
      rw [hyphenated, List.count_eq_zero_of_not_mem fun hm => h (List.mem_of_mem_take hm)]
      rfl
    · have hdrop : '-' ∉ cs.drop n := fun hm => h (List.mem_of_mem_drop hm)
      have hrest := ih hs hdrop
      rw [hyphenated_cons hs, List.count_append, List.count_cons_self,
        List.count_eq_zero_of_not_mem fun hm => h (List.mem_of_mem_take hm), List.length_cons]
      omega

theorem mem_hyphenated {sizes : List Nat} {c : Char} (h : c ∈ hyphenated sizes cs) :
    c = '-' ∨ c ∈ cs := by
  induction sizes generalizing cs with
  | nil => cases h
  | cons n sizes ih =>
    by_cases hs : sizes = []
    · subst hs
      exact .inr (List.mem_of_mem_take h)
    · rw [hyphenated_cons hs] at h
      obtain h | h := List.mem_append.1 h
      · exact .inr (List.mem_of_mem_take h)
      · obtain rfl | h := List.mem_cons.1 h
        · exact .inl rfl
        · exact (ih h).imp_right List.mem_of_mem_drop

theorem joined_eq_hyphenated (gs : List (List Char)) :
    Text.joined ['-'] gs = hyphenated (gs.map List.length) gs.flatten := by
  induction gs with
  | nil => rfl
  | cons g gs ih =>
    by_cases hgs : gs = []
    · subst hgs
      simp [Text.joined, hyphenated]
    · rw [Text.joined_cons hgs, ih, List.map_cons, List.flatten_cons,
        hyphenated_cons (by simpa using hgs), List.take_left, List.drop_left]

theorem IsWritten.length_hyphenated (h : u.IsWritten ds) :
    (hyphenated groups ds).length = 36 := by
  have hlen : ds.length = groups.foldr (· + ·) 0 := h.length
  have := Uuid.length_hyphenated (by decide) hlen
  rw [h.length] at this
  have hsize : groups.length = 5 := rfl
  omega

/-! ## Readers -/

theorem parseSimple?_eq_some_iff : parseSimple? cs = some u ↔ u.IsWritten cs := by
  rw [parseSimple?, IsWritten, Option.bind_eq_bind, Option.bind_eq_some_iff]
  constructor
  · rintro ⟨digits, hdigits, h⟩
    unfold ofDigits? at h
    split at h <;> cases h
    exact hdigits
  · intro h
    exact ⟨u.digits, h, dif_pos u.length_eq⟩

theorem parseHyphenated?_eq_some_iff :
    parseHyphenated? cs = some u ↔ ∃ ds, u.IsWritten ds ∧ cs = hyphenated groups ds := by
  unfold parseHyphenated?
  constructor
  · intro h
    dsimp only at h
    split at h
    · next hsizes =>
      refine ⟨_, parseSimple?_eq_some_iff.1 h, ?_⟩
      rw [← hsizes, ← joined_eq_hyphenated, Text.joined_pieces]
    · cases h
  · rintro ⟨ds, h, rfl⟩
    have hlen : ds.length = groups.foldr (· + ·) 0 := h.length
    obtain ⟨hsizes, hds⟩ := pieces_hyphenated (by decide) h.hyphen_not_mem hlen
    simp only [hsizes, if_true, hds, parseSimple?_eq_some_iff.2 h]

theorem parseBraced?_eq_some_iff :
    parseBraced? cs = some u ↔
      ∃ ds, u.IsWritten ds ∧ cs = '\x7b' :: hyphenated groups ds ++ ['\x7d'] := by
  unfold parseBraced?
  split
  · next inner =>
    constructor
    · intro h
      split at h
      · next hlast =>
        obtain ⟨hyphened, rfl⟩ := List.getLast?_eq_some_iff.1 hlast
        rw [List.dropLast_concat] at h
        obtain ⟨ds, hds, rfl⟩ := parseHyphenated?_eq_some_iff.1 h
        exact ⟨ds, hds, rfl⟩
      · cases h
    · rintro ⟨ds, hds, h⟩
      obtain rfl : inner = hyphenated groups ds ++ ['\x7d'] := (List.cons.inj h).2
      rw [if_pos (by simp), List.dropLast_concat]
      exact parseHyphenated?_eq_some_iff.2 ⟨ds, hds, rfl⟩
  · next hbrace =>
    constructor
    · nofun
    · rintro ⟨ds, -, rfl⟩
      exact absurd rfl (hbrace _)

theorem findSome?_schemes_eq_some_iff {rest : List Char} :
    schemes.findSome? (Text.dropStart? · cs) = some rest ↔
      ∃ scheme ∈ schemes, cs = scheme ++ rest := by
  constructor
  · intro h
    obtain ⟨scheme, hscheme, hrest⟩ := List.exists_of_findSome?_eq_some h
    exact ⟨scheme, hscheme, Text.dropStart?_eq_some_iff.1 hrest⟩
  · simp only [schemes, List.mem_cons, List.not_mem_nil, or_false]
    rintro ⟨scheme, rfl | rfl, rfl⟩ <;> simp [Text.dropStart?]

theorem parseUrn?_eq_some_iff :
    parseUrn? cs = some u ↔
      ∃ ds, u.IsWritten ds ∧ ∃ scheme ∈ schemes, cs = scheme ++ hyphenated groups ds := by
  unfold parseUrn?
  constructor
  · intro h
    split at h
    · next rest hrest =>
      obtain ⟨scheme, hscheme, rfl⟩ := findSome?_schemes_eq_some_iff.1 hrest
      obtain ⟨ds, hds, rfl⟩ := parseHyphenated?_eq_some_iff.1 h
      exact ⟨ds, hds, scheme, hscheme, rfl⟩
    · cases h
  · rintro ⟨ds, hds, scheme, hscheme, rfl⟩
    rw [findSome?_schemes_eq_some_iff.2 ⟨scheme, hscheme, rfl⟩]
    exact parseHyphenated?_eq_some_iff.2 ⟨ds, hds, rfl⟩

/-! ## Forms -/

theorem length_scheme {scheme : List Char} (h : scheme ∈ schemes) : scheme.length = 9 := by
  revert scheme
  decide

/-- Forms of different kinds have different lengths, so that none is taken for another. -/
theorem parseSimple?_eq_none (h : cs.length ≠ 32) : parseSimple? cs = none :=
  Option.eq_none_iff_forall_ne_some.2 fun _ hv => h (parseSimple?_eq_some_iff.1 hv).length

theorem parseHyphenated?_eq_none (h : cs.length ≠ 36) : parseHyphenated? cs = none := by
  refine Option.eq_none_iff_forall_ne_some.2 fun v hv => h ?_
  obtain ⟨ds, hds, rfl⟩ := parseHyphenated?_eq_some_iff.1 hv
  exact hds.length_hyphenated

theorem parseBraced?_eq_none (h : cs.length ≠ 38) : parseBraced? cs = none := by
  refine Option.eq_none_iff_forall_ne_some.2 fun v hv => h ?_
  obtain ⟨ds, hds, rfl⟩ := parseBraced?_eq_some_iff.1 hv
  rw [List.length_append, List.length_cons, hds.length_hyphenated]
  rfl

/-- **A text is read as an identifier exactly if it is one of its forms.** -/
theorem parse?_eq_some_iff {s : String} : parse? s = some u ↔ u.Spells s.toList := by
  simp only [parse?]
  constructor
  · intro h
    obtain h | ⟨-, h⟩ := Option.or_eq_some_iff.1 h
    · exact .simple (parseSimple?_eq_some_iff.1 h)
    obtain h | ⟨-, h⟩ := Option.or_eq_some_iff.1 h
    · obtain ⟨ds, hds, hs⟩ := parseHyphenated?_eq_some_iff.1 h
      exact hs ▸ .hyphenated hds
    obtain h | ⟨-, h⟩ := Option.or_eq_some_iff.1 h
    · obtain ⟨ds, hds, hs⟩ := parseBraced?_eq_some_iff.1 h
      exact hs ▸ .braced hds
    · obtain ⟨ds, hds, scheme, hscheme, hs⟩ := parseUrn?_eq_some_iff.1 h
      exact hs ▸ .urn hds hscheme
  · generalize s.toList = cs
    rintro (h | h | h | ⟨h, hscheme⟩)
    · rw [parseSimple?_eq_some_iff.2 h, Option.some_or]
    all_goals have hlen := h.length_hyphenated
    · rw [parseSimple?_eq_none (by omega), parseHyphenated?_eq_some_iff.2 ⟨_, h, rfl⟩,
        Option.none_or, Option.some_or]
    · rw [parseSimple?_eq_none (by simp [hlen]), parseHyphenated?_eq_none (by simp [hlen]),
        parseBraced?_eq_some_iff.2 ⟨_, h, rfl⟩, Option.none_or, Option.none_or, Option.some_or]
    · have hname := length_scheme hscheme
      rw [parseSimple?_eq_none (by simp [hlen, hname]),
        parseHyphenated?_eq_none (by simp [hlen, hname]),
        parseBraced?_eq_none (by simp [hlen, hname]),
        parseUrn?_eq_some_iff.2 ⟨_, h, _, hscheme, rfl⟩, Option.none_or, Option.none_or,
        Option.none_or]

theorem Spells.unique (hu : u.Spells cs) (hv : v.Spells cs) : u = v := by
  rw [← String.toList_ofList (l := cs), ← parse?_eq_some_iff] at hu hv
  exact Option.some.inj (hu.symm.trans hv)

theorem spells_chars (u : Uuid) : u.Spells u.chars := .hyphenated u.isWritten_digits

/-! ## Characters of forms -/

/-- Characters of forms are visible, and none of them parts a path. -/
def IsFormChar (c : Char) : Prop := (0x20 < c.toNat ∧ c.toNat < 0x7F) ∧ c ≠ '/'

instance : DecidablePred IsFormChar := fun _ => inferInstanceAs (Decidable (_ ∧ _))

theorem isFormChar_of_digit? {c : Char} {d : Fin 16} (h : digit? c = some d) : IsFormChar c := by
  have hslash : c ≠ '/' := by
    rintro rfl
    cases h
  unfold digit? at h
  simp only [Char.le_def, UInt32.le_iff_toNat_le] at h
  refine ⟨?_, hslash⟩
  have hval : c.val.toNat = c.toNat := rfl
  rw [hval] at h
  simp only [Char.reduceVal, UInt32.reduceToNat] at h
  split at h
  · omega
  split at h
  · omega
  split at h
  · omega
  · cases h

theorem IsWritten.isFormChar (h : u.IsWritten ds) : ∀ c ∈ hyphenated groups ds, IsFormChar c := by
  intro c hc
  obtain rfl | hc := mem_hyphenated hc
  · decide
  · obtain ⟨d, hd⟩ := exists_digit_of_mapM h hc
    exact isFormChar_of_digit? hd

theorem Spells.isFormChar (h : u.Spells cs) : ∀ c ∈ cs, IsFormChar c := by
  have hschemes : schemes.all (fun scheme => scheme.all fun c => IsFormChar c) = true := by decide
  intro c hc
  cases h with
  | simple h =>
    obtain ⟨d, hd⟩ := exists_digit_of_mapM h hc
    exact isFormChar_of_digit? hd
  | hyphenated h => exact h.isFormChar c hc
  | braced h =>
    rw [List.cons_append, List.mem_cons, List.mem_append, List.mem_singleton] at hc
    obtain rfl | hc | rfl := hc
    · decide
    · exact h.isFormChar c hc
    · decide
  | urn h hscheme =>
    obtain hc | hc := List.mem_append.1 hc
    · exact of_decide_eq_true (List.all_eq_true.1 (List.all_eq_true.1 hschemes _ hscheme) c hc)
    · exact h.isFormChar c hc

theorem Spells.isBlank (h : u.Spells cs) : ∀ c ∈ cs, Text.isBlank c = false := fun c hc =>
  Text.isBlank_of_visible (h.isFormChar c hc).1

end Uuid

theorem idOf_eq_ok_iff_trimmed {id : String} {u : Uuid} :
    idOf id = .ok u ↔ u.Spells (Text.trimmed id).toList := by
  rw [← Uuid.parse?_eq_some_iff]
  unfold idOf
  cases Uuid.parse? (Text.trimmed id) <;> simp

/-- **An identifier is accepted in each of its forms, with blanks around.** -/
theorem idOf_eq_ok_iff {id : String} {u : Uuid} :
    idOf id = .ok u ↔ ∃ form, u.Spells form ∧ Text.Around form id.toList := by
  rw [idOf_eq_ok_iff_trimmed, Text.trimmed, String.toList_ofList]
  constructor
  · exact fun h => ⟨_, h, Text.around_trimmedChars _⟩
  · rintro ⟨form, h, haround⟩
    rwa [Text.trimmedChars_of_around h.isBlank haround]

end Accounts
