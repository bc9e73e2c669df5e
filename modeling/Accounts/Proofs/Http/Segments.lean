import Mathlib.Data.List.TakeWhile
import Accounts.Http.Serve
import Accounts.Proofs.Json.Scanning
import Accounts.Proofs.Text.Pieces
import Accounts.Proofs.Text.Utf8

/-!
# Texts in paths

A text stands in a path with each of its bytes as a percent sign and two digits, so that it parts
nothing and is taken for no other endpoint.

* `escapedByte`, `escaped`, `userTarget`: a byte and a text as they stand in a path, and the target
  for a user;
* **`percentDecoded_flatMap`**, `pathId?_escaped`: bytes and texts are read back;
* `Endpoint.ofPath?_lookUp`: the endpoint of a user, whatever the text;
* **`exists_target_iff`**: every text but the empty one can be asked for.
-/

namespace Accounts

/-- A byte as it stands in a path. -/
def escapedByte (b : UInt8) : List Char :=
  ['%', Json.hexDigit (b.toNat / 16), Json.hexDigit (b.toNat % 16)]

/-- A text as it stands in a path. -/
def escaped (s : String) : List Char := (Utf8.encode s).flatMap escapedByte

/-! ## Reading back -/

theorem percentDecoded_escapedByte (b : UInt8) (cs : List Char) :
    percentDecoded (escapedByte b ++ cs) = b :: percentDecoded cs := by
  have hb : b.toNat < 256 := b.toNat_lt
  have hhigh : Text.hexDigit? (Json.hexDigit (b.toNat / 16)) = some (b.toNat / 16) :=
    Json.hexValue?_hexDigit _ (by omega)
  have hlow : Text.hexDigit? (Json.hexDigit (b.toNat % 16)) = some (b.toNat % 16) :=
    Json.hexValue?_hexDigit _ (by omega)
  have hvalue : (16 * (b.toNat / 16) + b.toNat % 16).toUInt8 = b := by
    rw [Nat.div_add_mod]
    exact UInt8.ofNat_toNat
  simp only [escapedByte, List.cons_append, List.nil_append, percentDecoded, hhigh, hlow, hvalue]

/-- **Bytes are read back.** -/
theorem percentDecoded_flatMap (bytes : Bytes) :
    percentDecoded (bytes.flatMap escapedByte) = bytes := by
  induction bytes with
  | nil => rfl
  | cons b bytes ih => rw [List.flatMap_cons, percentDecoded_escapedByte, ih]

theorem pathId?_escaped (s : String) : pathId? (escaped s) = some s := by
  rw [pathId?, escaped, percentDecoded_flatMap, Utf8.decode?_encode]

theorem ne_empty_of_pathId? {written : List Char} {id : String} (h : pathId? written = some id)
    (hwritten : written ≠ []) : id ≠ "" := by
  refine Utf8.ne_empty_of_decode? h ?_
  unfold percentDecoded
  split
  · split <;> exact List.cons_ne_nil _ _
  · next c cs _ =>
    rw [Ne, List.append_eq_nil_iff, not_and]
    intro hc
    have hsize := String.length_utf8EncodeChar c
    rw [hc] at hsize
    exact absurd hsize (Nat.ne_of_lt c.utf8Size_pos)
  · exact absurd rfl hwritten

/-! ## Endpoints -/

theorem exists_escaped_eq {s : String} (h : s ≠ "") : ∃ cs, escaped s = '%' :: cs := by
  unfold escaped
  cases hbytes : Utf8.encode s with
  | nil =>
    refine absurd (Option.some.inj ?_) h
    rw [← Utf8.decode?_encode, hbytes]
    rfl
  | cons b bytes => exact ⟨_, rfl⟩

/-- The characters that end a part of a target. -/
def targetMarks : List Char := ['/', '?', '#']

theorem hexDigit_not_mem_targetMarks : ∀ n < 16, Json.hexDigit n ∉ targetMarks := by decide

theorem not_mem_targetMarks {s : String} : ∀ c ∈ escaped s, c ∉ targetMarks := by
  intro c hc
  obtain ⟨b, -, hb⟩ := List.mem_flatMap.1 hc
  have hlt : b.toNat < 256 := b.toNat_lt
  simp only [escapedByte, List.mem_cons, List.not_mem_nil, or_false] at hb
  obtain rfl | rfl | rfl := hb
  · decide
  · exact hexDigit_not_mem_targetMarks _ (by omega)
  · exact hexDigit_not_mem_targetMarks _ (by omega)

theorem targetPath_of_slash {cs : List Char} (hcs : ∃ rest, cs = '/' :: rest)
    (h : ∀ c ∈ cs, c ≠ '?' ∧ c ≠ '#') : targetPath (String.ofList cs) = String.ofList cs := by
  have hwhole : cs.takeWhile (fun c => c ≠ '?' ∧ c ≠ '#') = cs := by
    rw [List.takeWhile_eq_self_iff]
    exact fun c hc => decide_eq_true (h c hc)
  obtain ⟨rest, rfl⟩ := hcs
  rw [targetPath, String.toList_ofList]
  simp only [hwhole]

/-- The target for a user by a text. -/
def userTarget (id : String) : String :=
  String.ofList ("/api/v1/accounts".toList ++ '/' :: escaped id)

theorem toList_userTarget (id : String) :
    (userTarget id).toList = "/api/v1/accounts".toList ++ '/' :: escaped id := String.toList_ofList

theorem targetPath_userTarget (id : String) : targetPath (userTarget id) = userTarget id := by
  have hstart : "/api/v1/accounts".toList = '/' :: "api/v1/accounts".toList := by decide
  have hmarks : "/api/v1/accounts".toList.all (fun c => c ≠ '?' ∧ c ≠ '#') = true := by decide
  refine targetPath_of_slash ⟨_, by rw [hstart, List.cons_append]⟩ fun c hc => ?_
  obtain hc | hc := List.mem_append.1 hc
  · exact of_decide_eq_true (List.all_eq_true.1 hmarks c hc)
  obtain rfl | hc := List.mem_cons.1 hc
  · decide
  · have := not_mem_targetMarks c hc
    simp only [targetMarks, List.mem_cons, List.not_mem_nil, or_false, not_or] at this
    exact this.2

namespace Endpoint

theorem ofSegments?_percent (cs : List Char) :
    ofSegments? ['%' :: cs] = some (.lookUp ('%' :: cs)) := by
  have hne {name : String} (hname : name.toList.head? ≠ some '%') :
      String.ofList ('%' :: cs) ≠ name := by
    rintro rfl
    exact hname (by rw [String.toList_ofList]; rfl)
  simp only [ofSegments?]
  split
  all_goals first
    | rfl
    | next h => exact absurd h (hne (by decide))

theorem ofPath?_of_pieces {path : String} {rest : List (List Char)}
    (h : Text.pieces '/' path.toList = accountsPath ++ rest) : ofPath? path = ofSegments? rest := by
  have hlive : accountsPath ++ rest ≠ [[], "health".toList] := by simp [accountsPath]
  have hready : accountsPath ++ rest ≠ [[], "health".toList, "ready".toList] := by
    simp [accountsPath]
  have hfour : accountsPath.length = 4 := rfl
  simp only [ofPath?, h]
  rw [if_neg hlive, if_neg hready, if_pos (by rw [← hfour, List.take_left]), ← hfour,
    List.drop_left]

theorem ofPath?_lookUp {id : String} (h : id ≠ "") :
    ofPath? (userTarget id) = some (.lookUp (escaped id)) := by
  have hslash : '/' ∉ escaped id := fun hmem => not_mem_targetMarks '/' hmem (by decide)
  have haccounts : Text.pieces '/' "/api/v1/accounts".toList = accountsPath := by decide
  have hpieces : Text.pieces '/' (userTarget id).toList = accountsPath ++ [escaped id] := by
    rw [toList_userTarget, Text.pieces_append_sep, haccounts, Text.pieces_of_not_mem hslash]
  obtain ⟨cs, hcs⟩ := exists_escaped_eq h
  rw [ofPath?_of_pieces hpieces, hcs, ofSegments?_percent]

theorem ne_nil_of_ofSegments? {segments : List (List Char)} {written : List Char}
    (h : ofSegments? segments = some (.lookUp written)) : written ≠ [] := by
  unfold ofSegments? at h
  split at h
  · cases h
  · cases h
  · next name hname =>
    split at h <;> cases h
    exact hname
  · split at h <;> cases h
  · cases h

theorem ne_nil_of_ofPath? {path : String} {written : List Char}
    (h : ofPath? path = some (.lookUp written)) : written ≠ [] := by
  unfold ofPath? at h
  simp only at h
  split at h
  · cases h
  split at h
  · cases h
  split at h
  · exact ne_nil_of_ofSegments? h
  · cases h

end Endpoint

/-- **Every text but the empty one can be asked for**, as the name of a user in a target. -/
theorem exists_target_iff {id : String} :
    (∃ target written, Endpoint.ofPath? (targetPath target) = some (.lookUp written) ∧
      pathId? written = some id) ↔ id ≠ "" := by
  constructor
  · rintro ⟨target, written, hpath, hid⟩
    exact ne_empty_of_pathId? hid (Endpoint.ne_nil_of_ofPath? hpath)
  · intro h
    refine ⟨userTarget id, escaped id, ?_, pathId?_escaped id⟩
    rw [targetPath_userTarget]
    exact Endpoint.ofPath?_lookUp h

end Accounts
