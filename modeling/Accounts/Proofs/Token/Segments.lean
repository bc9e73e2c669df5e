import Accounts.Proofs.Text.Pieces
import Accounts.Proofs.Token.Claims
import Accounts.Proofs.Token.Header
import Accounts.Token.Issue

/-!
# The segments of a token

* `segments`: three texts with dots between them;
* `pieces_segments`, `pieces_eq_segments_iff`: cut at all dots, they come back, and nothing else does;
* **`cut?_eq_some_iff`**: what is cut at its last two dots was written so;
* `Signer.toList_sign`: a signed token is its header, its claims and its signature.
-/

namespace Accounts

/-- Three texts with dots between them. -/
def segments (header payload signature : List Char) : List Char :=
  header ++ '.' :: (payload ++ '.' :: signature)

variable {h p s : List Char}

theorem pieces_segments (hh : '.' ∉ h) (hp : '.' ∉ p) (hs : '.' ∉ s) :
    Text.pieces '.' (segments h p s) = [h, p, s] := by
  rw [segments, Text.pieces_append hh, Text.pieces_append hp, Text.pieces_of_not_mem hs]

theorem pieces_eq_segments_iff {cs : List Char} :
    Text.pieces '.' cs = [h, p, s] ↔ cs = segments h p s ∧ '.' ∉ h ∧ '.' ∉ p ∧ '.' ∉ s := by
  constructor
  · intro heq
    have hdots : ∀ q ∈ Text.pieces '.' cs, '.' ∉ q := Text.not_mem_of_mem_pieces
    have hjoined := Text.joined_pieces '.' cs
    rw [heq] at hdots hjoined
    rw [Text.joined_cons (List.cons_ne_nil _ _), Text.joined_cons (List.cons_ne_nil _ _)] at hjoined
    exact ⟨hjoined.symm, hdots h (by simp), hdots p (by simp), hdots s (by simp)⟩
  · rintro ⟨rfl, hh, hp, hs⟩
    exact pieces_segments hh hp hs

theorem headD_pieces_segments (hh : '.' ∉ h) :
    (Text.pieces '.' (segments h p s)).headD [] = h := by
  rw [segments, Text.pieces_append hh, List.headD_cons]

theorem segments_eq (h p s : List Char) : segments h p s = (h ++ '.' :: p) ++ '.' :: s := by
  rw [segments, List.append_assoc, List.cons_append]

namespace Signer

/-- **What is cut at its last two dots was written so.** -/
theorem cut?_eq_some_iff {token : List Char} :
    cut? token = some (h, p, s) ↔ token = segments h p s ∧ '.' ∉ p ∧ '.' ∉ s := by
  constructor
  · intro hc
    obtain ⟨⟨m, s'⟩, hm, hc⟩ := Option.bind_eq_some_iff.1 hc
    obtain ⟨⟨h', p'⟩, hp, hc⟩ := Option.bind_eq_some_iff.1 hc
    cases hc
    obtain ⟨rfl, hs⟩ := Text.cutLast?_eq_some_iff.1 hm
    obtain ⟨rfl, hdot⟩ := Text.cutLast?_eq_some_iff.1 hp
    exact ⟨(segments_eq h p s).symm, hdot, hs⟩
  · rintro ⟨rfl, hp, hs⟩
    rw [segments_eq]
    refine Option.bind_eq_some_iff.2 ⟨_, Text.cutLast?_eq_some_iff.2 ⟨rfl, hs⟩, ?_⟩
    exact Option.bind_eq_some_iff.2 ⟨_, Text.cutLast?_eq_some_iff.2 ⟨rfl, hp⟩, rfl⟩

/-! ## The segments of a signed token -/

variable (signer : Signer)

/-- The segment of some claims. -/
def payload (c : Claims) : List Char := Base64.encode .url (Utf8.encode c.json.text)

/-- The signature under some claims. -/
def signature (c : Claims) : List Char := Algorithm.hs256.sign signer.key (bytesOf (message c))

theorem toList_sign (c : Claims) :
    (signer.sign c).toList = segments (Header.text .hs256) (payload c) (signer.signature c) := by
  rw [sign, String.toList_ofList, segments_eq]
  rfl

theorem dot_not_mem_header (a : Algorithm) : '.' ∉ Header.text a :=
  Base64.dot_not_mem_encode _ _

theorem dot_not_mem_payload (c : Claims) : '.' ∉ payload c := Base64.dot_not_mem_encode _ _

theorem dot_not_mem_signature (c : Claims) : '.' ∉ signer.signature c :=
  Base64.dot_not_mem_encode _ _

theorem cut?_sign (c : Claims) : cut? (signer.sign c).toList =
    some (Header.text .hs256, payload c, signer.signature c) :=
  cut?_eq_some_iff.2 ⟨signer.toList_sign c, dot_not_mem_payload c, signer.dot_not_mem_signature c⟩

theorem pieces_sign (c : Claims) : Text.pieces '.' (signer.sign c).toList =
    [Header.text .hs256, payload c, signer.signature c] := by
  rw [toList_sign]
  exact pieces_segments (dot_not_mem_header _) (dot_not_mem_payload c)
    (signer.dot_not_mem_signature c)

theorem document?_payload {c : Claims} (hc : c.InRange) :
    Header.document? (payload c) = some ⟨c.json.node, true⟩ :=
  Header.document?_encode (Claims.isExact_json hc)

end Signer

end Accounts
