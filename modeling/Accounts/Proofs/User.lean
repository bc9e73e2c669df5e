import Accounts.Proofs.Time.Reading
import Accounts.Proofs.Token.Claims
import Accounts.User

/-!
# Users are read back

The password hash is read but never written, so that a user is read back without it.

* `Timestamp.read_isoText`, `Timestamp.isCivil_of_read`: points in time in JSON;
* `User.IsGivenBy`: the fields that make a user; **`User.read_eq_ok_iff`**: a user is read from
  them;
* **`User.read_node`**: the JSON form of a user is read as the user without the hash;
* `User.isCivil_of_read`: the points in time of a user who was read;
* **`User.json_round_trip`**: what is written is read, and what was read can be written and read.
-/

namespace Accounts

open Json Record

/-! ## Points in time -/

theorem Timestamp.read_isoText {t : Timestamp} (h : t.IsCivil) :
    Timestamp.read (.string (some t.isoText)) = .ok t := by
  refine Outcome.bind_eq_ok_iff.2 ⟨t.isoText, rfl, ?_⟩
  simp only [Timestamp.parse?_isoText h]

theorem Timestamp.isCivil_of_read {v : Node} {t : Timestamp} (h : Timestamp.read v = .ok t) :
    t.IsCivil := by
  obtain ⟨s, -, h⟩ := Outcome.bind_eq_ok_iff.1 h
  cases hs : Timestamp.parse? s with
  | none =>
    rw [hs] at h
    cases h
  | some t' =>
    rw [hs] at h
    cases h
    exact Timestamp.isCivil_of_parse? hs

namespace User

variable {u : User}

/-! ## Fields -/

/-- The fields of a record say what a user is. A hash that is absent is empty. -/
structure IsGivenBy (u : User) (f : Fields) : Prop where
  id : f.get "id" Uuid.read = .ok u.id
  name : f.get "name" readText = .ok u.name
  username : f.get "username" readText = .ok u.username
  email : f.get "email" readText = .ok u.email
  passwordHash : f.getD "password_hash" readText "" = .ok u.passwordHash
  role : f.get "role" Role.read = .ok u.role
  address : f.get "address" readText = .ok u.address
  phoneNumber : f.get "phone_number" readText = .ok u.phoneNumber
  createdAt : f.get "created_at" Timestamp.read = .ok u.createdAt
  updatedAt : f.get "updated_at" Timestamp.read = .ok u.updatedAt

/-- **A user is read from the fields of a record.** -/
theorem read_eq_ok_iff {node : Node} : User.read node = .ok u ↔
    ∃ f, Record.fields "User" User.fields node = .ok f ∧ u.IsGivenBy f := by
  constructor
  · intro h
    obtain ⟨f, hf, h⟩ := Outcome.bind_eq_ok_iff.1 h
    obtain ⟨id, hid, h⟩ := Outcome.bind_eq_ok_iff.1 h
    obtain ⟨name, hname, h⟩ := Outcome.bind_eq_ok_iff.1 h
    obtain ⟨username, husername, h⟩ := Outcome.bind_eq_ok_iff.1 h
    obtain ⟨email, hemail, h⟩ := Outcome.bind_eq_ok_iff.1 h
    obtain ⟨hash, hhash, h⟩ := Outcome.bind_eq_ok_iff.1 h
    obtain ⟨role, hrole, h⟩ := Outcome.bind_eq_ok_iff.1 h
    obtain ⟨address, haddress, h⟩ := Outcome.bind_eq_ok_iff.1 h
    obtain ⟨phoneNumber, hphone, h⟩ := Outcome.bind_eq_ok_iff.1 h
    obtain ⟨createdAt, hcreated, h⟩ := Outcome.bind_eq_ok_iff.1 h
    obtain ⟨updatedAt, hupdated, h⟩ := Outcome.bind_eq_ok_iff.1 h
    cases h
    exact ⟨f, hf, hid, hname, husername, hemail, hhash, hrole, haddress, hphone, hcreated,
      hupdated⟩
  · rintro ⟨f, hf, h⟩
    rw [User.read, hf]
    simp only [h.id, h.name, h.username, h.email, h.passwordHash, h.role, h.address, h.phoneNumber,
      h.createdAt, h.updatedAt, bind, Except.bind]
    rfl

/-! ## What is written -/

/-- The members of the JSON form. -/
def members (u : User) : List (String × Node) :=
  [("id", .string (some u.id.text)), ("name", .string (some u.name)),
    ("username", .string (some u.username)), ("email", .string (some u.email)),
    ("role", .string (some u.role.name)), ("address", .string (some u.address)),
    ("phone_number", .string (some u.phoneNumber)),
    ("created_at", .string (some u.createdAt.isoText)),
    ("updated_at", .string (some u.updatedAt.isoText))]

theorem names_members (u : User) : u.members.map Prod.fst =
    ["id", "name", "username", "email", "role", "address", "phone_number", "created_at",
      "updated_at"] := rfl

theorem isExact_json (u : User) : IsExact u.json :=
  ⟨trivial, trivial, trivial, trivial, trivial, trivial, trivial, trivial, trivial, trivial⟩

/-- **The JSON form of a user is read as the user without the hash.** -/
theorem read_node (hc : u.createdAt.IsCivil) (hu : u.updatedAt.IsCivil) :
    User.read u.json.node = .ok { u with passwordHash := "" } := by
  have hcreated := Timestamp.read_isoText hc
  have hupdated := Timestamp.read_isoText hu
  obtain ⟨f, hf, hl⟩ := exists_fields "User" User.fields u.members
    (by rw [names_members]; decide) (by
      simp only [members, List.forall_mem_cons]
      exact ⟨admits_required rfl u.id.read_text, admits_required rfl rfl, admits_required rfl rfl,
        admits_required rfl rfl, admits_required rfl u.role.read_name, admits_required rfl rfl,
        admits_required rfl rfl, admits_required rfl hcreated, admits_required rfl hupdated,
        fun _ hm => nomatch hm⟩)
    (by rw [names_members]; decide)
  have hhash : f.getD "password_hash" readText "" = .ok "" := by
    rw [Fields.getD, hl "password_hash" ⟨_, rfl⟩]
    rfl
  exact read_eq_ok_iff.2 ⟨f, hf, {
    id := get_of_lookup hl ⟨_, rfl⟩ rfl u.id.read_text
    name := get_of_lookup hl ⟨_, rfl⟩ rfl rfl
    username := get_of_lookup hl ⟨_, rfl⟩ rfl rfl
    email := get_of_lookup hl ⟨_, rfl⟩ rfl rfl
    passwordHash := hhash
    role := get_of_lookup hl ⟨_, rfl⟩ rfl u.role.read_name
    address := get_of_lookup hl ⟨_, rfl⟩ rfl rfl
    phoneNumber := get_of_lookup hl ⟨_, rfl⟩ rfl rfl
    createdAt := get_of_lookup hl ⟨_, rfl⟩ rfl hcreated
    updatedAt := get_of_lookup hl ⟨_, rfl⟩ rfl hupdated }⟩

theorem read_ofText (hc : u.createdAt.IsCivil) (hu : u.updatedAt.IsCivil) :
    (Document.ofText u.json.text).read User.read = .ok { u with passwordHash := "" } := by
  rw [Document.ofText_text u.isExact_json]
  exact Document.read_eq_ok_iff.2 ⟨read_node hc hu, rfl⟩

/-! ## What is read -/

theorem isCivil_of_read {node : Node} (h : User.read node = .ok u) :
    u.createdAt.IsCivil ∧ u.updatedAt.IsCivil := by
  obtain ⟨f, -, hf⟩ := read_eq_ok_iff.1 h
  obtain ⟨v, -, hv⟩ := get_eq_ok_iff.1 hf.createdAt
  obtain ⟨w, -, hw⟩ := get_eq_ok_iff.1 hf.updatedAt
  exact ⟨Timestamp.isCivil_of_read hv, Timestamp.isCivil_of_read hw⟩

/-- **Users are written and read back.** A user whose points in time are in years of four digits is
read back without the hash. The hash does not show in what is written. Whatever text was read as a
user, in any spelling, the user can be written and is read back. -/
theorem json_round_trip :
    (∀ u : User, u.createdAt.IsPlain → u.updatedAt.IsPlain →
      (Document.ofText u.json.text).read User.read = .ok { u with passwordHash := "" }) ∧
    (∀ (u : User) (hash : String), { u with passwordHash := hash }.json.text = u.json.text) ∧
    ∀ (text : String) (u : User), (Document.ofText text).read User.read = .ok u →
      (Document.ofText u.json.text).read User.read = .ok { u with passwordHash := "" } := by
  refine ⟨fun u hc hu => read_ofText hc.isCivil hu.isCivil, fun u hash => rfl, fun text u h => ?_⟩
  obtain ⟨hc, hu⟩ := isCivil_of_read (Document.read_eq_ok_iff.1 h).1
  exact read_ofText hc hu

/-- Alice is read back, and so is a user who was written in another order and spelling. -/
theorem json_round_trip_of_alice :
    let alice : User := ⟨Uuid.random 1, "\"Alice\"\n", "앨리스", "a@example.com", "hash", .admin, "",
      "", ⟨1700000000, 123456789⟩, ⟨-62167219200, 5000⟩⟩
    let text : String := "\x7b\"role\":\"user\",\"more\":0,\"password_hash\":\"h\"," ++
      "\"id\":\"123E4567E89B12D3A456426614174000\",\"name\":\"B\",\"username\":\"b\"," ++
      "\"email\":\"\",\"address\":\"\",\"phone_number\":\"\"," ++
      "\"created_at\":\"2024-02-29 23:59:59.5+09:00\",\"updated_at\":\"2024-3-1t0:0:0Z\"\x7d"
    (Document.ofText alice.json.text).read User.read = .ok { alice with passwordHash := "" } ∧
      { alice with passwordHash := "other" }.json.text = alice.json.text ∧
      ∃ u, (Document.ofText text).read User.read = .ok u ∧
        (Document.ofText u.json.text).read User.read = .ok { u with passwordHash := "" } := by
  intro alice text
  have hread : ((Document.ofText text).read User.read).toOption.isSome = true := by decide +kernel
  obtain ⟨u, hu⟩ := Option.isSome_iff_exists.1 hread
  have hb : (Document.ofText text).read User.read = .ok u := Outcome.toOption_eq_some_iff.1 hu
  refine ⟨json_round_trip.1 alice ⟨by decide, by decide⟩ ⟨by decide, by decide⟩,
    json_round_trip.2.1 alice "other", u, hb, json_round_trip.2.2 text u hb⟩

end User

end Accounts
