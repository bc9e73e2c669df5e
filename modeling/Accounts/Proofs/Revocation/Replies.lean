import Accounts.Proofs.Outcome
import Accounts.Proofs.Revocation.Redis

/-!
# What a store in Redis makes of replies

Each call is one command, and a server may reply anything to it. Not every reply that answers the
command is taken for a failure: any reply but an error acknowledges a put, and some replies that are
no numbers are read as truth values.

* `RedisTalk`: a conversation with a server that may reply anything; `RedisTalk.tell`: one more
  command;
* `RedisStore.putIn`, `RedisStore.containsIn`, `RedisStore.talk`: calls in a conversation;
* `RedisReply.Acknowledges`, `RedisReply.Answers`: the replies that settle a call;
  `RedisReply.coerced`: other replies that are read as truth values;
* **`RedisReply.truth_eq_ok_iff`**: which replies are truth values;
* `RedisStore.talk_eq`: calls and commands are one to one;
* **`RedisStore.replies_decide`**: what a reply makes of a call after any others, and for which
  replies no call succeeds that the server did not settle;
* `RedisStore.nil_settles_calls`: a reply that settles nothing, and calls that succeed on it.
-/

namespace Accounts

/-! ## Conversations -/

/-- A conversation with a server that may reply anything: what it replies to the last of some
commands, and the commands that it got. -/
structure RedisTalk where
  replyTo : List (List String) → RedisReply
  commands : List (List String) := []

/-- The reply to one more command, and the conversation with it. -/
def RedisTalk.tell (t : RedisTalk) (command : List String) : RedisReply × RedisTalk :=
  let commands := t.commands ++ [command]
  (t.replyTo commands, { t with commands := commands })

namespace RedisStore

variable (s : RedisStore)

/-- The command of a call. -/
def command : StoreCall → List String
  | .contains id => s.containsCommand id
  | .put id ttl => s.putCommand id ttl

/-- Revokes a token for some nanoseconds. -/
def putIn (t : RedisTalk) (id : String) (ttl : Nat) : Except RevocationFault Unit × RedisTalk :=
  let (reply, t) := t.tell (s.putCommand id ttl)
  (s.afterPut reply, t)

/-- Whether a token is revoked. -/
def containsIn (t : RedisTalk) (id : String) : Except RevocationFault Bool × RedisTalk :=
  let (reply, t) := t.tell (s.containsCommand id)
  (s.afterContains reply, t)

/-- The conversation after a call. -/
def talkOn (t : RedisTalk) : StoreCall → RedisTalk
  | .contains id => (s.containsIn t id).2
  | .put id ttl => (s.putIn t id ttl).2

/-- The conversation after many calls, one after the other. -/
def talk (t : RedisTalk) (calls : List StoreCall) : RedisTalk := calls.foldl s.talkOn t

end RedisStore

/-! ## Replies -/

namespace RedisReply

/-- A server acknowledges with one word. -/
def Acknowledges (r : RedisReply) : Prop := r = .simple "OK"

/-- A server answers with the number of keys that it has. -/
def Answers (r : RedisReply) (b : Bool) : Prop := ∃ n, r = .integer n ∧ b = decide (n ≠ 0)

/-- Replies that are no numbers, and the truth values that they are read as. -/
def coerced : List (RedisReply × Bool) :=
  [(.nil, false), (.simple "0", false), (.bulk "0", false), (.simple "OK", true),
    (.simple "1", true), (.bulk "1", true)]

/-- There is no reply in time, or it is an error. -/
def Fails (r : RedisReply) : Prop := r = .silence ∨ ∃ line, r = .error line

variable {r : RedisReply} {b : Bool}

/-- **The replies that are truth values** are numbers and those that are coerced. -/
theorem truth_eq_ok_iff : r.truth = .ok b ↔ r.Answers b ∨ (r, b) ∈ coerced := by
  cases r with
  | nil => simp [truth, Answers, coerced, eq_comm]
  | integer n => simp [truth, Answers, coerced, eq_comm]
  | error line => simp [truth, mismatch, Answers, coerced]
  | silence => simp [truth, mismatch, Answers, coerced]
  | simple text =>
    unfold truth
    split <;> simp_all [Answers, coerced, mismatch, eq_comm]
  | bulk text =>
    unfold truth
    split <;> simp_all [Answers, coerced, mismatch, eq_comm]

theorem not_fails_of_answers (h : r.Answers b ∨ (r, b) ∈ coerced) : ¬r.Fails := by
  rintro (rfl | ⟨line, rfl⟩) <;> simp [Answers, coerced] at h

theorem not_answers_of_coerced (h : (r, b) ∈ coerced) (c : Bool) : ¬r.Answers c := by
  rintro ⟨n, rfl, -⟩
  simp [coerced] at h

theorem exists_of_truth_eq_error {f : RevocationFault} (h : r.truth = .error f) :
    ∃ text, f = .unavailable text := by
  unfold truth at h
  split at h <;> cases h <;> exact ⟨_, rfl⟩

end RedisReply

/-! ## What a reply decides -/

namespace RedisStore

/-- What the reply to a put decides. A put succeeds on an acknowledgement alone exactly where there
is one, or the reply fails. -/
structure SettlesPut (s : RedisStore) (r : RedisReply) (x : Except RevocationFault Unit) :
    Prop where
  done : x = .ok () ↔ ¬r.Fails
  late : x = .error (.timeout s.timeoutMs) ↔ r = .silence
  failed : ∀ text, x = .error (.unavailable text) ↔
    ∃ line, r = .error line ∧ text = RedisReply.errorText line
  acknowledged : (x = .ok () → r.Acknowledges) ↔ r.Acknowledges ∨ r.Fails

/-- What the reply to a question decides. What is told is what the server answers exactly where the
reply is not coerced. -/
structure SettlesQuestion (s : RedisStore) (r : RedisReply) (x : Except RevocationFault Bool) :
    Prop where
  told : ∀ b, x = .ok b ↔ r.Answers b ∨ (r, b) ∈ RedisReply.coerced
  late : x = .error (.timeout s.timeoutMs) ↔ r = .silence
  failed : (∃ text, x = .error (.unavailable text)) ↔
    r ≠ .silence ∧ ∀ b, ¬r.Answers b ∧ (r, b) ∉ RedisReply.coerced
  answered : (∀ b, x = .ok b → r.Answers b) ↔ ∀ b, (r, b) ∉ RedisReply.coerced

variable {s : RedisStore} {r : RedisReply}

theorem heard_of_not_fails (h : ¬r.Fails) : s.heard r = .ok r := by
  cases r with
  | silence => exact absurd (.inl rfl) h
  | error line => exact absurd (.inr ⟨line, rfl⟩) h
  | simple text => rfl
  | bulk text => rfl
  | integer n => rfl
  | nil => rfl

/-- **A put succeeds on every reply that does not fail.** -/
theorem settlesPut_afterPut (s : RedisStore) (r : RedisReply) : s.SettlesPut r (s.afterPut r) := by
  by_cases h : r.Fails
  · obtain rfl | ⟨line, rfl⟩ := h
    · exact ⟨by simp [afterPut, heard, RedisReply.Fails], by simp [afterPut, heard],
        by simp [afterPut, heard], by simp [afterPut, heard, RedisReply.Fails]⟩
    · refine ⟨?_, ?_, fun text => ?_, ?_⟩ <;>
        simp [afterPut, heard, RedisReply.Fails, eq_comm]
  · have hdone : s.afterPut r = .ok () := by
      rw [afterPut, heard_of_not_fails h]
      rfl
    rw [hdone]
    have hsilence : r ≠ .silence := fun hr => h (.inl hr)
    have herror : ∀ line, r ≠ .error line := fun line hr => h (.inr ⟨line, hr⟩)
    exact ⟨by simp [h], by simp [hsilence], by simp [herror], by simp [h]⟩

theorem afterContains_eq_ok_iff {b : Bool} :
    s.afterContains r = .ok b ↔ r.Answers b ∨ (r, b) ∈ RedisReply.coerced := by
  rw [← RedisReply.truth_eq_ok_iff, afterContains, Outcome.bind_eq_ok_iff]
  constructor
  · rintro ⟨r', hheard, htruth⟩
    cases r <;> cases hheard <;> exact htruth
  · intro htruth
    have hfails := RedisReply.not_fails_of_answers (RedisReply.truth_eq_ok_iff.1 htruth)
    exact ⟨r, heard_of_not_fails hfails, htruth⟩

theorem afterContains_cases (s : RedisStore) (r : RedisReply) :
    (∃ b, s.afterContains r = .ok b) ∨
      (r = .silence ∧ s.afterContains r = .error (.timeout s.timeoutMs)) ∨
      (r ≠ .silence ∧ ∃ text, s.afterContains r = .error (.unavailable text)) := by
  by_cases h : r.Fails
  · obtain rfl | ⟨line, rfl⟩ := h
    · exact .inr (.inl ⟨rfl, rfl⟩)
    · exact .inr (.inr ⟨RedisReply.noConfusion, _, rfl⟩)
  · have hheard : s.afterContains r = r.truth := by
      rw [afterContains, heard_of_not_fails h]
      rfl
    rw [hheard]
    cases htruth : r.truth with
    | ok b => exact .inl ⟨b, rfl⟩
    | error f =>
      obtain ⟨text, rfl⟩ := RedisReply.exists_of_truth_eq_error htruth
      exact .inr (.inr ⟨fun hr => h (.inl hr), text, rfl⟩)

/-- **A question is answered by numbers and by coerced replies.** -/
theorem settlesQuestion_afterContains (s : RedisStore) (r : RedisReply) :
    s.SettlesQuestion r (s.afterContains r) := by
  have htold (b : Bool) : s.afterContains r = .ok b ↔ r.Answers b ∨ (r, b) ∈ RedisReply.coerced :=
    afterContains_eq_ok_iff
  refine ⟨htold, ?_, ?_, fun h b hb => ?_, fun h b hx => ?_⟩
  · rcases s.afterContains_cases r with ⟨b, hx⟩ | ⟨hr, hx⟩ | ⟨hr, text, hx⟩
    · have hr : r ≠ .silence := fun hr =>
        RedisReply.not_fails_of_answers ((htold b).1 hx) (.inl hr)
      simp [hx, hr]
    · exact iff_of_true hx hr
    · simp [hx, hr]
  · simp only [← not_or, ← htold]
    rcases s.afterContains_cases r with ⟨b, hx⟩ | ⟨hr, hx⟩ | ⟨hr, text, hx⟩
    · simp [hx]
    · rw [hx]
      simp [hr]
    · simp [hx, hr]
  · exact RedisReply.not_answers_of_coerced hb b (h b ((htold b).2 (.inr hb)))
  · exact ((htold b).1 hx).resolve_right (h b)

/-! ## Calls -/

theorem talkOn_eq (s : RedisStore) (t : RedisTalk) (c : StoreCall) :
    s.talkOn t c = { t with commands := t.commands ++ [s.command c] } := by
  cases c <;> rfl

theorem talk_eq (s : RedisStore) (t : RedisTalk) (calls : List StoreCall) :
    s.talk t calls = { t with commands := t.commands ++ calls.map s.command } := by
  induction calls generalizing t with
  | nil => simp [talk]
  | cons c calls ih =>
    have hstep : s.talk t (c :: calls) = s.talk (s.talkOn t c) calls := rfl
    rw [hstep, talkOn_eq, ih]
    simp

/-- **What replies decide.** After any calls, each of which was one command, a put is one command
that sets the key of the token for its whole seconds, and a question is one command that asks for
the key. A server may reply anything. A put is told as done on every reply but an error or none in
time, so that it rests on an acknowledgement only where the reply is one or fails; a question is
answered by the number of keys and by the coerced replies, so that it rests on the number exactly
where the reply is not coerced. Every other reply is a failure, and silence one for its time. -/
theorem replies_decide (s : RedisStore) (t : RedisTalk) (calls : List StoreCall) (id : String) :
    (s.talk t calls).commands = t.commands ++ calls.map s.command ∧
    (∀ ttl, ∃ command,
      command = ["SETEX", s.keyStart ++ id, Decimal.ofNat (ttlSeconds ttl), "revoked"] ∧
      (s.putIn (s.talk t calls) id ttl).2.commands = (s.talk t calls).commands ++ [command] ∧
      s.SettlesPut (t.replyTo ((s.talk t calls).commands ++ [command]))
        (s.putIn (s.talk t calls) id ttl).1) ∧
    ∃ command, command = ["EXISTS", s.keyStart ++ id] ∧
      (s.containsIn (s.talk t calls) id).2.commands = (s.talk t calls).commands ++ [command] ∧
      s.SettlesQuestion (t.replyTo ((s.talk t calls).commands ++ [command]))
        (s.containsIn (s.talk t calls) id).1 := by
  rw [talk_eq]
  exact ⟨rfl, fun ttl => ⟨_, rfl, rfl, s.settlesPut_afterPut _⟩,
    _, rfl, rfl, s.settlesQuestion_afterContains _⟩

/-- A server that replies nothing to a question has not said that there is no key, and has not
acknowledged a put. Yet the token counts as not revoked, and then as revoked. -/
theorem nil_settles_calls :
    let s : RedisStore := ⟨"jwt:blacklist:", 2000⟩
    let t : RedisTalk := ⟨fun _ => .nil, []⟩
    (s.containsIn t "jti-1").1 = .ok false ∧ (s.putIn t "jti-1" 10000000000).1 = .ok () ∧
      (∀ b, ¬RedisReply.nil.Answers b) ∧ ¬RedisReply.nil.Acknowledges :=
  ⟨rfl, rfl, fun _ ⟨_, h, _⟩ => RedisReply.noConfusion h, RedisReply.noConfusion⟩

end RedisStore

end Accounts
