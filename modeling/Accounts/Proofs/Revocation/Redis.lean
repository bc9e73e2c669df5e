import Accounts.Proofs.Decimal
import Accounts.Proofs.Revocation.History
import Accounts.Proofs.Revocation.Logout
import Accounts.Revocation.Redis

/-!
# Revoked tokens in Redis and in memory

A server keeps a key for whole seconds, so a store in Redis asks for a time that is rounded up. It
holds a token as long as a store in memory does, and less than a second longer.

* `RedisServer`: a server that answers every command in time and keeps a key for exactly the seconds
  that it was told; `RedisServer.plain` is one;
* `StoreCall.InRange`: the times that a store is asked for; `StoreCall.inRange_of_logout`: those of
  logouts are such;
* `RedisStore.put`, `RedisStore.contains`: a call is one command and the meaning of its reply;
* `RevocationStore.run`, `RedisStore.run`: the stores after many calls;
* **`RedisStore.has_run`**: what the server has after them, from the last puts;
* **`RedisStore.agrees_with_memory`**: what the two stores answer after the same calls.
-/

namespace Accounts

open RevocationTable

/-! ## Servers -/

/-- A server that answers every command in time. A key lives exactly as many seconds as the last
command told that set it, and asking for one changes nothing. -/
structure RedisServer where
  /-- What the server remembers. -/
  Memory : Type
  /-- The reply to a command at an instant, and what the server remembers then. -/
  answer : Memory → (now : Nat) → (command : List String) → RedisReply × Memory
  /-- Whether a key lives at an instant. -/
  has : Memory → (now : Nat) → (key : String) → Bool
  reply_set : ∀ (m : Memory) (now : Nat) (key : String) (seconds : Nat) (value : String),
    0 < seconds → (answer m now ["SETEX", key, Decimal.ofNat seconds, value]).1 = .simple "OK"
  has_set : ∀ (m : Memory) (now : Nat) (key : String) (seconds : Nat) (value : String),
    0 < seconds → ∀ (other : String) (later : Nat), now ≤ later →
      has (answer m now ["SETEX", key, Decimal.ofNat seconds, value]).2 later other =
        if other = key then decide (later < now + seconds * nanosPerSecond) else has m later other
  reply_exists : ∀ (m : Memory) (now : Nat) (key : String),
    (answer m now ["EXISTS", key]).1 = .integer (if has m now key then 1 else 0)
  has_exists : ∀ (m : Memory) (now : Nat) (key other : String) (later : Nat), now ≤ later →
    has (answer m now ["EXISTS", key]).2 later other = has m later other

namespace RedisServer

/-- The reply of a server that remembers when each key ends. -/
def plainAnswer (t : RevocationTable) (now : Nat) : List String → RedisReply × RevocationTable
  | ["SETEX", key, seconds, _] =>
    match Decimal.nat? seconds.toList with
    | none => (.error "ERR value is not an integer or out of range", t)
    | some 0 => (.error "ERR invalid expire time in 'setex' command", t)
    | some (n + 1) => (.simple "OK", t.put now key ((n + 1) * nanosPerSecond))
  | ["EXISTS", key] => (.integer (if t.holds now key then 1 else 0), t)
  | ["PING"] => (.simple "PONG", t)
  | _ => (.error "ERR unknown command", t)

theorem plainAnswer_set {t : RevocationTable} {now : Nat} {key value : String} {seconds : Nat}
    (h : 0 < seconds) : plainAnswer t now ["SETEX", key, Decimal.ofNat seconds, value] =
      (.simple "OK", t.put now key (seconds * nanosPerSecond)) := by
  obtain ⟨n, rfl⟩ := Nat.exists_eq_add_one_of_ne_zero (Nat.ne_of_gt h)
  simp only [plainAnswer, Decimal.ofNat, String.toList_ofList, Decimal.nat?_digits]

/-- A server that remembers when each key ends. -/
def plain : RedisServer where
  Memory := RevocationTable
  answer := plainAnswer
  has := RevocationTable.holds
  reply_set m now key seconds value h := by rw [plainAnswer_set h]
  has_set m now key seconds value h other later hlater := by
    rw [plainAnswer_set h]
    by_cases hkey : other = key
    · subst hkey
      rw [if_pos rfl, Bool.eq_iff_iff, holds_put_self, decide_eq_true_eq]
    · rw [if_neg hkey]
      exact holds_put_of_ne m hlater hkey _
  reply_exists _ _ _ := rfl
  has_exists _ _ _ _ _ _ := rfl

end RedisServer

/-! ## Calls -/

/-- The greatest time of a revocation: the milliseconds of 64 bits, in nanoseconds. -/
def greatestTtl : Nat := (Decimal.integerBound - 1) * 1000000

namespace StoreCall

/-- A put is for some time, and for no more than the greatest. -/
def InRange : StoreCall → Prop
  | .contains _ => True
  | .put _ ttl => 0 < ttl ∧ ttl ≤ greatestTtl

instance : DecidablePred InRange
  | .contains _ => inferInstanceAs (Decidable True)
  | .put _ _ => inferInstanceAs (Decidable (_ ∧ _))

theorem inRange_of_logout {settings : AuthSettings} {scheme : PasswordScheme} {start : Timestamp}
    {o : Occasion} {authorization id : String} {ttl : Nat}
    (h : (Service.ofSettings settings scheme start).putOf? o (.logout authorization) =
      some (id, ttl)) :
    (StoreCall.put id ttl).InRange := by
  obtain ⟨seconds, htarget, hpos, rfl⟩ := Service.putOf?_logout_eq_some_iff.1 h
  obtain ⟨hleast, hgreatest⟩ := Signer.lifetime_bounds settings
  have hbound : seconds ≤ (Signer.ofSettings settings).lifetime :=
    (Service.bounds_of_logoutTarget (Nat.lt_of_lt_of_le (by decide) hleast) htarget).2
  have hsecond : nanosPerSecond = 1000000000 := rfl
  have hmost : greatestTtl = 9223372036854775807000000 := by decide
  rw [InRange, hsecond, hmost]
  omega

/-- The call to the table that a call to a store stands for. -/
def onTable : StoreCall → TableCall
  | .contains id => .holds id
  | .put id ttl => .put id ttl

/-- The history of a table, given that of its store. -/
def history (calls : List (Nat × StoreCall)) : List (Nat × TableCall) :=
  calls.map fun c => (c.1, c.2.onTable)

/-- The puts of an identifier in a history: when each was made, and for how long. -/
def putsOf (id : String) (calls : List (Nat × StoreCall)) : List (Nat × Nat) :=
  RevocationTable.putsOf id (history calls)

end StoreCall

namespace RevocationStore

/-- The store after a call at an instant. -/
def after (s : RevocationStore) (now : Nat) : StoreCall → RevocationStore
  | .contains id => (s.contains now id).2
  | .put id ttl => (s.put now id ttl).2

/-- The store after many calls, one after the other. -/
def run (s : RevocationStore) (calls : List (Nat × StoreCall)) : RevocationStore :=
  calls.foldl (fun s c => s.after c.1 c.2) s

end RevocationStore

namespace RedisStore

variable (s : RedisStore) (server : RedisServer)

/-- Revokes a token for some nanoseconds from now. -/
def put (m : server.Memory) (now : Nat) (id : String) (ttl : Nat) :
    Except RevocationFault Unit × server.Memory :=
  let (reply, m) := server.answer m now (s.putCommand id ttl)
  (s.afterPut reply, m)

/-- Whether a token is revoked now. -/
def contains (m : server.Memory) (now : Nat) (id : String) :
    Except RevocationFault Bool × server.Memory :=
  let (reply, m) := server.answer m now (s.containsCommand id)
  (s.afterContains reply, m)

/-- What the server remembers after a call at an instant. -/
def after (m : server.Memory) (now : Nat) : StoreCall → server.Memory
  | .contains id => (s.contains server m now id).2
  | .put id ttl => (s.put server m now id ttl).2

/-- What the server remembers after many calls, one after the other. -/
def run (m : server.Memory) (calls : List (Nat × StoreCall)) : server.Memory :=
  calls.foldl (fun m c => s.after server m c.1 c.2) m

end RedisStore

/-! ## In memory -/

namespace RevocationStore

variable {s : RevocationStore} {calls : List (Nat × StoreCall)}

theorem fault_after (s : RevocationStore) (now : Nat) (c : StoreCall) :
    (s.after now c).fault = s.fault := by
  cases c with
  | contains id => rfl
  | put id ttl => exact Service.fault_put s now id ttl

theorem table_after (h : s.fault = none) (now : Nat) (c : StoreCall) :
    (s.after now c).table = s.table.after now c.onTable := by
  cases c with
  | contains id => rfl
  | put id ttl => exact (Service.put_of_answers h now id ttl).2

theorem store_run (h : s.fault = none) (calls : List (Nat × StoreCall)) :
    (s.run calls).fault = none ∧
      (s.run calls).table = s.table.run (StoreCall.history calls) := by
  induction calls generalizing s with
  | nil => exact ⟨h, rfl⟩
  | cons c calls ih =>
    obtain ⟨hfault, htable⟩ := ih ((fault_after s c.1 c.2).trans h)
    refine ⟨hfault, htable.trans ?_⟩
    rw [table_after h]
    rfl

theorem fst_contains_run {now : Nat} (hclock : ∀ c ∈ calls, c.1 ≤ now) (id : String) :
    ((run {} calls).contains now id).1 = .ok (live (StoreCall.putsOf id calls) now) := by
  obtain ⟨hfault, htable⟩ := store_run (s := {}) rfl calls
  rw [contains, hfault, htable]
  refine congrArg Except.ok (holds_run fun c hc => ?_)
  obtain ⟨d, hd, rfl⟩ := List.mem_map.1 hc
  exact hclock d hd

end RevocationStore

/-! ## In Redis -/

namespace RedisStore

variable {s : RedisStore} {server : RedisServer} {m : server.Memory}
  {calls : List (Nat × StoreCall)} {now later : Nat} {id : String}

theorem key_inj {other : String} : s.key id = s.key other ↔ id = other :=
  String.append_right_inj s.keyStart

theorem ttlSeconds_pos (ttl : Nat) : 0 < ttlSeconds ttl :=
  Nat.lt_of_lt_of_le Nat.one_pos (Nat.le_max_left _ _)

theorem ttlSeconds_eq {ttl : Nat} (h : 0 < ttl) : ttlSeconds ttl =
    ttl / nanosPerSecond + if 0 < ttl % nanosPerSecond then 1 else 0 := by
  unfold ttlSeconds nanosPerSecond
  split <;> omega

theorem ttlSeconds_mul_of_dvd {ttl : Nat} (h : 0 < ttl) (hwhole : nanosPerSecond ∣ ttl) :
    ttlSeconds ttl * nanosPerSecond = ttl := by
  have hrest : ttl % nanosPerSecond = 0 := Nat.mod_eq_zero_of_dvd hwhole
  rw [ttlSeconds_eq h, hrest, if_neg (Nat.lt_irrefl 0), Nat.add_zero]
  exact Nat.div_mul_cancel hwhole

theorem ttlSeconds_lt {ttl : Nat} (h : ttl ≤ greatestTtl) : ttlSeconds ttl < UInt64.size := by
  have hbound : greatestTtl = 9223372036854775807000000 := rfl
  have hsize : UInt64.size = 18446744073709551616 := rfl
  unfold ttlSeconds
  omega

theorem fst_put (m : server.Memory) (now : Nat) (id : String) (ttl : Nat) :
    (s.put server m now id ttl).1 = .ok () := by
  rw [put, putCommand]
  simp only [server.reply_set m now (s.key id) _ "revoked" (ttlSeconds_pos ttl)]
  rfl

theorem fst_contains (m : server.Memory) (now : Nat) (id : String) :
    (s.contains server m now id).1 = .ok (server.has m now (s.key id)) := by
  rw [contains, containsCommand]
  simp only [server.reply_exists]
  cases server.has m now (s.key id) <;> rfl

/-- What a call does to what the server has: a put decides about its own key. -/
theorem has_after (m : server.Memory) (hlater : now ≤ later) (c : StoreCall) (id : String) :
    server.has (s.after server m now c) later (s.key id) =
      match c with
      | .contains _ => server.has m later (s.key id)
      | .put other ttl =>
        if other = id then decide (later < now + ttlSeconds ttl * nanosPerSecond)
        else server.has m later (s.key id) := by
  cases c with
  | contains other => exact server.has_exists m now (s.key other) (s.key id) later hlater
  | put other ttl =>
    simp only [after, put, putCommand, server.has_set m now (s.key other) _ "revoked"
      (ttlSeconds_pos ttl) (s.key id) later hlater, key_inj, eq_comm]

/-- A put with its time in whole seconds. -/
def roundedUp (p : Nat × Nat) : Nat × Nat := (p.1, ttlSeconds p.2 * nanosPerSecond)

/-- **A server that had no key of the store has what the last puts say**, in whole seconds. -/
theorem has_run (hnew : ∀ now id, server.has m now (s.key id) = false)
    (hclock : ∀ c ∈ calls, c.1 ≤ later) :
    server.has (s.run server m calls) later (s.key id) =
      live ((StoreCall.putsOf id calls).map roundedUp) later := by
  induction calls using List.reverseRecOn with
  | nil => exact hnew later id
  | append_singleton calls c ih =>
    obtain ⟨now, call⟩ := c
    rw [List.forall_mem_append, List.forall_mem_singleton] at hclock
    obtain ⟨hcalls, hnow⟩ := hclock
    have hputs : StoreCall.putsOf id (calls ++ [(now, call)]) =
        StoreCall.putsOf id calls ++ RevocationTable.putsOf id [(now, call.onTable)] := by
      rw [StoreCall.putsOf, StoreCall.history, List.map_append]
      exact putsOf_append id _ _
    rw [run, List.foldl_append, hputs, List.map_append]
    refine (has_after _ hnow call id).trans ?_
    cases call with
    | contains other =>
      have hnone : RevocationTable.putsOf id [(now, (StoreCall.contains other).onTable)] = [] := rfl
      rw [hnone, List.map_nil, List.append_nil]
      exact ih hcalls
    | put other ttl =>
      by_cases hid : other = id
      · have hown : RevocationTable.putsOf id [(now, (StoreCall.put other ttl).onTable)] =
            [(now, ttl)] := by simp [RevocationTable.putsOf, StoreCall.onTable, hid]
        rw [hown, List.map_singleton, roundedUp, live_append_singleton]
        exact if_pos hid
      · have hnone : RevocationTable.putsOf id [(now, (StoreCall.put other ttl).onTable)] = [] := by
          simp [RevocationTable.putsOf, StoreCall.onTable, hid]
        rw [hnone, List.map_nil, List.append_nil]
        exact (if_neg hid).trans (ih hcalls)

/-! ## Both -/

theorem mem_of_mem_putsOf {start ttl : Nat} (h : (start, ttl) ∈ StoreCall.putsOf id calls) :
    (start, .put id ttl) ∈ calls := by
  obtain ⟨call, hcall, hput⟩ := List.mem_filterMap.1 h
  obtain ⟨⟨now, c⟩, hc, rfl⟩ := List.mem_map.1 hcall
  cases c with
  | contains other => cases hput
  | put other time =>
    simp only [StoreCall.onTable, Option.ite_none_right_eq_some, Option.some.injEq,
      Prod.mk.injEq] at hput
    obtain ⟨rfl, rfl, rfl⟩ := hput
    exact hc

theorem inRange_of_getLast? {start ttl : Nat} (hrange : ∀ c ∈ calls, c.2.InRange)
    (h : (StoreCall.putsOf id calls).getLast? = some (start, ttl)) :
    0 < ttl ∧ ttl ≤ greatestTtl :=
  hrange _ (mem_of_mem_putsOf (List.mem_of_getLast? h))

theorem live_roundedUp (puts : List (Nat × Nat)) (now : Nat) :
    live (puts.map roundedUp) now = true ↔ ∃ start ttl, puts.getLast? = some (start, ttl) ∧
      now < start + ttlSeconds ttl * nanosPerSecond := by
  simp only [live_eq_true_iff, List.getLast?_map, Option.map_eq_some_iff, Prod.exists, roundedUp,
    Prod.mk.injEq]
  constructor
  · rintro ⟨_, _, ⟨start, ttl, hlast, rfl, rfl⟩, hnow⟩
    exact ⟨start, ttl, hlast, hnow⟩
  · rintro ⟨start, ttl, hlast, hnow⟩
    exact ⟨_, _, ⟨start, ttl, hlast, rfl, rfl⟩, hnow⟩

/-- **The two stores agree on safety.** Both are new, and get the same calls on a clock that goes
only forward, each put for a time in range. No call fails. The seconds of a put are its whole
seconds and one more if something is left over; they are a number of 64 bits and never zero. What
the store in memory holds the store in Redis does too. What the latter holds was last put for a time
that is over for less than a second, if at all. They answer alike about all that was last put for
whole seconds. -/
theorem agrees_with_memory (server : RedisServer) (s : RedisStore) (m : server.Memory)
    (hnew : ∀ now id, server.has m now (s.key id) = false) (calls : List (Nat × StoreCall))
    (hclock : calls.Pairwise fun c c' => c.1 ≤ c'.1) (hrange : ∀ c ∈ calls, c.2.InRange) :
    (∀ before now id ttl after, calls = before ++ (now, .put id ttl) :: after →
      ((RevocationStore.run {} before).put now id ttl).1 = .ok () ∧
      (s.put server (s.run server m before) now id ttl).1 = .ok () ∧
      ∃ seconds, s.putCommand id ttl = ["SETEX", s.key id, Decimal.ofNat seconds, "revoked"] ∧
        seconds = ttl / nanosPerSecond + (if 0 < ttl % nanosPerSecond then 1 else 0) ∧
        0 < seconds ∧ seconds < UInt64.size) ∧
    ∀ before now id after, calls = before ++ (now, .contains id) :: after →
      ∃ inMemory inRedis,
        ((RevocationStore.run {} before).contains now id).1 = .ok inMemory ∧
        (s.contains server (s.run server m before) now id).1 = .ok inRedis ∧
        (inMemory = true → inRedis = true) ∧
        (inRedis = true → ∃ start ttl,
          (StoreCall.putsOf id before).getLast? = some (start, ttl) ∧
            now < start + ttl + nanosPerSecond) ∧
        ((∀ start ttl, (StoreCall.putsOf id before).getLast? = some (start, ttl) →
          nanosPerSecond ∣ ttl) → inRedis = inMemory) := by
  constructor
  · rintro before now id ttl after rfl
    obtain ⟨hpos, hbound⟩ := hrange (now, .put id ttl) (by simp)
    have hanswers := (RevocationStore.store_run (s := {}) rfl before).1
    exact ⟨(Service.put_of_answers hanswers now id ttl).1, fst_put _ now id ttl, ttlSeconds ttl,
      rfl, ttlSeconds_eq hpos, ttlSeconds_pos ttl, ttlSeconds_lt hbound⟩
  · rintro before now id after rfl
    have hpast : ∀ c ∈ before, c.1 ≤ now := fun c hc =>
      (List.pairwise_append.1 hclock).2.2 c hc _ List.mem_cons_self
    have hin : ∀ start ttl, (StoreCall.putsOf id before).getLast? = some (start, ttl) →
        0 < ttl ∧ ttl ≤ greatestTtl := fun start ttl =>
      inRange_of_getLast? fun c hc => hrange c (List.mem_append_left _ hc)
    have hmemory := RevocationStore.fst_contains_run hpast id
    have hredis : (s.contains server (s.run server m before) now id).1 =
        .ok (live ((StoreCall.putsOf id before).map roundedUp) now) := by
      rw [fst_contains, has_run hnew hpast]
    refine ⟨_, _, hmemory, hredis, fun h => ?_, fun h => ?_, fun hwhole => ?_⟩
    · obtain ⟨start, ttl, hlast, hnow⟩ := live_eq_true_iff.1 h
      have hlong := (ttlSeconds_bounds (hin start ttl hlast).1).1
      exact (live_roundedUp _ _).2 ⟨start, ttl, hlast, Nat.lt_of_lt_of_le hnow
        (Nat.add_le_add_left hlong start)⟩
    · obtain ⟨start, ttl, hlast, hnow⟩ := (live_roundedUp _ _).1 h
      have hshort := (ttlSeconds_bounds (hin start ttl hlast).1).2
      refine ⟨start, ttl, hlast, ?_⟩
      unfold nanosPerSecond at hnow ⊢
      omega
    · rw [Bool.eq_iff_iff, live_roundedUp, live_eq_true_iff]
      refine exists_congr fun start => exists_congr fun ttl => and_congr_right fun hlast => ?_
      rw [ttlSeconds_mul_of_dvd (hin start ttl hlast).1 (hwhole start ttl hlast)]

/-- A put for a second and a half is over in memory after that time, and in Redis half a second
later. A put for two seconds that replaces it is over in both at once. -/
theorem agrees_with_memory_after_half_second :
    let s : RedisStore := ⟨"revoked:", 100⟩
    let others : RevocationTable := RevocationTable.put {} 0 "other:a" 9000000000
    let calls : List (Nat × StoreCall) := [(0, .put "a" 1500000000), (1500000000, .contains "a"),
      (1600000000, .put "a" 2000000000), (3600000000, .contains "a")]
    (∃ seconds, s.putCommand "a" 1500000000 =
        ["SETEX", "revoked:a", Decimal.ofNat seconds, "revoked"] ∧
        seconds = 2 ∧ seconds < UInt64.size) ∧
      ((RevocationStore.run {} (calls.take 1)).contains 1500000000 "a").1 = .ok false ∧
      (s.contains .plain (s.run .plain others (calls.take 1)) 1500000000 "a").1 = .ok true ∧
      (∃ start ttl, (StoreCall.putsOf "a" (calls.take 1)).getLast? = some (start, ttl) ∧
        1500000000 < start + ttl + nanosPerSecond) ∧
      ∃ answer, ((RevocationStore.run {} (calls.take 3)).contains 3600000000 "a").1 = .ok answer ∧
        (s.contains .plain (s.run .plain others (calls.take 3)) 3600000000 "a").1 = .ok answer := by
  intro s others calls
  have hnew : ∀ now id, RedisServer.plain.has others now (s.key id) = false := by
    intro now id
    refine Bool.eq_false_iff.2 fun h => ?_
    obtain ⟨d, hd, -⟩ := holds_iff.1 h
    simp only [others, RevocationTable.put, List.filter_nil, List.mem_singleton,
      Prod.mk.injEq] at hd
    have hfirst := congrArg (fun t : String => t.toList.head?) hd.1
    simp [s, key] at hfirst
  obtain ⟨hputs, hchecks⟩ :=
    agrees_with_memory .plain s others hnew calls (by decide) (by decide)
  obtain ⟨-, -, seconds, hcommand, hseconds, -, hbound⟩ := hputs [] 0 "a" 1500000000 _ rfl
  obtain ⟨first, second, hfirst, hsecond, -, hlate, -⟩ :=
    hchecks (calls.take 1) 1500000000 "a" _ rfl
  obtain ⟨_, answer, hmemory, hredis, -, -, hwhole⟩ := hchecks (calls.take 3) 3600000000 "a" [] rfl
  have hover : ((RevocationStore.run {} (calls.take 1)).contains 1500000000 "a").1 = .ok false :=
    rfl
  have hstill : (s.contains .plain (s.run .plain others (calls.take 1)) 1500000000 "a").1 =
      .ok true := by decide +kernel
  have htwo : (StoreCall.putsOf "a" (calls.take 3)).getLast? = some (1600000000, 2000000000) := rfl
  refine ⟨⟨seconds, hcommand, hseconds, hbound⟩, hover, hstill, hlate ?_, answer, ?_, hredis⟩
  · exact Except.ok.inj (hsecond.symm.trans hstill)
  · rw [hmemory, hwhole fun start ttl hlast => ?_]
    cases htwo.symm.trans hlast
    decide

end RedisStore

end Accounts
