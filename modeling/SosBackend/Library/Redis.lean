import SosBackend.Library.UnorderedMap

/-!
# A Redis keyspace and a client that can lose it

Every command here works on one key: it reads the live entry under the key and
answers with a reply and the entry to leave there, or is refused with an error
reply (a value of another type, a value that is no integer, a `SETEX` for no
time). `Keyspace.onKey` is that shape, and the two lemmas on it are all a
caller needs about the keyspace around a command. A `Client` issues commands one
at a time; each is answered, lost on the way there, or carried out with its
answer lost, and a command without an answer is an exception to the caller.
-/

namespace SosBackend

namespace Redis

inductive Value
  | string (s : String)
  /-- A string that holds the decimal digits of an integer. -/
  | integer (n : ℤ)
  | set (members : UnorderedSet String)
  | hash (fields : UnorderedMap String String)
  | list (elements : List (List UInt8))

structure Entry where
  value : Value
  expiresAt : Option ℕ := none

structure Keyspace where
  entries : UnorderedMap String Entry := .empty
  now : ℕ := 0

/-- An entry is there until the clock reaches its expiry. -/
def Entry.live (now : ℕ) (e : Entry) : Bool :=
  e.expiresAt.all fun t => decide (now < t)

namespace Keyspace

/-- The live entry under a key. -/
def lookup (ks : Keyspace) (key : String) : Option Entry :=
  (ks.entries.find? key).filter (Entry.live ks.now)

/-- Leave an entry, or nothing, under a key. -/
def put (ks : Keyspace) (key : String) : Option Entry → Keyspace
  | none => { ks with entries := ks.entries.erase key }
  | some e => { ks with entries := ks.entries.insert key e }

/-- The clock advances. The unit of time is that of the times to live. -/
def advance (ks : Keyspace) (elapsed : ℕ) : Keyspace :=
  { ks with now := ks.now + elapsed }

/-- Time only takes entries away. -/
theorem lookup_of_advance {ks : Keyspace} {elapsed : ℕ} {key : String} {e : Entry}
    (h : (ks.advance elapsed).lookup key = some e) : ks.lookup key = some e := by
  rw [lookup, Option.filter_eq_some_iff] at h ⊢
  refine ⟨h.1, ?_⟩
  have hlive := h.2
  simp only [Entry.live, Option.all_eq_true_iff_get, decide_eq_true_eq] at hlive ⊢
  intro ht
  exact (Nat.le_add_right _ _).trans_lt (hlive ht)

theorem lookup_advance_of_none {ks : Keyspace} {key : String} (h : ks.lookup key = none)
    (elapsed : ℕ) : (ks.advance elapsed).lookup key = none := by
  cases hlookup : (ks.advance elapsed).lookup key with
  | none => rfl
  | some e =>
      rw [lookup_of_advance hlookup] at h
      cases h

/-- An entry is there until its expiry. -/
theorem lookup_advance {ks : Keyspace} {key : String} {v : Value} {t : ℕ}
    (h : ks.lookup key = some ⟨v, some t⟩) (elapsed : ℕ) :
    (ks.advance elapsed).lookup key =
      if ks.now + elapsed < t then some ⟨v, some t⟩ else none := by
  obtain ⟨hfind, -⟩ := Option.filter_eq_some_iff.1 h
  have hfind' : (ks.advance elapsed).entries.find? key = some ⟨v, some t⟩ := hfind
  rw [lookup, hfind', Option.filter_some]
  simp only [Entry.live, Option.all_some, decide_eq_true_eq]
  rfl

/-- An entry that is found has not expired. -/
theorem lt_of_lookup {ks : Keyspace} {key : String} {v : Value} {t : ℕ}
    (h : ks.lookup key = some ⟨v, some t⟩) : ks.now < t := by
  rw [lookup, Option.filter_eq_some_iff] at h
  have hlive := h.2
  simp only [Entry.live, Option.all_some, decide_eq_true_eq] at hlive
  exact hlive

theorem lookup_put_of_ne (ks : Keyspace) (key : String) (e : Option Entry) {x : String}
    (h : x ≠ key) : (ks.put key e).lookup x = ks.lookup x := by
  cases e with
  | none => simp [put, lookup, UnorderedMap.find?_erase, h]
  | some e => simp [put, lookup, UnorderedMap.find?_insert, h]

theorem lookup_put_self (ks : Keyspace) (key : String) (e : Option Entry) :
    (ks.put key e).lookup key = e.filter (Entry.live ks.now) := by
  cases e with
  | none => simp [put, lookup, UnorderedMap.find?_erase]
  | some e => simp [put, lookup, UnorderedMap.find?_insert]

end Keyspace

/-- A command: the reply and the keyspace it leaves, or an error reply. -/
abbrev Command (ρ : Type*) := Keyspace → Option (ρ × Keyspace)

/-- A command on one key, from the clock and the live entry under the key. -/
def onKey {ρ : Type*} (key : String)
    (f : ℕ → Option Entry → Option (ρ × Option Entry)) : Command ρ := fun ks =>
  (f ks.now (ks.lookup key)).map fun r => (r.1, ks.put key r.2)

section onKey

variable {ρ : Type*} {key : String}
  {f : ℕ → Option Entry → Option (ρ × Option Entry)} {ks ks' : Keyspace} {r : ρ}

/-- A command leaves the entries under other keys as they are. -/
theorem lookup_onKey_of_ne (h : onKey key f ks = some (r, ks')) {x : String}
    (hx : x ≠ key) : ks'.lookup x = ks.lookup x := by
  obtain ⟨a, -, ha⟩ := Option.map_eq_some_iff.1 h
  obtain ⟨-, rfl⟩ := Prod.mk.inj ha
  exact ks.lookup_put_of_ne key a.2 hx

theorem now_onKey (h : onKey key f ks = some (r, ks')) : ks'.now = ks.now := by
  obtain ⟨a, -, ha⟩ := Option.map_eq_some_iff.1 h
  obtain ⟨-, rfl⟩ := Prod.mk.inj ha
  cases a.2 with
  | none => rfl
  | some e => rfl

end onKey

def get (key : String) : Command (Option String) := onKey key fun _ e =>
  match e with
  | none => some (none, none)
  | some ⟨.string s, t⟩ => some (some s, some ⟨.string s, t⟩)
  | some ⟨.integer n, t⟩ => some (some (toString n), some ⟨.integer n, t⟩)
  | some _ => none

/-- A command that leaves what it reads leaves every entry as it is. -/
theorem lookup_of_reads {ρ : Type*} {key : String}
    {f : ℕ → Option Entry → Option (ρ × Option Entry)} {ks ks' : Keyspace} {r : ρ}
    (hf : ∀ now e r e', f now e = some (r, e') → e' = e)
    (h : onKey key f ks = some (r, ks')) (x : String) : ks'.lookup x = ks.lookup x := by
  by_cases hx : x = key
  · subst hx
    obtain ⟨⟨r', e'⟩, he, ha⟩ := Option.map_eq_some_iff.1 h
    obtain ⟨-, rfl⟩ := Prod.mk.inj ha
    rw [Keyspace.lookup_put_self, hf _ _ _ _ he, Keyspace.lookup, Option.filter_filter]
    simp only [Bool.and_self]
  · exact lookup_onKey_of_ne h hx

/-- Reading a key leaves every entry as it is. -/
theorem lookup_get {key : String} {ks ks' : Keyspace} {r : Option String}
    (h : get key ks = some (r, ks')) (x : String) : ks'.lookup x = ks.lookup x := by
  refine lookup_of_reads ?_ h x
  intro now e r e' he
  split at he
  · cases he
    rfl
  · cases he
    rfl
  · cases he
    rfl
  · cases he

/-- What is read is the text that is stored. -/
theorem string_of_get {key : String} {ks ks' : Keyspace} {s : String} {v : String}
    {t : Option ℕ} (h : get key ks = some (some s, ks'))
    (hlookup : ks.lookup key = some ⟨.string v, t⟩) : s = v := by
  rw [get, onKey, hlookup] at h
  cases h
  rfl

/-- A text is read only where there is an entry. -/
theorem exists_of_get {key : String} {ks ks' : Keyspace} {s : String}
    (h : get key ks = some (some s, ks')) : ∃ e, ks.lookup key = some e := by
  cases hlookup : ks.lookup key with
  | none =>
      rw [get, onKey, hlookup] at h
      cases h
  | some e => exact ⟨e, rfl⟩

def setex (key value : String) (ttl : ℕ) : Command Unit := onKey key fun now _ =>
  if ttl = 0 then none else some ((), some ⟨.string value, some (now + ttl)⟩)

/-- A time to live that is not zero is not refused. -/
theorem exists_setex (key value : String) {ttl : ℕ} (httl : ttl ≠ 0) (ks : Keyspace) :
    ∃ ks', setex key value ttl ks = some ((), ks') := by
  simp only [setex, onKey, if_neg httl, Option.map_some]
  exact ⟨_, rfl⟩

theorem lookup_setex {key value : String} {ttl : ℕ} {ks ks' : Keyspace}
    (h : setex key value ttl ks = some ((), ks')) :
    ks'.lookup key = some ⟨.string value, some (ks.now + ttl)⟩ := by
  obtain ⟨⟨r', e'⟩, he, ha⟩ := Option.map_eq_some_iff.1 h
  obtain ⟨-, rfl⟩ := Prod.mk.inj ha
  obtain ⟨httl, he⟩ := Option.ite_none_left_eq_some.1 he
  cases he
  have hlive : Entry.live ks.now ⟨.string value, some (ks.now + ttl)⟩ = true := by
    simp only [Entry.live, Option.all_some, decide_eq_true_eq]
    omega
  rw [Keyspace.lookup_put_self, Option.filter_some, hlive, if_pos rfl]

def del (key : String) : Command Bool := onKey key fun _ e =>
  some (e.isSome, none)

theorem lookup_del {key : String} {ks ks' : Keyspace} {r : Bool}
    (h : del key ks = some (r, ks')) : ks'.lookup key = none := by
  cases h
  rw [Keyspace.lookup_put_self, Option.filter_none]

/-- `EXISTS`. -/
def existsKey (key : String) : Command Bool := onKey key fun _ e =>
  some (e.isSome, e)

/-- The largest 64-bit integer; incrementing it is refused. -/
def maxInteger : ℤ := 9223372036854775807

/-- The integer a value holds, if its digits are those of a 64-bit integer. -/
def Value.toInteger : Value → Option ℤ
  | .integer n => some n
  | .string s => s.toInt?.filter fun n => toString n = s
  | _ => none

def incr (key : String) : Command ℤ := onKey key fun _ e =>
  match e with
  | none => some (1, some ⟨.integer 1, none⟩)
  | some ⟨v, t⟩ =>
      match v.toInteger with
      | some n =>
          if n < maxInteger then some (n + 1, some ⟨.integer (n + 1), t⟩) else none
      | none => none

def expire (key : String) (ttl : ℕ) : Command Bool := onKey key fun now e =>
  match e with
  | none => some (false, none)
  | some e =>
      some (true, if ttl = 0 then none else some { e with expiresAt := some (now + ttl) })

def sadd (key member : String) : Command ℕ := onKey key fun _ e =>
  match e with
  | none => some (1, some ⟨.set (UnorderedSet.insert .empty member), none⟩)
  | some ⟨.set s, t⟩ =>
      some (if s.contains member then 0 else 1,
        some ⟨.set (s.insert member), t⟩)
  | some _ => none

/-- A set that loses its last element is gone. -/
def srem (key member : String) : Command ℕ := onKey key fun _ e =>
  match e with
  | none => some (0, none)
  | some ⟨.set s, t⟩ =>
      some (if s.contains member then 1 else 0,
        if (s.erase member).size = 0 then none
        else some ⟨.set (s.erase member), t⟩)
  | some _ => none

def hset (key field value : String) : Command ℕ := onKey key fun _ e =>
  match e with
  | none => some (1, some ⟨.hash (UnorderedMap.insert .empty field value), none⟩)
  | some ⟨.hash m, t⟩ =>
      some (if m.contains field then 0 else 1,
        some ⟨.hash (m.insert field value), t⟩)
  | some _ => none

def lpush (key : String) (element : List UInt8) : Command ℕ := onKey key fun _ e =>
  match e with
  | none => some (1, some ⟨.list [element], none⟩)
  | some ⟨.list l, t⟩ => some (l.length + 1, some ⟨.list (element :: l), t⟩)
  | some _ => none

/-- The elements from `start` to `stop`, both included; a negative index counts
from the end. -/
def slice (l : List (List UInt8)) (start stop : ℤ) : List (List UInt8) :=
  let first := max 0 (if start < 0 then start + l.length else start)
  let last := if stop < 0 then stop + l.length else stop
  (l.take (last + 1).toNat).drop first.toNat

def ltrim (key : String) (start stop : ℤ) : Command Unit := onKey key fun _ e =>
  match e with
  | none => some ((), none)
  | some ⟨.list l, t⟩ =>
      some ((), if slice l start stop = [] then none
        else some ⟨.list (slice l start stop), t⟩)
  | some _ => none

def lrange (key : String) (start stop : ℤ) : Command (List (List UInt8)) :=
  onKey key fun _ e =>
    match e with
    | none => some ([], none)
    | some ⟨.list l, t⟩ => some (slice l start stop, some ⟨.list l, t⟩)
    | some _ => none

/-!
## Sets that do not expire
-/

/-- Under the key there is a set without expiry, or nothing, and `S` are its
elements. -/
def HoldsSet (ks : Keyspace) (key : String) (S : Set String) : Prop :=
  (ks.lookup key = none ∧ S = ∅) ∨
    ∃ s : UnorderedSet String, ks.lookup key = some ⟨.set s, none⟩ ∧ s.toSet = S

namespace HoldsSet

variable {ks ks' : Keyspace} {key : String} {S : Set String}

theorem of_lookup_eq (h : HoldsSet ks key S) (hl : ks'.lookup key = ks.lookup key) :
    HoldsSet ks' key S := by
  rw [HoldsSet, hl]
  exact h

/-- Time does not take a set without expiry. -/
theorem advance (h : HoldsSet ks key S) (elapsed : ℕ) :
    HoldsSet (ks.advance elapsed) key S := by
  rcases h with ⟨hnone, rfl⟩ | ⟨s, hsome, rfl⟩
  · refine Or.inl ⟨?_, rfl⟩
    cases hlookup : (ks.advance elapsed).lookup key with
    | none => rfl
    | some e =>
        -- an entry that has expired stays expired
        rw [Keyspace.lookup_of_advance hlookup] at hnone
        cases hnone
  · refine Or.inr ⟨s, ?_, rfl⟩
    rw [Keyspace.lookup, Option.filter_eq_some_iff] at hsome ⊢
    exact ⟨hsome.1, rfl⟩

theorem sadd (h : HoldsSet ks key S) (member : String) :
    ∃ n ks', Redis.sadd key member ks = some (n, ks') ∧
      HoldsSet ks' key (insert member S) := by
  rcases h with ⟨hnone, rfl⟩ | ⟨s, hsome, rfl⟩
  · refine ⟨_, _, by rw [Redis.sadd, onKey, hnone]; rfl,
      Or.inr ⟨UnorderedSet.insert .empty member, ?_, ?_⟩⟩
    · rw [Keyspace.lookup_put_self]
      rfl
    · rw [UnorderedSet.toSet_insert, UnorderedSet.toSet_empty]
  · refine ⟨_, _, by rw [Redis.sadd, onKey, hsome]; rfl, Or.inr ⟨s.insert member, ?_, ?_⟩⟩
    · rw [Keyspace.lookup_put_self]
      rfl
    · exact s.toSet_insert member

theorem srem (h : HoldsSet ks key S) (member : String) :
    ∃ n ks', Redis.srem key member ks = some (n, ks') ∧
      HoldsSet ks' key (S \ {member}) := by
  rcases h with ⟨hnone, rfl⟩ | ⟨s, hsome, rfl⟩
  · refine ⟨_, _, by rw [Redis.srem, onKey, hnone]; rfl, Or.inl ⟨?_, ?_⟩⟩
    · rw [Keyspace.lookup_put_self]
      rfl
    · exact Set.empty_sdiff _
  · refine ⟨_, _, by rw [Redis.srem, onKey, hsome]; rfl, ?_⟩
    by_cases hsize : (s.erase member).size = 0
    · refine Or.inl ⟨?_, ?_⟩
      · rw [Keyspace.lookup_put_self, if_pos hsize]
        rfl
      · rw [← UnorderedSet.toSet_erase]
        exact UnorderedSet.toSet_eq_empty hsize
    · refine Or.inr ⟨s.erase member, ?_, s.toSet_erase member⟩
      rw [Keyspace.lookup_put_self, if_neg hsize]
      rfl

end HoldsSet

/-!
## The client
-/

/-- What becomes of a command that a client issues. -/
inductive Outcome
  | answered
  /-- The command does not reach the server. -/
  | lost
  /-- The command is carried out, its answer does not come back. -/
  | unanswered
deriving DecidableEq, Repr

/-- `RedisClient`: the keyspace and the number of commands issued so far. -/
structure Client where
  store : Keyspace := {}
  issued : ℕ := 0

/-- Issue a command. No reply means that the call throws. -/
def Client.call {ρ : Type*} (outcome : ℕ → Outcome) (c : Client) (cmd : Command ρ) :
    Option ρ × Client :=
  match outcome c.issued, cmd c.store with
  | .answered, some (r, ks) => (some r, ⟨ks, c.issued + 1⟩)
  | .unanswered, some (_, ks) => (none, ⟨ks, c.issued + 1⟩)
  | _, _ => (none, ⟨c.store, c.issued + 1⟩)

/-- A command whose reply nobody reads. -/
def Command.void {ρ : Type*} (cmd : Command ρ) : Command Unit := fun ks =>
  (cmd ks).map fun r => ((), r.2)

/-- Issue commands one after the other, up to the first one that throws. -/
def Client.attempt (outcome : ℕ → Outcome) (c : Client) : List (Command Unit) → Client
  | [] => c
  | cmd :: cmds =>
      match c.call outcome cmd with
      | (some (), c') => Client.attempt outcome c' cmds
      | (none, c') => c'

/-- The number of the command that throws, if one of them does. -/
def Client.failure (outcome : ℕ → Outcome) (c : Client) : List (Command Unit) → Option ℕ
  | [] => none
  | cmd :: cmds =>
      match c.call outcome cmd with
      | (some (), c') => Client.failure outcome c' cmds
      | (none, _) => some c.issued

section call

variable {ρ : Type*} {outcome : ℕ → Outcome} {c : Client}

theorem call_answered {cmd : Command ρ} {r : ρ} {ks : Keyspace}
    (h : outcome c.issued = .answered) (hcmd : cmd c.store = some (r, ks)) :
    c.call outcome cmd = (some r, ⟨ks, c.issued + 1⟩) := by
  rw [Client.call, h, hcmd]

theorem issued_call (c : Client) (outcome : ℕ → Outcome) (cmd : Command ρ) :
    (c.call outcome cmd).2.issued = c.issued + 1 := by
  unfold Client.call
  split
  · rfl
  · rfl
  · rfl

/-- From now on no command is answered. -/
def Client.Silent (outcome : ℕ → Outcome) (c : Client) : Prop :=
  ∀ n, c.issued ≤ n → outcome n ≠ .answered

theorem Client.Silent.of_le {c' : Client} (h : c.Silent outcome) (hle : c.issued ≤ c'.issued) :
    c'.Silent outcome :=
  fun n hn => h n (hle.trans hn)

theorem Client.Silent.reply (h : c.Silent outcome) (cmd : Command ρ) :
    (c.call outcome cmd).1 = none := by
  unfold Client.call
  split
  · next hanswered _ => exact absurd hanswered (h c.issued le_rfl)
  · rfl
  · rfl

/-- Whatever becomes of a command, the keyspace stays as it was or is what the
command leaves. -/
theorem store_call (c : Client) (outcome : ℕ → Outcome) (cmd : Command ρ) :
    (c.call outcome cmd).2.store = c.store ∨
      ∃ r, cmd c.store = some (r, (c.call outcome cmd).2.store) := by
  unfold Client.call
  split
  · next h => exact Or.inr ⟨_, h⟩
  · next h => exact Or.inr ⟨_, h⟩
  · exact Or.inl rfl

/-- Where no answer is lost on its way back, a command that throws has done
nothing. -/
theorem call_inv {cmd : Command ρ} {r : Option ρ} {c' : Client}
    (h : outcome c.issued ≠ .unanswered) (hcall : c.call outcome cmd = (r, c')) :
    (r = none ∧ c'.store = c.store) ∨ ∃ a, r = some a ∧ cmd c.store = some (a, c'.store) := by
  unfold Client.call at hcall
  split at hcall
  · next hcmd =>
      cases hcall
      exact Or.inr ⟨_, rfl, hcmd⟩
  · next hlost _ => exact absurd hlost h
  · cases hcall
    exact Or.inl ⟨rfl, rfl⟩

section onKey

variable {key : String} {f : ℕ → Option Entry → Option (ρ × Option Entry)}

theorem now_call (c : Client) : (c.call outcome (onKey key f)).2.store.now = c.store.now := by
  rcases store_call c outcome (onKey key f) with hs | ⟨r, hr⟩
  · rw [hs]
  · exact now_onKey hr

theorem lookup_call_of_ne (c : Client) {x : String} (hx : x ≠ key) :
    (c.call outcome (onKey key f)).2.store.lookup x = c.store.lookup x := by
  rcases store_call c outcome (onKey key f) with hs | ⟨r, hr⟩
  · rw [hs]
  · exact lookup_onKey_of_ne hr hx

end onKey

/-- A command on another key leaves the set. -/
theorem HoldsSet.call_onKey {key key' : String} {S : Set String}
    (h : HoldsSet c.store key S) (hkey : key ≠ key')
    {f : ℕ → Option Entry → Option (ρ × Option Entry)} {r : Option ρ} {c' : Client}
    (hcall : c.call outcome (onKey key' f) = (r, c')) : HoldsSet c'.store key S := by
  have hstore := store_call c outcome (onKey key' f)
  rw [hcall] at hstore
  rcases hstore with hs | ⟨r, hr⟩
  · rw [hs]
    exact h
  · exact h.of_lookup_eq (lookup_onKey_of_ne hr hkey)

end call

/-!
## Keys that commands leave alone
-/

section leaves

variable {ρ : Type*} {x : String}

/-- A command that leaves the entry under a key as it is. -/
def Command.Leaves (x : String) (cmd : Command ρ) : Prop :=
  ∀ ks r ks', cmd ks = some (r, ks') → ks'.lookup x = ks.lookup x

theorem leaves_onKey {key : String} {f : ℕ → Option Entry → Option (ρ × Option Entry)}
    (hx : x ≠ key) : (onKey key f).Leaves x :=
  fun _ _ _ h => lookup_onKey_of_ne h hx

theorem Command.Leaves.void {cmd : Command ρ} (h : cmd.Leaves x) : cmd.void.Leaves x := by
  intro ks r ks' hcmd
  obtain ⟨⟨r', ks''⟩, hcmd', ha⟩ := Option.map_eq_some_iff.1 hcmd
  obtain ⟨-, rfl⟩ := Prod.mk.inj ha
  exact h ks r' _ hcmd'

variable {outcome : ℕ → Outcome} {c : Client}

theorem Command.Leaves.lookup_call {cmd : Command ρ} (h : cmd.Leaves x)
    (outcome : ℕ → Outcome) (c : Client) :
    (c.call outcome cmd).2.store.lookup x = c.store.lookup x := by
  rcases store_call c outcome cmd with hs | ⟨r, hr⟩
  · rw [hs]
  · exact h _ _ _ hr

theorem lookup_attempt {cmds : List (Command Unit)} (h : ∀ cmd ∈ cmds, cmd.Leaves x)
    (c : Client) : (c.attempt outcome cmds).store.lookup x = c.store.lookup x := by
  induction cmds generalizing c with
  | nil => rfl
  | cons cmd cmds ih =>
      have hcall := (h cmd List.mem_cons_self).lookup_call outcome c
      unfold Client.attempt
      split
      · next c' heq =>
          rw [heq] at hcall
          exact (ih (fun cmd' hcmd' => h cmd' (List.mem_cons_of_mem cmd hcmd')) c').trans hcall
      · next heq =>
          rw [heq] at hcall
          exact hcall

/-- Reading a list leaves every entry as it is. -/
theorem leaves_lrange (key : String) (start stop : ℤ) : (lrange key start stop).Leaves x := by
  intro ks r ks' h
  refine lookup_of_reads ?_ h x
  intro now e r e' he
  split at he
  · cases he
    rfl
  · cases he
    rfl
  · cases he

end leaves

/-!
## One list
-/

/-- Under the key there is a list, and `l` are its elements, or there is nothing. -/
def HoldsList (ks : Keyspace) (key : String) (l : List (List UInt8)) : Prop :=
  (ks.lookup key = none ∧ l = []) ∨ ∃ t, ks.lookup key = some ⟨.list l, t⟩

/-- The elements up to the one with the index `n - 1`; all of them where that is the
index of the last one. -/
theorem slice_zero_pred (l : List (List UInt8)) (n : ℕ) :
    slice l 0 ((n : ℤ) - 1) = if n = 0 then l else l.take n := by
  unfold slice
  cases n with
  | zero =>
      have hlast : ((0 : ℕ) : ℤ) - 1 < 0 := by omega
      have hcount : (((0 : ℕ) : ℤ) - 1 + (l.length : ℤ) + 1).toNat = l.length := by omega
      simp only [lt_self_iff_false, if_false, max_self, hlast, hcount, if_true]
      exact l.take_length
  | succ n =>
      have hlast : ¬ ((n + 1 : ℕ) : ℤ) - 1 < 0 := by omega
      have hcount : (((n + 1 : ℕ) : ℤ) - 1 + 1).toNat = n + 1 := by omega
      simp only [lt_self_iff_false, if_false, max_self, hlast, hcount, Nat.succ_ne_zero]
      rfl

namespace HoldsList

variable {ks ks' : Keyspace} {key : String} {l : List (List UInt8)}

theorem of_lookup_eq (h : HoldsList ks key l) (hl : ks'.lookup key = ks.lookup key) :
    HoldsList ks' key l := by
  rw [HoldsList, hl]
  exact h

/-- The entry of the list is not expired. -/
theorem live_of_lookup {t : Option ℕ} (h : ks.lookup key = some ⟨.list l, t⟩)
    (l' : List (List UInt8)) : Entry.live ks.now ⟨.list l', t⟩ = true := by
  rw [Keyspace.lookup, Option.filter_eq_some_iff] at h
  exact h.2

theorem lpush (h : HoldsList ks key l) (element : List UInt8) :
    ∃ n ks', Redis.lpush key element ks = some (n, ks') ∧
      HoldsList ks' key (element :: l) ∧ ∀ x, x ≠ key → ks'.lookup x = ks.lookup x := by
  rcases h with ⟨hnone, rfl⟩ | ⟨t, ht⟩
  · refine ⟨1, ks.put key (some ⟨.list [element], none⟩), ?_, Or.inr ⟨none, ?_⟩, ?_⟩
    · simp only [Redis.lpush, onKey, hnone, Option.map_some]
    · rw [Keyspace.lookup_put_self]
      rfl
    · exact fun x hx => ks.lookup_put_of_ne key _ hx
  · refine ⟨l.length + 1, ks.put key (some ⟨.list (element :: l), t⟩), ?_,
      Or.inr ⟨t, ?_⟩, ?_⟩
    · simp only [Redis.lpush, onKey, ht, Option.map_some]
    · rw [Keyspace.lookup_put_self, Option.filter_some, live_of_lookup ht, if_pos rfl]
    · exact fun x hx => ks.lookup_put_of_ne key _ hx

theorem ltrim (h : HoldsList ks key l) (start stop : ℤ) :
    ∃ ks', Redis.ltrim key start stop ks = some ((), ks') ∧
      HoldsList ks' key (slice l start stop) ∧ ∀ x, x ≠ key → ks'.lookup x = ks.lookup x := by
  rcases h with ⟨hnone, rfl⟩ | ⟨t, ht⟩
  · refine ⟨ks.put key none, ?_, Or.inl ⟨?_, ?_⟩, ?_⟩
    · simp only [Redis.ltrim, onKey, hnone, Option.map_some]
    · rw [Keyspace.lookup_put_self]
      rfl
    · simp [slice]
    · exact fun x hx => ks.lookup_put_of_ne key _ hx
  · refine ⟨ks.put key (if slice l start stop = [] then none
      else some ⟨.list (slice l start stop), t⟩), ?_, ?_, ?_⟩
    · simp only [Redis.ltrim, onKey, ht, Option.map_some]
    · rw [HoldsList, Keyspace.lookup_put_self]
      split
      · next hempty => exact Or.inl ⟨rfl, hempty⟩
      · rw [Option.filter_some, live_of_lookup ht, if_pos rfl]
        exact Or.inr ⟨t, rfl⟩
    · exact fun x hx => ks.lookup_put_of_ne key _ hx

theorem lrange (h : HoldsList ks key l) (start stop : ℤ) :
    ∃ ks', Redis.lrange key start stop ks = some (slice l start stop, ks') := by
  rcases h with ⟨hnone, rfl⟩ | ⟨t, ht⟩
  · refine ⟨ks.put key none, ?_⟩
    simp [Redis.lrange, onKey, hnone, slice]
  · refine ⟨ks.put key (some ⟨.list l, t⟩), ?_⟩
    simp only [Redis.lrange, onKey, ht, Option.map_some]

/-- An expiry of no time deletes the list. -/
theorem expire (h : HoldsList ks key l) (ttl : ℕ) :
    ∃ r ks', Redis.expire key ttl ks = some (r, ks') ∧
      HoldsList ks' key (if ttl = 0 then [] else l) ∧
      ∀ x, x ≠ key → ks'.lookup x = ks.lookup x := by
  rcases h with ⟨hnone, rfl⟩ | ⟨t, ht⟩
  · refine ⟨false, ks.put key none, ?_, Or.inl ⟨?_, ite_self _⟩, ?_⟩
    · simp only [Redis.expire, onKey, hnone, Option.map_some]
    · rw [Keyspace.lookup_put_self]
      rfl
    · exact fun x hx => ks.lookup_put_of_ne key _ hx
  · refine ⟨true, ks.put key (if ttl = 0 then none else some ⟨.list l, some (ks.now + ttl)⟩),
      ?_, ?_, ?_⟩
    · simp only [Redis.expire, onKey, ht, Option.map_some]
    · rw [HoldsList, Keyspace.lookup_put_self]
      by_cases httl : ttl = 0
      · rw [if_pos httl, if_pos httl]
        exact Or.inl ⟨rfl, rfl⟩
      · have hlive : Entry.live ks.now ⟨.list l, some (ks.now + ttl)⟩ = true := by
          simp only [Entry.live, Option.all_some, decide_eq_true_eq]
          omega
        rw [if_neg httl, if_neg httl, Option.filter_some, hlive, if_pos rfl]
        exact Or.inr ⟨some (ks.now + ttl), rfl⟩
    · exact fun x hx => ks.lookup_put_of_ne key _ hx

end HoldsList

theorem issued_attempt (outcome : ℕ → Outcome) (c : Client) (cmds : List (Command Unit)) :
    c.issued ≤ (c.attempt outcome cmds).issued := by
  induction cmds generalizing c with
  | nil => exact le_rfl
  | cons cmd cmds ih =>
      have hcall := issued_call c outcome cmd
      unfold Client.attempt
      split
      · next c' heq =>
          rw [heq] at hcall
          exact (Nat.le_succ _).trans (hcall.ge.trans (ih c'))
      · next c' heq =>
          rw [heq] at hcall
          exact (Nat.le_succ _).trans hcall.ge

/-- A command that is answered is followed by the next one. -/
theorem attempt_cons {ρ : Type*} {outcome : ℕ → Outcome} {c : Client} {cmd : Command ρ}
    {r : ρ} {ks : Keyspace} (h : outcome c.issued = .answered)
    (hcmd : cmd c.store = some (r, ks)) (cmds : List (Command Unit)) :
    c.attempt outcome (cmd.void :: cmds) =
      Client.attempt outcome ⟨ks, c.issued + 1⟩ cmds := by
  have hvoid : cmd.void c.store = some ((), ks) := by
    rw [Command.void, hcmd]
    rfl
  rw [Client.attempt, call_answered h hvoid]

/-!
## Lists
-/

/-- Every element of the list in an entry satisfies `P`. -/
def Entry.ListsOf (P : List UInt8 → Prop) (e : Option Entry) : Prop :=
  ∀ l t, e = some ⟨.list l, t⟩ → ∀ x ∈ l, P x

/-- Every element of every list in the keyspace satisfies `P`. -/
def ListsOf (P : List UInt8 → Prop) (ks : Keyspace) : Prop :=
  ∀ key, Entry.ListsOf P (ks.lookup key)

/-- A command that puts only elements with `P` into lists. -/
def Command.Keeps {ρ : Type*} (P : List UInt8 → Prop) (cmd : Command ρ) : Prop :=
  ∀ ks r ks', cmd ks = some (r, ks') → ListsOf P ks → ListsOf P ks'

section lists

variable {ρ : Type*} {P Q : List UInt8 → Prop}

theorem ListsOf.mono {ks : Keyspace} (h : ListsOf P ks) (hPQ : ∀ x, P x → Q x) :
    ListsOf Q ks :=
  fun key l t hl x hx => hPQ x (h key l t hl x hx)

theorem ListsOf.advance {ks : Keyspace} (h : ListsOf P ks) (elapsed : ℕ) :
    ListsOf P (ks.advance elapsed) := by
  intro key l t hl
  exact h key l t (Keyspace.lookup_of_advance hl)

/-- What a command on one key has to do for its entry. -/
theorem keeps_onKey {key : String} {f : ℕ → Option Entry → Option (ρ × Option Entry)}
    (hf : ∀ now e r e', f now e = some (r, e') → Entry.ListsOf P e → Entry.ListsOf P e') :
    (onKey key f).Keeps P := by
  intro ks r ks' h hks key'
  by_cases hkey : key' = key
  · subst hkey
    obtain ⟨⟨r', e'⟩, he, ha⟩ := Option.map_eq_some_iff.1 h
    obtain ⟨-, rfl⟩ := Prod.mk.inj ha
    intro l t hl
    rw [Keyspace.lookup_put_self, Option.filter_eq_some_iff] at hl
    exact hf _ _ _ _ he (hks key') l t hl.1
  · rw [lookup_onKey_of_ne h hkey]
    exact hks key'

theorem Command.Keeps.void {cmd : Command ρ} (h : cmd.Keeps P) : cmd.void.Keeps P := by
  intro ks r ks' hcmd hks
  obtain ⟨⟨r', ks''⟩, hcmd', ha⟩ := Option.map_eq_some_iff.1 hcmd
  obtain ⟨-, rfl⟩ := Prod.mk.inj ha
  exact h ks r' _ hcmd' hks

theorem keeps_setex (key value : String) (ttl : ℕ) : (setex key value ttl).Keeps P := by
  refine keeps_onKey fun now e r e' h _ l t hl => ?_
  obtain ⟨-, h⟩ := Option.ite_none_left_eq_some.1 h
  cases h
  cases hl

theorem keeps_del (key : String) : (del key).Keeps P := by
  refine keeps_onKey fun now e r e' h _ l t hl => ?_
  cases h
  cases hl

theorem keeps_incr (key : String) : (incr key).Keeps P := by
  refine keeps_onKey fun now e r e' h _ l t hl => ?_
  cases e with
  | none =>
      cases h
      cases hl
  | some e =>
      obtain ⟨v, t'⟩ := e
      cases hv : v.toInteger with
      | none => simp [hv] at h
      | some n =>
          simp only [hv] at h
          obtain ⟨-, h⟩ := Option.ite_some_none_eq_some.1 h
          cases h
          cases hl

theorem keeps_expire (key : String) (ttl : ℕ) : (expire key ttl).Keeps P := by
  refine keeps_onKey fun now e r e' h he l t hl => ?_
  cases e with
  | none =>
      cases h
      cases hl
  | some e =>
      obtain ⟨v, t'⟩ := e
      obtain ⟨-, rfl⟩ := Prod.mk.inj (Option.some.inj h)
      obtain ⟨-, hl⟩ := Option.ite_none_left_eq_some.1 hl
      cases hl
      exact he l _ rfl

theorem keeps_hset (key field value : String) : (hset key field value).Keeps P := by
  refine keeps_onKey fun now e r e' h _ l t hl => ?_
  split at h
  · cases h
    cases hl
  · cases h
    cases hl
  · cases h

theorem keeps_lpush (key : String) {element : List UInt8} (hP : P element) :
    (lpush key element).Keeps P := by
  refine keeps_onKey fun now e r e' h he l t hl => ?_
  split at h
  · cases h
    cases hl
    exact fun x hx => List.mem_singleton.1 hx ▸ hP
  · cases h
    cases hl
    intro x hx
    rcases List.mem_cons.1 hx with rfl | hx
    · exact hP
    · exact he _ _ rfl x hx
  · cases h

theorem mem_of_mem_slice {l : List (List UInt8)} {start stop : ℤ} {x : List UInt8}
    (hx : x ∈ slice l start stop) : x ∈ l :=
  List.mem_of_mem_take (List.mem_of_mem_drop hx)

theorem keeps_ltrim (key : String) (start stop : ℤ) : (ltrim key start stop).Keeps P := by
  refine keeps_onKey fun now e r e' h he l t hl => ?_
  split at h
  · cases h
    cases hl
  · obtain ⟨-, rfl⟩ := Prod.mk.inj (Option.some.inj h)
    obtain ⟨-, hl⟩ := Option.ite_none_left_eq_some.1 hl
    cases hl
    exact fun x hx => he _ _ rfl x (mem_of_mem_slice hx)
  · cases h

theorem keeps_lrange (key : String) (start stop : ℤ) :
    (lrange key start stop).Keeps P := by
  refine keeps_onKey fun now e r e' h he l t hl => ?_
  split at h
  · cases h
    cases hl
  · cases h
    cases hl
    exact he _ _ rfl
  · cases h

/-- What `lrange` reads from a list satisfies `P`. -/
theorem of_mem_lrange {key : String} {start stop : ℤ} {ks ks' : Keyspace}
    {entries : List (List UInt8)} (hks : ListsOf P ks)
    (h : lrange key start stop ks = some (entries, ks')) : ∀ x ∈ entries, P x := by
  obtain ⟨⟨entries', e'⟩, he, ha⟩ := Option.map_eq_some_iff.1 h
  obtain ⟨rfl, -⟩ := Prod.mk.inj ha
  simp only at he
  split at he
  · cases he
    exact fun x hx => absurd hx List.not_mem_nil
  · next l t hlookup =>
      cases he
      exact fun x hx => hks key _ _ hlookup x (mem_of_mem_slice hx)
  · cases he

variable {outcome : ℕ → Outcome} {c : Client}

theorem ListsOf.call {cmd : Command ρ} (h : ListsOf P c.store) (hcmd : cmd.Keeps P) :
    ListsOf P (c.call outcome cmd).2.store := by
  rcases store_call c outcome cmd with hs | ⟨r, hr⟩
  · rw [hs]
    exact h
  · exact hcmd _ _ _ hr h

theorem ListsOf.attempt {cmds : List (Command Unit)} (h : ListsOf P c.store)
    (hcmds : ∀ cmd ∈ cmds, cmd.Keeps P) : ListsOf P (c.attempt outcome cmds).store := by
  induction cmds generalizing c with
  | nil => exact h
  | cons cmd cmds ih =>
      have hcall : ListsOf P (c.call outcome cmd).2.store :=
        h.call (hcmds cmd List.mem_cons_self)
      unfold Client.attempt
      split
      · next heq =>
          rw [heq] at hcall
          exact ih hcall fun cmd' hcmd' => hcmds cmd' (List.mem_cons_of_mem cmd hcmd')
      · next heq =>
          rw [heq] at hcall
          exact hcall

/-- A reply comes from the command. -/
theorem exists_of_call {cmd : Command ρ} {r : ρ} {c' : Client}
    (h : c.call outcome cmd = (some r, c')) : ∃ ks, cmd c.store = some (r, ks) := by
  unfold Client.call at h
  split at h
  · next heq =>
      cases h
      exact ⟨_, heq⟩
  · cases h
  · cases h

end lists

end Redis

end SosBackend
