import SosBackend.Library.Footprint

/-!
# Entries that expire soon

A keyspace is brief on a set of keys where nothing under them outlives a number of seconds
from now. A command that sets an expiry within these seconds, or takes an entry away, makes
its own key brief; any other command may have left its key without an expiry, and the other
keys as they were.
-/

namespace SosBackend

namespace Redis

/-- Nothing under the keys in `K` is there in `L` seconds. -/
def Keyspace.Brief (K : Set String) (L : ℕ) (ks : Keyspace) : Prop :=
  ∀ key ∈ K, ∀ e, ks.lookup key = some e → Entry.live (ks.now + L) e = false

/-- An entry that expires within the time is gone when it is over. -/
theorem live_of_le {v : Value} {now ttl L : ℕ} (h : ttl ≤ L) :
    Entry.live (now + L) ⟨v, some (now + ttl)⟩ = false := by
  simp only [Entry.live, Option.all_some, decide_eq_false_iff_not]
  omega

namespace Keyspace.Brief

variable {K : Set String} {L : ℕ} {ks ks' : Keyspace} {key : String}

theorem of_agree (h : ks.Brief K L) (hagree : ks.Agree K ks') : ks'.Brief K L := by
  intro key hkey e he
  rw [hagree.lookup key hkey] at he
  rw [hagree.now]
  exact h key hkey e he

theorem mono {K' : Set String} (h : ks.Brief K L) (hK : K' ⊆ K) : ks.Brief K' L :=
  fun key hkey => h key (hK hkey)

theorem except (h : ks.Brief K L) (key : String) : ks.Brief (K \ {key}) L :=
  h.mono Set.sdiff_subset

/-- What is gone in some seconds is gone later. -/
theorem advance (h : ks.Brief K L) (seconds : ℕ) : (ks.advance seconds).Brief K L := by
  intro key hkey e he
  have hgone := h key hkey e (lookup_of_advance he)
  unfold Keyspace.advance
  cases ht : e.expiresAt with
  | none =>
      rw [Entry.live, ht] at hgone
      cases hgone
  | some t =>
      simp only [Entry.live, ht, Option.all_some, decide_eq_false_iff_not] at hgone ⊢
      omega

/-- When the time is over nothing is left. -/
theorem iff_lookup_advance :
    ks.Brief K L ↔ ∀ key ∈ K, (ks.advance L).lookup key = none := by
  apply forall₂_congr
  intro key _
  rw [lookup_advance_eq, Option.filter_eq_none_iff]
  apply forall₂_congr
  intro e _
  rw [Bool.not_eq_true]

/-- What is left under a key is all that matters of it. -/
theorem put (h : ks.Brief (K \ {key}) L) {e : Option Entry}
    (he : ∀ e' ∈ e, Entry.live (ks.now + L) e' = false) : (ks.put key e).Brief K L := by
  have hnow : (ks.put key e).now = ks.now := by
    cases e with
    | none => rfl
    | some e => rfl
  intro x hx e' he'
  rw [hnow]
  by_cases hkey : x = key
  · subst hkey
    rw [lookup_put_self] at he'
    exact he e' (Option.filter_eq_some_iff.1 he').1
  · rw [lookup_put_of_ne _ _ _ hkey] at he'
    exact h x ⟨hx, hkey⟩ e' he'

/-!
## Commands
-/

variable {ρ : Type*} {r : ρ}

/-- A command leaves the keys that are not its own. -/
theorem onKey {f : ℕ → Option Entry → Option (ρ × Option Entry)}
    (h : ks.Brief (K \ {key}) L) (hcmd : Redis.onKey key f ks = some (r, ks')) :
    ks'.Brief (K \ {key}) L :=
  h.of_agree
    ⟨now_onKey hcmd, fun _ hx => lookup_onKey_of_ne hcmd hx.2⟩

/-- A command that leaves under its key what expires soon, or nothing. -/
theorem of_onKey {f : ℕ → Option Entry → Option (ρ × Option Entry)}
    (h : ks.Brief (K \ {key}) L) (hcmd : Redis.onKey key f ks = some (r, ks'))
    (hf : ∀ r e, f ks.now (ks.lookup key) = some (r, some e) →
      Entry.live (ks.now + L) e = false) : ks'.Brief K L := by
  obtain ⟨⟨r', e'⟩, he, ha⟩ := Option.map_eq_some_iff.1 hcmd
  obtain ⟨-, rfl⟩ := Prod.mk.inj ha
  apply h.put
  rintro e rfl
  exact hf r' e he

theorem setex {value : String} {ttl : ℕ} {r : Unit} (h : ks.Brief (K \ {key}) L)
    (hL : ttl ≤ L) (hcmd : Redis.setex key value ttl ks = some (r, ks')) : ks'.Brief K L := by
  refine h.of_onKey hcmd fun r e he => ?_
  obtain ⟨-, he⟩ := Option.ite_none_left_eq_some.1 he
  cases he
  exact live_of_le hL

theorem expire {ttl : ℕ} {r : Bool} (h : ks.Brief (K \ {key}) L) (hL : ttl ≤ L)
    (hcmd : Redis.expire key ttl ks = some (r, ks')) : ks'.Brief K L := by
  refine h.of_onKey hcmd fun r e he => ?_
  cases hlookup : ks.lookup key with
  | none =>
      rw [hlookup] at he
      cases he
  | some e' =>
      rw [hlookup] at he
      obtain ⟨-, he⟩ := Prod.mk.inj (Option.some.inj he)
      obtain ⟨-, he⟩ := Option.ite_none_left_eq_some.1 he
      cases he
      exact live_of_le hL

theorem del {r : Bool} (h : ks.Brief (K \ {key}) L)
    (hcmd : Redis.del key ks = some (r, ks')) : ks'.Brief K L :=
  h.of_onKey hcmd fun r e he => by cases he

/-- A counter that was there before keeps its expiry. -/
theorem incr {n : ℤ} (h : ks.Brief K L) (hcmd : Redis.incr key ks = some (n, ks'))
    (hn : n ≠ 1) : ks'.Brief K L := by
  by_cases hkey : key ∈ K
  · obtain ⟨⟨n', e'⟩, he, ha⟩ := Option.map_eq_some_iff.1 hcmd
    obtain ⟨rfl, rfl⟩ := Prod.mk.inj ha
    refine (h.except key).put ?_
    rintro e rfl
    cases hlookup : ks.lookup key with
    | none =>
        rw [hlookup] at he
        obtain ⟨rfl, -⟩ := Prod.mk.inj (Option.some.inj he)
        exact absurd rfl hn
    | some e'' =>
        obtain ⟨v, t⟩ := e''
        have hgone := h key hkey _ hlookup
        rw [hlookup] at he
        cases hv : v.toInteger with
        | none => simp [hv] at he
        | some m =>
            simp only [hv] at he
            obtain ⟨-, he⟩ := Option.ite_some_none_eq_some.1 he
            cases he
            exact hgone
  · rw [← Set.sdiff_singleton_eq_self hkey]
    exact (h.except key).onKey hcmd

/-- Whatever becomes of a command, what it does is all that matters of it. -/
theorem call {c : Client} (h : c.store.Brief K L) (outcome : ℕ → Outcome) {cmd : Command ρ}
    (hcmd : ∀ r ks, cmd c.store = some (r, ks) → ks.Brief K L) :
    (c.call outcome cmd).2.store.Brief K L := by
  rcases store_call c outcome cmd with hs | ⟨r, hr⟩
  · rw [hs]
    exact h
  · exact hcmd r _ hr

end Keyspace.Brief

/-!
## Commands that are answered
-/

section answered

variable {ρ : Type*} {K : Set String} {L : ℕ} {outcome : ℕ → Outcome} {c : Client}

/-- No expiry is refused. -/
theorem exists_expire (key : String) (ttl : ℕ) (ks : Keyspace) :
    ∃ r ks', expire key ttl ks = some (r, ks') := by
  unfold expire onKey
  cases ks.lookup key with
  | none => exact ⟨_, _, rfl⟩
  | some e => exact ⟨_, _, rfl⟩

/-- What has been pushed to is a list. -/
theorem holdsList_of_lpush {key : String} {element : List UInt8} {ks ks' : Keyspace} {n : ℕ}
    (h : lpush key element ks = some (n, ks')) : ∃ l, HoldsList ks' key l := by
  have hlist : ∃ l, HoldsList ks key l := by
    cases hlookup : ks.lookup key with
    | none => exact ⟨[], Or.inl ⟨hlookup, rfl⟩⟩
    | some e =>
        obtain ⟨v, t⟩ := e
        rw [lpush, Redis.onKey, hlookup] at h
        cases v with
        | list l => exact ⟨l, Or.inr ⟨t, hlookup⟩⟩
        | _ => cases h
  obtain ⟨l, hl⟩ := hlist
  obtain ⟨n', ks'', hpush, hpushed, -⟩ := hl.lpush element
  obtain ⟨-, rfl⟩ := Prod.mk.inj (Option.some.inj (hpush.symm.trans h))
  exact ⟨_, hpushed⟩

/-- A command that is answered is carried out, or refused with nothing done. -/
theorem call_of_answered (h : outcome c.issued = .answered) (cmd : Command ρ) :
    (c.call outcome cmd = (none, ⟨c.store, c.issued + 1⟩) ∧ cmd c.store = none) ∨
      ∃ r ks, c.call outcome cmd = (some r, ⟨ks, c.issued + 1⟩) ∧ cmd c.store = some (r, ks) := by
  cases hcmd : cmd c.store with
  | none =>
      refine Or.inl ⟨?_, rfl⟩
      rw [Client.call, h, hcmd]
  | some a =>
      obtain ⟨r, ks⟩ := a
      exact Or.inr ⟨r, ks, call_answered h hcmd, rfl⟩

/-- A command that is refused is the last one. -/
theorem attempt_cons_of_none {cmd : Command ρ} (h : outcome c.issued = .answered)
    (hcmd : cmd c.store = none) (cmds : List (Command Unit)) :
    (c.attempt outcome (cmd.void :: cmds)).store = c.store := by
  have hvoid : cmd.void c.store = none := by
    rw [Command.void, hcmd]
    rfl
  rw [Client.attempt, Client.call, h, hvoid]

end answered

end Redis

end SosBackend
