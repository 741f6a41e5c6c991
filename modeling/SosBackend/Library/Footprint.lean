import SosBackend.Library.Redis
import Mathlib.Data.Set.Defs

/-!
# Commands within a set of keys

A command on one key depends on the clock and on what is stored under the key, and on nothing
else. So a client whose commands stay within a set of keys cannot tell keyspaces that agree on
the set, and keyspaces that agree keep agreeing.
-/

namespace SosBackend

namespace Redis

/-- The same time, and the same under the keys in `K`. -/
structure Keyspace.Agree (K : Set String) (ks ks' : Keyspace) : Prop where
  now : ks'.now = ks.now
  lookup : ∀ key ∈ K, ks'.lookup key = ks.lookup key

/-- A command on a key in `K`. -/
def Command.Within {ρ : Type*} (K : Set String) (cmd : Command ρ) : Prop :=
  ∃ key ∈ K, ∃ f, cmd = onKey key f

variable {ρ : Type*} {K : Set String}

theorem Command.Within.void {cmd : Command ρ} (h : cmd.Within K) : cmd.void.Within K := by
  obtain ⟨key, hkey, f, rfl⟩ := h
  refine ⟨key, hkey, fun now e => (f now e).map fun r => ((), r.2), ?_⟩
  funext ks
  simp only [Command.void, onKey, Option.map_map]
  rfl

namespace Keyspace

/-- What is left of an entry when time has passed. -/
theorem lookup_advance_eq (ks : Keyspace) (seconds : ℕ) (key : String) :
    (ks.advance seconds).lookup key =
      (ks.lookup key).filter (Entry.live (ks.now + seconds)) := by
  have hlive : ∀ e : Entry, (Entry.live ks.now e && Entry.live (ks.now + seconds) e) =
      Entry.live (ks.now + seconds) e := by
    intro e
    cases hlater : Entry.live (ks.now + seconds) e with
    | false => exact Bool.and_false _
    | true =>
        rw [Bool.and_true]
        simp only [Entry.live, Option.all_eq_true_iff_get, decide_eq_true_eq] at hlater ⊢
        exact fun ht => (Nat.le_add_right _ _).trans_lt (hlater ht)
  rw [lookup, lookup, Option.filter_filter]
  simp only [hlive]
  rfl

namespace Agree

variable {ks ks' ks'' : Keyspace}

theorem refl (K : Set String) (ks : Keyspace) : Agree K ks ks :=
  ⟨rfl, fun _ _ => rfl⟩

theorem symm (h : Agree K ks ks') : Agree K ks' ks :=
  ⟨h.now.symm, fun key hkey => (h.lookup key hkey).symm⟩

theorem trans (h : Agree K ks ks') (h' : Agree K ks' ks'') : Agree K ks ks'' :=
  ⟨h'.now.trans h.now, fun key hkey => (h'.lookup key hkey).trans (h.lookup key hkey)⟩

theorem mono {K' : Set String} (h : Agree K ks ks') (hK : ∀ key ∈ K', key ∈ K) :
    Agree K' ks ks' :=
  ⟨h.now, fun key hkey => h.lookup key (hK key hkey)⟩

theorem advance (h : Agree K ks ks') (seconds : ℕ) :
    Agree K (ks.advance seconds) (ks'.advance seconds) := by
  refine ⟨congrArg (· + seconds) h.now, fun key hkey => ?_⟩
  rw [lookup_advance_eq, lookup_advance_eq, h.now, h.lookup key hkey]

theorem put (h : Agree K ks ks') (key : String) (e : Option Entry) :
    Agree K (ks.put key e) (ks'.put key e) := by
  constructor
  · cases e with
    | none => exact h.now
    | some e => exact h.now
  · intro x hx
    by_cases hkey : x = key
    · rw [hkey, lookup_put_self, lookup_put_self, h.now]
    · rw [lookup_put_of_ne _ _ _ hkey, lookup_put_of_ne _ _ _ hkey, h.lookup x hx]

end Agree

end Keyspace

/-- A command leaves what is not within its keys. -/
theorem Command.Within.agree_call {cmd : Command ρ} (hcmd : cmd.Within K)
    (outcome : ℕ → Outcome) (c : Client) :
    c.store.Agree (fun key => key ∉ K) (c.call outcome cmd).2.store := by
  obtain ⟨key, hkey, f, rfl⟩ := hcmd
  refine ⟨now_call c, fun x hx => lookup_call_of_ne c ?_⟩
  rintro rfl
  exact hx hkey

theorem agree_attempt {cmds : List (Command Unit)} (hcmds : ∀ cmd ∈ cmds, cmd.Within K)
    (outcome : ℕ → Outcome) (c : Client) :
    c.store.Agree (fun key => key ∉ K) (c.attempt outcome cmds).store := by
  induction cmds generalizing c with
  | nil => exact Keyspace.Agree.refl _ _
  | cons cmd cmds ih =>
      have hcall := (hcmds cmd List.mem_cons_self).agree_call outcome c
      have hrest := fun cmd hcmd => hcmds cmd (List.mem_cons_of_mem _ hcmd)
      unfold Client.attempt
      split
      · next heq =>
          rw [heq] at hcall
          exact hcall.trans (ih hrest _)
      · next heq =>
          rw [heq] at hcall
          exact hcall

/-- As many commands issued, and keyspaces that agree. -/
structure Client.Agree (K : Set String) (c d : Client) : Prop where
  issued : d.issued = c.issued
  store : c.store.Agree K d.store

namespace Client.Agree

variable {c d : Client}

theorem refl (K : Set String) (c : Client) : c.Agree K c :=
  ⟨rfl, Keyspace.Agree.refl K c.store⟩

/-- A command within the keys gets the same reply from both. -/
theorem call (h : c.Agree K d) {cmd : Command ρ} (hcmd : cmd.Within K)
    (outcome : ℕ → Outcome) :
    (d.call outcome cmd).1 = (c.call outcome cmd).1 ∧
      (c.call outcome cmd).2.Agree K (d.call outcome cmd).2 := by
  obtain ⟨key, hkey, f, rfl⟩ := hcmd
  have hissued : d.issued + 1 = c.issued + 1 := congrArg (· + 1) h.issued
  have hreply : ∀ {a}, f c.store.now (c.store.lookup key) = a →
      onKey key f c.store = a.map (fun r => (r.1, c.store.put key r.2)) ∧
        onKey key f d.store = a.map (fun r => (r.1, d.store.put key r.2)) := by
    rintro a rfl
    refine ⟨rfl, ?_⟩
    rw [onKey, h.store.now, h.store.lookup key hkey]
  obtain ⟨hc, hd⟩ := hreply rfl
  unfold Client.call
  rw [h.issued, hc, hd]
  cases f c.store.now (c.store.lookup key) with
  | none =>
      cases outcome c.issued with
      | _ => exact ⟨rfl, rfl, h.store⟩
  | some r =>
      cases outcome c.issued with
      | answered => exact ⟨rfl, rfl, h.store.put key r.2⟩
      | unanswered => exact ⟨rfl, rfl, h.store.put key r.2⟩
      | lost => exact ⟨rfl, rfl, h.store⟩

theorem attempt (h : c.Agree K d) {cmds : List (Command Unit)}
    (hcmds : ∀ cmd ∈ cmds, cmd.Within K) (outcome : ℕ → Outcome) :
    (c.attempt outcome cmds).Agree K (d.attempt outcome cmds) := by
  induction cmds generalizing c d with
  | nil => exact h
  | cons cmd cmds ih =>
      obtain ⟨hreply, hagree⟩ := h.call (hcmds cmd List.mem_cons_self) outcome
      have hrest := fun cmd hcmd => hcmds cmd (List.mem_cons_of_mem _ hcmd)
      unfold Client.attempt
      cases hc : c.call outcome cmd with
      | mk r c' =>
      cases hd : d.call outcome cmd with
      | mk r' d' =>
      rw [hc, hd] at hreply hagree
      obtain rfl : r' = r := hreply
      cases r' with
      | none => exact hagree
      | some r => exact ih hagree hrest

end Client.Agree

end Redis

end SosBackend
