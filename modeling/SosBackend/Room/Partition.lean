import SosBackend.Room.Seats

/-!
# Lobby and rooms

An open connection gets the room list pushed or is in a room. The lobby keeps sessions
and a room keeps players, so what joins the two is the session registered for a player:
when players leave a room, their registered sessions go to the lobby. That is right as
long as these sessions are open and speak for nobody else in a room, and as long as
whoever leaves a room is registered itself.
-/

namespace SosBackend

namespace Room

open RoomServer

/-- The connection is registered for a player who is on the roster of a room. -/
def RoomManager.Seats (m : RoomManager) (s : SessionPtr) : Prop :=
  ∃ p r room, m.sessions.find? p = some s ∧ m.rooms.find? r = some room ∧
    room.hasPlayer p = true

/-- An open connection is in the lobby if and only if it is in no room, and the lobby
holds open connections only. -/
structure Partitioned (σ : RoomServer) : Prop where
  lobby_iff : ∀ s, (σ.clients s).isOpen = true →
    (σ.manager.lobbySessions.contains s = true ↔ ¬ σ.manager.Seats s)
  not_closed : ∀ s, σ.manager.lobbySessions.contains s = true → (σ.clients s).closed = false

/-- Lobby and rooms partition the open connections in every state that runs of `R`
reach. -/
def PartitionsConnections (R : RoomServer → Input → RoomServer → Prop) : Prop :=
  ∀ store is σ, Run R (initial store) is σ → Partitioned σ

/-!
## The condition
-/

/-- The session comes back to the lobby in the step: by its `LeaveRoom`, or as the one
registered for a player who is taken out of a room. -/
def Returns (env : Env) (σ : RoomServer) (i : Input) (t : SessionPtr) : Prop :=
  (departing env σ i = some t ∧ closing env σ i = none ∧ (σ.clients t).playerId ≠ "") ∨
    ∃ q, Evicts env σ i q ∧ σ.lock q = some t

/-- Who comes back to the lobby in the step is open and stays so, and is registered for
no player who keeps its room; and a connection departs from a room for a player only if no
other open connection is registered for the player. -/
structure ReturnsCleanly (env : Env) (σ : RoomServer) (i : Input) : Prop where
  opened : ∀ t, Returns env σ i t →
    (σ.clients t).isOpen = true ∧ closing env σ i ≠ some t
  single : ∀ t q r, Returns env σ i t → σ.manager.sessions.find? q = some t →
    σ.manager.playerToRoom.find? q = some r → Departs env σ i q ∨ Evicts env σ i q
  own : ∀ s t r, departing env σ i = some s → (σ.clients s).playerId ≠ "" →
    σ.manager.playerToRoom.find? (σ.clients s).playerId = some r →
    σ.manager.sessions.find? (σ.clients s).playerId = some t →
    (σ.clients t).isOpen = true → t = s

/-- The steps that bring nobody back to the lobby who does not belong there. -/
def CleanStep (env : Env) (σ : RoomServer) (i : Input) (τ : RoomServer) : Prop :=
  Step env σ i τ ∧ ReturnsCleanly env σ i

/-- Where nobody departs, and the game server is silent, nobody comes back. -/
theorem returnsCleanly_of_idle {env : Env} {σ : RoomServer} {i : Input}
    (hdeparting : departing env σ i = none)
    (hmessage : ∀ k envelope, i ≠ .gameServerMessage k envelope)
    (hclose : ∀ k, i ≠ .gameServerClose k) : ReturnsCleanly env σ i := by
  have hnobody : ∀ t, ¬ Returns env σ i t := by
    rintro t (⟨hsome, -⟩ | ⟨q, hq, -⟩)
    · cases hdeparting.symm.trans hsome
    · cases hq with
      | company hsome => cases hdeparting.symm.trans hsome
      | released hi => exact hmessage _ _ hi
      | gameOver hi => exact hclose _ hi
  constructor
  · intro t ht
    exact absurd ht (hnobody t)
  · intro t q r ht
    exact absurd ht (hnobody t)
  · intro s t r hsome
    cases hdeparting.symm.trans hsome

/-- A player leaves a room that nobody else is in, on the one session registered for it. -/
theorem returnsCleanly_leaveRoom {env : Env} {σ : RoomServer} {s : SessionPtr}
    (hlimited : limited env σ s = false) (hopen : (σ.clients s).isOpen = true)
    (halone : ∀ r room q, σ.manager.playerToRoom.find? (σ.clients s).playerId = some r →
      σ.manager.rooms.find? r = some room → q ∈ room.playerIds → q = (σ.clients s).playerId)
    (hsession : σ.manager.sessions.find? (σ.clients s).playerId = some s)
    (hone : ∀ q, σ.manager.sessions.find? q = some s → q = (σ.clients s).playerId) :
    ReturnsCleanly env σ (.clientMessage s .leaveRoom) := by
  have hdeparts : departing env σ (.clientMessage s .leaveRoom) = some s :=
    if_neg (by rw [hlimited]; exact Bool.false_ne_true)
  have hstays : closing env σ (.clientMessage s .leaveRoom) = none :=
    if_neg (by rw [hlimited]; exact Bool.false_ne_true)
  have hevicts : ∀ q, ¬ Evicts env σ (.clientMessage s .leaveRoom) q := by
    intro q hq
    cases hq with
    | company hdeparting _ hcompany =>
        obtain rfl := Option.some.inj (hdeparts.symm.trans hdeparting)
        obtain ⟨r, room, hr, hroom, -, hq, hne⟩ := hcompany
        exact hne (halone r room q hr hroom hq)
    | released hi => cases hi
    | gameOver hi => cases hi
  have hreturns : ∀ t, Returns env σ (.clientMessage s .leaveRoom) t →
      t = s ∧ (σ.clients t).playerId ≠ "" := by
    rintro t (⟨hdeparting, -, hne⟩ | ⟨q, hq, -⟩)
    · exact ⟨(Option.some.inj (hdeparts.symm.trans hdeparting)).symm, hne⟩
    · exact absurd hq (hevicts q)
  constructor
  · intro t ht
    obtain ⟨rfl, -⟩ := hreturns t ht
    refine ⟨hopen, ?_⟩
    rw [hstays]
    exact (Option.some_ne_none t).symm
  · intro t q r ht hq _
    obtain ⟨rfl, hne⟩ := hreturns t ht
    exact Or.inl ⟨t, hdeparts, hne, (hone q hq).symm⟩
  · intro s' t r hdeparting _ _ ht _
    obtain rfl := Option.some.inj (hdeparts.symm.trans hdeparting)
    exact (Option.some.inj (hsession.symm.trans ht)).symm

/-!
## The invariant
-/

/-- The connection is registered for a player who is in a room. -/
def Registry.Seated (v : Registry) (t : SessionPtr) : Prop :=
  ∃ q r, v.sessions q = some t ∧ v.playerToRoom q = some r

/-- The lobby is made of the open connections that are in no room. -/
structure Settled (σ : RoomServer) : Prop where
  lobby : ∀ t, t ∈ σ.lobby ↔ (σ.clients t).isOpen = true ∧ ¬ σ.registry.Seated t
  born : ∀ q t, σ.registry.sessions q = some t → (σ.clients t).lifetime ≠ .unborn

theorem Settled.partitioned {env : Env} {σ : RoomServer} (h : Settled σ)
    (hσ : σ.registry.Indexed env) : Partitioned σ := by
  have hseats : ∀ s, σ.manager.Seats s ↔ σ.registry.Seated s := by
    intro s
    constructor
    · intro hs
      obtain ⟨p, r, room, hs, hroom, hp⟩ := hs
      exact ⟨p, r, hs, hσ.index_of_mem hroom (Room.hasPlayer_iff.1 hp)⟩
    · intro hs
      obtain ⟨p, r, hs, hp⟩ := hs
      obtain ⟨room, hroom, hmem⟩ := (hσ.index p r).1 hp
      exact ⟨p, r, room, hs, hroom, Room.hasPlayer_iff.2 hmem⟩
  constructor
  · intro s hopen
    rw [← UnorderedSet.mem_toSet, hseats]
    exact (h.lobby s).trans (and_iff_right hopen)
  · intro s hs
    have hmem : s ∈ σ.lobby := UnorderedSet.mem_toSet.2 hs
    exact (ClientSession.isOpen_iff.1 ((h.lobby s).1 hmem).1).2

variable {env : Env} {σ τ : RoomServer} {i : Input}

/-- Who is in a room after a departure. -/
theorem Empties.seated_iff {E S B : Set String} {x : RoomServer} (h : Empties E S B x τ)
    (hS : ∀ q ∈ S, q ∈ E) (t : SessionPtr) : τ.registry.Seated t ↔
      ∃ q r, q ∉ E ∧ x.registry.sessions q = some t ∧ x.registry.playerToRoom q = some r := by
  constructor
  · intro ht
    obtain ⟨q, r, hsession, hq⟩ := ht
    have hE : q ∉ E := by
      intro hE
      cases (h.gone q hE).symm.trans hq
    refine ⟨q, r, hE, ?_, ?_⟩
    · rw [← h.registered q fun hq => hE (hS q hq)]
      exact hsession
    · rw [← h.stay q hE]
      exact hq
  · intro ht
    obtain ⟨q, r, hE, hsession, hq⟩ := ht
    refine ⟨q, r, ?_, ?_⟩
    · rw [h.registered q fun hq => hE (hS q hq)]
      exact hsession
    · rw [h.stay q hE]
      exact hq

/-- Nobody new is registered by a departure. -/
theorem Empties.sessions_of_some {E S B : Set String} {x : RoomServer} (h : Empties E S B x τ)
    {q : String} {t : SessionPtr} (hq : τ.registry.sessions q = some t) :
    x.registry.sessions q = some t := by
  by_cases hS : q ∈ S
  · cases (h.unregistered q hS).symm.trans hq
  · rw [← h.registered q hS]
    exact hq

/-- Departures keep the lobby right: `base` is the lobby before the players come back, and
`gone` the session that the step closes. -/
theorem lobby_of_empties {S : Set String} {x : RoomServer} (hσ : Settled σ)
    (hclean : ReturnsCleanly env σ i)
    (h : Empties {q | Departs env σ i q ∨ Evicts env σ i q} S {q | Evicts env σ i q} x τ)
    (hS : ∀ q ∈ S, Departs env σ i q ∨ Evicts env σ i q) (hreg : x.registry = σ.registry)
    (hopen : ∀ t, (τ.clients t).isOpen = true ↔
      (σ.clients t).isOpen = true ∧ closing env σ i ≠ some t)
    (hbase : ∀ t, t ∈ x.lobby ↔ (t ∈ σ.lobby ∧ closing env σ i ≠ some t) ∨
      departing env σ i = some t ∧ closing env σ i = none ∧ (σ.clients t).playerId ≠ "")
    (t : SessionPtr) :
    t ∈ τ.lobby ↔ (τ.clients t).isOpen = true ∧ ¬ τ.registry.Seated t := by
  have hseated := h.seated_iff hS t
  rw [hreg] at hseated
  have hlobby : t ∈ τ.lobby ↔
      (t ∈ σ.lobby ∧ closing env σ i ≠ some t) ∨ Returns env σ i t := by
    rw [h.lobby, hbase, or_assoc]
    simp only [lock_of_registry hreg, Set.mem_ofPred_eq]
    rfl
  rw [hlobby, hopen, hseated]
  constructor
  · intro ht
    rcases ht with ⟨ht, hstays⟩ | hreturns
    · -- it was in no room, and still is in none
      obtain ⟨ht, hnot⟩ := (hσ.lobby t).1 ht
      refine ⟨⟨ht, hstays⟩, ?_⟩
      intro hseat
      obtain ⟨q, r, -, hsession, hq⟩ := hseat
      exact hnot ⟨q, r, hsession, hq⟩
    · refine ⟨hclean.opened t hreturns, ?_⟩
      intro hseat
      obtain ⟨q, r, hE, hsession, hq⟩ := hseat
      exact hE (hclean.single t q r hreturns hsession hq)
  · intro ht
    obtain ⟨⟨ht, hstays⟩, hnot⟩ := ht
    by_cases hseat : σ.registry.Seated t
    · -- its player has lost the room
      right
      obtain ⟨q, r, hsession, hq⟩ := hseat
      have hE : Departs env σ i q ∨ Evicts env σ i q := by
        by_contra hE
        exact hnot ⟨q, r, hE, hsession, hq⟩
      rcases hE with hdeparts | hevicts
      · obtain ⟨s, hdeparting, hne, rfl⟩ := hdeparts
        obtain rfl := hclean.own s t r hdeparting hne hq hsession ht
        left
        refine ⟨hdeparting, ?_, hne⟩
        cases hclosing : closing env σ i with
        | none => rfl
        | some u =>
            cases hdeparting.symm.trans (departing_of_closing hclosing)
            exact absurd hclosing hstays
      · right
        have hlock : σ.lock q = some t :=
          lock_eq_some.2 ⟨hsession, (ClientSession.isOpen_iff.1 ht).1⟩
        exact ⟨q, hevicts, hlock⟩
    · exact Or.inl ⟨(hσ.lobby t).2 ⟨ht, hseat⟩, hstays⟩

/-!
## Steps
-/

theorem seated_congr {v w : Registry} (hsessions : w.sessions = v.sessions)
    (hplayers : w.playerToRoom = v.playerToRoom) (t : SessionPtr) :
    w.Seated t ↔ v.Seated t := by
  rw [Registry.Seated, Registry.Seated, hsessions, hplayers]

/-- A connection that is registered for nobody may change, with its place in the lobby. -/
theorem settled_setClient (hσ : Settled σ) {s : SessionPtr} {c : ClientSession}
    (hreg : τ.registry = σ.registry.setClient s c) (hc : c.lifetime ≠ .unborn)
    (hlobby : ∀ t, t ∈ τ.lobby ↔ if t = s then c.isOpen = true else t ∈ σ.lobby)
    (hs : c.isOpen = true → ¬ σ.registry.Seated s) : Settled τ := by
  have hseated : ∀ t, τ.registry.Seated t ↔ σ.registry.Seated t := by
    intro t
    rw [hreg]
    exact seated_congr rfl rfl t
  constructor
  · intro t
    rw [hlobby, hseated]
    by_cases hts : t = s
    · rw [if_pos hts, hts, clients_self hreg]
      constructor
      · intro hopen
        exact ⟨hopen, hs hopen⟩
      · intro ht
        exact ht.1
    · rw [if_neg hts, clients_of_ne hreg hts]
      exact hσ.lobby t
  · intro q t hq
    by_cases hts : t = s
    · rw [hts, clients_self hreg]
      exact hc
    · rw [clients_of_ne hreg hts]
      rw [hreg] at hq
      exact hσ.born q t hq

/-- Entering a room, out of the lobby. -/
theorem settled_enter (hσ : Settled σ) {s : SessionPtr} {p r : String}
    (halive : (σ.clients s).lifetime = .alive) (houtside : σ.registry.playerToRoom p = none)
    (hclients : τ.clients = Function.update σ.clients s { σ.clients s with playerId := p })
    (hsessions : τ.registry.sessions = Function.update σ.registry.sessions p (some s))
    (hplayers : τ.registry.playerToRoom =
      Function.update σ.registry.playerToRoom p (some r))
    (hlobby : τ.lobby = σ.lobby \ {s}) : Settled τ := by
  have hsame : ∀ t, (τ.clients t).isOpen = (σ.clients t).isOpen ∧
      (τ.clients t).lifetime = (σ.clients t).lifetime := by
    intro t
    rw [hclients]
    by_cases hts : t = s
    · rw [hts, Function.update_self]
      exact ⟨rfl, rfl⟩
    · rw [Function.update_of_ne hts]
      exact ⟨rfl, rfl⟩
  have hself : τ.registry.Seated s := by
    refine ⟨p, r, ?_, ?_⟩
    · rw [hsessions, Function.update_self]
    · rw [hplayers, Function.update_self]
  have hother : ∀ t, t ≠ s → (τ.registry.Seated t ↔ σ.registry.Seated t) := by
    intro t hts
    rw [Registry.Seated, Registry.Seated, hsessions, hplayers]
    apply exists_congr
    intro q
    by_cases hq : q = p
    · subst hq
      simp only [Function.update_self, Option.some.injEq, houtside, reduceCtorEq, and_false,
        exists_false, iff_false, exists_and_left, not_and]
      intro heq
      exact absurd heq.symm hts
    · simp only [Function.update_of_ne hq]
  constructor
  · intro t
    rw [hlobby, Set.mem_sdiff, Set.mem_singleton_iff, (hsame t).1]
    by_cases hts : t = s
    · subst hts
      constructor
      · intro ht
        exact absurd rfl ht.2
      · intro ht
        exact absurd hself ht.2
    · rw [hother t hts, hσ.lobby t]
      exact and_iff_left hts
  · intro q t hq
    rw [(hsame t).2]
    rw [hsessions] at hq
    by_cases hqp : q = p
    · rw [hqp, Function.update_self] at hq
      cases hq
      rw [halive]
      intro h
      cases h
    · rw [Function.update_of_ne hqp] at hq
      exact hσ.born q t hq

/-- A step that brings nobody back who does not belong there keeps the lobby right. -/
theorem settled_step (h : Step env σ i τ) (hclean : ReturnsCleanly env σ i)
    (hindexed : σ.registry.Indexed env) (hσ : Settled σ) : Settled τ := by
  cases reseats_step h hindexed with
  | keep hclients hsessions hplayers hlobby =>
      constructor
      · intro t
        rw [hclients, seated_congr hsessions hplayers, ← hσ.lobby t]
        rcases hlobby with hlobby | hlobby
        · rw [hlobby]
        · rw [hlobby]
          apply and_iff_left_of_imp
          intro ht
          exact (ClientSession.isOpen_iff.1 ((hσ.lobby t).1 ht).1).1
      · rw [hclients, hsessions]
        exact hσ.born
  | @accept s remoteIp hunborn hreg hlobby =>
      apply settled_setClient hσ hreg
      · intro h
        cases h
      · intro t
        rw [hlobby, Set.mem_insert_iff]
        by_cases hts : t = s
        · rw [if_pos hts]
          exact iff_of_true (Or.inl hts) rfl
        · rw [if_neg hts]
          exact or_iff_right hts
      · intro _ hseat
        obtain ⟨q, r, hsession, -⟩ := hseat
        exact hσ.born q s hsession hunborn
  | @expire s hclosed hreg hlobby =>
      apply settled_setClient hσ hreg
      · intro h
        cases h
      · intro t
        rw [hlobby]
        by_cases hts : t = s
        · rw [if_pos hts, hts]
          apply iff_of_false
          · intro hs
            have hopen := (ClientSession.isOpen_iff.1 ((hσ.lobby s).1 hs).1).2
            cases hclosed.symm.trans hopen
          · intro hopen
            cases hopen
        · rw [if_neg hts]
      · intro hopen
        cases hopen
  | enter haccepts halive houtside hclients hsessions hplayers hlobby =>
      exact settled_enter hσ halive houtside hclients hsessions hplayers hlobby
  | @leave s hdeparting hclosing hne halive hclients hempties =>
      refine ⟨?_, ?_⟩
      · apply lobby_of_empties hσ hclean hempties
        · intro q hq
          exact absurd hq (Set.notMem_empty q)
        · rfl
        · intro t
          rw [hclients, hclosing]
          simp
        · intro t
          rw [lobby_addLobbySession, Set.mem_insert_iff, hdeparting, hclosing, or_comm]
          apply or_congr
          · simp
          · constructor
            · intro ht
              subst ht
              exact ⟨rfl, rfl, hne⟩
            · intro ht
              exact (Option.some.inj ht.1).symm
      · intro q t hq
        rw [hclients]
        exact hσ.born q t (hempties.sessions_of_some hq)
  | @close s hclosing hopen hclients hempties =>
      have hlifetime : ∀ t, (τ.clients t).lifetime = (σ.clients t).lifetime := by
        intro t
        rw [hclients]
        by_cases hts : t = s
        · rw [hts, Function.update_self]
        · rw [Function.update_of_ne hts]
      refine ⟨?_, ?_⟩
      · apply lobby_of_empties hσ hclean hempties
        · intro q hq
          exact Or.inl hq
        · rfl
        · intro t
          rw [hclients, hclosing]
          by_cases hts : t = s
          · subst hts
            rw [Function.update_self]
            simp [ClientSession.isOpen]
          · rw [Function.update_of_ne hts, and_iff_left]
            intro heq
            exact hts (Option.some.inj heq).symm
        · intro t
          rw [lobby_removeLobbySession, Set.mem_sdiff, Set.mem_singleton_iff, hclosing]
          simp only [ne_eq, Option.some.injEq, reduceCtorEq, false_and, and_false, or_false,
            eq_comm (a := t)]
      · intro q t hq
        rw [hlifetime]
        exact hσ.born q t (hempties.sessions_of_some hq)
  | @evict S hS hdeparting hclients hempties =>
      have hclosing : closing env σ i = none := by
        cases hclosing : closing env σ i with
        | none => rfl
        | some s => cases hdeparting.symm.trans (departing_of_closing hclosing)
      refine ⟨?_, ?_⟩
      · apply lobby_of_empties hσ hclean hempties
        · intro q hq
          exact Or.inr (hS q hq)
        · rfl
        · intro t
          rw [hclients, hclosing]
          simp
        · intro t
          rw [hdeparting, hclosing]
          simp
      · intro q t hq
        rw [hclients]
        exact hσ.born q t (hempties.sessions_of_some hq)

/-!
## Runs
-/

theorem settled_of_run {store : Redis.Keyspace} {is : List Input}
    (h : Run (CleanStep env) (initial store) is σ) : Settled σ := by
  induction h with
  | nil =>
      constructor
      · intro t
        apply iff_of_false
        · intro ht
          cases ht
        · intro ht
          cases ht.1
      · intro q t hq
        cases hq
  | @snoc es x i y hrun hstep ih =>
      have hindexed : x.registry.Indexed env := indexed_of_run (fun _ _ _ h => h.1) hrun
      exact settled_step hstep.1 hstep.2 hindexed ih

/-- As long as nobody comes back to the lobby who does not belong there, lobby and rooms
partition the open connections. -/
theorem partitionsConnections_of_cleanStep (env : Env) :
    PartitionsConnections (CleanStep env) := by
  intro store is σ hrun
  have hindexed : σ.registry.Indexed env := indexed_of_run (fun _ _ _ h => h.1) hrun
  exact (settled_of_run hrun).partitioned hindexed

/-- The host of a room comes back to the lobby, where another connection is. -/
theorem partitionsConnections_of_cleanStep_leaveRoom : ∃ σ,
    Run (CleanStep defaultEnv) (initial {}) [.connect 0 "10.0.0.1", .connect 1 "10.0.0.2",
      .clientMessage 0 (.createRoom ⟨"p", "P", "room", 4⟩), .clientMessage 0 .leaveRoom] σ ∧
    σ.manager.lobbySessions.contains 0 = true ∧ Partitioned σ := by
  obtain ⟨x, hrun, hx⟩ := exists_run_of_exec
    (fun σ i => departing defaultEnv σ i == none) (step defaultEnv) (initial {})
    [.connect 0 "10.0.0.1", .connect 1 "10.0.0.2",
      .clientMessage 0 (.createRoom ⟨"p", "P", "room", 4⟩)]
    (fun x => decide (x.manager.sessions.keyList = ["p"] ∧
        x.manager.playerToRoom.find? "p" = some "u") && x.manager.sessions.find? "p" == some 0 &&
      ((x.clients 0).isOpen && (x.clients 0).playerId == "p" && !limited defaultEnv x 0) &&
      ((x.manager.rooms.find? "u").any fun room : Room => decide (room.playerIds = ["p"])) &&
      (step defaultEnv x (.clientMessage 0 .leaveRoom)).any fun σ : RoomServer =>
        σ.manager.lobbySessions.contains 0)
    (by decide +kernel)
  simp only [Bool.and_eq_true, Bool.not_eq_true', beq_iff_eq, decide_eq_true_eq] at hx
  obtain ⟨⟨⟨⟨⟨hkeys, hp⟩, hsession⟩, ⟨hopen, hid⟩, hlimited⟩, hroom⟩, hleave⟩ := hx
  obtain ⟨room, hroom, hroster⟩ := (Option.any_eq_true _ _).1 hroom
  rw [decide_eq_true_eq] at hroster
  obtain ⟨σ, hleave, hlobby⟩ := (Option.any_eq_true _ _).1 hleave
  have hclean : ReturnsCleanly defaultEnv x (.clientMessage 0 .leaveRoom) := by
    refine returnsCleanly_leaveRoom hlimited hopen ?_ ?_ ?_
    · intro r room' q hr hroom' hq
      rw [hid] at hr ⊢
      obtain rfl := Option.some.inj (hp.symm.trans hr)
      obtain rfl := Option.some.inj (hroom.symm.trans hroom')
      rw [hroster] at hq
      exact List.mem_singleton.1 hq
    · rw [hid]
      exact hsession
    · intro q hq
      have hmem : q ∈ x.manager.sessions.keyList :=
        UnorderedMap.mem_keyList.2 (Option.isSome_iff_exists.2 ⟨0, hq⟩)
      rw [hkeys] at hmem
      rw [hid]
      exact List.mem_singleton.1 hmem
  have hrun' : Run (CleanStep defaultEnv) (initial {}) [.connect 0 "10.0.0.1",
      .connect 1 "10.0.0.2", .clientMessage 0 (.createRoom ⟨"p", "P", "room", 4⟩)] x := by
    have hclients := hrun.and_of_forall (P := fun i =>
      (∀ k envelope, i ≠ .gameServerMessage k envelope) ∧ ∀ k, i ≠ .gameServerClose k) (by simp)
    refine hclients.mono ?_
    rintro σ i τ ⟨⟨hstep, hnone⟩, hmessage, hclose⟩
    exact ⟨hstep, returnsCleanly_of_idle (beq_iff_eq.1 hnone) hmessage hclose⟩
  have hrun := hrun'.snoc ⟨hleave, hclean⟩
  exact ⟨σ, hrun, hlobby, partitionsConnections_of_cleanStep defaultEnv {} _ σ hrun⟩

/-- A player is released from its game and its id is taken on another connection. The
first connection leaves once more, which takes the player out of the room of the second
one. -/
theorem not_partitionsConnections_leaveRoom :
    ¬ PartitionsConnections (Step defaultEnv) := by
  intro hclaim
  obtain ⟨σ, hrun, hσ⟩ := exists_run_of_exec (fun _ _ => true) (step defaultEnv) (initial {})
    [.connect 0 "10.0.0.1", .connect 1 "10.0.0.2", .gameServerConnect 0,
      .clientMessage 0 (.createRoom ⟨"p", "P", "room", 4⟩), .clientMessage 0 .startGame,
      .gameServerMessage 0 (.slotReleased "p" "uu"),
      .clientMessage 1 (.createRoom ⟨"p", "P", "room", 4⟩), .clientMessage 0 .leaveRoom]
    (fun σ => (σ.clients 1).isOpen && !σ.manager.lobbySessions.contains 1 &&
      σ.manager.rooms.values.isEmpty)
    (by decide +kernel)
  simp only [Bool.and_eq_true, Bool.not_eq_true', List.isEmpty_iff] at hσ
  obtain ⟨⟨hopen, hlobby⟩, hrooms⟩ := hσ
  have hseats : ¬ σ.manager.Seats 1 := by
    intro hseats
    obtain ⟨p, r, room, -, hroom, -⟩ := hseats
    have hmem := UnorderedMap.mem_values.2 ⟨r, hroom⟩
    rw [hrooms] at hmem
    cases hmem
  have hpartition := hclaim {} _ σ hrun.of_guarded
  cases hlobby.symm.trans ((hpartition.lobby_iff 1 hopen).2 hseats)

end Room

end SosBackend
