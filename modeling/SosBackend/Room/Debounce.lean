import SosBackend.Library.Timer
import SosBackend.Room.LobbyPush

/-!
# The pace of the list of rooms

The broadcast of the list waits for `kLobbyBroadcastDelay`. Under a clock, a change of the
list reaches the lobby in bounded time, however often the list changes meanwhile, and no two
broadcasts are closer than the delay. Waits end late and handlers run late, each by a slack
at most.
-/

namespace SosBackend

namespace Room

open RoomServer

/-- `kLobbyBroadcastDelay`, 300 milliseconds in nanoseconds. -/
def lobbyBroadcastDelay : ℕ :=
  300 * 10 ^ 6

/-- The server with `lobby_broadcast_timer_` and the time. -/
structure LobbyClock where
  server : RoomServer
  timer : Timer := {}
  now : ℕ := 0

/-- What happens: an input of the server, the end of the wait that is outstanding, the
handler of one that has ended or has been cancelled, or nothing for some time. -/
inductive LobbyEvent
  | server (i : Input)
  | expire
  | fire (ended : Option ℕ)
  | pass (nanoseconds : ℕ)

namespace LobbyClock

variable {env : Env} {slack : ℕ} {c c' : LobbyClock} {i : Input}

/-- The timer after an input that has taken the server from `σ` to `τ`: `expires_after` and
`async_wait` where the waits have become more. -/
def drive (now : ℕ) (σ τ : RoomServer) (t : Timer) : Timer :=
  if σ.manager.lobbyTimerWaits < τ.manager.lobbyTimerWaits then
    t.arm (now + lobbyBroadcastDelay)
  else t

/-- Time passes only as long as neither a wait nor a handler is late by more than the
slack. -/
def step (env : Env) (slack : ℕ) (c : LobbyClock) : LobbyEvent → Option LobbyClock
  | .server (.lobbyTimer _) => none
  | .server i => (Room.step env c.server i).map fun σ =>
      { c with server := σ, timer := drive c.now c.server σ c.timer }
  | .expire => (c.timer.expire c.now).map fun t => { c with timer := t }
  | .fire ended => (c.timer.handle ended).bind fun t =>
      (Room.step env c.server (.lobbyTimer ended.isNone)).map fun σ =>
        { c with server := σ, timer := t }
  | .pass nanoseconds =>
      if c.timer.Punctual slack (c.now + nanoseconds) then
        some { c with now := c.now + nanoseconds }
      else none

/-- The slot releases of the event name a session. -/
def Names (c : LobbyClock) : LobbyEvent → Prop
  | .server i => undisturbed c.server i = true
  | _ => True

instance (c : LobbyClock) : (e : LobbyEvent) → Decidable (c.Names e)
  | .server i => inferInstanceAs (Decidable (undisturbed c.server i = true))
  | .expire | .fire _ | .pass _ => inferInstanceAs (Decidable True)

/-- The steps of a server that is not stopped, with slot releases that name a session. -/
def Step (env : Env) (slack : ℕ) (c : LobbyClock) (e : LobbyEvent) (c' : LobbyClock) : Prop :=
  step env slack c e = some c' ∧ Names c e

def initial (store : Redis.Keyspace) : LobbyClock :=
  { server := Room.initial store }

theorem step_server (h : Step env slack c (.server i) c') :
    (∀ cancelled, i ≠ .lobbyTimer cancelled) ∧ ∃ σ,
      Guarded undisturbed (Room.Step env) c.server i σ ∧
        c' = { c with server := σ, timer := drive c.now c.server σ c.timer } := by
  obtain ⟨hstep, hnames⟩ := h
  have hi : ∀ cancelled, i ≠ .lobbyTimer cancelled := by
    rintro cancelled rfl
    cases hstep
  have hmap : (Room.step env c.server i).map (fun σ =>
      { c with server := σ, timer := drive c.now c.server σ c.timer }) = some c' := by
    cases i with
    | lobbyTimer cancelled => exact absurd rfl (hi cancelled)
    | _ => exact hstep
  obtain ⟨σ, hσ, rfl⟩ := Option.map_eq_some_iff.1 hmap
  exact ⟨hi, σ, ⟨hσ, hnames⟩, rfl⟩

theorem step_fire {ended : Option ℕ} (h : Step env slack c (.fire ended) c') : ∃ t,
    c.timer.handle ended = some t ∧
      Room.Step env c.server (.lobbyTimer ended.isNone)
        (c.server.lobbyTimerHandler ended.isNone) ∧
      c' = { c with server := c.server.lobbyTimerHandler ended.isNone, timer := t } := by
  obtain ⟨t, ht, hmap⟩ := Option.bind_eq_some_iff.1 h.1
  obtain ⟨σ, hσ, rfl⟩ := Option.map_eq_some_iff.1 hmap
  obtain ⟨-, rfl⟩ := Option.ite_some_none_eq_some.1 hσ
  exact ⟨t, ht, hσ, rfl⟩

/-- What holds of the server and its timer between two steps. -/
structure Ticking (env : Env) (slack : ℕ) (c : LobbyClock) : Prop where
  staged : c.server.registry.Staged env
  wound : c.server.Wound
  waits : c.server.manager.lobbyTimerWaits = c.timer.waits
  cancelled : c.timer.cancelled = 0
  punctual : c.timer.Punctual slack c.now
  deadline : ∀ d ∈ c.timer.deadline.toList, d ≤ c.now + lobbyBroadcastDelay
  ended : ∀ e ∈ c.timer.ended, e ≤ c.now

/-- An input of the server arms the timer, or leaves the wait on it as it is. -/
theorem drive_or {σ τ : RoomServer} (hstep : Guarded undisturbed (Room.Step env) σ i τ)
    (hstaged : σ.registry.Staged env) (hwound : σ.Wound)
    (hi : ∀ cancelled, i ≠ .lobbyTimer cancelled) :
    (σ.manager.lobbyTimerWaits = 0 ∧ τ.manager.lobbyTimerWaits = 1) ∨
      τ.manager.lobbyTimerWaits = σ.manager.lobbyTimerWaits := by
  have hnotifies := notifies_step hstep hstaged hi
  have hτ := hnotifies.wound hwound
  unfold RoomServer.Wound at hwound hτ
  cases hpending : σ.manager.lobbyBroadcastPending with
  | true =>
      rw [hpending] at hwound
      rw [hnotifies.keeps hpending] at hτ
      exact Or.inr (hτ.trans hwound.symm)
  | false =>
      rw [hpending, if_neg Bool.false_ne_true] at hwound
      cases hnext : τ.manager.lobbyBroadcastPending with
      | true =>
          rw [hnext] at hτ
          exact Or.inl ⟨hwound, hτ⟩
      | false =>
          rw [hnext, if_neg Bool.false_ne_true] at hτ
          exact Or.inr (hτ.trans hwound.symm)

namespace Ticking

theorem initial (store : Redis.Keyspace) : Ticking env slack (initial store) where
  staged := staged_initial env _ rfl
  wound := rfl
  waits := rfl
  cancelled := rfl
  punctual := Timer.Punctual.empty
  deadline _ hd := absurd hd List.not_mem_nil
  ended _ he := absurd he List.not_mem_nil

theorem server (h : Ticking env slack c) {σ : RoomServer}
    (hstep : Guarded undisturbed (Room.Step env) c.server i σ)
    (hi : ∀ cancelled, i ≠ .lobbyTimer cancelled) :
    Ticking env slack { c with server := σ, timer := drive c.now c.server σ c.timer } := by
  have hstaged := staged_step hstep.1 h.staged
  have hwound := (notifies_step hstep h.staged hi).wound h.wound
  rcases drive_or hstep h.staged h.wound hi with ⟨hzero, hone⟩ | hsame
  · have hempty : c.timer = {} := Timer.eq_empty_of_waits (h.waits.symm.trans hzero)
    have hdrive : drive c.now c.server σ c.timer =
        { deadline := some (c.now + lobbyBroadcastDelay) } := by
      unfold drive
      rw [if_pos (by omega), hempty]
      rfl
    rw [hdrive]
    constructor
    · exact hstaged
    · exact hwound
    · exact hone
    · rfl
    · refine ⟨fun d hd => ?_, fun e he => absurd he List.not_mem_nil⟩
      rw [List.mem_singleton.1 hd, Nat.add_assoc]
      exact Nat.le_add_right c.now _
    · exact fun d hd => (List.mem_singleton.1 hd).le
    · exact fun e he => absurd he List.not_mem_nil
  · have hdrive : drive c.now c.server σ c.timer = c.timer := by
      unfold drive
      rw [if_neg (by omega)]
    rw [hdrive]
    exact ⟨hstaged, hwound, hsame.trans h.waits, h.cancelled, h.punctual, h.deadline, h.ended⟩

theorem expire (h : Ticking env slack c) {t : Timer} (ht : c.timer.expire c.now = some t) :
    Ticking env slack { c with timer := t } := by
  obtain ⟨d, -, -, rfl⟩ := Timer.expire_eq_some ht
  constructor
  · exact h.staged
  · exact h.wound
  · exact h.waits.trans (Timer.waits_expire ht).symm
  · exact h.cancelled
  · exact h.punctual.expire ht
  · exact fun d hd => absurd hd List.not_mem_nil
  · intro e he
    rcases List.mem_cons.1 he with rfl | he
    · exact Nat.le_refl c.now
    · exact h.ended e he

/-- The handler that runs is that of a wait that has ended, and the only one. -/
theorem fire (h : Ticking env slack c) {ended : Option ℕ} {t : Timer}
    (ht : c.timer.handle ended = some t) : (∃ e ∈ c.timer.ended, ended = some e) ∧ t = {} := by
  have hwaits := Timer.waits_handle ht
  have hone : c.server.manager.lobbyTimerWaits ≤ 1 := by
    rw [h.wound]
    split
    · exact Nat.le_refl 1
    · exact Nat.zero_le 1
  refine ⟨?_, Timer.eq_empty_of_waits (by have := h.waits; omega)⟩
  unfold Timer.handle at ht
  cases ended with
  | some e => exact ⟨e, (Option.ite_some_none_eq_some.1 ht).1, rfl⟩
  | none =>
      rw [h.cancelled] at ht
      cases ht

theorem step {e : LobbyEvent} (h : Ticking env slack c) (hstep : Step env slack c e c') :
    Ticking env slack c' := by
  cases e with
  | server i =>
      obtain ⟨hi, σ, hσ, rfl⟩ := step_server hstep
      exact h.server hσ hi
  | expire =>
      obtain ⟨t, ht, rfl⟩ := Option.map_eq_some_iff.1 hstep.1
      exact h.expire ht
  | fire ended =>
      obtain ⟨t, ht, hserver, rfl⟩ := step_fire hstep
      obtain ⟨⟨e, -, rfl⟩, rfl⟩ := h.fire ht
      have hwaits : (c.server.lobbyTimerHandler false).manager.lobbyTimerWaits =
          c.server.manager.lobbyTimerWaits - 1 :=
        congrArg Prod.snd (timer_broadcastRoomListToLobby _)
      have hone : c.server.manager.lobbyTimerWaits = 1 :=
        h.waits.trans (Timer.waits_handle ht)
      constructor
      · exact staged_step hserver h.staged
      · exact wound_lobbyTimer h.wound
      · exact hwaits.trans (congrArg (· - 1) hone)
      · rfl
      · exact Timer.Punctual.empty
      · exact fun _ hd => absurd hd List.not_mem_nil
      · exact fun _ he => absurd he List.not_mem_nil
  | pass nanoseconds =>
      obtain ⟨hpunctual, rfl⟩ := Option.ite_some_none_eq_some.1 hstep.1
      constructor
      · exact h.staged
      · exact h.wound
      · exact h.waits
      · exact h.cancelled
      · exact hpunctual
      · exact fun d hd => (h.deadline d hd).trans
          (Nat.add_le_add_right (Nat.le_add_right c.now nanoseconds) _)
      · exact fun e he => (h.ended e he).trans (Nat.le_add_right c.now nanoseconds)

end Ticking

theorem ticking_of_run {store : Redis.Keyspace} {es : List LobbyEvent}
    (h : Run (Step env slack) (initial store) es c) : Ticking env slack c :=
  h.invariant (fun _ _ _ hstep hc => hc.step hstep) (Ticking.initial store)

/-- What the clock does to the server, the server may do by itself. -/
def untimed : LobbyEvent → List Input
  | .server i => [i]
  | .fire ended => [.lobbyTimer ended.isNone]
  | _ => []

/-- Every run under the clock is a run of the server. -/
theorem untimed_of_run {store : Redis.Keyspace} {es : List LobbyEvent}
    (h : Run (Step env slack) (initial store) es c) :
    Run (Guarded undisturbed (Room.Step env)) (Room.initial store) (es.flatMap untimed)
      c.server := by
  have hruns : ∀ c e c' σ, Step env slack c e c' → Ticking env slack c ∧ c.server = σ →
      ∃ τ, Run (Guarded undisturbed (Room.Step env)) σ (untimed e) τ ∧
        Ticking env slack c' ∧ c'.server = τ := by
    rintro c e c' σ hstep ⟨hc, rfl⟩
    refine ⟨c'.server, ?_, hc.step hstep, rfl⟩
    cases e with
    | server i =>
        obtain ⟨-, σ, hσ, rfl⟩ := step_server hstep
        exact Run.single hσ
    | expire =>
        obtain ⟨t, -, rfl⟩ := Option.map_eq_some_iff.1 hstep.1
        exact Run.nil
    | fire ended =>
        obtain ⟨t, ht, hserver, rfl⟩ := step_fire hstep
        obtain ⟨⟨e, -, rfl⟩, -⟩ := hc.fire ht
        exact Run.single ⟨hserver, rfl⟩
    | pass nanoseconds =>
        obtain ⟨-, rfl⟩ := Option.ite_some_none_eq_some.1 hstep.1
        exact Run.nil
  obtain ⟨σ, hrun, -, rfl⟩ := h.simulates_runs hruns ⟨Ticking.initial store, rfl⟩
  exact hrun

/-- A step that leaves the session in the lobby. -/
def Stays (env : Env) (slack : ℕ) (s : SessionPtr) (c : LobbyClock) (e : LobbyEvent)
    (c' : LobbyClock) : Prop :=
  Step env slack c e c' ∧ InLobby c'.server s

/-- The list is broadcast as it is then, to the session as well. -/
def Broadcasts (s : SessionPtr) (c : LobbyClock) (e : LobbyEvent) (c' : LobbyClock) : Prop :=
  (∃ ended, e = .fire ended) ∧ InLobby c.server s ∧ ∃ response, Pushes c.server c'.server response

/-- A change of the list reaches those who stay in the lobby before the delay is over, but
for the slack of the wait and of its handler; and two broadcasts are not closer than the
delay. -/
structure Debounced (env : Env) (slack : ℕ) : Prop where
  prompt : ∀ store es a, Run (Step env slack) (initial store) es a → ∀ e b, Step env slack a e b →
    b.server.registry.waiting ≠ a.server.registry.waiting → ∀ s, InLobby b.server s →
      ∀ es' c, Run (Stays env slack s) b es' c →
        b.now + lobbyBroadcastDelay + 2 * slack < c.now →
          Occurs (Stays env slack s) (Broadcasts s) b es' c
  spaced : ∀ store es a, Run (Step env slack) (initial store) es a → ∀ ended b,
    Step env slack a (.fire ended) b → ∀ es' c, Run (Step env slack) b es' c → ∀ ended' d,
      Step env slack c (.fire ended') d → b.now + lobbyBroadcastDelay ≤ c.now

/-- What changes the list leaves a wait, if anybody is in the lobby. -/
theorem dueBy_of_changes {e : LobbyEvent} (hc : Ticking env slack c)
    (hstep : Step env slack c e c')
    (hchanged : c'.server.registry.waiting ≠ c.server.registry.waiting) {s : SessionPtr}
    (hs : InLobby c'.server s) : c'.timer.DueBy (c'.now + lobbyBroadcastDelay) slack := by
  have hc' := hc.step hstep
  have hpending : c'.server.manager.lobbyBroadcastPending = true := by
    cases e with
    | server i =>
        obtain ⟨hi, σ, hσ, rfl⟩ := step_server hstep
        exact (notifies_step hσ hc.staged hi).changes hchanged (size_ne_zero_of_inLobby hs)
    | expire =>
        obtain ⟨t, -, rfl⟩ := Option.map_eq_some_iff.1 hstep.1
        exact absurd rfl hchanged
    | fire ended =>
        obtain ⟨t, -, -, rfl⟩ := step_fire hstep
        exact absurd (waiting_lobbyTimer env ended.isNone c.server) hchanged
    | pass nanoseconds =>
        obtain ⟨-, rfl⟩ := Option.ite_some_none_eq_some.1 hstep.1
        exact absurd rfl hchanged
  constructor
  · have hwound := hc'.wound
    rw [Wound, hpending, if_pos rfl, hc'.waits, Timer.waits, hc'.cancelled] at hwound
    exact hwound
  · exact hc'.deadline
  · exact fun e he => (hc'.ended e he).trans (by omega)

/-- A step keeps the wait that is due, unless its handler runs. -/
theorem dueBy_or_fires {limit : ℕ} {e : LobbyEvent} (hc : Ticking env slack c)
    (hstep : Step env slack c e c') (hdue : c.timer.DueBy limit slack) :
    c'.timer.DueBy limit slack ∨ ∃ ended, e = .fire ended := by
  cases e with
  | server i =>
      obtain ⟨hi, σ, hσ, rfl⟩ := step_server hstep
      refine Or.inl ?_
      have hone : c.server.manager.lobbyTimerWaits = 1 := by
        rw [hc.waits, Timer.waits, hdue.waits, hc.cancelled]
      have hdrive : drive c.now c.server σ c.timer = c.timer := by
        have hor := drive_or hσ hc.staged hc.wound hi
        unfold drive
        rw [if_neg (by omega)]
      rwa [hdrive]
  | expire =>
      obtain ⟨t, ht, rfl⟩ := Option.map_eq_some_iff.1 hstep.1
      exact Or.inl (hdue.expire hc.punctual ht)
  | fire ended => exact Or.inr ⟨ended, rfl⟩
  | pass nanoseconds =>
      obtain ⟨-, rfl⟩ := Option.ite_some_none_eq_some.1 hstep.1
      exact Or.inl hdue

theorem notBefore_step {limit : ℕ} {e : LobbyEvent} (hc : Ticking env slack c)
    (hstep : Step env slack c e c') (hnow : limit ≤ c.now + lobbyBroadcastDelay)
    (hlimit : c.timer.NotBefore limit) :
    limit ≤ c'.now + lobbyBroadcastDelay ∧ c'.timer.NotBefore limit := by
  cases e with
  | server i =>
      obtain ⟨-, σ, -, rfl⟩ := step_server hstep
      refine ⟨hnow, ?_⟩
      unfold drive
      simp only
      split
      · exact hlimit.arm hnow
      · exact hlimit
  | expire =>
      obtain ⟨t, ht, rfl⟩ := Option.map_eq_some_iff.1 hstep.1
      exact ⟨hnow, hlimit.expire ht⟩
  | fire ended =>
      obtain ⟨t, ht, -, rfl⟩ := step_fire hstep
      obtain ⟨-, rfl⟩ := hc.fire ht
      exact ⟨hnow, Timer.NotBefore.empty⟩
  | pass nanoseconds =>
      obtain ⟨-, rfl⟩ := Option.ite_some_none_eq_some.1 hstep.1
      exact ⟨hnow.trans (Nat.add_le_add_right (Nat.le_add_right c.now nanoseconds) _), hlimit⟩

theorem debounced (env : Env) (slack : ℕ) : Debounced env slack := by
  constructor
  · intro store es a hrun e b hstep hchanged s hs es' c hstays hlate
    have hb := Run.snoc hrun hstep
    have hdue := dueBy_of_changes (ticking_of_run hrun) hstep hchanged hs
    have hkept := hstays.keeps_or_occurs
      (I := fun x => (∃ es, Run (Step env slack) (initial store) es x) ∧ InLobby x.server s ∧
        x.timer.DueBy (b.now + lobbyBroadcastDelay) slack)
      (E := Broadcasts s) ?_ ⟨⟨_, hb⟩, hs, hdue⟩
    · rcases hkept with ⟨⟨es, hc⟩, -, hdue'⟩ | hoccurs
      · have hle := hdue'.le (ticking_of_run hc).punctual
        omega
      · exact hoccurs
    · rintro x e y ⟨hxy, hy⟩ ⟨⟨es, hx⟩, hxs, hdue⟩
      have hticking := ticking_of_run hx
      rcases dueBy_or_fires hticking hxy hdue with hdue' | ⟨ended, rfl⟩
      · exact Or.inl ⟨⟨_, Run.snoc hx hxy⟩, hy, hdue'⟩
      · obtain ⟨t, ht, -, rfl⟩ := step_fire hxy
        obtain ⟨⟨e, -, rfl⟩, -⟩ := hticking.fire ht
        have hindexed := indexed_of_run (fun _ _ _ => And.left) (untimed_of_run hx)
        exact Or.inr ⟨⟨_, rfl⟩, hxs, firstPage x.server, pushes_lobbyTimer hindexed⟩
  · intro store es a hrun ended b hfire es' c hrun' ended' d hfire'
    have hb := Run.snoc hrun hfire
    have hempty : b.timer.NotBefore (b.now + lobbyBroadcastDelay) := by
      obtain ⟨t, ht, -, rfl⟩ := step_fire hfire
      obtain ⟨-, rfl⟩ := (ticking_of_run hrun).fire ht
      exact Timer.NotBefore.empty
    have hkept := hrun'.invariant
      (I := fun x => Ticking env slack x ∧
        b.now + lobbyBroadcastDelay ≤ x.now + lobbyBroadcastDelay ∧
          x.timer.NotBefore (b.now + lobbyBroadcastDelay))
      (fun x e y hxy hx => ⟨hx.1.step hxy, notBefore_step hx.1 hxy hx.2.1 hx.2.2⟩)
      ⟨ticking_of_run hb, Nat.le_refl _, hempty⟩
    obtain ⟨hticking, -, hlimit⟩ := hkept
    obtain ⟨t, ht, -, -⟩ := step_fire hfire'
    obtain ⟨⟨e, he, -⟩, -⟩ := hticking.fire ht
    exact (hlimit.ended e he).trans (hticking.ended e he)

/-- A room is created, and gone again as soon as the list has been broadcast. -/
theorem debounced_createdAndLeft : ∃ a b c d,
    Run (Step defaultEnv 0) (initial {}) [.server (.connect 0 "10.0.0.1"),
      .server (.clientMessage 0 (.createRoom ⟨"p", "P", "room", 4⟩)),
      .server (.connect 1 "10.0.0.2"), .server (.clientMessage 0 .leaveRoom),
      .pass lobbyBroadcastDelay, .expire] a ∧
    Step defaultEnv 0 a (.fire (some lobbyBroadcastDelay)) b ∧
    Run (Step defaultEnv 0) b
      [.server (.clientMessage 0 (.createRoom ⟨"p", "P", "room", 4⟩)),
        .pass lobbyBroadcastDelay, .expire] c ∧
    Step defaultEnv 0 c (.fire (some (lobbyBroadcastDelay + lobbyBroadcastDelay))) d ∧
    b.now + lobbyBroadcastDelay ≤ c.now := by
  have hnames : ∀ {x y : LobbyClock} {es : List LobbyEvent},
      Run (Guarded (fun c e => decide (c.Names e)) fun c e c' => step defaultEnv 0 c e = some c')
        x es y → Run (Step defaultEnv 0) x es y :=
    fun h => h.mono fun _ _ _ hstep => ⟨hstep.1, of_decide_eq_true hstep.2⟩
  obtain ⟨a, hrun, ha⟩ := exists_run_of_exec (fun c e => decide (Names c e))
    (step defaultEnv 0) (initial {}) [.server (.connect 0 "10.0.0.1"),
      .server (.clientMessage 0 (.createRoom ⟨"p", "P", "room", 4⟩)),
      .server (.connect 1 "10.0.0.2"), .server (.clientMessage 0 .leaveRoom),
      .pass lobbyBroadcastDelay, .expire]
    (fun a => (step defaultEnv 0 a (.fire (some lobbyBroadcastDelay))).any fun b =>
      (exec (fun c e => decide (Names c e)) (step defaultEnv 0) b
        [.server (.clientMessage 0 (.createRoom ⟨"p", "P", "room", 4⟩)),
          .pass lobbyBroadcastDelay, .expire]).any fun c =>
            (step defaultEnv 0 c
              (.fire (some (lobbyBroadcastDelay + lobbyBroadcastDelay)))).isSome)
    (by decide +kernel)
  obtain ⟨b, hb, hc⟩ := (Option.any_eq_true _ _).1 ha
  obtain ⟨c, hrun', hc⟩ := exists_run_of_exec _ _ _ _ _ hc
  obtain ⟨d, hd⟩ := Option.isSome_iff_exists.1 hc
  exact ⟨a, b, c, d, hnames hrun, ⟨hb, trivial⟩, hnames hrun', ⟨hd, trivial⟩,
    (debounced defaultEnv 0).spaced {} _ a (hnames hrun) _ b ⟨hb, trivial⟩ _ c (hnames hrun') _
      d ⟨hd, trivial⟩⟩

end LobbyClock

end Room

end SosBackend
