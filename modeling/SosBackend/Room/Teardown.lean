import SosBackend.Library.Lifecycle
import SosBackend.Room.Index

/-!
# The end of a session

A session is opened when its room starts: it is added to the active sessions in
Redis and announced to the Chat Server. The last slot release and the loss of the
game server close it again. A host who leaves a game takes its room away without
closing the session. As long as no host does that, the active sessions are those
of the rooms in game, and the log of what the Chat Server has been told is
balanced.
-/

namespace SosBackend

namespace Room

open RoomServer Lifecycle

/-!
## What the Chat Server is told
-/

/-- What an envelope to the Chat Server says about a session. -/
def sessionEvent : Chat.ChatEnvelope → Option (Event String)
  | .sessionCreated message => some (.opened message.sessionId)
  | .sessionEnded message => some (.closed message.sessionId)
  | _ => none

def sessionEvents (sent : List Chat.ChatEnvelope) : List (Event String) :=
  sent.filterMap sessionEvent

theorem sessionEvents_append (l l' : List Chat.ChatEnvelope) :
    sessionEvents (l ++ l') = sessionEvents l ++ sessionEvents l' :=
  List.filterMap_append

namespace Registry

/-- The sessions of the rooms in game. -/
def running (v : Registry) : Set String :=
  {sid | ∃ r room, v.rooms r = some room ∧ room.state = .inGame ∧ room.sessionId = sid}

/-- A room that is not in game has no session, one room is in game at a time, and
the log of the sessions is balanced. -/
structure Sessions (env : Env) (v : Registry) (log : List (Event String)) : Prop where
  idle : ∀ r room, v.rooms r = some room → room.state ≠ .inGame → room.sessionId = ""
  alone : ∀ r r' room room', v.rooms r = some room → v.rooms r' = some room' →
    room.state = .inGame → room'.state = .inGame → r = r'
  issued : ∀ sid ∈ openings log, ∃ n < v.issued, sid = env.uuid n
  balanced : Balanced v.running log

end Registry

/-!
## One change
-/

/-- A change of a room keeps its state and its session, unless it starts. -/
theorem RoomStep.session {r : String} {room room' : Room} {a : Action}
    (h : RoomStep r room a room') :
    (room'.state = room.state ∧ room'.sessionId = room.sessionId) ∨
      ∃ p sid, a = .start p r sid ∧ room'.state = .inGame ∧ room'.sessionId = sid := by
  cases h with
  | keep => exact Or.inl ⟨rfl, rfl⟩
  | join hr hstate hfull =>
      exact Or.inl ⟨Room.state_addPlayer _ _ _, Room.sessionId_addPlayer _ _ _⟩
  | leave hhost => exact Or.inl ⟨rfl, rfl⟩
  | toggle hhost =>
      exact Or.inl ⟨Room.state_toggleReady _ _, Room.sessionId_toggleReady _ _⟩
  | start hhost hready => exact Or.inr ⟨_, _, rfl, rfl, rfl⟩
  | release hcount => exact Or.inl ⟨rfl, rfl⟩

namespace Act

variable {env : Env} {v w : Registry} {a : Action}

/-- A room in game was in game under the same session, or starts. -/
theorem inGame_inv {r : String} {room : Room} (h : Act env v a w)
    (hroom : w.rooms r = some room) (hstate : room.state = .inGame) :
    (∃ room', v.rooms r = some room' ∧ room'.state = .inGame ∧
      room'.sessionId = room.sessionId) ∨
      ∃ p sid, a = .start p r sid ∧ room.sessionId = sid := by
  rcases h.room_inv hroom with hstart | ⟨room', hroom', hstep⟩
  · cases hstart
    cases hstate
  · rcases hstep.session with ⟨hs, hsid⟩ | ⟨p, sid, rfl, -, hsid⟩
    · exact Or.inl ⟨room', hroom', hs ▸ hstate, hsid.symm⟩
    · exact Or.inr ⟨p, sid, rfl, hsid⟩

/-- A change keeps that one room at a time is in game. -/
theorem eq_of_inGame {r r' : String} {room room' : Room} (h : Act env v a w)
    (halone : ∀ r r' room room', v.rooms r = some room → v.rooms r' = some room' →
      room.state = .inGame → room'.state = .inGame → r = r')
    (hroom : w.rooms r = some room) (hroom' : w.rooms r' = some room')
    (hstate : room.state = .inGame) (hstate' : room'.state = .inGame) : r = r' := by
  rcases h.inGame_inv hroom hstate with ⟨x, hx, hxstate, -⟩ | ⟨p, sid, rfl, -⟩
  · rcases h.inGame_inv hroom' hstate' with ⟨x', hx', hxstate', -⟩ | ⟨p, sid, rfl, -⟩
    · exact halone r r' x x' hx hx' hxstate hxstate'
    · exact absurd ⟨r, x, hx, hxstate⟩ h.start_inv.1
  · rcases h.inGame_inv hroom' hstate' with ⟨x', hx', hxstate', -⟩ | ⟨p', sid', heq, -⟩
    · exact absurd ⟨r', x', hx', hxstate'⟩ h.start_inv.1
    · cases heq
      rfl

/-- A session goes on while its room is there. -/
theorem mem_running {r : String} {room : Room} (h : Act env v a w) (hv : v.Indexed env)
    (hroom : v.rooms r = some room) (hstate : room.state = .inGame)
    (hend : ¬ RoomEnd r room a) : room.sessionId ∈ w.running := by
  rcases h.room_next hroom hv.rooms_uuid_issued with ⟨room', hroom', hstep⟩ | ⟨-, hend'⟩
  · rcases hstep.session with ⟨hs, hsid⟩ | ⟨p, sid, rfl, -, -⟩
    · exact ⟨r, room', hroom', hs.trans hstate, hsid⟩
    · exact absurd ⟨r, room, hroom, hstate⟩ h.start_inv.1
  · exact absurd hend' hend

/-- A change that ends a session takes its room away, and no other. -/
theorem ended_inv {sid : String} (h : Act env v a w) (hended : a.ended v = some sid) :
    (∀ p r sid', a ≠ .start p r sid') ∧ ∃ r room, v.rooms r = some room ∧
      room.sessionId = sid ∧ w.rooms r = none ∧ ∀ r' room', RoomEnd r' room' a → r' = r := by
  cases h with
  | @releaseLast p r room hp hroom hcount =>
      rw [Action.ended, hroom] at hended
      refine ⟨?_, r, room, hroom, Option.some.inj hended, ?_, ?_⟩
      · intro p r' sid' hstart
        cases hstart
      · simp
      · rintro r' room' hend
        cases hend
        rfl
  | @endGame r room hroom hstate =>
      rw [Action.ended, hroom] at hended
      refine ⟨?_, r, room, hroom, Option.some.inj hended, ?_, ?_⟩
      · intro p r' sid' hstart
        cases hstart
      · simp
      · rintro r' room' hend
        cases hend
        rfl
  | _ => cases hended

end Act

namespace Registry.Sessions

variable {env : Env} {v w : Registry} {a : Action} {log : List (Event String)}

theorem ne_empty (h : v.Sessions env log) {sid : String} (hsid : sid ∈ v.running) :
    sid ≠ "" := by
  obtain ⟨n, -, rfl⟩ := h.issued sid (h.balanced.opened sid hsid)
  exact env.uuid_ne_empty n

/-- The next identifier is the id of no session. -/
theorem fresh (h : v.Sessions env log) : env.uuid v.issued ∉ openings log := by
  intro hmem
  obtain ⟨n, hn, heq⟩ := h.issued _ hmem
  exact absurd (env.uuid_injective heq) (Nat.ne_of_gt hn)

theorem idle_act (hact : Act env v a w) (h : v.Sessions env log) (r : String) (room : Room)
    (hroom : w.rooms r = some room) (hstate : room.state ≠ .inGame) :
    room.sessionId = "" := by
  rcases hact.room_inv hroom with hstart | ⟨room', hroom', hstep⟩
  · cases hstart
    rfl
  · rcases hstep.session with ⟨hs, hsid⟩ | ⟨p, sid, -, hs, -⟩
    · rw [hsid]
      exact h.idle r room' hroom' (hs ▸ hstate)
    · exact absurd hs hstate

theorem alone_act (hact : Act env v a w) (h : v.Sessions env log) (r r' : String)
    (room room' : Room) (hroom : w.rooms r = some room) (hroom' : w.rooms r' = some room')
    (hstate : room.state = .inGame) (hstate' : room'.state = .inGame) : r = r' :=
  hact.eq_of_inGame h.alone hroom hroom' hstate hstate'

/-- A start adds its session to those that run. -/
theorem running_start {p r sid : String} (hact : Act env v (.start p r sid) w) :
    w.running = insert sid v.running := by
  obtain ⟨hidle, -, -, room, hroom, hroom'⟩ := hact.start_inv
  ext x
  refine ⟨?_, ?_⟩
  · rintro ⟨r', room', hw, hstate, rfl⟩
    rcases hact.inGame_inv hw hstate with ⟨y, hy, hystate, -⟩ | ⟨p', sid', heq, hsid⟩
    · exact absurd ⟨r', y, hy, hystate⟩ hidle
    · cases heq
      exact Or.inl hsid
  · rintro (rfl | ⟨r', room', hv, hstate, -⟩)
    · exact ⟨r, _, hroom', rfl, rfl⟩
    · exact absurd ⟨r', room', hv, hstate⟩ hidle

/-- The end of a session takes it from those that run. -/
theorem running_ended {sid : String} (hact : Act env v a w) (hv : v.Indexed env)
    (h : v.Sessions env log) (hended : a.ended v = some sid) :
    w.running = v.running \ {sid} := by
  obtain ⟨hnot, r, room, hroom, rfl, hgone, honly⟩ := hact.ended_inv hended
  ext x
  refine ⟨?_, ?_⟩
  · rintro ⟨r', room', hw, hstate, rfl⟩
    rcases hact.inGame_inv hw hstate with ⟨y, hy, hystate, hsid⟩ | ⟨p, sid, heq, -⟩
    · refine ⟨⟨r', y, hy, hystate, hsid⟩, ?_⟩
      intro heq
      have heq' : y.sessionId = room.sessionId := hsid.trans heq
      by_cases hin : room.state = .inGame
      · -- the room in game is the one that is gone
        obtain rfl := h.alone r' r y room hy hroom hystate hin
        rw [hgone] at hw
        cases hw
      · rw [h.idle r room hroom hin] at heq'
        exact h.ne_empty ⟨r', y, hy, hystate, rfl⟩ heq'
    · exact absurd heq (hnot _ _ _)
  · rintro ⟨⟨r', room', hr', hstate, rfl⟩, hne⟩
    refine hact.mem_running hv hr' hstate fun hend => hne ?_
    obtain rfl := honly r' room' hend
    rw [hroom] at hr'
    cases hr'
    rfl

/-- Any other change leaves the sessions that run, where no host leaves a game. -/
theorem running_other (hact : Act env v a w) (hv : v.Indexed env)
    (hstart : ∀ p r sid, a ≠ .start p r sid) (hended : a.ended v = none)
    (hclose : ∀ p r room, a = .closeRoom p r → v.rooms r = some room →
      room.state ≠ .inGame) : w.running = v.running := by
  ext x
  refine ⟨?_, ?_⟩
  · rintro ⟨r, room, hw, hstate, rfl⟩
    rcases hact.inGame_inv hw hstate with ⟨y, hy, hystate, hsid⟩ | ⟨p, sid, heq, -⟩
    · exact ⟨r, y, hy, hystate, hsid⟩
    · exact absurd heq (hstart _ _ _)
  · rintro ⟨r, room, hr, hstate, rfl⟩
    refine hact.mem_running hv hr hstate fun hend => ?_
    cases hend with
    | @closeRoom p hhost => exact hclose p r room rfl hr hstate
    | releaseLast hcount =>
        rw [Action.ended, hr] at hended
        cases hended
    | endGame hin =>
        rw [Action.ended, hr] at hended
        cases hended

/-- The log and the active sessions follow the sessions that run. -/
def Follows (env : Env) (v : Registry) (log : List (Event String)) (a : Action)
    (w : Registry) : Prop :=
  w.Sessions env (log ++ sessionEvents (a.announcement v)) ∧
    (env.sessionStore.isSome = true → a.activeAfter env v v.running = w.running)

theorem follows_start {p r sid : String} (hact : Act env v (.start p r sid) w)
    (h : v.Sessions env log) : Follows env v log (.start p r sid) w := by
  obtain ⟨-, rfl, hissued, room, hroom, -⟩ := hact.start_inv
  have hevents : sessionEvents ((Action.start p r (env.uuid v.issued)).announcement v) =
      [.opened (env.uuid v.issued)] := by
    simp only [Action.announcement, hroom]
    rfl
  rw [Follows, hevents]
  refine ⟨⟨h.idle_act hact, h.alone_act hact, ?_, ?_⟩, ?_⟩
  · intro sid hsid
    rw [openings_append, List.mem_append] at hsid
    rcases hsid with hsid | hsid
    · obtain ⟨n, hn, heq⟩ := h.issued sid hsid
      exact ⟨n, hn.trans hissued, heq⟩
    · exact ⟨v.issued, hissued, List.mem_singleton.1 hsid⟩
  · rw [running_start hact]
    exact h.balanced.openFresh h.fresh
  · intro hstore
    rw [Action.activeAfter, if_pos hstore, running_start hact]

theorem follows_ended {sid : String} (hact : Act env v a w) (hv : v.Indexed env)
    (h : v.Sessions env log) (hended : a.ended v = some sid) : Follows env v log a w := by
  have hrunning := running_ended hact hv h hended
  obtain ⟨hnot, r, room, hroom, rfl, -⟩ := hact.ended_inv hended
  have hevents : sessionEvents (a.announcement v) =
      if room.sessionId = "" then [] else [.closed room.sessionId] := by
    cases a <;> first
      | exact absurd rfl (hnot _ _ _)
      | simp only [Action.announcement, hended]
        by_cases hempty : room.sessionId = "" <;> simp [hempty, sessionEvents, sessionEvent]
  have hbalanced : Balanced w.running (log ++ sessionEvents (a.announcement v)) := by
    rw [hrunning, hevents]
    split
    · next hempty =>
        -- a room that never started
        rw [List.append_nil, hempty, Set.sdiff_singleton_eq_self]
        · exact h.balanced
        · exact fun hmem => h.ne_empty hmem rfl
    · next hne =>
        refine h.balanced.close ⟨r, room, hroom, ?_, rfl⟩
        by_contra hidle
        exact hne (h.idle r room hroom hidle)
  refine ⟨⟨h.idle_act hact, h.alone_act hact, ?_, hbalanced⟩, ?_⟩
  · intro sid hsid
    have hold : sid ∈ openings log := by
      rw [openings_append, hevents, List.mem_append] at hsid
      refine hsid.resolve_right ?_
      split <;> exact List.not_mem_nil
    obtain ⟨n, hn, heq⟩ := h.issued sid hold
    exact ⟨n, hn.trans_le hact.issued_le, heq⟩
  · intro hstore
    rw [hrunning]
    cases a <;> first
      | exact absurd rfl (hnot _ _ _)
      | simp only [Action.activeAfter, hstore, if_true, hended]

theorem follows_other (hact : Act env v a w) (hv : v.Indexed env) (h : v.Sessions env log)
    (hstart : ∀ p r sid, a ≠ .start p r sid) (hended : a.ended v = none)
    (hclose : ∀ p r room, a = .closeRoom p r → v.rooms r = some room →
      room.state ≠ .inGame) : Follows env v log a w := by
  have hrunning := running_other hact hv hstart hended hclose
  have hnothing : a.announcement v = [] := by
    cases a <;> first
      | exact absurd rfl (hstart _ _ _)
      | simp only [Action.announcement, hended]
  rw [Follows, hnothing, sessionEvents, List.filterMap_nil, List.append_nil]
  refine ⟨⟨h.idle_act hact, h.alone_act hact, ?_, ?_⟩, ?_⟩
  · intro sid hsid
    obtain ⟨n, hn, heq⟩ := h.issued sid hsid
    exact ⟨n, hn.trans_le hact.issued_le, heq⟩
  · rw [hrunning]
    exact h.balanced
  · intro hstore
    rw [hrunning]
    cases a <;> first
      | exact absurd rfl (hstart _ _ _)
      | simp only [Action.activeAfter, hstore, if_true, hended]

theorem follows (hact : Act env v a w) (hv : v.Indexed env) (h : v.Sessions env log)
    (hclose : ∀ p r room, a = .closeRoom p r → v.rooms r = some room →
      room.state ≠ .inGame) : Follows env v log a w := by
  by_cases hstart : ∃ p r sid, a = .start p r sid
  · obtain ⟨p, r, sid, rfl⟩ := hstart
    exact h.follows_start hact
  · have hnot : ∀ p r sid, a ≠ .start p r sid := fun p r sid heq => hstart ⟨p, r, sid, heq⟩
    cases hended : a.ended v with
    | none => exact h.follows_other hact hv hnot hended hclose
    | some sid => exact h.follows_ended hact hv hended

end Registry.Sessions

/-!
## Runs
-/

/-- The link to the Chat Server does not go down. -/
def linkUp (_ : RoomServer) (i : Input) : Bool :=
  i != .chatLink false

/-- The player is the host of its room, which is in game. -/
def hostsGame (σ : RoomServer) (p : String) : Bool :=
  match σ.manager.playerToRoom.find? p with
  | none => false
  | some r => (σ.manager.rooms.find? r).any fun room =>
      room.state == .inGame && room.isHost p

/-- No host leaves its room in game in the step. -/
def hostStays (env : Env) (σ : RoomServer) (i : Input) : Bool :=
  (departing env σ i).all fun s =>
    (σ.clients s).playerId == "" || !hostsGame σ (σ.clients s).playerId

/-- The server at its start, with its link to the Chat Server up. -/
def initialLinked (store : Redis.Keyspace) : RoomServer :=
  { backend := { redis := { store := store }, chat := { connected := true } } }

/-- The active sessions are those of the rooms in game, and the Chat Server has been
told of the end of exactly the sessions whose room is gone, once and after their
start. -/
structure TornDown (σ : RoomServer) : Prop where
  active : Redis.HoldsSet σ.backend.redis.store activeSessionsKey
    {sid | ∃ r room, σ.manager.rooms.find? r = some room ∧ room.state = .inGame ∧
      room.sessionId = sid}
  ended : ∀ sid, sid ∈ closings (sessionEvents σ.backend.chat.sent) ↔
    sid ∈ openings (sessionEvents σ.backend.chat.sent) ∧
      ∀ r room, σ.manager.rooms.find? r = some room → room.sessionId ≠ sid
  once : (closings (sessionEvents σ.backend.chat.sent)).Nodup
  after : Ordered (sessionEvents σ.backend.chat.sent)

/-- What the steps keep. -/
structure Tracked (env : Env) (σ : RoomServer) : Prop where
  indexed : σ.registry.Indexed env
  linked : σ.backend.chat.connected = true
  sessions : σ.registry.Sessions env (sessionEvents σ.backend.chat.sent)
  active : Redis.HoldsSet σ.backend.redis.store activeSessionsKey σ.registry.running

theorem Tracked.tornDown {env : Env} {σ : RoomServer} (h : Tracked env σ) : TornDown σ where
  active := h.active
  ended sid := by
    rw [h.sessions.balanced.mem_closings]
    refine and_congr_right fun hopen => ⟨?_, ?_⟩
    · intro hsid r room hroom heq
      by_cases hstate : room.state = .inGame
      · exact hsid ⟨r, room, hroom, hstate, heq⟩
      · obtain ⟨n, -, rfl⟩ := h.sessions.issued sid hopen
        rw [h.sessions.idle r room hroom hstate] at heq
        exact env.uuid_ne_empty n heq.symm
    · rintro hgone ⟨r, room, hroom, -, heq⟩
      exact hgone r room hroom heq
  once := h.sessions.balanced.once
  after := h.sessions.balanced.ordered

/-- A host who departs is in no game. -/
theorem not_inGame_of_hostStays {env : Env} {σ x : RoomServer} {i : Input} {p r : String}
    {room : Room} (h : hostStays env σ i = true) (hcause : Cause env σ i x (.closeRoom p r))
    (hp : x.registry.playerToRoom p = some r) (hroom : x.registry.rooms r = some room)
    (hhost : room.isHost p = true) : room.state ≠ .inGame := by
  intro hstate
  obtain ⟨s, hdeparting, rfl, hne, hrooms, hplayers⟩ := hcause
  rw [hplayers] at hp
  rw [hrooms] at hroom
  have hp' : σ.manager.playerToRoom.find? (σ.clients s).playerId = some r := hp
  have hroom' : σ.manager.rooms.find? r = some room := hroom
  simp [hostStays, hdeparting, hne, hostsGame, hp', hroom', hstate, hhost] at h

/-- While the link is up, the Chat Server is told of every change. -/
theorem chat_of_change {env : Env} {σ x y : RoomServer} {i : Input} {a : Action}
    (hchannel : env.chatChannel = true) (hlink : linkUp σ i = true)
    (hchange : Change env σ i x a y) (hx : x.backend.chat.connected = true) :
    y.backend.chat.connected = true ∧
      y.backend.chat.sent = x.backend.chat.sent ++ a.announcement x.registry := by
  obtain ⟨heffect, hcause⟩ := hchange
  rw [heffect.chat]
  cases a with
  | link connected =>
      obtain rfl : i = .chatLink connected := hcause
      cases connected with
      | false => cases hlink
      | true => exact ⟨rfl, (List.append_nil _).symm⟩
  | _ => simp [Action.chatAfter, hchannel, hx]

section answered

variable {env : Env} (hanswered : ∀ n, env.outcome n = .answered)
  (hstore : env.sessionStore.isSome = true) (hchannel : env.chatChannel = true)

include hanswered hstore hchannel

theorem Tracked.change {σ x y : RoomServer} {i : Input} {a : Action}
    (hstays : hostStays env σ i = true) (hlink : linkUp σ i = true)
    (hchange : Change env σ i x a y) (h : Tracked env x) : Tracked env y := by
  have hact := hchange.1.act
  have hfollows := h.sessions.follows hact h.indexed ?_
  · have hchat := chat_of_change hchannel hlink hchange h.linked
    refine ⟨h.indexed.act hact, hchat.1, ?_, ?_⟩
    · rw [hchat.2, sessionEvents_append]
      exact hfollows.1
    · rw [← hfollows.2 hstore]
      exact hchange.1.active hanswered _ h.active
  · rintro p r room rfl hroom
    obtain ⟨hp, hhost⟩ := hact.closeRoom_inv hroom
    exact not_inGame_of_hostStays hstays hchange.2 hp hroom hhost

theorem Tracked.step {σ τ : RoomServer} {i : Input}
    (hstep : Guarded (hostStays env) (Guarded linkUp (Step env)) σ i τ)
    (h : Tracked env σ) : Tracked env τ := by
  obtain ⟨⟨hstep, hlink⟩, hstays⟩ := hstep
  obtain ⟨as, hrun⟩ := run_step hstep
  exact hrun.invariant (I := Tracked env)
    (fun _ _ _ => Tracked.change hanswered hstore hchannel hstays hlink) h

/-- As long as no host leaves its game, every session is torn down, exactly once. -/
theorem tornDown_of_run {store : Redis.Keyspace} {is : List Input} {σ : RoomServer}
    (hempty : Redis.HoldsSet store activeSessionsKey ∅)
    (h : Run (Guarded (hostStays env) (Guarded linkUp (Step env))) (initialLinked store) is
      σ) : TornDown σ := by
  have hrunning : (initialLinked store).registry.running = ∅ := by
    refine Set.eq_empty_iff_forall_notMem.2 ?_
    rintro sid ⟨r, room, hroom, -⟩
    cases hroom
  have hinitial : Tracked env (initialLinked store) := by
    refine ⟨indexed_initial env _ rfl, rfl, ⟨nofun, nofun, nofun, ?_⟩, ?_⟩
    · rw [hrunning]
      exact Balanced.nil
    · rw [hrunning]
      exact hempty
  exact (h.invariant (I := Tracked env)
    (fun _ _ _ => Tracked.step hanswered hstore hchannel) hinitial).tornDown

end answered

/-- A game that ends with its last slot release. -/
theorem tornDown_of_run_lastRelease :
    ∃ σ, Run (Guarded (hostStays defaultEnv) (Guarded linkUp (Step defaultEnv)))
      (initialLinked {}) [.connect 0 "10.0.0.1", .gameServerConnect 0,
        .clientMessage 0 (.createRoom ⟨"h", "H", "room", 4⟩), .clientMessage 0 .startGame,
        .gameServerMessage 0 (.slotReleased "h" "uu")] σ ∧ TornDown σ := by
  obtain ⟨σ, hrun, -⟩ := exists_run_of_exec (hostStays defaultEnv)
    (guarded linkUp (step defaultEnv)) (initialLinked {})
    [.connect 0 "10.0.0.1", .gameServerConnect 0,
      .clientMessage 0 (.createRoom ⟨"h", "H", "room", 4⟩), .clientMessage 0 .startGame,
      .gameServerMessage 0 (.slotReleased "h" "uu")]
    (fun _ => true) (by decide +kernel)
  have hstep : ∀ σ i τ, guarded linkUp (step defaultEnv) σ i = some τ ∧
      hostStays defaultEnv σ i = true →
      Guarded (hostStays defaultEnv) (Guarded linkUp (Step defaultEnv)) σ i τ :=
    fun _ _ _ h => ⟨guarded_eq_some.1 h.1, h.2⟩
  have hrun' := hrun.mono hstep
  exact ⟨σ, hrun', tornDown_of_run (fun _ => rfl) rfl rfl (Or.inl ⟨rfl, rfl⟩) hrun'⟩

/-- A host starts a game and leaves it: the Chat Server never hears of the end. -/
theorem not_tornDown_hostLeaves :
    ¬ ∀ (store : Redis.Keyspace) (is : List Input) (σ : RoomServer),
      Redis.HoldsSet store activeSessionsKey ∅ →
        Run (Guarded linkUp (Step defaultEnv)) (initialLinked store) is σ → TornDown σ := by
  intro hclaim
  obtain ⟨σ, hrun, hσ⟩ := exists_run_of_exec linkUp (step defaultEnv) (initialLinked {})
    [.connect 0 "10.0.0.1", .clientMessage 0 (.createRoom ⟨"h", "H", "room", 4⟩),
      .clientMessage 0 .startGame, .clientMessage 0 .leaveRoom]
    (fun σ => σ.manager.rooms.keyList.isEmpty &&
      (openings (sessionEvents σ.backend.chat.sent)).contains "uu" &&
      (closings (sessionEvents σ.backend.chat.sent)).isEmpty)
    (by decide +kernel)
  simp only [Bool.and_eq_true, List.contains_iff_mem, List.isEmpty_iff] at hσ
  obtain ⟨⟨hrooms, hopen⟩, hclosings⟩ := hσ
  have hended := (hclaim {} _ σ (Or.inl ⟨rfl, rfl⟩) hrun).ended "uu"
  rw [hclosings] at hended
  refine absurd (hended.2 ⟨hopen, fun r room hroom _ => ?_⟩) List.not_mem_nil
  have hr : r ∈ σ.manager.rooms.keyList :=
    UnorderedMap.mem_keyList.2 (Option.isSome_of_eq_some hroom)
  rw [hrooms] at hr
  exact absurd hr List.not_mem_nil

end Room

end SosBackend
