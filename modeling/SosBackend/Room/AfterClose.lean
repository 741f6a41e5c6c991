import SosBackend.Room.Handlers

/-!
# Messages of a closed session

A read that has succeeded before its session is closed leaves a handler in the queue, and
that handler processes one message before it asks whether the session is closed. There is
no second one: a handler that has processed a message on a closed session does not read
again. The session has forgotten its player by then, so the message does nothing, unless
it is a request that puts a player into a room.
-/

namespace SosBackend

namespace Room

open RoomServer Protocol

/-- The maps of the manager that keep who is where. -/
def RoomManager.SameMaps (m m' : RoomManager) : Prop :=
  m'.rooms = m.rooms ∧ m'.playerToRoom = m.playerToRoom ∧ m'.sessions = m.sessions ∧
    m'.lobbySessions = m.lobbySessions

/-- The step runs a handler that processes the message on the session, which has been
closed, in the state `σ` of the server. -/
def ProcessesClosed (w : LoopEnv) (l : EventLoop) (e : LoopEvent) (s : SessionPtr)
    (σ : RoomServer) (envelope : Envelope) : Prop :=
  ∃ h, e = .run s h ∧ (σ, envelope) ∈ ((l.dequeue s h).runHandler w s h).1 ∧
    (σ.clients s).closed = true

/-- A message of a closed session changes one of the maps. -/
def Stirs (w : LoopEnv) (l : EventLoop) (e : LoopEvent) : Prop :=
  ∃ s σ envelope, ProcessesClosed w l e s σ envelope ∧
    ¬ σ.manager.SameMaps (σ.processMessage w.env s envelope).manager

/-- A read handler runs on a closed session whose buffer starts with a `CreateRoom` or
`JoinRoom` that the server accepts. -/
def EntersClosed (w : LoopEnv) (l : EventLoop) (e : LoopEvent) : Prop :=
  ∃ s chunk envelope p, e = .run s (.read (some chunk)) ∧
    (l.server.clients s).closed = true ∧
    (tryDecode w.messages (feed (l.pending s).codec chunk)).1 = some envelope ∧
    Accepts w.env l.server (.clientMessage s envelope) s p

/-- No message of a closed session changes any of the maps. -/
def InertWhenClosed (w : LoopEnv) : Prop :=
  ∀ store es l, ¬ Occurs (LoopStep w) (fun l e _ => Stirs w l e) (initialLoop store) es l

/-!
## One message
-/

variable {env : Env} {σ : RoomServer} {s : SessionPtr} {envelope : Envelope}

theorem manager_dispatch_of_empty (hempty : (σ.clients s).playerId = "") {b : Backend}
    (haccepts : ∀ p, ¬ Accepts env σ (.clientMessage s envelope) s p)
    (hpass : limited env σ s = false) :
    (RoomServer.dispatch env s envelope { σ with backend := b }).manager = σ.manager := by
  cases envelope with
  | createRoom request =>
      cases hreject : σ.createRejection env request s with
      | none => exact absurd ⟨hpass, Or.inl ⟨request, rfl, rfl, hreject⟩⟩ (haccepts _)
      | some reject =>
          have hreject' : ({ σ with backend := b } : RoomServer).createRejection env request s =
              some reject := hreject
          simp only [dispatch, handleCreateRoom, hreject']
          rfl
  | joinRoom request =>
      cases hjoin : σ.joinableRoom request s with
      | ok room => exact absurd ⟨hpass, Or.inr ⟨request, room, rfl, rfl, hjoin⟩⟩ (haccepts _)
      | error reject =>
          have hjoin' : ({ σ with backend := b } : RoomServer).joinableRoom request s =
              .error reject := hjoin
          simp only [dispatch, handleJoinRoom, hjoin']
          rfl
  | leaveRoom => simp [dispatch, hempty]
  | toggleReady => simp [dispatch, hempty]
  | startGame => simp [dispatch, hempty]
  | _ => rfl

/-- On a session that is closed and has forgotten its player, the messages that change the
maps are the requests that put a player into a room. -/
theorem sameMaps_iff (hclosed : (σ.clients s).closed = true)
    (hempty : (σ.clients s).playerId = "") :
    σ.manager.SameMaps (σ.processMessage env s envelope).manager ↔
      ∀ p, ¬ Accepts env σ (.clientMessage s envelope) s p := by
  constructor
  · intro hsame p haccepts
    -- the player has entered a room
    obtain ⟨hlimited, hrequest⟩ := haccepts
    obtain ⟨b, hissued, hpass⟩ := processMessage_of_pass hlimited envelope
    rw [hpass] at hsame
    have hplayers := hsame.2.1
    rcases hrequest with ⟨request, hi, rfl, haccept⟩ | ⟨request, room, hi, rfl, haccept⟩
    · cases hi
      obtain ⟨hadmits, -⟩ := of_createRejection_eq_none haccept
      have haccept' : ({ σ with backend := b } : RoomServer).createRejection env request s =
          none := haccept
      have hplayer := congrFun (congrArg Registry.playerToRoom
        (registry_handleCreateRoom haccept')) request.playerId
      rw [Registry.enter_playerToRoom, Function.update_self] at hplayer
      have hfind : σ.manager.playerToRoom.find? request.playerId = none := hadmits.outside
      rw [← hplayers] at hfind
      cases hfind.symm.trans hplayer
    · cases hi
      obtain ⟨hadmits, -⟩ := of_joinableRoom_eq_ok haccept
      have haccept' : ({ σ with backend := b } : RoomServer).joinableRoom request s =
          .ok room := haccept
      have hplayer := congrFun (congrArg Registry.playerToRoom
        (registry_handleJoinRoom haccept')) request.playerId
      rw [Registry.enter_playerToRoom, Function.update_self] at hplayer
      have hfind : σ.manager.playerToRoom.find? request.playerId = none := hadmits.outside
      rw [← hplayers] at hfind
      cases hfind.symm.trans hplayer
  · intro haccepts
    have hmanager : (σ.processMessage env s envelope).manager = σ.manager := by
      cases hlimited : limited env σ s with
      | true =>
          obtain ⟨x, hreg, hmanager, hresult⟩ := processMessage_of_limited hlimited envelope
          have hclients : x.clients = σ.clients := congrArg Registry.clients hreg
          rw [hresult, closeClient, hclients, if_pos hclosed, hmanager]
      | false =>
          obtain ⟨b, -, hpass⟩ := processMessage_of_pass hlimited envelope
          rw [hpass]
          exact manager_dispatch_of_empty hempty haccepts hlimited
    rw [hmanager]
    exact ⟨rfl, rfl, rfl, rfl⟩

/-!
## One handler
-/

open EventLoop

variable {w : LoopEnv} {l l' : EventLoop} {e : LoopEvent}

/-- A message that is processed on a closed session is the first one of a read handler,
which finds the server as the step does. -/
theorem processesClosed_iff :
    ProcessesClosed w l e s σ envelope ↔ ∃ chunk, e = .run s (.read (some chunk)) ∧
      σ = l.server ∧ (l.server.clients s).closed = true ∧
      (tryDecode w.messages (feed (l.pending s).codec chunk)).1 = some envelope := by
  constructor
  · intro hprocesses
    obtain ⟨h, he, hmem, hclosed⟩ := hprocesses
    cases h with
    | read data =>
        cases data with
        | none => cases hmem
        | some chunk =>
            have hdrains := drains_processBuffer w s ((l.dequeue s (.read (some chunk))).setCodec
              s (feed ((l.dequeue s (.read (some chunk))).pending s).codec chunk))
            obtain ⟨hserver, hdecode⟩ := hdrains.first σ envelope hmem hclosed
            rw [setCodec, pending_update_self, dequeue, pending_update_self] at hdecode
            cases hserver
            exact ⟨chunk, he, rfl, hclosed, hdecode⟩
    | timeout cancelled => cases hmem
    | written failed => cases hmem
  · intro hfirst
    obtain ⟨chunk, he, hserver, hclosed, hdecode⟩ := hfirst
    cases hserver
    refine ⟨.read (some chunk), he, ?_, hclosed⟩
    generalize hx : (l.dequeue s (.read (some chunk))).setCodec s
      (feed ((l.dequeue s (.read (some chunk))).pending s).codec chunk) = x
    have hserver : x.server = l.server := by
      rw [← hx]
      rfl
    have hcodec : (x.pending s).codec = feed (l.pending s).codec chunk := by
      rw [← hx, setCodec, pending_update_self, dequeue, pending_update_self]
    rw [← hcodec] at hdecode
    have hmem := mem_processBuffer hdecode
    rw [hserver] at hmem
    rw [← hx] at hmem
    exact hmem

/-- A closed session with a handler to run has forgotten its player, so that only an
accepted request to enter a room changes the maps. -/
theorem stirs_iff (hl : ∀ t, l.Orderly t) (hstep : LoopStep w l e l') :
    Stirs w l e ↔ EntersClosed w l e := by
  have hempty : ∀ s chunk, e = .run s (.read (some chunk)) →
      (l.server.clients s).closed = true → (l.server.clients s).playerId = "" := by
    intro s chunk he hclosed
    cases he
    obtain ⟨hmem, -⟩ := Option.ite_some_none_eq_some.1 hstep
    have hpos := mem_ready_read_pos hmem
    apply (hl s).cleared hclosed
    rw [Pending.reads]
    omega
  constructor
  · intro hstirs
    obtain ⟨s, σ, envelope, hprocesses, hmaps⟩ := hstirs
    obtain ⟨chunk, he, hserver, hclosed, hdecode⟩ := processesClosed_iff.1 hprocesses
    cases hserver
    rw [sameMaps_iff hclosed (hempty s chunk he hclosed)] at hmaps
    push Not at hmaps
    obtain ⟨p, haccepts⟩ := hmaps
    exact ⟨s, chunk, envelope, p, he, hclosed, hdecode, haccepts⟩
  · intro henters
    obtain ⟨s, chunk, envelope, p, he, hclosed, hdecode, haccepts⟩ := henters
    refine ⟨s, l.server, envelope, processesClosed_iff.2 ⟨chunk, he, rfl, hclosed, hdecode⟩, ?_⟩
    intro hsame
    exact (sameMaps_iff hclosed (hempty s chunk he hclosed)).1 hsame p haccepts

/-!
## Runs
-/

/-- The messages of closed sessions leave the maps alone in exactly the runs in which no
closed session enters a room. -/
theorem inert_iff_not_entersClosed (w : LoopEnv) (store : Redis.Keyspace) (es : List LoopEvent)
    (l : EventLoop) :
    ¬ Occurs (LoopStep w) (fun l e _ => Stirs w l e) (initialLoop store) es l ↔
      ¬ Occurs (LoopStep w) (fun l e _ => EntersClosed w l e) (initialLoop store) es l := by
  apply not_congr
  constructor
  · intro h
    apply h.of_run
    intro es l e l' hrun hstep hstirs
    exact (stirs_iff (orderly_of_run hrun) hstep).1 hstirs
  · intro h
    apply h.of_run
    intro es l e l' hrun hstep henters
    exact (stirs_iff (orderly_of_run hrun) hstep).2 henters

/-- The body of the frame of a `CreateRoom` by the player `p`, named `P`, for four. -/
def createRoomBody : List UInt8 :=
  [0x0A, 0x0E, 0x0A, 0x01, 0x70, 0x12, 0x01, 0x50, 0x1A, 0x04, 0x72, 0x6F, 0x6F, 0x6D, 0x20,
    0x04]

/-- The frame of a `CreateRoom`, as it arrives. -/
def createRoomFrame : List UInt8 := encodeHeader 16 ++ createRoomBody

/-- The settings `main` falls back to, with a message class that knows that one frame. -/
def defaultLoop : LoopEnv where
  env := defaultEnv
  messages :=
    { parseFromArray := fun body =>
        if body = createRoomBody then some (.createRoom ⟨"p", "P", "room", 4⟩) else none
      serializeAsString := fun envelope =>
        if envelope = .createRoom ⟨"p", "P", "room", 4⟩ then createRoomBody else [] }
  heartbeatTimeout := 30

/-- The heartbeat timer closes a session whose read has already ended. The handler of the
read then makes a room for the connection that is gone. -/
theorem not_inertWhenClosed : ¬ InertWhenClosed defaultLoop := by
  intro hclaim
  obtain ⟨l, hrun, hl⟩ := exists_run_of_exec (fun _ _ => true) (loopStep defaultLoop)
    (initialLoop {})
    [.accept 0 "10.0.0.1", .complete 0 (.timeout false),
      .complete 0 (.read (some createRoomFrame)), .run 0 (.timeout false)]
    (fun l => (l.server.clients 0).closed && !limited defaultEnv l.server 0 &&
      (l.pending 0).ready.contains (.read (some createRoomFrame)) &&
      (l.server.createRejection defaultEnv ⟨"p", "P", "room", 4⟩ 0).isNone &&
      (tryDecode defaultLoop.messages (feed (l.pending 0).codec createRoomFrame)).1 ==
        some (.createRoom ⟨"p", "P", "room", 4⟩))
    (by decide +kernel)
  simp only [Bool.and_eq_true, Bool.not_eq_true', Option.isNone_iff_eq_none, beq_iff_eq,
    List.contains_iff_mem] at hl
  obtain ⟨⟨⟨⟨hclosed, hlimited⟩, hmem⟩, haccept⟩, hdecode⟩ := hl
  have hstep : LoopStep defaultLoop l (.run 0 (.read (some createRoomFrame)))
      ((l.dequeue 0 (.read (some createRoomFrame))).runHandler defaultLoop 0
        (.read (some createRoomFrame))).2 := if_pos hmem
  have henters : EntersClosed defaultLoop l (.run 0 (.read (some createRoomFrame))) :=
    ⟨0, createRoomFrame, .createRoom ⟨"p", "P", "room", 4⟩, "p", rfl, hclosed, hdecode, hlimited,
      Or.inl ⟨⟨"p", "P", "room", 4⟩, rfl, rfl, haccept⟩⟩
  have hstirs := (stirs_iff (orderly_of_run hrun.of_guarded) hstep).2 henters
  exact hclaim {} _ _ (Occurs.now hrun.of_guarded hstep hstirs)

end Room

end SosBackend
