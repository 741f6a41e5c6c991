import SosBackend.Chat.Ended
import SosBackend.Room.Announce

/-!
# The two servers and their links

A deployment has one Room Server, one Chat Server and their clients. A client receives what
the Room Server has sent to it in order, the Chat Server takes what the Room Server has
written to the internal port in order, and what each client has written to it in order; how
far each of these links has got is independent of the others. So a game start may be
received, and answered by a `ChatAuth`, while the announcement of its session is still on
its way. The link between the servers is up from the start and stays up. What the Room
Server announces while it is down, and what is on its way when it goes down, never reaches
the Chat Server, and is left out here.
-/

namespace SosBackend

open Chat (ChatAuth ChatEnvelope)

/-- What a run never changes. The Room Server has a channel to the Chat Server. -/
structure DeploymentEnv where
  room : Room.Env
  chat : Chat.Env
  chatChannel : room.chatChannel = true

/-- The servers, and how far the links between them and the clients have got. -/
structure Deployment where
  room : Room.RoomServer
  chat : Chat.ChatServer
  /-- How much each client has received of what the Room Server has sent to it. -/
  received : SessionPtr → ℕ := fun _ => 0
  /-- How much the Chat Server has taken of what the Room Server has written to it. -/
  taken : ℕ := 0
  /-- What each client has written to the Chat Server. -/
  written : SessionPtr → List ChatEnvelope := fun _ => []
  /-- How much of that the Chat Server has taken. -/
  handled : SessionPtr → ℕ := fun _ => 0

namespace Deployment

/-- What the Room Server has sent to a client. -/
def outbox (x : Deployment) (c : SessionPtr) : List Room.Delivery :=
  x.room.sent.filter fun d => d.session == c

/-- What the Room Server has written to the Chat Server. -/
def announced (x : Deployment) : List ChatEnvelope :=
  x.room.backend.chat.sent

/-- What is on its way from the Room Server to the Chat Server. -/
def inFlight (x : Deployment) : List ChatEnvelope :=
  x.announced.drop x.taken

inductive Event
  | room (i : Room.Input)
  | receive (c : SessionPtr)
  | write (s : SessionPtr) (envelope : ChatEnvelope)
  | handle (s : SessionPtr)
  | internal
  | chat (i : Chat.Input)
deriving DecidableEq, Repr

/-- The link between the servers does not go down, nor up. The runs of a deployment are those
of a link that stays as it is at the start, up. -/
def keepsLink : Room.Input → Bool
  | .chatLink _ => false
  | _ => true

/-- What happens at the Chat Server besides its messages. -/
def isLocal : Chat.Input → Bool
  | .message _ _ => false
  | .internalMessage _ => false
  | _ => true

/-- One step of a server or of a link, if it is enabled. -/
def step (env : DeploymentEnv) (x : Deployment) : Event → Option Deployment
  | .room i =>
      if keepsLink i then
        (Room.step env.room x.room i).map fun room => { x with room := room }
      else none
  | .receive c =>
      if x.received c < (x.outbox c).length then
        some { x with received := Function.update x.received c (x.received c + 1) }
      else none
  | .write s envelope =>
      some { x with written := Function.update x.written s (x.written s ++ [envelope]) }
  | .handle s =>
      (x.written s)[x.handled s]?.bind fun envelope =>
        (Chat.step env.chat x.chat (.message s envelope)).map fun chat =>
          { x with chat := chat, handled := Function.update x.handled s (x.handled s + 1) }
  | .internal =>
      x.announced[x.taken]?.bind fun envelope =>
        (Chat.step env.chat x.chat (.internalMessage envelope)).map fun chat =>
          { x with chat := chat, taken := x.taken + 1 }
  | .chat i =>
      if isLocal i then
        (Chat.step env.chat x.chat i).map fun chat => { x with chat := chat }
      else none

/-- The steps as a relation. -/
def Step (env : DeploymentEnv) (x : Deployment) (e : Event) (y : Deployment) : Prop :=
  step env x e = some y

theorem step_room {env : DeploymentEnv} {x y : Deployment} {i : Room.Input} :
    Step env x (.room i) y ↔ keepsLink i = true ∧
      ∃ room, Room.Step env.room x.room i room ∧ { x with room := room } = y := by
  unfold Step step
  rw [Option.ite_none_right_eq_some, Option.map_eq_some_iff]
  rfl

theorem step_chat {env : DeploymentEnv} {x y : Deployment} {i : Chat.Input} :
    Step env x (.chat i) y ↔ isLocal i = true ∧
      ∃ chat, Chat.Step env.chat x.chat i chat ∧ { x with chat := chat } = y := by
  unfold Step step
  rw [Option.ite_none_right_eq_some, Option.map_eq_some_iff]
  rfl

/-- The servers at their start, the link between them up and nothing on its way. -/
def initial (roomStore chatStore : Redis.Keyspace) : Deployment where
  room := (Room.initial roomStore).withBackend fun b => { b with chat := { connected := true } }
  chat := Chat.initial chatStore

/-!
## Entering the chat of a session
-/

/-- The client has received the start of a session for a player. -/
def HasStarted (x : Deployment) (c : SessionPtr) (p sid : String) : Prop :=
  ∃ d ∈ (x.outbox c).take (x.received c), d.addressee = some p ∧
    ∃ game, d.envelope = .gameStart game ∧ game.sessionId = sid

/-- The Chat Server accepts the authentication of a player on a connection. -/
structure Enters (x y : Deployment) (s : SessionPtr) (auth : ChatAuth) : Prop where
  answer : ∃ out, y.chat.sent = x.chat.sent ++ out ∧ ⟨s, .authResult { success := true }⟩ ∈ out
  member : ∃ channel, y.chat.manager.sessionChannels.find? auth.sessionId = some channel ∧
    channel.members.contains auth.playerId = true

/-- A client that has received the start of a session and then authenticates for it on an
open connection enters its chat, where the Chat Server handles the message in a state that
`ok` admits and the end of the session has not been sent. -/
def EntersChat (env : DeploymentEnv) (ok : Deployment → ChatAuth → Prop) : Prop :=
  ∀ roomStore chatStore es x c auth s x' fs y,
    Run (Step env) (initial roomStore chatStore) es x →
    x.HasStarted c auth.playerId auth.sessionId → auth.playerName ≠ "" →
    Step env x (.write s (.auth auth)) x' → Run (Step env) x' fs y →
    y.handled s = (x.written s).length → (y.chat.sessions s).isOpen = true →
    .sessionEnded ⟨auth.sessionId⟩ ∉ y.announced → ok y auth →
      ∃ z, Step env y (.handle s) z ∧ Enters y z s auth

/-- The session is not one whose announcement is on its way. -/
def Arrived (x : Deployment) (auth : ChatAuth) : Prop :=
  ∀ players, .sessionCreated ⟨auth.sessionId, players⟩ ∉ x.inFlight

section runs

variable {env : DeploymentEnv} {x y : Deployment} {e : Event}

/-- What holds of a deployment between two steps: the starts have been announced, and what
the Chat Server has been told of and not been told the end of has a channel. -/
structure Invariant (env : DeploymentEnv) (x : Deployment) : Prop where
  room : Room.Announced env.room x.room
  taken_le : x.taken ≤ x.announced.length
  channels : ∀ sid players, .sessionCreated ⟨sid, players⟩ ∈ x.announced.take x.taken →
    .sessionEnded ⟨sid⟩ ∉ x.announced.take x.taken →
      (x.chat.directory.channels sid).isSome

theorem invariant_initial (env : DeploymentEnv) (roomStore chatStore : Redis.Keyspace) :
    Invariant env (initial roomStore chatStore) where
  room := Room.announced_initial env.room roomStore
  taken_le := Nat.zero_le _
  channels sid players h := by cases h

/-- The Chat Server takes the next message of the Room Server. -/
theorem channels_internal {envelope : ChatEnvelope} {σ τ : Chat.ChatServer}
    {told : List ChatEnvelope} (hstep : Chat.Step env.chat σ (.internalMessage envelope) τ)
    (hσ : ∀ sid players, .sessionCreated ⟨sid, players⟩ ∈ told → .sessionEnded ⟨sid⟩ ∉ told →
      (σ.directory.channels sid).isSome)
    {sid : String} {players : List Chat.PlayerInfo}
    (hcreated : .sessionCreated ⟨sid, players⟩ ∈ told ++ [envelope])
    (hended : .sessionEnded ⟨sid⟩ ∉ told ++ [envelope]) :
    (τ.directory.channels sid).isSome := by
  rw [List.mem_append, not_or, List.mem_singleton] at hended
  rcases List.mem_append.1 hcreated with hold | hnew
  · refine Chat.isSome_step hstep ?_ (hσ sid players hold hended.1)
    rintro ⟨x⟩ hi rfl
    cases hi
    exact hended.2 rfl
  · obtain rfl := List.mem_singleton.1 hnew
    obtain rfl := Option.some.inj hstep
    rw [Chat.ChatServer.channels_sessionCreated]
    rfl

/-- A step of the Chat Server that is not about a session keeps the channels. -/
theorem Invariant.of_chat (h : Invariant env x) {i : Chat.Input} {chat : Chat.ChatServer}
    (hstep : Chat.Step env.chat x.chat i chat)
    (hi : ∀ envelope, i ≠ .internalMessage envelope) (handled : SessionPtr → ℕ) :
    Invariant env { x with chat := chat, handled := handled } where
  room := h.room
  taken_le := h.taken_le
  channels sid players hcreated hended :=
    Chat.isSome_step hstep (fun _ heq => absurd heq (hi _))
      (h.channels sid players hcreated hended)

theorem invariant_step (hstep : Step env x e y) (h : Invariant env x) :
    Invariant env y ∧ (∀ d ∈ x.room.sent, d ∈ y.room.sent) ∧
      (∀ s, x.written s <+: y.written s) := by
  cases e with
  | room i =>
      obtain ⟨hi, hsome⟩ := Option.ite_none_right_eq_some.1 hstep
      obtain ⟨room, hroom, rfl⟩ := Option.map_eq_some_iff.1 hsome
      have hlink : ∀ connected, i ≠ .chatLink connected := by
        rintro connected rfl
        cases hi
      obtain ⟨hannounced, hsent, hprefix⟩ :=
        Room.announced_step hroom env.chatChannel hlink h.room
      refine ⟨⟨hannounced, h.taken_le.trans hprefix.length_le, ?_⟩, hsent, ?_⟩
      · obtain ⟨more, hmore⟩ := hprefix
        have htake : List.take x.taken room.backend.chat.sent = x.announced.take x.taken := by
          rw [← hmore]
          exact List.take_append_of_le_length h.taken_le
        intro sid players hcreated hended
        unfold announced at hcreated hended
        rw [htake] at hcreated hended
        exact h.channels sid players hcreated hended
      · exact fun s => List.prefix_refl _
  | receive c =>
      obtain ⟨-, rfl⟩ := Option.ite_some_none_eq_some.1 hstep
      exact ⟨⟨h.room, h.taken_le, h.channels⟩, fun d hd => hd, fun s => List.prefix_refl _⟩
  | write s envelope =>
      obtain rfl := Option.some.inj hstep
      refine ⟨⟨h.room, h.taken_le, h.channels⟩, fun d hd => hd, fun t => ?_⟩
      by_cases ht : t = s
      · subst ht
        simp only [Function.update_self]
        exact List.prefix_append _ _
      · simp only [Function.update_of_ne ht]
        exact List.prefix_refl _
  | handle s =>
      obtain ⟨envelope, -, hsome⟩ := Option.bind_eq_some_iff.1 hstep
      obtain ⟨chat, hchat, rfl⟩ := Option.map_eq_some_iff.1 hsome
      refine ⟨h.of_chat hchat ?_ _, fun d hd => hd, fun s => List.prefix_refl _⟩
      intro envelope heq
      cases heq
  | internal =>
      obtain ⟨envelope, hnext, hsome⟩ := Option.bind_eq_some_iff.1 hstep
      obtain ⟨chat, hchat, rfl⟩ := Option.map_eq_some_iff.1 hsome
      refine ⟨⟨h.room, ?_, ?_⟩, fun d hd => hd, fun s => List.prefix_refl _⟩
      · obtain ⟨hlt, -⟩ := List.getElem?_eq_some_iff.1 hnext
        exact hlt
      · have htake : x.announced.take (x.taken + 1) = x.announced.take x.taken ++ [envelope] := by
          rw [List.take_add_one, hnext]
          rfl
        intro sid players hcreated hended
        change _ ∈ x.announced.take (x.taken + 1) at hcreated
        change _ ∉ x.announced.take (x.taken + 1) at hended
        rw [htake] at hcreated hended
        exact channels_internal hchat h.channels hcreated hended
  | chat i =>
      obtain ⟨hi, hsome⟩ := Option.ite_none_right_eq_some.1 hstep
      obtain ⟨chat, hchat, rfl⟩ := Option.map_eq_some_iff.1 hsome
      refine ⟨h.of_chat hchat ?_ _, fun d hd => hd, fun s => List.prefix_refl _⟩
      rintro envelope rfl
      cases hi

/-- Along a run nothing that has been sent or written is taken back. -/
theorem invariant_run {es : List Event} (hrun : Run (Step env) x es y) (h : Invariant env x) :
    Invariant env y ∧ (∀ d ∈ x.room.sent, d ∈ y.room.sent) ∧
      (∀ s, x.written s <+: y.written s) := by
  refine hrun.invariant (I := fun y => Invariant env y ∧ (∀ d ∈ x.room.sent, d ∈ y.room.sent) ∧
    (∀ s, x.written s <+: y.written s)) ?_ ⟨h, fun d hd => hd, fun s => List.prefix_refl _⟩
  rintro y e z hstep ⟨hy, hsent, hwritten⟩
  obtain ⟨hz, hsent', hwritten'⟩ := invariant_step hstep hy
  exact ⟨hz, fun d hd => hsent' d (hsent d hd), fun s => (hwritten s).trans (hwritten' s)⟩

/-- A player who has received the start of a session enters its chat, once the
announcement of the session has arrived. -/
theorem entersChat_of_arrived (env : DeploymentEnv) : EntersChat env Arrived := by
  intro roomStore chatStore es x c auth s x' fs y hrun hstarted hname hwrite hrun' hhandled
    hopen hended harrived
  obtain ⟨hx, -, -⟩ := invariant_run hrun (invariant_initial env roomStore chatStore)
  obtain ⟨hx', hsent, -⟩ := invariant_step hwrite hx
  obtain ⟨hy, hsent', hwritten⟩ := invariant_run hrun' hx'
  obtain ⟨d, hd, haddressee, game, hgame, hsid⟩ := hstarted
  have hd' : d ∈ y.room.sent :=
    hsent' d (hsent d (List.mem_filter.1 (List.mem_of_mem_take hd)).1)
  obtain ⟨⟨p, hp, hpid⟩, hsession, players, hcreated⟩ := hy.room.announces d hd' game hgame
  obtain rfl := Option.some.inj (haddressee.symm.trans hp)
  rw [hsid] at hsession hcreated
  -- the announcement has been taken, since it is not on its way
  have htaken : .sessionCreated ⟨auth.sessionId, players⟩ ∈ y.announced.take y.taken := by
    have hmem : .sessionCreated ⟨auth.sessionId, players⟩ ∈
        y.announced.take y.taken ++ y.announced.drop y.taken := by
      rw [List.take_append_drop]
      exact hcreated
    exact (List.mem_append.1 hmem).resolve_right (harrived players)
  have hchannel := hy.channels auth.sessionId players htaken
    fun hmem => hended (List.mem_of_mem_take hmem)
  rw [Chat.ChatServer.channels_isSome] at hchannel
  have hnext : (y.written s)[y.handled s]? = some (.auth auth) := by
    obtain ⟨more, hmore⟩ := hwritten s
    obtain rfl := Option.some.inj hwrite
    simp only [Function.update_self] at hmore
    rw [← hmore, hhandled, List.append_assoc, List.getElem?_append_right (le_refl _), Nat.sub_self]
    rfl
  have hcomplete : auth.isComplete = true := by
    rw [ChatAuth.isComplete, Bool.and_eq_true, bne_iff_ne, bne_iff_ne]
    exact ⟨hpid, hname⟩
  obtain ⟨halive, hclosed⟩ := Chat.ChatSession.isOpen_iff.1 hopen
  have hstep : Chat.Step env.chat y.chat (.message s (.auth auth))
      (y.chat.handleAuth env.chat auth s) := if_pos halive
  obtain ⟨hanswer, hmember⟩ := Chat.ChatServer.enters_handleAuth hcomplete hsession hchannel
    hclosed env.chat
  refine ⟨{ y with
    chat := y.chat.handleAuth env.chat auth s
    handled := Function.update y.handled s (y.handled s + 1) }, ?_, hanswer, hmember⟩
  apply Option.bind_eq_some_iff.2
  exact ⟨.auth auth, hnext, Option.map_eq_some_iff.2 ⟨_, hstep, rfl⟩⟩

end runs

/-- The settings that both servers fall back to. -/
def defaultEnv : DeploymentEnv :=
  ⟨Room.defaultEnv, Chat.defaultEnv, rfl⟩

def sampleAuth : ChatAuth :=
  ⟨"p", "uu", "P"⟩

def sampleStart : Room.Delivery :=
  ⟨0, some "p", .gameStart ⟨"uu", "uuu", "127.0.0.1", 7979⟩⟩

def sampleRefusal : Chat.Delivery :=
  ⟨0, .authResult { success := false, reason := "Session not found" }⟩

/-- A player starts a game alone and authenticates when the announcement has arrived. -/
theorem entersChat_of_arrived_taken : ∃ x y z,
    Run (Step defaultEnv) (initial {} {}) [.room (.connect 0 "10.0.0.1"),
      .room (.clientMessage 0 (.createRoom ⟨"p", "P", "room", 4⟩)),
      .room (.clientMessage 0 .startGame), .internal, .receive 0, .receive 0,
      .chat (.connect 0)] x ∧
    Step defaultEnv x (.write 0 (.auth sampleAuth)) y ∧ Step defaultEnv y (.handle 0) z ∧
    Enters y z 0 sampleAuth := by
  obtain ⟨x, hrun, hstate⟩ := exists_run_of_exec (fun _ _ => true) (step defaultEnv)
    (initial {} {})
    [.room (.connect 0 "10.0.0.1"), .room (.clientMessage 0 (.createRoom ⟨"p", "P", "room", 4⟩)),
      .room (.clientMessage 0 .startGame), .internal, .receive 0, .receive 0,
      .chat (.connect 0)]
    (fun x => decide (sampleStart ∈ (x.outbox 0).take (x.received 0) ∧ x.written 0 = [] ∧
      x.handled 0 = 0 ∧ (x.chat.sessions 0).isOpen = true ∧
      ChatEnvelope.sessionEnded ⟨"uu"⟩ ∉ x.announced ∧ x.inFlight = []))
    (by decide)
  obtain ⟨hstarted, hwritten, hhandled, hopen, hended, hinFlight⟩ := of_decide_eq_true hstate
  have harrived : ∀ players,
      ChatEnvelope.sessionCreated ⟨sampleAuth.sessionId, players⟩ ∉ x.inFlight := by
    intro players
    rw [hinFlight]
    exact List.not_mem_nil
  obtain ⟨z, hz, henters⟩ := entersChat_of_arrived defaultEnv {} {} _ x 0 sampleAuth 0 _ [] _
    hrun.of_guarded ⟨sampleStart, hstarted, rfl, _, rfl, rfl⟩ (by decide) rfl Run.nil
    (by rw [hwritten]; exact hhandled) hopen hended harrived
  exact ⟨x, _, z, hrun.of_guarded, rfl, hz, henters⟩

/-- A player starts a game alone and authenticates as soon as the start is there; the
announcement of the session is still on its way. -/
theorem not_entersChat_overtaken : ¬ EntersChat defaultEnv fun _ _ => True := by
  intro h
  obtain ⟨x, hrun, hstate⟩ := exists_run_of_exec (fun _ _ => true) (step defaultEnv)
    (initial {} {})
    [.room (.connect 0 "10.0.0.1"), .room (.clientMessage 0 (.createRoom ⟨"p", "P", "room", 4⟩)),
      .room (.clientMessage 0 .startGame), .receive 0, .receive 0, .chat (.connect 0)]
    (fun x => decide (sampleStart ∈ (x.outbox 0).take (x.received 0) ∧ x.written 0 = [] ∧
      x.handled 0 = 0 ∧ (x.chat.sessions 0).isOpen = true ∧
      ChatEnvelope.sessionEnded ⟨"uu"⟩ ∉ x.announced ∧ x.chat.sent = []) &&
      ((step defaultEnv x (.write 0 (.auth sampleAuth))).bind fun y =>
        step defaultEnv y (.handle 0)).all fun z : Deployment =>
          decide (z.chat.sent = [sampleRefusal]))
    (by decide)
  obtain ⟨hdecided, hanswer⟩ := (Bool.and_eq_true_iff).1 hstate
  obtain ⟨hstarted, hwritten, hhandled, hopen, hended, hsent⟩ := of_decide_eq_true hdecided
  obtain ⟨z, hz, ⟨out, hout, hsuccess⟩, -⟩ := h {} {} _ x 0 sampleAuth 0 _ [] _ hrun.of_guarded
    ⟨sampleStart, hstarted, rfl, _, rfl, rfl⟩ (by decide) rfl Run.nil
    (by rw [hwritten]; exact hhandled) hopen hended trivial
  have hrefused : z.chat.sent = [sampleRefusal] := by
    have hbind : (step defaultEnv x (.write 0 (.auth sampleAuth))).bind
        (fun y => step defaultEnv y (.handle 0)) = some z := hz
    rw [hbind] at hanswer
    exact of_decide_eq_true hanswer
  rw [hsent, List.nil_append, hrefused] at hout
  rw [← hout, List.mem_singleton] at hsuccess
  cases hsuccess

end Deployment

end SosBackend
