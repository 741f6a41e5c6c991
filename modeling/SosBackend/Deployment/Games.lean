import SosBackend.Deployment
import SosBackend.Room.Told

/-!
# The games and their channels

The Chat Server knows the games from what it has taken of the announcements of the Room
Server, and its channels are always those. So it lies behind the Room Server by what is on
its way and by nothing else: as long as no host leaves a game, the channels are those of the
rooms in game whenever the link between the servers is empty, and nobody is kept in the
channel of a game that is over. This is so because the link is up throughout; an announcement
that a broken link has lost would leave a game without its channel for good.
-/

namespace SosBackend

namespace Deployment

open Chat (ChatEnvelope SessionTable)

variable {env : DeploymentEnv} {x y : Deployment} {e : Event}

/-!
## The table of the Chat Server
-/

/-- The channels are those of the announcements that have been taken. -/
def Informed (x : Deployment) : Prop :=
  x.chat.directory.table = SessionTable.after (x.announced.take x.taken)

/-- What the Room Server writes comes behind what it has written. -/
theorem take_announced (h : Invariant env x) {i : Room.Input} {room : Room.RoomServer}
    (hstep : Room.Step env.room x.room i room) (hi : keepsLink i = true) :
    room.backend.chat.sent.take x.taken = x.announced.take x.taken := by
  have hlink : ∀ connected, i ≠ .chatLink connected := by
    rintro connected rfl
    cases hi
  obtain ⟨more, hmore⟩ := (Room.announced_step hstep env.chatChannel hlink h.room).2.2
  rw [← hmore]
  exact List.take_append_of_le_length h.taken_le

/-- A step of the Chat Server that is not about a session keeps its channels. -/
theorem Informed.of_chat (h : x.Informed) {i : Chat.Input} {chat : Chat.ChatServer}
    (hstep : Chat.Step env.chat x.chat i chat)
    (hi : ∀ envelope, i ≠ .internalMessage envelope) (handled : SessionPtr → ℕ) :
    Informed { x with chat := chat, handled := handled } := by
  have htable := Chat.table_step hstep
  unfold Informed
  rw [htable]
  cases i with
  | internalMessage envelope => exact absurd rfl (hi envelope)
  | _ => exact h

theorem informed_step (hstep : Step env x e y) (hx : Invariant env x) (h : x.Informed) :
    y.Informed := by
  cases e with
  | room i =>
      obtain ⟨hi, hsome⟩ := Option.ite_none_right_eq_some.1 hstep
      obtain ⟨room, hroom, rfl⟩ := Option.map_eq_some_iff.1 hsome
      refine h.trans ?_
      exact congrArg SessionTable.after (take_announced hx hroom hi).symm
  | receive c =>
      obtain ⟨-, rfl⟩ := Option.ite_some_none_eq_some.1 hstep
      exact h
  | write s envelope =>
      obtain rfl := Option.some.inj hstep
      exact h
  | handle s =>
      obtain ⟨envelope, -, hsome⟩ := Option.bind_eq_some_iff.1 hstep
      obtain ⟨chat, hchat, rfl⟩ := Option.map_eq_some_iff.1 hsome
      refine h.of_chat hchat ?_ _
      intro envelope heq
      cases heq
  | internal =>
      obtain ⟨envelope, hnext, hsome⟩ := Option.bind_eq_some_iff.1 hstep
      obtain ⟨chat, hchat, rfl⟩ := Option.map_eq_some_iff.1 hsome
      have htake : x.announced.take (x.taken + 1) = x.announced.take x.taken ++ [envelope] := by
        rw [List.take_add_one, hnext]
        rfl
      have htable := Chat.table_step hchat
      unfold Informed at h ⊢
      refine htable.trans ?_
      rw [h]
      exact (SessionTable.after_concat _ _).symm.trans (congrArg SessionTable.after htake.symm)
  | chat i =>
      obtain ⟨hi, hsome⟩ := Option.ite_none_right_eq_some.1 hstep
      obtain ⟨chat, hchat, rfl⟩ := Option.map_eq_some_iff.1 hsome
      refine h.of_chat hchat ?_ _
      rintro envelope rfl
      cases hi

/-- Whatever the clients send and however the links lag, the sessions that have a channel,
and the players that the channels expect, are those that the Room Server has announced in
what the Chat Server has taken. -/
theorem channels_of_run (env : DeploymentEnv) (roomStore chatStore : Redis.Keyspace)
    {es : List Event} {x : Deployment}
    (h : Run (Step env) (initial roomStore chatStore) es x) (sid : String) :
    (x.chat.manager.sessionChannels.find? sid).map (fun channel =>
        channel.expectedPlayers.toSet) =
      SessionTable.after (x.announced.take x.taken) sid := by
  have hinformed : Invariant env x ∧ x.Informed := by
    refine h.invariant (I := fun x => Invariant env x ∧ x.Informed) ?_ ⟨?_, rfl⟩
    · rintro x e y hstep ⟨hx, h⟩
      exact ⟨(invariant_step hstep hx).1, informed_step hstep hx h⟩
    · exact invariant_initial env roomStore chatStore
  rw [← hinformed.2]
  change _ = ((x.chat.manager.sessionChannels.find? sid).map Chat.SessionChannel.toChannel).map
    Chat.Channel.expected
  rw [Option.map_map]
  rfl

/-- A game starts, its announcement is taken, and its player authenticates. -/
def startedGame : List Event :=
  [.room (.connect 0 "10.0.0.1"), .room (.clientMessage 0 (.createRoom ⟨"p", "P", "room", 4⟩)),
    .room (.clientMessage 0 .startGame), .internal, .chat (.connect 0),
    .write 0 (.auth sampleAuth), .handle 0]

theorem channels_of_run_started : ∃ x, Run (Step defaultEnv) (initial {} {}) startedGame x ∧
    x.taken = 1 ∧ (x.chat.manager.sessionChannels.find? "uu").map (fun channel =>
        channel.expectedPlayers.toSet) =
      SessionTable.after (x.announced.take x.taken) "uu" := by
  obtain ⟨x, hrun, hx⟩ := exists_run_of_exec (fun _ _ => true) (step defaultEnv)
    (initial {} {}) startedGame (fun x => x.taken == 1) (by decide)
  have hchannels := channels_of_run defaultEnv {} {} hrun.of_guarded "uu"
  exact ⟨x, hrun.of_guarded, beq_iff_eq.1 hx, hchannels⟩

/-!
## Between the games
-/

/-- No host leaves its room in game in the step. -/
def hostStays (env : DeploymentEnv) (x : Deployment) : Event → Bool
  | .room i => Room.hostStays env.room x.room i
  | _ => true

/-- The room is in game, under this session. -/
def Plays (x : Deployment) (sid : String) : Prop :=
  ∃ r room, x.room.manager.rooms.find? r = some room ∧ room.state = .inGame ∧
    room.sessionId = sid

/-- The Chat Server has the channels of the games that are played and no others. The channel
of a game expects whoever is still in its room. Every player of the Chat Server is in the
lobby, or in the channel of a game. -/
structure Settled (x : Deployment) : Prop where
  channels : ∀ sid, x.chat.manager.sessionChannels.contains sid = true ↔ x.Plays sid
  expected : ∀ r room, x.room.manager.rooms.find? r = some room → room.state = .inGame →
    ∃ channel, x.chat.manager.sessionChannels.find? room.sessionId = some channel ∧
      ∀ p ∈ room.playerIds, channel.expectedPlayers.contains p = true
  players : ∀ p state, x.chat.manager.players.find? p = some state →
    (state.sessionId = "" ∧ x.chat.manager.lobbyMembers.contains p = true) ∨
      (x.Plays state.sessionId ∧ ∃ channel,
        x.chat.manager.sessionChannels.find? state.sessionId = some channel ∧
          channel.members.contains p = true)

/-- What holds of a deployment in which no host leaves a game. -/
structure Tracked (env : DeploymentEnv) (x : Deployment) : Prop where
  base : Invariant env x
  informed : x.Informed
  told : x.room.registry.Told env.room x.announced
  placed : x.chat.directory.Placed

theorem tracked_initial (env : DeploymentEnv) (roomStore chatStore : Redis.Keyspace) :
    Tracked env (initial roomStore chatStore) where
  base := invariant_initial env roomStore chatStore
  informed := rfl
  told := Room.Registry.Told.initial env.room rfl
  placed := Chat.placed_of_empty rfl

/-- The session that the Chat Server is told of next has no channel. -/
theorem Tracked.fresh (h : Tracked env x) {message : Chat.SessionCreated}
    (hnext : x.announced[x.taken]? = some (.sessionCreated message)) :
    x.chat.directory.channels message.sessionId = none := by
  rw [← Option.not_isSome_iff_eq_none]
  intro hsome
  have htable : (SessionTable.after (x.announced.take x.taken) message.sessionId).isSome =
      true := by
    rw [← h.informed, Chat.Directory.table, Option.isSome_map]
    exact hsome
  obtain ⟨players, hcreated⟩ := SessionTable.exists_created htable
  -- the session would have been announced twice
  have honce := h.told.once
  rw [← List.take_append_drop x.taken x.announced, Room.sessionEvents_append,
    Lifecycle.openings_append, List.nodup_append] at honce
  refine honce.2.2 message.sessionId ?_ message.sessionId ?_ rfl
  · exact Room.mem_openings hcreated
  · have hahead : (x.announced.drop x.taken)[0]? = some (.sessionCreated message) :=
      List.getElem?_drop.trans hnext
    exact Room.mem_openings (List.mem_of_getElem? hahead)

/-- A step of the Chat Server that is not about a session keeps the agreement of its
records. -/
theorem placed_of_chat {σ τ : Chat.ChatServer} {i : Chat.Input}
    (hstep : Chat.Step env.chat σ i τ) (hi : ∀ envelope, i ≠ .internalMessage envelope)
    (h : σ.directory.Placed) : τ.directory.Placed := by
  refine Chat.placed_step hstep (fun sid hcreated => ?_) h
  cases i with
  | internalMessage envelope => exact absurd rfl (hi envelope)
  | _ => cases hcreated

theorem Tracked.step (hstep : Guarded (hostStays env) (Step env) x e y) (h : Tracked env x) :
    Tracked env y := by
  obtain ⟨hstep, hstays⟩ := hstep
  have hbase := (invariant_step hstep h.base).1
  have hinformed := informed_step hstep h.base h.informed
  cases e with
  | room i =>
      obtain ⟨hi, hsome⟩ := Option.ite_none_right_eq_some.1 hstep
      obtain ⟨room, hroom, rfl⟩ := Option.map_eq_some_iff.1 hsome
      refine ⟨hbase, hinformed, ?_, h.placed⟩
      refine Room.told_step env.chatChannel hroom ?_ hstays h.base.room.connected h.told
      cases i with
      | chatLink connected => cases hi
      | _ => rfl
  | receive c =>
      obtain ⟨-, rfl⟩ := Option.ite_some_none_eq_some.1 hstep
      exact ⟨hbase, hinformed, h.told, h.placed⟩
  | write s envelope =>
      obtain rfl := Option.some.inj hstep
      exact ⟨hbase, hinformed, h.told, h.placed⟩
  | handle s =>
      obtain ⟨envelope, -, hsome⟩ := Option.bind_eq_some_iff.1 hstep
      obtain ⟨chat, hchat, rfl⟩ := Option.map_eq_some_iff.1 hsome
      refine ⟨hbase, hinformed, h.told, placed_of_chat hchat ?_ h.placed⟩
      intro envelope heq
      cases heq
  | internal =>
      obtain ⟨envelope, hnext, hsome⟩ := Option.bind_eq_some_iff.1 hstep
      obtain ⟨chat, hchat, rfl⟩ := Option.map_eq_some_iff.1 hsome
      refine ⟨hbase, hinformed, h.told, ?_⟩
      refine Chat.placed_step hchat (fun sid hcreated => ?_) h.placed
      cases envelope with
      | sessionCreated message =>
          cases hcreated
          exact h.fresh hnext
      | _ => cases hcreated
  | chat i =>
      obtain ⟨hi, hsome⟩ := Option.ite_none_right_eq_some.1 hstep
      obtain ⟨chat, hchat, rfl⟩ := Option.map_eq_some_iff.1 hsome
      refine ⟨hbase, hinformed, h.told, placed_of_chat hchat ?_ h.placed⟩
      rintro envelope rfl
      cases hi

theorem Tracked.settled (h : Tracked env x) (hdrained : x.taken = x.announced.length) :
    Settled x := by
  have htable : x.chat.directory.table = SessionTable.after x.announced := by
    have hinformed := h.informed
    unfold Informed at hinformed
    rw [hdrained, List.take_length] at hinformed
    exact hinformed
  have hchannels : ∀ sid, x.chat.manager.sessionChannels.contains sid = true ↔ x.Plays sid := by
    intro sid
    have hsome : (x.chat.directory.table sid).isSome =
        x.chat.manager.sessionChannels.contains sid := by
      rw [Chat.Directory.table, Option.isSome_map, Chat.ChatServer.channels_isSome]
    rw [← hsome, htable]
    exact h.told.running sid
  constructor
  · exact hchannels
  · intro r room hroom hstate
    obtain ⟨players, hplayers, hroster⟩ := h.told.rosters r room hroom hstate
    rw [← htable] at hplayers
    obtain ⟨channel, hchannel, rfl⟩ := Option.map_eq_some_iff.1 hplayers
    obtain ⟨found, hfound, rfl⟩ := Option.map_eq_some_iff.1 hchannel
    exact ⟨found, hfound, hroster⟩
  · intro p state hp
    by_cases hsid : state.sessionId = ""
    · exact Or.inl ⟨hsid, (h.placed.lobby_id p).2 ⟨state, hp, hsid⟩⟩
    · have hmem := (h.placed.member state.sessionId p).2 ⟨hsid, state, hp, rfl⟩
      obtain ⟨channel, hchannel, hmem⟩ := Chat.ChatServer.mem_members.1 hmem
      refine Or.inr ⟨?_, channel, hchannel, hmem⟩
      rw [← hchannels]
      exact UnorderedMap.contains_iff.2 ⟨channel, hchannel⟩

/-- As long as no host leaves a game, the Chat Server has caught up whenever nothing is on
its way to it: its channels are those of the rooms in game, and nobody is left behind in the
channel of a game that is over. -/
theorem settled_of_drained (env : DeploymentEnv) (roomStore chatStore : Redis.Keyspace)
    {es : List Event} {x : Deployment}
    (h : Run (Guarded (hostStays env) (Step env)) (initial roomStore chatStore) es x)
    (hdrained : x.inFlight = []) : Settled x := by
  have htracked := h.invariant (I := Tracked env) (fun _ _ _ => Tracked.step)
    (tracked_initial env roomStore chatStore)
  apply htracked.settled
  have hle := htracked.base.taken_le
  rw [inFlight, List.drop_eq_nil_iff] at hdrained
  omega

theorem settled_of_drained_started : ∃ x, x.room.hasActiveGame = true ∧
    x.chat.manager.players.contains "p" = true ∧ Settled x := by
  obtain ⟨x, hrun, hx⟩ := exists_run_of_exec (hostStays defaultEnv) (step defaultEnv)
    (initial {} {}) startedGame
    (fun x => x.room.hasActiveGame && x.chat.manager.players.contains "p" &&
      decide (x.inFlight = []))
    (by decide)
  simp only [Bool.and_eq_true, decide_eq_true_eq] at hx
  obtain ⟨⟨hgame, hplayer⟩, hdrained⟩ := hx
  exact ⟨x, hgame, hplayer, settled_of_drained defaultEnv {} {} hrun hdrained⟩

end Deployment

end SosBackend
