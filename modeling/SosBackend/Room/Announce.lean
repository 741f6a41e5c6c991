import SosBackend.Room.GameStart

/-!
# Game starts and their announcement

A room starts only when everybody in it but the host is ready, and only a player with an
id can get ready, so a game start goes to players with an id. As long as the link to the
Chat Server is up, the handler that sends the game starts also writes the announcement of
the session.
-/

namespace SosBackend

namespace Room

open RoomServer

/-- Whoever is ready has an id. -/
def Named (room : Room) : Prop :=
  ∀ player ∈ room.players, player.isReady = true → player.playerId ≠ ""

theorem mem_flipReady {p : String} {players : List PlayerData} {player : PlayerData}
    (h : player ∈ flipReady p players) : player ∈ players ∨ player.playerId = p := by
  induction players with
  | nil => cases h
  | cons head players ih =>
      rw [flipReady] at h
      split at h
      · next hid =>
          rcases List.mem_cons.1 h with rfl | h
          · exact Or.inr (beq_iff_eq.1 hid)
          · exact Or.inl (List.mem_cons_of_mem _ h)
      · rcases List.mem_cons.1 h with rfl | h
        · exact Or.inl List.mem_cons_self
        · exact (ih h).imp_left (List.mem_cons_of_mem _)

variable {r : String} {room room' : Room} {a : Action}

theorem RoomStart.named (h : RoomStart r a room) : room.Named := by
  cases h with
  | create =>
      intro player hplayer hready
      rw [List.mem_singleton.1 hplayer] at hready
      cases hready

theorem RoomStep.named (h : RoomStep r room a room') (htoggle : ∀ p r, a = .toggle p r → p ≠ "")
    (hroom : room.Named) : room'.Named := by
  cases h with
  | keep => exact hroom
  | join hr hstate hfull =>
      unfold Room.addPlayer
      split
      · exact hroom
      · intro player hplayer hready
        rcases List.mem_append.1 hplayer with hplayer | hplayer
        · exact hroom player hplayer hready
        · rw [List.mem_singleton.1 hplayer] at hready
          cases hready
  | leave hhost => exact fun player hplayer => hroom player (List.mem_of_mem_eraseP hplayer)
  | @toggle p hhost =>
      unfold Room.toggleReady
      split
      · exact hroom
      · intro player hplayer hready
        rcases mem_flipReady hplayer with hplayer | hid
        · exact hroom player hplayer hready
        · rw [hid]
          exact htoggle p r rfl
  | start hhost hready => exact hroom
  | release hcount => exact fun player hplayer => hroom player (List.mem_of_mem_eraseP hplayer)

/-- In a room that may start everybody has an id, if the host has one. -/
theorem Named.ne_of_canStart (h : room.Named) (hmarked : room.HostMarked)
    (hready : room.canStart = true) (hhost : room.hostId ≠ "") {p : String}
    (hp : p ∈ room.playerIds) : p ≠ "" := by
  obtain ⟨player, hplayer, rfl⟩ := List.mem_map.1 hp
  rcases Bool.or_eq_true_iff.1 (List.all_eq_true.1 hready player hplayer) with hmark | hready
  · rw [hmarked player hplayer hmark]
    exact hhost
  · exact h player hplayer hready

/-- The room that starts is one that its host may start. -/
theorem Act.canStart {env : Env} {v w : Registry} {p sid : String}
    (h : Act env v (.start p r sid) w) :
    ∃ room, v.rooms r = some room ∧ room.hostId = p ∧ room.canStart = true := by
  cases h with
  | start hp hroom hhost hidle hready hissued =>
      exact ⟨_, hroom, (beq_iff_eq.1 hhost).symm, hready⟩

/-- Game starts go to players with an id, for a session that has one and that has been
announced. -/
def Announces (σ : RoomServer) : Prop :=
  ∀ d ∈ σ.sent, ∀ game, d.envelope = .gameStart game →
    (∃ p, d.addressee = some p ∧ p ≠ "") ∧ game.sessionId ≠ "" ∧
      ∃ players, .sessionCreated ⟨game.sessionId, players⟩ ∈ σ.backend.chat.sent

/-- What holds of the server while its link to the Chat Server is up. -/
structure Announced (env : Env) (σ : RoomServer) : Prop where
  staged : σ.registry.Staged env
  named : ∀ r room, σ.registry.rooms r = some room → room.Named
  connected : σ.backend.chat.connected = true
  announces : Announces σ

section announced

variable {env : Env} {σ τ x y : RoomServer} {i : Input}

theorem announced_initial (env : Env) (store : Redis.Keyspace) :
    Announced env ((initial store).withBackend fun b =>
      { b with chat := { connected := true } }) where
  staged := staged_initial env _ rfl
  named r room hroom := by cases hroom
  connected := rfl
  announces d hd := by cases hd

/-- Outside of the link, a change writes to the Chat Server what it announces. -/
theorem Effect.chat_sent (h : Effect env x a y) (hlink : ∀ b, a ≠ .link b)
    (henv : env.chatChannel = true) (hconnected : x.backend.chat.connected = true) :
    y.backend.chat.connected = true ∧
      y.backend.chat.sent = x.backend.chat.sent ++ a.announcement x.registry := by
  have hup : (env.chatChannel && x.backend.chat.connected) = true := by
    rw [henv, hconnected]
    rfl
  rw [h.chat]
  unfold Action.chatAfter
  split
  · next b => exact absurd rfl (hlink b)
  · rw [if_pos hup]
    exact ⟨hconnected, rfl⟩

/-- One change of a step keeps the starts announced. -/
theorem announced_change (h : Change env σ i x a y) (henv : env.chatChannel = true)
    (hi : ∀ connected, i ≠ .chatLink connected) (hx : Announced env x) : Announced env y := by
  obtain ⟨heffect, hcause⟩ := h
  have hlink : ∀ b, a ≠ .link b := by
    rintro b rfl
    exact hi b hcause
  have htoggle : ∀ p r, a = .toggle p r → p ≠ "" := by
    rintro p r rfl
    obtain ⟨s, -, -, hp, -⟩ := hcause
    exact hp
  obtain ⟨hconnected, hsent⟩ := heffect.chat_sent hlink henv hx.connected
  constructor
  · exact hx.staged.act heffect.act
  · intro r room hroom
    rcases heffect.act.room_inv hroom with hstart | ⟨room', hroom', hstep⟩
    · exact hstart.named
    · exact hstep.named htoggle (hx.named r room' hroom')
  · exact hconnected
  · intro d hd game hgame
    rcases heffect.sent.mem hd with hold | hnew
    · obtain ⟨hp, hsid, players, hplayers⟩ := hx.announces d hold game hgame
      refine ⟨hp, hsid, players, ?_⟩
      rw [hsent]
      exact List.mem_append_left _ hplayers
    · unfold Action.Sends at hnew
      rw [hgame] at hnew
      obtain ⟨p, r, room, q, rfl, hroom, hq, haddressee⟩ := hnew
      obtain ⟨s, -, -, hp, -⟩ := hcause
      obtain ⟨room', hroom', rfl, hready⟩ := heffect.act.canStart
      cases hroom.symm.trans hroom'
      refine ⟨?_, ?_, ?_⟩
      · have hmarked := hx.staged.hosts r room hroom
        exact ⟨q, haddressee, (hx.named r room hroom).ne_of_canStart hmarked hready hp hq⟩
      · obtain ⟨-, hsid, -⟩ := heffect.act.start_inv
        rw [hsid]
        exact env.uuid_ne_empty _
      · refine ⟨room.players.map fun player => ⟨player.playerId, player.playerName⟩, ?_⟩
        rw [hsent]
        apply List.mem_append_right
        simp only [Action.announcement, hroom, List.mem_singleton]

/-- A step that is not about the link keeps the starts announced, and takes back nothing
that has been sent. -/
theorem announced_step (h : Step env σ i τ) (henv : env.chatChannel = true)
    (hi : ∀ connected, i ≠ .chatLink connected) (hσ : Announced env σ) :
    Announced env τ ∧ (∀ d ∈ σ.sent, d ∈ τ.sent) ∧
      σ.backend.chat.sent <+: τ.backend.chat.sent := by
  obtain ⟨as, hrun⟩ := run_step h
  refine hrun.invariant (I := fun τ => Announced env τ ∧ (∀ d ∈ σ.sent, d ∈ τ.sent) ∧
    σ.backend.chat.sent <+: τ.backend.chat.sent) ?_ ⟨hσ, fun _ hd => hd, List.prefix_refl _⟩
  rintro x a y hchange ⟨hx, hkept, hprefix⟩
  have hlink : ∀ b, a ≠ .link b := by
    rintro b rfl
    exact hi b hchange.2
  refine ⟨announced_change hchange henv hi hx, ?_, ?_⟩
  · exact fun d hd => hchange.1.sent.subset (hkept d hd)
  · rw [(hchange.1.chat_sent hlink henv hx.connected).2]
    exact hprefix.trans (List.prefix_append _ _)

end announced

end Room

end SosBackend
