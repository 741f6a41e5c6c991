import SosBackend.Chat.Table
import SosBackend.Room.Teardown

/-!
# What the Chat Server has been told of the games

As long as no host leaves a game, the table of what the Room Server has announced is that of
the rooms in game: it has their sessions and no others, and whoever is still in such a room
is among the players that its session was announced for.
-/

namespace SosBackend

namespace Room

open RoomServer Lifecycle

open Chat (ChatEnvelope SessionTable)

/-- An announced session has been opened. -/
theorem mem_openings {sent : List ChatEnvelope} {sid : String} {players : List Chat.PlayerInfo}
    (h : .sessionCreated ⟨sid, players⟩ ∈ sent) : sid ∈ openings (sessionEvents sent) := by
  obtain ⟨front, back, rfl⟩ := List.append_of_mem h
  rw [sessionEvents_append, openings_append]
  exact List.mem_append_right _ List.mem_cons_self

/-- A room in game does not get a player. -/
theorem RoomStep.subset_playerIds {r : String} {room room' : Room} {a : Action}
    (h : RoomStep r room a room') (hstate : room.state = .inGame) :
    room'.playerIds ⊆ room.playerIds := by
  cases h with
  | keep => exact List.Subset.refl _
  | join hr hwaiting hfull =>
      rw [hstate] at hwaiting
      cases hwaiting
  | leave hhost =>
      rw [Room.playerIds_removePlayer]
      exact List.erase_subset
  | toggle hhost =>
      rw [Room.playerIds_toggleReady]
      exact List.Subset.refl _
  | start hhost hready => exact List.Subset.refl _
  | release hcount =>
      rw [Room.playerIds_removePlayer]
      exact List.erase_subset

namespace Act

variable {env : Env} {v w : Registry} {a : Action} {r : String} {room : Room}

/-- A room that is in game after a change was in game before, under the same session and
with whoever is in it now, or starts. -/
theorem roster_inv (h : Act env v a w) (hroom : w.rooms r = some room)
    (hstate : room.state = .inGame) :
    (∃ room', v.rooms r = some room' ∧ room'.state = .inGame ∧
      room'.sessionId = room.sessionId ∧ room.playerIds ⊆ room'.playerIds) ∨
      ∃ p sid, a = .start p r sid := by
  rcases h.room_inv hroom with hstart | ⟨room', hroom', hstep⟩
  · cases hstart
    cases hstate
  · rcases hstep.session with ⟨hs, hsid⟩ | ⟨p, sid, rfl, -⟩
    · have hgame : room'.state = .inGame := hs ▸ hstate
      exact Or.inl ⟨room', hroom', hgame, hsid.symm, hstep.subset_playerIds hgame⟩
    · exact Or.inr ⟨p, sid, rfl⟩

end Act

namespace Action

variable {v : Registry} {a : Action}

theorem announcement_start {p r sid : String} {room : Room} (hroom : v.rooms r = some room) :
    (Action.start p r sid).announcement v = [.sessionCreated ⟨sid,
      room.players.map fun player => ⟨player.playerId, player.playerName⟩⟩] := by
  simp only [announcement, hroom]

theorem announcement_ended (hstart : ∀ p r sid, a ≠ .start p r sid) {sid : String}
    (hended : a.ended v = some sid) :
    a.announcement v = if sid = "" then [] else [.sessionEnded ⟨sid⟩] := by
  cases a <;> first
    | exact absurd rfl (hstart _ _ _)
    | simp only [announcement, hended]
      by_cases hempty : sid = "" <;> simp [hempty]

theorem announcement_other (hstart : ∀ p r sid, a ≠ .start p r sid)
    (hended : a.ended v = none) : a.announcement v = [] := by
  cases a <;> first
    | exact absurd rfl (hstart _ _ _)
    | simp only [announcement, hended]

end Action

/-- What has been announced is what is played. -/
structure Registry.Told (env : Env) (v : Registry) (sent : List ChatEnvelope) : Prop where
  indexed : v.Indexed env
  sessions : v.Sessions env (sessionEvents sent)
  once : (openings (sessionEvents sent)).Nodup
  running : ∀ sid, (SessionTable.after sent sid).isSome = true ↔ sid ∈ v.running
  rosters : ∀ r room, v.rooms r = some room → room.state = .inGame →
    ∃ players, SessionTable.after sent room.sessionId = some players ∧
      ∀ p ∈ room.playerIds, p ∈ players

namespace Registry.Told

variable {env : Env} {v w : Registry} {a : Action} {sent : List ChatEnvelope}

/-- The start of a room. -/
theorem start {p r sid : String} (h : v.Told env sent) (hact : Act env v (.start p r sid) w)
    (hsessions : w.Sessions env
      (sessionEvents (sent ++ (Action.start p r sid).announcement v))) :
    w.Told env (sent ++ (Action.start p r sid).announcement v) := by
  have hrunning := Registry.Sessions.running_start hact
  obtain ⟨hidle, rfl, hissued, room, hroom, hroom'⟩ := hact.start_inv
  have hfresh := h.sessions.fresh
  rw [Action.announcement_start hroom] at hsessions ⊢
  constructor
  · exact h.indexed.act hact
  · exact hsessions
  · rw [sessionEvents_append, openings_append, List.nodup_append]
    refine ⟨h.once, List.nodup_singleton _, ?_⟩
    intro sid hsid sid' hsid'
    rw [List.mem_singleton.1 hsid']
    rintro rfl
    exact hfresh hsid
  · intro sid
    rw [SessionTable.after_concat, hrunning, Set.mem_insert_iff]
    by_cases hsid : sid = env.uuid v.issued
    · subst hsid
      refine ⟨fun _ => Or.inl rfl, fun _ => ?_⟩
      exact congrArg Option.isSome (SessionTable.tell_created_self _ _)
    · rw [SessionTable.tell_created_of_ne _ hsid, h.running]
      exact ⟨Or.inr, fun hmem => hmem.resolve_left hsid⟩
  · intro r' room' hr' hstate
    -- the room that starts is the only one in game
    obtain rfl : r' = r := hact.eq_of_inGame h.sessions.alone hr' hroom' hstate rfl
    rw [hroom'] at hr'
    cases hr'
    have htable := SessionTable.tell_created_self (SessionTable.after sent)
      ⟨env.uuid v.issued,
        room.players.map fun player => ⟨player.playerId, player.playerName⟩⟩
    rw [← SessionTable.after_concat] at htable
    refine ⟨_, htable, fun p hp => ?_⟩
    obtain ⟨player, hplayer, rfl⟩ := List.mem_map.1 hp
    exact ⟨⟨player.playerId, player.playerName⟩, List.mem_map.2 ⟨player, hplayer, rfl⟩, rfl⟩

/-- A change that starts no room keeps the rosters, where the table keeps the sessions that
are still played. -/
theorem rosters_of_ne (h : v.Told env sent) (hact : Act env v a w)
    (hstart : ∀ p r sid, a ≠ .start p r sid) {sent' : List ChatEnvelope}
    (hkept : ∀ sid ∈ w.running, SessionTable.after sent' sid = SessionTable.after sent sid)
    (r : String) (room : Room) (hroom : w.rooms r = some room) (hstate : room.state = .inGame) :
    ∃ players, SessionTable.after sent' room.sessionId = some players ∧
      ∀ p ∈ room.playerIds, p ∈ players := by
  rcases hact.roster_inv hroom hstate with ⟨room', hroom', hstate', hsid, hsubset⟩ | hstarts
  · obtain ⟨players, htable, hplayers⟩ := h.rosters r room' hroom' hstate'
    refine ⟨players, ?_, fun p hp => hplayers p (hsubset hp)⟩
    rw [hkept _ ⟨r, room, hroom, hstate, rfl⟩, ← hsid]
    exact htable
  · obtain ⟨p, sid, heq⟩ := hstarts
    exact absurd heq (hstart p r sid)

/-- The end of a session. -/
theorem ended {sid : String} (h : v.Told env sent) (hact : Act env v a w)
    (hsessions : w.Sessions env (sessionEvents (sent ++ a.announcement v)))
    (hended : a.ended v = some sid) : w.Told env (sent ++ a.announcement v) := by
  have hrunning := h.sessions.running_ended hact h.indexed hended
  have hstart := (hact.ended_inv hended).1
  have hindexed := h.indexed.act hact
  rw [Action.announcement_ended hstart hended] at hsessions ⊢
  by_cases hempty : sid = ""
  · -- a room that never started
    subst hempty
    rw [if_pos rfl, List.append_nil] at hsessions ⊢
    refine ⟨hindexed, hsessions, h.once, fun sid => ?_, h.rosters_of_ne hact hstart fun _ _ => rfl⟩
    rw [h.running, hrunning, Set.mem_sdiff, Set.mem_singleton_iff]
    exact ⟨fun hsid => ⟨hsid, h.sessions.ne_empty hsid⟩, And.left⟩
  · rw [if_neg hempty] at hsessions ⊢
    have hgone : SessionTable.after (sent ++ [.sessionEnded ⟨sid⟩]) sid = none := by
      rw [SessionTable.after_concat]
      exact SessionTable.tell_ended_self _ ⟨sid⟩
    have hkept : ∀ sid', sid' ≠ sid → SessionTable.after (sent ++ [.sessionEnded ⟨sid⟩]) sid' =
        SessionTable.after sent sid' := by
      intro sid' hsid'
      rw [SessionTable.after_concat]
      exact SessionTable.tell_ended_of_ne _ hsid'
    refine ⟨hindexed, hsessions, ?_, fun sid' => ?_,
      h.rosters_of_ne hact hstart fun sid' hsid' => ?_⟩
    · rw [sessionEvents_append, openings_append]
      exact (List.append_nil _).symm ▸ h.once
    · rw [hrunning, Set.mem_sdiff, Set.mem_singleton_iff]
      by_cases hsid : sid' = sid
      · subst hsid
        rw [hgone]
        exact ⟨fun hsome => absurd hsome Bool.false_ne_true, fun hmem => absurd rfl hmem.2⟩
      · rw [hkept sid' hsid, h.running]
        exact ⟨fun hmem => ⟨hmem, hsid⟩, And.left⟩
    · rw [hrunning] at hsid'
      exact hkept sid' hsid'.2

/-- One change, where no host leaves a game. -/
theorem act (h : v.Told env sent) (hact : Act env v a w)
    (hclose : ∀ p r room, a = .closeRoom p r → v.rooms r = some room →
      room.state ≠ .inGame) : w.Told env (sent ++ a.announcement v) := by
  have hsessions : w.Sessions env (sessionEvents (sent ++ a.announcement v)) := by
    rw [sessionEvents_append]
    exact (h.sessions.follows hact h.indexed hclose).1
  by_cases hstart : ∃ p r sid, a = .start p r sid
  · obtain ⟨p, r, sid, rfl⟩ := hstart
    exact h.start hact hsessions
  · have hnot : ∀ p r sid, a ≠ .start p r sid := fun p r sid heq => hstart ⟨p, r, sid, heq⟩
    cases hended : a.ended v with
    | some sid => exact h.ended hact hsessions hended
    | none =>
        have hrunning := Registry.Sessions.running_other hact h.indexed hnot hended hclose
        rw [Action.announcement_other hnot hended, List.append_nil] at hsessions ⊢
        refine ⟨h.indexed.act hact, hsessions, h.once, fun sid => ?_,
          h.rosters_of_ne hact hnot fun _ _ => rfl⟩
        rw [h.running, hrunning]

theorem initial (env : Env) {σ : RoomServer} (h : σ.manager = {}) :
    σ.registry.Told env [] := by
  have hrunning : σ.registry.running = ∅ := by
    refine Set.eq_empty_iff_forall_notMem.2 ?_
    rintro sid ⟨r, room, hroom, -⟩
    rw [registry, h] at hroom
    cases hroom
  have hnone : ∀ r room, σ.registry.rooms r ≠ some room := by
    intro r room hroom
    rw [registry, h] at hroom
    cases hroom
  constructor
  · exact indexed_initial env σ h
  · refine ⟨fun r room hroom => absurd hroom (hnone r room),
      fun r r' room room' hroom => absurd hroom (hnone r room), ?_, ?_⟩
    · intro sid hsid
      cases hsid
    · rw [hrunning]
      exact Balanced.nil
  · exact List.nodup_nil
  · intro sid
    rw [hrunning]
    exact ⟨fun hsome => absurd hsome Bool.false_ne_true, fun hsid => hsid.elim⟩
  · exact fun r room hroom => absurd hroom (hnone r room)

end Registry.Told

/-- A step in which no host leaves a game, with the link to the Chat Server up. -/
theorem told_step {env : Env} {σ τ : RoomServer} {i : Input}
    (hchannel : env.chatChannel = true) (hstep : Step env σ i τ) (hlink : linkUp σ i = true)
    (hstays : hostStays env σ i = true) (hconnected : σ.backend.chat.connected = true)
    (h : σ.registry.Told env σ.backend.chat.sent) :
    τ.registry.Told env τ.backend.chat.sent := by
  obtain ⟨as, hrun⟩ := run_step hstep
  refine (hrun.invariant (I := fun x => x.backend.chat.connected = true ∧
    x.registry.Told env x.backend.chat.sent) ?_ ⟨hconnected, h⟩).2
  rintro x a y hchange ⟨hx, htold⟩
  obtain ⟨hy, hsent⟩ := chat_of_change hchannel hlink hchange hx
  refine ⟨hy, ?_⟩
  rw [hsent]
  refine htold.act hchange.1.act ?_
  rintro p r room rfl hroom
  obtain ⟨hp, hhost⟩ := hchange.1.act.closeRoom_inv hroom
  exact not_inGame_of_hostStays hstays hchange.2 hp hroom hhost

end Room

end SosBackend
