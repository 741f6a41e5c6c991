import SosBackend.Chat.Ended

/-!
# The table of the announced sessions

The Room Server tells the Chat Server which sessions begin, with whom, and which end. What
has been told makes a table: the sessions that have been announced and not ended since, with
their players. The channels of the Chat Server are that table. No client changes it,
whatever it sends, and neither does Redis.
-/

namespace SosBackend

namespace Chat

/-- The sessions that there are, with the players they have been announced for. -/
def SessionTable := String → Option (Set String)

namespace SessionTable

/-- No session has been announced. -/
def empty : SessionTable := fun _ => none

/-- What a message of the Room Server does to the table. -/
def tell (t : SessionTable) : ChatEnvelope → SessionTable
  | .sessionCreated message => Function.update t message.sessionId
      (some {p | ∃ player ∈ message.players, player.playerId = p})
  | .sessionEnded message => Function.update t message.sessionId none
  | _ => t

/-- The table after some messages. -/
def after (told : List ChatEnvelope) : SessionTable :=
  told.foldl tell empty

theorem after_concat (told : List ChatEnvelope) (envelope : ChatEnvelope) :
    after (told ++ [envelope]) = (after told).tell envelope := by
  unfold after
  rw [List.foldl_append]
  rfl

theorem tell_created_self (t : SessionTable) (message : SessionCreated) :
    t.tell (.sessionCreated message) message.sessionId =
      some {p | ∃ player ∈ message.players, player.playerId = p} :=
  Function.update_self _ _ _

theorem tell_created_of_ne (t : SessionTable) {message : SessionCreated} {sid : String}
    (h : sid ≠ message.sessionId) : t.tell (.sessionCreated message) sid = t sid :=
  Function.update_of_ne h _ _

theorem tell_ended_self (t : SessionTable) (message : SessionEnded) :
    t.tell (.sessionEnded message) message.sessionId = none :=
  Function.update_self _ _ _

theorem tell_ended_of_ne (t : SessionTable) {message : SessionEnded} {sid : String}
    (h : sid ≠ message.sessionId) : t.tell (.sessionEnded message) sid = t sid :=
  Function.update_of_ne h _ _

/-- A session in the table has been announced. -/
theorem exists_created {told : List ChatEnvelope} {sid : String}
    (h : (after told sid).isSome = true) :
    ∃ players, .sessionCreated ⟨sid, players⟩ ∈ told := by
  induction told using List.reverseRecOn with
  | nil => cases h
  | append_singleton told envelope ih =>
      have hold : (after told sid).isSome = true →
          ∃ players, .sessionCreated ⟨sid, players⟩ ∈ told ++ [envelope] := by
        intro hsome
        obtain ⟨players, hplayers⟩ := ih hsome
        exact ⟨players, List.mem_append_left _ hplayers⟩
      rw [after_concat] at h
      cases envelope with
      | sessionCreated message =>
          by_cases hsid : sid = message.sessionId
          · subst hsid
            exact ⟨message.players, List.mem_append_right _ List.mem_cons_self⟩
          · rw [tell_created_of_ne _ hsid] at h
            exact hold h
      | sessionEnded message =>
          by_cases hsid : sid = message.sessionId
          · subst hsid
            rw [tell_ended_self] at h
            cases h
          · rw [tell_ended_of_ne _ hsid] at h
            exact hold h
      | _ => exact hold h

end SessionTable

/-- The sessions that have a channel. -/
def Directory.table (v : Directory) : SessionTable :=
  fun sid => (v.channels sid).map Channel.expected

/-- What a placement does to the table. -/
def Placement.tell (t : SessionTable) : Placement → SessionTable
  | .openSession message => t.tell (.sessionCreated message)
  | .endSession sid => t.tell (.sessionEnded ⟨sid⟩)
  | _ => t

namespace Directory

variable {v w : Directory} {a : Placement}

theorem table_congr (h : w.channels = v.channels) : w.table = v.table := by
  unfold table
  rw [h]

/-- A channel that is put in its place, or taken away. -/
theorem table_update (sid : String) (channel : Option Channel)
    (h : w.channels = Function.update v.channels sid channel) :
    w.table = Function.update v.table sid (channel.map Channel.expected) := by
  funext x
  unfold table
  rw [h]
  by_cases hx : x = sid
  · subst hx
    rw [Function.update_self, Function.update_self]
  · rw [Function.update_of_ne hx, Function.update_of_ne hx]

theorem table_setMembers (v : Directory) (sid : String) (f : Set String → Set String) :
    (v.setMembers sid f).table = v.table := by
  refine (table_update (v := v) sid _ rfl).trans ?_
  rw [Option.map_map]
  exact Function.update_eq_self sid v.table

/-- What one placement does to the table. -/
theorem table_place (h : Place v a w) : w.table = a.tell v.table := by
  cases h with
  | @drop p state hp =>
      by_cases hsid : state.sessionId = ""
      · exact table_congr (if_pos hsid)
      · exact (table_congr (if_neg hsid)).trans (table_setMembers _ _ _)
  | enterLobby hp hsid hlobby => rfl
  | enterSession hp hsid hlobby hchannel => exact table_setMembers _ _ _
  | @openSession message =>
      exact table_update message.sessionId
        (some ⟨∅, {p | ∃ player ∈ message.players, player.playerId = p}⟩) rfl
  | @endSession sid hchannel => exact table_update sid none rfl

/-- Players who come and go keep the table. -/
theorem table_run {as : List Placement} (h : Run Place v as w)
    (has : ∀ a ∈ as, ∀ t : SessionTable, a.tell t = t) : w.table = v.table := by
  refine (h.and_of_forall has).invariant (I := fun w => w.table = v.table) ?_ rfl
  intro x a y hplace hx
  rw [table_place hplace.1, hplace.2, hx]

end Directory

/-- What an input tells the Chat Server. -/
def Input.tell (t : SessionTable) : Input → SessionTable
  | .internalMessage envelope => t.tell envelope
  | _ => t

open ChatServer

/-- One step changes the table by what the Room Server says in it, and by nothing else. -/
theorem table_step {env : Env} {σ τ : ChatServer} {i : Input} (h : Step env σ i τ) :
    τ.directory.table = i.tell σ.directory.table := by
  cases i with
  | connect s =>
      obtain ⟨-, rfl⟩ := Option.ite_some_none_eq_some.1 h
      rfl
  | message s envelope =>
      obtain ⟨-, rfl⟩ := Option.ite_some_none_eq_some.1 h
      cases envelope with
      | auth auth =>
          obtain ⟨as, hrun, has⟩ := run_handleAuth env auth s σ
          refine Directory.table_run hrun fun a ha t => ?_
          rcases has a ha with rfl | rfl | ⟨rfl, -⟩
          · rfl
          · rfl
          · rfl
      | send message => exact congrArg Directory.table (directory_processSend env s message σ)
      | _ => rfl
  | close s =>
      obtain ⟨-, rfl⟩ := Option.ite_some_none_eq_some.1 h
      obtain ⟨as, hrun, has⟩ := run_closeSession s σ
      refine Directory.table_run hrun fun a ha t => ?_
      rw [has a ha]
      rfl
  | released s =>
      obtain ⟨-, rfl⟩ := Option.ite_some_none_eq_some.1 h
      rfl
  | internalMessage envelope =>
      obtain rfl := Option.some.inj h
      cases envelope with
      | sessionCreated message =>
          exact Directory.table_place (place_handleSessionCreated env message σ)
      | sessionEnded message =>
          rcases run_handleSessionEnded env message σ with ⟨hnone, heq⟩ | hplace
          · -- there is no channel to take away
            refine (congrArg Directory.table heq).trans ?_
            funext sid
            by_cases hsid : sid = message.sessionId
            · subst hsid
              rw [Input.tell, SessionTable.tell_ended_self, Directory.table, hnone]
              rfl
            · exact (SessionTable.tell_ended_of_ne _ hsid).symm
          · exact Directory.table_place hplace
      | _ => rfl
  | clock now =>
      obtain rfl := Option.some.inj h
      rfl
  | tick seconds =>
      obtain rfl := Option.some.inj h
      rfl

end Chat

end SosBackend
