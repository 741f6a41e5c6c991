import SosBackend.Chat.SharedRedis
import SosBackend.Deployment
import SosBackend.Room.SharedRedis

/-!
# The two servers on one Redis

The servers are deployed with one Redis between them, on which each has a connection of its
own. Their keys begin differently, so neither can tell that the other one is there: a run on
the one Redis is a run in which each server has a Redis to itself, and what holds of those
runs holds of the deployment.
-/

namespace SosBackend

/-- A deployment in which both servers see one keyspace. -/
structure SharedDeployment extends Deployment where
  shared : chat.redis.store = room.backend.redis.store

namespace SharedDeployment

open Deployment (Event)

/-- Both servers see what the Room Server has left. -/
def ofRoom (x : Deployment) : SharedDeployment :=
  ⟨{ x with chat := { x.chat with
      redis := { x.chat.redis with store := x.room.backend.redis.store } } }, rfl⟩

/-- Both servers see what the Chat Server has left. -/
def ofChat (x : Deployment) : SharedDeployment :=
  ⟨{ x with room := x.room.withBackend fun b =>
      { b with redis := { b.redis with store := x.chat.redis.store } } }, rfl⟩

/-- The Chat Server acts. -/
def actsInChat : Event → Bool
  | .handle _ => true
  | .internal => true
  | .chat _ => true
  | _ => false

/-- One step of a server or of a link, if it is enabled. Time passes for both servers in a
`tick` of the Room Server. -/
def step (env : DeploymentEnv) (x : SharedDeployment) (e : Event) : Option SharedDeployment :=
  match e with
  | .chat (.tick _) => none
  | _ => (Deployment.step env x.toDeployment e).map (if actsInChat e then ofChat else ofRoom)

/-- The steps as a relation. -/
def Step (env : DeploymentEnv) (x : SharedDeployment) (e : Event) (y : SharedDeployment) : Prop :=
  step env x e = some y

/-- The servers at their start. -/
def initial (store : Redis.Keyspace) : SharedDeployment :=
  ⟨Deployment.initial store store, rfl⟩

/-- The steps of the servers that have a Redis each. -/
def separately : Event → List Event
  | .room (.tick seconds) => [.room (.tick seconds), .chat (.tick seconds)]
  | e => [e]

/-- The same deployment, but for what is in Redis under the keys of the other server. -/
def Splits (x : SharedDeployment) (y : Deployment) : Prop :=
  ∃ room chat, y = { x.toDeployment with room := room, chat := chat } ∧
    Room.Alike Room.agreeing x.room room ∧ Chat.Agrees x.chat chat

/-!
## Keys
-/

theorem not_mem_chatKeys {key : String} (h : key ∈ Room.redisKeys) :
    key ∉ Chat.redisKeys := by
  rintro ⟨x, hx⟩
  have hne : ∀ pre ∈ ["rate:", "token:", "game_server:"], 1 ≤ pre.toList.length ∧
      pre.toList.take 1 ≠ "chat:".toList.take 1 := by
    decide
  have hother : ∀ pre ∈ ["rate:", "token:", "game_server:"], ∀ y, key ≠ pre ++ y := by
    rintro pre hpre y rfl
    obtain ⟨hlength, htake⟩ := hne pre hpre
    exact Chat.append_ne_append 1 hlength (by decide) htake _ _ hx
  rcases h with rfl | ⟨y, hy | hy | hy⟩
  · have hactive : Room.activeSessionsKey ++ "" ≠ "chat:" ++ x :=
      Chat.append_ne_append 1 (by decide) (by decide) (by decide) _ _
    exact hactive hx
  · exact hother _ (by decide) y hy
  · exact hother _ (by decide) y hy
  · exact hother _ (by decide) y hy

theorem not_mem_roomKeys {key : String} (h : key ∈ Chat.redisKeys) :
    key ∉ Room.redisKeys :=
  fun hroom => not_mem_chatKeys hroom h

/-!
## Steps
-/

section steps

variable {env : DeploymentEnv} {x x' : SharedDeployment} {y z : Deployment} {e : Event}
  {room : Room.RoomServer} {chat : Chat.ChatServer}

/-- What the Room Server leaves under its keys does not show in the chat. -/
theorem splits_ofRoom (hz : z.chat = x.chat)
    (hleft : x.room.backend.redis.store.Agree Chat.redisKeys z.room.backend.redis.store)
    (hroom : Room.Alike Room.agreeing z.room room) (hchat : Chat.Agrees x.chat chat) :
    (ofRoom z).Splits { z with room := room, chat := chat } := by
  refine ⟨room, chat, rfl, hroom, ?_⟩
  rw [← x.shared] at hleft
  have hstore := hchat.withStore hleft
  rw [← hz] at hstore
  exact hstore

/-- What the Chat Server leaves under its keys does not show in the rooms. -/
theorem splits_ofChat (hz : z.room = x.room)
    (hleft : x.chat.redis.store.Agree Room.redisKeys z.chat.redis.store)
    (hroom : Room.Alike Room.agreeing x.room room) (hchat : Chat.Agrees z.chat chat) :
    (ofChat z).Splits { z with room := room, chat := chat } := by
  refine ⟨room, chat, rfl, ?_, hchat⟩
  rw [x.shared] at hleft
  have hstore := hroom.withStore hleft
  rw [← hz] at hstore
  exact hstore

/-- A step of the Chat Server. -/
theorem splits_chat (hlimiter : env.chat.CountsApart) (hroom : Room.Alike Room.agreeing x.room room)
    (hchat : Chat.Agrees x.chat chat) {i : Chat.Input} {chat' : Chat.ChatServer}
    (hstep : Chat.Step env.chat x.chat i chat') (htick : ∀ seconds, i ≠ .tick seconds)
    (taken : ℕ) (handled : SessionPtr → ℕ) :
    ∃ chat'', Chat.Step env.chat chat i chat'' ∧
      (ofChat { x.toDeployment with chat := chat', taken := taken, handled := handled }).Splits
        { x.toDeployment with
          room := room, chat := chat'', taken := taken, handled := handled } := by
  obtain ⟨hleft, chat'', hstep', hchat'⟩ := hchat.step hlimiter hstep htick
  refine ⟨chat'', hstep', splits_ofChat rfl ?_ hroom hchat'⟩
  exact hleft.mono fun key hkey => not_mem_chatKeys hkey

/-- What a step on the one Redis is for the servers. -/
theorem step_inv (h : Step env x e x') :
    (∀ seconds, e ≠ .chat (.tick seconds)) ∧ ∃ z, Deployment.Step env x.toDeployment e z ∧
      x' = (if actsInChat e then ofChat else ofRoom) z := by
  unfold Step step at h
  split at h
  · cases h
  next hne =>
  obtain ⟨z, hz, rfl⟩ := Option.map_eq_some_iff.1 h
  exact ⟨hne, z, hz, rfl⟩

/-- Time passes for both. -/
theorem splits_tick (h : x.Splits y) {seconds : ℕ} (hstep : Step env x (.room (.tick seconds)) x') :
    ∃ y', Run (Deployment.Step env) y [.room (.tick seconds), .chat (.tick seconds)] y' ∧
      x'.Splits y' := by
  obtain ⟨room, chat, rfl, hroom, hchat⟩ := h
  obtain ⟨-, z, hz, rfl⟩ := step_inv hstep
  obtain ⟨hi, room₁, hroom₁, rfl⟩ := Deployment.step_room.1 hz
  obtain ⟨room₂, hroom₂, halike⟩ := Room.step_agreeing hroom hroom₁
  have hfirst : Deployment.Step env { x.toDeployment with room := room, chat := chat }
      (.room (.tick seconds)) { x.toDeployment with room := room₂, chat := chat } :=
    Deployment.step_room.2 ⟨hi, room₂, hroom₂, rfl⟩
  refine ⟨_, Run.cons hfirst (Run.single rfl), room₂, _, rfl, halike, ?_⟩
  obtain rfl := Option.some.inj hroom₁
  have htick := hchat.tick seconds
  rw [x.shared] at htick
  exact htick

/-- One step on the one Redis is one on a Redis each, or two where time passes. -/
theorem splits_step (hlimiter : env.chat.CountsApart) (hstep : Step env x e x')
    (h : x.Splits y) : ∃ y', Run (Deployment.Step env) y (separately e) y' ∧ x'.Splits y' := by
  obtain ⟨htick, z, hz, rfl⟩ := step_inv hstep
  have hsplits := h
  obtain ⟨room, chat, rfl, hroom, hchat⟩ := h
  cases e with
  | room i =>
      by_cases hi : ∃ seconds, i = .tick seconds
      · obtain ⟨seconds, rfl⟩ := hi
        exact splits_tick hsplits hstep
      · rw [not_exists] at hi
        obtain ⟨hkeeps, room₁, hroom₁, rfl⟩ := Deployment.step_room.1 hz
        obtain ⟨room₂, hroom₂, halike⟩ := Room.step_agreeing hroom hroom₁
        have hleft := Room.agree_step (fun _ => not_mem_roomKeys) hroom₁ hi
        have hsep : separately (.room i) = [.room i] := by
          unfold separately
          split
          · next seconds heq => exact absurd (Event.room.inj heq) (hi seconds)
          · rfl
        rw [hsep]
        refine ⟨_, Run.single ?_, splits_ofRoom rfl hleft halike hchat⟩
        exact Deployment.step_room.2 ⟨hkeeps, room₂, hroom₂, rfl⟩
  | receive c =>
      obtain ⟨hlt, rfl⟩ := Option.ite_some_none_eq_some.1 hz
      have hsent : room.sent = x.room.sent := by
        obtain ⟨o, rfl, -⟩ := hroom
        rfl
      refine ⟨_, Run.single ?_, splits_ofRoom rfl (Redis.Keyspace.Agree.refl _ _) hroom hchat⟩
      unfold Deployment.outbox at hlt
      rw [← hsent] at hlt
      exact if_pos hlt
  | write s envelope =>
      obtain rfl := Option.some.inj hz
      exact ⟨_, Run.single rfl, splits_ofRoom rfl (Redis.Keyspace.Agree.refl _ _) hroom hchat⟩
  | handle s =>
      obtain ⟨envelope, hnext, hsome⟩ := Option.bind_eq_some_iff.1 hz
      obtain ⟨chat₁, hchat₁, rfl⟩ := Option.map_eq_some_iff.1 hsome
      obtain ⟨chat₂, hchat₂, hafter⟩ := splits_chat hlimiter hroom hchat hchat₁
        (fun _ heq => by cases heq) x.taken (Function.update x.handled s (x.handled s + 1))
      refine ⟨_, Run.single ?_, hafter⟩
      exact Option.bind_eq_some_iff.2
        ⟨envelope, hnext, Option.map_eq_some_iff.2 ⟨chat₂, hchat₂, rfl⟩⟩
  | internal =>
      obtain ⟨envelope, hnext, hsome⟩ := Option.bind_eq_some_iff.1 hz
      obtain ⟨chat₁, hchat₁, rfl⟩ := Option.map_eq_some_iff.1 hsome
      obtain ⟨chat₂, hchat₂, hafter⟩ := splits_chat hlimiter hroom hchat hchat₁
        (fun _ heq => by cases heq) (x.taken + 1) x.handled
      have hannounced : room.backend.chat.sent = x.room.backend.chat.sent := by
        obtain ⟨o, rfl, -⟩ := hroom
        rfl
      refine ⟨_, Run.single ?_, hafter⟩
      unfold Deployment.announced at hnext
      rw [← hannounced] at hnext
      exact Option.bind_eq_some_iff.2
        ⟨envelope, hnext, Option.map_eq_some_iff.2 ⟨chat₂, hchat₂, rfl⟩⟩
  | chat i =>
      obtain ⟨hlocal, hsome⟩ := Option.ite_none_right_eq_some.1 hz
      obtain ⟨chat₁, hchat₁, rfl⟩ := Option.map_eq_some_iff.1 hsome
      obtain ⟨chat₂, hchat₂, hafter⟩ := splits_chat hlimiter hroom hchat hchat₁
        (fun seconds heq => htick seconds (congrArg Event.chat heq)) x.taken x.handled
      refine ⟨_, Run.single ?_, hafter⟩
      exact Option.ite_none_right_eq_some.2
        ⟨hlocal, Option.map_eq_some_iff.2 ⟨chat₂, hchat₂, rfl⟩⟩

/-- A run on one Redis is a run on a Redis each. -/
theorem separate_of_run {store : Redis.Keyspace} {es : List Event}
    (hlimiter : env.chat.CountsApart) (h : Run (Step env) (initial store) es x) :
    ∃ y, Run (Deployment.Step env) (Deployment.initial store store) (es.flatMap separately) y ∧
      x.Splits y := by
  refine h.simulates_runs (fun _ _ _ _ hstep => splits_step hlimiter hstep) ?_
  refine ⟨_, _, rfl, ⟨_, rfl, ⟨?_, Redis.Keyspace.Agree.refl _ _⟩, rfl⟩, _, rfl, rfl, ?_⟩
  · rfl
  · exact Redis.Keyspace.Agree.refl _ _

end steps

/-- A game starts, and its player enters the chat later on and says something. -/
def startThenChat : List Event :=
  [.room (.connect 0 "10.0.0.1"), .room (.clientMessage 0 (.createRoom ⟨"p", "P", "room", 4⟩)),
    .room (.clientMessage 0 .startGame), .internal, .receive 0, .receive 0,
    .room (.tick 30), .chat (.connect 0), .write 0 (.auth Deployment.sampleAuth), .handle 0,
    .write 0 (.send ⟨.all, "hi", ""⟩), .handle 0]

theorem separate_of_run_startThenChat : ∃ x y,
    Run (Step Deployment.defaultEnv) (initial {}) startThenChat x ∧
      Run (Deployment.Step Deployment.defaultEnv) (Deployment.initial {} {})
        (startThenChat.flatMap separately) y ∧ x.Splits y := by
  obtain ⟨x, hrun, -⟩ := exists_run_of_exec (fun _ _ => true) (step Deployment.defaultEnv)
    (initial {}) startThenChat (fun _ => true) (by decide +kernel)
  have hlimiter : Deployment.defaultEnv.chat.CountsApart := by
    rintro limiter hsome
    cases hsome
    rfl
  obtain ⟨y, hseparate, hsplits⟩ := separate_of_run hlimiter hrun.of_guarded
  exact ⟨x, y, hrun.of_guarded, hseparate, hsplits⟩

end SharedDeployment

end SosBackend
