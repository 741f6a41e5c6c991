import SosBackend.Room.EventLoop

/-!
# What the handlers of a session do

A handler of a session leaves the other sessions alone. It ends at most one read of its
own session and starts at most one, and the read that it starts is on a session that is
open or was closed before. That is the invariant `Orderly`: a closed session that still
reads has forgotten its player. Whatever the handlers do to the server is a run of it.
-/

namespace SosBackend

namespace Room

open RoomServer Protocol

variable {env : Env} {σ : RoomServer} {s : SessionPtr}

/-!
## Whom a message concerns
-/

/-- The connection that a change writes to. -/
def Action.client : Action → Option SessionPtr
  | .create _ s _ => some s
  | .join _ s => some s
  | .accept s _ => some s
  | .shut s => some s
  | .clear s => some s
  | .expire s => some s
  | _ => none

theorem Act.clients_of_ne {v w : Registry} {a : Action} {t : SessionPtr} (h : Act env v a w)
    (ht : a.client ≠ some t) : w.clients t = v.clients t := by
  have hne : ∀ {s : SessionPtr}, some s ≠ some t → t ≠ s := by
    intro s hs heq
    exact hs (congrArg some heq.symm)
  cases h with
  | create hadmits hcount hmin hmax => exact Function.update_of_ne (hne ht) _ _
  | join hadmits hroom hstate hfull => exact Function.update_of_ne (hne ht) _ _
  | accept hunborn => exact Function.update_of_ne (hne ht) _ _
  | shut hopen => exact Function.update_of_ne (hne ht) _ _
  | clear hclosed => exact Function.update_of_ne (hne ht) _ _
  | expire hclosed => exact Function.update_of_ne (hne ht) _ _
  | _ => rfl

/-- A change that is part of a message leaves its connection alive. -/
theorem Act.client_message {v w : Registry} {a : Action} (h : Act env v a w)
    (haccept : ∀ remoteIp, a ≠ .accept s remoteIp) (hexpire : a ≠ .expire s)
    (ha : a.client = some s) :
    (w.clients s).lifetime = (v.clients s).lifetime ∧
      ((v.clients s).closed = true → (w.clients s).closed = true) := by
  -- the record is written anew, with both fields as they were or closed
  have hupdate : ∀ {f : SessionPtr → ClientSession} {c : ClientSession},
      f = Function.update v.clients s c → c.lifetime = (v.clients s).lifetime →
      ((v.clients s).closed = true → c.closed = true) →
      (f s).lifetime = (v.clients s).lifetime ∧
        ((v.clients s).closed = true → (f s).closed = true) := by
    intro f c hf hlifetime hclosed
    rw [hf, Function.update_self]
    exact ⟨hlifetime, hclosed⟩
  cases h with
  | create hadmits hcount hmin hmax =>
      cases ha
      exact hupdate rfl rfl id
  | join hadmits hroom hstate hfull =>
      cases ha
      exact hupdate rfl rfl id
  | accept hunborn =>
      cases ha
      exact absurd rfl (haccept _)
  | shut hopen =>
      cases ha
      exact hupdate rfl rfl fun _ => rfl
  | clear hclosed =>
      cases ha
      exact hupdate rfl rfl id
  | expire hclosed =>
      cases ha
      exact absurd rfl hexpire
  | _ => cases ha

theorem client_of_closing {i : Input} (h : closing env σ i = some s) : i.client = some s := by
  cases i with
  | clientMessage t envelope => exact congrArg some (Option.ite_some_none_eq_some.1 h).2
  | clientClose t => exact h
  | _ => cases h

theorem client_of_cause {i : Input} {x : RoomServer} {a : Action} (h : Cause env σ i x a)
    (ha : a.client = some s) : i.client = some s := by
  cases a with
  | create request t r =>
      obtain ⟨rfl, -⟩ := h
      exact ha
  | join request t =>
      obtain ⟨rfl, -⟩ := h
      exact ha
  | accept t remoteIp =>
      obtain rfl := h
      exact ha
  | expire t =>
      obtain rfl := h
      exact ha
  | shut t =>
      cases ha
      exact client_of_closing h
  | clear t =>
      cases ha
      exact client_of_closing h
  | _ => cases ha

/-- What an input does concerns no other session object. -/
theorem clients_of_changes {i : Input} {x y : RoomServer} {as : List Action}
    (h : Run (Change env σ i) x as y) {t : SessionPtr} (ht : i.client ≠ some t) :
    y.clients t = x.clients t := by
  refine h.relates (Q := fun x y => y.clients t = x.clients t) ?_ ?_ ?_
  · intro x
    rfl
  · intro x y z hxy hyz
    exact hyz.trans hxy
  · intro x a y hchange
    apply hchange.1.act.clients_of_ne
    intro ha
    exact ht (client_of_cause hchange.2 ha)

/-- A message leaves its session alive, and closed if it was closed. -/
theorem client_processMessage (env : Env) (σ : RoomServer) (s : SessionPtr) (envelope : Envelope) :
    ((σ.processMessage env s envelope).clients s).lifetime = (σ.clients s).lifetime ∧
      ((σ.clients s).closed = true →
        ((σ.processMessage env s envelope).clients s).closed = true) := by
  obtain ⟨as, hrun⟩ := run_processMessage env σ s envelope
  refine hrun.relates (Q := fun x y => (y.clients s).lifetime = (x.clients s).lifetime ∧
    ((x.clients s).closed = true → (y.clients s).closed = true)) ?_ ?_ ?_
  · intro x
    exact ⟨rfl, id⟩
  · intro x y z hxy hyz
    exact ⟨hyz.1.trans hxy.1, fun h => hyz.2 (hxy.2 h)⟩
  · intro x a y hchange
    have hcause := hchange.2
    have hact := hchange.1.act
    by_cases ha : a.client = some s
    · exact hact.client_message (fun remoteIp hi => by cases hi ▸ hcause)
        (fun hi => by cases hi ▸ hcause) ha
    · have hsame : y.clients s = x.clients s := hact.clients_of_ne ha
      rw [hsame]
      exact ⟨rfl, id⟩

/-!
## Handlers
-/

def Handler.isRead : Handler → Bool
  | .read _ => true
  | _ => false

/-- The reads of a session that are outstanding or whose handler is queued. -/
def Pending.reads (p : Pending) : ℕ :=
  (if p.reading then 1 else 0) + p.ready.countP Handler.isRead

namespace EventLoop

/-- What a handler of `s` leaves alone: the other sessions, and that `s` is there and has
been closed. -/
structure Touches (s : SessionPtr) (l l' : EventLoop) : Prop where
  others : ∀ t, t ≠ s → l'.pending t = l.pending t ∧ l'.server.clients t = l.server.clients t
  lifetime : (l'.server.clients s).lifetime = (l.server.clients s).lifetime
  closed : (l.server.clients s).closed = true → (l'.server.clients s).closed = true

theorem Touches.trans {s : SessionPtr} {l l' l'' : EventLoop} (h : Touches s l l')
    (h' : Touches s l' l'') : Touches s l l'' := by
  refine ⟨?_, h'.lifetime.trans h.lifetime, fun hclosed => h'.closed (h.closed hclosed)⟩
  intro t ht
  obtain ⟨hpending, hclient⟩ := h.others t ht
  obtain ⟨hpending', hclient'⟩ := h'.others t ht
  exact ⟨hpending'.trans hpending, hclient'.trans hclient⟩

theorem touches_update (l : EventLoop) (s : SessionPtr) (f : Pending → Pending) :
    Touches s l (l.update s f) := by
  refine ⟨?_, rfl, id⟩
  intro t ht
  exact ⟨pending_update_of_ne l f ht, rfl⟩

theorem cancelTimer_spec (s : SessionPtr) (l : EventLoop) :
    Touches s l (l.cancelTimer s) ∧ (l.cancelTimer s).server = l.server ∧
      ((l.cancelTimer s).pending s).reads = (l.pending s).reads := by
  rcases cancelTimer_eq s l with h | h
  · rw [h]
    exact ⟨⟨fun _ _ => ⟨rfl, rfl⟩, rfl, id⟩, rfl, rfl⟩
  · rw [h]
    refine ⟨touches_update l s _, rfl, ?_⟩
    rw [pending_update_self, Pending.reads, Pending.reads, List.countP_append]
    rfl

/-- A handler's step: its session loses no read and gains none, and the others stay. -/
structure Spares (s : SessionPtr) (l l' : EventLoop) : Prop where
  touches : Touches s l l'
  reads : (l'.pending s).reads = (l.pending s).reads

theorem Spares.trans {s : SessionPtr} {l l' l'' : EventLoop} (h : Spares s l l')
    (h' : Spares s l' l'') : Spares s l l'' :=
  ⟨h.touches.trans h'.touches, h'.reads.trans h.reads⟩

/-- The server may go on under the loop. -/
theorem Spares.withServer {s : SessionPtr} {l l' : EventLoop} (h : Spares s l l')
    {server : RoomServer} (hclients : ∀ t, t ≠ s → server.clients t = l.server.clients t)
    (hlifetime : (server.clients s).lifetime = (l.server.clients s).lifetime)
    (hclosed : (l.server.clients s).closed = true → (server.clients s).closed = true) :
    Spares s l { l' with server := server } := by
  refine ⟨⟨?_, hlifetime, hclosed⟩, h.reads⟩
  intro t ht
  exact ⟨(h.touches.others t ht).1, hclients t ht⟩

theorem spares_setCodec (s : SessionPtr) (c : Codec) (l : EventLoop) :
    Spares s l (l.setCodec s c) := by
  refine ⟨touches_update l s _, ?_⟩
  rw [setCodec, pending_update_self]
  rfl

theorem spares_cancelTimer (s : SessionPtr) (l : EventLoop) : Spares s l (l.cancelTimer s) := by
  obtain ⟨htouches, -, hreads⟩ := cancelTimer_spec s l
  exact ⟨htouches, hreads⟩

theorem spares_resetHeartbeatTimer (w : LoopEnv) (s : SessionPtr) (l : EventLoop) :
    Spares s l (l.resetHeartbeatTimer w s) ∧ (l.resetHeartbeatTimer w s).server = l.server := by
  unfold resetHeartbeatTimer
  split
  · exact ⟨⟨⟨fun _ _ => ⟨rfl, rfl⟩, rfl, id⟩, rfl⟩, rfl⟩
  · obtain ⟨htouches, hserver, hreads⟩ := cancelTimer_spec s l
    refine ⟨⟨htouches.trans (touches_update _ s _), ?_⟩, hserver⟩
    rw [pending_update_self, ← hreads]
    rfl

/-- A close makes the session forget its player. -/
theorem spares_close (s : SessionPtr) (l : EventLoop) :
    Spares s l (l.close s) ∧ ((l.close s).server.clients s).closed = true ∧
      ((l.server.clients s).closed = false →
        ((l.close s).server.clients s).playerId = "") := by
  unfold close
  cases hclosed : (l.server.clients s).closed with
  | true =>
      rw [if_pos rfl]
      exact ⟨⟨⟨fun _ _ => ⟨rfl, rfl⟩, rfl, id⟩, rfl⟩, hclosed, fun h => by cases h⟩
  | false =>
      rw [if_neg Bool.false_ne_true]
      have hclients : (l.server.closeClient s).clients = Function.update l.server.clients s
          { l.server.clients s with closed := true, playerId := "" } :=
        (closed_closeClient defaultEnv hclosed).clients
      have hself : (l.server.closeClient s).clients s =
          { l.server.clients s with closed := true, playerId := "" } := by
        rw [hclients, Function.update_self]
      refine ⟨(spares_cancelTimer s l).withServer ?_ ?_ ?_, ?_, ?_⟩
      · intro t ht
        rw [hclients, Function.update_of_ne ht]
      · rw [hself]
      · intro h
        cases hclosed.symm.trans h
      · exact congrArg ClientSession.closed hself
      · intro _
        exact congrArg ClientSession.playerId hself

theorem server_processMessage (w : LoopEnv) (s : SessionPtr) (envelope : Envelope)
    (l : EventLoop) :
    (l.processMessage w s envelope).server = l.server.processMessage w.env s envelope := by
  unfold processMessage
  simp only
  split
  · rfl
  · rfl

theorem spares_processMessage (w : LoopEnv) (s : SessionPtr) (envelope : Envelope)
    (l : EventLoop) : Spares s l (l.processMessage w s envelope) := by
  have hclients : ∀ t, t ≠ s →
      (l.server.processMessage w.env s envelope).clients t = l.server.clients t := by
    intro t ht
    obtain ⟨as, hrun⟩ := run_processMessage w.env l.server s envelope
    apply clients_of_changes hrun
    intro heq
    exact ht (Option.some.inj heq).symm
  obtain ⟨hlifetime, hclosed⟩ := client_processMessage w.env l.server s envelope
  unfold processMessage
  simp only
  split
  · exact (spares_cancelTimer s l).withServer hclients hlifetime hclosed
  · have hrefl : Spares s l l := ⟨⟨fun _ _ => ⟨rfl, rfl⟩, rfl, id⟩, rfl⟩
    exact hrefl.withServer hclients hlifetime hclosed

/-- What the loop over the buffer does: it processes a message on a closed session only as
its first, and goes on to read only on an open session or without having processed any. -/
structure Drains (w : LoopEnv) (s : SessionPtr) (l : EventLoop)
    (result : List (RoomServer × Envelope) × Bool × EventLoop) : Prop where
  spares : Spares s l result.2.2
  first : ∀ σ envelope, (σ, envelope) ∈ result.1 → (σ.clients s).closed = true →
    σ = l.server ∧ (tryDecode w.messages (l.pending s).codec).1 = some envelope
  goesOn : result.2.1 = false → (result.2.2.server.clients s).closed = false ∨
    result.2.2.server = l.server

theorem drains_processBuffer (w : LoopEnv) (s : SessionPtr) (l : EventLoop) :
    Drains w s l (l.processBuffer w s) := by
  fun_induction processBuffer w s l with
  | case1 l c h =>
      refine ⟨spares_setCodec s c l, ?_, fun _ => Or.inr rfl⟩
      intro σ envelope hmem
      cases hmem
  | case2 l envelope c h next hclosed =>
      refine ⟨(spares_setCodec s c l).trans (spares_processMessage w s envelope _), ?_, ?_⟩
      · intro σ envelope' hmem _
        cases List.mem_singleton.1 hmem
        exact ⟨rfl, congrArg Prod.fst h⟩
      · intro hgoes
        cases hgoes
  | case3 l envelope c h next hopen ih =>
      have hnext : Spares s l next :=
        (spares_setCodec s c l).trans (spares_processMessage w s envelope _)
      have hopen' : (next.server.clients s).closed = false := by simpa using hopen
      refine ⟨hnext.trans ih.spares, ?_, ?_⟩
      · intro σ envelope' hmem hclosed
        rcases List.mem_cons.1 hmem with heq | hmem
        · cases heq
          exact ⟨rfl, congrArg Prod.fst h⟩
        · -- the session was open when the first message had been processed
          rw [(ih.first σ envelope' hmem hclosed).1] at hclosed
          cases hopen'.symm.trans hclosed
      · intro hgoes
        left
        rcases ih.goesOn hgoes with hstays | hsame
        · exact hstays
        · rw [hsame]
          exact hopen'

/-- The loop processes a message that it decodes, whether the session is closed or not. -/
theorem mem_processBuffer {w : LoopEnv} {s : SessionPtr} {l : EventLoop} {envelope : Envelope}
    (hdecode : (tryDecode w.messages (l.pending s).codec).1 = some envelope) :
    (l.server, envelope) ∈ (l.processBuffer w s).1 := by
  unfold processBuffer
  split
  · next h =>
      rw [h] at hdecode
      cases hdecode
  · next h =>
      rw [h] at hdecode
      cases hdecode
      simp only
      split
      · exact List.mem_cons_self
      · exact List.mem_cons_self

/-!
## The invariant
-/

/-- What is in flight for a session: only a session that is there has operations, it has
at most one read, and a closed session with a read has forgotten its player. -/
structure Orderly (l : EventLoop) (s : SessionPtr) : Prop where
  held : (l.server.clients s).lifetime ≠ .alive → (l.pending s).reading = false ∧
    (l.pending s).waiting = false ∧ (l.pending s).ready = []
  single : (l.pending s).reads ≤ 1
  cleared : (l.server.clients s).closed = true → (l.pending s).reads ≠ 0 →
    (l.server.clients s).playerId = ""

theorem Orderly.congr {s : SessionPtr} {l l' : EventLoop} (h : l.Orderly s)
    (hpending : l'.pending s = l.pending s)
    (hclient : l'.server.clients s = l.server.clients s) : l'.Orderly s := by
  refine ⟨?_, ?_, ?_⟩
  · rw [hclient, hpending]
    exact h.held
  · rw [hpending]
    exact h.single
  · rw [hclient, hpending]
    exact h.cleared

/-- The session of a queued handler is there. -/
theorem Orderly.alive {s : SessionPtr} {l : EventLoop} (h : l.Orderly s) {handler : Handler}
    (hmem : handler ∈ (l.pending s).ready) : (l.server.clients s).lifetime = .alive := by
  by_contra halive
  rw [(h.held halive).2.2] at hmem
  cases hmem

theorem mem_ready_read_pos {p : Pending} {data : Option (List UInt8)}
    (hmem : .read data ∈ p.ready) : 0 < p.ready.countP Handler.isRead :=
  List.countP_pos_iff.2 ⟨.read data, hmem, rfl⟩

/-- The queue without a handler. -/
theorem reads_dequeue {l : EventLoop} {s : SessionPtr} {h : Handler}
    (hmem : h ∈ (l.pending s).ready) :
    ((l.dequeue s h).pending s).reads + (if h.isRead then 1 else 0) = (l.pending s).reads := by
  have hcount := (List.perm_cons_erase hmem).countP_eq Handler.isRead
  rw [List.countP_cons] at hcount
  rw [dequeue, pending_update_self, Pending.reads, Pending.reads, hcount, Nat.add_assoc]

theorem spares_dequeue_of_not_read {l : EventLoop} {s : SessionPtr} {h : Handler}
    (hmem : h ∈ (l.pending s).ready) (hread : h.isRead = false) :
    Spares s l (l.dequeue s h) := by
  refine ⟨touches_update l s _, ?_⟩
  have hreads := reads_dequeue hmem
  rw [hread] at hreads
  exact hreads

/-- A handler that reads no more data keeps the order. -/
theorem Orderly.spares {s : SessionPtr} {l l' : EventLoop} (h : l.Orderly s)
    (halive : (l.server.clients s).lifetime = .alive) (hspares : Spares s l l')
    (hid : (l'.server.clients s).closed = true →
      (l'.server.clients s).playerId = "" ∨ l'.server.clients s = l.server.clients s) :
    l'.Orderly s := by
  refine ⟨?_, ?_, ?_⟩
  · intro hgone
    rw [hspares.touches.lifetime] at hgone
    exact absurd halive hgone
  · rw [hspares.reads]
    exact h.single
  · intro hclosed hreads
    rcases hid hclosed with hempty | hsame
    · exact hempty
    · rw [hsame] at hclosed ⊢
      rw [hspares.reads] at hreads
      exact h.cleared hclosed hreads

theorem playerId_close {s : SessionPtr} {l l' : EventLoop} (hl : l'.server = l.server) :
    ((l'.close s).server.clients s).closed = true →
      ((l'.close s).server.clients s).playerId = "" ∨
        (l'.close s).server.clients s = l.server.clients s := by
  intro _
  cases hclosed : (l'.server.clients s).closed with
  | false => exact Or.inl ((spares_close s l').2.2 hclosed)
  | true =>
      right
      rw [close, if_pos hclosed, hl]

/-- A read handler takes the one read of its session, and starts another at most. -/
theorem orderly_onRead {w : LoopEnv} {s : SessionPtr} {l : EventLoop}
    {data : Option (List UInt8)} (h : l.Orderly s) (hmem : .read data ∈ (l.pending s).ready) :
    (((l.dequeue s (.read data)).onRead w s data).2).Orderly s := by
  have halive := h.alive hmem
  have hreads := reads_dequeue hmem
  have hsingle := h.single
  have hpos := mem_ready_read_pos hmem
  have hzero : ((l.dequeue s (.read data)).pending s).reads = 0 := by
    simp only [Handler.isRead, if_true] at hreads
    omega
  have hreads' : (l.pending s).reads ≠ 0 := by
    rw [Pending.reads]
    omega
  generalize hx : l.dequeue s (.read data) = x at hzero ⊢
  have hserver : x.server = l.server := by
    rw [← hx]
    rfl
  have hxalive : (x.server.clients s).lifetime = .alive := by
    rw [hserver]
    exact halive
  have hx' : x.Orderly s := by
    refine ⟨fun hgone => absurd hxalive hgone, ?_, fun _ hne => absurd hzero hne⟩
    rw [hzero]
    exact Nat.zero_le 1
  cases data with
  | none => exact hx'.spares hxalive (spares_close s x).1 (playerId_close rfl)
  | some chunk =>
      have hdrains := drains_processBuffer w s (x.setCodec s (feed (x.pending s).codec chunk))
      have hspares := (spares_setCodec s (feed (x.pending s).codec chunk) x).trans hdrains.spares
      simp only [onRead]
      generalize processBuffer w s (x.setCodec s (feed (x.pending s).codec chunk)) = result
        at hdrains hspares ⊢
      have hnone : (result.2.2.pending s).reads = 0 := hspares.reads.trans hzero
      have hresult : (result.2.2.server.clients s).lifetime = .alive :=
        hspares.touches.lifetime.trans hxalive
      split
      · -- it has returned, without another read
        refine ⟨fun hgone => absurd hresult hgone, ?_, fun _ hne => absurd hnone hne⟩
        rw [hnone]
        exact Nat.zero_le 1
      · next hgoes =>
          obtain ⟨hreset, hsame⟩ := spares_resetHeartbeatTimer w s result.2.2
          refine ⟨?_, ?_, ?_⟩
          · intro hgone
            rw [doRead, server_update, hsame] at hgone
            exact absurd hresult hgone
          · rw [doRead, pending_update_self, Pending.reads, if_pos rfl]
            have htimer := hreset.reads.trans hnone
            rw [Pending.reads] at htimer
            simp only
            omega
          · intro hclosed _
            rw [doRead, server_update, hsame] at hclosed ⊢
            rcases hdrains.goesOn (by simpa using hgoes) with hopen | hunchanged
            · cases hopen.symm.trans hclosed
            · rw [hunchanged] at hclosed ⊢
              have hclients : (x.setCodec s (feed (x.pending s).codec chunk)).server = l.server :=
                hserver
              rw [hclients] at hclosed ⊢
              exact h.cleared hclosed hreads'

theorem orderly_runHandler {w : LoopEnv} {s : SessionPtr} {l : EventLoop} {handler : Handler}
    (h : l.Orderly s) (hmem : handler ∈ (l.pending s).ready) :
    (((l.dequeue s handler).runHandler w s handler).2).Orderly s := by
  have halive := h.alive hmem
  cases handler with
  | read data => exact orderly_onRead h hmem
  | timeout cancelled =>
      have hdequeue := spares_dequeue_of_not_read hmem rfl
      cases cancelled with
      | true => exact h.spares halive hdequeue fun _ => Or.inr rfl
      | false =>
          exact h.spares halive (hdequeue.trans (spares_close s _).1) (playerId_close rfl)
  | written failed =>
      have hdequeue := spares_dequeue_of_not_read hmem rfl
      have hupdate : ∀ f : Pending → Pending, (∀ p, (f p).reads = p.reads) →
          Spares s l ((l.dequeue s (.written failed)).update s f) := by
        intro f hf
        apply hdequeue.trans
        refine ⟨touches_update _ s f, ?_⟩
        rw [pending_update_self, hf]
      cases failed with
      | false =>
          have hspares := hupdate (fun p => { p with written := p.written + 1 }) fun _ => rfl
          exact h.spares halive hspares fun _ => Or.inr rfl
      | true =>
          have hspares := hupdate (fun p => { p with stuck := true }) fun _ => rfl
          exact h.spares halive (hspares.trans (spares_close s _).1) (playerId_close rfl)

theorem touches_runHandler (w : LoopEnv) (s : SessionPtr) (handler : Handler) (l : EventLoop) :
    Touches s l (l.runHandler w s handler).2 := by
  have hrefl : Touches s l l := ⟨fun _ _ => ⟨rfl, rfl⟩, rfl, id⟩
  cases handler with
  | read data =>
      cases data with
      | none => exact (spares_close s l).1.touches
      | some chunk =>
          have hspares := (spares_setCodec s (feed (l.pending s).codec chunk) l).trans
            (drains_processBuffer w s _).spares
          simp only [runHandler, onRead]
          split
          · exact hspares.touches
          · have hreset := (spares_resetHeartbeatTimer w s (processBuffer w s
              (l.setCodec s (feed (l.pending s).codec chunk))).2.2).1
            exact (hspares.trans hreset).touches.trans (touches_update _ s _)
  | timeout cancelled =>
      cases cancelled with
      | true => exact hrefl
      | false => exact (spares_close s l).1.touches
  | written failed =>
      cases failed with
      | false => exact touches_update l s fun p => { p with written := p.written + 1 }
      | true =>
          have htouches := touches_update l s fun p => { p with stuck := true }
          exact htouches.trans (spares_close s _).1.touches

end EventLoop

/-!
## Steps
-/

open EventLoop

variable {w : LoopEnv} {l l' : EventLoop} {e : LoopEvent}

/-- An operation that ends leaves its handler behind. -/
theorem orderly_complete {h : Handler} (hl : ∀ t, l.Orderly t)
    (hcan : l.canComplete s h = true) (t : SessionPtr) : (l.complete s h).Orderly t := by
  by_cases hts : t = s
  · subst hts
    have hl := hl t
    have halive : (l.server.clients t).lifetime = .alive := by
      by_contra hgone
      obtain ⟨hreading, hwaiting, -⟩ := hl.held hgone
      cases h with
      | read data =>
          cases data with
          | none => simp [canComplete, hreading] at hcan
          | some chunk => simp [canComplete, hreading] at hcan
      | timeout cancelled => simp [canComplete, hwaiting] at hcan
      | written failed =>
          simp only [canComplete, Bool.and_eq_true, beq_iff_eq] at hcan
          exact hgone hcan.1.1.1.2
    have hreads : ((l.complete t h).pending t).reads = (l.pending t).reads := by
      rw [complete, pending_update_self, Pending.reads, Pending.reads]
      cases h with
      | read data =>
          have hreading : (l.pending t).reading = true := by
            cases data with
            | none => exact hcan
            | some chunk =>
                simp only [canComplete, Bool.and_eq_true] at hcan
                exact hcan.1.1.1
          simp [List.countP_append, hreading, Handler.isRead, Nat.add_comm]
      | timeout cancelled => simp [List.countP_append, Handler.isRead]
      | written failed => simp [List.countP_append, Handler.isRead]
    exact hl.spares halive ⟨touches_update l t _, hreads⟩ fun _ => Or.inr rfl
  · exact (hl t).congr (pending_update_of_ne l _ hts) rfl

/-- A session that has started has its first read outstanding. -/
theorem orderly_start {remoteIp : String} (hl : ∀ t, l.Orderly t)
    (hunborn : (l.server.clients s).lifetime = .unborn) (t : SessionPtr) :
    (l.start w s remoteIp).Orderly t := by
  have hclients : (l.server.startClient s remoteIp).clients =
      Function.update l.server.clients s { remoteIp := remoteIp, lifetime := .alive } := rfl
  obtain ⟨hreset, hsame⟩ := spares_resetHeartbeatTimer w s
    { l with server := l.server.startClient s remoteIp }
  have hserver : (l.start w s remoteIp).server = l.server.startClient s remoteIp := hsame
  by_cases hts : t = s
  · subst hts
    obtain ⟨hreading, -, hready⟩ := (hl t).held (by
      rw [hunborn]
      intro h
      cases h)
    have hself : (l.start w t remoteIp).server.clients t =
        { remoteIp := remoteIp, lifetime := .alive } := by
      rw [hserver, hclients, Function.update_self]
    refine ⟨?_, ?_, ?_⟩
    · rw [hself]
      intro hgone
      exact absurd rfl hgone
    · have hzero := hreset.reads
      simp only [Pending.reads, hreading, hready, Bool.false_eq_true, if_false,
        List.countP_nil] at hzero
      rw [start, doRead, pending_update_self, Pending.reads, if_pos rfl]
      simp only
      omega
    · rw [hself]
      intro hclosed
      cases hclosed
  · apply (hl t).congr
    · rw [start, doRead, pending_update_of_ne _ _ hts]
      exact (hreset.touches.others t hts).1
    · rw [hserver, hclients, Function.update_of_ne hts]

theorem orderly_step (h : LoopStep w l e l') (hl : ∀ t, l.Orderly t) (t : SessionPtr) :
    l'.Orderly t := by
  cases e with
  | accept s remoteIp =>
      obtain ⟨hunborn, rfl⟩ := Option.ite_some_none_eq_some.1 h
      exact orderly_start hl hunborn t
  | complete s handler =>
      obtain ⟨hcan, rfl⟩ := Option.ite_some_none_eq_some.1 h
      exact orderly_complete hl hcan t
  | run s handler =>
      obtain ⟨hmem, rfl⟩ := Option.ite_some_none_eq_some.1 h
      by_cases hts : t = s
      · subst hts
        exact orderly_runHandler (hl t) hmem
      · have htouches := (touches_update l s fun p => { p with ready := p.ready.erase handler
          }).trans (touches_runHandler w s handler (l.dequeue s handler))
        obtain ⟨hpending, hclient⟩ := htouches.others t hts
        exact (hl t).congr hpending hclient
  | release s =>
      obtain ⟨⟨-, -, hidle⟩, rfl⟩ := Option.ite_some_none_eq_some.1 h
      by_cases hts : t = s
      · subst hts
        simp only [idle, Bool.and_eq_true, Bool.not_eq_true', List.isEmpty_iff] at hidle
        obtain ⟨⟨⟨hreading, hwaiting⟩, hready⟩, -⟩ := hidle
        have hself : (l.server.updateClient t fun c => { c with lifetime := .expired }).clients
            t = { l.server.clients t with lifetime := .expired } := Function.update_self t _ _
        refine ⟨fun _ => ⟨hreading, hwaiting, hready⟩, (hl t).single, ?_⟩
        rw [hself]
        exact (hl t).cleared
      · refine Orderly.congr (hl t) rfl ?_
        exact Function.update_of_ne hts _ _
  | other i =>
      obtain ⟨hi, hstep⟩ := Option.ite_none_right_eq_some.1 h
      obtain ⟨server, hserver, rfl⟩ := Option.map_eq_some_iff.1 hstep
      obtain ⟨as, hrun⟩ := run_step hserver
      refine Orderly.congr (hl t) rfl ?_
      apply clients_of_changes hrun
      rw [hi]
      intro hsome
      cases hsome

theorem orderly_of_run {store : Redis.Keyspace} {es : List LoopEvent}
    (h : Run (LoopStep w) (initialLoop store) es l) (t : SessionPtr) : l.Orderly t := by
  have horderly := h.invariant (I := fun l => ∀ t, l.Orderly t)
    (fun _ _ _ hstep hl => orderly_step hstep hl) ?_
  · exact horderly t
  · intro t
    refine ⟨fun _ => ⟨rfl, rfl, rfl⟩, Nat.zero_le 1, ?_⟩
    intro hclosed
    cases hclosed

/-!
## The server under the loop
-/

/-- The server goes on by inputs of its own. -/
def Serves (w : LoopEnv) (l l' : EventLoop) : Prop :=
  ∃ is, Run (Step w.env) l.server is l'.server

theorem Serves.of_eq (w : LoopEnv) {l l' : EventLoop} (h : l'.server = l.server) :
    Serves w l l' := by
  refine ⟨[], ?_⟩
  rw [h]
  exact Run.nil

theorem Serves.trans {w : LoopEnv} {l l' l'' : EventLoop} (h : Serves w l l')
    (h' : Serves w l' l'') : Serves w l l'' := by
  obtain ⟨is, hrun⟩ := h
  obtain ⟨is', hrun'⟩ := h'
  exact ⟨is ++ is', hrun.append hrun'⟩

theorem serves_close (w : LoopEnv) (s : SessionPtr) (l : EventLoop)
    (halive : (l.server.clients s).lifetime = .alive) : Serves w l (l.close s) := by
  unfold EventLoop.close
  cases hclosed : (l.server.clients s).closed with
  | true => exact Serves.of_eq w rfl
  | false =>
      refine ⟨[.clientClose s], ?_⟩
      apply Run.single
      have hopen : (l.server.clients s).isOpen = true := by
        simp [ClientSession.isOpen, halive, hclosed]
      exact if_pos hopen

theorem serves_processMessage (w : LoopEnv) (s : SessionPtr) (envelope : Envelope)
    (l : EventLoop) (halive : (l.server.clients s).lifetime = .alive) :
    Serves w l (l.processMessage w s envelope) := by
  refine ⟨[.clientMessage s envelope], ?_⟩
  rw [server_processMessage]
  apply Run.single
  exact if_pos halive

theorem serves_processBuffer (w : LoopEnv) (s : SessionPtr) (l : EventLoop)
    (halive : (l.server.clients s).lifetime = .alive) :
    Serves w l (l.processBuffer w s).2.2 := by
  fun_induction processBuffer w s l with
  | case1 l c h => exact Serves.of_eq w rfl
  | case2 l envelope c h next hclosed =>
      have hserves := serves_processMessage w s envelope (l.setCodec s c) halive
      exact hserves
  | case3 l envelope c h next hopen ih =>
      have hserves := serves_processMessage w s envelope (l.setCodec s c) halive
      have hnext := (spares_processMessage w s envelope (l.setCodec s c)).touches.lifetime
      exact hserves.trans (ih (hnext.trans halive))

theorem serves_runHandler (w : LoopEnv) (s : SessionPtr) (handler : Handler) (l : EventLoop)
    (halive : (l.server.clients s).lifetime = .alive) :
    Serves w l (l.runHandler w s handler).2 := by
  cases handler with
  | read data =>
      cases data with
      | none => exact serves_close w s l halive
      | some chunk =>
          have hserves := serves_processBuffer w s
            (l.setCodec s (feed (l.pending s).codec chunk)) halive
          simp only [runHandler, EventLoop.onRead]
          split
          · exact hserves
          · exact Serves.trans hserves (Serves.of_eq w (spares_resetHeartbeatTimer w s _).2)
  | timeout cancelled =>
      cases cancelled with
      | true => exact Serves.of_eq w rfl
      | false => exact serves_close w s l halive
  | written failed =>
      cases failed with
      | false => exact Serves.of_eq w rfl
      | true =>
          exact serves_close w s (l.update s fun p => { p with stuck := true }) halive

theorem serves_step (h : LoopStep w l e l') (hl : ∀ t, l.Orderly t) : Serves w l l' := by
  cases e with
  | accept s remoteIp =>
      obtain ⟨hunborn, rfl⟩ := Option.ite_some_none_eq_some.1 h
      refine ⟨[.connect s remoteIp], ?_⟩
      have hserver : (l.start w s remoteIp).server = l.server.startClient s remoteIp :=
        (spares_resetHeartbeatTimer w s { l with server := l.server.startClient s remoteIp }).2
      rw [hserver]
      apply Run.single
      exact if_pos hunborn
  | complete s handler =>
      obtain ⟨-, rfl⟩ := Option.ite_some_none_eq_some.1 h
      exact Serves.of_eq w rfl
  | run s handler =>
      obtain ⟨hmem, rfl⟩ := Option.ite_some_none_eq_some.1 h
      exact serves_runHandler w s handler (l.dequeue s handler) ((hl s).alive hmem)
  | release s =>
      obtain ⟨⟨halive, hclosed, -⟩, rfl⟩ := Option.ite_some_none_eq_some.1 h
      refine ⟨[.clientReleased s], ?_⟩
      apply Run.single
      exact if_pos ⟨halive, hclosed⟩
  | other i =>
      obtain ⟨-, hstep⟩ := Option.ite_none_right_eq_some.1 h
      obtain ⟨server, hserver, rfl⟩ := Option.map_eq_some_iff.1 hstep
      exact ⟨[i], Run.single hserver⟩

/-- Under a run of the event loop lies a run of the server. -/
theorem run_server {store : Redis.Keyspace} {es : List LoopEvent}
    (h : Run (LoopStep w) (initialLoop store) es l) :
    ∃ is, Run (Step w.env) (initial store) is l.server := by
  induction h with
  | nil => exact ⟨[], Run.nil⟩
  | snoc hrun hstep ih =>
      obtain ⟨is, hserver⟩ := ih
      obtain ⟨is', hserver'⟩ := serves_step hstep (orderly_of_run hrun)
      exact ⟨is ++ is', hserver.append hserver'⟩

end Room

end SosBackend
