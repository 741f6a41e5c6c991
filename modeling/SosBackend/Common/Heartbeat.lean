import Mathlib.Algebra.Order.Ring.Nat
import SosBackend.Common.Outbound
import SosBackend.Library.Timer
import SosBackend.Protocol.Segmentation

/-!
# The heartbeat of a session

A session gives up on a peer that has been silent for the heartbeat timeout: each read arms
the timer anew, and a wait that has ended by itself closes the session. `Heartbeat` puts the
clock under the sessions of `Endpoint`. Handlers run late, as the event loop gets to them,
so that a peer can be heard of after its wait has ended and still be closed on.
-/

namespace SosBackend

open Protocol

namespace Endpoint

variable {M : Type*} {P : ProtoMessage M} {k : SessionKind} {c c' c'' : Endpoint M}

/-- What the heartbeat listens for: the start of the session and what is read from the
peer. -/
def Event.hears : Event M → Bool
  | .start => true
  | .read (some _) _ => true
  | _ => false

/-- From `c` to `c'` no wait on the heartbeat timer begins. -/
structure LeavesTimer (c c' : Endpoint M) : Prop where
  waiting : c'.waiting = c.waiting
  started : c'.started = c.started
  closed : c.closed = true → c'.closed = true

namespace LeavesTimer

theorem refl (c : Endpoint M) : LeavesTimer c c :=
  ⟨rfl, rfl, id⟩

theorem trans (h : LeavesTimer c c') (h' : LeavesTimer c' c'') : LeavesTimer c c'' :=
  ⟨h'.waiting.trans h.waiting, h'.started.trans h.started, fun hc => h'.closed (h.closed hc)⟩

/-- It does not matter what else differs before. -/
theorem of_eq (h : LeavesTimer c' c'') (hwaiting : c'.waiting = c.waiting)
    (hstarted : c'.started = c.started) (hclosed : c'.closed = c.closed) : LeavesTimer c c'' :=
  ⟨h.waiting.trans hwaiting, h.started.trans hstarted, fun hc => h.closed (hclosed.trans hc)⟩

theorem send (envelope : M) (c : Endpoint M) : LeavesTimer c (c.send P k envelope) := by
  unfold Endpoint.send
  split
  · exact refl c
  · exact ⟨rfl, rfl, id⟩

theorem close (c : Endpoint M) : LeavesTimer c c.close := by
  refine ⟨?_, ?_, fun _ => closed_close c⟩
  · unfold Endpoint.close
    split
    · rfl
    · rfl
  · unfold Endpoint.close
    split
    · rfl
    · rfl

theorem processMessage (reactions : List (Reaction M)) (c : Endpoint M) :
    LeavesTimer c (c.processMessage P k reactions) := by
  induction reactions generalizing c with
  | nil => exact refl c
  | cons r reactions ih =>
      refine trans ?_ (ih (react P k c r))
      cases r with
      | send envelope => exact send envelope c
      | close => exact close c

theorem processBuffer (reactions : List (List (Reaction M))) (c : Endpoint M) :
    LeavesTimer c (c.processBuffer P k reactions).2 := by
  fun_induction Endpoint.processBuffer P k reactions c with
  | case1 reactions c codec _ => exact ⟨rfl, rfl, id⟩
  | case2 reactions c envelope codec _ next hstop =>
      have hnext : LeavesTimer { c with codec := codec } next :=
        processMessage (reactions.headD []) _
      exact hnext.of_eq rfl rfl rfl
  | case3 reactions c envelope codec _ next hstop ih =>
      have hnext : LeavesTimer { c with codec := codec } next :=
        processMessage (reactions.headD []) _
      exact (hnext.trans ih).of_eq rfl rfl rfl

end LeavesTimer

/-- The handler of a read with data begins a wait, unless it returns on a closed session. -/
theorem onRead_some (chunk : List UInt8) (reactions : List (List (Reaction M)))
    (c : Endpoint M) : ∃ c', LeavesTimer c c' ∧
      (c.onRead P k (some chunk) reactions = c' ∧ c'.closed = true ∨
        c.onRead P k (some chunk) reactions = (c'.resetHeartbeatTimer k).doRead) := by
  have hbuffer := LeavesTimer.processBuffer (P := P) (k := k) reactions
    { c with reading := c.reading - 1, codec := feed c.codec chunk }
  have hreturned := closed_of_processBuffer P k reactions
    { c with reading := c.reading - 1, codec := feed c.codec chunk }
  unfold onRead
  simp only
  generalize Endpoint.processBuffer P k reactions
    { c with reading := c.reading - 1, codec := feed c.codec chunk } = result
    at hbuffer hreturned ⊢
  obtain ⟨returned, c'⟩ := result
  refine ⟨c', hbuffer.of_eq rfl rfl rfl, ?_⟩
  cases returned with
  | true => exact Or.inl ⟨rfl, hreturned rfl⟩
  | false => exact Or.inr rfl

/-- What the heartbeat does not listen for begins no wait. -/
theorem leavesTimer_step {e : Event M} (he : e.hears = false) (hwait : ∀ b, e ≠ .timeout b)
    (h : step P k c e = some c') : LeavesTimer c c' := by
  cases e with
  | start => cases he
  | send envelope =>
      obtain rfl := Option.some.inj h
      exact LeavesTimer.send envelope c
  | close =>
      obtain rfl := Option.some.inj h
      exact LeavesTimer.close c
  | read data reactions =>
      obtain ⟨-, rfl⟩ := Option.ite_some_none_eq_some.1 h
      cases data with
      | none => exact (LeavesTimer.close _).of_eq rfl rfl rfl
      | some chunk => cases he
  | written frame failed =>
      obtain ⟨-, h⟩ := Option.ite_none_right_eq_some.1 h
      unfold onWritten at h
      cases failed with
      | true =>
          obtain rfl := Option.some.inj h
          exact (LeavesTimer.close _).of_eq rfl rfl rfl
      | false =>
          obtain ⟨outbox, -, rfl⟩ := Option.map_eq_some_iff.1 h
          exact ⟨rfl, rfl, id⟩
  | timeout cancelled => exact absurd rfl (hwait cancelled)

/-- From `c` to `c'` a wait begins, except on a session that is closed then or without a
heartbeat. -/
structure Rearms (k : SessionKind) (c c' : Endpoint M) : Prop where
  closed : c.closed = true → c'.closed = true
  waiting : c'.waiting = c.waiting ∧ (c'.closed = true ∨ k.heartbeatTimeout = 0) ∨
    c'.waiting = c.waiting + 1 ∧ k.heartbeatTimeout ≠ 0

theorem Rearms.resetHeartbeatTimer (hclosed : c.closed = true → c'.closed = true)
    (hwaiting : c'.waiting = c.waiting) : Rearms k c (c'.resetHeartbeatTimer k).doRead := by
  unfold Endpoint.resetHeartbeatTimer
  split
  · next hzero => exact ⟨hclosed, Or.inl ⟨hwaiting, Or.inr hzero⟩⟩
  · next hzero => exact ⟨hclosed, Or.inr ⟨congrArg (· + 1) hwaiting, hzero⟩⟩

theorem rearms_step {e : Event M} (he : e.hears = true) (h : step P k c e = some c') :
    Rearms k c c' := by
  cases e with
  | start =>
      obtain ⟨-, heq⟩ := Option.ite_none_left_eq_some.1 h
      obtain rfl := Option.some.inj heq
      exact Rearms.resetHeartbeatTimer id rfl
  | read data reactions =>
      obtain ⟨-, rfl⟩ := Option.ite_some_none_eq_some.1 h
      cases data with
      | none => cases he
      | some chunk =>
          obtain ⟨d, hleaves, ⟨heq, hclosed⟩ | heq⟩ :=
            onRead_some (P := P) (k := k) chunk reactions c
          · rw [heq]
            exact ⟨hleaves.closed, Or.inl ⟨hleaves.waiting, Or.inl hclosed⟩⟩
          · rw [heq]
            exact Rearms.resetHeartbeatTimer hleaves.closed hleaves.waiting
  | _ => cases he

end Endpoint

/-!
## The clock
-/

/-- The heartbeat timeout on the clock of the timer, which counts nanoseconds. -/
def SessionKind.period (k : SessionKind) : ℕ :=
  k.heartbeatTimeout * 10 ^ 9

/-- A session with its heartbeat timer, the time, and when the peer has last been heard
of. -/
structure Heartbeat (M : Type*) where
  session : Endpoint M := {}
  timer : Timer := {}
  now : ℕ := 0
  heard : ℕ := 0

/-- What happens: something to the session, the end of the wait that is outstanding, the
handler of one that has ended or has been cancelled, or nothing for some time. -/
inductive HeartbeatEvent (M : Type*)
  | session (e : Endpoint.Event M)
  | expire
  | timeout (ended : Option ℕ)
  | pass (nanoseconds : ℕ)

namespace Heartbeat

variable {M : Type*} {P : ProtoMessage M} {k : SessionKind} {slack : ℕ} {b b' : Heartbeat M}

/-- The timer after something has taken the session from `c` to `c'`: `close` cancels the
wait, and `expires_after` does before the next one begins. -/
def drive (k : SessionKind) (now : ℕ) (c c' : Endpoint M) (t : Timer) : Timer :=
  let t := if c'.closed && !c.closed then t.cancel else t
  if c.waiting < c'.waiting then t.arm (now + k.period) else t

/-- Time passes only as long as neither a wait nor a handler is late by more than the
slack. -/
def step (P : ProtoMessage M) (k : SessionKind) (slack : ℕ) (b : Heartbeat M) :
    HeartbeatEvent M → Option (Heartbeat M)
  | .session (.timeout _) => none
  | .session e => (Endpoint.step P k b.session e).map fun c =>
      { b with
        session := c
        timer := drive k b.now b.session c b.timer
        heard := if e.hears then b.now else b.heard }
  | .expire => (b.timer.expire b.now).map fun t => { b with timer := t }
  | .timeout ended => (b.timer.handle ended).map fun t =>
      { b with
        session := b.session.onTimeout ended.isNone
        timer := drive k b.now b.session (b.session.onTimeout ended.isNone) t }
  | .pass nanoseconds =>
      if b.timer.Punctual slack (b.now + nanoseconds) then
        some { b with now := b.now + nanoseconds }
      else none

/-- The steps under the clock as a relation. -/
def Step (P : ProtoMessage M) (k : SessionKind) (slack : ℕ) (b : Heartbeat M)
    (e : HeartbeatEvent M) (b' : Heartbeat M) : Prop :=
  step P k slack b e = some b'

theorem step_session {e : Endpoint.Event M} (h : Step P k slack b (.session e) b') :
    (∀ cancelled, e ≠ .timeout cancelled) ∧ ∃ c, Endpoint.step P k b.session e = some c ∧
      b' = { b with
        session := c
        timer := drive k b.now b.session c b.timer
        heard := if e.hears then b.now else b.heard } := by
  have hmap : (∀ cancelled, e ≠ .timeout cancelled) →
      (Endpoint.step P k b.session e).map (fun c => { b with
        session := c
        timer := drive k b.now b.session c b.timer
        heard := if e.hears then b.now else b.heard }) = some b' := by
    intro hwait
    cases e with
    | timeout cancelled => exact absurd rfl (hwait cancelled)
    | _ => exact h
  have hwait : ∀ cancelled, e ≠ .timeout cancelled := by
    rintro cancelled rfl
    cases h
  obtain ⟨c, hc, rfl⟩ := Option.map_eq_some_iff.1 (hmap hwait)
  exact ⟨hwait, c, hc, rfl⟩

section drive

variable {now : ℕ} {c c' : Endpoint M} {t : Timer}

theorem ended_drive (k : SessionKind) (now : ℕ) (c c' : Endpoint M) (t : Timer) :
    (drive k now c c' t).ended = t.ended := by
  unfold drive
  simp only
  split
  · split
    · rw [Timer.ended_arm, Timer.ended_cancel]
    · rw [Timer.ended_arm]
  · split
    · exact Timer.ended_cancel t
    · rfl

theorem drive_of_le (hopen : c'.closed = false) (hle : c'.waiting ≤ c.waiting) :
    drive k now c c' t = t := by
  unfold drive
  rw [hopen, Bool.false_and, if_neg Bool.false_ne_true, if_neg (Nat.not_lt.2 hle)]

theorem drive_of_lt (hopen : c'.closed = false) (hlt : c.waiting < c'.waiting) :
    drive k now c c' t = t.arm (now + k.period) := by
  unfold drive
  rw [hopen, Bool.false_and, if_neg Bool.false_ne_true, if_pos hlt]

theorem waits_drive_of_le (hle : c'.waiting ≤ c.waiting) :
    (drive k now c c' t).waits = t.waits := by
  unfold drive
  rw [if_neg (Nat.not_lt.2 hle)]
  split
  · exact Timer.waits_cancel t
  · rfl

theorem waits_drive_of_lt (hlt : c.waiting < c'.waiting) :
    (drive k now c c' t).waits = t.waits + 1 := by
  unfold drive
  rw [if_pos hlt, Timer.waits_arm]
  split
  · rw [Timer.waits_cancel]
  · rfl

theorem punctual_drive (ht : t.Punctual slack now) :
    (drive k now c c' t).Punctual slack now := by
  have hcancel : (if c'.closed && !c.closed then t.cancel else t).Punctual slack now := by
    split
    · exact ht.cancel
    · exact ht
  unfold drive
  simp only
  split
  · exact hcancel.arm (Nat.le_add_right now k.period)
  · exact hcancel

end drive

/-!
## What the clock guarantees
-/

/-- What holds of a session under the clock between two steps. -/
structure Watching (k : SessionKind) (slack : ℕ) (b : Heartbeat M) : Prop where
  waits : b.session.waiting = b.timer.waits
  punctual : b.timer.Punctual slack b.now
  heard : b.heard ≤ b.now
  deadline : b.session.closed = false → ∀ d, b.timer.deadline = some d →
    d = b.heard + k.period ∧ k.heartbeatTimeout ≠ 0
  watched : b.session.started = true → b.session.closed = false → k.heartbeatTimeout ≠ 0 →
    b.timer.deadline = some (b.heard + k.period) ∨
      ∃ e ∈ b.timer.ended, e ≤ b.heard + k.period + slack

namespace Watching

theorem initial : Watching k slack ({} : Heartbeat M) where
  waits := rfl
  punctual := Timer.Punctual.empty
  heard := Nat.le_refl 0
  deadline _ d hd := by cases hd
  watched hstarted := by cases hstarted

theorem of_not_hears (hb : Watching k slack b) {c : Endpoint M}
    (h : Endpoint.LeavesTimer b.session c) :
    Watching k slack { b with session := c, timer := drive k b.now b.session c b.timer } := by
  have hopen : c.closed = false → b.session.closed = false := by
    intro hc
    rw [← Bool.not_eq_true] at hc ⊢
    exact fun hclosed => hc (h.closed hclosed)
  constructor
  · rw [waits_drive_of_le h.waiting.le]
    exact h.waiting.trans hb.waits
  · exact punctual_drive hb.punctual
  · exact hb.heard
  · intro hc d hd
    simp only at hc hd
    rw [drive_of_le hc h.waiting.le] at hd
    exact hb.deadline (hopen hc) d hd
  · intro hstarted hc hperiod
    simp only at hstarted hc
    simp only [drive_of_le hc h.waiting.le]
    exact hb.watched (h.started.symm.trans hstarted) (hopen hc) hperiod

theorem of_hears (hb : Watching k slack b) {c : Endpoint M}
    (h : Endpoint.Rearms k b.session c) :
    Watching k slack { b with
      session := c, timer := drive k b.now b.session c b.timer, heard := b.now } := by
  constructor
  · rcases h.waiting with ⟨hwaiting, -⟩ | ⟨hwaiting, -⟩
    · rw [waits_drive_of_le hwaiting.le]
      exact hwaiting.trans hb.waits
    · rw [waits_drive_of_lt (by omega)]
      exact hwaiting.trans (congrArg (· + 1) hb.waits)
  · exact punctual_drive hb.punctual
  · exact Nat.le_refl b.now
  · intro hc d hd
    simp only at hc hd
    rcases h.waiting with ⟨hwaiting, hclosed | hzero⟩ | ⟨hwaiting, hperiod⟩
    · rw [hc] at hclosed
      cases hclosed
    · rw [drive_of_le hc hwaiting.le] at hd
      have hopen : b.session.closed = false := by
        rw [← Bool.not_eq_true] at hc ⊢
        exact fun hclosed => hc (h.closed hclosed)
      exact absurd hzero (hb.deadline hopen d hd).2
    · rw [drive_of_lt hc (by omega)] at hd
      exact ⟨(Option.some.inj hd).symm, hperiod⟩
  · intro _ hc hperiod
    simp only at hc
    rcases h.waiting with ⟨-, hclosed | hzero⟩ | ⟨hwaiting, -⟩
    · rw [hc] at hclosed
      cases hclosed
    · exact absurd hzero hperiod
    · simp only [drive_of_lt hc (by omega : b.session.waiting < c.waiting)]
      exact Or.inl rfl

theorem expire (hb : Watching k slack b) {t : Timer} (ht : b.timer.expire b.now = some t) :
    Watching k slack { b with timer := t } := by
  obtain ⟨d, hd, hle, rfl⟩ := Timer.expire_eq_some ht
  constructor
  · exact hb.waits.trans (Timer.waits_expire ht).symm
  · exact hb.punctual.expire ht
  · exact hb.heard
  · intro _ d' hd'
    cases hd'
  · intro _ hopen _
    -- the wait that has ended was the one for the last that has been heard
    have hdeadline := (hb.deadline hopen d hd).1
    have hpunctual := hb.punctual.1 d (by rw [hd]; exact List.mem_singleton_self d)
    refine Or.inr ⟨b.now, List.mem_cons_self, ?_⟩
    rwa [hdeadline] at hpunctual

theorem timeout (hb : Watching k slack b) {ended : Option ℕ} {t : Timer}
    (ht : b.timer.handle ended = some t) :
    Watching k slack { b with
      session := b.session.onTimeout ended.isNone
      timer := drive k b.now b.session (b.session.onTimeout ended.isNone) t } := by
  have hwaits := Timer.waits_handle ht
  have hwaiting : (b.session.onTimeout ended.isNone).waiting = b.session.waiting - 1 := by
    unfold Endpoint.onTimeout
    simp only
    split
    · rfl
    · exact (Endpoint.LeavesTimer.close _).waiting
  have hle : (b.session.onTimeout ended.isNone).waiting ≤ b.session.waiting := by
    omega
  -- only the handler of a cancelled wait leaves the session open
  have hcancelled : (b.session.onTimeout ended.isNone).closed = false → ended = none := by
    intro hopen
    cases ended with
    | none => rfl
    | some e => exact absurd (Endpoint.closed_close _) (Bool.eq_false_iff.1 hopen)
  constructor
  · rw [waits_drive_of_le hle, hwaiting, hb.waits]
    omega
  · exact punctual_drive (hb.punctual.handle ht)
  · exact hb.heard
  · intro hopen d hd
    simp only at hopen hd
    rw [drive_of_le hopen hle] at hd
    obtain rfl := hcancelled hopen
    rw [(Timer.handle_none_eq_some ht).1] at hd
    exact hb.deadline hopen d hd
  · intro hstarted hopen hperiod
    simp only at hstarted hopen
    simp only [drive_of_le hopen hle]
    obtain rfl := hcancelled hopen
    rw [(Timer.handle_none_eq_some ht).1, (Timer.handle_none_eq_some ht).2]
    exact hb.watched hstarted hopen hperiod

theorem pass (hb : Watching k slack b) {n : ℕ} (hn : b.timer.Punctual slack (b.now + n)) :
    Watching k slack { b with now := b.now + n } :=
  ⟨hb.waits, hn, Nat.le_add_right_of_le hb.heard, hb.deadline, hb.watched⟩

theorem step {e : HeartbeatEvent M} (hb : Watching k slack b) (h : Step P k slack b e b') :
    Watching k slack b' := by
  cases e with
  | session e =>
      obtain ⟨hwait, c, hc, rfl⟩ := step_session h
      cases hhears : e.hears with
      | false => exact hb.of_not_hears (Endpoint.leavesTimer_step hhears hwait hc)
      | true => exact hb.of_hears (Endpoint.rearms_step hhears hc)
  | expire =>
      obtain ⟨t, ht, rfl⟩ := Option.map_eq_some_iff.1 h
      exact hb.expire ht
  | timeout ended =>
      obtain ⟨t, ht, rfl⟩ := Option.map_eq_some_iff.1 h
      exact hb.timeout ht
  | pass nanoseconds =>
      obtain ⟨hpunctual, rfl⟩ := Option.ite_some_none_eq_some.1 h
      exact hb.pass hpunctual

end Watching

/-- What the clock does to the session, the session may do by itself. -/
def untimed : HeartbeatEvent M → List (Endpoint.Event M)
  | .session e => [e]
  | .timeout ended => [.timeout ended.isNone]
  | _ => []

/-- Every run under the clock is a run of the session. -/
theorem untimed_of_run {es : List (HeartbeatEvent M)} (h : Run (Step P k slack) {} es b) :
    Run (fun c e c' => Endpoint.step P k c e = some c') {} (es.flatMap untimed) b.session := by
  have hruns : ∀ b e b' c, Step P k slack b e b' → Watching k slack b ∧ b.session = c →
      ∃ c', Run (fun c e c' => Endpoint.step P k c e = some c') c (untimed e) c' ∧
        Watching k slack b' ∧ b'.session = c' := by
    rintro b e b' c hstep ⟨hb, rfl⟩
    refine ⟨b'.session, ?_, hb.step hstep, rfl⟩
    cases e with
    | session e =>
        obtain ⟨-, c, hc, rfl⟩ := step_session hstep
        exact Run.single hc
    | expire =>
        obtain ⟨t, -, rfl⟩ := Option.map_eq_some_iff.1 hstep
        exact Run.nil
    | timeout ended =>
        obtain ⟨t, ht, rfl⟩ := Option.map_eq_some_iff.1 hstep
        have hwaiting : 0 < b.session.waiting := by
          rw [hb.waits, Timer.waits_handle ht]
          exact Nat.succ_pos _
        exact Run.single (if_pos hwaiting)
    | pass nanoseconds =>
        obtain ⟨-, rfl⟩ := Option.ite_some_none_eq_some.1 hstep
        exact Run.nil
  obtain ⟨c, hrun, -, hc⟩ := h.simulates_runs hruns ⟨Watching.initial, rfl⟩
  rwa [hc]

theorem closed_step {e : HeartbeatEvent M} (h : Step P k slack b e b')
    (hclosed : b.session.closed = true) : b'.session.closed = true := by
  cases e with
  | session e =>
      obtain ⟨hwait, c, hc, rfl⟩ := step_session h
      cases hhears : e.hears with
      | false => exact (Endpoint.leavesTimer_step hhears hwait hc).closed hclosed
      | true => exact (Endpoint.rearms_step hhears hc).closed hclosed
  | expire =>
      obtain ⟨t, -, rfl⟩ := Option.map_eq_some_iff.1 h
      exact hclosed
  | timeout ended =>
      obtain ⟨t, -, rfl⟩ := Option.map_eq_some_iff.1 h
      cases ended with
      | none => exact hclosed
      | some e => exact Endpoint.closed_close _
  | pass nanoseconds =>
      obtain ⟨-, rfl⟩ := Option.ite_some_none_eq_some.1 h
      exact hclosed

/-- The peer has been silent for the heartbeat timeout. -/
def Silent (k : SessionKind) (b : Heartbeat M) : Prop :=
  k.heartbeatTimeout ≠ 0 ∧ b.heard + k.period ≤ b.now

/-- A wait ends by itself only when the peer has been silent. -/
theorem occurs_silent_of_run {es : List (HeartbeatEvent M)} (h : Run (Step P k slack) {} es b)
    (hopen : b.session.closed = false) (hended : b.timer.ended ≠ []) :
    Occurs (Step P k slack) (fun b _ _ => Silent k b) {} es b := by
  induction h with
  | nil => exact absurd rfl hended
  | @snoc es b e b' hrun hstep ih =>
      have hb := hrun.invariant (fun _ _ _ hstep hb => hb.step hstep) Watching.initial
      have hbefore : b.session.closed = false := by
        rw [← Bool.not_eq_true] at hopen ⊢
        exact fun hclosed => hopen (closed_step hstep hclosed)
      cases e with
      | session e =>
          obtain ⟨-, c, -, rfl⟩ := step_session hstep
          rw [ended_drive] at hended
          exact Occurs.later (ih hbefore hended) hstep
      | expire =>
          obtain ⟨t, ht, rfl⟩ := Option.map_eq_some_iff.1 hstep
          obtain ⟨d, hd, hle, -⟩ := Timer.expire_eq_some ht
          obtain ⟨rfl, hperiod⟩ := hb.deadline hopen d hd
          exact Occurs.now hrun hstep ⟨hperiod, hle⟩
      | timeout ended =>
          obtain ⟨t, ht, rfl⟩ := Option.map_eq_some_iff.1 hstep
          rw [ended_drive] at hended
          refine Occurs.later (ih hbefore fun hnil => hended ?_) hstep
          rw [← List.subset_nil, ← hnil]
          exact Timer.ended_handle_subset ht
      | pass nanoseconds =>
          obtain ⟨-, rfl⟩ := Option.ite_some_none_eq_some.1 hstep
          exact Occurs.later (ih hopen hended) hstep

/-- A session that is open has heard of its peer within the heartbeat timeout, but for the
slack of the wait and of its handler; and it is about to be closed by the heartbeat only if
the peer has been silent for all of the timeout. -/
theorem heard_of_run {es : List (HeartbeatEvent M)} (h : Run (Step P k slack) {} es b)
    (hstarted : b.session.started = true) (hopen : b.session.closed = false) :
    (k.heartbeatTimeout ≠ 0 → b.now ≤ b.heard + k.period + 2 * slack) ∧
      (b.timer.ended ≠ [] → Occurs (Step P k slack) (fun b _ _ => Silent k b) {} es b) := by
  have hb := h.invariant (fun _ _ _ hstep hb => hb.step hstep) Watching.initial
  constructor
  · intro hperiod
    rcases hb.watched hstarted hopen hperiod with hdeadline | ⟨e, he, hle⟩
    · have hpunctual := hb.punctual.1 (b.heard + k.period)
        (by rw [hdeadline]; exact List.mem_singleton_self _)
      omega
    · have hpunctual := hb.punctual.2 e he
      omega
  · exact occurs_silent_of_run h hopen

/-- A chat session with a timeout of a second: its peer is heard of again when the wait has
ended already. -/
def tooLate : List (HeartbeatEvent Unit) :=
  [.session .start, .pass (10 ^ 9), .expire, .session (.read (some [0]) []),
    .pass (10 ^ 6)]

theorem heard_of_run_tooLate : ∃ b c,
    Run (Step emptyMessage (chatSession 1) (10 ^ 7)) {} tooLate b ∧
      Occurs (Step emptyMessage (chatSession 1) (10 ^ 7)) (fun b _ _ => Silent (chatSession 1) b)
        {} tooLate b ∧
      b.now ≤ b.heard + 10 ^ 9 + 2 * 10 ^ 7 ∧
      Step emptyMessage (chatSession 1) (10 ^ 7) b (.timeout (some (10 ^ 9))) c ∧
      b.session.closed = false ∧ c.session.closed = true := by
  obtain ⟨b, hrun, hp⟩ := exists_run_of_exec (fun _ _ => true)
    (step emptyMessage (chatSession 1) (10 ^ 7)) {} tooLate
    (fun b => b.session.started && !b.session.closed && decide (b.timer.ended = [10 ^ 9]) &&
      (step emptyMessage (chatSession 1) (10 ^ 7) b (.timeout (some (10 ^ 9)))).any
        fun c => c.session.closed)
    (by decide +kernel)
  simp only [Bool.and_eq_true, Bool.not_eq_true', decide_eq_true_eq] at hp
  obtain ⟨⟨⟨hstarted, hopen⟩, hended⟩, hany⟩ := hp
  obtain ⟨c, hc, hclosed⟩ := (Option.any_eq_true _ _).1 hany
  have hsteps : Run (Step emptyMessage (chatSession 1) (10 ^ 7)) {} tooLate b :=
    hrun.of_guarded
  have hheard := heard_of_run hsteps hstarted hopen
  have hended' : b.timer.ended ≠ [] := by
    rw [hended]
    exact List.cons_ne_nil _ _
  exact ⟨b, c, hsteps, hheard.2 hended', hheard.1 (by decide), hc, hopen, hclosed⟩

end Heartbeat

end SosBackend
