import SosBackend.Room.ChatServerChannel

/-!
# Connecting again to the Chat Server

A connection that is lost is followed by a wait of five seconds and a new attempt. The error
that ends a connection may be noticed twice, by its read and by its write, and each handler
schedules an attempt; the later wait cancels the one before it, so that one attempt is left.
This counts on the second handler to run within the wait of the first. One that runs later
schedules a wait beside the new attempt, and ends a connection that it is not about.
-/

namespace SosBackend

namespace Internal

open Protocol

namespace ChatServerChannel

/-- The ways in which the channel is on its way to a connection or has one. -/
def attempts (c : ChatServerChannel) : ℕ :=
  c.resolving + c.connecting + min c.waiting 1 + c.connected.toNat

/-- A wait is cancelled only by a later one, or by `stop`; one that runs its five seconds
finds that the operations on the connection that was lost have completed. `close` cancels
these operations, so that the io_context has their handlers ready at once and five seconds
to run them, which the completions of `step` alone need not respect. The channel is started
once. -/
def timely (c : ChatServerChannel) : Event → Bool
  | .start => false
  | .reconnect true => c.stopped || decide (1 < c.waiting)
  | .reconnect false =>
      c.late.isEmpty && decide (c.waiting = 1 ∧ c.reading ≤ c.connected.toNat)
  | _ => true

/-- The steps that are timely. -/
def TimelyStep (P : ProtoMessage Chat.ChatEnvelope) :
    ChatServerChannel → Event → ChatServerChannel → Prop :=
  Guarded timely fun c e c' => step P c e = some c'

/-- There is one way to a connection, and nothing of an earlier connection is outstanding
but while the channel waits. -/
structure Sustained (c : ChatServerChannel) : Prop where
  attempts : c.attempts = 1
  linked : c.linked = c.connected
  writes : c.connected = false → c.writes = []
  late : c.waiting = 0 → c.late = []
  reading : c.waiting = 0 → c.reading = c.connected.toNat

namespace Sustained

variable {c c' : ChatServerChannel}

theorem start : Sustained (ChatServerChannel.start {}) :=
  ⟨rfl, rfl, fun _ => rfl, fun _ => rfl, fun _ => rfl⟩

/-- What becomes of the frames does not matter. -/
theorem of_same (h : c.Sustained) (hattempts : c'.attempts = c.attempts)
    (hconnected : c'.connected = c.connected) (hlinked : c'.linked = c.linked)
    (hwrites : c.connected = false → c'.writes = c.writes) (hwaiting : c'.waiting = c.waiting)
    (hlate : c'.late = c.late) (hreading : c'.reading = c.reading) : c'.Sustained := by
  constructor
  · rw [hattempts]
    exact h.attempts
  · rw [hlinked, hconnected]
    exact h.linked
  · intro hdown
    rw [hconnected] at hdown
    rw [hwrites hdown]
    exact h.writes hdown
  · rw [hwaiting, hlate]
    exact h.late
  · rw [hwaiting, hreading, hconnected]
    exact h.reading

theorem doWrite (h : c.Sustained) : c.doWrite.Sustained := by
  unfold ChatServerChannel.doWrite
  split
  · exact h
  · split
    · next hconnected =>
        refine h.of_same rfl rfl rfl (fun hdown => ?_) rfl rfl rfl
        rw [hconnected] at hdown
        cases hdown
    · exact h

theorem send {P : ProtoMessage Chat.ChatEnvelope} (h : c.Sustained)
    (envelope : Chat.ChatEnvelope) : (c.send P envelope).Sustained := by
  have hpushed : Sustained { c with
      queue := c.queue ++ [⟨c.accepted.length, encode P envelope⟩]
      accepted := c.accepted ++ [envelope] } :=
    h.of_same rfl rfl rfl (fun _ => rfl) rfl rfl rfl
  unfold ChatServerChannel.send
  simp only
  split
  · exact hpushed.doWrite
  · exact hpushed

/-- What a channel does that tries to connect, or is connected. -/
theorem of_pos (h : c.Sustained) (hpos : 0 < c.resolving + c.connecting + c.connected.toNat) :
    c.resolving + c.connecting + c.connected.toNat = 1 ∧ c.waiting = 0 := by
  have hattempts := h.attempts
  unfold ChatServerChannel.attempts at hattempts
  omega

/-- What a channel does not do while it waits. -/
theorem of_waiting (h : c.Sustained) (hwaiting : 0 < c.waiting) :
    c.resolving = 0 ∧ c.connecting = 0 ∧ c.connected = false := by
  have hattempts := h.attempts
  unfold ChatServerChannel.attempts at hattempts
  refine ⟨by omega, by omega, Bool.toNat_eq_zero.1 (by omega)⟩

/-- Nothing more is needed of a channel that waits. -/
theorem waits (hresolving : c.resolving = 0) (hconnecting : c.connecting = 0)
    (hwaiting : 0 < c.waiting) (hconnected : c.connected = false) (hlinked : c.linked = false)
    (hwrites : c.writes = []) : c.Sustained := by
  constructor
  · unfold ChatServerChannel.attempts
    rw [hresolving, hconnecting, hconnected, Nat.min_eq_right hwaiting]
    rfl
  · rw [hlinked, hconnected]
  · exact fun _ => hwrites
  · exact fun hw => absurd hw hwaiting.ne'
  · exact fun hw => absurd hw hwaiting.ne'

theorem onResolved (h : c.Sustained) (hresolving : 0 < c.resolving)
    (hstopped : c.stopped = false) (failed : Bool) : (c.onResolved failed).Sustained := by
  obtain ⟨hone, hwaiting⟩ := h.of_pos (by omega)
  have hdown : c.connected = false := Bool.toNat_eq_zero.1 (by omega)
  have hgoes : ¬ c.stopped = true := by rw [hstopped]; exact Bool.false_ne_true
  unfold ChatServerChannel.onResolved ChatServerChannel.scheduleReconnect
    ChatServerChannel.doConnect
  cases failed with
  | true =>
      rw [if_pos rfl, if_neg hgoes]
      have hresolved : c.resolving - 1 = 0 := by omega
      have hconnecting : c.connecting = 0 := by omega
      exact waits hresolved hconnecting (Nat.succ_pos _) hdown (h.linked.trans hdown)
        (h.writes hdown)
  | false =>
      rw [if_neg Bool.false_ne_true, if_neg hgoes]
      refine ⟨?_, h.linked, h.writes, h.late, h.reading⟩
      change c.resolving - 1 + (c.connecting + 1) + min c.waiting 1 + c.connected.toNat = 1
      omega

theorem onConnected (h : c.Sustained) (hconnecting : 0 < c.connecting)
    (hstopped : c.stopped = false) (failed : Bool) : (c.onConnected failed).Sustained := by
  obtain ⟨hone, hwaiting⟩ := h.of_pos (by omega)
  have hdown : c.connected = false := Bool.toNat_eq_zero.1 (by omega)
  have hresolving : c.resolving = 0 := by omega
  have hconnected : c.connecting - 1 = 0 := by omega
  have hgoes : ¬ c.stopped = true := by rw [hstopped]; exact Bool.false_ne_true
  unfold ChatServerChannel.onConnected ChatServerChannel.scheduleReconnect
  cases failed with
  | true =>
      rw [if_pos rfl, if_neg hgoes]
      exact waits hresolving hconnected (Nat.succ_pos _) hdown (h.linked.trans hdown)
        (h.writes hdown)
  | false =>
      rw [if_neg Bool.false_ne_true]
      have hreading := h.reading hwaiting
      rw [hdown, Bool.toNat_false] at hreading
      constructor
      · change c.resolving + (c.connecting - 1) + min c.waiting 1 + 1 = 1
        omega
      · rfl
      · intro hdown
        cases hdown
      · exact h.late
      · intro _
        change c.reading + 1 = 1
        omega

/-- A wait that is cancelled leaves the one that has been started since. -/
theorem onReconnect (h : c.Sustained) (hstopped : c.stopped = false) (cancelled : Bool)
    (htimely : c.timely (.reconnect cancelled) = true) :
    (c.onReconnect cancelled).Sustained := by
  unfold ChatServerChannel.onReconnect
  cases cancelled with
  | true =>
      unfold timely at htimely
      rw [hstopped, Bool.false_or, decide_eq_true_iff] at htimely
      obtain ⟨hresolving, hconnecting, hdown⟩ := h.of_waiting (by omega)
      exact waits hresolving hconnecting (Nat.sub_pos_of_lt htimely) hdown
        (h.linked.trans hdown) (h.writes hdown)
  | false =>
      unfold timely at htimely
      obtain ⟨hlate, hdue⟩ := Bool.and_eq_true_iff.1 htimely
      obtain ⟨hwaiting, hreading⟩ := of_decide_eq_true hdue
      obtain ⟨hresolving, hconnecting, hdown⟩ := h.of_waiting (by omega)
      rw [hdown, Bool.toNat_false] at hreading
      simp only [doResolveAndConnect, hstopped, Bool.or_self, Bool.false_eq_true, if_false]
      constructor
      · change c.resolving + 1 + c.connecting + min (c.waiting - 1) 1 + c.connected.toNat = 1
        rw [hresolving, hconnecting, hwaiting, hdown]
        rfl
      · exact hdown.symm
      · exact h.writes
      · exact fun _ => List.isEmpty_iff.1 hlate
      · intro _
        change c.reading = c.connected.toNat
        rw [hdown, Bool.toNat_false]
        omega

/-- A connection that is found to be lost, now or once more. -/
theorem lost (h : c.Sustained) (hstopped : c.stopped = false)
    (hpresent : c.connected = true ∨ 0 < c.waiting) (writes late : List Write) (reading : ℕ)
    (hwrites : c.connected = false → writes = []) :
    Sustained { c with
      writes := writes
      late := late
      reading := reading }.close.scheduleReconnect := by
  unfold ChatServerChannel.close
  split
  · next hconnected =>
      have hconnected : c.connected = true := hconnected
      obtain ⟨hone, hwaiting⟩ := h.of_pos (by rw [hconnected]; exact Nat.succ_pos _)
      rw [hconnected, Bool.toNat_true] at hone
      unfold ChatServerChannel.scheduleReconnect
      rw [if_neg (by simp [hstopped])]
      have hresolving : c.resolving = 0 := by omega
      have hconnecting : c.connecting = 0 := by omega
      exact waits hresolving hconnecting (Nat.succ_pos _) rfl rfl rfl
  · next hdown =>
      have hdown : c.connected = false := Bool.eq_false_of_not_eq_true hdown
      have hwaiting : 0 < c.waiting :=
        hpresent.resolve_left (by rw [hdown]; exact Bool.false_ne_true)
      obtain ⟨hresolving, hconnecting, -⟩ := h.of_waiting hwaiting
      unfold ChatServerChannel.scheduleReconnect
      rw [if_neg (by simp [hstopped])]
      exact waits hresolving hconnecting (Nat.succ_pos _) hdown (h.linked.trans hdown)
        (hwrites hdown)

/-- A write is outstanding only on a connection that is up. -/
theorem of_mem_writes (h : c.Sustained) {w : Write} (hw : w ∈ c.writes) :
    c.connected = true := by
  apply Bool.eq_true_of_not_eq_false
  intro hdown
  rw [h.writes hdown] at hw
  cases hw

/-- A write of an earlier connection is outstanding only while the channel waits. -/
theorem of_mem_late (h : c.Sustained) {w : Write} (hw : w ∈ c.late) : 0 < c.waiting := by
  apply Nat.pos_of_ne_zero
  intro hwaiting
  rw [h.late hwaiting] at hw
  cases hw

theorem onRead (h : c.Sustained) (hreading : 0 < c.reading) (hstopped : c.stopped = false)
    (failed : Bool) : (c.onRead failed).Sustained := by
  unfold ChatServerChannel.onRead
  cases failed with
  | true =>
      have hpresent : c.connected = true ∨ 0 < c.waiting := by
        rcases Nat.eq_zero_or_pos c.waiting with hwaiting | hwaiting
        · have hread := h.reading hwaiting
          exact Or.inl (Bool.toNat_eq_one.1 (by have := c.connected.toNat_le; omega))
        · exact Or.inr hwaiting
      exact h.lost hstopped hpresent c.writes c.late _ h.writes
  | false =>
      refine ⟨h.attempts, h.linked, h.writes, h.late, fun hwaiting => ?_⟩
      change c.reading - 1 + 1 = c.connected.toNat
      rw [Nat.sub_add_cancel hreading]
      exact h.reading hwaiting

theorem onWritten (h : c.Sustained) (hstopped : c.stopped = false) {w : Write}
    (hw : w ∈ c.writes) (failed : Bool)
    (hwritten : { c with writes := c.writes.erase w }.onWritten failed = some c') :
    c'.Sustained := by
  have hconnected := h.of_mem_writes hw
  have hup : c.connected = false → ∀ writes : List Write, writes = [] := by
    rw [hconnected]
    intro hdown
    cases hdown
  unfold ChatServerChannel.onWritten at hwritten
  cases failed with
  | true =>
      obtain rfl := Option.some.inj hwritten
      exact h.lost hstopped (Or.inl hconnected) _ c.late c.reading fun hdown => hup hdown _
  | false =>
      rw [if_neg Bool.false_ne_true] at hwritten
      split at hwritten
      · cases hwritten
      · next frame queue _ =>
          have hpopped : Sustained { c with writes := c.writes.erase w, queue := queue } :=
            h.of_same rfl rfl rfl (fun hdown => (hup hdown _).trans (hup hdown _).symm)
              rfl rfl rfl
          simp only [Option.some.injEq] at hwritten
          rw [← hwritten]
          split
          · exact hpopped
          · exact hpopped.doWrite

theorem onWrittenLate (h : c.Sustained) (hstopped : c.stopped = false) {w : Write}
    (hw : w ∈ c.late) (failed : Bool)
    (hwritten : { c with late := c.late.erase w }.onWritten failed = some c') :
    c'.Sustained := by
  have hwaiting := h.of_mem_late hw
  obtain ⟨hresolving, hconnecting, hdown⟩ := h.of_waiting hwaiting
  unfold ChatServerChannel.onWritten at hwritten
  cases failed with
  | true =>
      obtain rfl := Option.some.inj hwritten
      exact h.lost hstopped (Or.inr hwaiting) c.writes _ c.reading h.writes
  | false =>
      rw [if_neg Bool.false_ne_true] at hwritten
      split at hwritten
      · cases hwritten
      · next frame queue _ =>
          have hpopped : Sustained { c with late := c.late.erase w, queue := queue } :=
            waits hresolving hconnecting hwaiting hdown (h.linked.trans hdown) (h.writes hdown)
          simp only [Option.some.injEq] at hwritten
          rw [← hwritten]
          split
          · exact hpopped
          · exact hpopped.doWrite

theorem step {P : ProtoMessage Chat.ChatEnvelope} {e : Event} (h : c.Sustained)
    (hstopped : c.stopped = false) (hstep : TimelyStep P c e c') :
    c'.stopped = true ∨ c'.Sustained := by
  obtain ⟨hstep, htimely⟩ := hstep
  obtain ⟨henabled, hact⟩ := Option.ite_none_right_eq_some.1 hstep
  cases e with
  | start => cases htimely
  | stop =>
      obtain rfl := Option.some.inj hact
      unfold ChatServerChannel.stop ChatServerChannel.close
      split
      · exact Or.inl rfl
      · exact Or.inl rfl
  | sessionCreated sessionId players =>
      obtain rfl := Option.some.inj hact
      unfold sendSessionCreated
      split
      · exact Or.inr (h.send _)
      · exact Or.inr h
  | sessionEnded sessionId =>
      obtain rfl := Option.some.inj hact
      unfold sendSessionEnded
      split
      · exact Or.inr (h.send _)
      · exact Or.inr h
  | resolved failed =>
      obtain rfl := Option.some.inj hact
      exact Or.inr (h.onResolved henabled hstopped failed)
  | connected failed =>
      obtain rfl := Option.some.inj hact
      exact Or.inr (h.onConnected henabled hstopped failed)
  | reconnect cancelled =>
      obtain rfl := Option.some.inj hact
      exact Or.inr (h.onReconnect hstopped cancelled htimely)
  | read failed =>
      obtain rfl := Option.some.inj hact
      exact Or.inr (h.onRead henabled hstopped failed)
  | transfer w n =>
      obtain rfl := Option.some.inj hact
      refine Or.inr (h.of_same rfl rfl rfl (fun hdown => ?_) rfl rfl rfl)
      rw [h.of_mem_writes henabled.1] at hdown
      cases hdown
  | written w failed => exact Or.inr (h.onWritten hstopped henabled.1 failed hact)
  | writtenLate w failed => exact Or.inr (h.onWrittenLate hstopped henabled.1 failed hact)

end Sustained

/-!
## Stopping
-/

/-- What a channel that has been stopped still does: it starts no attempt, and is connected
only by a connect that was outstanding. -/
structure Halts (c c' : ChatServerChannel) : Prop where
  stopped : c'.stopped = true
  connecting : c'.connecting ≤ c.connecting
  connected : c.connecting = 0 → c.connected = false → c'.connected = false

namespace Halts

variable {P : ProtoMessage Chat.ChatEnvelope} {c c' : ChatServerChannel}

theorem doResolveAndConnect (h : Halts c c') : Halts c c'.doResolveAndConnect := by
  unfold ChatServerChannel.doResolveAndConnect
  rw [if_pos h.stopped]
  exact h

theorem doConnect (h : Halts c c') : Halts c c'.doConnect := by
  unfold ChatServerChannel.doConnect
  rw [if_pos h.stopped]
  exact h

theorem scheduleReconnect (h : Halts c c') : Halts c c'.scheduleReconnect := by
  unfold ChatServerChannel.scheduleReconnect
  rw [if_pos h.stopped]
  exact h

theorem close (h : Halts c c') : Halts c c'.close := by
  unfold ChatServerChannel.close
  split
  · exact ⟨h.stopped, h.connecting, fun _ _ => rfl⟩
  · exact h

theorem doWrite (h : Halts c c') : Halts c c'.doWrite := by
  unfold ChatServerChannel.doWrite
  split
  · exact h
  · split
    · exact ⟨h.stopped, h.connecting, h.connected⟩
    · exact h

theorem send (h : Halts c c') (envelope : Chat.ChatEnvelope) :
    Halts c (c'.send P envelope) := by
  have hpushed : Halts c { c' with
      queue := c'.queue ++ [⟨c'.accepted.length, encode P envelope⟩]
      accepted := c'.accepted ++ [envelope] } :=
    ⟨h.stopped, h.connecting, h.connected⟩
  unfold ChatServerChannel.send
  simp only
  split
  · exact hpushed.doWrite
  · exact hpushed

theorem onWritten {failed : Bool} (h : Halts c c') {c'' : ChatServerChannel}
    (hwritten : c'.onWritten failed = some c'') : Halts c c'' := by
  unfold ChatServerChannel.onWritten at hwritten
  split at hwritten
  · obtain rfl := Option.some.inj hwritten
    exact h.close.scheduleReconnect
  · split at hwritten
    · cases hwritten
    · next frame queue _ =>
        have hpopped : Halts c { c' with queue := queue } :=
          ⟨h.stopped, h.connecting, h.connected⟩
        simp only [Option.some.injEq] at hwritten
        rw [← hwritten]
        split
        · exact hpopped
        · exact hpopped.doWrite

/-- Every handler and every call. -/
theorem of_step {e : Event} (h : c.stopped = true)
    (hstep : ChatServerChannel.step P c e = some c') : Halts c c' := by
  have hsame : Halts c c := ⟨h, Nat.le_refl _, fun _ hdown => hdown⟩
  obtain ⟨henabled, hact⟩ := Option.ite_none_right_eq_some.1 hstep
  cases e with
  | start =>
      obtain rfl := Option.some.inj hact
      exact hsame.doResolveAndConnect
  | stop =>
      obtain rfl := Option.some.inj hact
      have hstopped : Halts c { c with stopped := true } := ⟨rfl, Nat.le_refl _, hsame.connected⟩
      exact hstopped.close
  | sessionCreated sessionId players =>
      obtain rfl := Option.some.inj hact
      unfold sendSessionCreated
      split
      · exact hsame.send _
      · exact hsame
  | sessionEnded sessionId =>
      obtain rfl := Option.some.inj hact
      unfold sendSessionEnded
      split
      · exact hsame.send _
      · exact hsame
  | resolved failed =>
      obtain rfl := Option.some.inj hact
      have hdone : Halts c { c with resolving := c.resolving - 1 } :=
        ⟨h, Nat.le_refl _, hsame.connected⟩
      cases failed with
      | true => exact hdone.scheduleReconnect
      | false => exact hdone.doConnect
  | connected failed =>
      obtain rfl := Option.some.inj hact
      cases failed with
      | true =>
          have hdone : Halts c { c with connecting := c.connecting - 1 } :=
            ⟨h, Nat.sub_le _ _, hsame.connected⟩
          exact hdone.scheduleReconnect
      | false =>
          exact ⟨h, Nat.sub_le _ _, fun hnone => absurd hnone henabled.ne'⟩
  | reconnect cancelled =>
      obtain rfl := Option.some.inj hact
      unfold onReconnect
      simp only
      split
      · exact ⟨h, Nat.le_refl _, hsame.connected⟩
      · have hreplaced : Halts c { c with waiting := c.waiting - 1, linked := false } :=
          ⟨h, Nat.le_refl _, hsame.connected⟩
        exact hreplaced.doResolveAndConnect
  | read failed =>
      obtain rfl := Option.some.inj hact
      have hdone : Halts c { c with reading := c.reading - 1 } :=
        ⟨h, Nat.le_refl _, hsame.connected⟩
      cases failed with
      | true => exact hdone.close.scheduleReconnect
      | false => exact ⟨h, Nat.le_refl _, hsame.connected⟩
  | transfer w n =>
      obtain rfl := Option.some.inj hact
      exact ⟨h, Nat.le_refl _, hsame.connected⟩
  | written w failed =>
      have hdone : Halts c { c with writes := c.writes.erase w } :=
        ⟨h, Nat.le_refl _, hsame.connected⟩
      exact hdone.onWritten hact
  | writtenLate w failed =>
      have hdone : Halts c { c with late := c.late.erase w } :=
        ⟨h, Nat.le_refl _, hsame.connected⟩
      exact hdone.onWritten hact

end Halts

/-- A channel that has been stopped is not connected again, unless a connect was outstanding
when it was. -/
theorem staysDown_iff (P : ProtoMessage Chat.ChatEnvelope) (c : ChatServerChannel) :
    (∀ es d, Run (fun c e c' => step P c e = some c') c.stop es d → d.connected = false) ↔
      c.connecting = 0 := by
  have hconnecting : c.stop.connecting = c.connecting := by
    unfold stop close
    split
    · rfl
    · rfl
  have hstopped : c.stop.stopped = true := by
    unfold stop close
    split
    · rfl
    · rfl
  have hdown : c.stop.connected = false := by
    unfold stop close
    split
    · rfl
    · next h => exact Bool.eq_false_of_not_eq_true h
  rw [← hconnecting]
  constructor
  · intro h
    by_contra hne
    have hconnect : step P c.stop (.connected false) = some (c.stop.onConnected false) :=
      if_pos (Nat.pos_of_ne_zero hne)
    have hup := h _ _ (Run.single hconnect)
    cases hup
  · intro hnone es d hrun
    refine (hrun.invariant (I := fun c => c.stopped = true ∧ c.connecting = 0 ∧
      c.connected = false) ?_ ⟨hstopped, hnone, hdown⟩).2.2
    rintro c e c' hstep ⟨hstopped, hnone, hdown⟩
    have hhalts := Halts.of_step hstopped hstep
    exact ⟨hhalts.stopped, Nat.le_zero.1 (hnone ▸ hhalts.connecting), hhalts.connected hnone hdown⟩

/-!
## Runs
-/

/-- How far a channel is from a connection. -/
def distance (c : ChatServerChannel) : ℕ :=
  if c.connected then 0
  else 3 * (c.waiting + 2 * c.late.length + 2 * c.reading) + 2 * c.resolving + c.connecting

section progress

variable {P : ProtoMessage Chat.ChatEnvelope} {c : ChatServerChannel}

/-- The loss of a connection that is known to be lost schedules another attempt. -/
theorem close_scheduleReconnect (hdown : c.connected = false) (hstopped : c.stopped = false) :
    c.close.scheduleReconnect = { c with waiting := c.waiting + 1 } := by
  unfold close
  rw [if_neg (by rw [hdown]; exact Bool.false_ne_true)]
  unfold scheduleReconnect
  rw [if_neg (by rw [hstopped]; exact Bool.false_ne_true)]

theorem distance_le (c : ChatServerChannel) : c.distance ≤
    3 * (c.waiting + 2 * c.late.length + 2 * c.reading) + 2 * c.resolving + c.connecting := by
  unfold distance
  split
  · exact Nat.zero_le _
  · exact Nat.le_refl _

theorem distance_of_down (hdown : c.connected = false) : c.distance =
    3 * (c.waiting + 2 * c.late.length + 2 * c.reading) + 2 * c.resolving + c.connecting := by
  unfold distance
  rw [if_neg (by rw [hdown]; exact Bool.false_ne_true)]

/-- While the channel waits, what has been cut off completes, and then the wait ends. -/
theorem exists_closer_of_waiting (hwaiting : 0 < c.waiting) (hdown : c.connected = false)
    (hstopped : c.stopped = false) :
    ∃ e c', TimelyStep P c e c' ∧ c'.stopped = false ∧ c'.distance < c.distance := by
  cases hlate : c.late with
  | cons w late =>
      have hw : w ∈ c.late := by rw [hlate]; exact List.mem_cons_self
      refine ⟨.writtenLate w true, _, ⟨if_pos ⟨hw, Or.inl rfl⟩, rfl⟩, ?_⟩
      rw [close_scheduleReconnect (by exact hdown) (by exact hstopped)]
      refine ⟨hstopped, (distance_le _).trans_lt ?_⟩
      rw [distance_of_down hdown]
      simp only [hlate, List.erase_cons_head, List.length_cons]
      omega
  | nil =>
      by_cases hreading : 0 < c.reading
      · refine ⟨.read true, _, ⟨if_pos hreading, rfl⟩, ?_⟩
        have hnoticed : c.onRead true =
            { c with reading := c.reading - 1, waiting := c.waiting + 1 } :=
          close_scheduleReconnect (c := { c with reading := c.reading - 1 }) hdown hstopped
        rw [hnoticed]
        refine ⟨hstopped, (distance_le _).trans_lt ?_⟩
        rw [distance_of_down hdown]
        simp only
        omega
      · by_cases hlast : c.waiting = 1
        · have htimely : c.timely (.reconnect false) = true := by
            unfold timely
            rw [hlate, List.isEmpty_nil, Bool.true_and]
            exact decide_eq_true ⟨hlast, by omega⟩
          have hstarted : c.onReconnect false = { c with
              waiting := c.waiting - 1
              linked := false
              resolving := c.resolving + 1 } := by
            simp [onReconnect, doResolveAndConnect, hstopped]
          refine ⟨.reconnect false, _, ⟨if_pos hwaiting, htimely⟩, ?_⟩
          rw [hstarted]
          refine ⟨hstopped, (distance_le _).trans_lt ?_⟩
          rw [distance_of_down hdown]
          simp only
          omega
        · have htimely : c.timely (.reconnect true) = true := by
            unfold timely
            rw [hstopped, Bool.false_or]
            exact decide_eq_true (by omega)
          refine ⟨.reconnect true, { c with waiting := c.waiting - 1 },
            ⟨if_pos hwaiting, htimely⟩, hstopped, (distance_le _).trans_lt ?_⟩
          rw [distance_of_down hdown]
          simp only
          omega

/-- A step that brings a channel closer to a connection. -/
theorem exists_closer (h : c.Sustained) (hstopped : c.stopped = false)
    (hdown : c.connected = false) :
    ∃ e c', TimelyStep P c e c' ∧ c'.stopped = false ∧ c'.distance < c.distance := by
  have hattempts := h.attempts
  unfold attempts at hattempts
  rw [hdown, Bool.toNat_false] at hattempts
  rcases Nat.eq_zero_or_pos c.waiting with hwaiting | hwaiting
  · by_cases hresolving : 0 < c.resolving
    · refine ⟨.resolved false, _, ⟨if_pos hresolving, rfl⟩, ?_⟩
      have hlooked : c.onResolved false =
          { c with resolving := c.resolving - 1, connecting := c.connecting + 1 } :=
        if_neg (by rw [hstopped]; exact Bool.false_ne_true)
      rw [hlooked]
      refine ⟨hstopped, (distance_le _).trans_lt ?_⟩
      rw [distance_of_down hdown]
      simp only
      omega
    · have hconnecting : 0 < c.connecting := by omega
      refine ⟨.connected false, _, ⟨if_pos hconnecting, rfl⟩, hstopped, ?_⟩
      rw [distance_of_down hdown]
      change 0 < _
      omega
  · exact exists_closer_of_waiting hwaiting hdown hstopped

end progress

/-- A channel that has been started and not stopped has one connection or one attempt for it,
and can always get to a connection, however the attempts and connections before have failed. -/
theorem sustained_of_run {P : ProtoMessage Chat.ChatEnvelope} {es : List Event}
    {c : ChatServerChannel} (h : Run (TimelyStep P) (start {}) es c)
    (hstopped : c.stopped = false) :
    c.attempts = 1 ∧ (c.connected = true → c.linked = true ∧ c.reading = 1) ∧
      ∃ fs d, Run (TimelyStep P) c fs d ∧ d.connected = true := by
  have hsustained : c.stopped = true ∨ c.Sustained := by
    refine h.invariant (I := fun c => c.stopped = true ∨ c.Sustained) ?_ (Or.inr Sustained.start)
    intro c e c' hstep hc
    by_cases hstopped : c.stopped = true
    · exact Or.inl (Halts.of_step hstopped hstep.1).stopped
    · exact (hc.resolve_left hstopped).step (Bool.eq_false_of_not_eq_true hstopped) hstep
  have hc := hsustained.resolve_left (by rw [hstopped]; exact Bool.false_ne_true)
  refine ⟨hc.attempts, ?_, ?_⟩
  · intro hconnected
    obtain ⟨hone, hwaiting⟩ := hc.of_pos (by rw [hconnected]; exact Nat.succ_pos _)
    have hreading := hc.reading hwaiting
    rw [hconnected] at hreading
    exact ⟨hc.linked.trans hconnected, hreading⟩
  · refine Run.exists_of_decreases (I := fun c => c.Sustained ∧ c.stopped = false) distance ?_
      ⟨hc, hstopped⟩
    rintro c ⟨hc, hstopped⟩ hdown
    obtain ⟨e, c', hstep, hgoes, hcloser⟩ :=
      exists_closer (P := P) hc hstopped (Bool.eq_false_of_not_eq_true hdown)
    have hstays := (hc.step hstopped hstep).resolve_left (by rw [hgoes]; exact Bool.false_ne_true)
    exact ⟨e, c', hstep, ⟨hstays, hgoes⟩, hcloser⟩

/-- The first lookup fails; later a write and the read notice that the connection is lost. -/
theorem sustained_of_run_lostTwice : ∃ c, c.waiting = 2 ∧
    Run (TimelyStep endedClass) (start {})
      [.resolved true, .reconnect false, .resolved false, .connected false, .sessionEnded "s",
        .written ⟨endedFrame, endedFrame.bytes, 1⟩ true, .read true] c ∧
    c.attempts = 1 ∧ ∃ fs d, Run (TimelyStep endedClass) c fs d ∧ d.connected = true := by
  obtain ⟨c, hrun, hc⟩ := exists_run_of_exec timely (step endedClass) (start {})
    [.resolved true, .reconnect false, .resolved false, .connected false, .sessionEnded "s",
      .written ⟨endedFrame, endedFrame.bytes, 1⟩ true, .read true]
    (fun c => !c.stopped && decide (c.waiting = 2)) (by decide)
  obtain ⟨hgoes, hwaiting⟩ := Bool.and_eq_true_iff.1 hc
  have hstopped : c.stopped = false := by simpa using hgoes
  obtain ⟨hattempts, -, hreturns⟩ := sustained_of_run hrun hstopped
  exact ⟨c, of_decide_eq_true hwaiting, hrun, hattempts, hreturns⟩

end ChatServerChannel

end Internal

end SosBackend
