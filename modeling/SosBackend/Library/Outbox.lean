import Mathlib.Data.List.Basic

/-!
# A write queue

A writer keeps the frames it has accepted in a queue. It writes the first one and takes
it off when its write is over, so a frame that finds the queue empty is written at once.
`Accounts o accepted` says that the outbox has accepted these frames and has begun to
write the ones it has taken off and the first one left; a write is in flight only for
that one. Whether the queue is empty is all that the writer asks.
-/

namespace SosBackend

structure Outbox (α : Type*) where
  queue : List α := []
  /-- The frames whose writes are outstanding. -/
  inFlight : List α := []
  /-- The frames whose writes have been started, in order. -/
  handed : List α := []

namespace Outbox

variable {α : Type*}

/-- Start to write the first frame, if there is one. -/
def write (o : Outbox α) : Outbox α :=
  match o.queue with
  | [] => o
  | frame :: _ => { o with inFlight := o.inFlight ++ [frame], handed := o.handed ++ [frame] }

/-- Accept a frame; it is written at once if the queue was empty. -/
def push (o : Outbox α) (frame : α) : Outbox α :=
  let wasIdle := o.queue.isEmpty
  let o := { o with queue := o.queue ++ [frame] }
  if wasIdle then o.write else o

/-- The write of a frame is over. -/
def settle [DecidableEq α] (o : Outbox α) (frame : α) : Outbox α :=
  { o with inFlight := o.inFlight.erase frame }

/-- Take the first frame off and write the next one; there is no first frame in an empty
queue. -/
def pop (o : Outbox α) : Option (Outbox α) :=
  match o.queue with
  | [] => none
  | _ :: queue =>
      let o := { o with queue := queue }
      some (if queue.isEmpty then o else o.write)

/-- The outbox has accepted these frames. -/
structure Accounts (o : Outbox α) (accepted : List α) : Prop where
  exists_done : ∃ done, accepted = done ++ o.queue ∧ o.handed = done ++ o.queue.take 1
  inFlight : o.inFlight = [] ∨ o.inFlight = o.queue.take 1

namespace Accounts

variable {o o' : Outbox α} {accepted : List α} {frame : α}

theorem empty : Accounts ({} : Outbox α) [] :=
  ⟨⟨[], rfl, rfl⟩, Or.inl rfl⟩

/-- What has been handed over is where the accepted frames begin. -/
theorem handed_prefix (h : o.Accounts accepted) : o.handed <+: accepted := by
  obtain ⟨done, rfl, hhanded⟩ := h.exists_done
  rw [hhanded, List.prefix_append_right_inj]
  exact List.take_prefix 1 o.queue

theorem length_inFlight_le (h : o.Accounts accepted) : o.inFlight.length ≤ 1 := by
  rcases h.inFlight with hnone | hone
  · rw [hnone]
    exact Nat.zero_le 1
  · rw [hone, List.length_take]
    exact Nat.min_le_left 1 _

/-- The frame in flight is the first one in the queue. -/
theorem queue_of_mem (h : o.Accounts accepted) (hframe : frame ∈ o.inFlight) :
    ∃ queue, o.queue = frame :: queue := by
  rcases h.inFlight with hnone | hone
  · rw [hnone] at hframe
    cases hframe
  · rw [hone] at hframe
    cases hqueue : o.queue with
    | nil =>
        rw [hqueue] at hframe
        cases hframe
    | cons first queue =>
        rw [hqueue] at hframe
        exact ⟨queue, by rw [List.mem_singleton.1 hframe]⟩

/-- The queue was empty, so nothing is in flight. -/
theorem inFlight_of_empty (h : o.Accounts accepted) (hqueue : o.queue = []) :
    o.inFlight = [] := by
  rcases h.inFlight with hnone | hone
  · exact hnone
  · rw [hone, hqueue]
    rfl

theorem push (h : o.Accounts accepted) (frame : α) :
    (o.push frame).Accounts (accepted ++ [frame]) := by
  obtain ⟨done, rfl, hhanded⟩ := h.exists_done
  cases hqueue : o.queue with
  | nil =>
      have hidle := h.inFlight_of_empty hqueue
      have hpush : o.push frame = ⟨[frame], [frame], done ++ [frame]⟩ := by
        simp [Outbox.push, write, hqueue, hidle, hhanded]
      rw [hpush]
      constructor
      · exact ⟨done, by simp, rfl⟩
      · exact Or.inr rfl
  | cons first queue =>
      have hpush : o.push frame = { o with queue := first :: queue ++ [frame] } := by
        simp [Outbox.push, hqueue]
      rw [hqueue] at hhanded
      rw [hpush]
      constructor
      · exact ⟨done, by rw [List.append_assoc], hhanded⟩
      · have hfirst := h.inFlight
        rw [hqueue] at hfirst
        exact hfirst

/-- Where nothing is in flight, the first frame may go. -/
theorem pop (h : o.Accounts accepted) (hidle : o.inFlight = []) (hpop : o.pop = some o') :
    o'.Accounts accepted := by
  obtain ⟨done, rfl, hhanded⟩ := h.exists_done
  cases hqueue : o.queue with
  | nil =>
      rw [Outbox.pop, hqueue] at hpop
      cases hpop
  | cons first queue =>
      rw [Outbox.pop, hqueue] at hpop
      rw [hqueue] at hhanded
      obtain rfl := Option.some.inj hpop
      cases queue with
      | nil =>
          constructor
          · exact ⟨done ++ [first], by simp, by simpa using hhanded⟩
          · exact Or.inl hidle
      | cons second queue =>
          constructor
          · exact ⟨done ++ [first], by simp [write], by simp [write, hhanded]⟩
          · simp [write, hidle]

variable [DecidableEq α]

/-- A write that is over leaves none in flight. -/
theorem inFlight_settle (h : o.Accounts accepted) (hframe : frame ∈ o.inFlight) :
    (o.settle frame).inFlight = [] := by
  obtain ⟨queue, hqueue⟩ := h.queue_of_mem hframe
  rcases h.inFlight with hnone | hone
  · rw [settle, hnone]
    rfl
  · rw [settle, hone, hqueue]
    simp

theorem settle (h : o.Accounts accepted) (hframe : frame ∈ o.inFlight) :
    (o.settle frame).Accounts accepted :=
  ⟨h.exists_done, Or.inl (h.inFlight_settle hframe)⟩

/-- The handler of a write that has succeeded pops the frame that was written. -/
theorem exists_pop (h : o.Accounts accepted) (hframe : frame ∈ o.inFlight) :
    ∃ o', (o.settle frame).pop = some o' := by
  obtain ⟨queue, hqueue⟩ := h.queue_of_mem hframe
  have hsettle : (o.settle frame).queue = frame :: queue := hqueue
  rw [Outbox.pop, hsettle]
  exact ⟨_, rfl⟩

end Accounts

end Outbox

end SosBackend
