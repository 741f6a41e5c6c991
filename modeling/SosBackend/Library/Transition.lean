import Mathlib.Data.List.Induction

/-!
# Runs of a labelled transition system

`Run R s es t` says that the steps labelled `es` lead from `s` to `t`. A run
grows at its end, so an invariant of single steps is an invariant of runs, and
a property that a step either keeps or answers with an event is kept until that
event occurs. `exec` runs a partial step function.
-/

namespace SosBackend

variable {σ ι : Type*}

/-- The finite runs of `R` from `s`. -/
inductive Run (R : σ → ι → σ → Prop) (s : σ) : List ι → σ → Prop
  | nil : Run R s [] s
  | snoc {es : List ι} {t : σ} {e : ι} {u : σ} :
      Run R s es t → R t e u → Run R s (es ++ [e]) u

/-- Some step of the run satisfies `E`. -/
inductive Occurs (R E : σ → ι → σ → Prop) (s : σ) : List ι → σ → Prop
  | now {es : List ι} {t : σ} {e : ι} {u : σ} :
      Run R s es t → R t e u → E t e u → Occurs R E s (es ++ [e]) u
  | later {es : List ι} {t : σ} {e : ι} {u : σ} :
      Occurs R E s es t → R t e u → Occurs R E s (es ++ [e]) u

/-- An event occurs at one of the labels. -/
theorem Occurs.exists_mem {R E : σ → ι → σ → Prop} {s t : σ} {es : List ι}
    (h : Occurs R E s es t) : ∃ e ∈ es, ∃ u v, E u e v := by
  induction h with
  | now _ _ hE => exact ⟨_, List.mem_append_right _ List.mem_cons_self, _, _, hE⟩
  | later _ _ ih =>
      obtain ⟨e, he, hE⟩ := ih
      exact ⟨e, List.mem_append_left _ he, hE⟩

/-- What an event of the steps of a run comes with occurs as well. -/
theorem Occurs.of_run {R E E' : σ → ι → σ → Prop} {s t : σ} {es : List ι}
    (hE : ∀ es t e u, Run R s es t → R t e u → E t e u → E' t e u) (h : Occurs R E s es t) :
    Occurs R E' s es t := by
  induction h with
  | now hrun hstep h => exact now hrun hstep (hE _ _ _ _ hrun hstep h)
  | later _ hstep ih => exact later ih hstep

theorem Occurs.mono {R E E' : σ → ι → σ → Prop} {s t : σ} {es : List ι}
    (hE : ∀ s e t, E s e t → E' s e t) (h : Occurs R E s es t) : Occurs R E' s es t :=
  h.of_run fun _ t e u _ _ => hE t e u

/-- An event occurs in a run. -/
theorem Occurs.run {R E : σ → ι → σ → Prop} {s t : σ} {es : List ι}
    (h : Occurs R E s es t) : Run R s es t := by
  induction h with
  | now hrun hstep _ => exact Run.snoc hrun hstep
  | later _ hstep ih => exact Run.snoc ih hstep

namespace Run

variable {R R' : σ → ι → σ → Prop} {s t u : σ} {e : ι} {es es' : List ι}

theorem single (h : R s e t) : Run R s [e] t :=
  snoc nil h

theorem append (h : Run R s es t) (h' : Run R t es' u) : Run R s (es ++ es') u := by
  induction h' with
  | nil => rwa [List.append_nil]
  | snoc _ hstep ih =>
      rw [← List.append_assoc]
      exact snoc ih hstep

theorem cons (h : R s e t) (h' : Run R t es u) : Run R s (e :: es) u :=
  append (single h) h'

theorem nil_inv (h : Run R s [] t) : t = s := by
  generalize hes : ([] : List ι) = es at h
  cases h with
  | nil => rfl
  | snoc hrun hstep => exact absurd hes.symm (List.append_ne_nil_of_right_ne_nil _ (by simp))

theorem snoc_inv (h : Run R s (es ++ [e]) u) : ∃ t, Run R s es t ∧ R t e u := by
  generalize hes : es ++ [e] = all at h
  cases h with
  | nil => exact absurd hes (List.append_ne_nil_of_right_ne_nil _ (by simp))
  | snoc hrun hstep =>
      obtain ⟨rfl, he⟩ := List.append_inj' hes rfl
      obtain rfl := List.singleton_inj.1 he
      exact ⟨_, hrun, hstep⟩

theorem mono (hR : ∀ s e t, R s e t → R' s e t) (h : Run R s es t) : Run R' s es t := by
  induction h with
  | nil => exact nil
  | snoc _ hstep ih => exact snoc ih (hR _ _ _ hstep)

/-- What holds of every label of a run holds of every step. -/
theorem and_of_forall {P : ι → Prop} (h : Run R s es t) (hP : ∀ e ∈ es, P e) :
    Run (fun s e t => R s e t ∧ P e) s es t := by
  induction h with
  | nil => exact nil
  | snoc _ hstep ih =>
      refine snoc (ih fun e he => hP e (List.mem_append_left _ he)) ⟨hstep, ?_⟩
      exact hP _ (List.mem_append_right _ List.mem_cons_self)

/-- What every step keeps holds at the end of a run. -/
theorem invariant {I : σ → Prop} (hstep : ∀ s e t, R s e t → I s → I t)
    (h : Run R s es t) (hs : I s) : I t := by
  induction h with
  | nil => exact hs
  | snoc _ he ih => exact hstep _ _ _ he ih

/-- A reflexive and transitive relation that holds across each step holds
across a run. -/
theorem relates {Q : σ → σ → Prop} (hrefl : ∀ s, Q s s)
    (htrans : ∀ s t u, Q s t → Q t u → Q s u) (hstep : ∀ s e t, R s e t → Q s t)
    (h : Run R s es t) : Q s t := by
  induction h with
  | nil => exact hrefl s
  | snoc _ he ih => exact htrans _ _ _ ih (hstep _ _ _ he)

/-- A relation to the states of another system, which takes some steps for each one, is
carried over by a run. -/
theorem simulates_runs {σ' ι' : Type*} {S : σ' → ι' → σ' → Prop} {Q : σ → σ' → Prop}
    {f : ι → List ι'} {s' : σ'}
    (hstep : ∀ s e t s', R s e t → Q s s' → ∃ t', Run S s' (f e) t' ∧ Q t t')
    (h : Run R s es t) (hs : Q s s') : ∃ t', Run S s' (es.flatMap f) t' ∧ Q t t' := by
  induction h with
  | nil => exact ⟨s', nil, hs⟩
  | snoc _ he ih =>
      obtain ⟨t', hrun, ht⟩ := ih
      obtain ⟨u', hu, hQ⟩ := hstep _ _ _ _ he ht
      refine ⟨u', ?_, hQ⟩
      rw [List.flatMap_append, List.flatMap_singleton]
      exact hrun.append hu

/-- A relation to the states of another system that takes the same steps. -/
theorem simulates {σ' : Type*} {S : σ' → ι → σ' → Prop} {Q : σ → σ' → Prop} {s' : σ'}
    (hstep : ∀ s e t s', R s e t → Q s s' → ∃ t', S s' e t' ∧ Q t t')
    (h : Run R s es t) (hs : Q s s') : ∃ t', Run S s' es t' ∧ Q t t' := by
  have hruns : ∀ s e t s', R s e t → Q s s' → ∃ t', Run S s' [e] t' ∧ Q t t' := by
    intro s e t s' he hQ
    obtain ⟨t', ht', hQ'⟩ := hstep s e t s' he hQ
    exact ⟨t', single ht', hQ'⟩
  obtain ⟨t', hrun, hQ⟩ := h.simulates_runs hruns hs
  rw [List.flatMap_singleton'] at hrun
  exact ⟨t', hrun, hQ⟩

/-- Where the label of a step determines the state after it, so do the labels of a run. -/
theorem functional (hR : ∀ s e t u, R s e t → R s e u → t = u) (h : Run R s es t)
    (h' : Run R s es u) : t = u := by
  induction h generalizing u with
  | nil => exact h'.nil_inv.symm
  | snoc _ hstep ih =>
      obtain ⟨v, hrun, hstep'⟩ := h'.snoc_inv
      rw [← ih hrun] at hstep'
      exact hR _ _ _ _ hstep hstep'

/-- Where some step from each state that falls short of a goal takes a measure down, a run
leads to the goal. -/
theorem exists_of_decreases {I Q : σ → Prop} (m : σ → ℕ)
    (hstep : ∀ s, I s → ¬ Q s → ∃ e t, R s e t ∧ I t ∧ m t < m s) (hs : I s) :
    ∃ es t, Run R s es t ∧ Q t := by
  induction hm : m s using Nat.strongRecOn generalizing s with
  | ind n ih =>
      by_cases hQ : Q s
      · exact ⟨[], s, nil, hQ⟩
      · obtain ⟨e, t, he, ht, hlt⟩ := hstep s hs hQ
        rw [hm] at hlt
        obtain ⟨es, u, hrun, hu⟩ := ih (m t) hlt ht rfl
        exact ⟨e :: es, u, cons he hrun, hu⟩

/-- What every step keeps, or answers with an event, holds at the end of a run
in which the event did not occur. -/
theorem keeps_or_occurs {I : σ → Prop} {E : σ → ι → σ → Prop}
    (hstep : ∀ s e t, R s e t → I s → I t ∨ E s e t)
    (h : Run R s es t) (hs : I s) : I t ∨ Occurs R E s es t := by
  induction h with
  | nil => exact Or.inl hs
  | snoc hrun he ih =>
      rcases ih with ih | ih
      · rcases hstep _ _ _ he ih with hI | hE
        · exact Or.inl hI
        · exact Or.inr (Occurs.now hrun he hE)
      · exact Or.inr (Occurs.later ih he)

end Run

/-!
## Traces
-/

/-- The finite runs of `R` from `s`, with what `f` reads off their steps, in order. -/
inductive Trace {α : Type*} (R : σ → ι → σ → Prop) (f : σ → ι → List α) (s : σ) :
    List ι → List α → σ → Prop
  | nil : Trace R f s [] [] s
  | snoc {es : List ι} {as : List α} {t : σ} {e : ι} {u : σ} :
      Trace R f s es as t → R t e u → Trace R f s (es ++ [e]) (as ++ f t e) u

theorem Trace.run {α : Type*} {R : σ → ι → σ → Prop} {f : σ → ι → List α} {s t : σ}
    {es : List ι} {as : List α} (h : Trace R f s es as t) : Run R s es t := by
  induction h with
  | nil => exact Run.nil
  | snoc _ hstep ih => exact Run.snoc ih hstep

/-- Every run has its trace. -/
theorem Run.exists_trace {α : Type*} {R : σ → ι → σ → Prop} (f : σ → ι → List α) {s t : σ}
    {es : List ι} (h : Run R s es t) : ∃ as, Trace R f s es as t := by
  induction h with
  | nil => exact ⟨[], Trace.nil⟩
  | snoc _ hstep ih =>
      obtain ⟨as, htrace⟩ := ih
      exact ⟨_, Trace.snoc htrace hstep⟩

theorem Trace.snoc_inv {α : Type*} {R : σ → ι → σ → Prop} {f : σ → ι → List α} {s u : σ}
    {es : List ι} {e : ι} {as : List α} (h : Trace R f s (es ++ [e]) as u) :
    ∃ bs t, Trace R f s es bs t ∧ R t e u ∧ as = bs ++ f t e := by
  generalize hes : es ++ [e] = all at h
  cases h with
  | nil => exact absurd hes (List.append_ne_nil_of_right_ne_nil _ (List.cons_ne_nil _ _))
  | snoc htrace hstep =>
      obtain ⟨rfl, he⟩ := List.append_inj' hes rfl
      obtain rfl := List.singleton_inj.1 he
      exact ⟨_, _, htrace, hstep, rfl⟩

/-- The first steps of a trace, where the labels determine the states. -/
theorem Trace.of_prefix {α : Type*} {R : σ → ι → σ → Prop} {f : σ → ι → List α} {s t u : σ}
    {es js : List ι} {as : List α} (hR : ∀ s e t u, R s e t → R s e u → t = u)
    (h : Trace R f s es as t) (hjs : js <+: es) (hrun : Run R s js u) :
    ∃ bs, bs <+: as ∧ Trace R f s js bs u := by
  induction h with
  | nil =>
      obtain rfl := List.prefix_nil.1 hjs
      obtain rfl := hrun.nil_inv
      exact ⟨[], List.nil_prefix, Trace.nil⟩
  | snoc htrace hstep ih =>
      rcases List.prefix_concat_iff.1 hjs with rfl | hjs
      · obtain rfl := Run.functional hR hrun (Run.snoc htrace.run hstep)
        exact ⟨_, List.prefix_refl _, Trace.snoc htrace hstep⟩
      · obtain ⟨bs, hbs, hbefore⟩ := ih hjs
        exact ⟨bs, hbs.trans (List.prefix_append _ _), hbefore⟩

theorem Trace.cons {α : Type*} {R : σ → ι → σ → Prop} {f : σ → ι → List α} {s t u : σ}
    {e : ι} {es : List ι} {as : List α} (h : R s e t) (h' : Trace R f t es as u) :
    Trace R f s (e :: es) (f s e ++ as) u := by
  induction h' with
  | nil =>
      rw [List.append_nil]
      exact snoc nil h
  | snoc _ hstep ih =>
      rw [← List.append_assoc]
      exact snoc ih hstep

/-- What holds of every label of a trace holds of every step. -/
theorem Trace.and_of_forall {α : Type*} {R : σ → ι → σ → Prop} {f : σ → ι → List α} {s t : σ}
    {es : List ι} {as : List α} {P : ι → Prop} (h : Trace R f s es as t)
    (hP : ∀ e ∈ es, P e) : Trace (fun s e t => R s e t ∧ P e) f s es as t := by
  induction h with
  | nil => exact nil
  | snoc _ hstep ih =>
      refine snoc (ih fun e he => hP e (List.mem_append_left _ he)) ⟨hstep, ?_⟩
      exact hP _ (List.mem_append_right _ List.mem_cons_self)

theorem Trace.mono {α : Type*} {R R' : σ → ι → σ → Prop} {f : σ → ι → List α} {s t : σ}
    {es : List ι} {as : List α} (hR : ∀ s e t, R s e t → R' s e t) (h : Trace R f s es as t) :
    Trace R' f s es as t := by
  induction h with
  | nil => exact nil
  | snoc _ hstep ih => exact snoc ih (hR _ _ _ hstep)

/-- Run a partial step function and collect what `f` reads off its steps. -/
def execTrace {α : Type*} (step : σ → ι → Option σ) (f : σ → ι → List α) (s : σ) :
    List ι → Option (List α × σ)
  | [] => some ([], s)
  | e :: es => (step s e).bind fun t =>
      (execTrace step f t es).map fun r => (f s e ++ r.1, r.2)

theorem trace_of_execTrace {α : Type*} {step : σ → ι → Option σ} {f : σ → ι → List α}
    {s : σ} {es : List ι} {r : List α × σ} (h : execTrace step f s es = some r) :
    Trace (fun s e t => step s e = some t) f s es r.1 r.2 := by
  induction es generalizing s r with
  | nil =>
      obtain rfl := Option.some.inj h
      exact Trace.nil
  | cons e es ih =>
      obtain ⟨t, ht, hrest⟩ := Option.bind_eq_some_iff.1 h
      obtain ⟨r', hr', rfl⟩ := Option.map_eq_some_iff.1 hrest
      exact Trace.cons ht (ih hr')

/-!
## Conditions on the steps
-/

/-- A step function with a condition on the state and the label. -/
def guarded (ok : σ → ι → Bool) (step : σ → ι → Option σ) (s : σ) (e : ι) : Option σ :=
  if ok s e then step s e else none

/-- The steps that satisfy a condition on the state and the label. -/
def Guarded (ok : σ → ι → Bool) (R : σ → ι → σ → Prop) (s : σ) (e : ι) (t : σ) : Prop :=
  R s e t ∧ ok s e = true

/-- Run a partial step function under a condition; a label that is not enabled
stops it. -/
def exec (ok : σ → ι → Bool) (step : σ → ι → Option σ) (s : σ) (es : List ι) : Option σ :=
  es.foldlM (guarded ok step) s

theorem guarded_eq_some {ok : σ → ι → Bool} {step : σ → ι → Option σ} {s t : σ} {e : ι} :
    guarded ok step s e = some t ↔ Guarded ok (fun s e t => step s e = some t) s e t := by
  unfold guarded Guarded
  split
  · next hok => exact ⟨fun h => ⟨h, hok⟩, And.left⟩
  · next hok => exact ⟨nofun, fun h => absurd h.2 hok⟩

/-- A run under a condition is a run. -/
theorem Run.of_guarded {ok : σ → ι → Bool} {R : σ → ι → σ → Prop} {s t : σ} {es : List ι}
    (h : Run (Guarded ok R) s es t) : Run R s es t :=
  h.mono fun _ _ _ => And.left

theorem run_of_exec {ok : σ → ι → Bool} {step : σ → ι → Option σ} {s t : σ} {es : List ι}
    (h : exec ok step s es = some t) :
    Run (Guarded ok fun s e t => step s e = some t) s es t := by
  induction es generalizing s with
  | nil =>
      obtain rfl := Option.some.inj h
      exact Run.nil
  | cons e es ih =>
      rw [exec, List.foldlM_cons] at h
      cases hs : guarded ok step s e with
      | none => rw [hs] at h; cases h
      | some s' =>
          rw [hs] at h
          exact Run.cons (guarded_eq_some.1 hs) (ih h)

/-- A run that an execution finds, to a state with a property that can be
decided. -/
theorem exists_run_of_exec (ok : σ → ι → Bool) (step : σ → ι → Option σ) (s : σ)
    (es : List ι) (p : σ → Bool) (h : (exec ok step s es).any p = true) :
    ∃ t, Run (Guarded ok fun s e t => step s e = some t) s es t ∧ p t = true := by
  obtain ⟨t, ht, hp⟩ := (Option.any_eq_true _ _).1 h
  exact ⟨t, run_of_exec ht, hp⟩

end SosBackend
