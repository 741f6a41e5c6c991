import SosBackend.Chat.Replay

/-!
# The size of a history

A history is cut after every message to as many entries as the server is configured for,
by the index of the last entry to keep. For a size of zero that index is -1, which Redis
takes for the last entry there is: nothing is cut.
-/

namespace SosBackend

namespace Chat

open ChatServer

/-- In a run, a history has no more entries than its size after each message that is
accepted, and no player is ever sent more. -/
structure WithinSize (env : Env) (sid : String) (store : Redis.Keyspace) (is : List Input) :
    Prop where
  list : ∀ js i σ τ receive, js ++ [i] <+: is → Run (Step env) (initial store) js σ →
    acceptedAll env σ i = some (sid, receive) → Step env σ i τ →
      (τ.history sid).length ≤ env.historySize.toNat
  replay : ∀ js σ p, js <+: is → Run (Step env) (initial store) js σ →
    (σ.sendHistory env p sid).sent.length ≤ σ.sent.length + env.historySize.toNat

variable {env : Env} {σ τ : ChatServer} {sid : String} {i : Input} {is : List Input}
  {store : Redis.Keyspace}

/-- Either the size that is configured is not zero, or nothing is left in the history. -/
def Cuts (env : Env) (accepted : List ChatReceive) : Prop :=
  env.historySize.toNat ≠ 0 ∨ env.sessionTtl = 0 ∨ accepted = []

theorem Cuts.of_prefix {before accepted : List ChatReceive} (h : Cuts env accepted)
    (hbefore : before <+: accepted) : Cuts env before := by
  rcases h with hsize | httl | rfl
  · exact Or.inl hsize
  · exact Or.inr (Or.inl httl)
  · exact Or.inr (Or.inr (List.prefix_nil.1 hbefore))

theorem length_newest_le (hsize : env.historySize.toNat ≠ 0) (l : List (List UInt8)) :
    (newest env l).length ≤ env.historySize.toNat := by
  rw [newest, if_neg hsize]
  exact List.length_take_le _ _

/-- After a message the history is within its size. -/
theorem length_saved_le {accepted : List ChatReceive} {receive : ChatReceive}
    (hcuts : Cuts env (accepted ++ [receive])) (l : List (List UInt8)) :
    (kept env l).length ≤ env.historySize.toNat := by
  unfold kept
  split
  · exact Nat.zero_le _
  · next httl =>
      rcases hcuts with hsize | hzero | hnil
      · exact length_newest_le hsize l
      · exact absurd hzero httl
      · exact absurd hnil (List.append_ne_nil_of_right_ne_nil _ (List.cons_ne_nil _ _))

/-- Each entry is sent at most once. -/
theorem length_sent_sendHistoryEntries (env : Env) (entries : List (List UInt8)) (σ : ChatServer)
    (p : String) : (entries.foldl (sendHistoryEntry env p) σ).sent.length ≤
      σ.sent.length + entries.length := by
  induction entries generalizing σ with
  | nil => exact le_refl _
  | cons entry entries ih =>
      have hone : (σ.sendHistoryEntry env p entry).sent.length ≤ σ.sent.length + 1 := by
        unfold sendHistoryEntry
        split
        · exact Nat.le_succ _
        · rw [sendTo_eq, List.length_append, List.length_map]
          cases σ.reached p with
          | none => exact Nat.le_succ _
          | some s => exact le_refl _
      have hrest := ih (σ.sendHistoryEntry env p entry)
      rw [List.foldl_cons, List.length_cons]
      omega

/-- The history that is replayed is the stored one, up to the index of its last entry. -/
theorem length_sent_sendHistory (henv : env.Answers) {l : List (List UInt8)}
    (hlist : Redis.HoldsList σ.redis.store (historyKey sid) l) (p : String) :
    (σ.sendHistory env p sid).sent.length ≤ σ.sent.length + (newest env l).length := by
  obtain ⟨ks, hlrange⟩ := hlist.lrange 0 ((env.historySize.toNat : ℤ) - 1)
  rw [sendHistory, if_pos henv.connected, Redis.call_answered (henv.answered _) hlrange]
  simp only
  rw [Redis.slice_zero_pred]
  have hentries := length_sent_sendHistoryEntries env (newest env l).reverse
    { σ with redis := ⟨ks, σ.redis.issued + 1⟩ } p
  rw [List.length_reverse] at hentries
  exact hentries

/-- Under the key of the history there is a list, within the size that is configured where
it is cut. -/
theorem holdsList_of_trace (henv : env.Answers)
    (hlimiter : ∀ limiter, env.rateLimiter = some limiter → limiter.keyPrefix = "chat:rate:")
    (hstore : store.lookup (historyKey sid) = none) {accepted : List ChatReceive}
    (htrace : Trace (Step env) (acceptedFor env sid) (initial store) is accepted σ) :
    ∃ l, Redis.HoldsList σ.redis.store (historyKey sid) l ∧
      (Cuts env accepted → l.length ≤ env.historySize.toNat) := by
  induction htrace with
  | nil => exact ⟨[], Or.inl ⟨hstore, rfl⟩, fun _ => Nat.zero_le _⟩
  | @snoc is accepted υ i τ htrace hstep ih =>
      obtain ⟨l, hlist, hlength⟩ := ih
      by_cases haccepted : ∃ receive, acceptedAll env υ i = some (sid, receive)
      · obtain ⟨receive, haccepted⟩ := haccepted
        refine ⟨_, holdsList_of_saved henv hlimiter haccepted hstep hlist, ?_⟩
        rw [acceptedFor_of_accepted haccepted]
        intro hcuts
        exact length_saved_le hcuts _
      · have hnone : ∀ receive, acceptedAll env υ i ≠ some (sid, receive) :=
          fun receive heq => haccepted ⟨receive, heq⟩
        have hempty : τ.entry (historyKey sid) = none → ∃ l,
            Redis.HoldsList τ.redis.store (historyKey sid) l ∧
              (Cuts env accepted → l.length ≤ env.historySize.toNat) :=
          fun h => ⟨[], Or.inl ⟨h, rfl⟩, fun _ => Nat.zero_le _⟩
        rw [acceptedFor_eq_nil hnone, List.append_nil]
        by_cases hwrites : Writes env υ i (historyKey sid)
        · apply hempty
          rcases history_of_writes hlimiter hwrites with ⟨receive, heq⟩ |
            ⟨message, rfl, rfl, hchannel⟩
          · exact absurd heq (hnone receive)
          · obtain rfl := Option.some.inj hstep
            exact entry_of_ended henv hchannel (Or.inr rfl)
        · rcases entry_step hstep hwrites with heq | ⟨-, -, hold⟩
          · exact ⟨l, hlist.of_lookup_eq heq, hlength⟩
          · cases hentry : τ.entry (historyKey sid) with
            | none => exact hempty hentry
            | some e =>
                refine ⟨l, hlist.of_lookup_eq ?_, hlength⟩
                exact hentry.trans (hold e hentry).symm

/-- A trace in which something has been read off has a step where it was. -/
theorem exists_accepted {accepted : List ChatReceive}
    (htrace : Trace (Step env) (acceptedFor env sid) (initial store) is accepted σ)
    (hne : accepted ≠ []) :
    ∃ js before i υ τ receive, js ++ [i] <+: is ∧
      Trace (Step env) (acceptedFor env sid) (initial store) js before υ ∧
      Step env υ i τ ∧ acceptedAll env υ i = some (sid, receive) := by
  induction htrace with
  | nil => exact absurd rfl hne
  | @snoc is accepted υ i τ htrace hstep ih =>
      by_cases haccepted : ∃ receive, acceptedAll env υ i = some (sid, receive)
      · obtain ⟨receive, haccepted⟩ := haccepted
        exact ⟨is, accepted, i, υ, τ, receive, List.prefix_refl _, htrace, hstep, haccepted⟩
      · rw [acceptedFor_eq_nil fun receive heq => haccepted ⟨receive, heq⟩, List.append_nil]
          at hne
        obtain ⟨js, before, j, υ', τ', receive, hjs, hrest⟩ := ih hne
        exact ⟨js, before, j, υ', τ', receive, hjs.trans (List.prefix_append _ _), hrest⟩

/-- A history stays within its size if and only if the size is not zero, or every history
is deleted at once, or nothing is accepted. -/
theorem withinSize_iff (henv : env.Answers)
    (hlimiter : ∀ limiter, env.rateLimiter = some limiter → limiter.keyPrefix = "chat:rate:")
    (hstore : store.lookup (historyKey sid) = none) {accepted : List ChatReceive}
    (htrace : Trace (Step env) (acceptedFor env sid) (initial store) is accepted σ) :
    WithinSize env sid store is ↔
      env.historySize.toNat ≠ 0 ∨ env.sessionTtl = 0 ∨ accepted = [] := by
  have hunique : ∀ (σ : ChatServer) (i : Input) (τ υ : ChatServer),
      Step env σ i τ → Step env σ i υ → τ = υ :=
    fun σ i τ υ hτ hυ => Option.some.inj (hτ.symm.trans hυ)
  constructor
  · intro h
    by_contra hnot
    rw [not_or, not_or, not_not] at hnot
    obtain ⟨hzero, httl, hne⟩ := hnot
    obtain ⟨js, before, i, υ, τ, receive, hjs, hbefore, hstep, haccepted⟩ :=
      exists_accepted htrace hne
    obtain ⟨l, hlist, -⟩ := holdsList_of_trace henv hlimiter hstore hbefore
    have hafter := history_of_holdsList
      (holdsList_of_accepted henv httl hlimiter haccepted hstep hlist)
    have hlength := h.list js i υ τ receive hjs hbefore.run haccepted hstep
    -- nothing has been cut
    rw [hafter, newest, if_pos hzero, hzero] at hlength
    exact absurd hlength (Nat.not_succ_le_zero _)
  · intro h
    constructor
    · intro js i υ τ receive hjs hrun haccepted hstep
      obtain ⟨bs, hbs, hall⟩ := htrace.of_prefix hunique hjs (Run.snoc hrun hstep)
      obtain ⟨cs, υ', hbefore, -, rfl⟩ := hall.snoc_inv
      obtain rfl := hrun.functional hunique hbefore.run
      rw [acceptedFor_of_accepted haccepted] at hbs
      obtain ⟨l, hlist, -⟩ := holdsList_of_trace henv hlimiter hstore hbefore
      rw [history_of_holdsList (holdsList_of_saved henv hlimiter haccepted hstep hlist)]
      exact length_saved_le (Cuts.of_prefix h hbs) _
    · intro js υ p hjs hrun
      obtain ⟨bs, hbs, hbefore⟩ := htrace.of_prefix hunique hjs hrun
      obtain ⟨l, hlist, hlength⟩ := holdsList_of_trace henv hlimiter hstore hbefore
      have hsent := length_sent_sendHistory henv hlist p
      have hnewest : (newest env l).length ≤ l.length := by
        rw [newest]
        split
        · exact le_refl _
        · exact List.length_take_le' _ _
      have hbound := hlength (Cuts.of_prefix h hbs)
      omega

/-- One message in a session of the default size. -/
theorem withinSize_iff_default : WithinSize defaultEnv "s" {} [.connect 0,
    .internalMessage (.sessionCreated ⟨"s", []⟩), .message 0 (.auth ⟨"p", "s", "P"⟩),
    .message 0 (.send ⟨.all, "hi", ""⟩)] := by
  have hrun : (execTrace (step defaultEnv) (acceptedFor defaultEnv "s") (initial {})
      [.connect 0, .internalMessage (.sessionCreated ⟨"s", []⟩),
        .message 0 (.auth ⟨"p", "s", "P"⟩), .message 0 (.send ⟨.all, "hi", ""⟩)]).isSome =
      true := by
    decide +kernel
  obtain ⟨r, hr⟩ := Option.isSome_iff_exists.1 hrun
  refine (withinSize_iff ⟨rfl, fun _ => rfl⟩ (fun limiter hlimiter => ?_) ?_
    (trace_of_execTrace hr)).2 (Or.inl (by decide))
  · cases hlimiter
    rfl
  · exact Option.isNone_iff_eq_none.1 (by decide)

/-- A history of size zero has a message in it after the first one. -/
theorem not_withinSize_zero : ¬ WithinSize { defaultEnv with historySize := 0 } "s" {}
    [.connect 0, .internalMessage (.sessionCreated ⟨"s", []⟩),
      .message 0 (.auth ⟨"p", "s", "P"⟩), .message 0 (.send ⟨.all, "hi", ""⟩)] := by
  intro hclaim
  generalize henv : { defaultEnv with historySize := 0 } = env at hclaim
  have hrun : (execTrace (step env) (acceptedFor env "s") (initial {}) [.connect 0,
      .internalMessage (.sessionCreated ⟨"s", []⟩), .message 0 (.auth ⟨"p", "s", "P"⟩)]).any
        (fun r => (acceptedAll env r.2 (.message 0 (.send ⟨.all, "hi", ""⟩))).any
            (fun a => a.1 == "s") &&
          (step env r.2 (.message 0 (.send ⟨.all, "hi", ""⟩))).any
            fun τ => (τ.history "s").length == 1) = true := by
    rw [← henv]
    decide +kernel
  obtain ⟨⟨before, σ⟩, htrace, hlast⟩ := (Option.any_eq_true _ _).1 hrun
  rw [Bool.and_eq_true] at hlast
  obtain ⟨⟨sid, receive⟩, haccepted, hsid⟩ := (Option.any_eq_true _ _).1 hlast.1
  obtain ⟨τ, hstep, hlength⟩ := (Option.any_eq_true _ _).1 hlast.2
  obtain rfl : sid = "s" := beq_iff_eq.1 hsid
  have hbound := hclaim.list _ _ σ τ receive (List.prefix_refl _) (trace_of_execTrace htrace).run
    haccepted hstep
  rw [beq_iff_eq.1 hlength, ← henv] at hbound
  exact absurd hbound (by decide)

end Chat

end SosBackend
