/-
# Jobs.Retried -- cancelling a job again after the store failed

`cancel` takes the job's callback before its transaction, and a transaction that fails does not
give it back.  A run is observed with two counts: the calls of `cancel` that committed, and how
often the callback's thread was started.

* `cancel_survives_iff`: **the callback is called for the first call that commits, and never twice,
  and a call that raises can be made again, exactly if no call raises that would have taken the
  callback and the registry is not closed before the callback's thread is registered**.
-/
import EmbodiRun.Jobs.Once

namespace EmbodiRun.Jobs

open Data Devices Application Transition Bool Function Prod

def Session.live (s : Session) (key : JobKey) : Bool :=
  !s.closed && (s.rows.get? key).any (fun row => !row.status.terminal) && (s.runtimes key).isSome

open Session

/-- The next call of `cancel` takes the job's callback. -/
def Session.owes (s : Session) (key : JobKey) : Bool :=
  (s.runtimes key).any fun runtime => runtime.hasCancel && !runtime.cancelInvoked

/-- A run with the calls of `cancel` that committed and the callbacks that were called. -/
structure Calls where
  session : Session
  committed : Nat := 0
  invoked : Nat := 0

open Calls

/-- The section is a call of `cancel` on the live job that commits. -/
def commits (key : JobKey) (s : Session) : Section → Bool
  | .cancel k true => k = key && s.live key
  | _ => false

/-- The section is a call of `cancel` on the live job. -/
def acts (key : JobKey) (s : Session) : Section → Bool
  | .cancel k _ => k = key && s.live key
  | _ => false

theorem commits_of_idle {key} {s} {part} (idle : acts key s part = false) : commits key s part = false := by
  cases part with
  | cancel k ok =>
    cases ok with
    | true => exact idle
    | false => rfl
  | _ => rfl

def starts (key : JobKey) : Section → Bool
  | .startCanceller k => k = key
  | _ => false

def Calls.step (key : JobKey) (c : Calls) (part : Section) : Option Calls :=
  (c.session.step part).map fun t =>
    { session := t
      committed := c.committed + (commits key c.session part).toNat
      invoked := c.invoked + (starts key part).toNat }

def Session.cell (s : Session) (key : JobKey) : Option Runtime × Option Canceller :=
  (s.runtimes key, s.cancellers key)

def Runtime.taken (runtime : Runtime) : Runtime := { runtime with cancelEvent := true, cancelInvoked := true }

/-- The runtime stays, is dropped, or has its event set by `close`. -/
def Stays (before after : Option Runtime) : Prop :=
  after = before ∨ after = none ∨ ∃ runtime, before = some runtime ∧ after = some { runtime with cancelEvent := true }

inductive Turn (key : JobKey) (s : Session) : Section → Option Runtime × Option Canceller → Prop where
  | other {part : Section} {runtime : Option Runtime} (idle : acts key s part = false)
      (unstarted : starts key part = false) (stays : Stays (s.runtimes key) runtime) :
      Turn key s part (runtime, s.cancellers key)
  | fail {runtime : Runtime} (live : s.live key = true) (held : s.runtimes key = some runtime) :
      Turn key s (.cancel key false) (some runtime.taken, s.cancellers key)
  | take {runtime : Runtime} (live : s.live key = true) (held : s.runtimes key = some runtime)
      (owes : s.owes key = true) : Turn key s (.cancel key true) (some runtime.taken, some .chosen)
  | again {runtime : Runtime} (live : s.live key = true) (held : s.runtimes key = some runtime)
      (taken : s.owes key = false) :
      Turn key s (.cancel key true) (some runtime.taken, s.cancellers key)
  | drop (closed : s.closed = true) (chosen : s.cancellers key = some .chosen) :
      Turn key s (.register key) (s.runtimes key, some .dropped)
  | register (open_ : s.closed = false) (chosen : s.cancellers key = some .chosen) :
      Turn key s (.register key) (s.runtimes key, some .registered)
  | start (registered : s.cancellers key = some .registered) :
      Turn key s (.startCanceller key) (s.runtimes key, some .calling)
  | go {part : Section} {before after : Canceller} (idle : acts key s part = false)
      (unstarted : starts key part = false) (here : s.cancellers key = some before)
      (called : before.started = true) (later : after.started = true) :
      Turn key s part (s.runtimes key, some after)

section

variable {s t : Session} {key k : JobKey} {part : Section}

theorem setRuntime_cell (runtime : Option Runtime) :
    (s.setRuntime k runtime).cell key = if key = k then (runtime, s.cancellers key) else s.cell key := by
  by_cases same : key = k
  · subst same
    simp [setRuntime, cell]
  · simp [setRuntime, cell, same]

theorem setCanceller_cell (canceller : Canceller) :
    (s.setCanceller k canceller).cell key = if key = k then (s.runtimes key, some canceller) else s.cell key := by
  by_cases same : key = k
  · subst same
    simp [setCanceller, cell]
  · simp [setCanceller, cell, same]

theorem Turn.keep (idle : acts key s part = false) (unstarted : starts key part = false)
    (same : t.cell key = s.cell key) :
    Turn key s part (t.cell key) :=
  same ▸ .other idle unstarted (.inl rfl)

theorem submit_turn {parameters : Fields} {runId : Text} {hasCancel inferenceRequested ok : Bool}
    (present : (s.rows.get? key).isSome) :
    (s.submit k parameters runId hasCancel inferenceRequested ok).1.cell key = s.cell key := by
  unfold submit
  split
  · rfl
  split
  · rfl
  split
  · rfl
  rename_i absent
  split
  · rfl
  split
  · rfl
  have other : key ≠ k := by
    rintro rfl
    rw [absent] at present
    cases present
  change (setRuntime _ k _).cell key = _
  rw [setRuntime_cell, if_neg other]
  rfl

theorem cancel_turn (ok : Bool) : Turn key s (.cancel k ok) ((s.cancel k ok).1.cell key) := by
  by_cases other : key = k
  · subst other
    unfold cancel
    -- Where the call does not go through, the job is not live.
    have still (dead : s.live key = false) : Turn key s (.cancel key ok) (s.cell key) :=
      .other (by simp [acts, dead]) rfl (.inl rfl)
    split
    · rename_i shut
      exact still (by simp [live, shut])
    rename_i open_
    split
    · rename_i absent
      exact still (by simp [live, absent])
    rename_i row found
    split
    · rename_i ended
      exact still (by simp [live, found, ended])
    rename_i early
    split
    · rename_i gone
      exact still (by simp [live, gone])
    rename_i runtime held
    have live : s.live key = true := by simp [live, open_, found, early, held]
    have owes : s.owes key = (runtime.hasCancel && !runtime.cancelInvoked) := by rw [owes, held]; rfl
    have cell : (s.access.setRuntime key (some runtime.taken)).cell key = (some runtime.taken, s.cancellers key) := by
      rw [setRuntime_cell, if_pos rfl]
      rfl
    dsimp only
    split
    · rename_i committed
      subst committed
      split
      · rename_i first
        rw [setCanceller_cell, if_pos rfl]
        have taken : (s.access.setRuntime key (some runtime.taken)).runtimes key = some runtime.taken :=
          update_self ..
        change Turn key s _ ((s.access.setRuntime key (some runtime.taken)).runtimes key, _)
        rw [taken]
        exact .take live held (owes.trans first)
      · rename_i later
        change Turn key s _ ((s.access.setRuntime key (some runtime.taken)).cell key)
        rw [cell]
        exact .again live held (owes.trans (eq_false_of_not_eq_true later))
    · rename_i raised
      obtain rfl : ok = false := eq_false_of_not_eq_true raised
      change Turn key s _ ((s.access.setRuntime key (some runtime.taken)).cell key)
      rw [cell]
      exact .fail live held
  · refine .keep (by simp [acts, Ne.symm other]) rfl ?_
    unfold cancel
    split
    · rfl
    split
    · rfl
    split
    · rfl
    split
    · rfl
    dsimp only
    split
    · split
      · rw [setCanceller_cell, if_neg other]
        exact (setRuntime_cell _).trans (if_neg other)
      · exact (setRuntime_cell _).trans (if_neg other)
    · exact (setRuntime_cell _).trans (if_neg other)

theorem cellOnly_turn (idle : acts key s part = false) (unstarted : starts key part = false) {runtime : Option Runtime}
    (stays : Stays (s.runtimes k) runtime) {u : Session} (same : u.cell key = s.cell key) :
    Turn key s part ((u.setRuntime k runtime).cell key) := by
  rw [setRuntime_cell]
  by_cases about : key = k
  · subst about
    rw [if_pos rfl, show u.cancellers key = s.cancellers key from congrArg snd same]
    exact .other idle unstarted stays
  · rw [if_neg about, same]
    exact .other idle unstarted (.inl rfl)

theorem runJob_turn (ok : Bool) : Turn key s (.runJob k ok) ((s.runJob k ok).cell key) := by
  unfold runJob
  split
  · exact .keep rfl rfl rfl
  split
  · exact .keep rfl rfl rfl
  split
  · exact .keep rfl rfl rfl
  split
  · split
    · exact cellOnly_turn rfl rfl (.inr (.inl rfl)) rfl
    · exact .keep rfl rfl rfl
  · split <;> exact .keep rfl rfl rfl
  · exact .keep rfl rfl rfl

theorem finishJob_turn (outcome : Outcome) (ok : Bool) :
    Turn key s (.finishJob k ok) ((s.finishJob k outcome ok).cell key) := by
  unfold finishJob
  split
  · exact cellOnly_turn rfl rfl (.inr (.inl rfl)) rfl
  split
  · exact cellOnly_turn rfl rfl (.inr (.inl rfl)) rfl
  split
  · exact cellOnly_turn rfl rfl (.inr (.inl rfl)) rfl
  · exact .keep rfl rfl rfl

theorem close_turn (c : Nat) (ok : Bool) : Turn key s (.close c ok) ((s.close c ok).cell key) := by
  unfold close
  split
  · exact .keep rfl rfl rfl
  split
  · exact .keep rfl rfl rfl
  split
  · refine .other rfl rfl ?_
    change Stays (s.runtimes key) ((s.runtimes key).map fun runtime => { runtime with cancelEvent := true })
    cases s.runtimes key with
    | none => exact .inl rfl
    | some runtime => exact .inr (.inr ⟨runtime, rfl, rfl⟩)
  · exact .keep rfl rfl rfl

theorem canceller_turn {u : Session} {before after : Canceller} (idle : acts key s part = false)
    (unstarted : starts key part = false) (here : s.cancellers k = some before) (called : before.started = true)
    (later : after.started = true) (same : u.cell key = s.cell key) :
    Turn key s part ((u.setCanceller k after).cell key) := by
  rw [setCanceller_cell]
  by_cases about : key = k
  · subst about
    rw [if_pos rfl, show u.runtimes key = s.runtimes key from congrArg fst same]
    exact .go idle unstarted here called later
  · rw [if_neg about, same]
    exact .other idle unstarted (.inl rfl)

theorem cancelResult_turn {answer : Outcome} (ok : Bool) (here : s.cancellers k = some (.answered answer)) :
    Turn key s (.cancelResult k ok) ((s.cancelResult k answer ok).cell key) := by
  have cleared : Turn key s (.cancelResult k ok) ((s.setCanceller k .clearing).cell key) :=
    canceller_turn rfl rfl here rfl rfl rfl
  unfold cancelResult
  split
  · exact cleared
  split
  · exact cleared
  split
  · split <;> exact cleared
  · exact cleared

/-- **What a section does to the callback of a job** that has a row. -/
theorem turn_step (present : (s.rows.get? key).isSome) (next : s.step part = some t) :
    Turn key s part (t.cell key) := by
  cases part with simp only [Session.step] at next
  | submit =>
    cases next
    exact .keep rfl rfl (submit_turn present)
  | inspect =>
    cases next
    refine .keep rfl rfl ?_
    unfold inspect
    split
    · rfl
    split <;> rfl
  | recordStage =>
    cases next
    refine .keep rfl rfl ?_
    unfold recordStage
    split
    · rfl
    split
    · rfl
    split <;> rfl
  | cancel k ok =>
    cases next
    exact cancel_turn ok
  | register k =>
    split at next
    · rename_i chosen
      cases next
      unfold register
      by_cases about : key = k
      · subst about
        split
        · rename_i closed
          rw [setCanceller_cell, if_pos rfl]
          exact .drop closed chosen
        · rename_i open_
          rw [setCanceller_cell, if_pos rfl]
          exact .register (eq_false_of_not_eq_true open_) chosen
      · refine .keep rfl rfl ?_
        split <;> exact (setCanceller_cell _).trans (if_neg about)
    · cases next
  | startCanceller k =>
    split at next
    · rename_i registered
      cases next
      by_cases about : key = k
      · subst about
        rw [setCanceller_cell, if_pos rfl]
        exact .start registered
      · exact .keep rfl (decide_eq_false (Ne.symm about)) ((setCanceller_cell _).trans (if_neg about))
    · cases next
  | answer k answer =>
    split at next
    · rename_i calling
      cases next
      exact canceller_turn rfl rfl calling rfl rfl rfl
    · cases next
  | cancelResult k ok =>
    split at next
    · rename_i answered
      cases next
      exact cancelResult_turn ok answered
    · cases next
  | discard k =>
    split at next
    · rename_i clearing
      cases next
      exact canceller_turn (u := { s with cancelWorkers := s.cancelWorkers.filter fun l => l ≠ k })
        rfl rfl clearing rfl rfl rfl
    · cases next
  | runJob k ok =>
    split at next <;> cases next
    exact runJob_turn ok
  | execute | closeStore =>
    split at next <;> cases next
    exact .keep rfl rfl rfl
  | finishJob k ok =>
    split at next
    · rename_i outcome executed
      cases next
      exact finishJob_turn outcome ok
    · cases next
  | close c ok =>
    split at next <;> cases next
    exact close_turn c ok
  | join =>
    split at next
    · split at next <;> cases next <;> exact .keep rfl rfl rfl
    · cases next
  | alive =>
    split at next
    · split at next
      · cases next
        exact .keep rfl rfl rfl
      split at next <;> cases next
      exact .keep rfl rfl rfl
    · cases next

end

/-! ## The callback of one job -/

/-- Where the callback of a job stands: there is none, no call has taken it, the call that took it is
about to start its thread, or the thread was started. -/
inductive Phase : Bool → Nat → Nat → Option Runtime × Option Canceller → Prop where
  | bare {n : Nat} {runtime : Option Runtime}
      (without : ∀ r, runtime = some r → r.hasCancel = false) : Phase false n 0 (runtime, none)
  | fresh {runtime : Option Runtime}
      (untaken : ∀ r, runtime = some r → r.hasCancel = true ∧ r.cancelInvoked = false) :
      Phase true 0 0 (runtime, none)
  | underway {n : Nat} {runtime : Option Runtime} {canceller : Canceller}
      (waits : canceller = .chosen ∨ canceller = .registered) (some' : 0 < n)
      (taken : ∀ r, runtime = some r → r.cancelInvoked = true) :
      Phase true n 0 (runtime, some canceller)
  | called {n : Nat} {runtime : Option Runtime} {canceller : Canceller}
      (started : canceller.started = true) (taken : ∀ r, runtime = some r → r.cancelInvoked = true) :
      Phase true n 1 (runtime, some canceller)

/-- The first call of `cancel` that committed has had the callback called, unless that call is about to
do so, and it was not called twice. -/
def Calls.Served (key : JobKey) (hasCancel : Bool) (c : Calls) : Prop :=
  (hasCancel = true → 0 < c.committed → c.invoked = 1 ∨
    c.session.cancellers key = some .chosen ∨ c.session.cancellers key = some .registered) ∧ c.invoked ≤ 1

/-- A call of `cancel` on the live job that raises can be made again as if it had not been made. -/
def Retriable (key : JobKey) (c : Calls) (part : Section) : Prop :=
  part = .cancel key false → c.session.live key = true →
    ∀ ok, (c.session.cancel key false).1.cancel key ok = c.session.cancel key ok

/-- No call raises that would have taken the callback, and the registry is not closed before the
callback's thread is registered. -/
def Spared (key : JobKey) (c : Calls) (part : Section) : Prop :=
  ¬ (part = .cancel key false ∧ c.session.live key = true ∧ c.session.owes key = true) ∧
    ¬ (part = .register key ∧ c.session.closed = true)

theorem Stays.keep {P : Runtime → Prop} {before after : Option Runtime} (stays : Stays before after)
    (event : ∀ r, P r → P { r with cancelEvent := true }) (holds : ∀ r, before = some r → P r) :
    ∀ r, after = some r → P r := by
  rintro r rfl
  rcases stays with same | gone | ⟨runtime, here, same⟩
  · exact holds r same.symm
  · cases gone
  · cases same
    exact event runtime (holds runtime here)

section

variable {key : JobKey} {hasCancel : Bool} {n m : Nat} {s : Session} {part : Section}

theorem Phase.fresh_of_owes (phase : Phase hasCancel n m (s.cell key)) :
    s.owes key = true → s.cancellers key = none ∧ hasCancel = true := by
  intro owes
  obtain ⟨runtime, held, both⟩ : ∃ r, s.runtimes key = some r ∧ (r.hasCancel = true ∧ r.cancelInvoked = false) := by
    simpa [Session.owes, Option.any_eq_true] using owes
  generalize cell : s.cell key = pair at phase
  cases phase with
  | bare without =>
    have := without runtime ((congrArg fst cell).symm.trans held)
    rw [both.1] at this
    cases this
  | fresh => exact ⟨congrArg snd cell, rfl⟩
  | underway _ _ taken | called _ taken =>
    have := taken runtime ((congrArg fst cell).symm.trans held)
    rw [both.2] at this
    cases this
variable {runtime : Runtime}

theorem owes_of (held : s.runtimes key = some runtime)
    (both : runtime.hasCancel = true ∧ runtime.cancelInvoked = false) : s.owes key = true := by
  rw [owes, held]
  simp [both]

theorem owes_has (held : s.runtimes key = some runtime) (owes : s.owes key = true) : runtime.hasCancel = true := by
  rw [Session.owes, held] at owes
  exact (and_eq_true _ _ ▸ owes :).1

theorem Phase.turn {cell : Option Runtime × Option Canceller} (phase : Phase hasCancel n m (s.cell key))
    (turn : Turn key s part cell) (spared : Spared key ⟨s, n, m⟩ part) :
    Phase hasCancel (n + (commits key s part).toNat) (m + (starts key part).toNat) cell := by
  generalize here : s.cell key = pair at phase
  have runtimes : s.runtimes key = pair.1 := congrArg fst here
  have cancellers : s.cancellers key = pair.2 := congrArg snd here
  have mark (r : Runtime) : r.taken.cancelInvoked = true := rfl
  cases turn with
  | other idle unstarted stays =>
    rw [commits_of_idle idle, unstarted, cancellers]
    rw [runtimes] at stays
    cases phase with
    | bare without => exact .bare (stays.keep (fun _ kept => kept) without)
    | fresh untaken => exact .fresh (stays.keep (fun _ kept => kept) untaken)
    | underway waits some' taken => exact .underway waits some' (stays.keep (fun _ kept => kept) taken)
    | called started taken => exact .called started (stays.keep (fun _ kept => kept) taken)
  | @fail runtime live held =>
    rw [cancellers]
    rw [runtimes] at held
    cases phase with
    | bare without =>
      refine .bare ?_
      rintro r same
      cases same
      exact without runtime held
    | fresh untaken =>
      exact absurd ⟨rfl, live, owes_of (runtimes.trans held) (untaken runtime held)⟩ spared.1
    | underway waits some' => exact .underway waits some' fun r same => (Option.some.inj same ▸ mark runtime)
    | called started => exact .called started fun r same => (Option.some.inj same ▸ mark runtime)
  | @take runtime live held owes =>
    have counted : commits key s (.cancel key true) = true := by simp [commits, live]
    rw [counted]
    have none' := (Phase.fresh_of_owes (here ▸ phase) owes).1
    cases phase with
    | bare without => exact nomatch (without runtime (runtimes.symm.trans held)).symm.trans (owes_has held owes)
    | fresh => exact .underway (.inl rfl) (Nat.succ_pos 0) fun r same => (Option.some.inj same ▸ mark runtime)
    | underway | called => exact nomatch cancellers.symm.trans none'
  | @again runtime live held taken =>
    have counted : commits key s (.cancel key true) = true := by simp [commits, live]
    rw [counted, cancellers]
    rw [runtimes] at held
    cases phase with
    | bare without =>
      refine .bare ?_
      rintro r same
      cases same
      exact without runtime held
    | fresh untaken =>
      rw [owes_of (runtimes.trans held) (untaken runtime held)] at taken
      cases taken
    | underway waits => exact .underway waits (Nat.succ_pos _) fun r same => (Option.some.inj same ▸ mark runtime)
    | called started => exact .called started fun r same => (Option.some.inj same ▸ mark runtime)
  | drop closed => exact absurd ⟨rfl, closed⟩ spared.2
  | register _ chosen =>
    rw [runtimes]
    rw [cancellers] at chosen
    cases phase with
    | bare | fresh => cases chosen
    | underway _ some' taken => exact .underway (.inr rfl) some' taken
    | called started =>
      cases chosen
      cases started
  | start registered =>
    have counted : starts key (.startCanceller key) = true := by simp [starts]
    rw [counted, runtimes]
    rw [cancellers] at registered
    cases phase with
    | bare | fresh => cases registered
    | underway _ _ taken => exact .called rfl taken
    | called started =>
      cases registered
      cases started
  | go idle unstarted before called later =>
    rw [commits_of_idle idle, unstarted, runtimes]
    rw [cancellers] at before
    cases phase with
    | bare | fresh => cases before
    | underway waits =>
      cases before
      rcases waits with rfl | rfl <;> cases called
    | called _ taken => exact .called later taken

end

/-! ## Runs -/

section

variable {key : JobKey} {hasCancel : Bool} {s t : Session} {c d : Calls} {part : Section}

theorem crashed_step (next : s.step part = some t) : t.crashed = s.crashed := by
  cases about : part.key? with
  | some => exact (passes_step next about).same.crashed
  | none =>
    cases part with
    | close =>
      simp only [Session.step] at next
      split at next <;> cases next
      unfold close
      split
      · rfl
      split
      · rfl
      split <;> rfl
    | join =>
      simp only [Session.step] at next
      split at next
      · split at next <;> exact Option.some.inj next ▸ rfl
      · cases next
    | alive =>
      simp only [Session.step] at next
      split at next
      · split at next
        · exact Option.some.inj next ▸ rfl
        split at next
        · cases next
        · exact Option.some.inj next ▸ rfl
      · cases next
    | closeStore =>
      simp only [Session.step] at next
      split at next
      · exact Option.some.inj next ▸ rfl
      · cases next
    | _ => cases about

structure Ledger (key : JobKey) (hasCancel : Bool) (c : Calls) : Prop where
  alive : c.session.crashed = false
  present : (c.session.rows.get? key).isSome
  phase : Phase hasCancel c.committed c.invoked (c.session.cell key)

theorem Calls.step_some (next : c.step key part = some d) : c.session.step part = some d.session ∧
    d.committed = c.committed + (commits key c.session part).toNat ∧
    d.invoked = c.invoked + (starts key part).toNat := by
  obtain ⟨t, inner, rfl⟩ := Option.map_eq_some_iff.mp next
  exact ⟨inner, rfl, rfl⟩

theorem Ledger.keep (ledger : Ledger key hasCancel c) (spared : Spared key c part) (next : c.step key part = some d) :
    Ledger key hasCancel d := by
  obtain ⟨inner, committed, invoked⟩ := step_some next
  obtain ⟨row, here⟩ := Option.isSome_iff_exists.mp ledger.present
  obtain ⟨later, there, _⟩ := (step_moves ledger.alive inner key).kept here
  have there : d.session.rows.get? key = some later := there
  refine ⟨(crashed_step inner).trans ledger.alive, by rw [there]; rfl, ?_⟩
  rw [committed, invoked]
  exact ledger.phase.turn (turn_step ledger.present inner) spared

theorem Ledger.served (ledger : Ledger key hasCancel c) : c.Served key hasCancel := by
  have phase := ledger.phase
  unfold Calls.Served
  generalize here : c.session.cell key = pair at phase
  have cancellers : c.session.cancellers key = pair.2 := congrArg snd here
  generalize c.committed = n at phase ⊢
  generalize c.invoked = m at phase ⊢
  cases phase with
  | bare => exact ⟨nofun, Nat.zero_le 1⟩
  | fresh => exact ⟨fun _ some' => absurd some' (Nat.lt_irrefl 0), Nat.zero_le 1⟩
  | underway waits =>
    rw [cancellers]
    exact ⟨fun _ _ => .inr (waits.imp (congrArg some) (congrArg some)), Nat.zero_le 1⟩
  | called => exact ⟨fun _ _ => .inl rfl, Nat.le_refl 1⟩

theorem retriable_of_spared (spared : Spared key c part) : Retriable key c part := by
  rintro rfl live ok
  have taken : c.session.owes key = false := eq_false_of_not_eq_true fun owes => spared.1 ⟨rfl, live, owes⟩
  obtain ⟨s, _, _⟩ := c
  dsimp only at live taken ⊢
  simp only [Session.live, and_eq_true, not_eq_true', Option.any_eq_true] at live
  obtain ⟨⟨open_, row, found, early⟩, held⟩ := live
  obtain ⟨runtime, held⟩ := Option.isSome_iff_exists.mp held
  have taken : (runtime.hasCancel && !runtime.cancelInvoked) = false := by rwa [Session.owes, held] at taken
  have none' : (runtime.hasCancel && !runtime.taken.cancelInvoked) = false := by simp [Runtime.taken]
  let raised := s.access.setRuntime key (some runtime.taken)
  have raises : (s.cancel key false).1 = raised := by
    simp [Session.cancel, open_, found, early, held, raised, Runtime.taken]
  have open' : raised.closed = false := open_
  have found' : raised.rows.get? key = some row := found
  have held' : raised.runtimes key = some runtime.taken := update_self ..
  have again : raised.access.setRuntime key (some runtime.taken) = raised := by
    simp [raised, Session.access, Session.setRuntime, update_idem]
  have same : ({ runtime.taken with cancelEvent := true, cancelInvoked := true } : Runtime) = runtime.taken := rfl
  rw [raises]
  unfold Session.cancel
  simp only [open_, open', found, found', held, held', early, taken, same, again]
  simp only [Runtime.taken, raised, Bool.and_false, Bool.not_true, Bool.false_eq_true, if_false]
  rfl

theorem not_retriable (live : s.live key = true) (owes : s.owes key = true) (none' : s.cancellers key = none) :
    (s.cancel key false).1.cancel key true ≠ s.cancel key true := by
  intro alike
  have acting (ok : Bool) : acts key s (.cancel key ok) = true := by simp [acts, live]
  have kept : (s.cancel key false).1.cell key = ((s.cancel key false).1.runtimes key, none) ∧
      (s.cancel key false).1.owes key = false := by
    have turn : Turn key s _ _ := cancel_turn (k := key) false
    generalize here : (s.cancel key false).1.cell key = pair at turn
    have runtimes : (s.cancel key false).1.runtimes key = pair.1 := congrArg fst here
    cases turn with
    | other idle | go idle => exact nomatch (acting _).symm.trans idle
    | fail =>
      rw [Session.owes, runtimes]
      exact ⟨by rw [none'], by simp [Runtime.taken]⟩
  have first : ((s.cancel key false).1.cancel key true).1.cancellers key = none := by
    have turn : Turn key (s.cancel key false).1 _ _ := cancel_turn (k := key) true
    generalize here : ((s.cancel key false).1.cancel key true).1.cell key = pair at turn
    have cancellers : ((s.cancel key false).1.cancel key true).1.cancellers key = pair.2 := congrArg snd here
    have before : (s.cancel key false).1.cancellers key = none := congrArg snd kept.1
    rw [cancellers]
    cases turn with
    | other | again => exact before
    | take _ _ owed => exact nomatch kept.2.symm.trans owed
    | go _ _ there => exact nomatch before.symm.trans there
  have second : (s.cancel key true).1.cancellers key = some .chosen := by
    have turn : Turn key s _ _ := cancel_turn (k := key) true
    generalize here : (s.cancel key true).1.cell key = pair at turn
    have cancellers : (s.cancel key true).1.cancellers key = pair.2 := congrArg snd here
    rw [cancellers]
    cases turn with
    | other idle | go idle => exact nomatch (acting _).symm.trans idle
    | take => rfl
    | again _ _ taken => exact nomatch owes.symm.trans taken
  rw [alike, second] at first
  cases first

theorem Ledger.spared (ledger : Ledger key hasCancel c) (retriable : Retriable key c part)
    (next : c.step key part = some d) (served : d.Served key hasCancel) : Spared key c part := by
  constructor
  · rintro ⟨rfl, live, owes⟩
    exact not_retriable live owes (ledger.phase.fresh_of_owes owes).1 (retriable rfl live true)
  · rintro ⟨rfl, closed⟩
    obtain ⟨inner, committed, invoked⟩ := step_some next
    have phase := ledger.phase
    generalize here : c.session.cell key = before at phase
    obtain ⟨chosen, dropped⟩ : c.session.cancellers key = some .chosen ∧
        d.session.cancellers key = some .dropped := by
      simp only [Session.step] at inner
      split at inner
      · rename_i chosen
        refine ⟨chosen, ?_⟩
        rw [← Option.some.inj inner, register, if_pos closed]
        exact update_self ..
      · cases inner
    have same : before.2 = some .chosen := (congrArg snd here).symm.trans chosen
    generalize c.committed = n at *
    generalize c.invoked = m at *
    cases phase with
    | bare | fresh => cases same
    | underway waits some' =>
      rcases served.1 rfl (by rw [committed]; exact Nat.lt_add_right _ some') with once | waits | waits
      · rw [invoked] at once
        cases once
      · exact by cases dropped.symm.trans waits
      · exact by cases dropped.symm.trans waits
    | called started =>
      cases same
      cases started

end

/-- **Cancelling survives a failing store exactly if no call raises that would have taken the callback**,
and the registry is not closed before the callback's thread is registered. -/
theorem cancel_survives_iff {key : JobKey} {s : Session} {hasCancel event : Bool} {parts : List Section} {c : Calls}
    (alive : s.crashed = false) (present : (s.rows.get? key).isSome)
    (held : s.runtimes key = some ⟨hasCancel, event, false⟩) (none' : s.cancellers key = none)
    (ran : run (Calls.step key) ⟨s, 0, 0⟩ parts = some c) :
    ((∀ before after d, parts = before ++ after → run (Calls.step key) ⟨s, 0, 0⟩ before = some d →
          d.Served key hasCancel) ∧
        Along (Calls.step key) (Retriable key) ⟨s, 0, 0⟩ parts) ↔
      Along (Calls.step key) (Spared key) ⟨s, 0, 0⟩ parts := by
  have start : Ledger key hasCancel ⟨s, 0, 0⟩ := by
    refine ⟨alive, present, ?_⟩
    have cell : s.cell key = (some ⟨hasCancel, event, false⟩, none) := Prod.ext held none'
    rw [cell]
    cases hasCancel with
    | true => exact .fresh fun r same => Option.some.inj same ▸ ⟨rfl, rfl⟩
    | false => exact .bare fun r same => Option.some.inj same ▸ rfl
  have exact' (retriable : Along (Calls.step key) (Retriable key) ⟨s, 0, 0⟩ parts) :=
    along_iff_prefixes_under (C := Spared key) (D := Retriable key) (I := Ledger key hasCancel)
      (P := (·.Served key hasCancel))
      (fun _ ledger => ledger.served) (fun _ _ _ _ spared ledger next => ledger.keep spared next)
      (fun _ _ _ retriable ledger next served => ledger.spared retriable next served) retriable start ran
  constructor
  · rintro ⟨served, retriable⟩
    exact (exact' retriable).mp served
  · intro spared
    have retriable := along_mono (fun _ _ => retriable_of_spared) spared
    exact ⟨(exact' retriable).mpr spared, retriable⟩

/-! ## A job that is cancelled -/

def waiting : Session :=
  ((opened.session { maxJobs := 4, maxEvents := 8 }).submit sample .empty ['1'] true true true).1

def cancelled : List Section :=
  [.cancel sample true, .register sample, .startCanceller sample, .cancel sample false, .cancel sample true]

theorem cancel_survives_iff_cancelled : ∃ c, run (Calls.step sample) ⟨waiting, 0, 0⟩ cancelled = some c ∧
    c.committed = 2 ∧ c.invoked = 1 ∧ c.Served sample true := by
  have ran : run (Calls.step sample) ⟨waiting, 0, 0⟩ cancelled = some _ := rfl
  have spared : Along (Calls.step sample) (Spared sample) ⟨waiting, 0, 0⟩ cancelled := by
    refine along_cons ⟨?_, ?_⟩ rfl (along_cons ⟨?_, ?_⟩ rfl (along_cons ⟨?_, ?_⟩ rfl
      (along_cons ⟨?_, ?_⟩ rfl (along_cons ⟨?_, ?_⟩ rfl trivial))))
    all_goals rintro ⟨label, rest⟩
    all_goals first | (cases label; done) | exact false_ne_true rest | exact false_ne_true rest.2
  have held : waiting.runtimes sample = some ⟨true, false, false⟩ := rfl
  exact ⟨_, ran, rfl, rfl, ((cancel_survives_iff rfl rfl held rfl ran).mpr spared).1
    cancelled [] _ (List.append_nil _).symm ran⟩

/-- The first call raises, and the second one returns without the callback, which is never called. -/
theorem callback_lost : ∃ c,
    run (Calls.step sample) ⟨waiting, 0, 0⟩ [.cancel sample false, .cancel sample true] = some c ∧
    c.committed = 1 ∧ c.invoked = 0 ∧ c.session.cancellers sample = none ∧ ¬ c.Served sample true := by
  refine ⟨_, rfl, rfl, rfl, rfl, fun served => ?_⟩
  rcases served.1 rfl (Nat.succ_pos 0) with once | waits | waits
  · cases once
  · cases waits
  · cases waits

end EmbodiRun.Jobs
