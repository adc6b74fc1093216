/-
# Jobs.Shutdown -- closing a registry while its threads run

`close` marks the registry closed, joins the threads it sees, and closes the store if none of
them is alive.  A worker is registered and started in one section, so `close` never sees one
that is not started.  The thread of a cancel callback is registered in one section and started
after it, and joining it in between raises.

* `shutdown_clean_iff`: **no call raises exactly where every thread is started before it is
  joined**; that `True` means that nothing runs and that the store is left alone needs nothing.
-/
import EmbodiRun.Jobs.Lifecycle

namespace EmbodiRun.Jobs

open Function
open Data Devices Application Transition Bool Session

structure Clean (s : Session) : Prop where
  /-- No call of `close` raised on a thread. -/
  never : ∀ c, s.closers c ≠ .raised
  /-- `True` is returned only when no thread runs or will. -/
  quiet : ∀ c, s.closers c = .returned true → ∀ thread, s.isActive thread = false
  /-- No section went to the store after it was closed. -/
  late : s.late = false

def State.Clean (s : State) : Prop := ∀ g r, s.registries g = some r → Jobs.Clean (s.session r)

/-- A call of `close` joins only threads that are started: the `cancel` that registered a thread
has started it. -/
def Started (s : State) : Label → Prop
  | .at g (.join c) => ∀ r, s.registries g = some r → ∀ thread left all,
      r.closers c = .joining (thread :: left) all → (s.session r).isStarted thread = true
  | _ => True

structure Drain (s : Session) : Prop where
  listed : s.crew.Listed
  seen : ∀ c left all, s.closers c = .joining left all → ∀ thread, s.isActive thread = true → thread ∈ all
  /-- A thread that was joined was started. -/
  joined : ∀ c left all, s.closers c = .joining left all → ∀ thread ∈ all, thread ∈ left ∨ s.isStarted thread = true
  drained : ∀ c, s.closers c = .drained → ∀ thread, s.isActive thread = false
  stored : s.storeClosed = true → ∀ thread, s.isActive thread = false
  returned : ∀ c, s.closers c = .returned true → s.storeClosed = true
  late : s.late = false

/-! ## What every `close` sees -/

section

variable {s t : Session} {key : JobKey} {part : Section}

theorem mem_threads (listed : s.crew.Listed) {thread} (active : s.isActive thread = true) : thread ∈ s.threads := by
  rw [isActive_crew] at active
  cases thread with
  | canceller k => exact List.mem_append_right _ (List.mem_map_of_mem (listed k active))
  | worker =>
    obtain ⟨worker, found, _⟩ := (Option.any_eq_true _ _).mp active
    exact List.mem_append_left _ (List.mem_map.mpr ⟨_, Dict.mem_of_get? found, rfl⟩)

theorem drain_setCloser (drain : Drain s) {c} {closer} (seen : ∀ left all, closer = .joining left all →
      (∀ thread, s.isActive thread = true → thread ∈ all) ∧ ∀ thread ∈ all, thread ∈ left ∨ s.isStarted thread = true)
    (drained : closer = .drained → ∀ thread, s.isActive thread = false)
    (returned : closer = .returned true → s.storeClosed = true) : Drain (s.setCloser c closer) := by
  have look (d : Nat) : (s.setCloser c closer).closers d = closer ∨
      (s.setCloser c closer).closers d = s.closers d := by
    change update s.closers c closer d = _ ∨ update s.closers c closer d = _
    by_cases same : d = c
    · rw [same, update_self]
      exact .inl rfl
    · rw [update_of_ne same]
      exact .inr rfl
  refine ⟨drain.listed, fun d left all there => ?_, fun d left all there => ?_, fun d there => ?_,
    drain.stored, fun d there => ?_, drain.late⟩
  · rcases look d with same | same
    · exact (seen left all (same.symm.trans there)).1
    · exact drain.seen d left all (same.symm.trans there)
  · rcases look d with same | same
    · exact (seen left all (same.symm.trans there)).2
    · exact drain.joined d left all (same.symm.trans there)
  · rcases look d with same | same
    · exact drained (same.symm.trans there)
    · exact drain.drained d (same.symm.trans there)
  · rcases look d with same | same
    · exact returned (same.symm.trans there)
    · exact drain.returned d (same.symm.trans there)

theorem drain_key (shut : s.toRegistry.Shut) (drain : Drain s) (next : s.step part = some t)
    (about : part.key? = some key) : Drain t := by
  have passes := passes_step next about
  have same := passes.same
  have inactive (closed : s.closed = true) {thread : Thread} (before : s.isActive thread = false) :
      t.isActive thread = false := by
    by_contra now
    rw [active_step next closed (eq_true_of_not_eq_false now)] at before
    cases before
  have waits {c : Nat} (waits : (t.closers c).waits = true) : s.closed = true :=
    shut.waits c (by rw [← same.closers]; exact waits)
  refine ⟨listed_step next drain.listed, fun c left all there thread active => ?_,
    fun c left all there thread member => ?_, fun c there thread => ?_, fun stored thread => ?_,
    fun c there => ?_, ?_⟩
  · have closed := waits (c := c) (by rw [there]; rfl)
    exact drain.seen c left all (same.closers ▸ there) thread (active_step next closed active)
  · have closed := waits (c := c) (by rw [there]; rfl)
    exact (drain.joined c left all (same.closers ▸ there) thread member).imp_right (started_step next closed)
  · have closed := waits (c := c) (by rw [there]; rfl)
    exact inactive closed (drain.drained c (same.closers ▸ there) thread)
  · have stored : s.storeClosed = true := same.storeClosed.symm.trans stored
    exact inactive (shut.stored stored) (drain.stored stored thread)
  · exact same.storeClosed.trans (drain.returned c (same.closers ▸ there))
  · rcases passes.accessed with kept | ⟨live, late⟩
    · rw [kept]
      exact drain.late
    · have stored : s.storeClosed = false := by
        by_contra stored
        rw [shut.stored (eq_true_of_not_eq_false stored)] at live
        cases live
      rw [late, drain.late, stored]
      rfl

theorem drain_close (drain : Drain s) (c : Nat) (ok : Bool) : Drain (s.close c ok) := by
  have threads : (∀ thread, s.isActive thread = true → thread ∈ s.threads) ∧
      ∀ thread ∈ s.threads, thread ∈ s.threads ∨ s.isStarted thread = true :=
    ⟨fun _ active => mem_threads drain.listed active, fun _ member => .inl member⟩
  unfold close
  split
  · rename_i stored
    exact drain_setCloser drain nofun nofun fun _ => stored
  rename_i unstored
  split
  · refine drain_setCloser drain (fun left all same => ?_) nofun nofun
    obtain ⟨rfl, rfl⟩ := Closer.joining.inj same
    exact threads
  have unstored : s.storeClosed = false := eq_false_of_not_eq_true unstored
  have fresh : Drain s.access :=
    ⟨drain.listed, drain.seen, drain.joined, drain.drained, drain.stored, drain.returned, by
      change (s.late || s.storeClosed) = false
      rw [drain.late, unstored]
      rfl⟩
  split
  · have waiting : Drain (s.access.setCloser c (.joining s.threads s.threads)) := by
      refine drain_setCloser fresh (fun left all same => ?_) nofun nofun
      obtain ⟨rfl, rfl⟩ := Closer.joining.inj same
      exact threads
    exact ⟨waiting.listed, waiting.seen, waiting.joined, waiting.drained, waiting.stored,
      waiting.returned, waiting.late⟩
  · exact drain_setCloser fresh nofun nofun nofun

theorem drain_step (shut : s.toRegistry.Shut) (drain : Drain s) (next : s.step part = some t) : Drain t := by
  cases about : part.key? with
  | some => exact drain_key shut drain next about
  | none => cases part with
    | close c ok =>
      simp only [Session.step] at next
      split at next <;> cases next
      exact drain_close drain c ok
    | join c =>
      simp only [Session.step] at next
      split at next
      · rename_i head left all joining
        split at next
        · rename_i started
          cases next
          refine drain_setCloser drain (fun left' all' same => ?_) (by simp) (by simp)
          obtain ⟨rfl, rfl⟩ := Closer.joining.inj same
          refine ⟨drain.seen c _ _ joining, fun thread member => ?_⟩
          rcases drain.joined c _ _ joining thread member with here | before
          · rcases List.mem_cons.mp here with rfl | later
            · exact .inr started
            · exact .inl later
          · exact .inr before
        · cases next
          exact drain_setCloser drain (by simp) (by simp) (by simp)
      · cases next
    | alive c alive =>
      simp only [Session.step] at next
      split at next
      · rename_i all joining
        split at next
        · cases next
          exact drain_setCloser drain (by simp) (by simp) (by simp)
        split at next
        · cases next
        · rename_i quiet
          cases next
          refine drain_setCloser drain (by simp) (fun _ thread => ?_) (by simp)
          by_contra active
          have active : s.isActive thread = true := eq_true_of_not_eq_false active
          have member := drain.seen c _ _ joining thread active
          have started := (drain.joined c _ _ joining thread member).resolve_left (by simp)
          refine quiet (List.any_eq_true.mpr ⟨thread, member, ?_⟩)
          rw [isAlive, started, active]
          rfl
      · cases next
    | closeStore c =>
      simp only [Session.step] at next
      split at next
      · rename_i drained
        cases next
        have idle : ∀ thread, s.isActive thread = false := drain.drained c drained
        have stored : Drain { s with storeClosed := true } :=
          ⟨drain.listed, drain.seen, drain.joined, drain.drained, fun _ => idle, fun _ _ => rfl, drain.late⟩
        exact drain_setCloser stored (by simp) (by simp) fun _ => rfl
      · cases next
    | _ => cases about

theorem raised_step (next : s.step part = some t) {d} (raised : t.closers d = .raised) :
    s.closers d = .raised ∨ ∃ c thread left all, part = .join c ∧
      s.closers c = .joining (thread :: left) all ∧ s.isStarted thread = false := by
  have look {s : Session} {c : Nat} {closer : Closer} (raised : (s.setCloser c closer).closers d = .raised)
      (other : closer ≠ .raised) : s.closers d = .raised := by
    change update s.closers c closer d = .raised at raised
    by_cases same : d = c
    · rw [same, update_self] at raised
      exact absurd raised other
    · rw [update_of_ne same] at raised
      exact raised
  cases about : part.key? with
  | some => exact .inl ((passes_step next about).same.closers ▸ raised)
  | none => cases part with
    | close c ok =>
      simp only [Session.step] at next
      split at next <;> cases next
      unfold close at raised
      split at raised
      · exact .inl (look raised (by simp))
      split at raised
      · exact .inl (look raised (by simp))
      split at raised
      · have raised : (s.setCloser c (.joining s.threads s.threads)).closers d = .raised := raised
        exact .inl (look raised (by simp))
      · have raised : (s.setCloser c .failed).closers d = .raised := raised
        exact .inl (look raised (by simp))
    | join c =>
      simp only [Session.step] at next
      split at next
      · rename_i thread left all joining
        split at next
        · cases next
          exact .inl (look raised (by simp))
        · rename_i unstarted
          exact .inr ⟨c, thread, left, all, rfl, joining, eq_false_of_not_eq_true unstarted⟩
      · cases next
    | alive c alive =>
      simp only [Session.step] at next
      split at next
      · split at next
        · cases next
          exact .inl (look raised (by simp))
        split at next <;> cases next
        exact .inl (look raised (by simp))
      · cases next
    | closeStore c =>
      simp only [Session.step] at next
      split at next <;> cases next
      have raised : (s.setCloser c (.returned true)).closers d = .raised := raised
      exact .inl (look raised (by simp))
    | _ => cases about

theorem Drain.congr (drain : Drain s) (same : s.toRegistry = t.toRegistry) : Drain t := by
  obtain ⟨r, rows, executions⟩ := s
  obtain ⟨q, rows', executions'⟩ := t
  obtain rfl : r = q := same
  exact ⟨drain.listed, drain.seen, drain.joined, drain.drained, drain.stored, drain.returned, drain.late⟩

theorem Drain.clean (drain : Drain s) (never : ∀ c, s.closers c ≠ .raised) : Clean s :=
  ⟨never, fun c there => drain.stored (drain.returned c there), drain.late⟩

end

/-! ## Runs -/

section

variable {s t : State} {l : Label}

/-- Every registry is drained the way `Drain` says. -/
def State.Drain (s : State) : Prop := ∀ g r, s.registries g = some r → Jobs.Drain (s.session r)

theorem drain_fresh {maxJobs maxEvents} : Jobs.Drain (s.session { maxJobs, maxEvents }) where
  listed _ active := by cases active
  seen _ _ _ there := by cases there
  joined _ _ _ there := by cases there
  drained _ there := by cases there
  stored closed := by cases closed
  returned _ there := by cases there
  late := rfl

theorem drain_next (good : Good s) (drain : s.Drain) (next : step s l = some t) : t.Drain := by
  cases step_effect next with
  | part label found alive inner =>
    rename_i g r part u
    intro h q there
    rw [put_registry] at there
    split at there
    · cases there
      exact drain_step (good.shut g r found) (drain g r found) inner
    · exact (drain h q there).congr rfl
  | crash found =>
    rename_i g r
    intro h q there
    by_cases same : h = g
    · subst same
      simp only [update_self] at there
      cases there
      have before := drain h r found
      exact ⟨before.listed, before.seen, before.joined, before.drained, before.stored, before.returned, before.late⟩
    · simp only [update_of_ne same] at there
      exact (drain h q there).congr rfl
  | reopen =>
    intro h q there
    by_cases same : h = s.next
    · subst same
      change update s.registries s.next _ s.next = _ at there
      rw [update_self] at there
      cases there
      exact drain_fresh
    · change update s.registries s.next _ h = _ at there
      rw [update_of_ne same] at there
      exact (drain h q there).congr rfl
  | fail => exact drain

/-- No call of `close` raised on a thread, on any registry. -/
def State.Never (s : State) : Prop := ∀ g r, s.registries g = some r → ∀ c, r.closers c ≠ .raised

theorem never_next (never : s.Never) (started : Started s l) (next : step s l = some t) : t.Never := by
  cases step_effect next with
  | part label found alive inner =>
    rename_i g r part u
    subst label
    intro h q there d raised
    rw [put_registry] at there
    split at there
    · cases there
      rcases raised_step inner raised with before | ⟨c, thread, left, all, rfl, joining, unstarted⟩
      · exact never g r found d before
      · have now := started r found thread left all joining
        rw [unstarted] at now
        cases now
    · exact never h q there d raised
  | crash found =>
    rename_i g r
    intro h q there d raised
    by_cases same : h = g
    · subst same
      simp only [update_self] at there
      cases there
      exact never h r found d raised
    · simp only [update_of_ne same] at there
      exact never h q there d raised
  | reopen =>
    intro h q there d raised
    by_cases same : h = s.next
    · subst same
      change update s.registries s.next _ s.next = _ at there
      rw [update_self] at there
      cases there
      cases raised
    · change update s.registries s.next _ h = _ at there
      rw [update_of_ne same] at there
      exact never h q there d raised
  | fail => exact never

theorem started_of_never (next : step s l = some t) (never : t.Never) : Started s l := by
  cases l with
  | crash | «open» => trivial
  | «at» g part => cases part with
    | join c =>
      intro r found thread left all joining
      by_contra unstarted
      obtain ⟨_, u, inner, rfl⟩ := at_section found next
      have joining : (s.session r).closers c = .joining (thread :: left) all := joining
      simp only [Session.step, joining, if_neg unstarted] at inner
      cases inner
      refine never g _ (by rw [put_registry, if_pos rfl]) c ?_
      change update (s.session r).closers c Closer.raised c = _
      rw [update_self]
    | _ => trivial

/-- The call of `close` that a section belongs to. -/
def Section.closer? : Section → Option Nat
  | .close c _ | .join c | .alive c _ | .closeStore c => some c
  | _ => none

def Closer.ended : Closer → Bool
  | .returned _ | .failed | .raised => true
  | .idle | .joining .. | .drained => false

theorem put_closer {g c : Nat} {u : Session} {closer : Closer} :
    ∃ q, (s.put g (u.setCloser c closer)).registries g = some q ∧ q.closers c = closer ∧ q.crashed = u.crashed := by
  refine ⟨(u.setCloser c closer).toRegistry, by rw [put_registry, if_pos rfl], ?_, rfl⟩
  change update u.closers c closer c = closer
  rw [update_self]

/-- **A call of `close` that waits ends**, by its own steps alone and whatever the threads do. -/
theorem close_ends {g c : Nat} {r : Registry} (found : s.registries g = some r)
    (alive : r.crashed = false) (waits : (r.closers c).waits = true) :
    ∃ ls t q, (∀ l ∈ ls, ∃ part, l = .at g part ∧ part.closer? = some c) ∧ run step s ls = some t ∧
      t.registries g = some q ∧ (q.closers c).ended = true := by
  have own (part : Section) (about : part.closer? = some c) : ∀ l ∈ [Label.at g part],
      ∃ part, l = .at g part ∧ part.closer? = some c := by
    intro l member
    exact ⟨part, List.mem_singleton.mp member, about⟩
  cases closer : r.closers c with
  | idle | returned | failed | raised => rw [closer] at waits; cases waits
  | drained =>
    have inner : (s.session r).step (.closeStore c) = some ((s.session r).closeStore c) := by
      have here : (s.session r).closers c = .drained := closer
      simp only [Session.step, here]
    refine ⟨[.at g (.closeStore c)], _, _, own _ rfl,
      run_cons_eq_some.mpr ⟨_, at_eq_some found alive inner, rfl⟩, by rw [put_registry, if_pos rfl], ?_⟩
    change (update r.closers c (.returned true) c).ended = true
    rw [update_self]
    rfl
  | joining left all =>
    induction left generalizing s r with
    | nil =>
      have inner : (s.session r).step (.alive c true) = some ((s.session r).setCloser c (.returned false)) := by
        have here : (s.session r).closers c = .joining [] all := closer
        simp only [Session.step, here, if_true]
      obtain ⟨q, there, returned, _⟩ := put_closer (s := s) (u := s.session r)
      exact ⟨[.at g (.alive c true)], _, q, own _ rfl,
        run_cons_eq_some.mpr ⟨_, at_eq_some found alive inner, rfl⟩, there, by rw [returned]; rfl⟩
    | cons thread left ih =>
      have here : (s.session r).closers c = .joining (thread :: left) all := closer
      by_cases started : (s.session r).isStarted thread = true
      · have inner : (s.session r).step (.join c) = some ((s.session r).setCloser c (.joining left all)) := by
          simp only [Session.step, here, if_pos started]
        obtain ⟨q, there, joining, same⟩ := put_closer (s := s) (u := s.session r)
        have first := at_eq_some found alive inner
        obtain ⟨ls, t, last, all, rest, ended⟩ := ih there (same.trans alive) (by rw [joining]; rfl) joining
        refine ⟨.at g (.join c) :: ls, t, last, ?_, run_cons_eq_some.mpr ⟨_, first, rest⟩, ended⟩
        exact List.forall_mem_cons.mpr ⟨⟨_, rfl, rfl⟩, all⟩
      · have inner : (s.session r).step (.join c) = some ((s.session r).setCloser c .raised) := by
          simp only [Session.step, here, if_neg started]
        obtain ⟨q, there, raised, _⟩ := put_closer (s := s) (u := s.session r)
        exact ⟨[.at g (.join c)], _, q, own _ rfl, run_cons_eq_some.mpr ⟨_, at_eq_some found alive inner, rfl⟩, there,
          by rw [raised]; rfl⟩

/-- **A registry shuts down cleanly** exactly when every thread that is joined was started before. -/
theorem shutdown_clean_iff {ls : List Label} (ran : run step {} ls = some s) :
    ((∀ before after u, ls = before ++ after → run step {} before = some u → u.Clean) ↔ Along step Started {} ls) ∧
    ∀ g c r, s.registries g = some r → r.crashed = false → (r.closers c).waits = true →
      ∃ ms t q, (∀ l ∈ ms, ∃ part, l = .at g part ∧ part.closer? = some c) ∧
        run step s ms = some t ∧ t.registries g = some q ∧ (q.closers c).ended = true := by
  refine ⟨?_, fun g c r found alive waits => close_ends found alive waits⟩
  refine along_iff_prefixes_of (I := fun s => Good s ∧ s.Drain ∧ s.Never)
    (fun s inv g r found => (inv.2.1 g r found).clean (inv.2.2 g r found))
    (fun s l t started inv next => ⟨good_step inv.1 next, drain_next inv.1 inv.2.1 next,
      never_next inv.2.2 started next⟩)
    (fun s l t inv next clean =>
      started_of_never next fun g r found => (clean g r found).never)
    ⟨good_init, ?_, ?_⟩ ran
  · exact fun _ r found => (Option.some_ne_none r found.symm).elim
  · exact fun _ r found => (Option.some_ne_none r found.symm).elim

end

/-! ## A cancel callback between its registration and its start -/

/-- The callback's thread is registered, and `close` sees it. -/
def registered : List Label :=
  running ++ [.at 0 (.cancel sample true), .at 0 (.register sample), .at 0 (.close 0 true), .at 0 (.join 0)]

theorem shutdown_clean_registered : ∃ s, run step {} registered = some s ∧
    ((∀ before after u, registered = before ++ after → run step {} before = some u → u.Clean) ↔
      Along step Started {} registered) := by
  have ran : run step {} registered = some _ := rfl
  exact ⟨_, ran, (shutdown_clean_iff ran).1⟩

/-- `close` joins the worker and then the thread that `cancel` is about to start, which raises. -/
theorem close_raises : ∃ s t r q, run step {} registered = some s ∧ s.registries 0 = some r ∧
    r.closers 0 = .joining [.canceller sample] [.worker sample, .canceller sample] ∧
    step s (.at 0 (.join 0)) = some t ∧ t.registries 0 = some q ∧ q.closers 0 = .raised ∧
    ¬t.Clean := by
  refine ⟨_, _, _, _, rfl, rfl, rfl, rfl, rfl, rfl, fun clean => ?_⟩
  exact (clean 0 _ rfl).never 0 rfl

end EmbodiRun.Jobs
