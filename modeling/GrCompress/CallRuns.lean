import Mathlib.Data.List.Basic

/-!
# Runs of calls that may fail

A component is a state and a set of calls; a call returns a value and the next
state, or fails and keeps the state it had reached. A run makes a list of calls
one after the other and stops at the first failure. What one call preserves, a
run preserves; a run of calls that each return, returns.
-/

namespace GrCompress.CallRuns

set_option autoImplicit false

variable {Failure State Op Out : Type}

/-- A call made twice from the same state comes to the same. -/
theorem ok_unique {result : EStateM.Result Failure State Out} {first second : Out}
    {here there : State} (one : result = .ok first here) (other : result = .ok second there) :
    first = second ∧ here = there := by
  rw [one, EStateM.Result.ok.injEq] at other
  exact other

/-- What a call comes to: it returns, and leads to where it should, or fails in one of
these ways. -/
def Leads (Reached : Out → State → Prop) (Fails : Failure → Prop) :
    EStateM.Result Failure State Out → Prop
  | .ok out next => Reached out next
  | .error failure _ => Fails failure

theorem leads_mono {Reached Weaker : Out → State → Prop} {Fails : Failure → Prop}
    {result : EStateM.Result Failure State Out} (leads : Leads Reached Fails result)
    (weaker : ∀ out next, Reached out next → Weaker out next) : Leads Weaker Fails result := by
  cases result with
  | ok out next => exact weaker out next leads
  | error failure next => exact leads

/-- Whether a call returned. -/
def returned : EStateM.Result Failure State Out → Bool
  | .ok _ _ => true
  | .error _ _ => false

theorem exists_of_returned {result : EStateM.Result Failure State Out}
    (returns : returned result = true) : ∃ out next, result = .ok out next := by
  cases result with
  | ok out next => exact ⟨out, next, rfl⟩
  | error failure next => cases returns

/-- Where a call led, if it returned, another one is made. -/
def andThen {Out' : Type} (result : EStateM.Result Failure State Out)
    (call : EStateM Failure State Out') : EStateM.Result Failure State Out' :=
  match result with
  | .ok _ next => call.run next
  | .error failure next => .error failure next

theorem exists_of_returned_then {Out' : Type} {result : EStateM.Result Failure State Out}
    {call : EStateM Failure State Out'} (returns : returned (andThen result call) = true) :
    ∃ out next out' last, result = .ok out next ∧ call.run next = .ok out' last := by
  cases result with
  | ok out next =>
      obtain ⟨out', last, ran⟩ := exists_of_returned returns
      exact ⟨out, next, out', last, rfl, ran⟩
  | error failure next => cases returns

def runAll (call : Op → EStateM Failure State Out) : List Op → EStateM Failure State (List Out)
  | [] => pure []
  | op :: rest => do
      let out ← call op
      let outs ← runAll call rest
      return out :: outs

@[simp] theorem run_all_nil (call : Op → EStateM Failure State Out) (start : State) :
    (runAll call []).run start = .ok [] start := rfl

theorem run_all_cons_ok (call : Op → EStateM Failure State Out) (op : Op) (rest : List Op)
    {start next : State} {out : Out} (first : (call op).run start = .ok out next) :
    (runAll call (op :: rest)).run start =
      match (runAll call rest).run next with
      | .ok outs final => .ok (out :: outs) final
      | .error failure final => .error failure final := by
  simp only [runAll, EStateM.run_bind, first, EStateM.run_pure]
  cases (runAll call rest).run next <;> rfl

theorem run_all_single_ok (call : Op → EStateM Failure State Out) (op : Op) {start next : State}
    {out : Out} (only : (call op).run start = .ok out next) :
    (runAll call [op]).run start = .ok [out] next := by
  rw [run_all_cons_ok call op [] only, run_all_nil]

theorem run_all_cons_error (call : Op → EStateM Failure State Out) (op : Op) (rest : List Op)
    {start next : State} {failure : Failure} (first : (call op).run start = .error failure next) :
    (runAll call (op :: rest)).run start = .error failure next := by
  simp only [runAll, EStateM.run_bind, first]

theorem run_all_cons_ok_iff (call : Op → EStateM Failure State Out) (op : Op) (rest : List Op)
    (start final : State) (outs : List Out) :
    (runAll call (op :: rest)).run start = .ok outs final ↔
      ∃ out later next, (call op).run start = .ok out next ∧
        (runAll call rest).run next = .ok later final ∧ outs = out :: later := by
  cases first : (call op).run start with
  | error failure next => simp [run_all_cons_error call op rest first]
  | ok out next =>
      rw [run_all_cons_ok call op rest first]
      cases remaining : (runAll call rest).run next with
      | error failure stopped => simp [remaining]
      | ok later stopped =>
          simp only [EStateM.Result.ok.injEq]
          constructor
          · rintro ⟨rfl, rfl⟩
            exact ⟨out, later, next, ⟨rfl, rfl⟩, by simpa using remaining, rfl⟩
          · rintro ⟨out', later', next', ⟨rfl, rfl⟩, tail, rfl⟩
            rw [remaining, EStateM.Result.ok.injEq] at tail
            exact ⟨by rw [tail.1], tail.2⟩

/-- A run of two lists of calls is a run of the first and, from where it stopped, of
the second. -/
theorem run_all_append_ok_iff (call : Op → EStateM Failure State Out) (first second : List Op)
    (start final : State) (outs : List Out) :
    (runAll call (first ++ second)).run start = .ok outs final ↔
      ∃ earlier later middle, (runAll call first).run start = .ok earlier middle ∧
        (runAll call second).run middle = .ok later final ∧ outs = earlier ++ later := by
  induction first generalizing start outs with
  | nil =>
      simp only [List.nil_append, run_all_nil, EStateM.Result.ok.injEq]
      constructor
      · intro ran
        exact ⟨[], outs, start, ⟨rfl, rfl⟩, ran, rfl⟩
      · rintro ⟨earlier, later, middle, ⟨rfl, rfl⟩, ran, rfl⟩
        exact ran
  | cons op rest induction =>
      rw [List.cons_append, run_all_cons_ok_iff]
      constructor
      · rintro ⟨out, outs', next, called, ran, rfl⟩
        obtain ⟨earlier, later, middle, ran', continued, rfl⟩ := (induction next outs').1 ran
        exact ⟨out :: earlier, later, middle,
          (run_all_cons_ok_iff call op rest _ _ _).2 ⟨out, earlier, next, called, ran', rfl⟩,
          continued, rfl⟩
      · rintro ⟨earlier, later, middle, ran, continued, rfl⟩
        obtain ⟨out, earlier', next, called, ran', rfl⟩ :=
          (run_all_cons_ok_iff call op rest _ _ _).1 ran
        exact ⟨out, earlier' ++ later, next, called,
          (induction next _).2 ⟨earlier', later, middle, ran', continued, rfl⟩, rfl⟩

theorem run_all_append_ok (call : Op → EStateM Failure State Out) {first second : List Op}
    {start middle final : State} {outs later : List Out}
    (ran : (runAll call first).run start = .ok outs middle)
    (continued : (runAll call second).run middle = .ok later final) :
    (runAll call (first ++ second)).run start = .ok (outs ++ later) final :=
  (run_all_append_ok_iff call first second start final _).2
    ⟨outs, later, middle, ran, continued, rfl⟩

/-- A run fails in one call, made where the calls before it led. -/
theorem run_all_error_iff (call : Op → EStateM Failure State Out) (ops : List Op)
    (start final : State) (failure : Failure) :
    (runAll call ops).run start = .error failure final ↔
      ∃ done op later outs before, ops = done ++ op :: later ∧
        (runAll call done).run start = .ok outs before ∧
        (call op).run before = .error failure final := by
  induction ops generalizing start with
  | nil => simp
  | cons op rest induction =>
      cases first : (call op).run start with
      | error other stopped =>
          rw [run_all_cons_error call op rest first]
          constructor
          · intro failed
            rw [EStateM.Result.error.injEq] at failed
            rcases failed with ⟨rfl, rfl⟩
            exact ⟨[], op, rest, [], start, rfl, rfl, first⟩
          · rintro ⟨done, failing, later, outs, before, split, ran, failed⟩
            cases done with
            | nil =>
                simp only [List.nil_append, List.cons.injEq] at split
                rcases split with ⟨rfl, rfl⟩
                simp only [run_all_nil, EStateM.Result.ok.injEq] at ran
                rw [← ran.2, first, EStateM.Result.error.injEq] at failed
                rw [failed.1, failed.2]
            | cons opening done =>
                simp only [List.cons_append, List.cons.injEq] at split
                rcases split with ⟨rfl, rfl⟩
                rw [run_all_cons_error call op done first] at ran
                exact nomatch ran
      | ok out next =>
          have tail : (runAll call (op :: rest)).run start = .error failure final ↔
              (runAll call rest).run next = .error failure final := by
            rw [run_all_cons_ok call op rest first]
            cases (runAll call rest).run next <;> simp
          rw [tail, induction]
          constructor
          · rintro ⟨done, failing, later, outs, before, rfl, ran, failed⟩
            exact ⟨op :: done, failing, later, out :: outs, before, rfl,
              (run_all_cons_ok_iff call op done _ _ _).2 ⟨out, outs, next, first, ran, rfl⟩,
              failed⟩
          · rintro ⟨done, failing, later, outs, before, split, ran, failed⟩
            cases done with
            | nil =>
                simp only [List.nil_append, List.cons.injEq] at split
                rcases split with ⟨rfl, rfl⟩
                simp only [run_all_nil, EStateM.Result.ok.injEq] at ran
                rw [← ran.2, first] at failed
                exact nomatch failed
            | cons opening done =>
                simp only [List.cons_append, List.cons.injEq] at split
                rcases split with ⟨rfl, rfl⟩
                obtain ⟨out', outs', next', called, ran', rfl⟩ :=
                  (run_all_cons_ok_iff call op done _ _ _).1 ran
                obtain ⟨rfl, rfl⟩ := ok_unique called first
                exact ⟨done, failing, later, outs', before, rfl, ran', failed⟩

theorem run_all_map {Op' : Type} (call : Op → EStateM Failure State Out) (rename : Op' → Op)
    (ops : List Op') : runAll call (ops.map rename) = runAll (fun op => call (rename op)) ops := by
  induction ops with
  | nil => rfl
  | cons op rest induction => simp only [List.map_cons, runAll, induction]

/-- The invariant speaks of the calls made and the values returned so far, so
that one rule serves both state invariants and input-output laws. -/
theorem run_all_invariant (call : Op → EStateM Failure State Out)
    (Invariant : List Op → List Out → State → Prop)
    (step : ∀ done outs before op out after, Invariant done outs before →
      (call op).run before = .ok out after → Invariant (done ++ [op]) (outs ++ [out]) after)
    {ops : List Op} {start final : State} {outs : List Out} (initial : Invariant [] [] start)
    (ran : (runAll call ops).run start = .ok outs final) : Invariant ops outs final := by
  suffices general : ∀ (ops done : List Op) (earlier outs : List Out) (start : State),
      Invariant done earlier start → (runAll call ops).run start = .ok outs final →
        Invariant (done ++ ops) (earlier ++ outs) final by
    simpa using general ops [] [] outs start initial ran
  intro ops
  induction ops with
  | nil =>
      intro done earlier outs start holds ran
      simp only [run_all_nil, EStateM.Result.ok.injEq] at ran
      rcases ran with ⟨rfl, rfl⟩
      simpa using holds
  | cons op rest induction =>
      intro done earlier outs start holds ran
      obtain ⟨out, later, next, first, tail, rfl⟩ := (run_all_cons_ok_iff call op rest _ _ _).1 ran
      have continued := induction (done ++ [op]) (earlier ++ [out]) later next
        (step done earlier start op out next holds first) tail
      simpa using continued

/-- When every admissible call returns and re-establishes the invariant, a run
of admissible calls returns. -/
theorem run_all_total (call : Op → EStateM Failure State Out) (Admissible : Op → Prop)
    (Invariant : List Op → List Out → State → Prop)
    (step : ∀ done outs before op, Admissible op → Invariant done outs before →
      ∃ out after, (call op).run before = .ok out after ∧
        Invariant (done ++ [op]) (outs ++ [out]) after)
    (ops : List Op) (admissible : ∀ op ∈ ops, Admissible op) (start : State)
    (initial : Invariant [] [] start) :
    ∃ outs final, (runAll call ops).run start = .ok outs final ∧ Invariant ops outs final := by
  suffices general : ∀ (ops done : List Op) (earlier : List Out) (start : State),
      (∀ op ∈ ops, Admissible op) → Invariant done earlier start →
        ∃ outs final, (runAll call ops).run start = .ok outs final ∧
          Invariant (done ++ ops) (earlier ++ outs) final by
    simpa using general ops [] [] start admissible initial
  intro ops
  induction ops with
  | nil =>
      intro done earlier start _ holds
      exact ⟨[], start, rfl, by simpa using holds⟩
  | cons op rest induction =>
      intro done earlier start admissible holds
      obtain ⟨out, next, first, held⟩ := step done earlier start op (admissible op (by simp)) holds
      obtain ⟨outs, final, tail, finished⟩ := induction (done ++ [op]) (earlier ++ [out]) next
        (fun other member => admissible other (by simp [member])) held
      refine ⟨out :: outs, final, ?_, by simpa using finished⟩
      rw [run_all_cons_ok call op rest first, tail]

/-- A failing run failed in one call, made from a state where the invariant held. -/
theorem run_all_failure (call : Op → EStateM Failure State Out)
    (Invariant : List Op → List Out → State → Prop)
    (step : ∀ done outs before op out after, Invariant done outs before →
      (call op).run before = .ok out after → Invariant (done ++ [op]) (outs ++ [out]) after)
    {ops : List Op} {start final : State} {failure : Failure} (initial : Invariant [] [] start)
    (ran : (runAll call ops).run start = .error failure final) :
    ∃ done outs before op, op ∈ ops ∧ Invariant done outs before ∧
      (call op).run before = .error failure final := by
  suffices general : ∀ (ops done : List Op) (earlier : List Out) (start : State),
      Invariant done earlier start → (runAll call ops).run start = .error failure final →
        ∃ done outs before op, op ∈ ops ∧ Invariant done outs before ∧
          (call op).run before = .error failure final by
    exact general ops [] [] start initial ran
  intro ops
  induction ops with
  | nil =>
      intro done earlier start _ ran
      simp at ran
  | cons op rest induction =>
      intro done earlier start holds ran
      cases first : (call op).run start with
      | error other stopped =>
          rw [run_all_cons_error call op rest first, EStateM.Result.error.injEq] at ran
          rcases ran with ⟨rfl, rfl⟩
          exact ⟨done, earlier, start, op, by simp, holds, first⟩
      | ok out next =>
          rw [run_all_cons_ok call op rest first] at ran
          cases tail : (runAll call rest).run next with
          | ok outs stopped => simp [tail] at ran
          | error other stopped =>
              simp only [tail] at ran
              obtain ⟨before, outs, mid, failing, member, held, failed⟩ :=
                induction (done ++ [op]) (earlier ++ [out]) next
                  (step done earlier start op out next holds first) (tail.trans ran)
              exact ⟨before, outs, mid, failing, by simp [member], held, failed⟩

/-- The outputs of a run are those of its calls. -/
theorem mem_outputs_iff (call : Op → EStateM Failure State Out) {ops : List Op}
    {start final : State} {outputs : List Out}
    (ran : (runAll call ops).run start = .ok outputs final) (output : Out) :
    output ∈ outputs ↔ ∃ earlier op outs before after, earlier ++ [op] <+: ops ∧
      (runAll call earlier).run start = .ok outs before ∧
      (call op).run before = .ok output after := by
  induction ops generalizing start outputs with
  | nil =>
      simp only [run_all_nil, EStateM.Result.ok.injEq] at ran
      rw [← ran.1]
      simp
  | cons first rest induction =>
      obtain ⟨head, later, next, called, remaining, rfl⟩ :=
        (run_all_cons_ok_iff call first rest _ _ _).1 ran
      rw [List.mem_cons, induction remaining]
      constructor
      · rintro (rfl | ⟨earlier, op, outs, before, after, made, sofar, last⟩)
        · exact ⟨[], first, [], start, next, by simp, rfl, called⟩
        · refine ⟨first :: earlier, op, head :: outs, before, after, ?_, ?_, last⟩
          · rw [List.cons_append, List.cons_prefix_cons]
            exact ⟨rfl, made⟩
          · rw [run_all_cons_ok call first earlier called, sofar]
      · rintro ⟨earlier, op, outs, before, after, made, sofar, last⟩
        cases earlier with
        | nil =>
            rw [List.nil_append, List.cons_prefix_cons] at made
            rcases made with ⟨rfl, _⟩
            simp only [run_all_nil, EStateM.Result.ok.injEq] at sofar
            rw [← sofar.2] at last
            exact .inl (ok_unique last called).1
        | cons opening earlier =>
            rw [List.cons_append, List.cons_prefix_cons] at made
            rcases made with ⟨rfl, made⟩
            obtain ⟨head', outs', next', called', sofar', rfl⟩ :=
              (run_all_cons_ok_iff call opening earlier _ _ _).1 sofar
            obtain ⟨rfl, rfl⟩ := ok_unique called' called
            exact .inr ⟨earlier, op, outs', before, after, made, sofar', last⟩

/-! ## Runs that go on after a failure -/

/-- The state a call leaves, whether it returns or fails. -/
def leave (call : Op → EStateM Failure State Out) (state : State) (op : Op) : State :=
  match (call op).run state with
  | .ok _ next => next
  | .error _ next => next

def leaveAll (call : Op → EStateM Failure State Out) (start : State) (ops : List Op) : State :=
  ops.foldl (leave call) start

theorem leave_of_ok {call : Op → EStateM Failure State Out} {op : Op} {state next : State}
    {out : Out} (ran : (call op).run state = .ok out next) : leave call state op = next := by
  rw [leave, ran]

theorem leave_of_error {call : Op → EStateM Failure State Out} {op : Op} {state next : State}
    {failure : Failure} (ran : (call op).run state = .error failure next) :
    leave call state op = next := by
  rw [leave, ran]

/-- What every admissible call preserves, whatever it comes to, holds after any
number of them. -/
theorem leave_all_invariant (call : Op → EStateM Failure State Out) (Admissible : Op → Prop)
    (Invariant : State → Prop)
    (step : ∀ before op, Admissible op → Invariant before → Invariant (leave call before op))
    (ops : List Op) (admissible : ∀ op ∈ ops, Admissible op) (start : State)
    (initial : Invariant start) : Invariant (leaveAll call start ops) := by
  induction ops generalizing start with
  | nil => exact initial
  | cons op rest induction =>
      exact induction (fun other member => admissible other (by simp [member]))
        (leave call start op) (step start op (admissible op (by simp)) initial)

/-! ## What a call leaves alone -/

section Frames

variable {Out' Part : Type} {view : State → Part} {state : State}

/-- A call from this state leaves what `view` shows of it as it is, whether it
returns or fails. -/
def KeepsAt (view : State → Part) (state : State) (call : EStateM Failure State Out) : Prop :=
  (∀ out next, call.run state = .ok out next → view next = view state) ∧
    ∀ failure next, call.run state = .error failure next → view next = view state

theorem leave_keeps {call : Op → EStateM Failure State Out} {op : Op}
    (keeps : KeepsAt view state (call op)) : view (leave call state op) = view state := by
  cases ran : (call op).run state with
  | ok out next =>
      rw [leave_of_ok ran]
      exact keeps.1 out next ran
  | error failure next =>
      rw [leave_of_error ran]
      exact keeps.2 failure next ran

theorem keeps_at_pure (out : Out) :
    KeepsAt view state (pure out : EStateM Failure State Out) := by
  constructor
  · intro out' next ran
    rw [EStateM.run_pure, EStateM.Result.ok.injEq] at ran
    rw [ran.2]
  · intro failure next ran
    simp at ran

theorem keeps_at_throw (failure : Failure) :
    KeepsAt view state (throw failure : EStateM Failure State Out) := by
  have thrown : (throw failure : EStateM Failure State Out).run state = .error failure state := rfl
  simp only [KeepsAt, thrown]
  constructor
  · intro out next ran
    simp at ran
  · intro failure' next ran
    rw [EStateM.Result.error.injEq] at ran
    rw [ran.2]

/-- A check either returns or throws. -/
theorem keeps_at_check {condition : Prop} [Decidable condition] (out : Out) (failure : Failure) :
    KeepsAt view state
      (if condition then pure out else throw failure : EStateM Failure State Out) := by
  split
  · exact keeps_at_pure out
  · exact keeps_at_throw failure

theorem keeps_at_set {replacement : State} (same : view replacement = view state) :
    KeepsAt view state (set replacement : EStateM Failure State PUnit) := by
  constructor
  · intro out next ran
    rw [EStateM.run_set, EStateM.Result.ok.injEq] at ran
    rw [← ran.2, same]
  · intro failure next ran
    simp at ran

theorem keeps_at_modify {change : State → State} (same : view (change state) = view state) :
    KeepsAt view state (modify change : EStateM Failure State PUnit) :=
  keeps_at_set same

theorem keeps_at_get_bind {rest : State → EStateM Failure State Out}
    (keeps : KeepsAt view state (rest state)) : KeepsAt view state (get >>= rest) := by
  simpa only [KeepsAt, EStateM.run_bind, EStateM.run_get] using keeps

/-- Calls in sequence keep what each of them keeps. -/
theorem keeps_at_bind {call : EStateM Failure State Out} {rest : Out → EStateM Failure State Out'}
    (first : KeepsAt view state call)
    (second : ∀ out next, call.run state = .ok out next → KeepsAt view next (rest out)) :
    KeepsAt view state (call >>= rest) := by
  simp only [KeepsAt, EStateM.run_bind]
  cases ran : call.run state with
  | error failure next =>
      constructor
      · intro out next' later
        simp at later
      · intro failure' next' later
        rw [EStateM.Result.error.injEq] at later
        rw [← later.2]
        exact first.2 failure next ran
  | ok out next =>
      have here := first.1 out next ran
      have later := second out next ran
      rw [← here]
      exact later

/-- What is returned afterwards does not matter. -/
theorem keeps_at_bind_pure {call : EStateM Failure State Out} (keeps : KeepsAt view state call)
    (answer : Out → Out') : KeepsAt view state (call >>= fun out => pure (answer out)) :=
  keeps_at_bind keeps fun out _ _ => keeps_at_pure (answer out)

/-- The first call leaves the whole state alone. -/
theorem keeps_at_read_bind {call : EStateM Failure State Out}
    {rest : Out → EStateM Failure State Out'} (first : KeepsAt id state call)
    (second : ∀ out, call.run state = .ok out state → KeepsAt view state (rest out)) :
    KeepsAt view state (call >>= rest) := by
  apply keeps_at_bind
  · constructor
    · intro out next ran
      exact congrArg view (first.1 out next ran)
    · intro failure next ran
      exact congrArg view (first.2 failure next ran)
  · intro out next ran
    have same : next = state := first.1 out next ran
    rw [same] at ran ⊢
    exact second out ran

theorem keeps_at_set_bind {replacement : State} {rest : PUnit → EStateM Failure State Out}
    (same : view replacement = view state) (keeps : KeepsAt view replacement (rest ⟨⟩)) :
    KeepsAt view state (set replacement >>= rest) := by
  simp only [KeepsAt, EStateM.run_bind, EStateM.run_set]
  rw [← same]
  exact keeps

end Frames

/-! ## What is seen of a state -/

section Views

variable {Out' Part : Type} {view : State → Part} {state : State}

/-- A result, of whose state only a part is seen. -/
def seen (view : State → Part) :
    EStateM.Result Failure State Out → EStateM.Result Failure Part Out
  | .ok out next => .ok out (view next)
  | .error failure next => .error failure (view next)

/-- From this state the call does to what is seen what the other call does. -/
def SeenAs (view : State → Part) (state : State) (call : EStateM Failure State Out)
    (other : EStateM Failure Part Out) : Prop :=
  other.run (view state) = seen view (call.run state)

theorem seen_as_pure (out : Out) :
    SeenAs view state (pure out : EStateM Failure State Out) (pure out) := rfl

theorem seen_as_throw (failure : Failure) :
    SeenAs view state (throw failure : EStateM Failure State Out) (throw failure) := rfl

theorem seen_as_set {replacement : State} {part : Part} (same : view replacement = part) :
    SeenAs view state (set replacement : EStateM Failure State PUnit) (set part) := by
  simp only [SeenAs, EStateM.run_set, seen, same]

theorem seen_as_modify {change : State → State} {otherChange : Part → Part}
    (same : view (change state) = otherChange (view state)) :
    SeenAs view state (modify change : EStateM Failure State PUnit) (modify otherChange) := by
  simp only [SeenAs, EStateM.run_modify, seen, same]

theorem seen_as_ite {condition : Prop} [Decidable condition]
    {call call' : EStateM Failure State Out} {other other' : EStateM Failure Part Out}
    (holds : condition → SeenAs view state call other)
    (fails : ¬condition → SeenAs view state call' other') :
    SeenAs view state (if condition then call else call')
      (if condition then other else other') := by
  by_cases truth : condition
  · simpa only [if_pos truth] using holds truth
  · simpa only [if_neg truth] using fails truth

/-- A check either returns or throws. -/
theorem seen_as_check {condition : Prop} [Decidable condition] (out : Out) (failure : Failure) :
    SeenAs view state
      (if condition then pure out else throw failure : EStateM Failure State Out)
      (if condition then pure out else throw failure) :=
  seen_as_ite (fun _ => seen_as_pure out) fun _ => seen_as_throw failure

theorem seen_as_get_bind {rest : State → EStateM Failure State Out}
    {other : Part → EStateM Failure Part Out}
    (same : SeenAs view state (rest state) (other (view state))) :
    SeenAs view state (get >>= rest) (get >>= other) := by
  simpa only [SeenAs, EStateM.run_bind, EStateM.run_get] using same

theorem seen_as_bind {call : EStateM Failure State Out} {other : EStateM Failure Part Out}
    {rest : Out → EStateM Failure State Out'} {otherRest : Out → EStateM Failure Part Out'}
    (first : SeenAs view state call other)
    (second : ∀ out next, call.run state = .ok out next →
      SeenAs view next (rest out) (otherRest out)) :
    SeenAs view state (call >>= rest) (other >>= otherRest) := by
  unfold SeenAs at first
  cases ran : call.run state with
  | ok out next =>
      have later := second out next ran
      simp only [SeenAs, EStateM.run_bind, first, ran, seen] at later ⊢
      exact later
  | error failure next => simp only [SeenAs, EStateM.run_bind, first, ran, seen]

theorem seen_as_bind_pure {call : EStateM Failure State Out} {other : EStateM Failure Part Out}
    (same : SeenAs view state call other) (answer : Out → Out') :
    SeenAs view state (call >>= fun out => pure (answer out))
      (other >>= fun out => pure (answer out)) :=
  seen_as_bind same fun out _ _ => seen_as_pure (answer out)

theorem leave_seen {call : Op → EStateM Failure State Out}
    {other : Op → EStateM Failure Part Out} {op : Op}
    (same : SeenAs view state (call op) (other op)) :
    leave other (view state) op = view (leave call state op) := by
  unfold SeenAs at same
  cases ran : (call op).run state with
  | ok out next =>
      rw [ran] at same
      rw [leave_of_ok ran, leave_of_ok same]
  | error failure next =>
      rw [ran] at same
      rw [leave_of_error ran, leave_of_error same]

/-- What every call does to what is seen, a run does. -/
theorem leave_all_seen {call : Op → EStateM Failure State Out}
    {other : Op → EStateM Failure Part Out}
    (same : ∀ state op, SeenAs view state (call op) (other op)) (start : State) (ops : List Op) :
    leaveAll other (view start) ops = view (leaveAll call start ops) := by
  induction ops generalizing start with
  | nil => rfl
  | cons op rest induction =>
      simp only [leaveAll, List.foldl_cons, leave_seen (same start op)]
      exact induction (leave call start op)

end Views

/-! ## Conditions on each call and the calls before it -/

theorem forall_call_nil (Allowed : List Op → Op → Prop) :
    ∀ earlier op, earlier ++ [op] <+: [] → Allowed earlier op := by
  simp

/-- What holds of all calls holds of those of an initial segment. -/
theorem forall_call_initial {Allowed : List Op → Op → Prop} {initial ops : List Op}
    (segment : initial <+: ops)
    (all : ∀ earlier op, earlier ++ [op] <+: ops → Allowed earlier op) :
    ∀ earlier op, earlier ++ [op] <+: initial → Allowed earlier op :=
  fun earlier op made => all earlier op (made.trans segment)

theorem forall_call_cons (Allowed : List Op → Op → Prop) (first : Op) (rest : List Op) :
    (∀ earlier op, earlier ++ [op] <+: first :: rest → Allowed earlier op) ↔
      Allowed [] first ∧
        ∀ earlier op, earlier ++ [op] <+: rest → Allowed (first :: earlier) op := by
  constructor
  · intro all
    refine ⟨all [] first (by simp), fun earlier op made => all (first :: earlier) op ?_⟩
    rw [List.cons_append, List.cons_prefix_cons]
    exact ⟨rfl, made⟩
  · rintro ⟨here, later⟩ earlier op made
    cases earlier with
    | nil =>
        rw [List.nil_append, List.cons_prefix_cons] at made
        rw [made.1]
        exact here
    | cons head earlier =>
        rw [List.cons_append, List.cons_prefix_cons] at made
        rw [made.1]
        exact later earlier op made.2

/-- When each call returns exactly if it is allowed after the calls before it,
a run returns exactly if all its calls are. -/
theorem run_all_ok_iff (call : Op → EStateM Failure State Out)
    (Invariant : List Op → State → Prop) (Allowed : List Op → Op → Prop)
    (returns : ∀ done before op, Invariant done before → Allowed done op →
      ∃ out after, (call op).run before = .ok out after ∧ Invariant (done ++ [op]) after)
    (fails : ∀ done before op, Invariant done before → ¬Allowed done op →
      ∃ failure stopped, (call op).run before = .error failure stopped)
    (ops : List Op) (start : State) (initial : Invariant [] start) :
    (∃ outs final, (runAll call ops).run start = .ok outs final) ↔
      ∀ earlier op, earlier ++ [op] <+: ops → Allowed earlier op := by
  suffices general : ∀ (ops done : List Op) (start : State), Invariant done start →
      ((∃ outs final, (runAll call ops).run start = .ok outs final) ↔
        ∀ earlier op, earlier ++ [op] <+: ops → Allowed (done ++ earlier) op) by
    simpa using general ops [] start initial
  intro ops
  induction ops with
  | nil =>
      intro done start _
      simp
  | cons op rest induction =>
      intro done start holds
      rw [forall_call_cons (fun earlier => Allowed (done ++ earlier)), List.append_nil]
      by_cases allowed : Allowed done op
      · obtain ⟨out, next, first, held⟩ := returns done start op holds allowed
        have remaining := induction (done ++ [op]) next held
        simp only [List.append_assoc, List.singleton_append] at remaining
        rw [run_all_cons_ok call op rest first, and_iff_right allowed, ← remaining]
        cases (runAll call rest).run next with
        | ok outs final => simp
        | error failure stopped => simp
      · obtain ⟨failure, stopped, first⟩ := fails done start op holds allowed
        rw [run_all_cons_error call op rest first]
        simp [allowed]

/-! ## Refining a machine that cannot fail -/

section Refinement

variable {Abstract : Type}

/-- The answers of a machine to a list of calls, and the state it ends in. -/
def answers (step : Abstract → Op → Out × Abstract) (start : Abstract) :
    List Op → List Out × Abstract
  | [] => ([], start)
  | op :: rest =>
      ((step start op).1 :: (answers step (step start op).2 rest).1,
        (answers step (step start op).2 rest).2)

theorem answers_append (step : Abstract → Op → Out × Abstract) (start : Abstract)
    (earlier later : List Op) :
    answers step start (earlier ++ later) =
      ((answers step start earlier).1 ++ (answers step (answers step start earlier).2 later).1,
        (answers step (answers step start earlier).2 later).2) := by
  induction earlier generalizing start with
  | nil => rfl
  | cons op rest induction =>
      rw [List.cons_append, answers, induction]
      simp only [answers, List.cons_append]

/-- Calls that are not answered and change nothing can be left out. -/
theorem answers_filter {Step : Type} (step : Abstract → Op → List Step × Abstract)
    (matters : Op → Bool)
    (silent : ∀ state op, matters op = false → step state op = ([], state))
    (ops : List Op) (start : Abstract) :
    (answers step start (ops.filter matters)).1.flatten = (answers step start ops).1.flatten ∧
      (answers step start (ops.filter matters)).2 = (answers step start ops).2 := by
  induction ops generalizing start with
  | nil => exact ⟨rfl, rfl⟩
  | cons op rest induction =>
      cases kept : matters op with
      | true =>
          rw [List.filter_cons_of_pos kept]
          obtain ⟨same, ended⟩ := induction (step start op).2
          simp only [answers, List.flatten_cons, same, ended, and_self]
      | false =>
          rw [List.filter_cons_of_neg (by simp [kept])]
          simp only [answers, silent start op kept, List.flatten_cons, List.nil_append]
          exact induction start

/-- What every call hands out of what is held, a run does. -/
theorem answers_conserve {Step Item : Type} (step : Abstract → Op → List Step × Abstract)
    (out : Step → List Item) (held : Abstract → List Item)
    (conserves : ∀ state op, (step state op).1.flatMap out ++ held (step state op).2 = held state)
    (ops : List Op) (start : Abstract) :
    (answers step start ops).1.flatten.flatMap out ++ held (answers step start ops).2 =
      held start := by
  induction ops generalizing start with
  | nil => rfl
  | cons op rest induction =>
      simp only [answers, List.flatten_cons, List.flatMap_append, List.append_assoc, induction]
      exact conserves start op

/-- Where every call answers as the machine does, a run does. -/
theorem run_all_refines (call : Op → EStateM Failure State Out)
    (step : Abstract → Op → Out × Abstract) (view : State → Abstract) (Invariant : State → Prop)
    (refines : ∀ state op, Invariant state → ∃ next,
      (call op).run state = .ok (step (view state) op).1 next ∧
        view next = (step (view state) op).2 ∧ Invariant next)
    (ops : List Op) (start : State) (initial : Invariant start) :
    ∃ final, (runAll call ops).run start = .ok (answers step (view start) ops).1 final ∧
      view final = (answers step (view start) ops).2 ∧ Invariant final := by
  induction ops generalizing start with
  | nil => exact ⟨start, rfl, rfl, initial⟩
  | cons op rest induction =>
      obtain ⟨next, first, moved, held⟩ := refines start op initial
      obtain ⟨final, remaining, ended, finished⟩ := induction next held
      rw [moved] at remaining ended
      refine ⟨final, ?_, ended, finished⟩
      rw [run_all_cons_ok call op rest first, remaining]
      rfl

end Refinement

/-! ## Runs whose failures are answers -/

section Settled

variable {Part : Type}

/-- What a call comes to, and the state it leaves. -/
def settle (call : Op → EStateM Failure State Out) (state : State) (op : Op) :
    Except Failure Out × State :=
  match (call op).run state with
  | .ok out next => (.ok out, next)
  | .error failure next => (.error failure, next)

theorem settle_of_ok {call : Op → EStateM Failure State Out} {op : Op} {state next : State}
    {out : Out} (ran : (call op).run state = .ok out next) :
    settle call state op = (.ok out, next) := by
  rw [settle, ran]

theorem settle_of_error {call : Op → EStateM Failure State Out} {op : Op} {state next : State}
    {failure : Failure} (ran : (call op).run state = .error failure next) :
    settle call state op = (.error failure, next) := by
  rw [settle, ran]

theorem settle_state (call : Op → EStateM Failure State Out) (state : State) (op : Op) :
    (settle call state op).2 = leave call state op := by
  unfold settle leave
  split <;> rfl

/-- What is returned afterwards does not change the state. -/
theorem settle_bind_pure_state {Out' : Type} (call : Op → EStateM Failure State Out)
    (answer : Out → Out') (state : State) (op : Op) :
    (settle (fun op => call op >>= fun out => pure (answer out)) state op).2 =
      (settle call state op).2 := by
  cases ran : (call op).run state <;>
    simp only [settle, EStateM.run_bind, ran, EStateM.run_pure]

theorem settle_seen {view : State → Part} {call : Op → EStateM Failure State Out}
    {other : Op → EStateM Failure Part Out} {state : State} {op : Op}
    (same : SeenAs view state (call op) (other op)) :
    settle other (view state) op =
      ((settle call state op).1, view (settle call state op).2) := by
  unfold SeenAs at same
  cases ran : (call op).run state with
  | ok out next =>
      rw [ran] at same
      rw [settle_of_ok ran, settle_of_ok same]
  | error failure next =>
      rw [ran] at same
      rw [settle_of_error ran, settle_of_error same]

/-- Where every call comes to what is seen of it, and goes on from there, a run does. -/
theorem answers_seen {view : State → Part} {call : Op → EStateM Failure State Out}
    {other : Op → EStateM Failure Part Out} (Invariant : State → Prop)
    (same : ∀ state op, Invariant state → SeenAs view state (call op) (other op))
    (kept : ∀ state op, Invariant state → Invariant (settle call state op).2)
    (ops : List Op) (start : State) (initial : Invariant start) :
    answers (settle other) (view start) ops =
      ((answers (settle call) start ops).1, view (answers (settle call) start ops).2) := by
  induction ops generalizing start with
  | nil => rfl
  | cons op rest induction =>
      have later := induction (settle call start op).2 (kept start op initial)
      simp only [answers, settle_seen (same start op initial), later]

/-- What every answer of a machine preserves, a run of them preserves. -/
theorem answers_invariant {Abstract Answer : Type} (step : Abstract → Op → Answer × Abstract)
    (Admissible : Op → Prop) (Invariant : List Op → List Answer → Abstract → Prop)
    (kept : ∀ done given before op, Admissible op → Invariant done given before →
      Invariant (done ++ [op]) (given ++ [(step before op).1]) (step before op).2)
    (ops : List Op) (admissible : ∀ op ∈ ops, Admissible op) (start : Abstract)
    (initial : Invariant [] [] start) :
    Invariant ops (answers step start ops).1 (answers step start ops).2 := by
  suffices general : ∀ (ops done : List Op) (given : List Answer) (start : Abstract),
      (∀ op ∈ ops, Admissible op) → Invariant done given start →
        Invariant (done ++ ops) (given ++ (answers step start ops).1) (answers step start ops).2 by
    simpa using general ops [] [] start admissible initial
  intro ops
  induction ops with
  | nil =>
      intro done given start _ holds
      simpa [answers] using holds
  | cons op rest induction =>
      intro done given start admissible holds
      have continued := induction (done ++ [op]) (given ++ [(step start op).1]) (step start op).2
        (fun other member => admissible other (by simp [member]))
        (kept done given start op (admissible op (by simp)) holds)
      simpa [answers] using continued

end Settled

/-! ## Components of a larger state -/

/-- A call on one component of the state; the others are left alone. -/
def within {Whole : Type} (view : Whole → State) (replace : State → Whole → Whole)
    (call : EStateM Failure State Out) : EStateM Failure Whole Out := fun whole =>
  match call.run (view whole) with
  | .ok out part => .ok out (replace part whole)
  | .error failure part => .error failure (replace part whole)

theorem within_ok {Whole : Type} {view : Whole → State} {replace : State → Whole → Whole}
    {call : EStateM Failure State Out} {whole : Whole} {part : State} {out : Out}
    (ran : call.run (view whole) = .ok out part) :
    (within view replace call).run whole = .ok out (replace part whole) := by
  simp only [within, EStateM.run] at ran ⊢
  simp only [ran]

theorem within_error {Whole : Type} {view : Whole → State} {replace : State → Whole → Whole}
    {call : EStateM Failure State Out} {whole : Whole} {part : State} {failure : Failure}
    (ran : call.run (view whole) = .error failure part) :
    (within view replace call).run whole = .error failure (replace part whole) := by
  simp only [within, EStateM.run] at ran ⊢
  simp only [ran]

theorem within_leads {Whole : Type} {view : Whole → State} {replace : State → Whole → Whole}
    {call : EStateM Failure State Out} {whole : Whole} {Reached : Out → State → Prop}
    {Fails : Failure → Prop} (leads : Leads Reached Fails (call.run (view whole))) :
    Leads (fun out after => ∃ part, after = replace part whole ∧ Reached out part) Fails
      ((within view replace call).run whole) := by
  cases ran : call.run (view whole) with
  | ok out part =>
      rw [ran] at leads
      rw [within_ok ran]
      exact ⟨part, rfl, leads⟩
  | error failure part =>
      rw [ran] at leads
      rw [within_error ran]
      exact leads

end GrCompress.CallRuns
