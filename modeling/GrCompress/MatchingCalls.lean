import GrCompress.CallRuns

/-!
# Calls of two programs that match

Two programs have the same calls, each on states of its own. Two calls match when
they return the same and leave related states, or fail alike. The first program may
also fail where the second one does not, if such a failure is excused: the second one
does not model it. What matches call by call matches as a run.
-/

namespace GrCompress.MatchingCalls

open GrCompress.CallRuns

set_option autoImplicit false

variable {Failure State Other Op Out Out' : Type}

/-- What two matching calls come to. -/
def Matched (Related : State → Other → Prop) (Excused : Failure → Prop) :
    EStateM.Result Failure State Out → EStateM.Result Failure Other Out → Prop
  | .ok out next, .ok out' next' => out = out' ∧ Related next next'
  | .error failure _, .error failure' _ => Excused failure ∨ failure = failure'
  | .error failure _, .ok _ _ => Excused failure
  | .ok _ _, .error _ _ => False

/-- From these two states the calls match. -/
def MatchesAt (Related : State → Other → Prop) (Excused : Failure → Prop) (state : State)
    (state' : Other) (call : EStateM Failure State Out) (call' : EStateM Failure Other Out) :
    Prop :=
  Matched Related Excused (call.run state) (call'.run state')

variable {Related Between : State → Other → Prop} {Excused : Failure → Prop} {state : State}
  {state' : Other}

theorem matched_of_excused {failure : Failure} (excused : Excused failure) (next : State)
    (result : EStateM.Result Failure Other Out) :
    Matched Related Excused (.error failure next) result := by
  cases result with
  | ok out next' => exact excused
  | error failure' next' => exact .inl excused

theorem matched_ok {result : EStateM.Result Failure State Out}
    {result' : EStateM.Result Failure Other Out} (matched : Matched Related Excused result result')
    {out : Out} {next : State} (ran : result = .ok out next) :
    ∃ next', result' = .ok out next' ∧ Related next next' := by
  subst ran
  cases result' with
  | ok out' next' =>
      rcases matched with ⟨rfl, related⟩
      exact ⟨next', rfl, related⟩
  | error failure next' => exact matched.elim

theorem matched_error {result : EStateM.Result Failure State Out}
    {result' : EStateM.Result Failure Other Out} (matched : Matched Related Excused result result')
    {failure : Failure} {next : State} (ran : result = .error failure next) :
    Excused failure ∨ ∃ next', result' = .error failure next' := by
  subst ran
  cases result' with
  | ok out next' => exact .inl matched
  | error failure' next' =>
      rcases matched with excused | rfl
      · exact .inl excused
      · exact .inr ⟨next', rfl⟩

theorem matches_mono {call : EStateM Failure State Out} {call' : EStateM Failure Other Out}
    (weaker : ∀ next next', Between next next' → Related next next')
    (same : MatchesAt Between Excused state state' call call') :
    MatchesAt Related Excused state state' call call' := by
  unfold MatchesAt at same ⊢
  cases ran : call.run state with
  | ok out next =>
      obtain ⟨next', ran', related⟩ := matched_ok same ran
      rw [ran']
      exact ⟨rfl, weaker next next' related⟩
  | error failure next =>
      rcases matched_error same ran with excused | ⟨next', ran'⟩
      · exact matched_of_excused excused next _
      · rw [ran']
        exact .inr rfl

theorem matches_pure (related : Related state state') (out : Out) :
    MatchesAt Related Excused state state' (pure out) (pure out) :=
  ⟨rfl, related⟩

theorem matches_throw (failure : Failure) :
    MatchesAt Related Excused state state' (throw failure : EStateM Failure State Out)
      (throw failure) :=
  .inr rfl

theorem matches_modify {change : State → State} {change' : Other → Other}
    (related : Related (change state) (change' state')) :
    MatchesAt Related Excused state state' (modify change : EStateM Failure State PUnit)
      (modify change') :=
  ⟨rfl, related⟩

theorem matches_get_bind {rest : State → EStateM Failure State Out}
    {rest' : Other → EStateM Failure Other Out}
    (same : MatchesAt Related Excused state state' (rest state) (rest' state')) :
    MatchesAt Related Excused state state' (get >>= rest) (get >>= rest') := by
  simpa only [MatchesAt, EStateM.run_bind, EStateM.run_get] using same

/-- Calls in sequence match one after the other. -/
theorem matches_bind {call : EStateM Failure State Out} {call' : EStateM Failure Other Out}
    {rest : Out → EStateM Failure State Out'} {rest' : Out → EStateM Failure Other Out'}
    (first : MatchesAt Between Excused state state' call call')
    (second : ∀ out next next', call.run state = .ok out next → Between next next' →
      MatchesAt Related Excused next next' (rest out) (rest' out)) :
    MatchesAt Related Excused state state' (call >>= rest) (call' >>= rest') := by
  unfold MatchesAt at first ⊢
  rw [EStateM.run_bind, EStateM.run_bind]
  cases ran : call.run state with
  | ok out next =>
      obtain ⟨next', ran', related⟩ := matched_ok first ran
      rw [ran']
      exact second out next next' ran related
  | error failure next =>
      rcases matched_error first ran with excused | ⟨next', ran'⟩
      · exact matched_of_excused excused next _
      · rw [ran']
        exact .inr rfl

/-- What the second program has no call for comes first. -/
theorem matches_bind_before {Reached : Out' → State → Prop} {call : EStateM Failure State Out'}
    {rest : Out' → EStateM Failure State Out} {call' : EStateM Failure Other Out}
    (first : Leads Reached Excused (call.run state))
    (second : ∀ out next, Reached out next →
      MatchesAt Related Excused next state' (rest out) call') :
    MatchesAt Related Excused state state' (call >>= rest) call' := by
  unfold MatchesAt
  rw [EStateM.run_bind]
  cases ran : call.run state with
  | ok out next =>
      rw [ran] at first
      exact second out next first
  | error failure next =>
      rw [ran] at first
      have excused : Excused failure := first
      exact matched_of_excused excused next _

theorem matches_get_before {rest : State → EStateM Failure State Out}
    {call' : EStateM Failure Other Out}
    (same : MatchesAt Related Excused state state' (rest state) call') :
    MatchesAt Related Excused state state' (get >>= rest) call' := by
  simpa only [MatchesAt, EStateM.run_bind, EStateM.run_get] using same

theorem matches_modify_before {change : State → State} {rest : PUnit → EStateM Failure State Out}
    {call' : EStateM Failure Other Out}
    (same : MatchesAt Related Excused (change state) state' (rest ⟨⟩) call') :
    MatchesAt Related Excused state state' (modify change >>= rest) call' := by
  simpa only [MatchesAt, EStateM.run_bind, EStateM.run_modify] using same

/-- What the second program has no call for comes last. -/
theorem matches_bind_alone {call : EStateM Failure State PUnit}
    {call' : EStateM Failure Other PUnit} {rest : PUnit → EStateM Failure State PUnit}
    (first : MatchesAt Between Excused state state' call call')
    (alone : ∀ next next', call.run state = .ok ⟨⟩ next → Between next next' →
      MatchesAt Related Excused next next' (rest ⟨⟩) (pure ⟨⟩)) :
    MatchesAt Related Excused state state' (call >>= rest) call' := by
  rw [← bind_pure call']
  exact matches_bind first fun _ next next' ran related => alone next next' ran related

theorem matches_ite {condition : Prop} [Decidable condition]
    {call other : EStateM Failure State Out} {call' other' : EStateM Failure Other Out}
    (holds : condition → MatchesAt Related Excused state state' call call')
    (fails : ¬condition → MatchesAt Related Excused state state' other other') :
    MatchesAt Related Excused state state' (if condition then call else other)
      (if condition then call' else other') := by
  by_cases truth : condition
  · simpa only [if_pos truth] using holds truth
  · simpa only [if_neg truth] using fails truth

/-- Where every allowed call matches, a run of allowed calls does. -/
theorem run_all_matches {call : Op → EStateM Failure State Out}
    {call' : Op → EStateM Failure Other Out} (Allowed : State → Op → Prop)
    (step : ∀ state state' op, Related state state' → Allowed state op →
      MatchesAt Related Excused state state' (call op) (call' op))
    (ops : List Op) (start : State) (start' : Other) (related : Related start start')
    (allowed : ∀ earlier op, earlier ++ [op] <+: ops → ∀ outs before,
      (runAll call earlier).run start = .ok outs before → Allowed before op) :
    MatchesAt Related Excused start start' (runAll call ops) (runAll call' ops) := by
  induction ops generalizing start start' with
  | nil => exact matches_pure related []
  | cons op rest induction =>
      apply matches_bind (step start start' op related (allowed [] op (by simp) [] start rfl))
      intro out next next' called nowRelated
      apply matches_bind (induction next next' nowRelated ?_)
      · intro outs last last' _ lastRelated
        exact matches_pure lastRelated (out :: outs)
      · intro earlier later made outs before ran
        refine allowed (op :: earlier) later ?_ (out :: outs) before ?_
        · rw [List.cons_append, List.cons_prefix_cons]
          exact ⟨rfl, made⟩
        · rw [run_all_cons_ok call op earlier called, ran]

end GrCompress.MatchingCalls
