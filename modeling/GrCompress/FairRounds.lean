import GrCompress.CallRuns

/-!
# Draining by fair rounds

A component is made of stages. A call serves one stage: either the stage is idle
and the call changes nothing that matters, or the call makes the backlog
smaller. A round is any list of calls that serves every stage at least once, in
any order and with any repetitions. After more rounds than the backlog is large,
every stage is idle.
-/

namespace GrCompress.FairRounds

open GrCompress.CallRuns

set_option autoImplicit false

variable {Failure State Op Out Stage : Type}

/-- What is to be shown of one call. -/
structure Drains (call : Op → EStateM Failure State Out) (Admissible : Op → Prop)
    (Invariant : State → Prop) (stage : Op → Stage) (Idle : Stage → State → Prop)
    (backlog : State → Nat) : Prop where
  serves : ∀ before op, Admissible op → Invariant before →
    ∃ out after, (call op).run before = .ok out after ∧ Invariant after ∧
      (¬Idle (stage op) before ∧ backlog after < backlog before ∨
        Idle (stage op) before ∧ backlog after = backlog before ∧
          ∀ other, Idle other after ↔ Idle other before)

/-- A list of admissible calls that serves every stage. -/
structure Round (Admissible : Op → Prop) (stage : Op → Stage) (ops : List Op) : Prop where
  admissible : ∀ op ∈ ops, Admissible op
  complete : ∀ served, ∃ op ∈ ops, stage op = served

variable {call : Op → EStateM Failure State Out} {Admissible : Op → Prop}
  {Invariant : State → Prop} {stage : Op → Stage} {Idle : Stage → State → Prop}
  {backlog : State → Nat}

/-- A list of calls makes the backlog smaller, unless every stage it serves was idle. -/
theorem calls_serve (drains : Drains call Admissible Invariant stage Idle backlog) (ops : List Op)
    (admissible : ∀ op ∈ ops, Admissible op) (start : State) (initial : Invariant start) :
    ∃ outs final, (runAll call ops).run start = .ok outs final ∧ Invariant final ∧
      (backlog final < backlog start ∨
        (∀ op ∈ ops, Idle (stage op) start) ∧ backlog final = backlog start ∧
          ∀ other, Idle other final ↔ Idle other start) := by
  induction ops generalizing start with
  | nil => exact ⟨[], start, rfl, initial, .inr ⟨by simp, rfl, fun _ => Iff.rfl⟩⟩
  | cons op rest induction =>
      obtain ⟨out, next, first, held, served⟩ :=
        drains.serves start op (admissible op (by simp)) initial
      obtain ⟨outs, final, tail, finished, later⟩ :=
        induction (fun other member => admissible other (by simp [member])) next held
      refine ⟨out :: outs, final, by rw [run_all_cons_ok call op rest first, tail], finished, ?_⟩
      rcases served with ⟨_, smaller⟩ | ⟨idle, same, stages⟩
      · left
        rcases later with smaller' | ⟨_, same', _⟩ <;> omega
      · rcases later with smaller' | ⟨idle', same', stages'⟩
        · left
          omega
        · right
          refine ⟨?_, same'.trans same, fun other => (stages' other).trans (stages other)⟩
          intro other member
          rcases List.mem_cons.1 member with rfl | inRest
          · exact idle
          · exact (stages (stage other)).1 (idle' other inRest)

/-- What is idle throughout stays so. -/
theorem calls_stay_idle (drains : Drains call Admissible Invariant stage Idle backlog)
    (ops : List Op) (admissible : ∀ op ∈ ops, Admissible op) (start : State)
    (initial : Invariant start) (idle : ∀ other, Idle other start) :
    ∃ outs final, (runAll call ops).run start = .ok outs final ∧ Invariant final ∧
      ∀ other, Idle other final := by
  apply run_all_total call Admissible
    (fun _ _ state => Invariant state ∧ ∀ other, Idle other state) ?_ ops admissible start
    ⟨initial, idle⟩
  intro _ _ before op allowed holds
  obtain ⟨out, after, ran, held, served⟩ := drains.serves before op allowed holds.1
  refine ⟨out, after, ran, held, ?_⟩
  rcases served with ⟨busy, _⟩ | ⟨_, _, stages⟩
  · exact absurd (holds.2 (stage op)) busy
  · exact fun other => (stages other).2 (holds.2 other)

/-- More fair rounds than there is backlog leave every stage idle. -/
theorem rounds_drain (drains : Drains call Admissible Invariant stage Idle backlog)
    (rounds : List (List Op)) (fair : ∀ round ∈ rounds, Round Admissible stage round)
    (start : State) (initial : Invariant start) (enough : backlog start < rounds.length) :
    ∃ outs final, (runAll call rounds.flatten).run start = .ok outs final ∧ Invariant final ∧
      ∀ other, Idle other final := by
  induction rounds generalizing start with
  | nil => simp at enough
  | cons round rounds induction =>
      have first := fair round (by simp)
      have later : ∀ other ∈ rounds, Round Admissible stage other :=
        fun other member => fair other (by simp [member])
      obtain ⟨outs, next, ran, held, served⟩ :=
        calls_serve drains round first.admissible start initial
      have rest : ∃ outs final, (runAll call rounds.flatten).run next = .ok outs final ∧
          Invariant final ∧ ∀ other, Idle other final := by
        rcases served with smaller | ⟨idle, _, stages⟩
        · rw [List.length_cons] at enough
          exact induction later next held (by omega)
        · apply calls_stay_idle drains rounds.flatten ?_ next held
          · intro other
            obtain ⟨op, member, rfl⟩ := first.complete other
            exact (stages (stage op)).2 (idle op member)
          · intro op member
            obtain ⟨other, inRounds, inOther⟩ := List.mem_flatten.1 member
            exact (later other inRounds).admissible op inOther
      obtain ⟨outs', final, ran', finished, idle⟩ := rest
      exact ⟨outs ++ outs', final, run_all_append_ok call ran ran', finished, idle⟩

end GrCompress.FairRounds
