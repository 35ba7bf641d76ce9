import Troupe.Block.Instruction
import Troupe.Performance.Action

/-!
# Work

The work of a stream is what it still has to do for the block it performs. Work is unfolded one
action at a time by `Work.next?`, so a body that is repeated many times is never written out.

`Instruction.trace` writes it out: it is the list of all actions of an instruction, in order, and
`Work.trace` that of work. The main statements, `Work.next?_eq_none_iff` and `Work.trace_of_next?`,
say that unfolding work gives its trace.
-/

namespace Troupe

/-- A part of the work of a stream. -/
inductive Task where
  /-- A single action. -/
  | act (action : Action)
  /-- Instructions, one after the other. -/
  | sequence (instructions : List Instruction)
  /-- Instructions, performed a number of times. -/
  | loop (times : Nat) (body : List Instruction)
deriving Repr

/-- What a stream still has to do, in order. -/
abbrev Work := List Task

namespace Instruction

/-- What performing an instruction consists of once it is announced. A shift is followed by a rest,
and a bubble is hidden after its seconds. -/
def tasks (movePause : Nat) : Instruction → Work
  | .move distance => [.act (.change (.shift distance)), .act (.pause movePause)]
  | .say text seconds =>
    [.act (.change (.say text)), .act (.pause (1000 * seconds)), .act (.change .hush)]
  | .think text seconds =>
    [.act (.change (.think text)), .act (.pause (1000 * seconds)), .act (.change .unthink)]
  | .turnLeft angle => [.act (.change (.turnLeft angle))]
  | .turn angle => [.act (.change (.turn angle))]
  | .goTo x y => [.act (.change (.place ⟨x, y⟩))]
  | .loop times body => [.loop times body]
  | .unknown name => [.act (.warn name)]

mutual

/-- All actions of an instruction, in order. -/
def trace (movePause : Nat) : Instruction → List Action
  | .move distance => [.announce .move, .change (.shift distance), .pause movePause]
  | .say text seconds =>
    [.announce .say, .change (.say text), .pause (1000 * seconds), .change .hush]
  | .think text seconds =>
    [.announce .think, .change (.think text), .pause (1000 * seconds), .change .unthink]
  | .turnLeft angle => [.announce .turnLeft, .change (.turnLeft angle)]
  | .turn angle => [.announce .turn, .change (.turn angle)]
  | .goTo x y => [.announce .goTo, .change (.place ⟨x, y⟩)]
  | .loop times body => .announce .loop :: (List.replicate times (traceAll movePause body)).flatten
  | .unknown name => [.announce (.unknown name), .warn name]

/-- All actions of a list of instructions, in order. -/
def traceAll (movePause : Nat) : List Instruction → List Action
  | [] => []
  | i :: rest => trace movePause i ++ traceAll movePause rest

end

end Instruction

namespace Task

/-- All actions of a task, in order. -/
def trace (movePause : Nat) : Task → List Action
  | .act action => [action]
  | .sequence instructions => Instruction.traceAll movePause instructions
  | .loop times body => (List.replicate times (Instruction.traceAll movePause body)).flatten

end Task

namespace Work

/-- The work for a block. -/
def ofBlock (b : Block) : Work := [.sequence [b.decode]]

/-- The work for a script. -/
def ofScript (script : Script) : Work := [.sequence (script.map Block.decode)]

/-- The next action and the work after it; without an action left, there is none. -/
def next? (movePause : Nat) : Work → Option (Action × Work)
  | [] => none
  | .act action :: rest => some (action, rest)
  | .sequence [] :: rest => next? movePause rest
  | .sequence (i :: is) :: rest =>
    some (.announce i.kind, i.tasks movePause ++ .sequence is :: rest)
  | .loop 0 _ :: rest => next? movePause rest
  | .loop (_ + 1) [] :: rest => next? movePause rest
  | .loop (times + 1) (i :: is) :: rest =>
    some (.announce i.kind, i.tasks movePause ++ .sequence is :: .loop times (i :: is) :: rest)

/-- All actions of work, in order. -/
def trace (movePause : Nat) (work : Work) : List Action := work.flatMap (Task.trace movePause)

variable {movePause : Nat}

/-- Without tasks there are no actions. -/
@[simp] theorem trace_nil : trace movePause [] = [] := rfl

/-- The actions of the first task come before those of the others. -/
@[simp] theorem trace_cons (task : Task) (rest : Work) :
    trace movePause (task :: rest) = task.trace movePause ++ trace movePause rest := by
  simp [trace]

/-- The actions of work come before those of the work behind it. -/
@[simp] theorem trace_append (first second : Work) :
    trace movePause (first ++ second) = trace movePause first ++ trace movePause second := by
  simp [trace]

/-- The trace of an instruction is its announcement and the trace of its tasks. -/
theorem announce_trace_tasks (i : Instruction) :
    i.trace movePause = .announce i.kind :: trace movePause (i.tasks movePause) := by
  cases i <;> simp [Instruction.trace, Instruction.tasks, Instruction.kind, Task.trace]

/-- Work has a next action unless its trace is empty. -/
theorem next?_eq_none_iff {work : Work} :
    work.next? movePause = none ↔ work.trace movePause = [] := by
  fun_induction next? movePause work with
  | case1 => simp
  | case2 => simp [Task.trace]
  | case3 rest ih => simpa [Task.trace, Instruction.traceAll] using ih
  | case4 i is rest => simp [Task.trace, Instruction.traceAll, announce_trace_tasks]
  | case5 body rest ih => simpa [Task.trace] using ih
  | case6 times rest ih => simpa [Task.trace, Instruction.traceAll] using ih
  | case7 times i is rest =>
    simp [Task.trace, Instruction.traceAll, announce_trace_tasks, List.replicate_succ]

/-- The next action is the first of the trace, and the work after it has the rest of the trace. -/
theorem trace_of_next? {work rest : Work} {action : Action}
    (h : work.next? movePause = some (action, rest)) :
    work.trace movePause = action :: rest.trace movePause := by
  fun_induction next? movePause work with
  | case1 => simp at h
  | case2 action' rest' => simp at h; obtain ⟨rfl, rfl⟩ := h; simp [Task.trace]
  | case3 rest' ih => simpa [Task.trace, Instruction.traceAll] using ih h
  | case4 i is rest' =>
    simp only [Option.some.injEq, Prod.mk.injEq] at h
    obtain ⟨rfl, rfl⟩ := h
    simp [Task.trace, Instruction.traceAll, announce_trace_tasks]
  | case5 body rest' ih => simpa [Task.trace] using ih h
  | case6 times rest' ih =>
    simpa [Task.trace, Instruction.traceAll] using ih h
  | case7 times i is rest' =>
    simp only [Option.some.injEq, Prod.mk.injEq] at h
    obtain ⟨rfl, rfl⟩ := h
    simp [Task.trace, Instruction.traceAll, announce_trace_tasks, List.replicate_succ]

/-- Taking an action shortens the trace by one. -/
theorem length_trace_of_next? {work rest : Work} {action : Action}
    (h : work.next? movePause = some (action, rest)) :
    (work.trace movePause).length = (rest.trace movePause).length + 1 := by
  rw [trace_of_next? h, List.length_cons]

end Work

end Troupe
