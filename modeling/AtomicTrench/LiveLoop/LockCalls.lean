/-
# LiveLoop.LockCalls -- the lock's steps are the program's calls

`LiveLoop.Lock` interleaves the file operations of many processes, and
`LiveLoop.Main` has `try_acquire_lock` and `release_lock` as programs.  `code` is
what is left of `try_acquire_lock` at each program point: a step of a process is
the next call of that program, answered from the shared state, and leads to what
is left at the next point (`acquire_step`).  A step out of the lock is the one
call of `release_lock` (`release_step`).
-/
import AtomicTrench.LiveLoop.Lock
import AtomicTrench.LiveLoop.Main

namespace AtomicTrench.LiveLoop

open AtomicTrench.Lib.Calls
open AtomicTrench.LiveLoop.Lock
open AtomicTrench.Shadow

set_option autoImplicit false

def osError : PyError := ⟨"OSError", ""⟩

variable {P : Type} [DecidableEq P]

/-- The call an operation is, answered from the shared state. -/
def lockCall (l : Locals) (s : State P) : Op → Event PyError Locals Call.Res
  | .exists_ => ⟨l, .lockExists, .ok s.file.isSome⟩
  | .clock => ⟨l, .time, .ok s.now⟩
  | .stat => ⟨l, .lockStat, s.file.elim (.error osError) .ok⟩
  | .statFails => ⟨l, .lockStat, .error osError⟩
  | .touch => ⟨l, .lockTouch, .ok ()⟩
  | .touchFails => ⟨l, .lockTouch, .error osError⟩
  | .unlink => ⟨l, .lockUnlink, .ok ()⟩
  | .unlinkFails => ⟨l, .lockUnlink, .error osError⟩

def touchAndReturn : Program Bool := do
  call .lockTouch
  return true

/-- What is left of `try_acquire_lock`. -/
def code : Pc → Program Bool
  | .idle => do
      if ← call .lockExists then
        if ← lockIsYoung then
          return false
      touchAndReturn
  | .found => do
      if ← lockIsYoung then
        return false
      touchAndReturn
  | .clocked now => do
      if ← Prog.catching
          (do
            let mtime ← call .lockStat
            return decide (now - mtime < 120))
          fun e => if caughtBy ["OSError"] e then pure false else throw e then
        return false
      touchAndReturn
  | .touching => touchAndReturn
  | .holding _ => return true

/-- What is left after an operation that led to `pc`. -/
def afterOp : Op → Pc → Program Bool
  | .stat, .idle => return false
  | .touchFails, _ => throw osError
  | _, pc => code pc

/-- `try_acquire_lock` is the `mkdir` and the code at the idle point. -/
theorem tryAcquireLock_eq : tryAcquireLock = (call .mkdirData >>= fun _ => code .idle) := rfl

section Steps

variable {s s' : State P} {p : P} {op : Op} {l : Locals} {trace : List (Event PyError Locals Call.Res)}

theorem goto_pc {next : Pc} : (s.goto p next).pc p = next := Function.update_self ..

/-- **A step on the way to the lock is the program's next call.** -/
theorem acquire_step {result : Option (Except PyError Bool × Locals)}
    (taken : opStep s p op = some s') (acquires : op ≠ .unlink ∧ op ≠ .unlinkFails)
    (runs : Runs (afterOp op (s'.pc p) l) trace result) :
    Runs (code (s.pc p) l) (lockCall l s op :: trace) result := by
  unfold opStep at taken
  split at taken
  case h_3 t here =>
    rw [here]
    cases there : s.file with
    | none =>
        rw [there] at taken
        cases taken
        rw [goto_pc] at runs
        rw [lockCall, there]
        exact Runs.call _ runs
    | some mtime =>
        rw [there] at taken
        cases taken
        rw [goto_pc] at runs
        rw [lockCall, there]
        refine Runs.call _ ?_
        show Runs ((if decide (t - mtime < 120) then pure false else touchAndReturn : Program Bool) l)
          trace result
        by_cases young : t - mtime < 120
        · rw [if_pos young] at runs
          rw [if_pos (decide_eq_true young)]
          exact runs
        · rw [if_neg young] at runs
          rw [if_neg (by simpa using young)]
          exact runs
  all_goals cases taken
  case h_1 here =>
    rw [here]
    rw [goto_pc] at runs
    refine Runs.call _ ?_
    cases there : s.file.isSome with
    | true =>
        rw [there] at runs
        exact runs
    | false =>
        rw [there] at runs
        exact runs
  case h_2 here =>
    rw [here]
    rw [goto_pc] at runs
    exact Runs.call _ runs
  case h_4 here =>
    rw [here]
    rw [goto_pc] at runs
    exact Runs.call _ runs
  case h_5 here =>
    rw [here]
    rw [show ({ s.goto p (.holding s.now) with file := some s.now } : State P).pc p = .holding s.now
      from goto_pc] at runs
    exact Runs.call _ runs
  case h_6 here =>
    rw [here]
    exact Runs.call _ runs
  case h_7 here => exact absurd rfl acquires.1
  case h_8 here => exact absurd rfl acquires.2

/-- A step out of the lock is the call of `release_lock`. -/
theorem release_step {since : ℚ} (taken : opStep s p op = some s') (here : s.pc p = .holding since) :
    s'.pc p = .idle ∧ Runs (releaseLock l) [lockCall l s op] (some (.ok (), l)) := by
  unfold opStep at taken
  rw [here] at taken
  cases op with
  | unlink =>
      cases taken
      exact ⟨goto_pc, Runs.call _ (.done _)⟩
  | unlinkFails =>
      cases taken
      exact ⟨goto_pc, Runs.call _ (.done _)⟩
  | exists_ | clock | stat | statFails | touch | touchFails => cases taken

end Steps

end AtomicTrench.LiveLoop
