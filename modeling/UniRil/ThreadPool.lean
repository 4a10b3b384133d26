import Mathlib.Data.List.Count
import UniRil.Lib.Runs

/-!
# The thread pool of thread_pool.cpp

`pool_mutex` is held from one step of a worker or a caller to its end, so a step is a critical
section. Between two of its steps a worker has the mutex no more.
-/

namespace UniRil.ThreadPool

open Runs

inductive PoolState
  | POOL_VALID
  | POOL_EXIT
  deriving DecidableEq

variable {Task : Type}

/-- Where a worker is. -/
inductive Pc (Task : Type)
  /-- Before the mutex at the head of its loop. -/
  | top
  /-- In `pthread_cond_timedwait`. -/
  | waiting
  /-- In the handler of a task. -/
  | running (task : Task)
  /-- Out of its loop, before the mutex and `thr_alive--`. -/
  | leaving
  deriving DecidableEq

structure Worker (Task : Type) where
  pc : Pc Task
  must_exit : Bool

structure Pool (Task : Type) where
  state : PoolState
  thr_max : Nat
  thr_queue : Nat
  thr_alive : Nat
  queue : List Task
  workers : List (Worker Task)

def thread_pool_init (max_threads : Nat) : Pool Task :=
  { state := .POOL_VALID, thr_max := max_threads, thr_queue := 0, thr_alive := 0, queue := [], workers := [] }

/-- `thread_pool_dispatch`, with `pthread_create` succeeding. The flag is what it returns. -/
def thread_pool_dispatch (p : Pool Task) (task : Task) : Bool × Pool Task :=
  if p.state = .POOL_VALID then
    let p := { p with queue := p.queue ++ [task] }
    if p.thr_queue = 0 ∧ p.thr_alive < p.thr_max then
      (true, { p with thr_alive := p.thr_alive + 1, workers := p.workers ++ [⟨.top, false⟩] })
    else (true, p)
  else (false, p)

/-- The worker of index `i` has left the wait loop: it takes the head of the queue. -/
def Pool.take (p : Pool Task) (i : Nat) (must_exit : Bool) : Pool Task :=
  let p := { p with thr_queue := p.thr_queue - 1 }
  let must_exit := must_exit || p.state = .POOL_EXIT
  match p.queue with
  | task :: queue => { p with queue := queue, workers := p.workers.set i ⟨.running task, must_exit⟩ }
  | [] => { p with workers := p.workers.set i ⟨if must_exit then .leaving else .top, must_exit⟩ }

/-- The test of the wait loop. -/
def Pool.test (p : Pool Task) (i : Nat) (must_exit : Bool) : Pool Task :=
  if p.queue.isEmpty ∧ p.state ≠ .POOL_EXIT then { p with workers := p.workers.set i ⟨.waiting, must_exit⟩ }
  else p.take i must_exit

/-- The next step of a worker of `thread_pool_worker`; `timedOut` is what a wait came to. -/
def thread_pool_worker (p : Pool Task) (i : Nat) (timedOut : Bool) : Option (Pool Task) :=
  match p.workers[i]? with
  | none => none
  | some w =>
    match w.pc with
    | .top => some ({ p with thr_queue := p.thr_queue + 1 }.test i w.must_exit)
    | .waiting => some (if timedOut then p.take i true else p.test i w.must_exit)
    | .running _ => some { p with workers := p.workers.set i ⟨.top, w.must_exit⟩ }
    | .leaving => some { p with thr_alive := p.thr_alive - 1, workers := p.workers.eraseIdx i }

inductive Act (Task : Type)
  | dispatch (task : Task)
  | worker (i : Nat) (timedOut : Bool)
  /-- `thread_pool_destroy` sets the state and waits for the workers. -/
  | destroy

def step (p : Pool Task) : Act Task → Option (Pool Task)
  | .dispatch task => some (thread_pool_dispatch p task).2
  | .worker i timedOut => thread_pool_worker p i timedOut
  | .destroy => some { p with state := .POOL_EXIT }

/-! ## Counters -/

def Worker.isWaiting (w : Worker Task) : Bool :=
  match w.pc with
  | .waiting => true
  | _ => false

def Worker.isLeaving (w : Worker Task) : Bool :=
  match w.pc with
  | .leaving => true
  | _ => false

/-- The counters count the workers in the wait and the workers not yet gone. -/
structure Counted (p : Pool Task) : Prop where
  thr_queue : p.thr_queue = p.workers.countP Worker.isWaiting
  thr_alive : p.thr_alive = p.workers.length

theorem counted_init (max_threads : Nat) : Counted (thread_pool_init max_threads : Pool Task) := ⟨rfl, rfl⟩

/-- There is a task and no worker will look for one any more. -/
def Pool.Stranded (p : Pool Task) : Prop :=
  p.state = .POOL_VALID ∧ p.queue ≠ [] ∧ ∀ w ∈ p.workers, w.isLeaving = true

/-- A task is handed in while the pool is full of workers that are all leaving. -/
def LateDispatch (p : Pool Task) : Act Task → Prop
  | .dispatch _ => p.state = .POOL_VALID ∧ p.thr_max ≤ p.thr_alive ∧ ∀ w ∈ p.workers, w.isLeaving = true
  | _ => False

section Worker

variable {p : Pool Task} {pre post : List (Worker Task)} {w : Worker Task}

theorem take_spec (hw : p.workers = pre ++ w :: post)
    (hq : p.thr_queue = (pre ++ post).countP Worker.isWaiting + 1) (ha : p.thr_alive = p.workers.length)
    (must_exit : Bool) :
    Counted (p.take pre.length must_exit) ∧ (p.take pre.length must_exit).state = p.state ∧
      ((p.take pre.length must_exit).queue = [] ∨
        ∃ w ∈ (p.take pre.length must_exit).workers, w.isLeaving = false) := by
  rw [List.countP_append] at hq
  rw [hw, List.length_append, List.length_cons] at ha
  rw [Pool.take]
  rcases hqueue : p.queue with _ | ⟨task, queue⟩
  · refine ⟨⟨?_, ?_⟩, rfl, Or.inl rfl⟩
    · rcases hme : (must_exit || decide (p.state = .POOL_EXIT)) with _ | _ <;>
        simp [hw, hq, Worker.isWaiting]
    · simp [hw, ha]
  · refine ⟨⟨?_, ?_⟩, rfl, Or.inr ⟨⟨.running task, must_exit || decide (p.state = .POOL_EXIT)⟩, ?_, rfl⟩⟩
    · simp [hw, hq, Worker.isWaiting]
    · simp [hw, ha]
    · simp [hw]

theorem test_spec (hw : p.workers = pre ++ w :: post)
    (hq : p.thr_queue = (pre ++ post).countP Worker.isWaiting + 1) (ha : p.thr_alive = p.workers.length)
    (must_exit : Bool) :
    Counted (p.test pre.length must_exit) ∧ (p.test pre.length must_exit).state = p.state ∧
      ((p.test pre.length must_exit).queue = [] ∨
        ∃ w ∈ (p.test pre.length must_exit).workers, w.isLeaving = false) := by
  rw [Pool.test]
  split
  · rename_i hempty
    rw [List.countP_append] at hq
    rw [hw, List.length_append, List.length_cons] at ha
    refine ⟨⟨?_, ?_⟩, rfl, Or.inl (List.isEmpty_iff.1 hempty.1)⟩
    · simp only [hw, hq, List.set_append_right _ _ (Nat.le_refl _), Nat.sub_self, List.set_cons_zero,
        List.countP_append, List.countP_cons, Worker.isWaiting, if_true]
      omega
    · simp [hw, ha]
  · exact take_spec hw hq ha must_exit

/-- After a worker's step the queue is empty, or some worker is not leaving, or the queue is as before
and so are the workers that are not leaving. -/
theorem worker_spec {p' : Pool Task} {i : Nat} {timedOut : Bool} (hc : Counted p)
    (h : thread_pool_worker p i timedOut = some p') :
    Counted p' ∧ p'.state = p.state ∧
      (p'.queue = [] ∨ (∃ w ∈ p'.workers, w.isLeaving = false) ∨
        p'.queue = p.queue ∧ ∀ w ∈ p.workers, w.isLeaving = false → w ∈ p'.workers) := by
  obtain ⟨hq, ha⟩ := hc
  rw [thread_pool_worker] at h
  split at h
  · simp at h
  · rename_i w hi
    obtain ⟨hlt, hget⟩ := List.getElem?_eq_some_iff.1 hi
    have hw : p.workers = p.workers.take i ++ w :: p.workers.drop (i + 1) := by
      rw [← hget, List.getElem_cons_drop, List.take_append_drop]
    have hlen : (p.workers.take i).length = i := List.length_take_of_le (Nat.le_of_lt hlt)
    generalize p.workers.take i = pre at hw hlen
    generalize p.workers.drop (i + 1) = post at hw
    subst hlen
    have hcount : p.thr_queue = (pre ++ post).countP Worker.isWaiting + w.isWaiting.toNat := by
      rw [hq, hw, List.countP_append, List.countP_append, List.countP_cons]
      cases w.isWaiting <;> simp <;> omega
    split at h
    · rename_i hpc
      obtain rfl := Option.some.inj h
      have hnot : w.isWaiting.toNat = 0 := by simp [Worker.isWaiting, hpc]
      obtain ⟨hc', hs', hor⟩ := test_spec (p := { p with thr_queue := p.thr_queue + 1 }) hw
        (by simp only; omega) ha w.must_exit
      exact ⟨hc', hs', hor.imp_right Or.inl⟩
    · rename_i hpc
      obtain rfl := Option.some.inj h
      have hone : w.isWaiting.toNat = 1 := by simp [Worker.isWaiting, hpc]
      split
      · obtain ⟨hc', hs', hor⟩ := take_spec hw (by omega) ha true
        exact ⟨hc', hs', hor.imp_right Or.inl⟩
      · obtain ⟨hc', hs', hor⟩ := test_spec hw (by omega) ha w.must_exit
        exact ⟨hc', hs', hor.imp_right Or.inl⟩
    · rename_i hpc
      obtain rfl := Option.some.inj h
      have hnot : w.isWaiting.toNat = 0 := by simp [Worker.isWaiting, hpc]
      refine ⟨⟨?_, ?_⟩, rfl, Or.inr (Or.inl ⟨⟨.top, w.must_exit⟩, by simp [hw], rfl⟩)⟩
      · simp only [hcount, hnot]
        simp [hw, Worker.isWaiting]
      · simp [ha, hw]
    · rename_i hpc
      obtain rfl := Option.some.inj h
      have hnot : w.isWaiting.toNat = 0 := by simp [Worker.isWaiting, hpc]
      have herase : p.workers.eraseIdx pre.length = pre ++ post := by
        simp [hw, List.eraseIdx_append_of_length_le]
      refine ⟨⟨?_, ?_⟩, rfl, Or.inr (Or.inr ⟨rfl, fun w' hw' hleaving => ?_⟩)⟩
      · simp only [herase, hcount, hnot, Nat.add_zero]
      · simp only [herase, ha]
        rw [hw]
        simp only [List.length_append, List.length_cons]
        omega
      · rw [hw] at hw'
        simp only [herase]
        simp only [List.mem_append, List.mem_cons] at hw' ⊢
        rcases hw' with hmem | rfl | hmem
        · exact Or.inl hmem
        · simp [Worker.isLeaving, hpc] at hleaving
        · exact Or.inr hmem

end Worker

theorem dispatch_spec {p : Pool Task} (hc : Counted p) (task : Task) :
    Counted (thread_pool_dispatch p task).2 ∧
      (p.state = .POOL_VALID → (thread_pool_dispatch p task).2.queue ≠ [] ∧
        (thread_pool_dispatch p task).2.state = .POOL_VALID ∧
        ((∀ w ∈ (thread_pool_dispatch p task).2.workers, w.isLeaving = true) ↔
          p.thr_max ≤ p.thr_alive ∧ ∀ w ∈ p.workers, w.isLeaving = true)) := by
  obtain ⟨hq, ha⟩ := hc
  by_cases hvalid : p.state = .POOL_VALID
  · by_cases hnew : p.thr_queue = 0 ∧ p.thr_alive < p.thr_max
    · simp only [thread_pool_dispatch, if_pos hvalid, if_pos hnew]
      refine ⟨⟨?_, ?_⟩, fun _ => ⟨by simp, hvalid, iff_of_false (fun hall => ?_) fun hfull => ?_⟩⟩
      · simpa [Worker.isWaiting] using hq
      · simp [ha]
      · have htop := hall ⟨.top, false⟩ (by simp)
        simp [Worker.isLeaving] at htop
      · omega
    · simp only [thread_pool_dispatch, if_pos hvalid, if_neg hnew]
      refine ⟨⟨hq, ha⟩, fun _ => ⟨by simp, hvalid, fun hall => ⟨?_, hall⟩, And.right⟩⟩
      -- Nobody waits when all are leaving, so only the limit kept a new thread away.
      have hzero : p.thr_queue = 0 := by
        rw [hq, List.countP_eq_zero]
        intro w hw
        have hleaving := hall w hw
        cases hpc : w.pc <;> simp_all [Worker.isLeaving, Worker.isWaiting]
      omega
  · simp only [thread_pool_dispatch, if_neg hvalid]
    exact ⟨⟨hq, ha⟩, fun h => absurd h hvalid⟩

theorem counted_step (p : Pool Task) (a : Act Task) (p' : Pool Task) (hc : Counted p) (h : step p a = some p') :
    Counted p' := by
  cases a with
  | dispatch task =>
    obtain rfl := Option.some.inj h
    exact (dispatch_spec hc task).1
  | worker i timedOut => exact (worker_spec hc h).1
  | destroy =>
    obtain rfl := Option.some.inj h
    exact ⟨hc.thr_queue, hc.thr_alive⟩

theorem not_stranded_step (p : Pool Task) (a : Act Task) (p' : Pool Task) (hc : Counted p) (hp : ¬ p.Stranded)
    (ha : ¬ LateDispatch p a) (h : step p a = some p') : ¬ p'.Stranded := by
  rintro ⟨hvalid, hqueue, hall⟩
  cases a with
  | dispatch task =>
    obtain rfl := Option.some.inj h
    have hv : p.state = .POOL_VALID := by
      by_contra hv
      rw [thread_pool_dispatch, if_neg hv] at hvalid
      exact hv hvalid
    have hlate := ((dispatch_spec hc task).2 hv).2.2.1 hall
    exact ha ⟨hv, hlate⟩
  | worker i timedOut =>
    obtain ⟨-, hstate, hempty | ⟨w, hw, hnot⟩ | ⟨hsame, hkept⟩⟩ := worker_spec hc h
    · exact hqueue hempty
    · simp [hall w hw] at hnot
    · refine hp ⟨hstate ▸ hvalid, hsame ▸ hqueue, fun w hw => ?_⟩
      rcases hleaving : w.isLeaving with _ | _
      · rw [← hleaving]
        exact hall w (hkept w hw hleaving)
      · rfl
  | destroy =>
    obtain rfl := Option.some.inj h
    simp at hvalid

theorem stranded_of_lateDispatch (p : Pool Task) (a : Act Task) (hc : Counted p) (ha : ¬ ¬ LateDispatch p a) :
    ∃ p', step p a = some p' ∧ ¬ ¬ p'.Stranded := by
  rw [not_not] at ha
  cases a with
  | dispatch task =>
    obtain ⟨hvalid, hfull⟩ := ha
    obtain ⟨hqueue, hstate, hall⟩ := (dispatch_spec hc task).2 hvalid
    exact ⟨_, rfl, fun hnot => hnot ⟨hstate, hqueue, hall.2 hfull⟩⟩
  | worker i timedOut => exact ha.elim
  | destroy => exact ha.elim

/-- **No task is stranded in a run exactly when no task of it is handed in while the pool is full of
workers that are all leaving.** -/
theorem never_stranded_iff (max_threads : Nat) (as : List (Act Task)) :
    Always step (fun p => ¬ p.Stranded) (thread_pool_init max_threads) as ↔
      Steps step (fun p a => ¬ LateDispatch p a) (thread_pool_init max_threads) as :=
  always_iff_steps counted_step not_stranded_step stranded_of_lateDispatch (counted_init max_threads)
    (fun h => h.2.1 rfl) as

/-- The only worker times out and leaves; the task that comes before its `thr_alive--` stays. -/
theorem stranded_task :
    ∃ p, run step (thread_pool_init 1)
        [.dispatch 1, .worker 0 false, .worker 0 false, .worker 0 false, .worker 0 true, .dispatch 2, .worker 0 false] =
          some p ∧ p.state = .POOL_VALID ∧ p.queue = [2] ∧ p.workers = [] ∧
      ¬ Always step (fun p => ¬ p.Stranded) (thread_pool_init 1)
        [.dispatch 1, .worker 0 false, .worker 0 false, .worker 0 false, .worker 0 true, .dispatch 2, .worker 0 false] :=
  ⟨_, rfl, rfl, rfl, rfl, fun h => h.last rfl ⟨rfl, by decide, by decide⟩⟩

end UniRil.ThreadPool
