import Huatuo.Lib.Machine
import Huatuo.Lib.Keyed

/-! The tasks the HTTP API starts and stops (pkg/tracing/task.go, internal/services/task.go).

`taskLifeTmpCache` maps task IDs to pointers to task objects; a task's goroutine writes through
its pointer whether or not the cache still holds it. So the state is the cache, from IDs to
object numbers, and the objects themselves, numbered in the order they were made. Each request
handler, each statement group of a `runTask` goroutine and each pass of `tasksGarbageCollect`
is one event, and the events interleave in any order. Times are seconds, Go's zero time is 0,
`allocTaskID` is the ID an event carries, and what the command does is what its event says. -/
namespace Huatuo.Tracing

open Lib

inductive Status
  | completed | failed | pending | running | notExist
deriving DecidableEq, Repr

def Status.toString : Status → String
  | .completed => "completed"
  | .failed => "failed"
  | .pending => "pending"
  | .running => "running"
  | .notExist => "not_exist"

inductive TaskStorageType
  | taskStorageDB | taskStorageStdout | taskStorageLocal
deriving DecidableEq, Repr

def errTaskNotFound : String := "task not found"
def errTaskTimeout : String := "task timeout"
def errTaskCanceled : String := "task canceled"

/-- A `task`, its error as the text it prints. `canceled` records that its `cancelFunc` was
called and `exited` that its goroutine has run its deferred call. -/
structure Task where
  id : String
  execBinary : String
  execArgs : List String
  stdoutData : String
  status : Status
  error : Option String
  storage : TaskStorageType
  canceled : Bool
  deadlineTime : Nat
  exited : Bool
deriving DecidableEq, Repr

structure TaskState where
  cache : List (String × Nat)
  tasks : List Task
deriving DecidableEq, Repr

def TaskState.init : TaskState := ⟨[], []⟩

def TaskState.modifyTask (s : TaskState) (h : Nat) (f : Task → Task) : TaskState :=
  ⟨s.cache, s.tasks.modify h f⟩

def setDeadlineDefault (now : Nat) (task : Task) : Task :=
  { task with deadlineTime := now + 10 * 60 }

def Task.terminated (task : Task) : Bool :=
  task.status = .completed || task.status = .failed

/-! ## The package's functions -/

def runningTaskCount (s : TaskState) : Nat :=
  s.cache.countP fun p => (s.tasks[p.2]?).any fun task => task.status = .running

/-- `NewTask`: a pending task under a fresh object, stored under its ID. -/
def newTask (s : TaskState) (taskID execBinary : String) (storageType : TaskStorageType)
    (execArgs : List String) : TaskState :=
  let task : Task := ⟨taskID, execBinary, execArgs, "", .pending, none, storageType, false, 0, false⟩
  ⟨Keyed.set s.cache taskID s.tasks.length, s.tasks ++ [task]⟩

/-- `runTask` up to running the command. -/
def runTaskStart (h : Nat) (s : TaskState) : TaskState :=
  s.modifyTask h fun task => if task.status = .pending then { task with status := .running } else task

/-- What `runTask` records once `cmd.CombinedOutput` returns `err` and `output`; `timedOut` says
that the context's deadline passed before any cancel. -/
def Task.finish (err : Option String) (output : String) (timedOut : Bool) (task : Task) : Task :=
  match err with
  | some err =>
    let error :=
      if timedOut then errTaskTimeout
      else if task.canceled then errTaskCanceled
      else "task error: " ++ err ++ "| cmd error: " ++ output
    { task with status := .failed, error := some error }
  | none =>
    -- `TaskStorageDB` saves the output to the storage backend, outside this state
    let stdoutData := if task.storage = .taskStorageStdout then output else task.stdoutData
    { task with stdoutData := stdoutData, status := .completed }

def runTaskFinish (h : Nat) (err : Option String) (output : String) (timedOut : Bool)
    (s : TaskState) : TaskState :=
  s.modifyTask h fun task => if task.status = .running then task.finish err output timedOut else task

/-- `runTask`'s deferred `setDeadlineDefault`, once it has returned. -/
def runTaskExit (h : Nat) (now : Nat) (s : TaskState) : TaskState :=
  s.modifyTask h fun task =>
    if task.terminated && !task.exited then { setDeadlineDefault now task with exited := true }
    else task

structure TaskResult where
  taskStatus : Status
  taskData : String
  taskErr : Option String
deriving DecidableEq, Repr

def result (taskID : String) (now : Nat) (s : TaskState) : TaskResult × TaskState :=
  match s.cache.lookup taskID with
  | none => (⟨.notExist, "", some errTaskNotFound⟩, s)
  | some h =>
    match s.tasks[h]? with
    | none => (⟨.notExist, "", some errTaskNotFound⟩, s)
    | some task =>
      let s := if task.terminated then s.modifyTask h (setDeadlineDefault now) else s
      (⟨task.status, task.stdoutData, task.error⟩, s)

/-- `StopTask`: a running task is canceled, and any task leaves the cache. -/
def stopTask (taskID : String) (s : TaskState) : Except String Unit × TaskState :=
  match s.cache.lookup taskID with
  | none => (.error errTaskNotFound, s)
  | some h =>
    let s := s.modifyTask h fun task =>
      if task.status = .running then { task with canceled := true } else task
    (.ok (), ⟨Keyed.delete s.cache taskID, s.tasks⟩)

/-- One pass of `tasksGarbageCollect`'s loop. -/
def tasksGarbageCollect (now : Nat) (s : TaskState) : TaskState :=
  ⟨s.cache.filter (fun p => !(s.tasks[p.2]?).any fun task => task.terminated && now > task.deadlineTime),
    s.tasks⟩

/-! ## The handler and the machine -/

/-- `NewTaskReq` as `ShouldBindJSON` binds it. -/
structure NewTaskReq where
  tracerName : String
  timeout : Int
  dataType : String
  tracerArgs : List String
deriving DecidableEq, Repr

/-- The `NewTask` handler: the binding's error, the admission check against
`MaxRunningTask`, then `tracing.NewTask`. -/
def newTaskHandler (maxRunningTask : Int) (taskID : String) (req : Except String NewTaskReq)
    (s : TaskState) : Except String String × TaskState :=
  match req with
  | .error err => (.error err, s)
  | .ok req =>
    if (runningTaskCount s : Int) > maxRunningTask then (.error "too many running tasks", s)
    else
      let storageDefault := if req.dataType = "json" then TaskStorageType.taskStorageStdout
        else .taskStorageDB
      (.ok taskID, newTask s taskID req.tracerName storageDefault req.tracerArgs)

inductive TaskEvent
  | start (taskID : String) (req : Except String NewTaskReq)
  | run (h : Nat)
  | finish (h : Nat) (err : Option String) (output : String) (timedOut : Bool)
  | exit (h : Nat) (now : Nat)
  | result (taskID : String) (now : Nat)
  | stop (taskID : String)
  | gc (now : Nat)
deriving DecidableEq, Repr

def step (maxRunningTask : Int) (s : TaskState) : TaskEvent → TaskState
  | .start taskID req => (newTaskHandler maxRunningTask taskID req s).2
  | .run h => runTaskStart h s
  | .finish h err output timedOut => runTaskFinish h err output timedOut s
  | .exit h now => runTaskExit h now s
  | .result taskID now => (result taskID now s).2
  | .stop taskID => (stopTask taskID s).2
  | .gc now => tasksGarbageCollect now s

/-! ## How many tasks are under way -/

def Task.active (task : Task) : Bool :=
  task.status = .pending || task.status = .running

@[simp] theorem Task.active_iff (task : Task) :
    task.active = true ↔ task.status = .pending ∨ task.status = .running := by
  simp [Task.active]

/-- The tasks of the cache that are pending or running. -/
def activeTaskCount (s : TaskState) : Nat :=
  s.cache.countP fun p => (s.tasks[p.2]?).any Task.active

def pendingTaskCount (s : TaskState) : Nat :=
  s.cache.countP fun p => (s.tasks[p.2]?).any fun task => task.status = .pending

/-- The scheduling under which a start request is handled only once the goroutine of every task
in the cache has started. -/
def StartsSerialized (s : TaskState) : TaskEvent → Prop
  | .start _ _ => pendingTaskCount s = 0
  | _ => True

/-- The cache is a map to objects that exist. -/
structure TaskState.Valid (s : TaskState) : Prop where
  nodup : (s.cache.map Prod.fst).Nodup
  lt : ∀ p ∈ s.cache, p.2 < s.tasks.length

/-- A change that drops cache entries and writes through pointers without making any task
pending or running. -/
structure Shrinks (s s' : TaskState) : Prop where
  cache_sublist : s'.cache.Sublist s.cache
  length_eq : s'.tasks.length = s.tasks.length
  active_of : ∀ i : Nat, (s'.tasks[i]?).any Task.active → (s.tasks[i]?).any Task.active

theorem TaskState.Valid.init : TaskState.init.Valid :=
  ⟨List.nodup_nil, fun _ h => absurd h List.not_mem_nil⟩

theorem Shrinks.refl (s : TaskState) : Shrinks s s :=
  ⟨List.Sublist.refl _, rfl, fun _ h => h⟩

theorem Shrinks.trans {s₁ s₂ s₃ : TaskState} (h₁ : Shrinks s₁ s₂) (h₂ : Shrinks s₂ s₃) :
    Shrinks s₁ s₃ :=
  ⟨h₂.cache_sublist.trans h₁.cache_sublist, h₂.length_eq.trans h₁.length_eq,
    fun i h => h₁.active_of i (h₂.active_of i h)⟩

theorem shrinks_modifyTask {s : TaskState} {f : Task → Task} (hf : ∀ t, (f t).active → t.active)
    (h : Nat) : Shrinks s (s.modifyTask h f) := by
  refine ⟨List.Sublist.refl _, List.length_modify f s.tasks h, fun i hi => ?_⟩
  simp only [TaskState.modifyTask, List.getElem?_modify] at hi
  cases ht : s.tasks[i]? with
  | none => simp [ht] at hi
  | some t =>
    simp only [ht, Option.map_eq_map, Option.map_some, Option.any_some] at hi ⊢
    split_ifs at hi
    · exact hf t hi
    · exact hi

theorem shrinks_filter (s : TaskState) (keep : String × Nat → Bool) :
    Shrinks s ⟨s.cache.filter keep, s.tasks⟩ :=
  ⟨List.filter_sublist, rfl, fun _ h => h⟩

theorem TaskState.Valid.shrinks {s s' : TaskState} (hv : s.Valid) (h : Shrinks s s') : s'.Valid :=
  ⟨hv.nodup.sublist (h.cache_sublist.map Prod.fst),
    fun p hp => h.length_eq ▸ hv.lt p (h.cache_sublist.subset hp)⟩

theorem activeTaskCount_le_of_shrinks {s s' : TaskState} (h : Shrinks s s') :
    activeTaskCount s' ≤ activeTaskCount s := by
  unfold activeTaskCount
  calc s'.cache.countP (fun p => (s'.tasks[p.2]?).any Task.active)
      ≤ s'.cache.countP (fun p => (s.tasks[p.2]?).any Task.active) :=
        List.countP_mono_left fun p _ hp => h.active_of p.2 hp
    _ ≤ s.cache.countP (fun p => (s.tasks[p.2]?).any Task.active) := h.cache_sublist.countP_le

theorem valid_newTask {s : TaskState} (hv : s.Valid) (taskID execBinary : String)
    (storageType : TaskStorageType) (execArgs : List String) :
    (newTask s taskID execBinary storageType execArgs).Valid := by
  refine ⟨Keyed.nodup_set hv.nodup, fun p hp => ?_⟩
  have hlen : (newTask s taskID execBinary storageType execArgs).tasks.length = s.tasks.length + 1 := by
    simp [newTask]
  rw [hlen]
  rcases Keyed.mem_set.1 hp with rfl | ⟨hp, -⟩
  · exact Nat.lt_succ_self _
  · exact Nat.lt_succ_of_lt (hv.lt p hp)

theorem activeTaskCount_newTask_le {s : TaskState} (hv : s.Valid) (taskID execBinary : String)
    (storageType : TaskStorageType) (execArgs : List String) :
    activeTaskCount (newTask s taskID execBinary storageType execArgs) ≤ activeTaskCount s + 1 := by
  unfold activeTaskCount newTask
  generalize (⟨taskID, execBinary, execArgs, "", .pending, none, storageType, false, 0, false⟩ : Task) = t
  have hold : ∀ p ∈ s.cache, ((s.tasks ++ [t])[p.2]?).any Task.active = (s.tasks[p.2]?).any Task.active :=
    fun p hp => by rw [List.getElem?_append_left (hv.lt p hp)]
  calc (Keyed.set s.cache taskID s.tasks.length).countP
        (fun p => ((s.tasks ++ [t])[p.2]?).any Task.active)
      ≤ s.cache.countP (fun p => ((s.tasks ++ [t])[p.2]?).any Task.active) + 1 :=
        Keyed.countP_set_le hv.nodup _
    _ = s.cache.countP (fun p => (s.tasks[p.2]?).any Task.active) + 1 := by
        rw [List.countP_congr fun p hp => by rw [hold p hp]]

theorem activeTaskCount_eq_running {s : TaskState} (hp : pendingTaskCount s = 0) :
    activeTaskCount s = runningTaskCount s := by
  unfold activeTaskCount runningTaskCount
  refine List.countP_congr fun p hmem => ?_
  have hnp := List.countP_eq_zero.1 hp p hmem
  cases ht : s.tasks[p.2]? with
  | none => simp
  | some t =>
    simp only [ht, Option.any_some, decide_eq_true_eq] at hnp ⊢
    simp [hnp]

/-- What one event can do: drop entries and write through pointers without starting any task,
or, admitted by the handler's check, start one. -/
theorem step_cases (maxRunningTask : Int) (s : TaskState) (e : TaskEvent) :
    Shrinks s (step maxRunningTask s e) ∨
      ∃ taskID req, e = .start taskID (.ok req) ∧ (runningTaskCount s : Int) ≤ maxRunningTask ∧
        step maxRunningTask s e = newTask s taskID req.tracerName
          (if req.dataType = "json" then .taskStorageStdout else .taskStorageDB) req.tracerArgs := by
  cases e with
  | start taskID req =>
    cases req with
    | error err => exact .inl (Shrinks.refl s)
    | ok req =>
      by_cases hadmit : (runningTaskCount s : Int) > maxRunningTask
      · left
        simp only [step, newTaskHandler, if_pos hadmit]
        exact Shrinks.refl s
      · right
        exact ⟨taskID, req, rfl, Int.not_lt.1 hadmit, by simp [step, newTaskHandler, hadmit]⟩
  | run h =>
    refine .inl (shrinks_modifyTask (fun t ht => ?_) h)
    split_ifs at ht with hp <;> simp_all
  | finish h err output timedOut =>
    refine .inl (shrinks_modifyTask (fun t ht => ?_) h)
    split_ifs at ht with hr
    · cases err <;> simp [Task.finish, Task.active] at ht
    · exact ht
  | exit h now =>
    refine .inl (shrinks_modifyTask (fun t ht => ?_) h)
    split_ifs at ht
    · simpa [setDeadlineDefault] using ht
    · exact ht
  | result taskID now =>
    left
    simp only [step, result]
    split
    · exact Shrinks.refl s
    · split
      · exact Shrinks.refl s
      · split
        · exact shrinks_modifyTask (fun t ht => by simpa [setDeadlineDefault] using ht) _
        · exact Shrinks.refl s
  | stop taskID =>
    left
    simp only [step, stopTask]
    split
    · exact Shrinks.refl s
    · rename_i h _
      refine (shrinks_modifyTask (fun t ht => ?_) h).trans (shrinks_filter _ _)
      split_ifs at ht
      · simpa using ht
      · exact ht
  | gc now => exact .inl (shrinks_filter s _)

/-- What serialized starts keep: at most one task past `MaxRunningTask` under way. -/
structure TaskInv (maxRunningTask : Int) (s : TaskState) : Prop where
  valid : s.Valid
  bound : activeTaskCount s ≤ (maxRunningTask + 1).toNat

theorem TaskInv.init (maxRunningTask : Int) : TaskInv maxRunningTask TaskState.init :=
  ⟨TaskState.Valid.init, Nat.zero_le _⟩

theorem TaskInv.step {maxRunningTask : Int} {s : TaskState} {e : TaskEvent}
    (hinv : TaskInv maxRunningTask s) (hok : StartsSerialized s e) :
    TaskInv maxRunningTask (step maxRunningTask s e) := by
  rcases step_cases maxRunningTask s e with hshrink | ⟨taskID, req, rfl, hadmit, hstep⟩
  · exact ⟨hinv.valid.shrinks hshrink, Nat.le_trans (activeTaskCount_le_of_shrinks hshrink) hinv.bound⟩
  · rw [hstep]
    refine ⟨valid_newTask hinv.valid _ _ _ _, ?_⟩
    have hrun : activeTaskCount s = runningTaskCount s := activeTaskCount_eq_running hok
    have hle := activeTaskCount_newTask_le hinv.valid taskID req.tracerName
      (if req.dataType = "json" then .taskStorageStdout else .taskStorageDB) req.tracerArgs
    omega

theorem activeTaskCount_le_of_serialized (maxRunningTask : Int) {s : TaskState}
    (h : Machine.Reachable (step maxRunningTask) StartsSerialized TaskState.init s) :
    activeTaskCount s ≤ (maxRunningTask + 1).toNat :=
  (Machine.Reachable.invariant (fun _ _ => TaskInv.step) (TaskInv.init maxRunningTask) h).bound

theorem activeTaskCount_le_of_serialized_two :
    Machine.Reachable (step 1) StartsSerialized TaskState.init
        (Machine.run (step 1) TaskState.init
          [.start "a" (.ok ⟨"cpuidle", 10, "json", []⟩), .run 0,
            .start "b" (.ok ⟨"cpuidle", 10, "json", []⟩)]) ∧
      activeTaskCount (Machine.run (step 1) TaskState.init
          [.start "a" (.ok ⟨"cpuidle", 10, "json", []⟩), .run 0,
            .start "b" (.ok ⟨"cpuidle", 10, "json", []⟩)]) ≤ (1 + 1 : Int).toNat := by
  have hreach : Machine.Reachable (step 1) StartsSerialized TaskState.init
      (Machine.run (step 1) TaskState.init
        [.start "a" (.ok ⟨"cpuidle", 10, "json", []⟩), .run 0,
          .start "b" (.ok ⟨"cpuidle", 10, "json", []⟩)]) := by
    refine ⟨_, ?_, rfl⟩
    simp only [Machine.allowed_cons, Machine.allowed_nil, StartsSerialized, and_true, true_and]
    constructor <;> decide +kernel
  exact ⟨hreach, activeTaskCount_le_of_serialized 1 hreach⟩

/-- Starts handled before any goroutine has run are all admitted: three tasks are pending
under `MaxRunningTask` = 1. -/
theorem activeTaskCount_back_to_back :
    ∃ s, Machine.Reachable (step 1) (fun _ _ => True) TaskState.init s ∧ activeTaskCount s = 3 :=
  ⟨_, ⟨[.start "a" (.ok ⟨"cpuidle", 10, "json", []⟩), .start "b" (.ok ⟨"cpuidle", 10, "json", []⟩),
      .start "c" (.ok ⟨"cpuidle", 10, "json", []⟩)], Machine.allowed_true _ _, rfl⟩, by decide +kernel⟩

/-! ## The bound is reached -/

/-- `k` tasks started one after the other, each goroutine run before the next start: all are
running, under IDs shorter than `k`. -/
structure Served (k : Nat) (s : TaskState) : Prop where
  valid : s.Valid
  length_cache : s.cache.length = k
  length_tasks : s.tasks.length = k
  running : ∀ p ∈ s.cache, (s.tasks[p.2]?).any fun task => task.status = .running
  short : ∀ p ∈ s.cache, p.1.length < k

theorem Served.init : Served 0 TaskState.init :=
  ⟨TaskState.Valid.init, rfl, rfl, fun _ h => absurd h List.not_mem_nil,
    fun _ h => absurd h List.not_mem_nil⟩

section Served

variable {k : Nat} {s : TaskState}

theorem Served.runningTaskCount_eq (hs : Served k s) : runningTaskCount s = k := by
  rw [runningTaskCount, List.countP_eq_length.2 hs.running, hs.length_cache]

theorem Served.pendingTaskCount_eq (hs : Served k s) : pendingTaskCount s = 0 := by
  refine List.countP_eq_zero.2 fun p hp hpend => ?_
  have hrun := hs.running p hp
  cases ht : s.tasks[p.2]? with
  | none => simp [ht] at hrun
  | some t => simp_all

theorem Served.activeTaskCount_eq (hs : Served k s) : activeTaskCount s = k := by
  rw [activeTaskCount_eq_running hs.pendingTaskCount_eq, hs.runningTaskCount_eq]

theorem Served.fresh (hs : Served k s) : String.ofList (List.replicate k 'a') ∉ s.cache.map Prod.fst := by
  intro hmem
  obtain ⟨p, hp, hid⟩ := List.mem_map.1 hmem
  have hshort := hs.short p hp
  rw [hid] at hshort
  simp at hshort

theorem Served.startRun {n : Nat} (hs : Served k s) (hk : k ≤ n) (req : NewTaskReq) :
    let taskID := String.ofList (List.replicate k 'a')
    StartsSerialized s (.start taskID (.ok req)) ∧
      Served (k + 1) (step n (step n s (.start taskID (.ok req))) (.run k)) := by
  intro taskID
  refine ⟨hs.pendingTaskCount_eq, ?_⟩
  have hfresh : taskID ∉ s.cache.map Prod.fst := hs.fresh
  set t : Task := ⟨taskID, req.tracerName, req.tracerArgs, "", .pending, none,
    if req.dataType = "json" then .taskStorageStdout else .taskStorageDB, false, 0, false⟩
  have hnew : newTask s taskID req.tracerName t.storage req.tracerArgs =
      ⟨s.cache ++ [(taskID, k)], s.tasks ++ [t]⟩ := by
    rw [newTask, Keyed.set_of_not_mem hfresh, hs.length_tasks]
  have hstart : step n s (.start taskID (.ok req)) = ⟨s.cache ++ [(taskID, k)], s.tasks ++ [t]⟩ := by
    have hadmit : ¬(runningTaskCount s : Int) > n := by rw [hs.runningTaskCount_eq]; omega
    simp only [step, newTaskHandler, if_neg hadmit]
    exact hnew
  have hold : ∀ p ∈ s.cache, p.2 < k := fun p hp => hs.length_tasks ▸ hs.valid.lt p hp
  have hvalid := valid_newTask hs.valid taskID req.tracerName t.storage req.tracerArgs
  rw [hnew] at hvalid
  rw [hstart]
  refine ⟨?_, by simp [step, runTaskStart, TaskState.modifyTask, hs.length_cache],
    by simp [step, runTaskStart, TaskState.modifyTask, hs.length_tasks], fun p hp => ?_,
    fun p hp => ?_⟩
  · exact hvalid.shrinks (shrinks_modifyTask (fun t ht => by split_ifs at ht <;> simp_all) k)
  · simp only [step, runTaskStart, TaskState.modifyTask, List.mem_append, List.mem_singleton] at hp ⊢
    rcases hp with hp | rfl
    · have hlt := hold p hp
      rw [List.getElem?_modify, List.getElem?_append_left (hs.length_tasks ▸ hlt)]
      simpa [Nat.ne_of_gt hlt] using hs.running p hp
    · rw [List.getElem?_modify, List.getElem?_append_right (by rw [hs.length_tasks]),
        hs.length_tasks, Nat.sub_self]
      simp [t]
  · simp only [step, runTaskStart, TaskState.modifyTask, List.mem_append, List.mem_singleton] at hp
    rcases hp with hp | rfl
    · exact Nat.lt_succ_of_lt (hs.short p hp)
    · simp [taskID]

end Served

theorem served_reachable (n : Nat) (req : NewTaskReq) :
    ∀ k ≤ n + 1, ∃ s, Machine.Reachable (step n) StartsSerialized TaskState.init s ∧ Served k s
  | 0, _ => ⟨_, Machine.Reachable.refl _, Served.init⟩
  | k + 1, hk => by
    obtain ⟨s, hr, hs⟩ := served_reachable n req k (by omega)
    obtain ⟨hok, hs'⟩ := hs.startRun (show k ≤ n by omega) req
    exact ⟨_, (hr.tail hok).tail (show StartsSerialized _ (.run k) from trivial), hs'⟩

/-- Under `MaxRunningTask` = `n`, serialized starts reach `n + 1` tasks under way: each start
finds at most `n` tasks running, the check `>` admits it, and its goroutine runs before the
next. -/
theorem activeTaskCount_reaches_bound (n : Nat) :
    ∃ s, Machine.Reachable (step n) StartsSerialized TaskState.init s ∧ activeTaskCount s = n + 1 := by
  obtain ⟨s, hr, hs⟩ := served_reachable n ⟨"cpuidle", 10, "json", []⟩ (n + 1) le_rfl
  exact ⟨s, hr, hs.activeTaskCount_eq⟩

end Huatuo.Tracing
