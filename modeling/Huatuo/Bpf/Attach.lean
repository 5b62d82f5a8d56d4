import Huatuo.Lib.Keyed
import Huatuo.Lib.Strings
import Huatuo.Lib.Machine

/-! Attaching the programs of a loaded BPF object (internal/bpf/bpf_default.go,
perf_event_pmu.go). The kernel objects the process holds, links and perf-event fds, are
numbered handles, and a handle is live until it is closed. What the cilium/ebpf link
constructors and `PerfEventOpen` with its ioctls do is an oracle: for each target, a fresh live
handle or an error, with nothing else changed. `runtime.NumCPU()` is `numCPU`, and Go's loop
over `programSpecs` visits the entries in the order `iterProg` gives. -/
namespace Huatuo.Bpf

open Lib

inductive ProgramType
  | tracePoint | kprobe | rawTracepoint | perfEvent | unspecified | other (name : String)
deriving DecidableEq, Repr

def ProgramType.toString : ProgramType → String
  | .tracePoint => "TracePoint"
  | .kprobe => "Kprobe"
  | .rawTracepoint => "RawTracepoint"
  | .perfEvent => "PerfEvent"
  | .unspecified => "UnspecifiedProgram"
  | .other name => name

/-- What a link constructor, or `attach` on one CPU, is asked for. -/
inductive Target
  | kprobe (symbol : String) (offset : UInt64) (progID : UInt32)
  | kretprobe (symbol : String) (progID : UInt32)
  | tracepoint (group name : String) (progID : UInt32)
  | rawTracepoint (name : String) (progID : UInt32)
  | perfEvent (cpu : Nat) (progID : UInt32)
deriving DecidableEq, Repr

structure ProgramSpec where
  name : String
  specType : ProgramType
  sectionName : String
  sectionPrefix : String
  /-- `%v` of the program object, as the error texts print it. -/
  bProg : String
  links : List (String × Nat)
deriving DecidableEq, Repr

/-- `programSpec{}`, what a lookup of a missing ID gives. -/
def ProgramSpec.zero : ProgramSpec := ⟨"", .unspecified, "", "", "<nil>", []⟩

/-- The loaded object. Its program IDs are the keys of a Go map, each there once. -/
structure DefaultBPF where
  name : String
  mapCount : Nat
  programSpecs : List (UInt32 × ProgramSpec)
  programName2IDs : List (String × UInt32)
  innerPerfEvent : Option (List Nat)
  ids_nodup : (programSpecs.map Prod.fst).Nodup
deriving DecidableEq

/-- The handles of the live kernel objects, and the next handle to give out, above all of them. -/
structure Kernel where
  live : List Nat
  next : Nat
  fresh : ∀ x ∈ live, x < next
deriving DecidableEq

structure State where
  bpf : DefaultBPF
  kernel : Kernel
deriving DecidableEq

structure AttachOption where
  programName : String
  symbol : String
  samplePeriod : UInt64
  sampleFreq : UInt64
deriving DecidableEq, Repr

def AttachOption.format (opt : AttachOption) : String :=
  "\x7b" ++ opt.programName ++ " " ++ opt.symbol ++ " \x7b" ++ toString opt.samplePeriod.toNat ++
    " " ++ toString opt.sampleFreq.toNat ++ "\x7d\x7d"

def DefaultBPF.format (b : DefaultBPF) : String :=
  b.name ++ "#" ++ toString b.mapCount ++ "#" ++ toString b.programSpecs.length

def DefaultBPF.spec (b : DefaultBPF) (progID : UInt32) : ProgramSpec :=
  (b.programSpecs.lookup progID).getD .zero

/-- `spec.links[linkKey] = l` on the entry of `progID`, whose links map the entry shares. -/
def setLinks (progID : UInt32) (linkKey : String) (l : Nat) (p : UInt32 × ProgramSpec) :
    UInt32 × ProgramSpec :=
  (p.1, if p.1 = progID then { p.2 with links := Keyed.set p.2.links linkKey l } else p.2)

theorem map_fst_setLinks (progID : UInt32) (linkKey : String) (l : Nat)
    (m : List (UInt32 × ProgramSpec)) :
    (m.map (setLinks progID linkKey l)).map Prod.fst = m.map Prod.fst := by
  rw [List.map_map]
  rfl

def DefaultBPF.setLink (b : DefaultBPF) (progID : UInt32) (linkKey : String) (l : Nat) :
    DefaultBPF :=
  { b with
    programSpecs := b.programSpecs.map (setLinks progID linkKey l)
    ids_nodup := (map_fst_setLinks progID linkKey l b.programSpecs).symm ▸ b.ids_nodup }

/-- Every handle the object records: the links of every program, then the perf event's fds. -/
def DefaultBPF.handles (b : DefaultBPF) : List Nat :=
  b.programSpecs.flatMap (fun p => p.2.links.map Prod.snd) ++ b.innerPerfEvent.getD []

theorem Kernel.fresh_alloc (k : Kernel) : ∀ x ∈ k.live ++ [k.next], x < k.next + 1 := by
  intro x hx
  rcases List.mem_append.1 hx with hx | hx
  · exact Nat.lt_succ_of_lt (k.fresh x hx)
  · rw [List.mem_singleton.1 hx]
    exact Nat.lt_succ_self _

/-- A new live handle, the next one. -/
def Kernel.alloc (k : Kernel) : Kernel :=
  ⟨k.live ++ [k.next], k.next + 1, k.fresh_alloc⟩

def Kernel.close (k : Kernel) (h : Nat) : Kernel :=
  ⟨k.live.filter (· ≠ h), k.next, fun x hx => k.fresh x (List.mem_of_mem_filter hx)⟩

/-- A link constructor: a fresh live handle, or its error. -/
def newLink (kernelAttach : Target → Except String Unit) (t : Target) (k : Kernel) :
    Except String (Nat × Kernel) :=
  match kernelAttach t with
  | .error err => .error err
  | .ok () => .ok (k.next, k.alloc)

section Attach

variable (kernelAttach : Target → Except String Unit)

/-- The part the three link attaches share once the link key is made: the duplicate check,
the constructor, and recording the link. A helper returns its error and the state it leaves. -/
def attachLink (progID : UInt32) (linkKey symbol : String) (t : Target) (failure : String)
    (s : State) : Except String Unit × State :=
  let spec := s.bpf.spec progID
  if (spec.links.lookup linkKey).isSome then
    (.error ("bpf " ++ s.bpf.format ++ ": duplicate symbol: " ++ symbol), s)
  else
    match newLink kernelAttach t s.kernel with
    | .error err => (.error (failure ++ " in " ++ spec.bProg ++ ": " ++ err), s)
    | .ok (l, kernel) => (.ok (), ⟨s.bpf.setLink progID linkKey l, kernel⟩)

def attachKprobe (progID : UInt32) (symbol : String) (isRetprobe : Bool) (s : State) :
    Except String Unit × State :=
  if !isRetprobe then
    let symOffsets := Strings.split symbol '+'
    let offset : Except String UInt64 :=
      match symOffsets with
      | [_] => .ok 0
      | [_, off] =>
        let (offset, err) := Strings.parseUint off 10
        if err then .error ("bpf " ++ s.bpf.format ++ ": invalid symbol: " ++ symbol) else .ok offset
      | _ => .error ("bpf " ++ s.bpf.format ++ ": invalid symbol: " ++ symbol)
    match offset with
    | .error err => (.error err, s)
    | .ok offset =>
      let sym := symOffsets.headD ""
      attachLink kernelAttach progID (sym ++ "+" ++ toString offset.toNat) symbol
        (.kprobe sym offset progID) ("can't attach kprobe " ++ symbol) s
  else
    attachLink kernelAttach progID symbol symbol (.kretprobe symbol progID)
      ("can't attach kretprobe " ++ symbol) s

def attachTracepoint (progID : UInt32) (system symbol : String) (s : State) :
    Except String Unit × State :=
  attachLink kernelAttach progID (system ++ "/" ++ symbol) symbol (.tracepoint system symbol progID)
    ("can't attach tracepoint " ++ system ++ "/" ++ symbol) s

def attachRawTracepoint (progID : UInt32) (symbol : String) (s : State) :
    Except String Unit × State :=
  attachLink kernelAttach progID symbol symbol (.rawTracepoint symbol progID)
    ("can't attach raw tracepoint " ++ symbol) s

/-- `attachPerfEventPMU`'s loop over `n` CPUs from `cpu` on, with the fds opened so far; on a
failure it closes them. -/
def attachPerfEventPMU (progID : UInt32) : Nat → Nat → List Nat → Kernel →
    Except String (List Nat) × Kernel
  | 0, _, fds, k => (.ok fds, k)
  | n + 1, cpu, fds, k =>
    match newLink kernelAttach (.perfEvent cpu progID) k with
    | .error err => (.error err, fds.foldl Kernel.close k)
    | .ok (fd, k) => attachPerfEventPMU progID n (cpu + 1) (fds ++ [fd]) k

def attachPerfEvent (numCPU : Nat) (progID : UInt32) (samplePeriod sampleFreq : UInt64)
    (s : State) : Except String Unit × State :=
  if s.bpf.innerPerfEvent.isSome then
    (.error ("bpf " ++ s.bpf.format ++ " duplicated symbol: perf_event_pmu_sysbmol"), s)
  else if samplePeriod ≠ 0 then (.error "not supported", s)
  else if sampleFreq = 0 then (.error "args invalid", s)
  else
    match attachPerfEventPMU kernelAttach progID numCPU 0 [] s.kernel with
    | (.error err, kernel) =>
      (.error ("attach bpf perfevent PERF_COUNT_SW_CPU_CLOCK: " ++ err), ⟨s.bpf, kernel⟩)
    | (.ok fds, kernel) => (.ok (), ⟨{ s.bpf with innerPerfEvent := some fds }, kernel⟩)

end Attach

/-- `Detach`: every link of every program and every fd of the perf event is closed; the maps
keep them. -/
def detach (s : State) : State :=
  ⟨s.bpf, s.bpf.handles.foldl Kernel.close s.kernel⟩

/-- How the loop of `AttachWithOptions` or `Attach` stops early: the error it returns, the
function's local `err` at that point, which only the calls of the attach helpers assign, and
the state it stopped in. -/
structure Exit where
  ret : String
  err : Option String
  state : State

/-- An attach helper's call: its error is assigned to `err` and wrapped for the return. -/
def afterHelper (result : Except String Unit × State) (wrap : String → String) :
    Except Exit State :=
  match result with
  | (.error err, s) => .error ⟨wrap err, some err, s⟩
  | (.ok (), s) => .ok s

/-- The deferred function of both calls: `Detach` when `err` holds an error. -/
def deferDetach : Except Exit State → Except String Unit × State
  | .ok s => (.ok (), s)
  | .error e => (.error e.ret, if e.err.isSome then detach e.state else e.state)

/-- The loop stopped with `err` set: an attach helper failed. -/
def errAssigned : Except Exit State → Bool
  | .error e => e.err.isSome
  | .ok _ => false

section Calls

variable (kernelAttach : Target → Except String Unit)

def attachOne (numCPU : Nat) (opt : AttachOption) (s : State) : Except Exit State :=
  let progID := (s.bpf.programName2IDs.lookup opt.programName).getD 0
  let spec := s.bpf.spec progID
  match spec.specType with
  | .tracePoint =>
    match Strings.splitN opt.symbol '/' 2 with
    | [system, symbol] =>
      afterHelper (attachTracepoint kernelAttach progID system symbol s)
        fun err => "attach tracepoint with options " ++ opt.format ++ ": " ++ err
    | _ => .error ⟨"bpf " ++ s.bpf.format ++ ": invalid symbol: " ++ opt.symbol, none, s⟩
  | .kprobe =>
    afterHelper (attachKprobe kernelAttach progID opt.symbol (spec.sectionPrefix = "kretprobe") s)
      fun err => "attach kprobe with options " ++ opt.format ++ ": " ++ err
  | .rawTracepoint =>
    afterHelper (attachRawTracepoint kernelAttach progID opt.symbol s)
      fun err => "attach raw tracepoint with options " ++ opt.format ++ ": " ++ err
  | .perfEvent =>
    afterHelper (attachPerfEvent kernelAttach numCPU progID opt.samplePeriod opt.sampleFreq s)
      fun err => "attach perf event with options " ++ opt.format ++ ": " ++ err
  | specType =>
    .error ⟨"bpf " ++ s.bpf.format ++ ": unsupported program type: " ++ specType.toString, none, s⟩

/-- The loop of `AttachWithOptions` over the options. -/
def attachWithOptionsLoop (numCPU : Nat) (opts : List AttachOption) (s : State) :
    Except Exit State :=
  opts.foldlM (fun s opt => attachOne kernelAttach numCPU opt s) s

def attachWithOptions (numCPU : Nat) (opts : List AttachOption) (s : State) :
    Except String Unit × State :=
  deferDetach (attachWithOptionsLoop kernelAttach numCPU opts s)

/-- One program of `Attach`, from its section name. -/
def attachDefault (progID : UInt32) (spec : ProgramSpec) (s : State) : Except Exit State :=
  match spec.specType with
  | .tracePoint =>
    match Strings.splitN spec.sectionName '/' 3 with
    | [_, system, symbol] =>
      afterHelper (attachTracepoint kernelAttach progID system symbol s)
        fun err => "attach tracepoint: " ++ err
    | _ => .error ⟨"bpf " ++ s.bpf.format ++ ": invalid section name: " ++ spec.sectionName, none, s⟩
  | .kprobe =>
    match Strings.splitN spec.sectionName '/' 2 with
    | [kind, symbol] =>
      afterHelper (attachKprobe kernelAttach progID symbol (kind = "kretprobe") s)
        fun err => "attach kprobe: " ++ err
    | _ => .error ⟨"bpf " ++ s.bpf.format ++ ": invalid section name: " ++ spec.sectionName, none, s⟩
  | .rawTracepoint =>
    match Strings.splitN spec.sectionName '/' 2 with
    | [_, symbol] =>
      afterHelper (attachRawTracepoint kernelAttach progID symbol s)
        fun err => "attach raw tracepoint: " ++ err
    | _ => .error ⟨"bpf " ++ s.bpf.format ++ ": invalid section name: " ++ spec.sectionName, none, s⟩
  | specType =>
    .error ⟨"bpf " ++ s.bpf.format ++ ": unsupported program type: " ++ specType.toString, none, s⟩

/-- The loop of `Attach` over the programs, in the order `iterProg` visits the map. -/
def attachLoop (iterProg : List (UInt32 × ProgramSpec) → List (UInt32 × ProgramSpec))
    (s : State) : Except Exit State :=
  (iterProg s.bpf.programSpecs).foldlM (fun s p => attachDefault kernelAttach p.1 p.2 s) s

def attach (iterProg : List (UInt32 × ProgramSpec) → List (UInt32 × ProgramSpec)) (s : State) :
    Except String Unit × State :=
  deferDetach (attachLoop kernelAttach iterProg s)

end Calls

end Huatuo.Bpf
