import Huatuo.Bpf.RatelimitRuns
import Huatuo.Events.NetRecvLat
import Huatuo.Lib.Machine
import Huatuo.Lib.Strings
import Huatuo.Symbol.Ksym
import Mathlib

/-! The packet-drop tracer `dropwatch` (bpf/dropwatch.c, core/events/dropwatch.go). A program on
the `kfree_skb` tracepoint watches the packets the kernel frees. It keeps the IPv4 TCP packets
of an `AF_INET` stream socket of the TCP protocol, in a state other than 0 and `TCP_CLOSE`, and
sends for each, past a rate limiter of 100 events a second, the task, the addresses, ports and
sequence numbers of the headers, the packet's length and queue, the socket's state and the
kernel stack. Up to Linux 4.18 the socket's type and protocol are bitfields of one word, which
the program reads by shifts; later kernels have them as fields. `Start` names the addresses,
ports, state and stack of each event and saves it, unless the third frame of its stack is that
of a drop known to be benign: a `CLOSE_WAIT` socket purging its queue, an invalidated neighbour
(when the configuration says so), or the bnxt driver's transmit completion. -/
namespace Huatuo.Events

open Lib Huatuo.Bpf

/-! ## The program -/

/-- `TYPE_TCP_COMMON_DROP`, and the other kinds of drop the Go side can name. -/
def typeTcpCommonDrop : UInt8 := 1
def typeTcpSynFlood : UInt8 := 2
def typeTcpListenOverflowHandshake1 : UInt8 := 3
def typeTcpListenOverflowHandshake3 : UInt8 := 4

def skFlProtoShift : UInt32 := 8

def skFlTypeShift : UInt32 := 16

def afInet : UInt16 := 2

def sockStream : UInt16 := 1

def tcpClose : UInt8 := 7

/-- `PERF_MAX_STACK_DEPTH`, the entries of the event's stack. -/
def perfMaxStackDepth : Nat := 127

/-- Where a kernel keeps a socket's type and protocol: in the bitfield word at
`__sk_flags_offset` up to 4.18, in two `u16` fields after. -/
inductive SockTypeLayout
  | flags (skFlags : UInt32)
  | fields (skType skProtocol : UInt16)
deriving DecidableEq, Repr

/-- `sk_get_type_and_protocol`: the protocol and the type, each a `u16`. -/
def skGetTypeAndProtocol : SockTypeLayout → UInt16 × UInt16
  | .flags skFlags => ((skFlags >>> skFlProtoShift).toUInt16, (skFlags >>> skFlTypeShift).toUInt16)
  | .fields skType skProtocol => (skProtocol, skType)

@[simp] theorem skGetTypeAndProtocol_fields (skType skProtocol : UInt16) :
    skGetTypeAndProtocol (.fields skType skProtocol) = (skProtocol, skType) := rfl

/-- What the program reads of a socket: `skc_family`, `skc_state`, and its type and protocol. -/
structure DropSock where
  family : UInt16
  state : UInt8
  layout : SockTypeLayout
deriving DecidableEq, Repr

/-- What the program reads of a freed packet: the IPv4 header at its network header, the TCP
header at its transport header, its socket, `len` and `queue_mapping`. -/
structure DropSkb where
  ipProtocol : UInt8
  saddr : UInt32
  daddr : UInt32
  source : UInt16
  dest : UInt16
  seq : UInt32
  ackSeq : UInt32
  sk : Option DropSock
  len : UInt32
  queueMapping : UInt16
deriving DecidableEq, Repr

/-- A hit of the `kfree_skb` tracepoint: `bpf_ktime_get_ns()`, the tracepoint's `protocol` (in
host order) and packet, the task it runs in, and the kernel stack, innermost frame first. -/
structure KfreeSkbHit where
  now : UInt64
  protocol : UInt16
  skb : DropSkb
  task : CurrentTask
  stack : List UInt64
deriving DecidableEq, Repr

/-- `struct perf_event_t`, and `perfEventT` on the Go side; the comm is the name up to its first
NUL. -/
structure DropPerfEvent where
  tgidPid : UInt64
  saddr : UInt32
  daddr : UInt32
  sport : UInt16
  dport : UInt16
  seq : UInt32
  ackSeq : UInt32
  queueMapping : UInt32
  pktLen : UInt64
  stackSize : Int64
  stack : List UInt64
  skMaxAckBacklog : UInt32
  state : UInt8
  type : UInt8
  comm : String
deriving DecidableEq, Repr

/-- `bpf_get_stack` into the `PERF_MAX_STACK_DEPTH` entries of the event: the bytes it wrote,
and the frames that fit with the rest of the buffer zeroed. -/
def bpfGetStack (stack : List UInt64) : Int64 × List UInt64 :=
  let frames := stack.take perfMaxStackDepth
  (Int64.ofNat (frames.length * 8), frames ++ List.replicate (perfMaxStackDepth - frames.length) 0)

/-- `BPF_RATELIMIT(rate, 1, 100)`. -/
def dropwatchRate : BpfRatelimit :=
  bpfRatelimit 1 100

/-- The event the program fills for a hit on a socket it watches. The per-CPU slot it fills is
left out: every field is written, and `bpf_get_stack` zeroes the rest of the stack. -/
def DropPerfEvent.ofHit (hit : KfreeSkbHit) (sk : DropSock) : DropPerfEvent :=
  let stack := bpfGetStack hit.stack
  ⟨hit.task.tgidPid, hit.skb.saddr, hit.skb.daddr, hit.skb.source, hit.skb.dest, hit.skb.seq,
    hit.skb.ackSeq, hit.skb.queueMapping.toUInt32, hit.skb.len.toUInt64, stack.1, stack.2, 0,
    sk.state, typeTcpCommonDrop, hit.task.comm⟩

/-- `bpf_kfree_skb_prog`: the limiter after it and the event it sends. -/
def bpfKfreeSkbProg (rate : BpfRatelimit) (hit : KfreeSkbHit) : BpfRatelimit × Option DropPerfEvent :=
  -- only for IP && TCP
  if hit.protocol ≠ ethPIp then (rate, none)
  else if hit.skb.ipProtocol ≠ ipprotoTcp then (rate, none)
  else
    match hit.skb.sk with
    | none => (rate, none)
    | some sk =>
      -- filter the sock by AF_INET, SOCK_STREAM, IPPROTO_TCP
      if sk.family ≠ afInet then (rate, none)
      else
        let (protocol, type) := skGetTypeAndProtocol sk.layout
        if protocol.toUInt8 ≠ ipprotoTcp ∨ type ≠ sockStream then (rate, none)
        else if sk.state = tcpClose ∨ sk.state = 0 then (rate, none)
        else
          let limited := bpfRatelimited rate hit.now
          if limited.1 then (limited.2, none) else (limited.2, some (.ofHit hit sk))

/-- Whether the program watches a socket: `AF_INET`, of protocol `IPPROTO_TCP` (in its low byte)
and type `SOCK_STREAM` as `sk_get_type_and_protocol` reads them, in a state other than 0 and
`TCP_CLOSE`. -/
def DropSock.watched (sk : DropSock) : Bool :=
  sk.family == afInet && (skGetTypeAndProtocol sk.layout).1.toUInt8 == ipprotoTcp &&
    (skGetTypeAndProtocol sk.layout).2 == sockStream && sk.state != tcpClose && sk.state != 0

/-- The socket of a hit that the program passes to the limiter: that of an IPv4 TCP packet, if
the program watches it. -/
def KfreeSkbHit.watchedSock (hit : KfreeSkbHit) : Option DropSock :=
  if hit.protocol = ethPIp ∧ hit.skb.ipProtocol = ipprotoTcp then hit.skb.sk.filter DropSock.watched
  else none

/-- A hit reaches the limiter just when the program watches its packet's socket, and sends the
event of that socket when the limiter lets it through. -/
theorem bpfKfreeSkbProg_eq (rate : BpfRatelimit) (hit : KfreeSkbHit) :
    bpfKfreeSkbProg rate hit =
      match hit.watchedSock with
      | none => (rate, none)
      | some sk =>
        ((bpfRatelimited rate hit.now).2,
          if (bpfRatelimited rate hit.now).1 then none else some (.ofHit hit sk)) := by
  unfold bpfKfreeSkbProg KfreeSkbHit.watchedSock
  by_cases hproto : hit.protocol = ethPIp ∧ hit.skb.ipProtocol = ipprotoTcp
  · obtain ⟨hp, hi⟩ := hproto
    rw [if_neg (not_not.2 hp), if_neg (not_not.2 hi), if_pos ⟨hp, hi⟩]
    cases hsk : hit.skb.sk with
    | none => rfl
    | some sk =>
      dsimp only
      rw [Option.filter_some]
      by_cases hwatch : sk.watched = true
      · -- every check passes
        rw [if_pos hwatch]
        simp only [DropSock.watched, Bool.and_eq_true, beq_iff_eq, bne_iff_ne] at hwatch
        obtain ⟨⟨⟨⟨hf, hp⟩, ht⟩, hc⟩, h0⟩ := hwatch
        simp only [hf, hp, ht, hc, h0, ne_eq, not_true_eq_false, or_self, if_false]
        split_ifs <;> rfl
      · -- one of the checks fails
        rw [if_neg hwatch]
        simp only [DropSock.watched, Bool.and_eq_true, beq_iff_eq, bne_iff_ne, not_and_or] at hwatch
        split_ifs <;> simp_all
  · rw [if_neg hproto]
    split_ifs <;> simp_all

/-! ## The socket's type and protocol -/

/-- The events the program sends over a run of hits, from the limiter `rate`. -/
def dropwatchEvents (rate : BpfRatelimit) (hits : List KfreeSkbHit) : List DropPerfEvent :=
  Machine.emitted (fun rate hit => (bpfKfreeSkbProg rate hit).1)
    (fun rate hit => (bpfKfreeSkbProg rate hit).2.toList) rate hits

/-- The hits of a run whose socket the program watches, each with that socket. -/
def watchedHits (hits : List KfreeSkbHit) : List (KfreeSkbHit × DropSock) :=
  hits.filterMap fun hit => hit.watchedSock.map (hit, ·)

theorem watchedHits_cons_of_none {hit : KfreeSkbHit} (hits : List KfreeSkbHit)
    (h : hit.watchedSock = none) : watchedHits (hit :: hits) = watchedHits hits := by
  simp [watchedHits, h]

theorem watchedHits_cons_of_some {hit : KfreeSkbHit} {sk : DropSock} (hits : List KfreeSkbHit)
    (h : hit.watchedSock = some sk) : watchedHits (hit :: hits) = (hit, sk) :: watchedHits hits := by
  simp [watchedHits, h]

/-- The events of a run are those of the watched hits that the limiter, called on them alone,
lets through: the program is the filter of the watched sockets followed by the limiter. -/
theorem dropwatchEvents_eq (rate : BpfRatelimit) (hits : List KfreeSkbHit) :
    dropwatchEvents rate hits =
      ((watchedHits hits).zip (ratelimitedRun rate ((watchedHits hits).map (·.1.now))).1).filterMap
        fun p => if p.2.2 then none else some (.ofHit p.1.1 p.1.2) := by
  induction hits generalizing rate with
  | nil => rfl
  | cons hit hits ih =>
    unfold dropwatchEvents at ih ⊢
    rw [Machine.emitted_cons, bpfKfreeSkbProg_eq]
    cases hw : hit.watchedSock with
    | none =>
      rw [watchedHits_cons_of_none hits hw]
      exact ih rate
    | some sk =>
      rw [watchedHits_cons_of_some hits hw, List.map_cons, ratelimitedRun, List.zip_cons_cons,
        List.filterMap_cons]
      dsimp only
      rw [ih]
      split_ifs <;> rfl

/-- Over any run of `kfree_skb` hits from the limiter as loaded, the program sends the events of
the watched hits that the limiter lets through, called on those hits alone; and in each of the
limiter's windows over them the first 100 are let through and no other. -/
theorem dropwatch_reports_per_window (hits : List KfreeSkbHit) :
    let calls := ratelimitedRun dropwatchRate ((watchedHits hits).map (·.1.now))
    dropwatchEvents dropwatchRate hits =
        ((watchedHits hits).zip calls.1).filterMap
          (fun p => if p.2.2 then none else some (.ofHit p.1.1 p.1.2)) ∧
      ∀ w ∈ windows calls.1, w = overBurst 100 w.length :=
  ⟨dropwatchEvents_eq dropwatchRate hits,
    (ratelimitedRun_guarantees 1 100 (by decide) _).windows_burst⟩

/-! ## The Go side -/

/-- `tcpstateMap`, from include/net/tcp_states.h. -/
def tcpstateMap : List String :=
  ["<nil>", "ESTABLISHED", "SYN_SENT", "SYN_RECV", "FIN_WAIT1", "FIN_WAIT2", "TIME_WAIT", "CLOSE",
    "CLOSE_WAIT", "LAST_ACK", "LISTEN", "CLOSING", "NEW_SYN_RECV"]

def typeMap : List (UInt8 × String) :=
  [(typeTcpCommonDrop, "common_drop"), (typeTcpSynFlood, "syn_flood"),
    (typeTcpListenOverflowHandshake1, "listen_overflow_handshake1"),
    (typeTcpListenOverflowHandshake3, "listen_overflow_handshake3")]

structure DropWatchTracingData where
  type : String
  comm : String
  pid : UInt64
  saddr : String
  daddr : String
  sport : UInt16
  dport : UInt16
  srcHostname : String
  destHostname : String
  maxAckBacklog : UInt32
  seq : UInt32
  ackSeq : UInt32
  queueMapping : UInt32
  pktLen : UInt64
  state : String
  stack : String
deriving DecidableEq, Repr

/-- What `Start` reads besides the events: `net.LookupAddr`, the configuration's
`IgnoreNeighInvalidate`, and the sort and the /proc/kallsyms of the kernel symbol table, which
`DumpKernelBackTrace` loads on its first use. -/
structure DropWatchEnv where
  lookupAddr : String → Except String (List String)
  ignoreNeighInvalidate : Bool
  sortSymbols : Search.SortBy Ksymbols.Symbol fun s => s.addr.toNat
  kallsyms : Except String (List String)

/-- The first name `net.LookupAddr` gives, `<nil>` when it fails or gives none. -/
def lookupHostname (lookupAddr : String → Except String (List String)) (addr : String) : String :=
  match lookupAddr addr with
  | .ok (h :: _) => h
  | _ => "<nil>"

/-- `formatEvent`, with the symbol table it reads: the record and the table after it; none is a
panic, of the symbol search or of an index past `tcpstateMap`. -/
def DropWatchTracing.formatEvent (env : DropWatchEnv) (st : Ksymbols.KsymState)
    (event : DropPerfEvent) : Option (DropWatchTracingData × Ksymbols.KsymState) := do
  let saddr := inetNtop event.saddr
  let daddr := inetNtop event.daddr
  let (backTrace, st) ← Ksymbols.dumpKernelBackTrace env.sortSymbols env.kallsyms st event.stack
    Ksymbols.ksymbolStackMaxDepth
  let state ← tcpstateMap[event.state.toNat]?
  pure (⟨(typeMap.lookup event.type).getD "", Strings.trimRight event.comm (Char.ofNat 0),
    event.tgidPid >>> 32, saddr, daddr, ntohs event.sport, ntohs event.dport,
    lookupHostname env.lookupAddr saddr, lookupHostname env.lookupAddr daddr, event.skMaxAckBacklog,
    ntohl event.seq, ntohl event.ackSeq, event.queueMapping, event.pktLen, state,
    Strings.join backTrace "\n"⟩, st)

/-- `ignore`: whether the third frame of the stack is that of a drop known to be benign. -/
def DropWatchTracing.ignore (ignoreNeighInvalidate : Bool) (data : DropWatchTracingData) : Bool :=
  let stack := Strings.split data.stack '\n'
  let thirdHasPrefix (pre : String) : Bool :=
    match stack[2]? with
    | some frame => Strings.hasPrefix frame pre
    | none => false
  -- a CLOSE_WAIT socket purging its queue in tcp_fin
  if data.state = "CLOSE_WAIT" ∧ thirdHasPrefix "skb_rbtree_purge/" then true
  -- the neighbour's queue freed by its timer
  else if ignoreNeighInvalidate ∧ thirdHasPrefix "neigh_invalidate/" then true
  -- the bnxt driver's transmit completion
  else thirdHasPrefix "bnxt_tx_int/" || thirdHasPrefix "__bnxt_tx_int/"

/-- The body of `Start`'s loop on an event read from the perf buffer: the record it saves, if
any, and the symbol table after it; none is a panic. -/
def dropWatchHandle (env : DropWatchEnv) (st : Ksymbols.KsymState) (event : DropPerfEvent) :
    Option (Option DropWatchTracingData × Ksymbols.KsymState) := do
  let (data, st) ← DropWatchTracing.formatEvent env st event
  pure (if DropWatchTracing.ignore env.ignoreNeighInvalidate data then none else some data, st)

/-! ## What `Start` saves -/

/-- The drops known to be benign, told by the third frame of their backtrace: what `ignore`
decides, read on the frames themselves. -/
def benignFrames (ignoreNeighInvalidate : Bool) (state : String) (frames : List String) : Bool :=
  match frames[2]? with
  | none => false
  | some frame =>
    (state == "CLOSE_WAIT" && Strings.hasPrefix frame "skb_rbtree_purge/") ||
      (ignoreNeighInvalidate && Strings.hasPrefix frame "neigh_invalidate/") ||
      Strings.hasPrefix frame "bnxt_tx_int/" || Strings.hasPrefix frame "__bnxt_tx_int/"

theorem third_split_join {frames : List String} (hframes : ∀ l ∈ frames, '\n' ∉ l.toList) :
    (Strings.split (Strings.join frames "\n") '\n')[2]? = frames[2]? := by
  by_cases hne : frames = []
  · subst hne
    rfl
  · rw [Strings.split_join rfl hframes hne]

theorem ignore_eq_benignFrames (ignoreNeighInvalidate : Bool) (data : DropWatchTracingData)
    {frames : List String} (hstack : data.stack = Strings.join frames "\n")
    (hframes : ∀ l ∈ frames, '\n' ∉ l.toList) :
    DropWatchTracing.ignore ignoreNeighInvalidate data =
      benignFrames ignoreNeighInvalidate data.state frames := by
  unfold DropWatchTracing.ignore benignFrames
  dsimp only
  rw [hstack, third_split_join hframes]
  cases frames[2]? with
  | none => simp
  | some frame =>
    dsimp only
    by_cases hc : data.state = "CLOSE_WAIT"
    · cases ignoreNeighInvalidate <;> simp [hc, Bool.or_assoc]
    · have hc' : (data.state == "CLOSE_WAIT") = false := beq_eq_false_iff_ne.2 hc
      cases ignoreNeighInvalidate <;> simp [hc, hc', Bool.or_assoc]

/-- The record `Start` builds of the event of a hit on a watched socket, from the name of the
socket's state and the frames the backtrace names. -/
def dropRecord (env : DropWatchEnv) (hit : KfreeSkbHit) (state : String) (frames : List String) :
    DropWatchTracingData :=
  let saddr := inetNtop hit.skb.saddr
  let daddr := inetNtop hit.skb.daddr
  ⟨"common_drop", Strings.trimRight hit.task.comm (Char.ofNat 0), hit.task.tgidPid >>> 32, saddr,
    daddr, ntohs hit.skb.source, ntohs hit.skb.dest, lookupHostname env.lookupAddr saddr,
    lookupHostname env.lookupAddr daddr, 0, ntohl hit.skb.seq, ntohl hit.skb.ackSeq,
    hit.skb.queueMapping.toUInt32, hit.skb.len.toUInt64, state, Strings.join frames "\n"⟩

theorem formatEvent_ofHit (env : DropWatchEnv) (st : Ksymbols.KsymState) (hit : KfreeSkbHit)
    (sk : DropSock) {state : String} (hs : tcpstateMap[sk.state.toNat]? = some state) :
    DropWatchTracing.formatEvent env st (.ofHit hit sk) =
      (Ksymbols.dumpKernelBackTrace env.sortSymbols env.kallsyms st (bpfGetStack hit.stack).2
        Ksymbols.ksymbolStackMaxDepth).map fun p => (dropRecord env hit state p.1, p.2) := by
  have htype : (typeMap.lookup typeTcpCommonDrop).getD "" = "common_drop" := by decide
  have hstack : (DropPerfEvent.ofHit hit sk).stack = (bpfGetStack hit.stack).2 := rfl
  have hstate : (DropPerfEvent.ofHit hit sk).state = sk.state := rfl
  unfold DropWatchTracing.formatEvent
  dsimp only
  rw [hstack]
  cases Ksymbols.dumpKernelBackTrace env.sortSymbols env.kallsyms st (bpfGetStack hit.stack).2
    Ksymbols.ksymbolStackMaxDepth with
  | none => rfl
  | some p =>
    simp only [hstate, hs, Option.bind_eq_bind, Option.bind_some, Option.map_some, Option.pure_def]
    simp only [DropPerfEvent.ofHit, htype, dropRecord]

theorem tcpstateMap_names : ∀ i : Fin 13,
    (tcpstateMap[i.val]? = some "<nil>" → i.val = 0) ∧ (tcpstateMap[i.val]? = some "CLOSE" → i.val = 7) := by
  decide

theorem tcpstateMap_watched {sk : DropSock} (hw : sk.watched = true)
    (hlt : sk.state.toNat < tcpstateMap.length) :
    ∃ state, tcpstateMap[sk.state.toNat]? = some state ∧ state ≠ "<nil>" ∧ state ≠ "CLOSE" := by
  simp only [DropSock.watched, Bool.and_eq_true, bne_iff_ne] at hw
  obtain ⟨⟨-, hclose⟩, hzero⟩ := hw
  have h0 : sk.state.toNat ≠ 0 := fun h => hzero (UInt8.toNat_inj.1 h)
  have h7 : sk.state.toNat ≠ 7 := fun h => hclose (UInt8.toNat_inj.1 h)
  obtain ⟨hnil, hcl⟩ := tcpstateMap_names ⟨sk.state.toNat, hlt⟩
  refine ⟨_, List.getElem?_eq_getElem hlt, fun h => h0 (hnil ?_), fun h => h7 (hcl ?_)⟩
  · rw [List.getElem?_eq_getElem hlt, h]
  · rw [List.getElem?_eq_getElem hlt, h]

theorem dropWatchHandle_ofHit (env : DropWatchEnv) {st : Ksymbols.KsymState}
    (hst : Ksymbols.OneLineTable env.kallsyms st) (hit : KfreeSkbHit) (sk : DropSock)
    {state : String} (hs : tcpstateMap[sk.state.toNat]? = some state) :
    dropWatchHandle env st (.ofHit hit sk) =
      (Ksymbols.dumpKernelBackTrace env.sortSymbols env.kallsyms st (bpfGetStack hit.stack).2
        Ksymbols.ksymbolStackMaxDepth).map fun p =>
          (if benignFrames env.ignoreNeighInvalidate state p.1 then none
            else some (dropRecord env hit state p.1), p.2) := by
  unfold dropWatchHandle
  rw [formatEvent_ofHit env st hit sk hs]
  cases hdump : Ksymbols.dumpKernelBackTrace env.sortSymbols env.kallsyms st
    (bpfGetStack hit.stack).2 Ksymbols.ksymbolStackMaxDepth with
  | none => rfl
  | some p =>
    obtain ⟨hframes, -⟩ := Ksymbols.oneLine_of_dumpKernelBackTrace env.sortSymbols hst hdump
    simp only [Option.map_some, Option.bind_eq_bind, Option.bind_some, Option.pure_def]
    rw [ignore_eq_benignFrames _ _ rfl hframes]
    rfl

theorem watched_of_watchedSock {hit : KfreeSkbHit} {sk : DropSock} (h : hit.watchedSock = some sk) :
    sk.watched = true := by
  unfold KfreeSkbHit.watchedSock at h
  split_ifs at h
  exact (Option.filter_eq_some_iff.1 h).2

theorem mem_dropwatchEvents {rate : BpfRatelimit} {hits : List KfreeSkbHit} {event : DropPerfEvent}
    (h : event ∈ dropwatchEvents rate hits) :
    ∃ hit ∈ hits, ∃ sk, hit.watchedSock = some sk ∧ event = .ofHit hit sk := by
  obtain ⟨rate', hit, hhit, hev⟩ := Machine.exists_of_mem_emitted h
  rw [bpfKfreeSkbProg_eq] at hev
  cases hw : hit.watchedSock with
  | none => simp [hw] at hev
  | some sk =>
    simp only [hw, Option.mem_toList] at hev
    split_ifs at hev
    exact ⟨hit, hhit, sk, hw, (Option.some.inj hev).symm⟩

/-- Over any run of `kfree_skb` hits, from any limiter, with /proc/kallsyms lines that hold no
newline: each event the program sends is that of a watched hit of the run; when its socket's
state is one `tcpstateMap` names, that name is neither `<nil>` nor `CLOSE`, and `Start`, with
any symbol table it can have loaded, panics only where the symbol search does and otherwise
saves the record `common_drop` of the hit, with the addresses and ports of its headers and the
frames of the stack the program read, unless the third frame is that of a benign drop. -/
theorem dropwatch_saved_records (env : DropWatchEnv) (rate : BpfRatelimit) (hits : List KfreeSkbHit)
    (hkall : ∀ lines, env.kallsyms = .ok lines → ∀ l ∈ lines, '\n' ∉ l.toList) :
    ∀ event ∈ dropwatchEvents rate hits, ∃ hit ∈ hits, ∃ sk, hit.watchedSock = some sk ∧
      event = .ofHit hit sk ∧ (sk.state.toNat < tcpstateMap.length → ∃ state,
        tcpstateMap[sk.state.toNat]? = some state ∧ state ≠ "<nil>" ∧ state ≠ "CLOSE" ∧
        ∀ st : Ksymbols.KsymState, (∀ s ∈ st.cache, s.OneLine) →
          dropWatchHandle env st event =
            (Ksymbols.dumpKernelBackTrace env.sortSymbols env.kallsyms st (bpfGetStack hit.stack).2
              Ksymbols.ksymbolStackMaxDepth).map fun p =>
                (if benignFrames env.ignoreNeighInvalidate state p.1 then none
                  else some (dropRecord env hit state p.1), p.2)) := by
  intro event hev
  obtain ⟨hit, hhit, sk, hw, rfl⟩ := mem_dropwatchEvents hev
  refine ⟨hit, hhit, sk, hw, rfl, fun hlt => ?_⟩
  obtain ⟨state, hs, hnil, hclose⟩ := tcpstateMap_watched (watched_of_watchedSock hw) hlt
  exact ⟨state, hs, hnil, hclose, fun st hst => dropWatchHandle_ofHit env ⟨hkall, hst⟩ hit sk hs⟩

theorem dropwatch_saved_records_one_drop :
    let env : DropWatchEnv :=
      ⟨fun _ => .ok ["host-a"], false, Search.SortBy.insertion _, .ok ["ffffffff81000000 T tcp_v4_rcv"]⟩
    let hits : List KfreeSkbHit := [⟨1000, ethPIp, ⟨ipprotoTcp, 0x0100007f, 0x0100007f, 0x5000,
      0x1f90, 1, 1, some ⟨afInet, 1, .fields sockStream ipprotoTcp.toUInt16⟩, 60, 0⟩,
      ⟨(42 : UInt64) <<< 32, "app"⟩, [0xffffffff81000010]⟩]
    (∀ lines, env.kallsyms = .ok lines → ∀ l ∈ lines, '\n' ∉ l.toList) ∧
      (dropwatchEvents dropwatchRate hits).length = 1 ∧
      ∀ event ∈ dropwatchEvents dropwatchRate hits, ∃ hit ∈ hits, ∃ sk, hit.watchedSock = some sk ∧
        event = .ofHit hit sk ∧ (sk.state.toNat < tcpstateMap.length → ∃ state,
          tcpstateMap[sk.state.toNat]? = some state ∧ state ≠ "<nil>" ∧ state ≠ "CLOSE" ∧
          ∀ st : Ksymbols.KsymState, (∀ s ∈ st.cache, s.OneLine) →
            dropWatchHandle env st event =
              (Ksymbols.dumpKernelBackTrace env.sortSymbols env.kallsyms st (bpfGetStack hit.stack).2
                Ksymbols.ksymbolStackMaxDepth).map fun p =>
                  (if benignFrames env.ignoreNeighInvalidate state p.1 then none
                    else some (dropRecord env hit state p.1), p.2)) := by
  intro env hits
  have hkall : ∀ lines, env.kallsyms = .ok lines → ∀ l ∈ lines, '\n' ∉ l.toList := by
    rintro lines ⟨⟩
    decide
  exact ⟨hkall, by decide, dropwatch_saved_records env dropwatchRate hits hkall⟩

end Huatuo.Events
