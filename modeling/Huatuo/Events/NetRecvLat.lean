import Huatuo.Bpf.Ratelimit
import Huatuo.Lib.Go
import Huatuo.Lib.Machine
import Huatuo.Lib.Strings
import Mathlib

/-! The receive-latency tracer `netrecvlat` (bpf/netrecvlat.c, core/events/netrecvlat.go). Three
programs watch a TCP/IPv4 packet on its way up: at `netif_receive_skb`, at `tcp_v4_rcv`, and when
it is copied to the user (`skb_copy_datagram_iovec`). Each takes the packet's latency as the
time since the kernel stamped it, `bpf_ktime_get_ns() + mono_wall_offset - skb->tstamp` in
`u64`, and sends an event when it is at least the threshold of its stage, past a rate limiter
of 100 events a second that the three share. `Start` loads the thresholds in ms times 10^6 and
the offset between the two clocks that `estMonoWallOffset` estimates; it reads the events, drops
those of tasks it is told to ignore, of TCP states other than `ESTABLISHED`, and of known issues,
and saves the others with the latency in ms. -/
namespace Huatuo.Events

open Lib Huatuo.Bpf

/-! ## The programs -/

def ethPIp : UInt16 := 0x0800

def ipprotoTcp : UInt8 := 6

/-- `bpf_ntohs`, and Go's `netutil.InetNtohs`, on a little-endian host: the two bytes swapped. -/
def ntohs (x : UInt16) : UInt16 :=
  (x <<< 8) ||| (x >>> 8)

/-- `netutil.InetNtohl` on a little-endian host: the four bytes reversed. -/
def ntohl (x : UInt32) : UInt32 :=
  (x <<< 24) ||| ((x >>> 8 &&& 0xff) <<< 16) ||| ((x >>> 16 &&& 0xff) <<< 8) ||| (x >>> 24)

/-- The `volatile const` globals `Start` loads the object with. -/
structure NetRecvLatConsts where
  monoWallOffset : Int64
  toNetif : UInt64
  toTcpv4 : UInt64
  toUserCopy : UInt64
deriving DecidableEq, Repr

/-- The globals as declared: offset 0, thresholds 5, 10 and 115 ms. -/
def NetRecvLatConsts.declared : NetRecvLatConsts :=
  ⟨0, 5 * 1000 * 1000, 10 * 1000 * 1000, 115 * 1000 * 1000⟩

/-- The map `Start` passes to `bpf.LoadBpf`: the thresholds of the configuration in ms, times
10^6 in `uint64`. -/
def netRecvLatConsts (monoWallOffset : Int64) (toNetIf toTCPV4 toUserCopy : UInt64) :
    NetRecvLatConsts :=
  ⟨monoWallOffset, toNetIf * 1000 * 1000, toTCPV4 * 1000 * 1000, toUserCopy * 1000 * 1000⟩

/-- What the programs read of a packet: `skb->protocol`, `len` and `tstamp`, the state of its
socket (0 when it has none), and the IPv4 and TCP headers. -/
structure SkBuff where
  protocol : UInt16
  len : UInt32
  tstamp : UInt64
  skState : UInt8
  ipProtocol : UInt8
  saddr : UInt32
  daddr : UInt32
  source : UInt16
  dest : UInt16
  seq : UInt32
  ackSeq : UInt32
deriving DecidableEq, Repr

inductive SkbRcvWhere
  | toNetifRcv
  | toTcpv4Rcv
  | toUserCopy
deriving DecidableEq, Repr

def SkbRcvWhere.toUInt8 : SkbRcvWhere → UInt8
  | .toNetifRcv => 0
  | .toTcpv4Rcv => 1
  | .toUserCopy => 2

/-- `struct mix`, without the header it points to. -/
structure Mix where
  lat : UInt64
  state : UInt8
  rcvWhere : SkbRcvWhere
deriving DecidableEq, Repr

/-- What a program reads of the task it runs in: `bpf_get_current_pid_tgid` and
`bpf_get_current_comm`. -/
structure CurrentTask where
  tgidPid : UInt64
  comm : String
deriving DecidableEq, Repr

/-- `struct perf_event_t`; the comm is the name up to its first NUL. -/
structure NetRcvPerfEvent where
  comm : String
  latency : UInt64
  tgidPid : UInt64
  pktLen : UInt64
  sport : UInt16
  dport : UInt16
  saddr : UInt32
  daddr : UInt32
  seq : UInt32
  ackSeq : UInt32
  state : UInt8
  rcvWhere : UInt8
deriving DecidableEq, Repr

/-- `delta_now_skb_tstamp` at `bpf_ktime_get_ns()` = `now`: a packet not stamped has latency 0. -/
def deltaNowSkbTstamp (monoWallOffset : Int64) (now : UInt64) (skb : SkBuff) : UInt64 :=
  if skb.tstamp = 0 then 0 else now + monoWallOffset.toUInt64 - skb.tstamp

/-- `BPF_RATELIMIT(rate, 1, 100)`. -/
def netRecvLatRate : BpfRatelimit :=
  bpfRatelimit 1 100

/-- The event `fill_and_output_event` fills; only the copy to the user runs in the task that
receives the packet, and only there are the pid and comm read. -/
def NetRcvPerfEvent.ofMix (task : CurrentTask) (skb : SkBuff) (mix : Mix) : NetRcvPerfEvent :=
  let current : UInt64 × String :=
    if mix.rcvWhere = .toUserCopy then (task.tgidPid, task.comm) else (0, "")
  ⟨current.2, mix.lat, current.1, skb.len.toUInt64, skb.source, skb.dest, skb.saddr, skb.daddr,
    skb.seq, skb.ackSeq, mix.state, mix.rcvWhere.toUInt8⟩

/-- `fill_and_output_event`: the limiter after it and the event it sends. -/
def fillAndOutputEvent (rate : BpfRatelimit) (now : UInt64) (task : CurrentTask) (skb : SkBuff)
    (mix : Mix) : BpfRatelimit × Option NetRcvPerfEvent :=
  let limited := bpfRatelimited rate now
  if limited.1 then (limited.2, none) else (limited.2, some (.ofMix task skb mix))

/-- `netif_receive_skb_prog`, up to the event it fills. -/
def netifReceiveSkbProg (c : NetRecvLatConsts) (now : UInt64) (skb : SkBuff) : Option Mix :=
  if skb.protocol ≠ ntohs ethPIp then none
  else if skb.ipProtocol ≠ ipprotoTcp then none
  else
    let delta := deltaNowSkbTstamp c.monoWallOffset now skb
    if delta < c.toNetif then none else some ⟨delta, 0, .toNetifRcv⟩

/-- `tcp_v4_rcv_prog`, up to the event it fills: it checks neither protocol. -/
def tcpV4RcvProg (c : NetRecvLatConsts) (now : UInt64) (skb : SkBuff) : Option Mix :=
  let delta := deltaNowSkbTstamp c.monoWallOffset now skb
  if delta < c.toTcpv4 then none else some ⟨delta, skb.skState, .toTcpv4Rcv⟩

/-- `skb_copy_datagram_iovec_prog`, up to the event it fills. -/
def skbCopyDatagramIovecProg (c : NetRecvLatConsts) (now : UInt64) (skb : SkBuff) : Option Mix :=
  if skb.protocol ≠ ntohs ethPIp then none
  else if skb.ipProtocol ≠ ipprotoTcp then none
  else
    let delta := deltaNowSkbTstamp c.monoWallOffset now skb
    if delta < c.toUserCopy then none else some ⟨delta, skb.skState, .toUserCopy⟩

inductive NetRecvHook
  | netifReceiveSkb
  | tcpV4Rcv
  | skbCopyDatagramIovec
deriving DecidableEq, Repr

/-- A run of a program: its hook, `bpf_ktime_get_ns()`, the packet and the current task. -/
structure NetRecvHookRun where
  hook : NetRecvHook
  now : UInt64
  skb : SkBuff
  task : CurrentTask
deriving DecidableEq, Repr

def hookMix (c : NetRecvLatConsts) (e : NetRecvHookRun) : Option Mix :=
  match e.hook with
  | .netifReceiveSkb => netifReceiveSkbProg c e.now e.skb
  | .tcpV4Rcv => tcpV4RcvProg c e.now e.skb
  | .skbCopyDatagramIovec => skbCopyDatagramIovecProg c e.now e.skb

/-- A program run: the limiter after it and the event it sends. -/
def netRecvLatProg (c : NetRecvLatConsts) (rate : BpfRatelimit) (e : NetRecvHookRun) :
    BpfRatelimit × Option NetRcvPerfEvent :=
  match hookMix c e with
  | none => (rate, none)
  | some mix => fillAndOutputEvent rate e.now e.task e.skb mix

/-! ## The Go side -/

/-- `tcpStateMap`, from include/net/tcp_states.h. -/
def tcpStateMap : List String :=
  ["<nil>", "ESTABLISHED", "SYN_SENT", "SYN_RECV", "FIN_WAIT1", "FIN_WAIT2", "TIME_WAIT", "CLOSE",
    "CLOSE_WAIT", "LAST_ACK", "LISTEN", "CLOSING", "NEW_SYN_RECV"]

def userCopyCase : UInt8 := 2

def toWhere : List String :=
  ["TO_NETIF_RCV", "TO_TCPV4_RCV", "TO_USER_COPY"]

structure NetTracingData where
  comm : String
  pid : UInt64
  rcvWhere : String
  latency : UInt64
  state : String
  saddr : String
  daddr : String
  sport : UInt16
  dport : UInt16
  seq : UInt32
  ackSeq : UInt32
  pktLen : UInt64
deriving DecidableEq, Repr

/-- `netutil.InetNtop(ip).String()` on a little-endian host: the bytes of `ip` in memory order,
dotted. -/
def inetNtop (ip : UInt32) : String :=
  ".".intercalate ([ip, ip >>> 8, ip >>> 16, ip >>> 24].map fun b => toString (b &&& 0xff).toNat)

/-- How `procfsutil.NetNSInodeByPid` fails: the process is gone, or another error. -/
inductive NetNSError
  | enoent
  | other (err : String)
deriving DecidableEq, Repr

/-- What `Start` reads besides the events: the configuration's `IgnoreHost` and
`IgnoreContainerLevel`, the netns inode of a pid, the ID and QoS level of the container of a
netns inode (none when `GetContainerByNetNamespaceInode` finds none or fails), and whether
`conf.KnownIssueSearch` names `netrecvlat` for a title. -/
structure NetRecvLatEnv where
  ignoreHost : Bool
  ignoreContainerLevel : List Int
  netNSInodeByPid : UInt64 → Except NetNSError UInt64
  containerByNetNamespaceInode : UInt64 → Option (String × Int)
  knownIssue : String → Bool

/-- `ignore`: the container ID and whether to skip the event, or the error that ends `Start`. -/
def ignore (env : NetRecvLatEnv) (pid : UInt64) (hostNetnsInode : UInt64) :
    Except String (String × Bool) :=
  match env.netNSInodeByPid pid with
  -- ignore the missing program
  | .error .enoent => .ok ("", true)
  | .error (.other err) => .error ("get netns inode of pid " ++ toString pid ++ " failed: " ++ err)
  | .ok dstInode =>
    if env.ignoreHost ∧ dstInode = hostNetnsInode then .ok ("", true)
    else
      match env.containerByNetNamespaceInode dstInode with
      | none => .ok ("", false)
      | some (id, qos) => .ok (id, env.ignoreContainerLevel.contains qos)

/-- The title `Start` searches the known issues with. -/
def netRecvLatTitle (d : NetTracingData) : String :=
  "comm=" ++ d.comm ++ ":" ++ toString d.pid ++ " to=" ++ d.rcvWhere ++ " lat(ms)=" ++
    toString d.latency ++ " state=" ++ d.state ++ " saddr=" ++ d.saddr ++ " sport=" ++
    toString d.sport ++ " daddr=" ++ d.daddr ++ " dport=" ++ toString d.dport ++ " seq=" ++
    toString d.seq ++ " ackSeq=" ++ toString d.ackSeq ++ " pktLen=" ++ toString d.pktLen

/-- What the body of `Start`'s loop does with an event. -/
inductive NetRecvLatOutcome
  | save (containerID : String) (data : NetTracingData)
  | skip
  | fail (err : String)
  | panic
deriving DecidableEq, Repr

/-- The task of an event, as `Start` reads it: the comm, pid and container ID to save it under,
none for an event to skip, or the error of `ignore` that ends `Start`. Only the copy to the user
runs in the receiving task, and only its task is checked against the ignored ones. -/
def netRecvLatTask (env : NetRecvLatEnv) (hostNetNsInode : UInt64) (pd : NetRcvPerfEvent) :
    Except String (Option (String × UInt64 × String)) :=
  if pd.tgidPid ≠ 0 then
    let pid := pd.tgidPid >>> 32
    if pd.rcvWhere = userCopyCase then
      match ignore env pid hostNetNsInode with
      | .error err => .error err
      | .ok (_, true) => .ok none
      | .ok (cid, false) => .ok (some (pd.comm, pid, cid))
    else .ok (some (pd.comm, pid, ""))
  -- not in process context
  else .ok (some ("<nil>", 0, ""))

/-- The body of `Start`'s loop on an event read from the perf buffer; `hostNetNsInode` is the
netns inode of pid 1. An index out of `toWhere` or `tcpStateMap` is a panic. -/
def netRecvLatHandle (env : NetRecvLatEnv) (hostNetNsInode : UInt64) (pd : NetRcvPerfEvent) :
    NetRecvLatOutcome :=
  match netRecvLatTask env hostNetNsInode pd with
  | .error err => .fail err
  | .ok none => .skip
  | .ok (some (comm, pid, containerID)) =>
    match toWhere[pd.rcvWhere.toNat]?, tcpStateMap[pd.state.toNat]? with
    | some rcvWhere, some state =>
      let data : NetTracingData := ⟨comm, pid, rcvWhere, pd.latency / 1000 / 1000, state,
        inetNtop pd.saddr, inetNtop pd.daddr, ntohs pd.sport, ntohs pd.dport, ntohl pd.seq,
        ntohl pd.ackSeq, pd.pktLen⟩
      -- tcp state filter
      if state ≠ "ESTABLISHED" ∧ state ≠ "<nil>" then .skip
      -- known issue filter
      else if env.knownIssue (netRecvLatTitle data) then .skip
      else .save containerID data
    | _, _ => .panic

/-! ## What a program run sends -/

def NetRecvLatConsts.threshold (c : NetRecvLatConsts) : SkbRcvWhere → UInt64
  | .toNetifRcv => c.toNetif
  | .toTcpv4Rcv => c.toTcpv4
  | .toUserCopy => c.toUserCopy

def NetRecvHook.rcvWhere : NetRecvHook → SkbRcvWhere
  | .netifReceiveSkb => .toNetifRcv
  | .tcpV4Rcv => .toTcpv4Rcv
  | .skbCopyDatagramIovec => .toUserCopy

/-- Whether a run passes its program's checks of the protocols; `tcp_v4_rcv_prog` has none. -/
def NetRecvHookRun.checked (e : NetRecvHookRun) : Bool :=
  e.hook = .tcpV4Rcv || (e.skb.protocol = ntohs ethPIp && e.skb.ipProtocol = ipprotoTcp)

/-- The socket state a run's event carries: none at `netif_receive_skb`. -/
def NetRecvHookRun.state (e : NetRecvHookRun) : UInt8 :=
  if e.hook = .netifReceiveSkb then 0 else e.skb.skState

/-- The latency of a run on the clock `Start` estimated: negative when the packet is stamped
later than the estimate of now. -/
def NetRecvHookRun.clockGap (c : NetRecvLatConsts) (e : NetRecvHookRun) : Int :=
  (e.now.toNat : Int) + c.monoWallOffset.toInt - e.skb.tstamp.toNat

theorem toNat_deltaNowSkbTstamp (off : Int64) (now : UInt64) {skb : SkBuff} (hts : skb.tstamp ≠ 0) :
    ((deltaNowSkbTstamp off now skb).toNat : Int) =
      ((now.toNat : Int) + off.toInt - skb.tstamp.toNat) % 2 ^ 64 := by
  rw [deltaNowSkbTstamp, if_neg hts, UInt64.toNat_sub, UInt64.toNat_add]
  have ho := Go.toNat_toUInt64 off
  have hn := now.toNat_lt
  have ht := skb.tstamp.toNat_lt
  have hot := off.toUInt64.toNat_lt
  push_cast
  omega

theorem hookMix_eq (c : NetRecvLatConsts) (e : NetRecvHookRun) :
    hookMix c e =
      if e.checked ∧ c.threshold e.hook.rcvWhere ≤ deltaNowSkbTstamp c.monoWallOffset e.now e.skb then
        some ⟨deltaNowSkbTstamp c.monoWallOffset e.now e.skb, e.state, e.hook.rcvWhere⟩
      else none := by
  obtain ⟨hook, now, skb, task⟩ := e
  cases hook <;>
    simp only [hookMix, netifReceiveSkbProg, tcpV4RcvProg, skbCopyDatagramIovecProg,
      NetRecvHookRun.checked, NetRecvHookRun.state, NetRecvLatConsts.threshold, NetRecvHook.rcvWhere,
      ← UInt64.not_lt] <;>
    split_ifs <;> simp_all

theorem mem_netRecvLatProg {c : NetRecvLatConsts} {rate : BpfRatelimit} {e : NetRecvHookRun}
    {pd : NetRcvPerfEvent} (h : pd ∈ (netRecvLatProg c rate e).2) :
    ∃ mix, hookMix c e = some mix ∧ (bpfRatelimited rate e.now).1 = false ∧
      pd = .ofMix e.task e.skb mix := by
  unfold netRecvLatProg at h
  cases hm : hookMix c e with
  | none => rw [hm] at h; exact absurd h (Option.not_mem_none pd)
  | some mix =>
    rw [hm] at h
    unfold fillAndOutputEvent at h
    dsimp only at h
    split_ifs at h with hl
    · exact absurd h (Option.not_mem_none pd)
    · exact ⟨mix, rfl, by simpa using hl, (Option.mem_some_iff.1 h).symm⟩

/-! ## What `Start` saves -/

theorem netRecvLatTask_pid {env : NetRecvLatEnv} {host : UInt64} {pd : NetRcvPerfEvent}
    {comm cid : String} {pid : UInt64} (h : netRecvLatTask env host pd = .ok (some (comm, pid, cid)))
    (hpid : pid ≠ 0) : pd.tgidPid ≠ 0 := by
  unfold netRecvLatTask at h
  split_ifs at h with ht
  · exact ht
  · exact ht
  · cases h
    exact absurd rfl hpid

theorem netRecvLatHandle_eq_save {env : NetRecvLatEnv} {host : UInt64} {pd : NetRcvPerfEvent}
    {cid : String} {d : NetTracingData} (h : netRecvLatHandle env host pd = .save cid d) :
    (d.state = "ESTABLISHED" ∨ d.state = "<nil>") ∧ toWhere[pd.rcvWhere.toNat]? = some d.rcvWhere ∧
      d.latency = pd.latency / 1000 / 1000 ∧ (d.pid ≠ 0 → pd.tgidPid ≠ 0) ∧
      env.knownIssue (netRecvLatTitle d) = false := by
  unfold netRecvLatHandle at h
  cases ht : netRecvLatTask env host pd with
  | error err => rw [ht] at h; cases h
  | ok o =>
    rw [ht] at h
    obtain _ | ⟨comm, pid, cid'⟩ := o
    · cases h
    dsimp only at h
    cases hw : toWhere[pd.rcvWhere.toNat]? with
    | none => rw [hw] at h; cases h
    | some w =>
      cases hs : tcpStateMap[pd.state.toNat]? with
      | none => rw [hw, hs] at h; cases h
      | some st =>
        rw [hw, hs] at h
        dsimp only at h
        split_ifs at h with hst hk
        cases h
        refine ⟨?_, rfl, rfl, netRecvLatTask_pid ht, by simpa using hk⟩
        by_contra hne
        exact hst (not_or.1 hne)

theorem netRecvLatHandle_ne_panic (env : NetRecvLatEnv) (host : UInt64) {pd : NetRcvPerfEvent}
    (hw : pd.rcvWhere.toNat < toWhere.length) (hs : pd.state.toNat < tcpStateMap.length) :
    netRecvLatHandle env host pd ≠ .panic := by
  unfold netRecvLatHandle
  rcases netRecvLatTask env host pd with err | _ | ⟨comm, pid, cid⟩
  · exact fun h => by cases h
  · exact fun h => by cases h
  · dsimp only
    rw [List.getElem?_eq_getElem hw, List.getElem?_eq_getElem hs]
    dsimp only
    split_ifs <;> exact fun h => by cases h

/-- The events the programs send over a run of them, from the limiter `rate`. -/
def netRecvLatEvents (c : NetRecvLatConsts) (rate : BpfRatelimit) (es : List NetRecvHookRun) :
    List NetRcvPerfEvent :=
  Machine.emitted (fun rate e => (netRecvLatProg c rate e).1)
    (fun rate e => (netRecvLatProg c rate e).2.toList) rate es

/-- An event the programs send: of a run that passed its checks, at its stage, with the latency
it took, which is at least the stage's threshold. -/
theorem mem_netRecvLatEvents {c : NetRecvLatConsts} {rate : BpfRatelimit} {es : List NetRecvHookRun}
    {pd : NetRcvPerfEvent} (h : pd ∈ netRecvLatEvents c rate es) :
    ∃ e ∈ es, e.checked = true ∧
      c.threshold e.hook.rcvWhere ≤ deltaNowSkbTstamp c.monoWallOffset e.now e.skb ∧
      pd = .ofMix e.task e.skb ⟨deltaNowSkbTstamp c.monoWallOffset e.now e.skb, e.state, e.hook.rcvWhere⟩ := by
  obtain ⟨rate', e, he, hpd⟩ := Machine.exists_of_mem_emitted h
  obtain ⟨mix, hmix, -, rfl⟩ := mem_netRecvLatProg (Option.mem_toList.1 hpd)
  rw [hookMix_eq] at hmix
  split_ifs at hmix with hc
  cases hmix
  exact ⟨e, he, hc.1, hc.2, rfl⟩

theorem SkbRcvWhere.toNat_toUInt8_lt (w : SkbRcvWhere) : w.toUInt8.toNat < toWhere.length := by
  cases w <;> decide

/-- Over any run of the programs and any environment, `Start` panics on none of the events
sent when every socket the programs read is in a state of `tcpStateMap`; every record it saves
comes from a run of the stage it names, is of an `ESTABLISHED` socket or of none, has that run's
latency in ms, at least the stage's threshold in ms, and names a process only at the copy to
the user. -/
theorem netRecvLat_saved_over_threshold (c : NetRecvLatConsts) (env : NetRecvLatEnv)
    (host : UInt64) (rate : BpfRatelimit) {es : List NetRecvHookRun}
    (hstate : ∀ e ∈ es, e.skb.skState.toNat < tcpStateMap.length) :
    ∀ o ∈ (netRecvLatEvents c rate es).map (netRecvLatHandle env host),
      o ≠ .panic ∧ ∀ cid d, o = .save cid d →
        ∃ e ∈ es, (d.state = "ESTABLISHED" ∨ d.state = "<nil>") ∧
          toWhere[e.hook.rcvWhere.toUInt8.toNat]? = some d.rcvWhere ∧
          d.latency.toNat = (deltaNowSkbTstamp c.monoWallOffset e.now e.skb).toNat / 1000000 ∧
          (c.threshold e.hook.rcvWhere).toNat / 1000000 ≤ d.latency.toNat ∧
          (d.pid ≠ 0 → e.hook.rcvWhere = .toUserCopy) := by
  intro o ho
  obtain ⟨pd, hpd, rfl⟩ := List.mem_map.1 ho
  obtain ⟨e, he, -, hthr, rfl⟩ := mem_netRecvLatEvents hpd
  have hst : e.state.toNat < tcpStateMap.length := by
    unfold NetRecvHookRun.state
    split_ifs
    · decide
    · exact hstate e he
  refine ⟨netRecvLatHandle_ne_panic env host (SkbRcvWhere.toNat_toUInt8_lt _) hst,
    fun cid d hsave => ?_⟩
  obtain ⟨hstate', hw, hlat, hpid, -⟩ := netRecvLatHandle_eq_save hsave
  have hms : d.latency.toNat = (deltaNowSkbTstamp c.monoWallOffset e.now e.skb).toNat / 1000000 := by
    rw [hlat, UInt64.toNat_div, UInt64.toNat_div, Nat.div_div_eq_div_mul]
    rfl
  refine ⟨e, he, hstate', hw, hms, ?_, fun hp => ?_⟩
  · rw [hms]
    exact Nat.div_le_div_right (UInt64.le_iff_toNat_le.1 hthr)
  · have ht := hpid hp
    by_contra hw'
    exact ht (by simp [NetRcvPerfEvent.ofMix, hw'])

theorem netRecvLat_saved_over_threshold_declared :
    let skb : SkBuff := ⟨ntohs ethPIp, 60, 1000, 1, ipprotoTcp, 0x0100007f, 0x0100007f, 0x5000,
      0x1f90, 1, 1⟩
    let es : List NetRecvHookRun :=
      [⟨.netifReceiveSkb, 10000000, skb, ⟨0, ""⟩⟩, ⟨.skbCopyDatagramIovec, 200000000, skb, ⟨(42 : UInt64) <<< 32, "app"⟩⟩]
    (∀ e ∈ es, e.skb.skState.toNat < tcpStateMap.length) ∧
      ∀ o ∈ (netRecvLatEvents .declared netRecvLatRate es).map
          (netRecvLatHandle ⟨false, [], fun _ => .ok 7, fun _ => none, fun _ => false⟩ 1),
        o ≠ .panic ∧ ∀ cid d, o = .save cid d →
          ∃ e ∈ es, (d.state = "ESTABLISHED" ∨ d.state = "<nil>") ∧
            toWhere[e.hook.rcvWhere.toUInt8.toNat]? = some d.rcvWhere ∧
            d.latency.toNat =
              (deltaNowSkbTstamp NetRecvLatConsts.declared.monoWallOffset e.now e.skb).toNat / 1000000 ∧
            (NetRecvLatConsts.declared.threshold e.hook.rcvWhere).toNat / 1000000 ≤ d.latency.toNat ∧
            (d.pid ≠ 0 → e.hook.rcvWhere = .toUserCopy) :=
  ⟨by decide, netRecvLat_saved_over_threshold _ _ _ _ (by decide)⟩

/-! ## A packet stamped ahead of the estimated clock -/

theorem toNat_deltaNowSkbTstamp_of_ahead (c : NetRecvLatConsts) {e : NetRecvHookRun}
    (hts : e.skb.tstamp ≠ 0) (hahead : e.clockGap c < 0) (hnear : -2 ^ 63 ≤ e.clockGap c) :
    ((deltaNowSkbTstamp c.monoWallOffset e.now e.skb).toNat : Int) = 2 ^ 64 + e.clockGap c := by
  rw [toNat_deltaNowSkbTstamp _ _ hts]
  unfold NetRecvHookRun.clockGap at hahead hnear ⊢
  omega

/-- A TCP/IPv4 packet that the kernel stamped later than the clock `Start` estimated, by less
than 2^63 ns (an offset estimated too small, or the wall clock set forward since), is reported
at `netif_receive_skb` whatever its real latency, when the limiter lets it through and the
threshold is below 2^63 ns; `Start` saves it, unless a known issue matches, with a latency of
(2^64 - gap) / 10^6 ms: at least 9223372036854 ms, some 292 years. -/
theorem netRecvLat_stamp_ahead_saved (c : NetRecvLatConsts) (env : NetRecvLatEnv) (host : UInt64)
    (rate : BpfRatelimit) {e : NetRecvHookRun} (hhook : e.hook = .netifReceiveSkb)
    (hproto : e.skb.protocol = ntohs ethPIp) (htcp : e.skb.ipProtocol = ipprotoTcp)
    (hts : e.skb.tstamp ≠ 0) (hahead : e.clockGap c < 0) (hnear : -2 ^ 63 ≤ e.clockGap c)
    (hthr : c.toNetif.toNat ≤ 2 ^ 63) (hrate : (bpfRatelimited rate e.now).1 = false) :
    ∃ d : NetTracingData, (netRecvLatProg c rate e).2.map (netRecvLatHandle env host) =
        some (if env.knownIssue (netRecvLatTitle d) then .skip else .save "" d) ∧
      (d.latency.toNat : Int) = (2 ^ 64 + e.clockGap c) / 1000000 ∧
      9223372036854 ≤ d.latency.toNat := by
  have hdelta := toNat_deltaNowSkbTstamp_of_ahead c hts hahead hnear
  set delta := deltaNowSkbTstamp c.monoWallOffset e.now e.skb with hd
  have hpast : c.threshold e.hook.rcvWhere ≤ delta := by
    rw [hhook, UInt64.le_iff_toNat_le]
    show c.toNetif.toNat ≤ delta.toNat
    omega
  have hchecked : e.checked = true := by simp [NetRecvHookRun.checked, hhook, hproto, htcp]
  have h1000 : (1000 : UInt64).toNat = 1000 := rfl
  have hmix : hookMix c e = some ⟨delta, 0, .toNetifRcv⟩ := by
    rw [hookMix_eq, if_pos ⟨hchecked, hpast⟩]
    simp [NetRecvHookRun.state, hhook, NetRecvHook.rcvWhere, hd]
  have hprog : (netRecvLatProg c rate e).2 = some (.ofMix e.task e.skb ⟨delta, 0, .toNetifRcv⟩) := by
    rw [netRecvLatProg, hmix]
    simp [fillAndOutputEvent, hrate]
  refine ⟨⟨"<nil>", 0, "TO_NETIF_RCV", delta / 1000 / 1000, "<nil>", inetNtop e.skb.saddr,
    inetNtop e.skb.daddr, ntohs e.skb.source, ntohs e.skb.dest, ntohl e.skb.seq, ntohl e.skb.ackSeq,
    e.skb.len.toUInt64⟩, ?_, ?_, ?_⟩
  · -- not in process context, at stage 0 and state 0
    rw [hprog, Option.map_some]
    rfl
  · simp only [UInt64.toNat_div, h1000]
    omega
  · simp only [UInt64.toNat_div, h1000]
    omega

theorem netRecvLat_stamp_ahead_saved_1us :
    let e : NetRecvHookRun := ⟨.netifReceiveSkb, 1000000000,
      ⟨ntohs ethPIp, 60, 1000001000, 0, ipprotoTcp, 0x0100007f, 0x0100007f, 0x5000, 0x1f90, 1, 1⟩,
      ⟨0, ""⟩⟩
    let env : NetRecvLatEnv := ⟨false, [], fun _ => .ok 7, fun _ => none, fun _ => false⟩
    e.hook = .netifReceiveSkb ∧ e.skb.protocol = ntohs ethPIp ∧ e.skb.ipProtocol = ipprotoTcp ∧
      e.skb.tstamp ≠ 0 ∧ e.clockGap .declared < 0 ∧ -2 ^ 63 ≤ e.clockGap .declared ∧
      NetRecvLatConsts.declared.toNetif.toNat ≤ 2 ^ 63 ∧ (bpfRatelimited netRecvLatRate e.now).1 = false ∧
      ∃ d : NetTracingData, (netRecvLatProg .declared netRecvLatRate e).2.map (netRecvLatHandle env 1) =
          some (if env.knownIssue (netRecvLatTitle d) then .skip else .save "" d) ∧
        (d.latency.toNat : Int) = (2 ^ 64 + e.clockGap .declared) / 1000000 ∧
        9223372036854 ≤ d.latency.toNat := by
  intro e env
  have hgap : e.clockGap .declared = -1000 := by decide
  have hrate : (bpfRatelimited netRecvLatRate e.now).1 = false := by decide
  exact ⟨rfl, rfl, rfl, by decide, by rw [hgap]; decide, by rw [hgap]; decide, by decide, hrate,
    netRecvLat_stamp_ahead_saved .declared env 1 netRecvLatRate rfl rfl rfl (by decide)
      (by rw [hgap]; decide) (by rw [hgap]; decide) (by decide) hrate⟩

/-! ## The offset between the two clocks

`bpf_ktime_get_ns()` reads `CLOCK_MONOTONIC`, while the kernel stamps a packet with
`CLOCK_REALTIME`. `estMonoWallOffset` reads the wall clock, the monotonic clock and the wall
clock again, ten times, and keeps the pass whose two wall readings are closest, taking the
offset as the middle of its bracket less the monotonic reading. -/

/-- One pass of `estMonoWallOffset`'s loop: `unix.ClockGettime` of `CLOCK_REALTIME`,
`CLOCK_MONOTONIC` and `CLOCK_REALTIME` again, each the nanoseconds it read
(`unix.TimespecToNsec`) or its error. -/
structure ClockReadings where
  t1 : Except String Int64
  t2 : Except String Int64
  t3 : Except String Int64

/-- `%w` of `fmt.Errorf`, on an error that may be nil. -/
def wrapError : Except String Int64 → String
  | .error err => err
  | .ok _ => "%!w(<nil>)"

/-- The loop of `estMonoWallOffset` from pass `i`, with the best delta and its offset so far. -/
def estMonoWallOffsetLoop : ℕ → Int64 → Int64 → List ClockReadings → Except String Int64
  | _, _, offset, [] => .ok offset
  | i, bestDelta, offset, r :: rs =>
    match r.t1, r.t2, r.t3 with
    | .ok t1, .ok t2, .ok t3 =>
      let delta := t3 - t1
      if i = 0 ∨ delta < bestDelta then estMonoWallOffsetLoop (i + 1) delta ((t3 + t1) / 2 - t2) rs
      else estMonoWallOffsetLoop (i + 1) bestDelta offset rs
    | _, _, _ => .error (wrapError r.t1 ++ ", " ++ wrapError r.t2 ++ ", " ++ wrapError r.t3)

/-- `estMonoWallOffset`, over the readings of its ten passes. -/
def estMonoWallOffset (readings : List ClockReadings) : Except String Int64 :=
  estMonoWallOffsetLoop 0 0 0 (readings.take 10)

/-- The readings of a pass that read all three clocks. -/
def ClockReadings.ofOk (r : Int64 × Int64 × Int64) : ClockReadings :=
  ⟨.ok r.1, .ok r.2.1, .ok r.2.2⟩

/-- The width of a pass's bracket of wall readings. -/
def readingDelta (r : Int64 × Int64 × Int64) : Int64 :=
  r.2.2 - r.1

def readingOffset (r : Int64 × Int64 × Int64) : Int64 :=
  (r.2.2 + r.1) / 2 - r.2.1

/-- After a first pass, the loop keeps the first pass of the narrowest bracket among those so
far: the one it holds and those still to come. -/
theorem estMonoWallOffsetLoop_min :
    ∀ (ts : List (Int64 × Int64 × Int64)) (r₀ : Int64 × Int64 × Int64) (i : ℕ), i ≠ 0 →
      ∃ r ∈ r₀ :: ts, estMonoWallOffsetLoop i (readingDelta r₀) (readingOffset r₀)
          (ts.map .ofOk) = .ok (readingOffset r) ∧ ∀ r' ∈ r₀ :: ts, readingDelta r ≤ readingDelta r'
  | [], r₀, _, _ => ⟨r₀, List.mem_singleton_self _, rfl, fun r' h => by
      rw [List.mem_singleton.1 h]
      exact Int64.le_iff_toInt_le.2 le_rfl⟩
  | t :: ts, r₀, i, hi => by
    rw [List.map_cons, estMonoWallOffsetLoop]
    dsimp only [ClockReadings.ofOk]
    by_cases hlt : t.2.2 - t.1 < readingDelta r₀
    · -- a narrower bracket: the loop holds `t` from here on
      rw [if_pos (Or.inr hlt)]
      obtain ⟨r, hr, heq, hmin⟩ := estMonoWallOffsetLoop_min ts t (i + 1) (Nat.succ_ne_zero i)
      refine ⟨r, List.mem_cons_of_mem _ hr, heq, fun r' hr' => ?_⟩
      rcases List.mem_cons.1 hr' with rfl | hr'
      · have := hmin t List.mem_cons_self
        rw [Int64.le_iff_toInt_le] at this ⊢
        rw [Int64.lt_iff_toInt_lt] at hlt
        exact le_of_lt (lt_of_le_of_lt this hlt)
      · exact hmin r' hr'
    · rw [if_neg (not_or.2 ⟨hi, hlt⟩)]
      obtain ⟨r, hr, heq, hmin⟩ := estMonoWallOffsetLoop_min ts r₀ (i + 1) (Nat.succ_ne_zero i)
      refine ⟨r, ?_, heq, fun r' hr' => ?_⟩
      · rcases List.mem_cons.1 hr with rfl | hr
        · exact List.mem_cons_self
        · exact List.mem_cons_of_mem _ (List.mem_cons_of_mem _ hr)
      · -- `t` is no narrower than `r₀`, which is no narrower than `r`
        have h₀ := hmin r₀ List.mem_cons_self
        rcases List.mem_cons.1 hr' with h | hr'
        · rw [h]
          exact h₀
        rcases List.mem_cons.1 hr' with h | hr'
        · rw [h]
          rw [Int64.le_iff_toInt_le] at h₀ ⊢
          rw [Int64.lt_iff_toInt_lt, not_lt] at hlt
          exact le_trans h₀ hlt
        · exact hmin r' (List.mem_cons_of_mem _ hr')

theorem estMonoWallOffset_min {ts : List (Int64 × Int64 × Int64)} (hne : ts ≠ []) :
    ∃ r ∈ ts.take 10, estMonoWallOffset (ts.map .ofOk) = .ok (readingOffset r) ∧
      ∀ r' ∈ ts.take 10, readingDelta r ≤ readingDelta r' := by
  obtain ⟨t, ts', rfl⟩ := List.exists_cons_of_ne_nil hne
  rw [estMonoWallOffset, ← List.map_take, List.take_succ_cons, List.map_cons, estMonoWallOffsetLoop]
  dsimp only [ClockReadings.ofOk]
  rw [if_pos (Or.inl rfl)]
  exact estMonoWallOffsetLoop_min (ts'.take 9) t 1 one_ne_zero

/-- A pass's readings lie within 2^62 ns of the epoch and of boot, as they do for some
hundred years: no operation of the loop wraps. -/
def ReadingsInRange (r : Int64 × Int64 × Int64) : Prop :=
  0 ≤ r.1.toInt ∧ r.1.toInt < 2 ^ 62 ∧ 0 ≤ r.2.1.toInt ∧ r.2.1.toInt < 2 ^ 62 ∧
    0 ≤ r.2.2.toInt ∧ r.2.2.toInt < 2 ^ 62

section Readings

variable {r : Int64 × Int64 × Int64}

theorem toInt_readingDelta (h : ReadingsInRange r) :
    (readingDelta r).toInt = r.2.2.toInt - r.1.toInt := by
  obtain ⟨h₁, h₁', -, -, h₃, h₃'⟩ := h
  exact Go.toInt_sub_of_mem (by omega) (by omega)

theorem toInt_readingOffset (h : ReadingsInRange r) :
    (readingOffset r).toInt = (r.2.2.toInt + r.1.toInt) / 2 - r.2.1.toInt := by
  obtain ⟨h₁, h₁', h₂, h₂', h₃, h₃'⟩ := h
  have hsum : (r.2.2 + r.1).toInt = r.2.2.toInt + r.1.toInt :=
    Go.toInt_add_of_mem (by omega) (by omega)
  have hhalf : ((r.2.2 + r.1) / 2).toInt = (r.2.2.toInt + r.1.toInt) / 2 := by
    rw [Go.toInt_div_two (by omega), hsum]
  rw [readingOffset, Go.toInt_sub_of_mem (by omega) (by omega), hhalf]

end Readings

/-- When every clock reads, within range, and the wall clock runs at a fixed offset `O` from the
monotonic one, so that each pass's monotonic reading falls, offset, between its two wall
readings: the offset `estMonoWallOffset` returns is within half the width of every pass's
bracket, plus 1 ns of rounding, of `O`. -/
theorem estMonoWallOffset_error {ts : List (Int64 × Int64 × Int64)} (hne : ts ≠ []) (O : Int)
    (hrange : ∀ r ∈ ts, ReadingsInRange r)
    (hbracket : ∀ r ∈ ts, r.1.toInt ≤ r.2.1.toInt + O ∧ r.2.1.toInt + O ≤ r.2.2.toInt) :
    ∃ off, estMonoWallOffset (ts.map .ofOk) = .ok off ∧
      ∀ r ∈ ts.take 10, |off.toInt - O| ≤ (r.2.2.toInt - r.1.toInt) / 2 + 1 := by
  obtain ⟨r, hr, heq, hmin⟩ := estMonoWallOffset_min hne
  refine ⟨_, heq, fun r' hr' => ?_⟩
  have hin := hrange r (List.mem_of_mem_take hr)
  have hin' := hrange r' (List.mem_of_mem_take hr')
  obtain ⟨hlo, hhi⟩ := hbracket r (List.mem_of_mem_take hr)
  have hnarrow := Int64.le_iff_toInt_le.1 (hmin r' hr')
  rw [toInt_readingDelta hin, toInt_readingDelta hin'] at hnarrow
  rw [toInt_readingOffset hin, abs_le]
  constructor <;> omega

theorem estMonoWallOffset_error_two_passes :
    let ts : List (Int64 × Int64 × Int64) := [(1000, 10, 1030), (2000, 1015, 2010)]
    ts ≠ [] ∧ (∀ r ∈ ts, ReadingsInRange r) ∧
      (∀ r ∈ ts, r.1.toInt ≤ r.2.1.toInt + 990 ∧ r.2.1.toInt + 990 ≤ r.2.2.toInt) ∧
      ∃ off, estMonoWallOffset (ts.map .ofOk) = .ok off ∧
        ∀ r ∈ ts.take 10, |off.toInt - 990| ≤ (r.2.2.toInt - r.1.toInt) / 2 + 1 :=
  let ts : List (Int64 × Int64 × Int64) := [(1000, 10, 1030), (2000, 1015, 2010)]
  have hrange : ∀ r ∈ ts, ReadingsInRange r := by simp [ts, ReadingsInRange]
  have hbracket : ∀ r ∈ ts, r.1.toInt ≤ r.2.1.toInt + 990 ∧ r.2.1.toInt + 990 ≤ r.2.2.toInt := by
    simp [ts]
  ⟨by decide, hrange, hbracket, estMonoWallOffset_error (by decide) 990 hrange hbracket⟩

end Huatuo.Events
