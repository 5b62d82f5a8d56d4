import Huatuo.Lib.Keyed
import Huatuo.Lib.Go

/-! The link-status events (core/events/netdev_events.go). At start the flags of every
whitelisted link are recorded; each `RTM_NEWLINK` of a recorded interface is compared with the
flags recorded last, and every change of `IFF_UP` or `IFF_LOWER_UP` is counted per status and
interface, and saved. The handlers run one at a time, on the loop of `Start`. -/
namespace Huatuo.Events

open Lib

inductive LinkStatusType
  | linkStatusUnknown
  | linkStatusAdminUp
  | linkStatusAdminDown
  | linkStatusCarrierUp
  | linkStatusCarrierDown
deriving DecidableEq, Repr

/-- The statuses below `maxLinkStatus`, each given a map by `newNetdevTracing`. -/
def LinkStatusType.all : List LinkStatusType :=
  [.linkStatusUnknown, .linkStatusAdminUp, .linkStatusAdminDown, .linkStatusCarrierUp,
    .linkStatusCarrierDown]

def LinkStatusType.toString : LinkStatusType → String
  | .linkStatusUnknown => "linkstatus_unknown"
  | .linkStatusAdminUp => "linkstatus_adminup"
  | .linkStatusAdminDown => "linkstatus_admindown"
  | .linkStatusCarrierUp => "linkstatus_carrierup"
  | .linkStatusCarrierDown => "linkstatus_carrierdown"

def iffUp : UInt32 := 0x1

def iffLowerUp : UInt32 := 0x10000

def flags2status (flags change : UInt32) : List LinkStatusType :=
  (if change &&& iffUp ≠ 0 then
      [if flags &&& iffUp ≠ 0 then .linkStatusAdminUp else .linkStatusAdminDown]
    else []) ++
  (if change &&& iffLowerUp ≠ 0 then
      [if flags &&& iffLowerUp ≠ 0 then .linkStatusCarrierUp else .linkStatusCarrierDown]
    else [])

/-- What the handlers read of a link: `Attrs()`'s `Name`, `RawFlags`, `Index` and
`HardwareAddr`. -/
structure Link where
  name : String
  rawFlags : UInt32
  index : Int
  hardwareAddr : String
deriving DecidableEq, Repr

structure NetdevEventData where
  linkFlags : UInt32
  flagsChange : UInt32
  ifname : String
  index : Int
  linkStatus : String
  mac : String
  atStart : Bool
deriving DecidableEq, Repr

/-- `netdevTracing`: `ifFlagsMap`, `metricsLinkStatusCountMap` (a map for every status, from
`newNetdevTracing` on) and the events handed to `storage.Save`. -/
structure NetdevTracing where
  ifFlagsMap : List (String × UInt32)
  metricsLinkStatusCountMap : LinkStatusType → List (String × Nat)
  saved : List NetdevEventData

def newNetdevTracing : NetdevTracing :=
  ⟨[], fun _ => [], []⟩

/-- `metricsLinkStatusCountMap[status][ifname]`: 0 for an interface with no entry. -/
def NetdevTracing.count (nt : NetdevTracing) (status : LinkStatusType) (ifname : String) : Nat :=
  ((nt.metricsLinkStatusCountMap status).lookup ifname).getD 0

/-- `metricsLinkStatusCountMap[status][ifname]++`. -/
def NetdevTracing.incr (nt : NetdevTracing) (status : LinkStatusType) (ifname : String) :
    NetdevTracing :=
  { nt with
    metricsLinkStatusCountMap := Function.update nt.metricsLinkStatusCountMap status
      (Keyed.set (nt.metricsLinkStatusCountMap status) ifname (nt.count status ifname + 1)) }

def NetdevEventData.addStatus (data : NetdevEventData) (status : LinkStatusType) :
    NetdevEventData :=
  { data with
    linkStatus := if data.linkStatus = "" then status.toString
      else data.linkStatus ++ ", " ++ status.toString }

/-- `record`: each status of the change counted for the interface and named in the event, and
the event saved when it is not the scan at start and names a status. -/
def record (nt : NetdevTracing) (data : NetdevEventData) : NetdevTracing :=
  let counted := (flags2status data.linkFlags data.flagsChange).foldl
    (fun acc status => (acc.1.incr status acc.2.ifname, acc.2.addStatus status)) (nt, data)
  if !counted.2.atStart ∧ counted.2.linkStatus ≠ "" then
    { counted.1 with saved := counted.1.saved ++ [counted.2] }
  else counted.1

/-- `checkLinkStatus` on the links `netlink.LinkList` gave: the flags of every whitelisted link
recorded, and the link recorded as seen at start. -/
def checkLinkStatus (whitelist : List String) (links : List Link) (nt : NetdevTracing) :
    NetdevTracing :=
  links.foldl (fun nt link =>
    if link.name ∈ whitelist then
      let nt := { nt with ifFlagsMap := Keyed.set nt.ifFlagsMap link.name link.rawFlags }
      record nt ⟨link.rawFlags, 0, link.name, link.index, "", link.hardwareAddr, true⟩
    else nt) nt

/-- `handleEvent`: the change from the flags recorded last, which the new ones replace. -/
def handleEvent (nt : NetdevTracing) (link : Link) : NetdevTracing :=
  let currFlags := link.rawFlags
  let lastFlags := (nt.ifFlagsMap.lookup link.name).getD 0
  let change := currFlags ^^^ lastFlags
  let nt := { nt with ifFlagsMap := Keyed.set nt.ifFlagsMap link.name currFlags }
  record nt ⟨currFlags, change, link.name, link.index, "", link.hardwareAddr, false⟩

inductive MsgType
  | nlmsgError
  | rtmNewlink
  | other (type : Nat)
deriving DecidableEq, Repr

structure LinkUpdate where
  type : MsgType
  link : Link
deriving DecidableEq, Repr

/-- The loop of `Start` over the updates until the channel closes; it stops with an error at
an `NLMSG_ERROR`. -/
def startLoop (nt : NetdevTracing) : List LinkUpdate → NetdevTracing × Except String Unit
  | [] => (nt, .ok ())
  | u :: us =>
    match u.type with
    | .nlmsgError => (nt, .error "NLMSG_ERROR")
    | .rtmNewlink =>
      -- a new interface is not followed
      if (nt.ifFlagsMap.lookup u.link.name).isSome then startLoop (handleEvent nt u.link) us
      else startLoop nt us
    | .other _ => startLoop nt us

/-- `netdevTracing.Start` on the tracer `newNetdevTracing` made: `links` is what
`netlink.LinkList` gives, `subscribe` what `netlink.LinkSubscribe` gives. -/
def start (whitelist : List String) (links : Except String (List Link))
    (subscribe : Except String Unit) (updates : List LinkUpdate) : NetdevTracing × Except String Unit :=
  match links with
  | .error e => (newNetdevTracing, .error e)
  | .ok links =>
    let nt := checkLinkStatus whitelist links newNetdevTracing
    match subscribe with
    | .error e => (nt, .error e)
    | .ok () => startLoop nt updates

/-- `Update`: a gauge named after each status for each interface it has counted, with its
count and the interface as `device`. -/
def update (nt : NetdevTracing) : List (String × Nat × String) :=
  LinkStatusType.all.flatMap fun typ =>
    (nt.metricsLinkStatusCountMap typ).map fun e => (typ.toString, e.2, e.1)

/-! ## What the counters count

A status reports one flag turning one way: `IFF_UP` on or off, `IFF_LOWER_UP` on or off. Over
a sequence of flag words, its count is the number of steps where its flag turns its way. -/

def hasFlag (flags bit : UInt32) : Bool :=
  flags &&& bit ≠ 0

/-- The flag a status reports, and whether it reports it turning on. -/
def LinkStatusType.reports : LinkStatusType → Option (UInt32 × Bool)
  | .linkStatusUnknown => none
  | .linkStatusAdminUp => some (iffUp, true)
  | .linkStatusAdminDown => some (iffUp, false)
  | .linkStatusCarrierUp => some (iffLowerUp, true)
  | .linkStatusCarrierDown => some (iffLowerUp, false)

/-- Whether going from `prev` to `curr` turns the status's flag its way. -/
def LinkStatusType.turnsAt (s : LinkStatusType) (prev curr : UInt32) : Bool :=
  match s.reports with
  | none => false
  | some (bit, on) => hasFlag prev bit != on && hasFlag curr bit == on

/-- The steps of a sequence of flag words, after `prev`, where the status's flag turns its
way. -/
def LinkStatusType.turns (s : LinkStatusType) : UInt32 → List UInt32 → Nat
  | _, [] => 0
  | prev, f :: fs => (if s.turnsAt prev f then 1 else 0) + s.turns f fs

section Flags

theorem hasFlag_xor_iffUp (a b : UInt32) :
    ((a ^^^ b) &&& iffUp ≠ 0) ↔ (hasFlag a iffUp ≠ hasFlag b iffUp) := by
  rw [Go.xor_and_ne_zero_iff (k := 0) rfl]
  simp only [hasFlag]
  by_cases ha : a &&& iffUp ≠ 0 <;> by_cases hb : b &&& iffUp ≠ 0 <;> simp [ha, hb]

theorem hasFlag_xor_iffLowerUp (a b : UInt32) :
    ((a ^^^ b) &&& iffLowerUp ≠ 0) ↔ (hasFlag a iffLowerUp ≠ hasFlag b iffLowerUp) := by
  rw [Go.xor_and_ne_zero_iff (k := 16) rfl]
  simp only [hasFlag]
  by_cases ha : a &&& iffLowerUp ≠ 0 <;> by_cases hb : b &&& iffLowerUp ≠ 0 <;> simp [ha, hb]

theorem count_flags2status (last curr : UInt32) (s : LinkStatusType) :
    (flags2status curr (curr ^^^ last)).count s = if s.turnsAt last curr then 1 else 0 := by
  have hup := hasFlag_xor_iffUp curr last
  have hlow := hasFlag_xor_iffLowerUp curr last
  have hcu : (curr &&& iffUp ≠ 0) ↔ hasFlag curr iffUp := by simp [hasFlag]
  have hcl : (curr &&& iffLowerUp ≠ 0) ↔ hasFlag curr iffLowerUp := by simp [hasFlag]
  unfold flags2status
  rw [if_congr hup rfl rfl, if_congr hlow rfl rfl]
  simp only [hcu, hcl]
  cases s <;> simp only [LinkStatusType.turnsAt, LinkStatusType.reports] <;>
    by_cases h1 : hasFlag curr iffUp <;> by_cases h2 : hasFlag last iffUp <;>
    by_cases h3 : hasFlag curr iffLowerUp <;> by_cases h4 : hasFlag last iffLowerUp <;>
    simp [h1, h2, h3, h4]

theorem flags2status_zero (flags : UInt32) : flags2status flags 0 = [] := by
  simp [flags2status]

end Flags

section Record

variable (nt : NetdevTracing) (data : NetdevEventData)

theorem NetdevTracing.count_incr (s s' : LinkStatusType) (n n' : String) :
    (nt.incr s' n').count s n = nt.count s n + if s = s' ∧ n = n' then 1 else 0 := by
  unfold NetdevTracing.incr NetdevTracing.count
  by_cases hs : s = s'
  · subst hs
    by_cases hn : n = n'
    · simp [hn, Keyed.lookup_set]
    · simp [hn, Keyed.lookup_set]
  · simp [hs]

@[simp] theorem NetdevTracing.count_with_ifFlagsMap (m : List (String × UInt32)) :
    ({ nt with ifFlagsMap := m } : NetdevTracing).count = nt.count :=
  rfl

theorem NetdevTracing.ite_saved (c : Prop) [Decidable c] (l : List NetdevEventData) :
    (if c then { nt with saved := l } else nt).count = nt.count ∧
      (if c then { nt with saved := l } else nt).ifFlagsMap = nt.ifFlagsMap := by
  constructor <;> split <;> rfl

@[simp] theorem NetdevTracing.incr_ifFlagsMap (s : LinkStatusType) (n : String) :
    (nt.incr s n).ifFlagsMap = nt.ifFlagsMap :=
  rfl

@[simp] theorem NetdevEventData.addStatus_ifname (s : LinkStatusType) :
    (data.addStatus s).ifname = data.ifname :=
  rfl

theorem count_foldl_incr (l : List LinkStatusType) (acc : NetdevTracing × NetdevEventData)
    (s : LinkStatusType) (n : String) :
    (l.foldl (fun acc status => (acc.1.incr status acc.2.ifname, acc.2.addStatus status)) acc).1.count s n =
      acc.1.count s n + if n = acc.2.ifname then l.count s else 0 := by
  induction l generalizing acc with
  | nil => simp
  | cons st l ih =>
    rw [List.foldl_cons, ih, NetdevTracing.count_incr, NetdevEventData.addStatus_ifname,
      List.count_cons]
    by_cases hn : n = acc.2.ifname
    · by_cases hs : s = st
      · simp [hn, hs]
        omega
      · simp [hn, hs, Ne.symm hs]
    · simp [hn]

theorem ifFlagsMap_foldl_incr (l : List LinkStatusType) (acc : NetdevTracing × NetdevEventData) :
    (l.foldl (fun acc status => (acc.1.incr status acc.2.ifname, acc.2.addStatus status)) acc).1.ifFlagsMap =
      acc.1.ifFlagsMap := by
  induction l generalizing acc with
  | nil => rfl
  | cons st l ih => rw [List.foldl_cons, ih, NetdevTracing.incr_ifFlagsMap]

theorem count_record (s : LinkStatusType) (n : String) :
    (record nt data).count s n =
      nt.count s n + if n = data.ifname then (flags2status data.linkFlags data.flagsChange).count s else 0 := by
  have h := count_foldl_incr (flags2status data.linkFlags data.flagsChange) (nt, data) s n
  unfold record
  dsimp only
  rw [(NetdevTracing.ite_saved _ _ _).1]
  exact h

@[simp] theorem record_ifFlagsMap : (record nt data).ifFlagsMap = nt.ifFlagsMap := by
  have h := ifFlagsMap_foldl_incr (flags2status data.linkFlags data.flagsChange) (nt, data)
  unfold record
  dsimp only
  rw [(NetdevTracing.ite_saved _ _ _).2]
  exact h

theorem record_of_flags2status_eq_nil (h : flags2status data.linkFlags data.flagsChange = [])
    (hd : data.linkStatus = "") : record nt data = nt := by
  simp [record, h, hd]

end Record

/-! ## The handlers -/

section Events

variable (nt : NetdevTracing) (link : Link)

theorem handleEvent_ifFlagsMap :
    (handleEvent nt link).ifFlagsMap = Keyed.set nt.ifFlagsMap link.name link.rawFlags := by
  unfold handleEvent
  rw [record_ifFlagsMap]

theorem count_handleEvent {f : UInt32} (hf : nt.ifFlagsMap.lookup link.name = some f)
    (s : LinkStatusType) (n : String) :
    (handleEvent nt link).count s n =
      nt.count s n + if n = link.name ∧ s.turnsAt f link.rawFlags then 1 else 0 := by
  unfold handleEvent
  dsimp only
  rw [count_record, hf, Option.getD_some, count_flags2status,
    NetdevTracing.count_with_ifFlagsMap]
  by_cases hn : n = link.name <;> simp [hn]

theorem handleEvent_of_same_flags
    (hup : hasFlag link.rawFlags iffUp = hasFlag ((nt.ifFlagsMap.lookup link.name).getD 0) iffUp)
    (hlow : hasFlag link.rawFlags iffLowerUp =
      hasFlag ((nt.ifFlagsMap.lookup link.name).getD 0) iffLowerUp) :
    (handleEvent nt link).metricsLinkStatusCountMap = nt.metricsLinkStatusCountMap ∧
      (handleEvent nt link).saved = nt.saved := by
  have hnil : flags2status link.rawFlags
      (link.rawFlags ^^^ (nt.ifFlagsMap.lookup link.name).getD 0) = [] := by
    have h₁ := hasFlag_xor_iffUp link.rawFlags ((nt.ifFlagsMap.lookup link.name).getD 0)
    have h₂ := hasFlag_xor_iffLowerUp link.rawFlags ((nt.ifFlagsMap.lookup link.name).getD 0)
    unfold flags2status
    rw [if_neg (fun h => (h₁.1 h) hup), if_neg (fun h => (h₂.1 h) hlow)]
    rfl
  rw [handleEvent, record_of_flags2status_eq_nil _ ⟨link.rawFlags,
    link.rawFlags ^^^ (nt.ifFlagsMap.lookup link.name).getD 0, link.name, link.index, "",
    link.hardwareAddr, false⟩ hnil rfl]
  exact ⟨rfl, rfl⟩

theorem count_checkLinkStatus (whitelist : List String) (links : List Link) (s : LinkStatusType)
    (n : String) : (checkLinkStatus whitelist links nt).count s n = nt.count s n := by
  induction links generalizing nt with
  | nil => rfl
  | cons l links ih =>
    simp only [checkLinkStatus, List.foldl_cons] at ih ⊢
    rw [ih]
    split_ifs
    · rw [record_of_flags2status_eq_nil _ ⟨l.rawFlags, 0, l.name, l.index, "", l.hardwareAddr, true⟩
        (flags2status_zero _) rfl]
      rfl
    · rfl

theorem startLoop_unrecorded (u : LinkUpdate) (us : List LinkUpdate) (hu : u.type = .rtmNewlink)
    (h : nt.ifFlagsMap.lookup u.link.name = none) : startLoop nt (u :: us) = startLoop nt us := by
  simp [startLoop, hu, h]

/-- The run lemma: over `RTM_NEWLINK` updates, an interface's counts grow by the turns of its
flags, from those recorded when the run starts through those of each of its updates. -/
theorem count_startLoop (ifname : String) (us : List LinkUpdate)
    (hus : ∀ u ∈ us, u.type = .rtmNewlink) {f : UInt32} (hf : nt.ifFlagsMap.lookup ifname = some f)
    (s : LinkStatusType) :
    (startLoop nt us).1.count s ifname =
      nt.count s ifname + s.turns f ((us.filter (·.link.name == ifname)).map (·.link.rawFlags)) := by
  induction us generalizing nt f with
  | nil => simp [startLoop, LinkStatusType.turns]
  | cons u us ih =>
    have hu := hus u List.mem_cons_self
    have hrest : ∀ u ∈ us, u.type = .rtmNewlink := fun u h => hus u (List.mem_cons_of_mem _ h)
    by_cases hn : u.link.name = ifname
    · -- an update of the interface: one more step of its flags
      have hl : nt.ifFlagsMap.lookup u.link.name = some f := hn ▸ hf
      have hf' : (handleEvent nt u.link).ifFlagsMap.lookup ifname = some u.link.rawFlags := by
        rw [handleEvent_ifFlagsMap, Keyed.lookup_set, if_pos hn.symm]
      simp only [startLoop, hu, hl, Option.isSome_some, if_true]
      rw [ih _ hrest hf', count_handleEvent _ _ hl, List.filter_cons_of_pos (by simpa using hn)]
      simp only [List.map_cons, LinkStatusType.turns, hn, true_and]
      split <;> omega
    · -- an update of another interface leaves this one's counts and flags alone
      have hskip : (us.filter (·.link.name == ifname)) = ((u :: us).filter (·.link.name == ifname)) := by
        rw [List.filter_cons_of_neg (by simpa using hn)]
      rw [← hskip]
      cases hl : nt.ifFlagsMap.lookup u.link.name with
      | none =>
        rw [startLoop_unrecorded _ _ _ hu hl]
        exact ih _ hrest hf
      | some g =>
        have hf' : (handleEvent nt u.link).ifFlagsMap.lookup ifname = some f := by
          rw [handleEvent_ifFlagsMap, Keyed.lookup_set, if_neg (Ne.symm hn)]
          exact hf
        simp only [startLoop, hu, hl, Option.isSome_some, if_true]
        rw [ih _ hrest hf', count_handleEvent _ _ hl, if_neg (fun h => hn h.1.symm), Nat.add_zero]

end Events

/-! ## Ups and downs alternate -/

theorem turns_on_sub_off (up down : LinkStatusType) {bit : UInt32}
    (hup : up.reports = some (bit, true)) (hdown : down.reports = some (bit, false))
    (f₀ : UInt32) (fs : List UInt32) :
    (up.turns f₀ fs : ℤ) - down.turns f₀ fs =
      ((hasFlag (fs.getLast?.getD f₀) bit).toNat : ℤ) - (hasFlag f₀ bit).toNat := by
  induction fs generalizing f₀ with
  | nil => simp [LinkStatusType.turns]
  | cons f fs ih =>
    have hstep : (((if up.turnsAt f₀ f then 1 else 0 : Nat) : ℤ) -
        (if down.turnsAt f₀ f then 1 else 0 : Nat)) =
        ((hasFlag f bit).toNat : ℤ) - (hasFlag f₀ bit).toNat := by
      simp only [LinkStatusType.turnsAt, hup, hdown]
      by_cases h₀ : hasFlag f₀ bit <;> by_cases h₁ : hasFlag f bit <;> simp [h₀, h₁]
    have hlast : (f :: fs).getLast?.getD f₀ = fs.getLast?.getD f := by
      simp [List.getLast?_cons]
    have hrest := ih f
    simp only [LinkStatusType.turns, hlast]
    omega

theorem toNat_sub_toNat_mem (a b : Bool) : -1 ≤ (a.toNat : ℤ) - b.toNat ∧ (a.toNat : ℤ) - b.toNat ≤ 1 := by
  cases a <;> cases b <;> decide

/-- For every whitelisted interface whose flags `f₀` the scan at start recorded, and every
sequence of `RTM_NEWLINK` updates: each status's count for the interface is the number of its
updates where the status's flag turns its way (the unknown status counts none), so up less down
is the flag's last value less its first, which is -1, 0 or 1, for `IFF_UP` and for
`IFF_LOWER_UP`; an update that changes neither flag counts nothing and saves nothing; and an
update of an interface not recorded at start does nothing. -/
theorem netdev_link_status_counts (whitelist : List String) (links : List Link)
    (updates : List LinkUpdate) (ifname : String) (f₀ : UInt32)
    (hf₀ : (checkLinkStatus whitelist links newNetdevTracing).ifFlagsMap.lookup ifname = some f₀)
    (hnew : ∀ u ∈ updates, u.type = .rtmNewlink) :
    let nt := (start whitelist (.ok links) (.ok ()) updates).1
    let fs := (updates.filter (·.link.name == ifname)).map (·.link.rawFlags)
    (∀ s, nt.count s ifname = s.turns f₀ fs) ∧
      ((nt.count .linkStatusAdminUp ifname : ℤ) - nt.count .linkStatusAdminDown ifname =
          ((hasFlag (fs.getLast?.getD f₀) iffUp).toNat : ℤ) - (hasFlag f₀ iffUp).toNat ∧
        -1 ≤ (nt.count .linkStatusAdminUp ifname : ℤ) - nt.count .linkStatusAdminDown ifname ∧
        (nt.count .linkStatusAdminUp ifname : ℤ) - nt.count .linkStatusAdminDown ifname ≤ 1) ∧
      ((nt.count .linkStatusCarrierUp ifname : ℤ) - nt.count .linkStatusCarrierDown ifname =
          ((hasFlag (fs.getLast?.getD f₀) iffLowerUp).toNat : ℤ) - (hasFlag f₀ iffLowerUp).toNat ∧
        -1 ≤ (nt.count .linkStatusCarrierUp ifname : ℤ) - nt.count .linkStatusCarrierDown ifname ∧
        (nt.count .linkStatusCarrierUp ifname : ℤ) - nt.count .linkStatusCarrierDown ifname ≤ 1) ∧
      (∀ (nt : NetdevTracing) (link : Link),
        hasFlag link.rawFlags iffUp = hasFlag ((nt.ifFlagsMap.lookup link.name).getD 0) iffUp →
        hasFlag link.rawFlags iffLowerUp =
          hasFlag ((nt.ifFlagsMap.lookup link.name).getD 0) iffLowerUp →
        (handleEvent nt link).metricsLinkStatusCountMap = nt.metricsLinkStatusCountMap ∧
          (handleEvent nt link).saved = nt.saved) ∧
      (∀ (nt : NetdevTracing) u us, u.type = .rtmNewlink → nt.ifFlagsMap.lookup u.link.name = none →
        startLoop nt (u :: us) = startLoop nt us) := by
  intro nt fs
  have hcount : ∀ s, nt.count s ifname = s.turns f₀ fs := by
    intro s
    have h := count_startLoop (checkLinkStatus whitelist links newNetdevTracing) ifname updates
      hnew hf₀ s
    have h0 : newNetdevTracing.count s ifname = 0 := rfl
    rw [count_checkLinkStatus, h0, Nat.zero_add] at h
    exact h
  have hadmin := turns_on_sub_off .linkStatusAdminUp .linkStatusAdminDown rfl rfl f₀ fs
  have hcarrier := turns_on_sub_off .linkStatusCarrierUp .linkStatusCarrierDown rfl rfl f₀ fs
  rw [← hcount, ← hcount] at hadmin hcarrier
  refine ⟨hcount, ⟨hadmin, ?_⟩, ⟨hcarrier, ?_⟩, fun nt link hup hlow => handleEvent_of_same_flags nt link hup hlow,
    fun nt u us hu h => startLoop_unrecorded nt u us hu h⟩
  · rw [hadmin]
    exact toNat_sub_toNat_mem _ _
  · rw [hcarrier]
    exact toNat_sub_toNat_mem _ _

/-- `eth0` found up with carrier, then losing its carrier and getting it back, with an update of
`eth1` between: one carrier down and one carrier up. -/
theorem netdev_link_status_counts_eth0 :
    (checkLinkStatus ["eth0"] [⟨"eth0", 0x10001, 2, "52:54:00:12:34:56"⟩]
        newNetdevTracing).ifFlagsMap.lookup "eth0" = some 0x10001 ∧
      (∀ u ∈ [(⟨.rtmNewlink, ⟨"eth0", 0x1, 2, "52:54:00:12:34:56"⟩⟩ : LinkUpdate),
          ⟨.rtmNewlink, ⟨"eth1", 0x0, 3, "52:54:00:12:34:57"⟩⟩,
          ⟨.rtmNewlink, ⟨"eth0", 0x10001, 2, "52:54:00:12:34:56"⟩⟩], u.type = MsgType.rtmNewlink) ∧
      ∀ s, (start ["eth0"] (.ok [⟨"eth0", 0x10001, 2, "52:54:00:12:34:56"⟩]) (.ok ())
          [⟨.rtmNewlink, ⟨"eth0", 0x1, 2, "52:54:00:12:34:56"⟩⟩,
            ⟨.rtmNewlink, ⟨"eth1", 0x0, 3, "52:54:00:12:34:57"⟩⟩,
            ⟨.rtmNewlink, ⟨"eth0", 0x10001, 2, "52:54:00:12:34:56"⟩⟩]).1.count s "eth0" =
        s.turns 0x10001 [0x1, 0x10001] :=
  have h₁ : (checkLinkStatus ["eth0"] [⟨"eth0", 0x10001, 2, "52:54:00:12:34:56"⟩]
      newNetdevTracing).ifFlagsMap.lookup "eth0" = some 0x10001 := by decide
  have h₂ : ∀ u ∈ [(⟨.rtmNewlink, ⟨"eth0", 0x1, 2, "52:54:00:12:34:56"⟩⟩ : LinkUpdate),
      ⟨.rtmNewlink, ⟨"eth1", 0x0, 3, "52:54:00:12:34:57"⟩⟩,
      ⟨.rtmNewlink, ⟨"eth0", 0x10001, 2, "52:54:00:12:34:56"⟩⟩], u.type = MsgType.rtmNewlink := by
    decide
  ⟨h₁, h₂, (netdev_link_status_counts ["eth0"] [⟨"eth0", 0x10001, 2, "52:54:00:12:34:56"⟩] _
    "eth0" 0x10001 h₁ h₂).1⟩

end Huatuo.Events
