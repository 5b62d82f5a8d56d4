import Huatuo.Lib.Store

/-! The css metadata of containers (internal/pod/container_css_default.go): the events of
the probes on `cgroup_mkdir` and `cgroup_rmdir` (bpf/cgroup_css_events.c) and of the probe that
reports the cgroups already there (bpf/cgroup_css_gather.c) keep `cgroupCssMetaDataMap`, keyed
by css address. A `struct cgroup` pointer and a css address are numbers, the map is a
function of the address, and `cgroupCssID2SubSysNameMap` is the list `subsys` of the names read
from /proc/cgroups. -/
namespace Huatuo.Pod

structure ContainerCssMetaData where
  css : Nat
  subSys : String
  cgroup : Nat
  cgroupRoot : Int
  cgroupLevel : Int
  containerID : String
deriving DecidableEq, Repr

/-- `containerCssPerfEvent`, its knode name with the trailing NULs trimmed. -/
structure ContainerCssPerfEvent where
  cgroup : Nat
  opsType : Nat
  cgroupRoot : Int
  cgroupLevel : Int
  css : List Nat
  knodeName : String
deriving DecidableEq, Repr

/-- `isValidKnodeName`: `[^a-zA-Z0-9]+` does not match. -/
def isValidKnodeName (name : String) : Bool :=
  name.toList.all Char.isAlphanum

abbrev CssMap := Nat → Option ContainerCssMetaData

/-- The loop over the css array of an event: each nonzero css whose index names a subsystem
gets the entry `val css sysName`. -/
def cssLoop (val : Nat → String → Option ContainerCssMetaData) (subsys : List String)
    (data : ContainerCssPerfEvent) (m : CssMap) : Except String CssMap :=
  if !isValidKnodeName data.knodeName then .error "knode name is not containterID"
  else .ok (data.css.zipIdx.foldl (fun m p =>
    if p.1 = 0 then m
    else match subsys[p.2]? with
      | some sysName => Function.update m p.1 (val p.1 sysName)
      | none => m) m)

/-- `cgroupUpdateOrCreateCssData`: `Store` the metadata of the event. -/
def cgroupUpdateOrCreateCssData (subsys : List String) (data : ContainerCssPerfEvent)
    (m : CssMap) : Except String CssMap :=
  cssLoop (fun css sysName =>
    some ⟨css, sysName, data.cgroup, data.cgroupRoot, data.cgroupLevel, data.knodeName⟩)
    subsys data m

def cgroupDeleteCssData (subsys : List String) (data : ContainerCssPerfEvent) (m : CssMap) :
    Except String CssMap :=
  cssLoop (fun _ _ => none) subsys data m

/-- One event read by `cgroupCssEventSyncHandler`; an error leaves the map as it was. -/
def cgroupCssEventSync (subsys : List String) (m : CssMap) (data : ContainerCssPerfEvent) :
    CssMap :=
  match data.opsType with
  | 0 =>
    match cgroupUpdateOrCreateCssData subsys data m with
    | .ok m => m
    | .error _ => m
  | 1 =>
    match cgroupDeleteCssData subsys data m with
    | .ok m => m
    | .error _ => m
  | _ => m

/-- `cgroupListCssDataByKnode`, over the addresses `addrs` that hold entries. -/
def cgroupListCssDataByKnode (addrs : List Nat) (m : CssMap) (containerID : String) :
    List ContainerCssMetaData :=
  addrs.filterMap fun a => (m a).filter fun d => d.containerID = containerID

/-- `parseContainerCSS`: the css of each subsystem among the entries of the container, a later
entry of a subsystem replacing an earlier one. -/
def parseContainerCSS (addrs : List Nat) (m : CssMap) (containerID : String) : String → Option Nat :=
  (cgroupListCssDataByKnode addrs m containerID).foldl
    (fun msg css => Function.update msg css.subSys (some css.css)) fun _ => none

/-! ## One event writes the addresses it carries -/

/-- What slot `p` (a css and its index) of the loop writes at address `X`. -/
def slotWrite (val : Nat → String → Option ContainerCssMetaData) (subsys : List String)
    (p : Nat × Nat) (X : Nat) : Option (Option ContainerCssMetaData) :=
  if p.1 = X ∧ p.1 ≠ 0 then (subsys[p.2]?).map (val X) else none

/-- What an event writes at address `X`: the last slot holding `X` decides. -/
def cssWrite (subsys : List String) (data : ContainerCssPerfEvent) (X : Nat) :
    Option (Option ContainerCssMetaData) :=
  if !isValidKnodeName data.knodeName then none
  else match data.opsType with
    | 0 => (data.css.zipIdx.filterMap fun p => slotWrite (fun css sysName =>
        some ⟨css, sysName, data.cgroup, data.cgroupRoot, data.cgroupLevel, data.knodeName⟩)
        subsys p X).getLast?
    | 1 => (data.css.zipIdx.filterMap fun p => slotWrite (fun _ _ => none) subsys p X).getLast?
    | _ => none

theorem cssLoop_step (val : Nat → String → Option ContainerCssMetaData) (subsys : List String) :
    (fun (m : CssMap) (p : Nat × Nat) =>
      if p.1 = 0 then m
      else match subsys[p.2]? with
        | some sysName => Function.update m p.1 (val p.1 sysName)
        | none => m) = Lib.Store.apply (slotWrite val subsys) := by
  funext m p X
  obtain ⟨css, index⟩ := p
  simp only [Lib.Store.apply, slotWrite]
  by_cases h0 : css = 0
  · simp [h0]
  · cases hs : subsys[index]? with
    | none => simp [h0]
    | some n =>
      by_cases hX : css = X
      · subst hX
        simp [h0]
      · simp [h0, hX, Function.update_of_ne (Ne.symm hX)]

theorem cssLoop_eq {val : Nat → String → Option ContainerCssMetaData} {subsys : List String}
    {data : ContainerCssPerfEvent} (hv : isValidKnodeName data.knodeName) (m : CssMap) :
    cssLoop val subsys data m = .ok fun X =>
      ((data.css.zipIdx.filterMap fun p => slotWrite val subsys p X).getLast?).getD (m X) := by
  rw [cssLoop, if_neg (by simp [hv]), cssLoop_step]
  congr 1
  funext X
  rw [Lib.Store.foldl_apply]

theorem cgroupCssEventSync_eq (subsys : List String) :
    cgroupCssEventSync subsys = Lib.Store.apply (cssWrite subsys) := by
  funext m data
  unfold cgroupCssEventSync cgroupUpdateOrCreateCssData cgroupDeleteCssData
  by_cases hv : isValidKnodeName data.knodeName
  · simp only [cssLoop_eq hv]
    funext X
    obtain ⟨cg, ops, r, l, css, name⟩ := data
    rcases ops with _ | _ | n <;> simp [Lib.Store.apply, cssWrite, hv]
  · have hcss : ∀ val, cssLoop val subsys data m = .error "knode name is not containterID" :=
      fun val => by rw [cssLoop, if_pos (by simp [hv])]
    simp only [hcss]
    funext X
    obtain ⟨cg, ops, r, l, css, name⟩ := data
    rcases ops with _ | _ | n <;> simp_all [Lib.Store.apply, cssWrite]

/-! ## The kernel's side -/

structure Cgroup where
  ptr : Nat
  root : Int
  level : Int
  css : List Nat
  name : String
deriving DecidableEq, Repr

/-- What happens to cgroups, in the kernel's order. -/
inductive KernelEvent
  | mkdir (c : Cgroup)
  | rmdir (c : Cgroup)
  | gather (c : Cgroup)
deriving DecidableEq, Repr

def cgroupKnodeNameMaxlen : Nat := 64

/-- What `bpf_probe_read_str` returns reading a knode name into `knode_name`, of
`CGROUP_KNODE_NAME_MAXLEN + 2` bytes: the bytes it copies, the closing NUL counted. -/
def probeReadStrLen (name : String) : Nat :=
  min (name.utf8ByteSize + 1) (cgroupKnodeNameMaxlen + 2)

/-- `bpf_cgroup_event_class_prog`: only a cgroup whose knode name is `CGROUP_KNODE_NAME_MAXLEN`
bytes long is sent. -/
def bpfCgroupEventClassProg (c : Cgroup) (type : Nat) : Option ContainerCssPerfEvent :=
  if probeReadStrLen c.name ≠ cgroupKnodeNameMaxlen + 1 then none
  else some ⟨c.ptr, type, c.root, c.level, c.css, c.name⟩

/-- `bpf_cgroup_subsys_state_prog` (bpf/cgroup_css_gather.c) has the body of
`bpf_cgroup_event_class_prog` with `ops_type` 0. -/
def bpfCgroupSubsysStateProg (c : Cgroup) : Option ContainerCssPerfEvent :=
  bpfCgroupEventClassProg c 0

/-- The event a probe sends, if any. -/
def KernelEvent.data : KernelEvent → Option ContainerCssPerfEvent
  | .mkdir c => bpfCgroupEventClassProg c 0
  | .rmdir c => bpfCgroupEventClassProg c 1
  | .gather c => bpfCgroupSubsysStateProg c

def KernelEvent.cgroup : KernelEvent → Cgroup
  | .mkdir c | .rmdir c | .gather c => c

/-- What a kernel event writes at `X` through the handler. -/
def KernelEvent.write (subsys : List String) (e : KernelEvent) (X : Nat) :
    Option (Option ContainerCssMetaData) :=
  e.data.bind (cssWrite subsys · X)

def Cgroup.addrs (c : Cgroup) : List Nat :=
  c.css.filter (· ≠ 0)

/-- What the map should hold at `X` for a cgroup that owns it: the subsystem of the last
slot holding `X`, and nothing when the probes do not send the cgroup or its name is not a
container ID. -/
def cgroupMeta (subsys : List String) (c : Cgroup) (X : Nat) : Option ContainerCssMetaData :=
  if c.name.utf8ByteSize = cgroupKnodeNameMaxlen ∧ isValidKnodeName c.name ∧ X ≠ 0 then
    ((c.css.zipIdx.filterMap fun p => if p.1 = X then subsys[p.2]? else none).getLast?).map
      fun sysName => ⟨X, sysName, c.ptr, c.root, c.level, c.name⟩
  else none

/-- What the map should hold at `X`: the entry of the live cgroup that owns `X`. -/
def ownerMeta (subsys : List String) (live : List Cgroup) (X : Nat) : Option ContainerCssMetaData :=
  live.findSome? fun c => cgroupMeta subsys c X

/-- No two live cgroups hold one css address. -/
def Exclusive (live : List Cgroup) : Prop :=
  live.Pairwise fun a b => ∀ x ∈ a.addrs, x ∉ b.addrs

/-- A history of the kernel from `live` to `live'`: a cgroup is created with css addresses
that no live cgroup holds, and removed or reported only while it lives. -/
inductive History : List Cgroup → List KernelEvent → List Cgroup → Prop
  | nil (live : List Cgroup) : History live [] live
  | mkdir {live live' : List Cgroup} {h : List KernelEvent} (c : Cgroup)
      (hfresh : ∀ c' ∈ live, ∀ a ∈ c.addrs, a ∉ c'.addrs)
      (hrest : History (c :: live) h live') : History live (.mkdir c :: h) live'
  | rmdir {live live' : List Cgroup} {h : List KernelEvent} (c : Cgroup) (hc : c ∈ live)
      (hrest : History (live.erase c) h live') : History live (.rmdir c :: h) live'
  | gather {live live' : List Cgroup} {h : List KernelEvent} (c : Cgroup) (hc : c ∈ live)
      (hrest : History live h live') : History live (.gather c :: h) live'

/-! ## The map follows the kernel -/

section Kernel

variable {subsys : List String}

theorem slotWrite_eq {val : Nat → String → Option ContainerCssMetaData} {X : Nat} (hX : X ≠ 0)
    (p : Nat × Nat) : slotWrite val subsys p X = (if p.1 = X then subsys[p.2]? else none).map (val X) := by
  by_cases h : p.1 = X
  · simp [slotWrite, h, hX]
  · simp [slotWrite, h]

theorem getLast?_slotWrite (val : Nat → String → Option ContainerCssMetaData) (l : List (Nat × Nat))
    {X : Nat} (hX : X ≠ 0) :
    (l.filterMap fun p => slotWrite val subsys p X).getLast? =
      (l.filterMap fun p => if p.1 = X then subsys[p.2]? else none).getLast?.map (val X) := by
  rw [← List.getLast?_map, List.map_filterMap]
  simp only [slotWrite_eq hX]

theorem filterMap_slotWrite_zero (val : Nat → String → Option ContainerCssMetaData)
    (l : List (Nat × Nat)) : (l.filterMap fun p => slotWrite val subsys p 0) = [] := by
  simp [slotWrite]

theorem probeReadStrLen_eq_iff (name : String) :
    probeReadStrLen name = cgroupKnodeNameMaxlen + 1 ↔ name.utf8ByteSize = cgroupKnodeNameMaxlen := by
  unfold probeReadStrLen cgroupKnodeNameMaxlen
  omega

theorem bpfCgroupEventClassProg_of_sent {c : Cgroup} (hs : c.name.utf8ByteSize = cgroupKnodeNameMaxlen)
    (type : Nat) : bpfCgroupEventClassProg c type = some ⟨c.ptr, type, c.root, c.level, c.css, c.name⟩ :=
  if_neg (not_not.2 ((probeReadStrLen_eq_iff c.name).2 hs))

theorem bpfCgroupEventClassProg_of_not_sent {c : Cgroup}
    (hs : c.name.utf8ByteSize ≠ cgroupKnodeNameMaxlen) (type : Nat) :
    bpfCgroupEventClassProg c type = none :=
  if_pos (mt (probeReadStrLen_eq_iff c.name).1 hs)

theorem write_of_not_sent {e : KernelEvent} (hs : e.cgroup.name.utf8ByteSize ≠ cgroupKnodeNameMaxlen)
    (X : Nat) : e.write subsys X = none := by
  have hd : e.data = none := by
    cases e with
    | mkdir c | rmdir c | gather c => exact bpfCgroupEventClassProg_of_not_sent hs _
  rw [KernelEvent.write, hd, Option.bind_none]

theorem cgroupMeta_of_not_sent {c : Cgroup} (hs : c.name.utf8ByteSize ≠ cgroupKnodeNameMaxlen)
    (X : Nat) : cgroupMeta subsys c X = none :=
  if_neg fun h => hs h.1

theorem getLast?_cgroupSlots {c : Cgroup} (hs : c.name.utf8ByteSize = cgroupKnodeNameMaxlen)
    (hv : isValidKnodeName c.name) {val : Nat → String → Option ContainerCssMetaData}
    {f : ContainerCssMetaData → Option ContainerCssMetaData}
    (hval : ∀ X sysName, val X sysName = f ⟨X, sysName, c.ptr, c.root, c.level, c.name⟩) (X : Nat) :
    (c.css.zipIdx.filterMap fun p => slotWrite val subsys p X).getLast? =
      (cgroupMeta subsys c X).map f := by
  by_cases hX : X = 0
  · simp [cgroupMeta, hX, filterMap_slotWrite_zero]
  · rw [getLast?_slotWrite _ _ hX, cgroupMeta, if_pos ⟨hs, hv, hX⟩, Option.map_map]
    congr 1
    funext sysName
    exact hval X sysName

theorem cssWrite_create {c : Cgroup} (hs : c.name.utf8ByteSize = cgroupKnodeNameMaxlen) (X : Nat) :
    cssWrite subsys ⟨c.ptr, 0, c.root, c.level, c.css, c.name⟩ X = (cgroupMeta subsys c X).map some := by
  by_cases hv : isValidKnodeName c.name
  · simp only [cssWrite, hv, Bool.not_true, Bool.false_eq_true, if_false]
    exact getLast?_cgroupSlots hs hv (fun _ _ => rfl) X
  · simp [cssWrite, cgroupMeta, hv]

theorem cssWrite_delete {c : Cgroup} (hs : c.name.utf8ByteSize = cgroupKnodeNameMaxlen) (X : Nat) :
    cssWrite subsys ⟨c.ptr, 1, c.root, c.level, c.css, c.name⟩ X =
      (cgroupMeta subsys c X).map fun _ => none := by
  by_cases hv : isValidKnodeName c.name
  · simp only [cssWrite, hv, Bool.not_true, Bool.false_eq_true, if_false]
    exact getLast?_cgroupSlots (f := fun _ => none) hs hv (fun _ _ => rfl) X
  · simp [cssWrite, cgroupMeta, hv]

theorem write_mkdir (c : Cgroup) (X : Nat) :
    (KernelEvent.mkdir c).write subsys X = (cgroupMeta subsys c X).map some := by
  by_cases hs : c.name.utf8ByteSize = cgroupKnodeNameMaxlen
  · rw [KernelEvent.write, KernelEvent.data, bpfCgroupEventClassProg_of_sent hs, Option.bind_some,
      cssWrite_create hs]
  · rw [write_of_not_sent (e := .mkdir c) hs, cgroupMeta_of_not_sent hs, Option.map_none]

theorem write_gather (c : Cgroup) (X : Nat) :
    (KernelEvent.gather c).write subsys X = (cgroupMeta subsys c X).map some :=
  write_mkdir c X

theorem write_rmdir (c : Cgroup) (X : Nat) :
    (KernelEvent.rmdir c).write subsys X = (cgroupMeta subsys c X).map fun _ => none := by
  by_cases hs : c.name.utf8ByteSize = cgroupKnodeNameMaxlen
  · rw [KernelEvent.write, KernelEvent.data, bpfCgroupEventClassProg_of_sent hs, Option.bind_some,
      cssWrite_delete hs]
  · rw [write_of_not_sent (e := .rmdir c) hs, cgroupMeta_of_not_sent hs, Option.map_none]

theorem mem_addrs_of_cgroupMeta {c : Cgroup} {X : Nat} (h : cgroupMeta subsys c X ≠ none) :
    X ∈ c.addrs := by
  unfold cgroupMeta at h
  split_ifs at h with hv
  · obtain ⟨p, hp, hpX⟩ : ∃ p ∈ c.css.zipIdx, (if p.1 = X then subsys[p.2]? else none) ≠ none := by
      by_contra hnone
      push Not at hnone
      rw [← List.filterMap_eq_nil_iff] at hnone
      simp [hnone] at h
    have hpX : p.1 = X := by
      by_contra hne
      simp [hne] at hpX
    rw [Cgroup.addrs, List.mem_filter, ← hpX]
    exact ⟨List.fst_mem_of_mem_zipIdx hp, by simpa [hpX] using hv.2.2⟩
  · exact absurd rfl h

theorem cgroupMeta_eq_none {c : Cgroup} {X : Nat} (h : X ∉ c.addrs) : cgroupMeta subsys c X = none := by
  by_contra hne
  exact h (mem_addrs_of_cgroupMeta hne)

theorem write_eq_none {e : KernelEvent} {X : Nat} (h : X ∉ e.cgroup.addrs) :
    e.write subsys X = none := by
  cases e with
  | mkdir c => rw [write_mkdir, cgroupMeta_eq_none (c := c) h, Option.map_none]
  | rmdir c => rw [write_rmdir, cgroupMeta_eq_none (c := c) h, Option.map_none]
  | gather c => rw [write_gather, cgroupMeta_eq_none (c := c) h, Option.map_none]

theorem filterMap_write (l : List KernelEvent) (X : Nat) :
    l.filterMap (KernelEvent.write subsys · X) =
      (l.filter fun e => e.data.isSome ∧ X ∈ e.cgroup.addrs).filterMap (KernelEvent.write subsys · X) := by
  rw [List.filterMap_filter]
  congr 1
  funext e
  by_cases hX : X ∈ e.cgroup.addrs
  · cases hd : e.data with
    | none => simp [KernelEvent.write, hd]
    | some => simp [hX]
  · simp [hX, write_eq_none hX]

theorem Exclusive.cons {live : List Cgroup} {c : Cgroup} (hx : Exclusive live)
    (hfresh : ∀ c' ∈ live, ∀ a ∈ c.addrs, a ∉ c'.addrs) : Exclusive (c :: live) :=
  List.pairwise_cons.2 ⟨hfresh, hx⟩

theorem Exclusive.erase {live : List Cgroup} (hx : Exclusive live) (c : Cgroup) :
    Exclusive (live.erase c) :=
  hx.sublist List.erase_sublist

theorem Exclusive.not_mem_erase {live : List Cgroup} {c : Cgroup} {X : Nat} (hx : Exclusive live)
    (hc : c ∈ live) (hX : X ∈ c.addrs) : ∀ c' ∈ live.erase c, X ∉ c'.addrs := by
  have hperm := hx.perm (List.perm_cons_erase hc) fun {a b} hab x hb ha => hab x ha hb
  exact fun c' hc' => (List.pairwise_cons.1 hperm).1 c' hc' X hX

theorem Exclusive.eq_of_mem {live : List Cgroup} {c c' : Cgroup} {X : Nat} (hx : Exclusive live)
    (hc : c ∈ live) (hX : X ∈ c.addrs) (hc' : c' ∈ live) (hX' : X ∈ c'.addrs) : c' = c := by
  by_contra hne
  exact hx.not_mem_erase hc hX c' (List.mem_erase_of_ne hne |>.2 hc') hX'

theorem ownerMeta_of_mem {live : List Cgroup} {c : Cgroup} {X : Nat} (hx : Exclusive live)
    (hc : c ∈ live) (hX : X ∈ c.addrs) : ownerMeta subsys live X = cgroupMeta subsys c X :=
  Lib.Store.findSome?_of_unique hc fun _ hb hne => hx.eq_of_mem hc hX hb (mem_addrs_of_cgroupMeta hne)

theorem ownerMeta_eq_none {live : List Cgroup} {X : Nat} (h : ∀ c ∈ live, X ∉ c.addrs) :
    ownerMeta subsys live X = none :=
  List.findSome?_eq_none_iff.2 fun c hc => cgroupMeta_eq_none (h c hc)

/-! Each kernel event, delivered in the kernel's order, takes the map for the cgroups live
before it to the map for those live after it. -/

theorem apply_mkdir (live : List Cgroup) (c : Cgroup) :
    Lib.Store.apply (KernelEvent.write subsys) (ownerMeta subsys live) (.mkdir c) =
      ownerMeta subsys (c :: live) := by
  funext X
  cases hm : cgroupMeta subsys c X with
  | none =>
    rw [Lib.Store.apply_of_not_write (by rw [write_mkdir, hm, Option.map_none])]
    simp [ownerMeta, hm]
  | some d =>
    rw [Lib.Store.apply_of_write (by rw [write_mkdir, hm, Option.map_some])]
    simp [ownerMeta, hm]

theorem apply_gather {live : List Cgroup} {c : Cgroup} (hx : Exclusive live) (hc : c ∈ live) :
    Lib.Store.apply (KernelEvent.write subsys) (ownerMeta subsys live) (.gather c) =
      ownerMeta subsys live := by
  funext X
  cases hm : cgroupMeta subsys c X with
  | none => exact Lib.Store.apply_of_not_write (by rw [write_gather, hm, Option.map_none])
  | some d =>
    have hX : X ∈ c.addrs := mem_addrs_of_cgroupMeta (show cgroupMeta subsys c X ≠ none by simp [hm])
    rw [Lib.Store.apply_of_write (by rw [write_gather, hm, Option.map_some]),
      ownerMeta_of_mem hx hc hX, hm]

theorem apply_rmdir {live : List Cgroup} {c : Cgroup} (hx : Exclusive live) (hc : c ∈ live) :
    Lib.Store.apply (KernelEvent.write subsys) (ownerMeta subsys live) (.rmdir c) =
      ownerMeta subsys (live.erase c) := by
  funext X
  cases hm : cgroupMeta subsys c X with
  | none =>
    rw [Lib.Store.apply_of_not_write (by rw [write_rmdir, hm, Option.map_none])]
    exact (Lib.Store.findSome?_erase_of_none (f := fun c' => cgroupMeta subsys c' X) hm live).symm
  | some d =>
    have hX : X ∈ c.addrs := mem_addrs_of_cgroupMeta (show cgroupMeta subsys c X ≠ none by simp [hm])
    rw [Lib.Store.apply_of_write (by rw [write_rmdir, hm, Option.map_some]),
      ownerMeta_eq_none (hx.not_mem_erase hc hX)]

theorem History.exclusive {live h live'} (hh : History live h live') (hx : Exclusive live) :
    Exclusive live' := by
  induction hh with
  | nil => exact hx
  | mkdir c hfresh _ ih => exact ih (hx.cons hfresh)
  | rmdir c _ _ ih => exact ih (hx.erase c)
  | gather _ _ _ ih => exact ih hx

/-- Along a history delivered in the kernel's order the map is, after every prefix, the map of
the cgroups then live. -/
theorem History.foldl_apply {live h live'} (hh : History live h live') (hx : Exclusive live) :
    h.foldl (Lib.Store.apply (KernelEvent.write subsys)) (ownerMeta subsys live) =
      ownerMeta subsys live' := by
  induction hh with
  | nil live => rfl
  | mkdir c hfresh _ ih =>
    rw [List.foldl_cons, apply_mkdir]
    exact ih (hx.cons hfresh)
  | rmdir c hc _ ih =>
    rw [List.foldl_cons, apply_rmdir hx hc]
    exact ih (hx.erase c)
  | gather c hc _ ih =>
    rw [List.foldl_cons, apply_gather hx hc]
    exact ih hx

/-- Delivered in any order that keeps the kernel's order among the events sent that carry each
address, the events of a history leave the map of the cgroups live at its end. -/
theorem foldl_delivered {h d : List KernelEvent} {live : List Cgroup} (hh : History [] h live)
    (hd : ∀ X, d.filter (fun e => e.data.isSome ∧ X ∈ e.cgroup.addrs) =
      h.filter fun e => e.data.isSome ∧ X ∈ e.cgroup.addrs) :
    (d.filterMap KernelEvent.data).foldl (cgroupCssEventSync subsys) (fun _ => none) =
      ownerMeta subsys live := by
  have hsync : (d.filterMap KernelEvent.data).foldl (cgroupCssEventSync subsys) (fun _ => none) =
      d.foldl (Lib.Store.apply (KernelEvent.write subsys)) fun _ => none := by
    rw [cgroupCssEventSync_eq]
    exact Lib.Store.foldl_apply_filterMap _ _ _
  have hsame : ∀ X, d.filterMap (KernelEvent.write subsys · X) =
      h.filterMap (KernelEvent.write subsys · X) := fun X => by
    rw [filterMap_write d, hd, ← filterMap_write]
  have hempty : (fun _ => none : CssMap) = ownerMeta subsys [] := rfl
  rw [hsync, Lib.Store.foldl_apply_eq hsame, hempty]
  exact hh.foldl_apply List.Pairwise.nil

theorem cgroupMeta_eq_some {c : Cgroup} {X : Nat} {d : ContainerCssMetaData}
    (h : cgroupMeta subsys c X = some d) : d.css = X ∧ d.containerID = c.name := by
  unfold cgroupMeta at h
  split_ifs at h
  obtain ⟨sysName, -, rfl⟩ := Option.map_eq_some_iff.1 h
  exact ⟨rfl, rfl⟩

theorem ownerMeta_eq_some {live : List Cgroup} {X : Nat} {d : ContainerCssMetaData}
    (h : ownerMeta subsys live X = some d) : ∃ c ∈ live, cgroupMeta subsys c X = some d :=
  List.exists_of_findSome?_eq_some h

end Kernel

/-! ## What a container's css resolves to -/

theorem foldl_update_eq_some {l : List ContainerCssMetaData} {msg : String → Option Nat}
    {s : String} {X : Nat}
    (h : l.foldl (fun (msg : String → Option Nat) css => Function.update msg css.subSys (some css.css))
      msg s = some X) :
    msg s = some X ∨ ∃ d ∈ l, d.subSys = s ∧ d.css = X := by
  induction l generalizing msg with
  | nil => exact Or.inl h
  | cons d l ih =>
    rcases ih h with hmsg | ⟨d', hd', hs⟩
    · simp only at hmsg
      by_cases hs : d.subSys = s
      · subst hs
        rw [Function.update_self, Option.some.injEq] at hmsg
        exact Or.inr ⟨d, List.mem_cons_self, rfl, hmsg⟩
      · rw [Function.update_of_ne (Ne.symm hs)] at hmsg
        exact Or.inl hmsg
    · exact Or.inr ⟨d', List.mem_cons_of_mem _ hd', hs⟩

theorem mem_parseContainerCSS {addrs : List Nat} {m : CssMap} {containerID s : String} {X : Nat}
    (h : parseContainerCSS addrs m containerID s = some X) :
    ∃ a ∈ addrs, ∃ d, m a = some d ∧ d.containerID = containerID ∧ d.subSys = s ∧ d.css = X := by
  rcases foldl_update_eq_some h with h | ⟨d, hd, hs, hX⟩
  · cases h
  · obtain ⟨a, ha, hda⟩ := List.mem_filterMap.1 hd
    obtain ⟨hma, hid⟩ := Option.filter_eq_some_iff.1 hda
    exact ⟨a, ha, d, hma, by simpa using hid, hs, hX⟩

/-! ## The map over a whole history -/

/-- Delivered in an order that keeps, for each css address, the kernel's order among the
events sent that carry it, the events of a history leave at each address the entry of the live
cgroup that owns it, and none where no live cgroup owns it; what `parseContainerCSS` then
reports for a container is owned by a live cgroup of that container. -/
theorem cssMetaData_owner (subsys : List String) {h d : List KernelEvent} {live : List Cgroup}
    (hh : History [] h live)
    (hd : ∀ X, d.filter (fun e => e.data.isSome ∧ X ∈ e.cgroup.addrs) =
      h.filter fun e => e.data.isSome ∧ X ∈ e.cgroup.addrs) :
    let m := (d.filterMap KernelEvent.data).foldl (cgroupCssEventSync subsys) fun _ => none
    (∀ X, ((∀ c ∈ live, X ∉ c.addrs) → m X = none) ∧
      ∀ c ∈ live, X ∈ c.addrs → m X = cgroupMeta subsys c X) ∧
    ∀ addrs containerID s X, parseContainerCSS addrs m containerID s = some X →
      ∃ c ∈ live, c.name = containerID ∧ X ∈ c.addrs ∧
        (m X).map ContainerCssMetaData.subSys = some s := by
  intro m
  have hm : m = ownerMeta subsys live := foldl_delivered hh hd
  have hx : Exclusive live := hh.exclusive List.Pairwise.nil
  refine ⟨fun X => ⟨fun hno => by rw [hm, ownerMeta_eq_none hno],
    fun c hc hX => by rw [hm, ownerMeta_of_mem hx hc hX]⟩, ?_⟩
  intro addrs containerID s X hp
  obtain ⟨a, -, md, hma, hid, hs, hX⟩ := mem_parseContainerCSS hp
  rw [hm] at hma
  obtain ⟨c, hc, hcm⟩ := ownerMeta_eq_some hma
  obtain ⟨hcss, hname⟩ := cgroupMeta_eq_some hcm
  obtain rfl : a = X := hcss.symm.trans hX
  have hXc : a ∈ c.addrs := mem_addrs_of_cgroupMeta (show cgroupMeta subsys c a ≠ none by simp [hcm])
  refine ⟨c, hc, hname ▸ hid, hXc, ?_⟩
  rw [hm, hma, Option.map_some, hs]

/-- Container `a` is removed and container `b` is created on css address 100 that `a` held;
delivered in the kernel's order, the map gives 100 to `b`. -/
theorem cssMetaData_owner_reused :
    let a : Cgroup := ⟨1, 1, 1, [100], "ca978112ca1bbdcafac231b39a23dc4da786eff8147c4e72b9807785afee48bb"⟩
    let b : Cgroup := ⟨2, 1, 1, [100], "3e23e8160039594a33894f6564e1b1348bbd7a0088d42c4acb73eeaed59c009d"⟩
    History [] [.mkdir a, .rmdir a, .mkdir b] [b] ∧
    let m := ([KernelEvent.mkdir a, .rmdir a, .mkdir b].filterMap KernelEvent.data).foldl
      (cgroupCssEventSync ["cpu"]) fun _ => none
    (∀ X, ((∀ c ∈ [b], X ∉ c.addrs) → m X = none) ∧
      ∀ c ∈ [b], X ∈ c.addrs → m X = cgroupMeta ["cpu"] c X) ∧
    ∀ addrs containerID s X, parseContainerCSS addrs m containerID s = some X →
      ∃ c ∈ [b], c.name = containerID ∧ X ∈ c.addrs ∧
        (m X).map ContainerCssMetaData.subSys = some s := by
  intro a b
  have hh : History [] [.mkdir a, .rmdir a, .mkdir b] [b] :=
    .mkdir _ (by simp) (.rmdir _ List.mem_cons_self
      (by rw [List.erase_cons_head]; exact .mkdir _ (by simp) (.nil _)))
  exact ⟨hh, cssMetaData_owner ["cpu"] hh fun _ => rfl⟩

/-- The same history delivered with the creation of `b` before the removal of `a`: the
removal deletes the entry of `b`, which owns address 100. -/
theorem cssMetaData_reordered_rmdir :
    let a : Cgroup := ⟨1, 1, 1, [100], "ca978112ca1bbdcafac231b39a23dc4da786eff8147c4e72b9807785afee48bb"⟩
    let b : Cgroup := ⟨2, 1, 1, [100], "3e23e8160039594a33894f6564e1b1348bbd7a0088d42c4acb73eeaed59c009d"⟩
    History [] [.mkdir a, .rmdir a, .mkdir b] [b] ∧
    [KernelEvent.mkdir a, .mkdir b, .rmdir a].Perm [.mkdir a, .rmdir a, .mkdir b] ∧
    100 ∈ b.addrs ∧ cgroupMeta ["cpu"] b 100 = some ⟨100, "cpu", 2, 1, 1, b.name⟩ ∧
    (([KernelEvent.mkdir a, .mkdir b, .rmdir a].filterMap KernelEvent.data).foldl
      (cgroupCssEventSync ["cpu"]) fun _ => none) 100 = none := by
  refine ⟨.mkdir _ (by simp) (.rmdir _ List.mem_cons_self
      (by rw [List.erase_cons_head]; exact .mkdir _ (by simp) (.nil _))),
    .cons _ (.swap _ _ _), by decide, by decide +kernel, by decide +kernel⟩

end Huatuo.Pod
