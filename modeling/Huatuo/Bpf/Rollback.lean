import Huatuo.Bpf.Attach

/-! What a failed attach leaves behind. An attach helper opens fresh handles and records them,
or closes again what it opened, and never touches another handle; so when a helper fails in
`AttachWithOptions` or `Attach`, the deferred `Detach` leaves no handle the object records live
and every other handle as it was before the call. -/
namespace Huatuo.Bpf

open Lib

/-! ## Handles -/

@[simp] theorem Kernel.mem_alloc {k : Kernel} {x : Nat} :
    x ∈ k.alloc.live ↔ x ∈ k.live ∨ x = k.next := by
  simp [Kernel.alloc]

@[simp] theorem Kernel.next_alloc (k : Kernel) : k.alloc.next = k.next + 1 := rfl

@[simp] theorem Kernel.mem_close {k : Kernel} {h x : Nat} :
    x ∈ (k.close h).live ↔ x ∈ k.live ∧ x ≠ h := by
  simp [Kernel.close]

theorem Kernel.mem_foldl_close {x : Nat} (hs : List Nat) (k : Kernel) :
    x ∈ (hs.foldl Kernel.close k).live ↔ x ∈ k.live ∧ x ∉ hs := by
  induction hs generalizing k with
  | nil => simp
  | cons h hs ih => simp [ih, and_assoc]

theorem newLink_eq_ok {kernelAttach : Target → Except String Unit} {t : Target} {k k' : Kernel}
    {l : Nat} (h : newLink kernelAttach t k = .ok (l, k')) : l = k.next ∧ k' = k.alloc := by
  unfold newLink at h
  split at h
  · cases h
  · cases h
    exact ⟨rfl, rfl⟩

@[simp] theorem DefaultBPF.mem_handles {b : DefaultBPF} {x : Nat} :
    x ∈ b.handles ↔
      (∃ p ∈ b.programSpecs, ∃ q ∈ p.2.links, q.2 = x) ∨ x ∈ b.innerPerfEvent.getD [] := by
  simp [DefaultBPF.handles]

theorem mem_detach {s : State} {x : Nat} :
    x ∈ (detach s).kernel.live ↔ x ∈ s.kernel.live ∧ x ∉ s.bpf.handles :=
  Kernel.mem_foldl_close _ _

/-! ## Recording a link -/

theorem lookup_map_setLinks (progID : UInt32) (linkKey : String) (l : Nat) (id : UInt32) :
    ∀ m : List (UInt32 × ProgramSpec), (m.map (setLinks progID linkKey l)).lookup id =
      if id = progID then (m.lookup id).map fun ps => { ps with links := Keyed.set ps.links linkKey l }
      else m.lookup id
  | [] => by simp
  | (a, ps) :: m => by
    have ih := lookup_map_setLinks progID linkKey l id m
    by_cases hid : id = a
    · subst hid
      by_cases hp : id = progID <;> simp [setLinks, List.lookup, hp]
    · simp [setLinks, List.lookup, beq_eq_false_iff_ne.2 hid, ih]

theorem isSome_lookup_of_specType {b : DefaultBPF} {id : UInt32}
    (h : (b.spec id).specType ≠ .unspecified) : (b.programSpecs.lookup id).isSome := by
  unfold DefaultBPF.spec at h
  cases hlk : b.programSpecs.lookup id with
  | none => simp [hlk, ProgramSpec.zero] at h
  | some ps => rfl

section SetLink

variable {b : DefaultBPF} {progID : UInt32} {linkKey : String} {l : Nat}

theorem lookup_links_setLink (hfree : (b.spec progID).links.lookup linkKey = none)
    {id : UInt32} {key : String} {l' : Nat} (h : (b.spec id).links.lookup key = some l') :
    ((b.setLink progID linkKey l).spec id).links.lookup key = some l' := by
  unfold DefaultBPF.spec at h hfree ⊢
  simp only [DefaultBPF.setLink]
  rw [lookup_map_setLinks]
  split_ifs with hid
  · subst hid
    cases hlk : b.programSpecs.lookup id with
    | none => simp [hlk, ProgramSpec.zero] at h
    | some ps =>
      simp only [hlk, Option.getD_some] at h hfree
      simp only [Option.map_some, Option.getD_some]
      rw [Keyed.lookup_set, if_neg]
      · exact h
      · rintro rfl
        simp [hfree] at h
  · exact h

theorem handles_setLink (hfree : (b.spec progID).links.lookup linkKey = none) {x : Nat}
    (hx : x ∈ b.handles) : x ∈ (b.setLink progID linkKey l).handles := by
  rw [DefaultBPF.mem_handles] at hx ⊢
  rcases hx with ⟨p, hp, q, hq, rfl⟩ | hx
  · refine .inl ⟨setLinks progID linkKey l p, List.mem_map_of_mem hp, q, ?_, rfl⟩
    unfold setLinks
    split_ifs with hpid
    · -- `p` is the entry of `progID`, the one the duplicate check looked at
      have hlk : b.programSpecs.lookup progID = some p.2 := hpid ▸ Keyed.lookup_of_mem b.ids_nodup hp
      have hfree' : p.2.links.lookup linkKey = none := by
        simpa [DefaultBPF.spec, hlk] using hfree
      exact Keyed.mem_set_of_lookup_eq_none hfree' hq
    · exact hq
  · exact .inr hx

theorem mem_handles_setLink (hp : (b.programSpecs.lookup progID).isSome) :
    l ∈ (b.setLink progID linkKey l).handles := by
  obtain ⟨ps, hps⟩ := Option.isSome_iff_exists.1 hp
  have hmem := Keyed.mem_of_lookup_eq_some hps
  rw [DefaultBPF.mem_handles]
  refine .inl ⟨setLinks progID linkKey l (progID, ps), List.mem_map_of_mem hmem, (linkKey, l), ?_, rfl⟩
  simp [setLinks, Keyed.mem_set]

end SetLink

/-! ## What an attach helper does

`Grows s s'`: from `s` to `s'` the program IDs stay, no live handle is closed, each new live
handle is recorded, and every recorded handle and link stays recorded. -/

structure Grows (s s' : State) : Prop where
  ids_kept : s'.bpf.programSpecs.map Prod.fst = s.bpf.programSpecs.map Prod.fst
  live_kept : ∀ x ∈ s.kernel.live, x ∈ s'.kernel.live
  live_recorded : ∀ x ∈ s'.kernel.live, x ∈ s.kernel.live ∨ x ∈ s'.bpf.handles
  handles_kept : ∀ x ∈ s.bpf.handles, x ∈ s'.bpf.handles
  links_kept : ∀ id key l, (s.bpf.spec id).links.lookup key = some l →
    (s'.bpf.spec id).links.lookup key = some l

theorem Grows.refl (s : State) : Grows s s :=
  ⟨rfl, fun _ h => h, fun _ h => .inl h, fun _ h => h, fun _ _ _ h => h⟩

theorem Grows.trans {s₁ s₂ s₃ : State} (h₁ : Grows s₁ s₂) (h₂ : Grows s₂ s₃) : Grows s₁ s₃ where
  ids_kept := h₂.ids_kept.trans h₁.ids_kept
  live_kept x hx := h₂.live_kept x (h₁.live_kept x hx)
  live_recorded x hx := by
    rcases h₂.live_recorded x hx with hx | hx
    · rcases h₁.live_recorded x hx with hx | hx
      · exact .inl hx
      · exact .inr (h₂.handles_kept x hx)
    · exact .inr hx
  handles_kept x hx := h₂.handles_kept x (h₁.handles_kept x hx)
  links_kept id key l h := h₂.links_kept id key l (h₁.links_kept id key l h)

theorem Grows.of_live_iff {s s' : State} (hb : s'.bpf = s.bpf)
    (hlive : ∀ x, x ∈ s'.kernel.live ↔ x ∈ s.kernel.live) : Grows s s' where
  ids_kept := by rw [hb]
  live_kept x hx := (hlive x).2 hx
  live_recorded x hx := .inl ((hlive x).1 hx)
  handles_kept x hx := by rwa [hb]
  links_kept id key l h := by rwa [hb]

section Helpers

variable (kernelAttach : Target → Except String Unit) {s : State} {progID : UInt32}

theorem attachLink_grows {linkKey symbol failure : String} {t : Target}
    (hp : (s.bpf.programSpecs.lookup progID).isSome) :
    Grows s (attachLink kernelAttach progID linkKey symbol t failure s).2 := by
  unfold attachLink
  dsimp only
  split_ifs with hdup
  · exact Grows.refl s
  · cases hl : newLink kernelAttach t s.kernel with
    | error err => exact Grows.refl s
    | ok r =>
      obtain ⟨l, k⟩ := r
      obtain ⟨rfl, rfl⟩ := newLink_eq_ok hl
      have hfree : (s.bpf.spec progID).links.lookup linkKey = none :=
        Option.not_isSome_iff_eq_none.1 hdup
      exact {
        ids_kept := map_fst_setLinks progID linkKey _ _
        live_kept := fun x hx => Kernel.mem_alloc.2 (.inl hx)
        live_recorded := fun x hx => by
          rcases Kernel.mem_alloc.1 hx with hx | rfl
          · exact .inl hx
          · exact .inr (mem_handles_setLink hp)
        handles_kept := fun x hx => handles_setLink hfree hx
        links_kept := fun id key l h => lookup_links_setLink hfree h }

theorem attachKprobe_grows {symbol : String} {isRetprobe : Bool}
    (hp : (s.bpf.programSpecs.lookup progID).isSome) :
    Grows s (attachKprobe kernelAttach progID symbol isRetprobe s).2 := by
  unfold attachKprobe
  dsimp only
  split_ifs
  · split
    · exact Grows.refl s
    · exact attachLink_grows kernelAttach hp
  · exact attachLink_grows kernelAttach hp

theorem attachTracepoint_grows {system symbol : String}
    (hp : (s.bpf.programSpecs.lookup progID).isSome) :
    Grows s (attachTracepoint kernelAttach progID system symbol s).2 :=
  attachLink_grows kernelAttach hp

theorem attachRawTracepoint_grows {symbol : String}
    (hp : (s.bpf.programSpecs.lookup progID).isSome) :
    Grows s (attachRawTracepoint kernelAttach progID symbol s).2 :=
  attachLink_grows kernelAttach hp

/-- Where the loop of `attachPerfEventPMU` is, against the kernel `k₀` it started from: the
live handles are those of `k₀` and the fds it opened, all of these above `k₀`'s handles. -/
structure PmuOpened (k₀ : Kernel) (fds : List Nat) (k : Kernel) : Prop where
  live : ∀ x, x ∈ k.live ↔ x ∈ k₀.live ∨ x ∈ fds
  fresh : ∀ x ∈ fds, k₀.next ≤ x
  next_le : k₀.next ≤ k.next

theorem PmuOpened.start (k₀ : Kernel) : PmuOpened k₀ [] k₀ :=
  ⟨fun _ => by simp, fun _ h => absurd h List.not_mem_nil, Nat.le_refl _⟩

/-- What the loop leaves: on success the fds it opened live beside `k₀`'s handles, on a failure
`k₀`'s handles alone. -/
def PmuDone (k₀ : Kernel) : Except String (List Nat) × Kernel → Prop
  | (.ok fds, k) => PmuOpened k₀ fds k
  | (.error _, k) => ∀ x, x ∈ k.live ↔ x ∈ k₀.live

theorem attachPerfEventPMU_done (progID : UInt32) (n : Nat) {k₀ : Kernel} :
    ∀ (cpu : Nat) {fds : List Nat} {k : Kernel}, PmuOpened k₀ fds k →
      PmuDone k₀ (attachPerfEventPMU kernelAttach progID n cpu fds k) := by
  induction n with
  | zero => exact fun _ _ _ h => h
  | succ n ih =>
    intro cpu fds k h
    unfold attachPerfEventPMU
    cases hl : newLink kernelAttach (.perfEvent cpu progID) k with
    | error err =>
      intro x
      rw [Kernel.mem_foldl_close, h.live]
      constructor
      · rintro ⟨hx | hx, hnot⟩
        · exact hx
        · exact absurd hx hnot
      · intro hx
        exact ⟨.inl hx, fun hfd => absurd (h.fresh x hfd) (Nat.not_le.2 (k₀.fresh x hx))⟩
    | ok r =>
      obtain ⟨fd, k'⟩ := r
      obtain ⟨rfl, rfl⟩ := newLink_eq_ok hl
      apply ih (cpu + 1)
      refine ⟨fun x => ?_, fun x hx => ?_, ?_⟩
      · simp [h.live, or_assoc]
      · rcases List.mem_append.1 hx with hx | hx
        · exact h.fresh x hx
        · rw [List.mem_singleton.1 hx]
          exact h.next_le
      · simpa using Nat.le_succ_of_le h.next_le

theorem attachPerfEvent_grows {numCPU : Nat} {samplePeriod sampleFreq : UInt64} :
    Grows s (attachPerfEvent kernelAttach numCPU progID samplePeriod sampleFreq s).2 := by
  unfold attachPerfEvent
  split_ifs with hev
  · exact Grows.refl s
  · exact Grows.refl s
  · exact Grows.refl s
  · have hdone := attachPerfEventPMU_done kernelAttach progID numCPU 0 (PmuOpened.start s.kernel)
    generalize attachPerfEventPMU kernelAttach progID numCPU 0 [] s.kernel = res at hdone ⊢
    obtain ⟨_ | fds, k⟩ := res
    · exact Grows.of_live_iff rfl hdone
    · have hnone : s.bpf.innerPerfEvent = none := by simpa using hev
      exact {
        ids_kept := rfl
        live_kept := fun x hx => (hdone.live x).2 (.inl hx)
        live_recorded := fun x hx => by
          rcases (hdone.live x).1 hx with hx | hx
          · exact .inl hx
          · exact .inr (DefaultBPF.mem_handles.2 (.inr (by simpa using hx)))
        handles_kept := fun x hx => by
          rw [DefaultBPF.mem_handles] at hx ⊢
          rcases hx with hx | hx
          · exact .inl hx
          · simp [hnone] at hx
        links_kept := fun id key l h => h }

end Helpers

/-! ## The two calls -/

@[simp] theorem endState_afterHelper (r : Except String Unit × State) (wrap : String → String) :
    Machine.endState Exit.state (afterHelper r wrap) = r.2 := by
  obtain ⟨_ | _, s⟩ := r <;> rfl

section Calls

variable (kernelAttach : Target → Except String Unit)

theorem attachOne_grows (numCPU : Nat) (opt : AttachOption) (s : State) :
    Grows s (Machine.endState Exit.state (attachOne kernelAttach numCPU opt s)) := by
  unfold attachOne
  dsimp only
  split
  · rename_i hty
    split
    · rw [endState_afterHelper]
      exact attachTracepoint_grows kernelAttach (isSome_lookup_of_specType (by simp [hty]))
    · exact Grows.refl s
  · rename_i hty
    rw [endState_afterHelper]
    exact attachKprobe_grows kernelAttach (isSome_lookup_of_specType (by simp [hty]))
  · rename_i hty
    rw [endState_afterHelper]
    exact attachRawTracepoint_grows kernelAttach (isSome_lookup_of_specType (by simp [hty]))
  · rw [endState_afterHelper]
    exact attachPerfEvent_grows kernelAttach
  · exact Grows.refl s

theorem attachDefault_grows {progID : UInt32} (spec : ProgramSpec) {s : State}
    (hp : (s.bpf.programSpecs.lookup progID).isSome) :
    Grows s (Machine.endState Exit.state (attachDefault kernelAttach progID spec s)) := by
  unfold attachDefault
  split
  · split
    · rw [endState_afterHelper]
      exact attachTracepoint_grows kernelAttach hp
    · exact Grows.refl s
  · split
    · rw [endState_afterHelper]
      exact attachKprobe_grows kernelAttach hp
    · exact Grows.refl s
  · split
    · rw [endState_afterHelper]
      exact attachRawTracepoint_grows kernelAttach hp
    · exact Grows.refl s
  · exact Grows.refl s

theorem attachWithOptionsLoop_grows (numCPU : Nat) (opts : List AttachOption) (s : State) :
    Grows s (Machine.endState Exit.state (attachWithOptionsLoop kernelAttach numCPU opts s)) :=
  Machine.foldlM_rel Grows.refl Grows.trans Exit.state
    fun s' _ opt _ => attachOne_grows kernelAttach numCPU opt s'

/-- Over every order of the programs: each one visited is still there, since no attach adds or
removes a program. -/
theorem attachLoop_grows {iterProg : List (UInt32 × ProgramSpec) → List (UInt32 × ProgramSpec)}
    (hperm : ∀ l, (iterProg l).Perm l) (s : State) :
    Grows s (Machine.endState Exit.state (attachLoop kernelAttach iterProg s)) := by
  apply Machine.foldlM_rel Grows.refl Grows.trans Exit.state
  intro s' hs p hp
  have hmem : p.1 ∈ s'.bpf.programSpecs.map Prod.fst := by
    rw [hs.ids_kept]
    exact List.mem_map_of_mem ((hperm _).subset hp)
  exact attachDefault_grows kernelAttach p.2 (Keyed.lookup_isSome_of_mem hmem)

end Calls

/-- What a call that failed in an attach helper leaves, against the state `s` before it: an
error, no handle the object records live (links recorded before the call included), every
other handle live just when it was before the call, and every link recorded before it still
recorded. -/
structure Detached (s : State) (r : Except String Unit × State) : Prop where
  failed : ∃ ret, r.1 = .error ret
  recorded_closed : ∀ x ∈ r.2.bpf.handles, x ∉ r.2.kernel.live
  others_unchanged : ∀ x, x ∉ r.2.bpf.handles → (x ∈ r.2.kernel.live ↔ x ∈ s.kernel.live)
  links_kept : ∀ id key l, (s.bpf.spec id).links.lookup key = some l →
    (r.2.bpf.spec id).links.lookup key = some l

theorem detached_of_grows {s : State} {r : Except Exit State}
    (hg : Grows s (Machine.endState Exit.state r)) (ha : errAssigned r = true) :
    Detached s (deferDetach r) := by
  cases r with
  | ok s' => cases ha
  | error e =>
    have hres : deferDetach (.error e) = (.error e.ret, detach e.state) := by
      simp [deferDetach, show e.err.isSome = true from ha]
    rw [hres]
    refine ⟨⟨e.ret, rfl⟩, fun x hx hlive => (mem_detach.1 hlive).2 hx, fun x hx => ?_,
      fun id key l h => hg.links_kept id key l h⟩
    rw [mem_detach]
    constructor
    · exact fun hlive => ((hg.live_recorded x hlive.1).resolve_right hx)
    · exact fun hlive => ⟨hg.live_kept x hlive, hx⟩

/-- When an attach helper fails, in `AttachWithOptions` or in `Attach` over any order of the
programs, the object is left detached. -/
theorem attach_helper_failure_detaches (kernelAttach : Target → Except String Unit)
    (numCPU : Nat) (opts : List AttachOption)
    (iterProg : List (UInt32 × ProgramSpec) → List (UInt32 × ProgramSpec))
    (hperm : ∀ l, (iterProg l).Perm l) (s : State) :
    (errAssigned (attachWithOptionsLoop kernelAttach numCPU opts s) = true →
        Detached s (attachWithOptions kernelAttach numCPU opts s)) ∧
      (errAssigned (attachLoop kernelAttach iterProg s) = true →
        Detached s (attach kernelAttach iterProg s)) :=
  ⟨detached_of_grows (attachWithOptionsLoop_grows kernelAttach numCPU opts s),
    detached_of_grows (attachLoop_grows kernelAttach hperm s)⟩

/-- An object with a kprobe program `kp` (ID 0) and a tracepoint program `tp` (ID 1), `kp`
attached at `do_sys_open` by an earlier call, its link the live handle 0. -/
def kprobeAttached : State where
  bpf := ⟨"dropwatch", 2,
    [(0, ⟨"kp", .kprobe, "kprobe/do_sys_open", "kprobe", "Kprobe(kp)#5", [("do_sys_open+0", 0)]⟩),
      (1, ⟨"tp", .tracePoint, "tracepoint/sched/sched_switch", "tracepoint", "TracePoint(tp)#6",
        []⟩)],
    [("kp", 0), ("tp", 1)], none, by decide⟩
  kernel := ⟨[0], 1, by decide⟩

/-- A kernel with no tracepoint to attach to. -/
def tracepointMissing : Target → Except String Unit
  | .tracepoint _ _ _ => .error "no such file or directory"
  | _ => .ok ()

theorem attach_helper_failure_detaches_tracepoint :
    Detached kprobeAttached
      (attachWithOptions tracepointMissing 1 [⟨"tp", "sched/sched_switch", 0, 0⟩] kprobeAttached) :=
  (attach_helper_failure_detaches tracepointMissing 1 [⟨"tp", "sched/sched_switch", 0, 0⟩] id
    (fun l => List.Perm.refl l) kprobeAttached).1 (by decide)

/-- The failed call closes the link an earlier call made. -/
theorem attachWithOptions_closes_earlier_link :
    0 ∈ kprobeAttached.kernel.live ∧
      (attachWithOptions tracepointMissing 1 [⟨"tp", "sched/sched_switch", 0, 0⟩]
        kprobeAttached).1.isOk = false ∧
      0 ∉ (attachWithOptions tracepointMissing 1 [⟨"tp", "sched/sched_switch", 0, 0⟩]
        kprobeAttached).2.kernel.live := by
  decide

end Huatuo.Bpf
