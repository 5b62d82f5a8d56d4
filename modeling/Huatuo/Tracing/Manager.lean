import Huatuo.Lib.Keyed
import Huatuo.Lib.Machine
import Mathlib

/-! The tracers and their manager (pkg/tracing/register_event.go, tracing.go, manager.go, and the
handlers of internal/services/tracer.go).

`NewRegister` calls each registered factory once, and `NewMgrTracingEvent` keeps an
`EventTracing` for each tracer flagged `FlagTracing`. `EventTracing.Start` marks the tracer
running and spawns a goroutine that supervises it: it calls the tracer's `Start` under a fresh
cancellable context, counts the call in `hitCount`, sleeps `interval` seconds and calls it
again, until `exit` is set, by `Stop` or by the tracer answering `ErrNotSupported`; its last act
is to clear `isRunning`. `Stop` sets `exit` and calls the cancel function of the last context.

The HTTP handlers take the manager's mutex; the goroutines do not. So the state is the tracers,
the goroutines, each at a statement of its loop, and the contexts made and cancelled; every
handler call, every statement of a goroutine and every return of a tracer's `Start` is one
event, and the events interleave in any order. A context is its number; a panic in a handler,
which `gin.Recovery` turns into a 500, leaves what the handler wrote before it. -/
namespace Huatuo.Tracing

open Lib

def flagMetric : UInt32 := 1

def flagTracing : UInt32 := 2

/-- `EventTracingAttr`; its `TracingData`, the tracer, is known by the name it is registered
under. -/
structure EventTracingAttr where
  internal : Int
  flag : UInt32
deriving DecidableEq, Repr

/-- What `NewRegister` keeps from one call to the next: whether `tracingOnce` has run, and
`tracingEventAttrMap`. -/
structure Register where
  done : Bool
  tracingEventAttrMap : List (String × EventTracingAttr)
deriving DecidableEq, Repr

def Register.init : Register := ⟨false, []⟩

/-- The loop of `tracingOnce.Do` over the factories, each with what it returns when called. -/
def registerLoop (blackListed : List String) :
    List (String × EventTracingAttr) → List (String × Except String EventTracingAttr) →
      Except String (List (String × EventTracingAttr))
  | tracingMap, [] => .ok tracingMap
  | tracingMap, (key, factory) :: factories =>
    if blackListed.contains key then registerLoop blackListed tracingMap factories
    else
      match factory with
      | .error err => .error err
      | .ok attr =>
        if attr.flag &&& (flagTracing ||| flagMetric) = 0 then .error "invalid flag"
        else registerLoop blackListed (Keyed.set tracingMap key attr) factories

/-- `NewRegister`: the factories run on the first call only; a later call returns the map the
first one stored, which a failed first call left empty. -/
def newRegister (blackListed : List String) (factories : List (String × Except String EventTracingAttr))
    (r : Register) : Except String (List (String × EventTracingAttr)) × Register :=
  if r.done then (.ok r.tracingEventAttrMap, r)
  else
    match registerLoop blackListed [] factories with
    | .error err => (.error err, { r with done := true })
    | .ok tracingMap => (.ok tracingMap, ⟨true, tracingMap⟩)

/-- The `Start` of a tracer returns one of the errors `doStart` tells apart, or another. -/
inductive TracerError
  | exitByCancelCtx
  | disconnectedHuatuo
  | notSupported
  | other (msg : String)
deriving DecidableEq, Repr

/-- `EventTracing`; `cancelCtx` is `nil` or the cancel function of context number `n`. -/
structure EventTracing where
  name : String
  interval : Int
  hitCount : ℕ
  cancelCtx : Option ℕ
  exit : Bool
  isRunning : Bool
  flag : UInt32
deriving DecidableEq, Repr

def newTracingEvent (tracing : EventTracingAttr) (name : String) : EventTracing :=
  ⟨name, tracing.internal, 0, none, false, false, tracing.flag⟩

structure MgrTracingEvent where
  tracingEvents : List (String × EventTracing)
  blackListed : List String
deriving DecidableEq, Repr

def newMgrTracingEvent (blackListed : List String)
    (factories : List (String × Except String EventTracingAttr)) (r : Register) :
    Except String MgrTracingEvent × Register :=
  match newRegister blackListed factories r with
  | (.error err, r) => (.error err, r)
  | (.ok tracings, r) =>
    let tracingEvents := (tracings.filter fun p => p.2.flag &&& flagTracing != 0).map
      fun p => (p.1, newTracingEvent p.2 p.1)
    (.ok ⟨tracingEvents, blackListed⟩, r)

structure EventTracingInfo where
  name : String
  running : Bool
  hitCount : ℕ
  interval : Int
  flag : UInt32
deriving DecidableEq, Repr

def EventTracing.info (c : EventTracing) : EventTracingInfo :=
  ⟨c.name, c.isRunning, c.hitCount, c.interval, c.flag⟩

/-! ## The tracers and their goroutines -/

/-- Where a supervising goroutine is in its loop: at `for !c.exit`, past that check, inside the
tracer's `Start` under a context, back from `doStart` before `c.hitCount++`, at
`if c.exit { break }`, in `time.Sleep`, and at `c.isRunning = false`. -/
inductive Pc
  | loopHead
  | doStart
  | inStart (ctx : ℕ)
  | hit
  | checkExit
  | sleep
  | exiting
deriving DecidableEq, Repr

/-- The manager's tracers, the goroutines by the tracer each supervises, the contexts whose cancel
function has been called, and the number of the next context. -/
structure TracingSystem where
  tracingEvents : List (String × EventTracing)
  blackListed : List String
  goroutines : List (String × Pc)
  cancelled : List ℕ
  nextCtx : ℕ
deriving DecidableEq, Repr

def TracingSystem.ofMgr (mgr : MgrTracingEvent) : TracingSystem :=
  ⟨mgr.tracingEvents, mgr.blackListed, [], [], 0⟩

def TracingSystem.setTracer (s : TracingSystem) (name : String) (c : EventTracing) : TracingSystem :=
  { s with tracingEvents := Keyed.set s.tracingEvents name c }

def TracingSystem.setPc (s : TracingSystem) (g : ℕ) (name : String) (pc : Pc) : TracingSystem :=
  { s with goroutines := s.goroutines.set g (name, pc) }

/-- The answer of a handler: its error, or a panic that `gin.Recovery` turns into a 500. -/
inductive Outcome
  | ok
  | error (err : String)
  | panic
deriving DecidableEq, Repr

def TracingSystem.startTracer (s : TracingSystem) (name : String) (c : EventTracing) :
    TracingSystem :=
  { s.setTracer name { c with isRunning := true, exit := false } with
    goroutines := s.goroutines ++ [(name, .loopHead)] }

/-- `EventTracing.Stop`: `exit` is set, then the cancel function is called, which panics where
it is `nil`. -/
def TracingSystem.stopTracer (s : TracingSystem) (name : String) (c : EventTracing) :
    Outcome × TracingSystem :=
  let s := s.setTracer name { c with exit := true }
  match c.cancelCtx with
  | none => (.panic, s)
  | some ctx => (.ok, { s with cancelled := ctx :: s.cancelled })

/-- `fmt.Errorf("%q …", name)` for the names of tracers. -/
def quoted (name : String) : String :=
  "\"" ++ name ++ "\""

def mgrTracingEventStart (s : TracingSystem) (name : String) : Outcome × TracingSystem :=
  match s.tracingEvents.lookup name with
  | none => (.error (quoted name ++ " not found"), s)
  | some te =>
    if s.blackListed.contains name then
      (.error (quoted name ++ " blackListed"), s.setTracer name { te with isRunning := false })
    else if te.isRunning then (.error (quoted name ++ " already running"), s)
    else (.ok, s.startTracer name te)

def mgrTracingEventStop (s : TracingSystem) (name : String) : Outcome × TracingSystem :=
  match s.tracingEvents.lookup name with
  | none => (.error (quoted name ++ " not found"), s)
  | some te =>
    if !te.isRunning then (.error (quoted name ++ " not running"), s)
    else s.stopTracer name te

/-- `MgrTracingEventStartAll`, `names` being the order its range loop visits the map in. -/
def mgrTracingEventStartAll (s : TracingSystem) : List String → Outcome × TracingSystem
  | [] => (.ok, s)
  | name :: names =>
    match mgrTracingEventStart s name with
    | (.ok, s) => mgrTracingEventStartAll s names
    | r => r

def mgrTracingEventStopAll (s : TracingSystem) : List String → Outcome × TracingSystem
  | [] => (.ok, s)
  | name :: names =>
    match mgrTracingEventStop s name with
    | (.ok, s) => mgrTracingEventStopAll s names
    | r => r

def mgrTracingInfoDump (s : TracingSystem) : List (String × EventTracingInfo) :=
  s.tracingEvents.map fun p => (p.1, p.2.info)

/-- One statement of the goroutine at index `g`; inside the tracer's `Start` it waits. -/
def goroutineStep (s : TracingSystem) (g : ℕ) : TracingSystem :=
  match s.goroutines[g]? with
  | none => s
  | some (name, pc) =>
    match s.tracingEvents.lookup name with
    | none => s
    | some c =>
      match pc with
      | .loopHead => s.setPc g name (if c.exit then .exiting else .doStart)
      | .doStart =>
        -- `context.WithCancel`, its cancel function stored and deferred, and the call
        { (s.setTracer name { c with cancelCtx := some s.nextCtx }).setPc g name (.inStart s.nextCtx)
          with nextCtx := s.nextCtx + 1 }
      | .inStart _ => s
      | .hit => (s.setTracer name { c with hitCount := c.hitCount + 1 }).setPc g name .checkExit
      | .checkExit => s.setPc g name (if c.exit then .exiting else .sleep)
      | .sleep => s.setPc g name .loopHead
      | .exiting =>
        { s.setTracer name { c with isRunning := false } with goroutines := s.goroutines.eraseIdx g }

/-- The tracer's `Start` returns to the goroutine at index `g`: `ErrNotSupported` sets `exit`,
and the deferred call cancels the context of the call. -/
def tracerReturn (s : TracingSystem) (g : ℕ) (err : Option TracerError) : TracingSystem :=
  match s.goroutines[g]? with
  | some (name, .inStart ctx) =>
    match s.tracingEvents.lookup name with
    | none => s
    | some c =>
      let c := if err = some .notSupported then { c with exit := true } else c
      { (s.setTracer name c).setPc g name .hit with cancelled := ctx :: s.cancelled }
  | _ => s

/-- What moves the system: the handlers of `/tracer/start`, `/tracer/stop` and
`/tracer/stop_all`, a goroutine's next statement, and a tracer's `Start` returning. -/
inductive TracingAction
  | start (name : String)
  | stop (name : String)
  | stopAll (names : List String)
  | run (g : ℕ)
  | ret (g : ℕ) (err : Option TracerError)
deriving DecidableEq, Repr

def tracingStep (s : TracingSystem) : TracingAction → TracingSystem
  | .start name => (mgrTracingEventStart s name).2
  | .stop name => (mgrTracingEventStop s name).2
  | .stopAll names => (mgrTracingEventStopAll s names).2
  | .run g => goroutineStep s g
  | .ret g err => tracerReturn s g err

/-! ## One goroutine per tracer -/

namespace TracingSystem

/-- Where the goroutine of tracer `name` is, if it has one. -/
def pcOf (s : TracingSystem) (name : String) : Option Pc :=
  s.goroutines.lookup name

/-- What holds of a tracer and its goroutine, given the contexts cancelled and made so far: the
tracer runs while it has a goroutine; inside `Start` its `cancelCtx` cancels the call's context;
elsewhere that context has been cancelled; and it has been made. -/
structure TracerInv (cancelled : List ℕ) (nextCtx : ℕ) (c : EventTracing) (pc : Option Pc) :
    Prop where
  running : c.isRunning = true ↔ pc.isSome
  inStart : ∀ ctx, pc = some (.inStart ctx) → c.cancelCtx = some ctx
  cancelled : ∀ ctx, c.cancelCtx = some ctx → pc ≠ some (.inStart ctx) → ctx ∈ cancelled
  fresh : ∀ ctx, c.cancelCtx = some ctx → ctx < nextCtx

structure Inv (s : TracingSystem) : Prop where
  tracers_nodup : (s.tracingEvents.map Prod.fst).Nodup
  goroutines_nodup : (s.goroutines.map Prod.fst).Nodup
  goroutine_tracer : ∀ name, (s.pcOf name).isSome → (s.tracingEvents.lookup name).isSome
  blackListed : ∀ name ∈ s.blackListed, name ∉ s.tracingEvents.map Prod.fst
  cancelled_lt : ∀ ctx ∈ s.cancelled, ctx < s.nextCtx
  tracer : ∀ name c, s.tracingEvents.lookup name = some c →
    TracerInv s.cancelled s.nextCtx c (s.pcOf name)

theorem TracerInv.mono {cancelled cancelled' : List ℕ} {nextCtx nextCtx' : ℕ} {c : EventTracing}
    {pc : Option Pc} (h : TracerInv cancelled nextCtx c pc) (hc : cancelled ⊆ cancelled')
    (hn : nextCtx ≤ nextCtx') : TracerInv cancelled' nextCtx' c pc :=
  ⟨h.running, h.inStart, fun ctx h₁ h₂ => hc (h.cancelled ctx h₁ h₂),
    fun ctx h₁ => Nat.lt_of_lt_of_le (h.fresh ctx h₁) hn⟩

variable {s s' : TracingSystem}

theorem Inv.update (hs : s.Inv) {n : String} {c c' : EventTracing}
    (hc : s.tracingEvents.lookup n = some c)
    (htracers : s'.tracingEvents = Keyed.set s.tracingEvents n c')
    (hblack : s'.blackListed = s.blackListed)
    (hnodup : (s'.goroutines.map Prod.fst).Nodup)
    (hpc : ∀ m, m ≠ n → s'.pcOf m = s.pcOf m)
    (hcancelled : s.cancelled ⊆ s'.cancelled) (hnext : s.nextCtx ≤ s'.nextCtx)
    (hlt : ∀ ctx ∈ s'.cancelled, ctx < s'.nextCtx)
    (hn : TracerInv s'.cancelled s'.nextCtx c' (s'.pcOf n)) : s'.Inv := by
  have hkeys : s'.tracingEvents.map Prod.fst = s.tracingEvents.map Prod.fst := by
    rw [htracers, Keyed.map_fst_set, if_pos (Keyed.mem_of_lookup_isSome (by simp [hc]))]
  have hlookup : ∀ m, s'.tracingEvents.lookup m = if m = n then some c' else s.tracingEvents.lookup m :=
    fun m => by rw [htracers, Keyed.lookup_set]
  refine ⟨hkeys ▸ hs.tracers_nodup, hnodup, fun m hm => ?_, fun m hm => ?_, hlt, fun m cm hcm => ?_⟩
  · rw [hlookup m]
    split_ifs with hmn
    · rfl
    · exact hs.goroutine_tracer m (hpc m hmn ▸ hm)
  · rw [hkeys]
    exact hs.blackListed m (hblack ▸ hm)
  · rw [hlookup m] at hcm
    split_ifs at hcm with hmn
    · cases hcm
      subst hmn
      exact hn
    · rw [hpc m hmn]
      exact (hs.tracer m cm hcm).mono hcancelled hnext

theorem pcOf_of_getElem? (hs : s.Inv) {g : ℕ} {n : String} {pc : Pc}
    (hg : s.goroutines[g]? = some (n, pc)) : s.pcOf n = some pc :=
  Keyed.lookup_of_mem hs.goroutines_nodup (List.mem_of_getElem? hg)

theorem setPc_goroutines (hs : s.Inv) {g : ℕ} {n : String} {pc : Pc}
    (hg : s.goroutines[g]? = some (n, pc)) (pc' : Pc) :
    s.goroutines.set g (n, pc') = Keyed.set s.goroutines n pc' :=
  Keyed.listSet_eq_set hs.goroutines_nodup (by simp [hg])

theorem eraseIdx_goroutines (hs : s.Inv) {g : ℕ} {n : String} {pc : Pc}
    (hg : s.goroutines[g]? = some (n, pc)) :
    s.goroutines.eraseIdx g = Keyed.delete s.goroutines n :=
  Keyed.eraseIdx_eq_delete hs.goroutines_nodup (by simp [hg])

theorem TracerInv.of_eq {cancelled : List ℕ} {nextCtx : ℕ} {c c' : EventTracing} {pc : Option Pc}
    (h : TracerInv cancelled nextCtx c pc) (hr : c'.isRunning = c.isRunning)
    (hcc : c'.cancelCtx = c.cancelCtx) : TracerInv cancelled nextCtx c' pc :=
  ⟨hr ▸ h.running, fun ctx hp => hcc ▸ h.inStart ctx hp,
    fun ctx h₁ h₂ => h.cancelled ctx (hcc ▸ h₁) h₂, fun ctx h₁ => h.fresh ctx (hcc ▸ h₁)⟩

theorem Inv.move (hs : s.Inv) {g : ℕ} {n : String} {pc pc' : Pc} {c c' : EventTracing}
    (hg : s.goroutines[g]? = some (n, pc)) (hc : s.tracingEvents.lookup n = some c)
    (htracers : s'.tracingEvents = Keyed.set s.tracingEvents n c')
    (hblack : s'.blackListed = s.blackListed) (hgs : s'.goroutines = s.goroutines.set g (n, pc'))
    (hcancelled : s.cancelled ⊆ s'.cancelled) (hnext : s.nextCtx ≤ s'.nextCtx)
    (hlt : ∀ ctx ∈ s'.cancelled, ctx < s'.nextCtx)
    (ht : TracerInv s'.cancelled s'.nextCtx c' (some pc')) : s'.Inv := by
  have hkeyed : s'.goroutines = Keyed.set s.goroutines n pc' := by
    rw [hgs, setPc_goroutines hs hg]
  have hpc : ∀ m, s'.pcOf m = if m = n then some pc' else s.pcOf m := fun m => by
    rw [pcOf, hkeyed, Keyed.lookup_set, pcOf]
  refine hs.update hc htracers hblack ?_ (fun m hm => by rw [hpc m, if_neg hm]) hcancelled hnext
    hlt ?_
  · rw [hkeyed]
    exact Keyed.nodup_set hs.goroutines_nodup
  · rw [hpc n, if_pos rfl]
    exact ht

theorem Inv.setTracer (hs : s.Inv) {n : String} {c c' : EventTracing}
    (hc : s.tracingEvents.lookup n = some c) (hr : c'.isRunning = c.isRunning)
    (hcc : c'.cancelCtx = c.cancelCtx) : (s.setTracer n c').Inv :=
  hs.update hc rfl rfl hs.goroutines_nodup (fun _ _ => rfl) (List.Subset.refl _) le_rfl
    hs.cancelled_lt ((hs.tracer n c hc).of_eq hr hcc)

theorem Inv.stopTracer (hs : s.Inv) {n : String} {c : EventTracing}
    (hc : s.tracingEvents.lookup n = some c) : (s.stopTracer n c).2.Inv := by
  have ht := hs.tracer n c hc
  unfold TracingSystem.stopTracer
  cases hctx : c.cancelCtx with
  | none => exact hs.setTracer hc rfl hctx.symm
  | some ctx =>
    refine hs.update hc rfl rfl hs.goroutines_nodup (fun _ _ => rfl) (List.subset_cons_self _ _)
      le_rfl ?_ ?_
    · intro x hx
      rcases List.mem_cons.1 hx with rfl | hx
      · exact ht.fresh x hctx
      · exact hs.cancelled_lt x hx
    · exact (ht.mono (List.subset_cons_self _ _) le_rfl).of_eq rfl hctx.symm

theorem Inv.mgrTracingEventStop (hs : s.Inv) (name : String) : (mgrTracingEventStop s name).2.Inv := by
  unfold Tracing.mgrTracingEventStop
  cases hc : s.tracingEvents.lookup name with
  | none => exact hs
  | some c =>
    dsimp only
    split_ifs
    · exact hs
    · exact hs.stopTracer hc

theorem Inv.mgrTracingEventStopAll : ∀ {s : TracingSystem} (names : List String), s.Inv →
    (mgrTracingEventStopAll s names).2.Inv
  | s, [], hs => hs
  | s, name :: names, hs => by
    have hstop := hs.mgrTracingEventStop name
    unfold Tracing.mgrTracingEventStopAll
    rcases hr : Tracing.mgrTracingEventStop s name with ⟨_ | err | _, s₁⟩
    · rw [hr] at hstop
      exact Inv.mgrTracingEventStopAll names hstop
    · rw [hr] at hstop
      exact hstop
    · rw [hr] at hstop
      exact hstop

theorem Inv.mgrTracingEventStart (hs : s.Inv) (name : String) :
    (mgrTracingEventStart s name).2.Inv := by
  unfold Tracing.mgrTracingEventStart
  cases hc : s.tracingEvents.lookup name with
  | none => exact hs
  | some c =>
    dsimp only
    by_cases hb : s.blackListed.contains name = true
    · -- the manager holds no tracer of the blacklist
      exact absurd (Keyed.mem_of_lookup_isSome (by simp [hc]))
        (hs.blackListed name (List.contains_iff_mem.1 hb))
    · rw [if_neg hb]
      by_cases hr : c.isRunning = true
      · rw [if_pos hr]
        exact hs
      · rw [if_neg hr]
        have ht := hs.tracer name c hc
        have hnone : s.pcOf name = none := by
          have := ht.running
          cases hp : s.pcOf name with
          | none => rfl
          | some pc => simp [hp, hr] at this
        have hnot : name ∉ s.goroutines.map Prod.fst := fun hm => by
          have := Keyed.lookup_isSome_of_mem hm
          rw [← pcOf, hnone] at this
          exact Bool.false_ne_true this
        have hgs : s.goroutines ++ [(name, Pc.loopHead)] = Keyed.set s.goroutines name .loopHead :=
          (Keyed.set_of_not_mem hnot).symm
        have hpc : ∀ m, (s.startTracer name c).pcOf m =
            if m = name then some .loopHead else s.pcOf m := fun m => by
          rw [pcOf, startTracer]
          dsimp only
          rw [hgs, Keyed.lookup_set, pcOf]
        rw [hnone] at ht
        refine hs.update hc rfl rfl ?_ (fun m hm => by rw [hpc m, if_neg hm]) (List.Subset.refl _)
          le_rfl hs.cancelled_lt ?_
        · show ((s.goroutines ++ [(name, Pc.loopHead)]).map Prod.fst).Nodup
          rw [hgs]
          exact Keyed.nodup_set hs.goroutines_nodup
        · rw [hpc name, if_pos rfl]
          refine ⟨?_, fun ctx h => ?_, fun ctx h₁ _ => ht.cancelled ctx h₁ (by simp), ht.fresh⟩
          · simp
          · cases h

theorem Inv.goroutineStep (hs : s.Inv) (g : ℕ) : (goroutineStep s g).Inv := by
  unfold Tracing.goroutineStep
  cases hg : s.goroutines[g]? with
  | none => exact hs
  | some p =>
    obtain ⟨n, pc⟩ := p
    dsimp only
    cases hc : s.tracingEvents.lookup n with
    | none => exact hs
    | some c =>
      dsimp only
      have ht := hs.tracer n c hc
      rw [pcOf_of_getElem? hs hg] at ht
      have hsame : s.tracingEvents = Keyed.set s.tracingEvents n c :=
        (Keyed.set_self hs.tracers_nodup hc).symm
      have hout : ∀ pc', (∀ ctx, pc' ≠ .inStart ctx) → (∀ ctx, pc ≠ .inStart ctx) →
          TracerInv s.cancelled s.nextCtx c (some pc') := by
        intro pc' h₁ h₂
        refine ⟨?_, fun ctx hp => absurd (Option.some.inj hp) (h₁ ctx),
          fun ctx hcc _ => ht.cancelled ctx hcc (fun hp => h₂ ctx (Option.some.inj hp)), ht.fresh⟩
        simpa using ht.running
      cases pc with
      | loopHead =>
        exact hs.move hg hc hsame rfl rfl (List.Subset.refl _) le_rfl hs.cancelled_lt
          (hout _ (by split_ifs <;> simp) (by simp))
      | doStart =>
        refine hs.move hg hc rfl rfl rfl (List.Subset.refl _) (Nat.le_succ _) ?_ ?_
        · exact fun ctx hctx => Nat.lt_succ_of_lt (hs.cancelled_lt ctx hctx)
        · refine ⟨?_, fun ctx hp => ?_, fun ctx hcc hp => ?_, fun ctx hcc => ?_⟩
          · simpa using ht.running
          · cases hp
            rfl
          · cases hcc
            exact absurd rfl hp
          · cases hcc
            exact Nat.lt_succ_self _
      | inStart ctx => exact hs
      | hit =>
        exact hs.move hg hc rfl rfl rfl (List.Subset.refl _) le_rfl hs.cancelled_lt
          ((hout .checkExit (by simp) (by simp)).of_eq rfl rfl)
      | checkExit =>
        exact hs.move hg hc hsame rfl rfl (List.Subset.refl _) le_rfl hs.cancelled_lt
          (hout _ (by split_ifs <;> simp) (by simp))
      | sleep =>
        exact hs.move hg hc hsame rfl rfl (List.Subset.refl _) le_rfl hs.cancelled_lt
          (hout .loopHead (by simp) (by simp))
      | exiting =>
        have hdel : s.goroutines.eraseIdx g = Keyed.delete s.goroutines n := eraseIdx_goroutines hs hg
        have hpc : ∀ m, ({ s.setTracer n { c with isRunning := false } with
            goroutines := s.goroutines.eraseIdx g } : TracingSystem).pcOf m =
            if m = n then none else s.pcOf m := fun m => by
          rw [pcOf]
          dsimp only
          rw [hdel, Keyed.lookup_delete, pcOf]
        refine hs.update hc rfl rfl ?_ (fun m hm => by rw [hpc m, if_neg hm]) (List.Subset.refl _)
          le_rfl hs.cancelled_lt ?_
        · show ((s.goroutines.eraseIdx g).map Prod.fst).Nodup
          rw [hdel]
          exact Keyed.nodup_delete hs.goroutines_nodup
        · rw [hpc n, if_pos rfl]
          refine ⟨?_, fun ctx h => ?_, fun ctx hcc _ => ht.cancelled ctx hcc (by simp), ht.fresh⟩
          · simp
          · cases h

theorem Inv.tracerReturn (hs : s.Inv) (g : ℕ) (err : Option TracerError) :
    (tracerReturn s g err).Inv := by
  unfold Tracing.tracerReturn
  cases hg : s.goroutines[g]? with
  | none => exact hs
  | some p =>
    obtain ⟨n, pc⟩ := p
    cases pc with
    | inStart ctx =>
      dsimp only
      cases hc : s.tracingEvents.lookup n with
      | none => exact hs
      | some c =>
        dsimp only
        have ht := hs.tracer n c hc
        rw [pcOf_of_getElem? hs hg] at ht
        have hctx : c.cancelCtx = some ctx := ht.inStart ctx rfl
        refine hs.move hg hc rfl rfl rfl (List.subset_cons_self _ _) le_rfl ?_ ?_
        · intro x hx
          rcases List.mem_cons.1 hx with rfl | hx
          · exact ht.fresh x hctx
          · exact hs.cancelled_lt x hx
        · have hc' : ∀ c' : EventTracing, c'.isRunning = c.isRunning → c'.cancelCtx = c.cancelCtx →
              TracerInv (ctx :: s.cancelled) s.nextCtx c' (some .hit) := by
            intro c' hr hcc
            refine ⟨?_, fun x hp => ?_, fun x hx _ => ?_, fun x hx => ht.fresh x (hcc ▸ hx)⟩
            · rw [hr]
              simpa using ht.running
            · cases hp
            rw [hcc, hctx] at hx
            cases hx
            exact List.mem_cons_self
          split_ifs
          · exact hc' _ rfl rfl
          · exact hc' _ rfl rfl
    | _ => dsimp only; exact hs

theorem Inv.tracingStep (hs : s.Inv) : ∀ a : TracingAction, (Tracing.tracingStep s a).Inv
  | .start name => hs.mgrTracingEventStart name
  | .stop name => hs.mgrTracingEventStop name
  | .stopAll names => Inv.mgrTracingEventStopAll names hs
  | .run g => hs.goroutineStep g
  | .ret g err => hs.tracerReturn g err

end TracingSystem

open TracingSystem

/-! ## The manager `NewMgrTracingEvent` builds -/

theorem registerLoop_keys {blackListed : List String} :
    ∀ {tracingMap m : List (String × EventTracingAttr)}
      {factories : List (String × Except String EventTracingAttr)},
      registerLoop blackListed tracingMap factories = .ok m → (tracingMap.map Prod.fst).Nodup →
      (∀ k ∈ tracingMap.map Prod.fst, k ∉ blackListed) →
      (m.map Prod.fst).Nodup ∧ ∀ k ∈ m.map Prod.fst, k ∉ blackListed
  | tracingMap, m, [], h, hn, hb => by
    cases h
    exact ⟨hn, hb⟩
  | tracingMap, m, (key, factory) :: factories, h, hn, hb => by
    unfold registerLoop at h
    split_ifs at h with hkey
    · exact registerLoop_keys h hn hb
    · cases factory with
      | error err => cases h
      | ok attr =>
        dsimp only at h
        split_ifs at h with hflag
        refine registerLoop_keys h (Keyed.nodup_set hn) fun k hk => ?_
        rw [Keyed.map_fst_set] at hk
        split_ifs at hk
        · exact hb k hk
        · rcases List.mem_append.1 hk with hk | hk
          · exact hb k hk
          · rw [List.mem_singleton.1 hk]
            exact fun hm => hkey (List.contains_iff_mem.2 hm)

/-- A manager built on the first call holds distinct tracers, none of the blacklist, none running
and none with a context. -/
theorem newMgrTracingEvent_inv {blackListed : List String}
    {factories : List (String × Except String EventTracingAttr)} {mgr : MgrTracingEvent}
    {r : Register} (h : newMgrTracingEvent blackListed factories Register.init = (.ok mgr, r)) :
    (TracingSystem.ofMgr mgr).Inv := by
  unfold newMgrTracingEvent newRegister at h
  simp only [Register.init, Bool.false_eq_true, if_false] at h
  rcases hloop : registerLoop blackListed [] factories with err | tracings
  · simp [hloop] at h
  · simp only [hloop, Prod.mk.injEq, Except.ok.injEq] at h
    obtain ⟨rfl, -⟩ := h
    obtain ⟨hnodup, hblack⟩ := registerLoop_keys hloop List.nodup_nil (by simp)
    have hkeys : ((tracings.filter fun p => p.2.flag &&& flagTracing != 0).map
        (fun p => (p.1, newTracingEvent p.2 p.1))).map Prod.fst =
        (tracings.filter fun p => p.2.flag &&& flagTracing != 0).map Prod.fst := by
      simp [Function.comp_def]
    have hsub : ((tracings.filter fun p => p.2.flag &&& flagTracing != 0).map Prod.fst).Sublist
        (tracings.map Prod.fst) := List.filter_sublist.map Prod.fst
    refine ⟨?_, List.nodup_nil, fun name hn => by simp [pcOf, TracingSystem.ofMgr] at hn,
      fun name hn hk => ?_, fun ctx hctx => by simp [TracingSystem.ofMgr] at hctx,
      fun name c hc => ?_⟩
    · dsimp only [TracingSystem.ofMgr]
      rw [hkeys]
      exact hnodup.sublist hsub
    · dsimp only [TracingSystem.ofMgr] at hk
      rw [hkeys] at hk
      exact hblack name (hsub.subset hk) hn
    · -- every tracer is as `NewTracingEvent` made it
      obtain ⟨p, -, hp⟩ := List.mem_map.1 (Keyed.mem_of_lookup_eq_some hc)
      cases hp
      refine ⟨by simp [newTracingEvent, pcOf, TracingSystem.ofMgr], fun ctx h => ?_,
        fun ctx h => ?_, fun ctx h => ?_⟩ <;> simp [pcOf, TracingSystem.ofMgr, newTracingEvent] at h

/-! ## Runs -/

theorem TracingSystem.Inv.run {s : TracingSystem} (hs : s.Inv) (acts : List TracingAction) :
    (Machine.run Tracing.tracingStep s acts).Inv :=
  Machine.run_invariant_always (fun _ a hs => hs.tracingStep a) hs

/-- Over any interleaving of the HTTP handlers, the goroutines' statements and the tracers'
returns, from a manager `NewMgrTracingEvent` built: each tracer has at most one supervising
goroutine, it has one exactly while it is marked running, and while that goroutine is inside the
tracer's `Start`, the tracer's `cancelCtx` cancels that call's context. -/
theorem tracing_one_supervisor {blackListed : List String}
    {factories : List (String × Except String EventTracingAttr)} {mgr : MgrTracingEvent}
    {r : Register} (hmgr : newMgrTracingEvent blackListed factories Register.init = (.ok mgr, r))
    (acts : List TracingAction) :
    let s := Machine.run tracingStep (TracingSystem.ofMgr mgr) acts
    (s.goroutines.map Prod.fst).Nodup ∧
      ∀ name c, s.tracingEvents.lookup name = some c →
        (c.isRunning = true ↔ name ∈ s.goroutines.map Prod.fst) ∧
          ∀ ctx, (name, Pc.inStart ctx) ∈ s.goroutines → c.cancelCtx = some ctx := by
  intro s
  have hs : s.Inv := (newMgrTracingEvent_inv hmgr).run acts
  refine ⟨hs.goroutines_nodup, fun name c hc => ⟨?_, fun ctx hin => ?_⟩⟩
  · rw [(hs.tracer name c hc).running]
    exact ⟨fun h => Keyed.mem_of_lookup_isSome h, fun h => Keyed.lookup_isSome_of_mem h⟩
  · exact (hs.tracer name c hc).inStart ctx (Keyed.lookup_of_mem hs.goroutines_nodup hin)


theorem tracing_one_supervisor_netdev_hw :
    newMgrTracingEvent [] [("netdev_hw", .ok ⟨10, 3⟩)] Register.init =
        (.ok ⟨[("netdev_hw", newTracingEvent ⟨10, 3⟩ "netdev_hw")], []⟩,
          ⟨true, [("netdev_hw", ⟨10, 3⟩)]⟩) ∧
      let s := Machine.run tracingStep
        (TracingSystem.ofMgr ⟨[("netdev_hw", newTracingEvent ⟨10, 3⟩ "netdev_hw")], []⟩)
        [.start "netdev_hw", .run 0, .run 0, .stop "netdev_hw"]
      (s.goroutines.map Prod.fst).Nodup ∧
        ∀ name c, s.tracingEvents.lookup name = some c →
          (c.isRunning = true ↔ name ∈ s.goroutines.map Prod.fst) ∧
            ∀ ctx, (name, Pc.inStart ctx) ∈ s.goroutines → c.cancelCtx = some ctx := by
  have hmgr : newMgrTracingEvent [] [("netdev_hw", .ok ⟨10, 3⟩)] Register.init =
      (.ok ⟨[("netdev_hw", newTracingEvent ⟨10, 3⟩ "netdev_hw")], []⟩,
        ⟨true, [("netdev_hw", ⟨10, 3⟩)]⟩) := rfl
  exact ⟨hmgr, tracing_one_supervisor hmgr _⟩


/-! ## What a stop does -/

namespace TracingSystem

variable {s : TracingSystem}

theorem lookup_setTracer (s : TracingSystem) (m n : String) (c : EventTracing) :
    (s.setTracer m c).tracingEvents.lookup n = if n = m then some c else s.tracingEvents.lookup n :=
  Keyed.lookup_set n

theorem Inv.lookup_set_goroutines (hs : s.Inv) {g : ℕ} {m : String} {pc : Pc}
    (hg : s.goroutines[g]? = some (m, pc)) (pc' : Pc) (n : String) :
    (s.goroutines.set g (m, pc')).lookup n = if n = m then some pc' else s.pcOf n := by
  rw [setPc_goroutines hs hg, Keyed.lookup_set, pcOf]

theorem Inv.lookup_eraseIdx_goroutines (hs : s.Inv) {g : ℕ} {m : String} {pc : Pc}
    (hg : s.goroutines[g]? = some (m, pc)) (n : String) :
    (s.goroutines.eraseIdx g).lookup n = if n = m then none else s.pcOf n := by
  rw [eraseIdx_goroutines hs hg, Keyed.lookup_delete, pcOf]

/-- After a stop of tracer `n`, the contexts numbered below `k` having been made before it: `exit`
is set, its goroutine is not between its check of `exit` and the call, and a call it is in runs
under a context made before. -/
structure Quiet (n : String) (k : ℕ) (s : TracingSystem) : Prop where
  exit : ∀ c, s.tracingEvents.lookup n = some c → c.exit = true
  notDoStart : s.pcOf n ≠ some .doStart
  old : ∀ ctx, s.pcOf n = some (.inStart ctx) → ctx < k

theorem Quiet.of_view {n : String} {k : ℕ} {s' : TracingSystem} (hq : Quiet n k s)
    (hl : s'.tracingEvents.lookup n = s.tracingEvents.lookup n) (hp : s'.pcOf n = s.pcOf n) :
    Quiet n k s' :=
  ⟨fun c hc => hq.exit c (hl ▸ hc), hp ▸ hq.notDoStart, fun ctx h => hq.old ctx (hp ▸ h)⟩

theorem stopTracer_tracingEvents (n : String) (c : EventTracing) :
    (s.stopTracer n c).2.tracingEvents = (s.setTracer n { c with exit := true }).tracingEvents := by
  unfold stopTracer
  split <;> rfl

theorem stopTracer_goroutines (n : String) (c : EventTracing) :
    (s.stopTracer n c).2.goroutines = s.goroutines := by
  unfold stopTracer
  split <;> rfl

theorem stopTracer_nextCtx (n : String) (c : EventTracing) :
    (s.stopTracer n c).2.nextCtx = s.nextCtx := by
  unfold stopTracer
  split <;> rfl

theorem mgrTracingEventStop_of_running {n : String} {c : EventTracing}
    (hc : s.tracingEvents.lookup n = some c) (hrun : c.isRunning = true) :
    mgrTracingEventStop s n = s.stopTracer n c := by
  unfold mgrTracingEventStop
  rw [hc]
  simp [hrun]

theorem mgrTracingEventStop_goroutines (m : String) :
    (mgrTracingEventStop s m).2.goroutines = s.goroutines := by
  unfold mgrTracingEventStop
  split
  · rfl
  · split_ifs
    · rfl
    · unfold stopTracer
      split <;> rfl

theorem mgrTracingEventStop_exit {n : String}
    (hexit : ∀ c, s.tracingEvents.lookup n = some c → c.exit = true) (m : String) :
    ∀ c, (mgrTracingEventStop s m).2.tracingEvents.lookup n = some c → c.exit = true := by
  intro c' hc'
  unfold mgrTracingEventStop at hc'
  cases hm : s.tracingEvents.lookup m with
  | none =>
    rw [hm] at hc'
    exact hexit c' hc'
  | some te =>
    rw [hm] at hc'
    dsimp only at hc'
    split_ifs at hc'
    · exact hexit c' hc'
    · -- the stopped tracer is written back with `exit` set, any other as it was
      have hset : (s.setTracer m { te with exit := true }).tracingEvents.lookup n = some c' →
          c'.exit = true := by
        intro h
        rw [lookup_setTracer] at h
        split_ifs at h
        · cases h
          rfl
        · exact hexit c' h
      unfold stopTracer at hc'
      split at hc'
      · exact hset hc'
      · exact hset hc'

theorem Quiet.mgrTracingEventStop {n : String} {k : ℕ} (hq : Quiet n k s) (m : String) :
    Quiet n k (Tracing.mgrTracingEventStop s m).2 :=
  ⟨mgrTracingEventStop_exit hq.exit m, by rw [pcOf, mgrTracingEventStop_goroutines]; exact hq.notDoStart,
    fun ctx h => hq.old ctx (by rw [pcOf, mgrTracingEventStop_goroutines] at h; exact h)⟩

theorem Quiet.mgrTracingEventStopAll {n : String} {k : ℕ} :
    ∀ {s : TracingSystem} (names : List String), Quiet n k s →
      Quiet n k (Tracing.mgrTracingEventStopAll s names).2
  | s, [], hq => hq
  | s, m :: names, hq => by
    have hstop := hq.mgrTracingEventStop m
    unfold Tracing.mgrTracingEventStopAll
    rcases hr : Tracing.mgrTracingEventStop s m with ⟨_ | err | _, s₁⟩
    · rw [hr] at hstop
      exact Quiet.mgrTracingEventStopAll names hstop
    · rw [hr] at hstop
      exact hstop
    · rw [hr] at hstop
      exact hstop

theorem Quiet.mgrTracingEventStart {n : String} {k : ℕ} (hs : s.Inv) (hq : Quiet n k s)
    {m : String} (hmn : m ≠ n) : Quiet n k (Tracing.mgrTracingEventStart s m).2 := by
  unfold Tracing.mgrTracingEventStart
  cases hc : s.tracingEvents.lookup m with
  | none => exact hq
  | some c =>
    dsimp only
    have hnm : n ≠ m := Ne.symm hmn
    split_ifs with hb hr
    · exact hq.of_view (by rw [lookup_setTracer, if_neg hnm]) rfl
    · exact hq
    · -- the new goroutine is `m`'s, which had none
      have hnone : s.pcOf m = none := by
        have := (hs.tracer m c hc).running
        cases hp : s.pcOf m with
        | none => rfl
        | some pc => simp [hp, hr] at this
      have hnot : m ∉ s.goroutines.map Prod.fst := fun hm => by
        have := Keyed.lookup_isSome_of_mem hm
        rw [← pcOf, hnone] at this
        exact Bool.false_ne_true this
      refine hq.of_view (by rw [startTracer, lookup_setTracer, if_neg hnm]) ?_
      rw [pcOf, startTracer]
      dsimp only
      rw [← Keyed.set_of_not_mem hnot, Keyed.lookup_set, if_neg hnm, pcOf]

theorem Quiet.goroutineStep {n : String} {k : ℕ} (hs : s.Inv) (hq : Quiet n k s) (g : ℕ) :
    Quiet n k (Tracing.goroutineStep s g) := by
  unfold Tracing.goroutineStep
  cases hg : s.goroutines[g]? with
  | none => exact hq
  | some p =>
    obtain ⟨m, pc⟩ := p
    dsimp only
    cases hc : s.tracingEvents.lookup m with
    | none => exact hq
    | some c =>
      dsimp only
      by_cases hnm : n = m
      · subst hnm
        have hpc := pcOf_of_getElem? hs hg
        have hexit := hq.exit c hc
        have hto : ∀ (s' : TracingSystem) (pc' : Pc),
            s'.tracingEvents.lookup n = (s.setTracer n { c with hitCount := c.hitCount + 1 }).tracingEvents.lookup n ∨
              s'.tracingEvents.lookup n = s.tracingEvents.lookup n →
            s'.goroutines = s.goroutines.set g (n, pc') → pc' ≠ .doStart →
            (∀ ctx, pc' ≠ .inStart ctx) → Quiet n k s' := by
          intro s' pc' hl hgs hd hi
          refine ⟨fun c' hc' => ?_, ?_, fun ctx h => ?_⟩
          · rcases hl with hl | hl
            · rw [hl, lookup_setTracer, if_pos rfl] at hc'
              cases hc'
              exact hexit
            · exact hq.exit c' (hl ▸ hc')
          · rw [pcOf, hgs, hs.lookup_set_goroutines hg, if_pos rfl]
            exact fun h => hd (Option.some.inj h)
          · rw [pcOf, hgs, hs.lookup_set_goroutines hg, if_pos rfl] at h
            exact absurd (Option.some.inj h) (hi ctx)
        cases pc with
        | loopHead =>
          dsimp only
          rw [if_pos hexit]
          exact hto _ .exiting (.inr rfl) rfl (by simp) (by simp)
        | doStart => exact absurd hpc hq.notDoStart
        | inStart ctx => exact hq
        | hit => exact hto _ .checkExit (.inl rfl) rfl (by simp) (by simp)
        | checkExit =>
          dsimp only
          rw [if_pos hexit]
          exact hto _ .exiting (.inr rfl) rfl (by simp) (by simp)
        | sleep => exact hto _ .loopHead (.inr rfl) rfl (by simp) (by simp)
        | exiting =>
          dsimp only
          refine ⟨fun c' hc' => ?_, ?_, fun ctx h => ?_⟩
          · rw [lookup_setTracer, if_pos rfl] at hc'
            cases hc'
            exact hexit
          · rw [pcOf]
            dsimp only
            rw [hs.lookup_eraseIdx_goroutines hg, if_pos rfl]
            simp
          · rw [pcOf] at h
            dsimp only at h
            rw [hs.lookup_eraseIdx_goroutines hg, if_pos rfl] at h
            cases h
      · -- another tracer's goroutine leaves `n`'s record and goroutine as they are
        have hpc' : ∀ pc', (s.goroutines.set g (m, pc')).lookup n = s.pcOf n := fun pc' => by
          rw [hs.lookup_set_goroutines hg, if_neg hnm]
        have hl : ∀ c', (s.setTracer m c').tracingEvents.lookup n = s.tracingEvents.lookup n :=
          fun c' => by rw [lookup_setTracer, if_neg hnm]
        cases pc with
        | loopHead => exact hq.of_view rfl (hpc' _)
        | doStart => exact hq.of_view (hl _) (hpc' _)
        | inStart ctx => exact hq
        | hit => exact hq.of_view (hl _) (hpc' _)
        | checkExit => exact hq.of_view rfl (hpc' _)
        | sleep => exact hq.of_view rfl (hpc' _)
        | exiting =>
          refine hq.of_view (hl _) ?_
          rw [pcOf]
          dsimp only
          rw [hs.lookup_eraseIdx_goroutines hg, if_neg hnm]

theorem Quiet.tracerReturn {n : String} {k : ℕ} (hs : s.Inv) (hq : Quiet n k s) (g : ℕ)
    (err : Option TracerError) : Quiet n k (Tracing.tracerReturn s g err) := by
  unfold Tracing.tracerReturn
  cases hg : s.goroutines[g]? with
  | none => exact hq
  | some p =>
    obtain ⟨m, pc⟩ := p
    cases pc with
    | inStart ctx =>
      dsimp only
      cases hc : s.tracingEvents.lookup m with
      | none => exact hq
      | some c =>
        dsimp only
        refine ⟨fun c' hc' => ?_, ?_, fun x h => ?_⟩
        · dsimp only [TracingSystem.setPc] at hc'
          rw [lookup_setTracer] at hc'
          split_ifs at hc' with hnm hns
          · cases hc'
            rfl
          · cases hc'
            subst hnm
            exact hq.exit c hc
          · exact hq.exit c' hc'
        · rw [pcOf]
          dsimp only [TracingSystem.setPc, TracingSystem.setTracer]
          rw [hs.lookup_set_goroutines hg]
          split_ifs
          · simp
          · exact hq.notDoStart
        · rw [pcOf] at h
          dsimp only [TracingSystem.setPc, TracingSystem.setTracer] at h
          rw [hs.lookup_set_goroutines hg] at h
          split_ifs at h
          · cases h
          · exact hq.old x h
    | _ => dsimp only; exact hq

theorem Quiet.tracingStep {n : String} {k : ℕ} (hs : s.Inv) (hq : Quiet n k s) :
    ∀ a : TracingAction, a ≠ .start n → Quiet n k (Tracing.tracingStep s a)
  | .start _, ha => hq.mgrTracingEventStart hs fun h => ha (h ▸ rfl)
  | .stop m, _ => hq.mgrTracingEventStop m
  | .stopAll names, _ => hq.mgrTracingEventStopAll names
  | .run g, _ => hq.goroutineStep hs g
  | .ret g err, _ => hq.tracerReturn hs g err

theorem Quiet.run {n : String} {k : ℕ} :
    ∀ {s : TracingSystem} (acts : List TracingAction), s.Inv → Quiet n k s →
      (∀ a ∈ acts, a ≠ .start n) → Quiet n k (Machine.run Tracing.tracingStep s acts)
  | _, [], _, hq, _ => hq
  | _, a :: acts, hs, hq, hacts =>
    Quiet.run acts (hs.tracingStep a) (hq.tracingStep hs a (hacts a List.mem_cons_self))
      fun a' ha' => hacts a' (List.mem_cons_of_mem _ ha')

end TracingSystem


/-- A stop that finds tracer `n` running, its goroutine anywhere but between its check of `exit`
and its next call, ends the calls: a call the goroutine is in has its context cancelled, and
until `n` is started again, whatever else happens, `n` is called under no context made after the
stop. -/
theorem stop_ends_calls {blackListed : List String}
    {factories : List (String × Except String EventTracingAttr)} {mgr : MgrTracingEvent}
    {r : Register} (hmgr : newMgrTracingEvent blackListed factories Register.init = (.ok mgr, r))
    (acts : List TracingAction) {n : String} {c : EventTracing}
    (hc : (Machine.run tracingStep (TracingSystem.ofMgr mgr) acts).tracingEvents.lookup n = some c)
    (hrun : c.isRunning = true)
    (hpc : (Machine.run tracingStep (TracingSystem.ofMgr mgr) acts).pcOf n ≠ some .doStart)
    (acts' : List TracingAction) (hacts' : ∀ a ∈ acts', a ≠ .start n) :
    let s := Machine.run tracingStep (TracingSystem.ofMgr mgr) acts
    let s₁ := (mgrTracingEventStop s n).2
    (∀ ctx, s.pcOf n = some (.inStart ctx) → ctx ∈ s₁.cancelled) ∧
      ∀ ctx, (Machine.run tracingStep s₁ acts').pcOf n = some (.inStart ctx) → ctx < s.nextCtx := by
  intro s s₁
  have hs : s.Inv := (newMgrTracingEvent_inv hmgr).run acts
  have ht := hs.tracer n c hc
  have hstop : mgrTracingEventStop s n = s.stopTracer n c := mgrTracingEventStop_of_running hc hrun
  have hpc₁ : s₁.pcOf n = s.pcOf n := by
    rw [pcOf, pcOf, mgrTracingEventStop_goroutines]
  refine ⟨fun ctx hin => ?_, ?_⟩
  · -- the call's context is the one whose cancel function the tracer holds
    have hctx := ht.inStart ctx hin
    show ctx ∈ (mgrTracingEventStop s n).2.cancelled
    rw [hstop]
    unfold stopTracer
    rw [hctx]
    exact List.mem_cons_self
  · -- the stop sets `exit`; from there, with no new start, the goroutine only runs down
    have hq : Quiet n s.nextCtx s₁ := by
      refine ⟨fun c' hc' => ?_, by rw [hpc₁]; exact hpc, fun ctx h => ?_⟩
      · have hl : s₁.tracingEvents.lookup n = some { c with exit := true } := by
          show (mgrTracingEventStop s n).2.tracingEvents.lookup n = _
          rw [hstop, stopTracer_tracingEvents, lookup_setTracer, if_pos rfl]
        rw [hl] at hc'
        cases hc'
        rfl
      · rw [hpc₁] at h
        exact ht.fresh ctx (ht.inStart ctx h)
    exact (Quiet.run acts' (hs.mgrTracingEventStop n) hq hacts').old

theorem stop_ends_calls_netdev_hw :
    newMgrTracingEvent [] [("netdev_hw", .ok ⟨10, 3⟩)] Register.init =
        (.ok ⟨[("netdev_hw", newTracingEvent ⟨10, 3⟩ "netdev_hw")], []⟩,
          ⟨true, [("netdev_hw", ⟨10, 3⟩)]⟩) ∧
      (Machine.run tracingStep
        (TracingSystem.ofMgr ⟨[("netdev_hw", newTracingEvent ⟨10, 3⟩ "netdev_hw")], []⟩)
        [.start "netdev_hw", .run 0, .run 0]).tracingEvents.lookup "netdev_hw" =
        some ⟨"netdev_hw", 10, 0, some 0, false, true, 3⟩ ∧
      (⟨"netdev_hw", 10, 0, some 0, false, true, 3⟩ : EventTracing).isRunning = true ∧
      (Machine.run tracingStep
        (TracingSystem.ofMgr ⟨[("netdev_hw", newTracingEvent ⟨10, 3⟩ "netdev_hw")], []⟩)
        [.start "netdev_hw", .run 0, .run 0]).pcOf "netdev_hw" ≠ some .doStart ∧
      (∀ a ∈ [TracingAction.ret 0 none, .run 0, .run 0, .start "ext4"], a ≠ .start "netdev_hw") ∧
      let s := Machine.run tracingStep
        (TracingSystem.ofMgr ⟨[("netdev_hw", newTracingEvent ⟨10, 3⟩ "netdev_hw")], []⟩)
        [.start "netdev_hw", .run 0, .run 0]
      let s₁ := (mgrTracingEventStop s "netdev_hw").2
      (∀ ctx, s.pcOf "netdev_hw" = some (.inStart ctx) → ctx ∈ s₁.cancelled) ∧
        ∀ ctx, (Machine.run tracingStep s₁ [.ret 0 none, .run 0, .run 0, .start "ext4"]).pcOf
          "netdev_hw" = some (.inStart ctx) → ctx < s.nextCtx := by
  have hmgr : newMgrTracingEvent [] [("netdev_hw", .ok ⟨10, 3⟩)] Register.init =
      (.ok ⟨[("netdev_hw", newTracingEvent ⟨10, 3⟩ "netdev_hw")], []⟩,
        ⟨true, [("netdev_hw", ⟨10, 3⟩)]⟩) := rfl
  have hc : (Machine.run tracingStep
      (TracingSystem.ofMgr ⟨[("netdev_hw", newTracingEvent ⟨10, 3⟩ "netdev_hw")], []⟩)
      [.start "netdev_hw", .run 0, .run 0]).tracingEvents.lookup "netdev_hw" =
      some ⟨"netdev_hw", 10, 0, some 0, false, true, 3⟩ := by decide
  have hpc : (Machine.run tracingStep
      (TracingSystem.ofMgr ⟨[("netdev_hw", newTracingEvent ⟨10, 3⟩ "netdev_hw")], []⟩)
      [.start "netdev_hw", .run 0, .run 0]).pcOf "netdev_hw" ≠ some .doStart := by decide
  have hacts : ∀ a ∈ [TracingAction.ret 0 none, .run 0, .run 0, .start "ext4"],
      a ≠ .start "netdev_hw" := by decide
  exact ⟨hmgr, hc, rfl, hpc, hacts, stop_ends_calls hmgr _ hc rfl hpc _ hacts⟩

/-- A stop that lands after tracer `n`'s goroutine has checked `exit` and before it has stored
the cancel function of its next call cancels nothing that call runs under: the goroutine's next
statement calls the tracer under a context no one has cancelled, with `exit` already set. -/
theorem stop_misses_next_call {blackListed : List String}
    {factories : List (String × Except String EventTracingAttr)} {mgr : MgrTracingEvent}
    {r : Register} (hmgr : newMgrTracingEvent blackListed factories Register.init = (.ok mgr, r))
    (acts : List TracingAction) {g : ℕ} {n : String}
    (hg : (Machine.run tracingStep (TracingSystem.ofMgr mgr) acts).goroutines[g]? = some (n, .doStart)) :
    let s := Machine.run tracingStep (TracingSystem.ofMgr mgr) acts
    let s₂ := goroutineStep (mgrTracingEventStop s n).2 g
    s₂.goroutines[g]? = some (n, .inStart s.nextCtx) ∧ s.nextCtx ∉ s₂.cancelled ∧
      ∃ c, s₂.tracingEvents.lookup n = some c ∧ c.exit = true ∧ c.cancelCtx = some s.nextCtx := by
  intro s s₂
  have hs : s.Inv := (newMgrTracingEvent_inv hmgr).run acts
  have hpc : s.pcOf n = some .doStart := pcOf_of_getElem? hs hg
  obtain ⟨c, hc⟩ := Option.isSome_iff_exists.1 (hs.goroutine_tracer n (by simp [hpc]))
  have hrun : c.isRunning = true := (hs.tracer n c hc).running.2 (by simp [hpc])
  have hstop : mgrTracingEventStop s n = s.stopTracer n c := mgrTracingEventStop_of_running hc hrun
  set s₁ := (s.stopTracer n c).2 with hs₁
  have hg₁ : s₁.goroutines[g]? = some (n, .doStart) := by rw [hs₁, stopTracer_goroutines]; exact hg
  have hc₁ : s₁.tracingEvents.lookup n = some { c with exit := true } := by
    rw [hs₁, stopTracer_tracingEvents, lookup_setTracer, if_pos rfl]
  have hnext₁ : s₁.nextCtx = s.nextCtx := stopTracer_nextCtx n c
  have hlt₁ : ∀ ctx ∈ s₁.cancelled, ctx < s.nextCtx := by
    have h₁ := (hs.mgrTracingEventStop n).cancelled_lt
    rw [hstop] at h₁
    exact fun ctx hctx => hnext₁ ▸ h₁ ctx hctx
  have hstep : s₂ = { (s₁.setTracer n { c with exit := true, cancelCtx := some s₁.nextCtx }).setPc g n
      (.inStart s₁.nextCtx) with nextCtx := s₁.nextCtx + 1 } := by
    show goroutineStep (mgrTracingEventStop s n).2 g = _
    rw [hstop]
    unfold goroutineStep
    rw [hg₁]
    dsimp only
    rw [hc₁]
  have hlen : g < s₁.goroutines.length := (List.getElem?_eq_some_iff.1 hg₁).1
  refine ⟨?_, ?_, ⟨{ c with exit := true, cancelCtx := some s.nextCtx }, ?_, rfl, rfl⟩⟩
  · rw [hstep]
    simp [TracingSystem.setPc, TracingSystem.setTracer, hnext₁, List.getElem?_set_self hlen]
  · rw [hstep]
    exact fun hmem => Nat.lt_irrefl _ (hlt₁ _ hmem)
  · rw [hstep]
    simp only [TracingSystem.setPc]
    rw [lookup_setTracer, if_pos rfl, hnext₁]

theorem stop_misses_next_call_netdev_hw :
    newMgrTracingEvent [] [("netdev_hw", .ok ⟨10, 3⟩)] Register.init =
        (.ok ⟨[("netdev_hw", newTracingEvent ⟨10, 3⟩ "netdev_hw")], []⟩,
          ⟨true, [("netdev_hw", ⟨10, 3⟩)]⟩) ∧
      (Machine.run tracingStep
        (TracingSystem.ofMgr ⟨[("netdev_hw", newTracingEvent ⟨10, 3⟩ "netdev_hw")], []⟩)
        [.start "netdev_hw", .run 0]).goroutines[0]? = some ("netdev_hw", .doStart) ∧
      let s := Machine.run tracingStep
        (TracingSystem.ofMgr ⟨[("netdev_hw", newTracingEvent ⟨10, 3⟩ "netdev_hw")], []⟩)
        [.start "netdev_hw", .run 0]
      let s₂ := goroutineStep (mgrTracingEventStop s "netdev_hw").2 0
      s₂.goroutines[0]? = some ("netdev_hw", .inStart s.nextCtx) ∧ s.nextCtx ∉ s₂.cancelled ∧
        ∃ c, s₂.tracingEvents.lookup "netdev_hw" = some c ∧ c.exit = true ∧
          c.cancelCtx = some s.nextCtx := by
  have hmgr : newMgrTracingEvent [] [("netdev_hw", .ok ⟨10, 3⟩)] Register.init =
      (.ok ⟨[("netdev_hw", newTracingEvent ⟨10, 3⟩ "netdev_hw")], []⟩,
        ⟨true, [("netdev_hw", ⟨10, 3⟩)]⟩) := rfl
  have hg : (Machine.run tracingStep
      (TracingSystem.ofMgr ⟨[("netdev_hw", newTracingEvent ⟨10, 3⟩ "netdev_hw")], []⟩)
      [.start "netdev_hw", .run 0]).goroutines[0]? = some ("netdev_hw", .doStart) := by decide
  exact ⟨hmgr, hg, stop_misses_next_call hmgr _ hg⟩

end Huatuo.Tracing
