import Huatuo.Pod.Container
import Huatuo.Lib.Keyed
import Huatuo.Lib.Strings

/-! The reconciliation of the container map with the kubelet's pod list
(internal/pod/container_sync.go). Go maps are association lists, a loop over one visits its
entries in the order a permutation gives, and a Go panic is `none`. -/
namespace Huatuo.Pod

open Lib

/-- `currContainerEnv` (internal/pod/container_file.go). -/
inductive ContainerEnv
  | noop
  | docker
  | containerd
deriving DecidableEq, Repr

/-- `initContainerProviderEnv` under `initContainerProviderEnvOnce`: `once` is `none` before the
first call and then the provider that call set up, and `providerInit` is what
`initDockerProviderEnv` and `initContainerdProviderEnv` return, an error when the runtime does
not answer. The first call panics on any other scheme or on an error; a later call does
nothing. -/
def initContainerProviderEnv (providerInit : ContainerEnv → Except String Unit)
    (once : Option ContainerEnv) (containerEnv : String) : Option (Option ContainerEnv) :=
  match once with
  | some env => some (some env)
  | none =>
    match containerEnv with
    | "docker" =>
      match providerInit .docker with
      | .ok () => some (some .docker)
      | .error _ => none
    | "containerd" =>
      match providerInit .containerd with
      | .ok () => some (some .containerd)
      | .error _ => none
    | _ => none

def parseContainerIDInPodStatus (providerInit : ContainerEnv → Except String Unit)
    (once : Option ContainerEnv) (data : String) : Option (Except String String × Option ContainerEnv) :=
  match Strings.splitSep (Strings.trim data '"') "://" with
  | [containerEnv, containerID] =>
    (initContainerProviderEnv providerInit once containerEnv).map fun once => (.ok containerID, once)
  | _ => some (.error ("invalid container id: " ++ data), once)

def isRuningPod (pod : KubeletPod) : Bool :=
  pod.phase = "Running" && pod.containerStatuses.all (·.running)

/-- The `m` of one pod: each spec container's name with the container and its status, `none`
standing for the `nil` no status was joined to. -/
def podContainerMap (pod : KubeletPod) : List (String × (String × Option ContainerStatus)) :=
  let m := pod.containers.foldl (fun m name => Keyed.set m name (name, none)) []
  pod.containerStatuses.foldl (fun m containerStatus =>
      match m.lookup containerStatus.name with
      | some c => Keyed.set m containerStatus.name (c.1, some containerStatus)
      | none => m) m

structure ContainerInfo where
  container : String
  containerStatus : ContainerStatus
  pod : KubeletPod
deriving DecidableEq, Repr

/-- The loop over `m`: `c[1].(*corev1.ContainerStatus)` on a container with no status is the
type assertion on a nil interface, which panics. -/
def addPodContainers (providerInit : ContainerEnv → Except String Unit) (pod : KubeletPod) :
    List (String × (String × Option ContainerStatus)) → List (String × ContainerInfo) →
      Option ContainerEnv → Option (Except String (List (String × ContainerInfo)) × Option ContainerEnv)
  | [], newContainers, once => some (.ok newContainers, once)
  | (_, (container, status)) :: m, newContainers, once =>
    match status with
    | none => none
    | some containerStatus =>
      match parseContainerIDInPodStatus providerInit once containerStatus.containerID with
      | none => none
      | some (.error err, once) =>
        some (.error ("failed to parse container id " ++ containerStatus.containerID ++ " in pod " ++
          pod.name ++ " status: " ++ err), once)
      | some (.ok containerID, once) =>
        addPodContainers providerInit pod m
          (Keyed.set newContainers containerID ⟨container, containerStatus, pod⟩) once

/-- The loop over the pod list, `iterM` the order each `m` is visited in. -/
def collectNewContainers
    (iterM : List (String × (String × Option ContainerStatus)) →
      List (String × (String × Option ContainerStatus)))
    (providerInit : ContainerEnv → Except String Unit) :
    List KubeletPod → List (String × ContainerInfo) → Option ContainerEnv →
      Option (Except String (List (String × ContainerInfo)) × Option ContainerEnv)
  | [], newContainers, once => some (.ok newContainers, once)
  | pod :: pods, newContainers, once =>
    if !isRuningPod pod then collectNewContainers iterM providerInit pods newContainers once
    else
      match addPodContainers providerInit pod (iterM (podContainerMap pod)) newContainers once with
      | none => none
      | some (.error err, once) => some (.error err, once)
      | some (.ok newContainers, once) => collectNewContainers iterM providerInit pods newContainers once

/-- `kubeletSyncContainers` on what `kubeletGetPodList` returned, with the map and the provider
it leaves. `osHostname` and `runtimeReads` are what `kubeletUpdateContainer` reads of the host. -/
def kubeletSyncContainers
    (iterM : List (String × (String × Option ContainerStatus)) →
      List (String × (String × Option ContainerStatus)))
    (iterNew : List (String × ContainerInfo) → List (String × ContainerInfo))
    (providerInit : ContainerEnv → Except String Unit)
    (osHostname : Except String String) (runtimeReads : String → Except String Unit)
    (podList : Except String (List KubeletPod)) (containers : List (String × Container))
    (once : Option ContainerEnv) :
    Option (Except String Unit × List (String × Container) × Option ContainerEnv) :=
  match podList with
  | .error _ => some (.ok (), containers, once)
  | .ok pods =>
    match collectNewContainers iterM providerInit pods [] once with
    | none => none
    | some (.error err, once) => some (.error err, containers, once)
    | some (.ok newContainers, once) =>
      let kept := containers.filter fun p => (newContainers.lookup p.1).isSome
      let newContainers := newContainers.filter fun p => (containers.lookup p.1).isNone
      let updated := (iterNew newContainers).foldl (fun cs p =>
          match kubeletUpdateContainer osHostname runtimeReads p.1 p.2.container p.2.pod with
          | .ok c => Keyed.set cs p.1 c
          | .error _ => cs) kept
      some (.ok (), updated, once)

/-! ## When the loop over a pod's containers panics -/

/-- The scheme names a provider whose runtime answers. -/
def ProviderAnswers (providerInit : ContainerEnv → Except String Unit) (containerEnv : String) :
    Prop :=
  (containerEnv = "docker" ∧ providerInit .docker = .ok ()) ∨
    (containerEnv = "containerd" ∧ providerInit .containerd = .ok ())

/-- Every status in the map carries an ID that splits at `://` and whose scheme names a
provider that answers. -/
def IdsParse (providerInit : ContainerEnv → Except String Unit)
    (m : List (String × (String × Option ContainerStatus))) : Prop :=
  ∀ e ∈ m, ∀ containerStatus, e.2.2 = some containerStatus →
    ∃ containerEnv containerID,
      Strings.splitSep (Strings.trim containerStatus.containerID '"') "://" = [containerEnv, containerID] ∧
        ProviderAnswers providerInit containerEnv

def MissingStatus (m : List (String × (String × Option ContainerStatus))) : Prop :=
  ∃ e ∈ m, e.2.2 = none

section Parse

variable {providerInit : ContainerEnv → Except String Unit}

theorem initContainerProviderEnv_of_answers {containerEnv : String}
    (h : ProviderAnswers providerInit containerEnv) (once : Option ContainerEnv) :
    ∃ once', initContainerProviderEnv providerInit once containerEnv = some once' := by
  cases once with
  | some env => exact ⟨_, rfl⟩
  | none =>
    rcases h with ⟨rfl, h⟩ | ⟨rfl, h⟩
    · exact ⟨some .docker, by simp [initContainerProviderEnv, h]⟩
    · exact ⟨some .containerd, by simp [initContainerProviderEnv, h]⟩

theorem parseContainerIDInPodStatus_of_answers {data containerEnv containerID : String}
    (hs : Strings.splitSep (Strings.trim data '"') "://" = [containerEnv, containerID])
    (h : ProviderAnswers providerInit containerEnv) (once : Option ContainerEnv) :
    ∃ once', parseContainerIDInPodStatus providerInit once data = some (.ok containerID, once') := by
  obtain ⟨once', hi⟩ := initContainerProviderEnv_of_answers h once
  exact ⟨once', by simp only [parseContainerIDInPodStatus, hs, hi, Option.map_some]⟩

theorem IdsParse.perm {m m' : List (String × (String × Option ContainerStatus))}
    (h : IdsParse providerInit m) (hp : m'.Perm m) : IdsParse providerInit m' :=
  fun e he => h e (hp.subset he)

theorem MissingStatus.perm {m m' : List (String × (String × Option ContainerStatus))}
    (h : MissingStatus m) (hp : m'.Perm m) : MissingStatus m' := by
  obtain ⟨e, he, hnone⟩ := h
  exact ⟨e, hp.symm.subset he, hnone⟩

theorem addPodContainers_of_idsParse (pod : KubeletPod)
    {m : List (String × (String × Option ContainerStatus))}
    (hparse : IdsParse providerInit m) (newContainers : List (String × ContainerInfo))
    (once : Option ContainerEnv) :
    (MissingStatus m → addPodContainers providerInit pod m newContainers once = none) ∧
      (¬MissingStatus m →
        ∃ nc once', addPodContainers providerInit pod m newContainers once = some (.ok nc, once')) := by
  induction m generalizing newContainers once with
  | nil => exact ⟨fun ⟨_, he, _⟩ => absurd he List.not_mem_nil, fun _ => ⟨_, _, rfl⟩⟩
  | cons e m ih =>
    obtain ⟨k, container, status⟩ := e
    have htail : IdsParse providerInit m := fun e he => hparse e (List.mem_cons_of_mem _ he)
    cases status with
    | none => exact ⟨fun _ => rfl, fun hno => absurd ⟨_, List.mem_cons_self, rfl⟩ hno⟩
    | some containerStatus =>
      obtain ⟨containerEnv, containerID, hs, hans⟩ := hparse _ List.mem_cons_self containerStatus rfl
      obtain ⟨once', hid⟩ := parseContainerIDInPodStatus_of_answers hs hans once
      have ih' := ih htail (Keyed.set newContainers containerID ⟨container, containerStatus, pod⟩) once'
      simp only [addPodContainers, hid]
      refine ⟨fun ⟨e, he, hnone⟩ => ih'.1 ?_, fun hno => ih'.2 fun hm => hno ?_⟩
      · rcases List.mem_cons.1 he with rfl | he
        · cases hnone
        · exact ⟨e, he, hnone⟩
      · obtain ⟨e, he, hnone⟩ := hm
        exact ⟨e, List.mem_cons_of_mem _ he, hnone⟩

/-- Over running pods whose statuses all carry IDs that parse, the loop over the pod list
panics once it meets a running pod with a container without a status, in whatever order each
`m` is visited. -/
theorem collectNewContainers_eq_none
    {iterM : List (String × (String × Option ContainerStatus)) →
      List (String × (String × Option ContainerStatus))}
    (hM : ∀ l, (iterM l).Perm l) {pods : List KubeletPod}
    (hparse : ∀ pod ∈ pods, isRuningPod pod = true → IdsParse providerInit (podContainerMap pod))
    (hmissing : ∃ pod ∈ pods, isRuningPod pod = true ∧ MissingStatus (podContainerMap pod))
    (newContainers : List (String × ContainerInfo)) (once : Option ContainerEnv) :
    collectNewContainers iterM providerInit pods newContainers once = none := by
  induction pods generalizing newContainers once with
  | nil => exact absurd hmissing.choose_spec.1 List.not_mem_nil
  | cons pod pods ih =>
    have hparse' : ∀ p ∈ pods, isRuningPod p = true → IdsParse providerInit (podContainerMap p) :=
      fun p hp => hparse p (List.mem_cons_of_mem _ hp)
    have hlater : (isRuningPod pod = true → ¬MissingStatus (podContainerMap pod)) →
        ∃ p ∈ pods, isRuningPod p = true ∧ MissingStatus (podContainerMap p) := by
      intro hno
      obtain ⟨p, hp, hrun, hmiss⟩ := hmissing
      rcases List.mem_cons.1 hp with rfl | hp
      · exact absurd hmiss (hno hrun)
      · exact ⟨p, hp, hrun, hmiss⟩
    by_cases hrun : isRuningPod pod = true
    · have hm := addPodContainers_of_idsParse pod
        ((hparse pod List.mem_cons_self hrun).perm (hM _)) newContainers once
      by_cases hmiss : MissingStatus (podContainerMap pod)
      · simp only [collectNewContainers, hrun, Bool.not_true, hm.1 (hmiss.perm (hM _))]
        rfl
      · obtain ⟨nc, once', hnc⟩ := hm.2 fun h => hmiss (h.perm (hM _).symm)
        simp only [collectNewContainers, hrun, Bool.not_true, hnc]
        exact ih hparse' (hlater fun _ => hmiss) nc once'
    · simp only [collectNewContainers, hrun, Bool.not_false, if_true]
      exact ih hparse' (hlater fun h => absurd h hrun) newContainers once

end Parse

/-- A running pod whose spec lists a container the kubelet reported no status for: on the
first sync, with a runtime that answers, the sync panics on the type assertion. -/
theorem kubeletSyncContainers_missing_status :
    kubeletSyncContainers id id (fun _ => .ok ()) (.ok "node1") (fun _ => .ok ())
      (.ok [⟨"web-0", "default", "web-0", ["StatefulSet"], ["app", "log-agent"], "Running",
        "Burstable", [⟨"app", "containerd://0ac95a0f051b", true⟩]⟩]) [] none = none := by
  have hmap : podContainerMap ⟨"web-0", "default", "web-0", ["StatefulSet"], ["app", "log-agent"],
      "Running", "Burstable", [⟨"app", "containerd://0ac95a0f051b", true⟩]⟩ =
      [("app", ("app", some ⟨"app", "containerd://0ac95a0f051b", true⟩)),
        ("log-agent", ("log-agent", none))] := by decide
  have hcollect := @collectNewContainers_eq_none (fun _ => .ok ()) id (fun l => List.Perm.refl l)
    [⟨"web-0", "default", "web-0", ["StatefulSet"], ["app", "log-agent"], "Running",
      "Burstable", [⟨"app", "containerd://0ac95a0f051b", true⟩]⟩]
    (fun pod hpod _ => by
      rw [List.mem_singleton.1 hpod, hmap]
      intro e he containerStatus hst
      simp only [List.mem_cons, List.not_mem_nil, or_false] at he
      rcases he with rfl | rfl
      · cases hst
        exact ⟨"containerd", "0ac95a0f051b", by decide +kernel, Or.inr ⟨rfl, rfl⟩⟩
      · cases hst)
    ⟨_, List.mem_singleton_self _, by decide,
      by rw [hmap]; exact ⟨("log-agent", ("log-agent", none)), by simp, rfl⟩⟩ [] none
  simp only [kubeletSyncContainers, hcollect]

end Huatuo.Pod
