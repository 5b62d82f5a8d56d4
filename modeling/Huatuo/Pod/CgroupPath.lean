import Huatuo.Lib.Strings
import Mathlib

/-! The cgroup of a container as the kubelet names it (internal/pod/container_cgroup_path.go):
the components `kubepods`, the pod's QoS class unless it is Guaranteed, `pod<UID>` and, under
the cgroupfs driver, the container's ID. Under cgroupfs they are joined as a path; under systemd
as nested slices, each component's `-` escaped to `_`, each slice named by the one above it with
`-` and the next component added. The package's global `kubeletPodCgroupDriver` is an argument,
and `strings.ToLower` is `String.toLower`, which agrees with it on ASCII text.

The escaped components hold no `-`, so splitting their join on `-` gives them back: the slices are
`/e₁.slice/e₁-e₂.slice/…/e₁-…-eₙ.slice` for every non-empty list of components, whatever they
are, empty ones and ones ending in `.slice` included. -/
namespace Huatuo.Pod

open Lib

def defaultSystemdSuffix : String := ".slice"

def defaultNodeCgroupName : String := "kubepods"

/-- A `cgroupPath`: its components from the root. -/
abbrev CgroupPath := List String

def escapeSystemd (part : String) : String :=
  Strings.replaceAll part '-' '_'

/-- One component of `expandSytemdSlice`'s loop: the path and the prefix after it. -/
def sliceStep (acc : String × String) (component : String) : String × String :=
  (acc.1 ++ ("/" ++ acc.2 ++ component ++ defaultSystemdSuffix), acc.2 ++ (component ++ "-"))

def expandSytemdSlice (slice : String) : String :=
  let sliceName := Strings.trimSuffix slice defaultSystemdSuffix
  ((Strings.split sliceName '-').foldl sliceStep ("", "")).1

def CgroupPath.toSystemd (paths : CgroupPath) : String :=
  let newparts := paths.map escapeSystemd
  expandSytemdSlice (Strings.join newparts "-" ++ defaultSystemdSuffix)

def CgroupPath.toCgroupfs (paths : CgroupPath) : String :=
  "/" ++ Strings.pathJoin paths

/-- The fields of a `corev1.Pod` that `containerCgroupPath` reads: its UID and its status's QoS
class. -/
structure CgroupPod where
  uid : String
  qosClass : String
deriving DecidableEq, Repr

def podQOSGuaranteed : String := "Guaranteed"

/-- `containerCgroupPath`. Go's `strings.ToLower` lowers every Unicode letter, `String.toLower`
only the ASCII ones: the two agree on the QoS classes the kubelet reports (`Burstable`,
`BestEffort`) and on every ASCII class name, and the model says nothing of others. -/
def containerCgroupPath (kubeletPodCgroupDriver containerID : String) (pod : CgroupPod) :
    CgroupPath :=
  let paths := [defaultNodeCgroupName]
  let paths := if pod.qosClass ≠ podQOSGuaranteed then paths ++ [pod.qosClass.toLower] else paths
  let paths := paths ++ ["pod" ++ pod.uid]
  if kubeletPodCgroupDriver ≠ "systemd" then paths ++ [containerID] else paths

def containerCgroupSuffix (kubeletPodCgroupDriver containerID : String) (pod : CgroupPod) :
    String :=
  let name := containerCgroupPath kubeletPodCgroupDriver containerID pod
  if kubeletPodCgroupDriver = "systemd" then name.toSystemd else name.toCgroupfs

/-! ## The slices -/

/-- The slices systemd nests a unit in for the name `e₁-…-eₙ`: the `i`-th named by the first
`i` parts joined by `-`. -/
def nestedSlices (names : List String) : String :=
  String.join ((List.range names.length).map fun i =>
    "/" ++ "-".intercalate (names.take (i + 1)) ++ ".slice")

theorem foldl_sliceStep (l : List String) : ∀ (path pre : String),
    (l.foldl sliceStep (path, pre)).1 = path ++ String.join ((List.range l.length).map fun i =>
      "/" ++ pre ++ "-".intercalate (l.take (i + 1)) ++ defaultSystemdSuffix) := by
  induction l with
  | nil => simp
  | cons c l ih =>
    intro path pre
    rw [List.foldl_cons, sliceStep, ih, List.length_cons, List.range_succ_eq_map]
    have hlater : ∀ i ∈ List.range l.length,
        "/" ++ (pre ++ (c ++ "-")) ++ "-".intercalate (l.take (i + 1)) ++ defaultSystemdSuffix =
          "/" ++ pre ++ "-".intercalate ((c :: l).take (i + 1 + 1)) ++ defaultSystemdSuffix := by
      intro i hi
      have hne : l.take (i + 1) ≠ [] := by
        simp only [ne_eq, List.take_eq_nil_iff, Nat.add_one_ne_zero, false_or]
        rintro rfl
        simp at hi
      rw [List.take_succ_cons, String.intercalate_cons_of_ne_nil hne]
      simp only [String.append_assoc]
    rw [List.map_cons, List.map_map, String.join_cons, List.map_congr_left fun i hi => hlater i hi]
    simp [String.append_assoc, Function.comp_def]

theorem toSystemd_eq {paths : CgroupPath} (hne : paths ≠ []) :
    paths.toSystemd = nestedSlices (paths.map escapeSystemd) := by
  have hsplit : Strings.split (Strings.join (paths.map escapeSystemd) "-") '-' =
      paths.map escapeSystemd := by
    refine Strings.split_join rfl ?_ (by simpa using hne)
    simp only [List.mem_map]
    rintro _ ⟨p, -, rfl⟩
    exact Strings.not_mem_replaceAll p (by decide)
  rw [CgroupPath.toSystemd, expandSytemdSlice, Strings.trimSuffix_append, hsplit, foldl_sliceStep]
  simp [nestedSlices, defaultSystemdSuffix]

theorem escapeSystemd_of_not_mem {s : String} (h : '-' ∉ s.toList) : escapeSystemd s = s := by
  rw [← String.toList_inj, escapeSystemd, Strings.toList_replaceAll]
  conv_rhs => rw [← List.map_id s.toList]
  exact List.map_congr_left fun c hc => if_neg fun (hc' : c = '-') => h (hc' ▸ hc)

/-- The nested slices are what `expandSytemdSlice`'s loop builds from an empty path and prefix. -/
theorem nestedSlices_eq_foldl (names : List String) :
    nestedSlices names = (names.foldl sliceStep ("", "")).1 := by
  rw [foldl_sliceStep]
  simp [nestedSlices, defaultSystemdSuffix]

theorem escapeSystemd_append (s t : String) :
    escapeSystemd (s ++ t) = escapeSystemd s ++ escapeSystemd t := by
  simp [escapeSystemd, ← String.toList_inj]

/-! ## A container's cgroup -/

section Container

variable (containerID : String) (pod : CgroupPod)

theorem containerCgroupPath_systemd :
    containerCgroupPath "systemd" containerID pod =
      [defaultNodeCgroupName] ++
        (if pod.qosClass = podQOSGuaranteed then [] else [pod.qosClass.toLower]) ++
        ["pod" ++ pod.uid] := by
  by_cases hq : pod.qosClass = podQOSGuaranteed <;> simp [containerCgroupPath, hq]

/-- Every non-empty path is the nested slices of its escaped components, and so a container's
cgroup under systemd is its pod's slice, under the slice of its QoS class unless it is
Guaranteed, under `kubepods.slice`. -/
theorem toSystemd_nestedSlices :
    (∀ paths : CgroupPath, paths ≠ [] →
      paths.toSystemd = nestedSlices (paths.map fun p => p.map fun c => if c = '-' then '_' else c)) ∧
    ∀ (containerID : String) (pod : CgroupPod),
      let e := fun s : String => s.map fun c => if c = '-' then '_' else c
      containerCgroupSuffix "systemd" containerID pod =
        if pod.qosClass = "Guaranteed" then
          "/kubepods.slice/kubepods-pod" ++ e pod.uid ++ ".slice"
        else
          "/kubepods.slice/kubepods-" ++ e pod.qosClass.toLower ++ ".slice/kubepods-" ++
            e pod.qosClass.toLower ++ "-pod" ++ e pod.uid ++ ".slice" := by
  refine ⟨fun paths hne => toSystemd_eq hne, fun containerID pod => ?_⟩
  intro e
  rw [containerCgroupSuffix, if_pos rfl, containerCgroupPath_systemd, toSystemd_eq (by simp)]
  have hk : escapeSystemd defaultNodeCgroupName = "kubepods" :=
    escapeSystemd_of_not_mem (by decide)
  have hpod : escapeSystemd ("pod" ++ pod.uid) = "pod" ++ e pod.uid := by
    rw [escapeSystemd_append, escapeSystemd_of_not_mem (by decide)]
    rfl
  rw [nestedSlices_eq_foldl, podQOSGuaranteed]
  by_cases hq : pod.qosClass = "Guaranteed"
  · -- two slices: `kubepods` and the pod's
    have hlit : "/" ++ ("kubepods" ++ (".slice" ++ ("/" ++ ("kubepods" ++ ("-" ++ "pod"))))) =
        "/kubepods.slice/kubepods-pod" := by decide
    simp only [hq, if_true, List.append_nil, List.singleton_append, List.map_cons, List.map_nil,
      hk, hpod, List.foldl_cons, List.foldl_nil, sliceStep, defaultSystemdSuffix,
      String.empty_append, String.append_empty]
    rw [← hlit]
    simp only [String.append_assoc]
  · -- three slices: `kubepods`, the QoS class's and the pod's
    have hlit₁ : "/" ++ ("kubepods" ++ (".slice" ++ ("/" ++ ("kubepods" ++ "-")))) =
        "/kubepods.slice/kubepods-" := by decide
    have hlit₂ : ".slice" ++ ("/" ++ ("kubepods" ++ "-")) = ".slice/kubepods-" := by decide
    have hlit₃ : "-" ++ "pod" = "-pod" := by decide
    simp only [hq, if_false, List.nil_append, List.cons_append, List.map_cons, List.map_nil,
      hk, hpod, List.foldl_cons, List.foldl_nil, sliceStep, defaultSystemdSuffix,
      String.empty_append, String.append_empty]
    rw [← hlit₁, ← hlit₂, ← hlit₃]
    simp only [String.append_assoc]
    rfl

theorem toSystemd_nestedSlices_burstable :
    ["kubepods", "burstable", "pod1234-abcd"] ≠ [] ∧
      CgroupPath.toSystemd ["kubepods", "burstable", "pod1234-abcd"] =
        "/kubepods.slice/kubepods-burstable.slice/kubepods-burstable-pod1234_abcd.slice" := by
  refine ⟨by decide, ?_⟩
  rw [toSystemd_nestedSlices.1 _ (by decide), ← String.toList_inj]
  simp [nestedSlices, List.range_succ]

end Container

end Huatuo.Pod
