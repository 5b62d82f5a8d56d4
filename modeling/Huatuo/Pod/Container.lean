import Mathlib

/-! The containers of the pods the kubelet lists (internal/pod): what a container's type, QoS
level, hostname and host namespace are, as parsed from its pod. A pod is seen through the fields
of `corev1.Pod` these functions read; `os.Hostname` is the value `osHostname` it returned. -/
namespace Huatuo.Pod

/-- `ContainerType`, one of its named bits. -/
inductive ContainerType
  | sidecar | daemonSet | node | static | normal | unknown
deriving DecidableEq, Repr

def ContainerType.toString : ContainerType → String
  | .sidecar => "Sidecar"
  | .daemonSet => "DaemonSet"
  | .normal => "Normal"
  | .node => "Node"
  | .static => "Static"
  | .unknown => "Unknown"

inductive ContainerQos
  | unknown | guaranteed | burstable | bestEffort
deriving DecidableEq, Repr

def ContainerQos.toString : ContainerQos → String
  | .burstable => "Burstable"
  | .bestEffort => "BestEffort"
  | .guaranteed => "Guaranteed"
  | .unknown => "Unknown"

/-- A `corev1.ContainerStatus`: its name, its `ContainerID` and whether
`State.Running` is set. -/
structure ContainerStatus where
  name : String
  containerID : String
  running : Bool
deriving DecidableEq, Repr

/-- A `corev1.Pod` as the kubelet lists it: its namespace, the kinds of its owner references, its spec's hostname and container
names, and its status's phase, QoS class and container statuses. -/
structure KubeletPod where
  name : String
  podNamespace : String
  hostname : String
  ownerKinds : List String
  containers : List String
  phase : String
  qosClass : String
  containerStatuses : List ContainerStatus
deriving DecidableEq, Repr

/-- The fields of a `Container` that the metrics read; `hostNamespace` is
`Labels[labelHostNamespace]`. -/
structure Container where
  id : String
  name : String
  hostname : String
  type : ContainerType
  qos : ContainerQos
  hostNamespace : String
deriving DecidableEq, Repr

def sidecarModules : String := "istio-proxy"

def stringsContains (s substr : String) : Bool :=
  decide (substr.toList <:+: s.toList)

def parseContainerType (containerName : String) (pod : KubeletPod) : ContainerType :=
  match pod.ownerKinds with
  | [] => if pod.phase = "Running" then .normal else .unknown
  | kind :: _ =>
    if kind = "DaemonSet" then .daemonSet
    else if stringsContains sidecarModules containerName then .sidecar
    else .normal

def parseContainerQos (pod : KubeletPod) : ContainerQos :=
  if pod.qosClass = "Burstable" then .burstable
  else if pod.qosClass = "BestEffort" then .bestEffort
  else if pod.qosClass = "Guaranteed" then .guaranteed
  else .unknown

/-- `parseContainerHostname`: the node's hostname for a DaemonSet, else the pod's
`Spec.Hostname`, else the pod's name. -/
def parseContainerHostname (osHostname : Except String String) (typ : ContainerType) (pod : KubeletPod) :
    Except String String :=
  if typ = .daemonSet then osHostname.mapError ("os.Hostname: " ++ ·)
  else if pod.hostname = "" then .ok pod.name
  else .ok pod.hostname

def parseContainerLabelHostNamespace (pod : KubeletPod) : String :=
  pod.podNamespace

/-- `kubeletUpdateContainer`, up to storing the container it builds. `osHostname` is what
`os.Hostname` returns, and `runtimeReads containerID` what `containerInitPid` and
`NetNSInodeByPid`, which read the runtime and /proc, return. -/
def kubeletUpdateContainer (osHostname : Except String String)
    (runtimeReads : String → Except String Unit) (containerID containerName : String)
    (pod : KubeletPod) : Except String Container := do
  let containerType := parseContainerType containerName pod
  let containerQos := parseContainerQos pod
  let hostname ← (parseContainerHostname osHostname containerType pod).mapError
    ("failed to parse hostname: " ++ ·)
  runtimeReads containerID
  pure ⟨containerID, containerName, hostname, containerType, containerQos,
    parseContainerLabelHostNamespace pod⟩

/-! ## How a container's type is parsed -/

section ParseType

variable (containerName : String) (pod : KubeletPod)

end ParseType

end Huatuo.Pod
