import Huatuo.Pod.Container
import Mathlib

/-! Metric data points (pkg/metric/data.go) and the Prometheus metrics `prometheusMetric` makes
of them. A label map is a Go map: its entries, with distinct keys. `defaultRegion` and
`defaultHostname` are the package's globals, a `float64` value is the rational it stands for,
and `metricDescCache` is a function from metric names to descriptors. -/
namespace Huatuo.Metric

open Huatuo.Pod

def metricTypeGauge : Nat := 0
def labelHost : String := "host"
def labelRegion : String := "region"
def labelContainerName : String := "container_name"
def labelContainerHost : String := "container_host"
def labelContainerType : String := "container_type"
def labelContainerLevel : String := "container_level"
def labelContainerHostNamespace : String := "container_hostnamespace"

/-- A `map[string]string` of labels. -/
structure Labels where
  entries : List (String × String)
  nodup : (entries.map Prod.fst).Nodup

def Labels.get (label : Labels) (k : String) : String :=
  (label.entries.lookup k).getD ""

/-- The keys in the order `sort.Strings` leaves them. -/
def Labels.sortedKeys (label : Labels) : List String :=
  (label.entries.map Prod.fst).insertionSort (· ≤ ·)

structure Data where
  metricName : String
  metricType : Nat
  value : ℚ
  help : String
  labelKey : List String
  labelValue : List String
deriving DecidableEq

section Defaults

variable (defaultRegion defaultHostname : String)

def newGaugeData (name : String) (value : ℚ) (help : String) (label : Labels) : Data :=
  let selfLabelKeys := label.sortedKeys
  { metricName := name, metricType := metricTypeGauge, value := value, help := help,
    labelKey := [labelRegion, labelHost] ++ selfLabelKeys,
    labelValue := [defaultRegion, defaultHostname] ++ selfLabelKeys.map label.get }

def newContainerGaugeData (container : Container) (name : String) (value : ℚ) (help : String)
    (label : Labels) : Data :=
  let selfLabelKeys := label.sortedKeys
  { metricName := "container_" ++ name, metricType := metricTypeGauge, value := value,
    help := help,
    labelKey := [labelRegion, labelContainerHost, labelContainerName, labelContainerType,
      labelContainerLevel, labelContainerHostNamespace, labelHost] ++ selfLabelKeys,
    labelValue := [defaultRegion, container.hostname, container.name, container.type.toString,
      container.qos.toString, container.hostNamespace, defaultHostname] ++
      selfLabelKeys.map label.get }

end Defaults

/-! ## Descriptors and metrics -/

section Collect

variable {collector : String}

end Collect

end Huatuo.Metric
