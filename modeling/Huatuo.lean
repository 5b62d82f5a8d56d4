import Huatuo.Lib.Walk
import Huatuo.Lib.Partition
import Huatuo.Lib.Go
import Huatuo.Flamegraph.Bars
import Huatuo.Flamegraph.Tree
import Huatuo.Flamegraph.Frame
import Huatuo.Perf.ParseData
import Huatuo.Conf.Config
import Huatuo.Lib.Store
import Huatuo.Pod.Css
import Huatuo.Metric.Data
import Huatuo.Lib.Keyed
import Huatuo.Metric.Collectors
import Huatuo.Lib.Machine
import Huatuo.Tracing.Task
import Huatuo.Lib.Search
import Huatuo.Lib.Strings
import Huatuo.Symbol.Usym
import Huatuo.Symbol.Ksym
import Huatuo.Pod.Sync
import Huatuo.Bpf.Attach
import Huatuo.Bpf.Rollback
import Huatuo.Bpf.Ratelimit
import Huatuo.Bpf.RatelimitRuns
import Huatuo.Lib.BpfMap
import Huatuo.Bpf.Softirq
import Huatuo.Bpf.Runqlat
import Huatuo.Bpf.RunqlatRuns
import Huatuo.Events.Netdev
import Huatuo.Lib.FixedPoint
import Huatuo.Autotracing.Dload
import Huatuo.Lib.Ring
import Huatuo.Autotracing.MemBurst
import Huatuo.Cgroups.Cpu
import Huatuo.Metric.CpuUtil
import Huatuo.Metric.CpuStat
import Huatuo.Pod.Query
import Huatuo.Events.Oom
import Huatuo.Pod.CgroupPath
import Huatuo.Autotracing.CpuSys
import Huatuo.Metric.NetdevHw
import Huatuo.Tracing.Manager
import Huatuo.Lib.Sweep
import Huatuo.Autotracing.CpuIdle
import Huatuo.Autotracing.DloadDetect
import Huatuo.Bpf.SoftirqTracing
import Huatuo.Events.NetRecvLat
import Huatuo.Events.Dropwatch
