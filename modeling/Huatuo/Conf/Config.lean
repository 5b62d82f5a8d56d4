import Huatuo.Lib.Reflect
import Huatuo.Lib.Keyed
import Huatuo.Lib.Strings

/-! The global configuration (internal/conf/config.go) and the handler of `POST /config`
(internal/services/config/config.go). `CommonConf` is seen through `reflect`, as its leaf
fields. The TOML codec of go-toml and the file system are not modelled: `decode` (a strict
`Decode` into a fresh `CommonConf`, its `default` tags included) and `encode` (`os.Create` on
`configFile`, then an `Encoder`'s `Encode` into it) are arguments, and the results assume of
them only that a configuration of the right layout is read back as it was written. -/
namespace Huatuo.Conf

open Lib.Reflect

/-- The leaves of the struct `pre`, each with its path. -/
def group (pre : List String) (fields : List (String × GoType)) : List (List String × GoType) :=
  fields.map fun f => (pre ++ [f.1], f.2)

/-- The layout of `CommonConf`: every leaf field with its path and its Go type. -/
def commonConf : List (List String × GoType) :=
  [(["LogLevel"], .string), (["LogFile"], .string), (["Blacklist"], .slice .string),
    (["APIServer", "TCPAddr"], .string)] ++
  group ["HuaTuoConf"] [("UserName", .string), ("PassWord", .string), ("UnixAddr", .string),
    ("ServerIP", .string), ("APIVersion", .string), ("ReqTimeout", .int),
    ("OnlyOneSession", .bool), ("KeepaliveEnable", .bool), ("KeepaliveTimeout", .int)] ++
  group ["RuntimeCgroup"] [("LimitInitCPU", .float64), ("LimitCPU", .float64),
    ("LimitMem", .int64)] ++
  group ["Storage", "ES"] [("Address", .string), ("Username", .string), ("Password", .string),
    ("Index", .string)] ++
  group ["Storage", "LocalFile"] [("Path", .string), ("RotationSize", .int),
    ("MaxRotation", .int)] ++
  group ["TaskConfig"] [("MaxRunningTask", .int)] ++
  group ["Tracing", "CPUIdle"] [("UserThreshold", .int64), ("SysThreshold", .int64),
    ("UsageThreshold", .int64), ("DeltaUserThreshold", .int64), ("DeltaSysThreshold", .int64),
    ("DeltaUsageThreshold", .int64), ("Interval", .int64), ("IntervalContinuousPerf", .int64),
    ("PerfRunTimeOut", .int64)] ++
  group ["Tracing", "CPUSys"] [("SysThreshold", .int64), ("DeltaSysThreshold", .int64),
    ("Interval", .int64), ("PerfRunTimeOut", .int64)] ++
  group ["Tracing", "Waitrate"] [("SpikeThreshold", .map .string .float64),
    ("SlopeThreshold", .map .string .float64), ("SampleConfig", .map .string .int)] ++
  group ["Tracing", "Softirq"] [("ThresholdTime", .uint64)] ++
  group ["Tracing", "Dload"] [("ThresholdLoad", .float64), ("MonitorGap", .int)] ++
  group ["Tracing", "IOTracing"] [("IOScheduleThreshold", .uint64), ("ReadThreshold", .uint64),
    ("WriteThreshold", .uint64), ("IOutilThreshold", .uint64), ("IOwaitThreshold", .uint64),
    ("PeriodSecond", .uint64), ("MaxStackNumber", .int), ("TopProcessCount", .int),
    ("TopFilesPerProcess", .int)] ++
  group ["Tracing", "MemoryReclaim"] [("Deltath", .uint64)] ++
  group ["Tracing", "MemoryBurst"] [("HistoryWindowLength", .int), ("SampleInterval", .int),
    ("SilencePeriod", .int), ("TopNProcesses", .int), ("BurstRatio", .float64),
    ("AnonThreshold", .int)] ++
  group ["Tracing", "NetRecvLat"] [("ToNetIf", .uint64), ("ToTCPV4", .uint64),
    ("ToUserCopy", .uint64), ("IgnoreHost", .bool), ("IgnoreContainerLevel", .slice .int)] ++
  group ["Tracing", "Dropwatch"] [("IgnoreNeighInvalidate", .bool)] ++
  group ["Tracing", "Netdev"] [("Whitelist", .slice .string)] ++
  group ["Tracing", "Fastfork"] [("RedisInfoCollectionInterval", .uint32),
    ("EnableForkProbe", .uint32), ("EnablePtsepProbe", .uint32),
    ("EnableWaitptsepProbe", .uint32)] ++
  group ["MetricCollector", "Netdev"] [("EnableNetlink", .bool), ("IgnoredDevices", .string),
    ("AcceptDevices", .string)] ++
  group ["MetricCollector", "Qdisc"] [("IgnoredDevices", .string), ("AcceptDevices", .string)] ++
  group ["MetricCollector", "Vmstat"] [("IncludedMetrics", .string),
    ("ExcludedMetrics", .string)] ++
  group ["MetricCollector", "MemoryStat"] [("IncludedMetrics", .string),
    ("ExcludedMetrics", .string)] ++
  group ["MetricCollector", "MemoryEvents"] [("IncludedMetrics", .string),
    ("ExcludedMetrics", .string)] ++
  group ["MetricCollector", "Netstat"] [("ExcludedMetrics", .string),
    ("IncludedMetrics", .string)] ++
  group ["MetricCollector", "MountPointStat"] [("IncludedMountPoints", .string)] ++
  group ["WarningFilter"] [("PatternList", .slice (.slice .string))] ++
  group ["Pod"] [("KubeletPodListURL", .string), ("KubeletPodListHTTPSURL", .string),
    ("KubeletPodClientCertPath", .string), ("DockerAPIVersion", .string)]

/-- A configuration of the layout of `CommonConf`. -/
def Conforms (config : Fields) : Prop :=
  config.layout = commonConf.map fun f => (f.1, some f.2)

instance (config : Fields) : Decidable (Conforms config) :=
  inferInstanceAs (Decidable (_ = _))

def zeroConfig : Fields :=
  commonConf.map fun f => (f.1, f.2.zero)

def limitMemPath : List String :=
  ["RuntimeCgroup", "LimitMem"]

/-- `config.RuntimeCgroup.LimitMem *= 1024 * 1024` on an `int64`, which wraps. -/
def toBytes : Value → Value
  | .int t n => .int t (Int.bmod (n * (1024 * 1024)) (2 ^ 64))
  | v => v

/-- The globals `config` and `configFile`, and the files. -/
structure State (File : Type) where
  config : Fields
  configFile : String
  files : String → Option File

variable {File : Type}

/-- `LoadConfig`: decode the file, then turn `LimitMem` from MB into bytes. -/
def loadConfig (decode : File → Except String Fields) (st : State File) (path : String) :
    Except String (State File) := do
  let some f := st.files path | throw ("open " ++ path ++ ": no such file or directory")
  let config ← decode f
  pure { st with config := config.modify limitMemPath toBytes, configFile := path }

/-- `Sync`: `os.Create` empties `configFile`, then the encoder writes the configuration into it.
`encode` gives the file written, or the error with what the file holds after it: nothing new
when `os.Create` failed (`none`), what the encoder wrote before failing otherwise. -/
def sync (encode : Fields → Except (String × Option File) File) (st : State File) :
    State File × Except String Unit :=
  match encode st.config with
  | .ok f => ({ st with files := Function.update st.files st.configFile (some f) }, .ok ())
  | .error (e, none) => (st, .error e)
  | .error (e, some f) => ({ st with files := Function.update st.files st.configFile (some f) }, .error e)

/-- `Set`: the key's names separated by dots (`strings.Split(key, ".")`); `none` is a panic. -/
def set (key : String) (val : Value) (config : Fields) : Option Fields :=
  setPath config (Lib.Strings.split key '.') val

/-! ## `POST /config` -/

/-- A JSON value of the request, as `json` decodes it into an `any`. -/
inductive JsonValue
  | null
  | bool (b : Bool)
  | number (v : ℚ)
  | string (s : String)
  | array (vs : List JsonValue)
  | object (kvs : List (String × JsonValue))
deriving Repr

mutual
/-- The Go value of a decoded JSON value: numbers are `float64`, arrays `[]any` and objects
`map[string]any`. -/
def JsonValue.toAny : JsonValue → Value
  | .null => .nil
  | .bool b => .bool b
  | .number v => .float v
  | .string s => .string s
  | .array vs => .slice .any (JsonValue.toAnyList vs)
  | .object kvs => .map .string .any (JsonValue.toAnyEntries kvs)

def JsonValue.toAnyList : List JsonValue → List Value
  | [] => []
  | v :: vs => v.toAny :: JsonValue.toAnyList vs

def JsonValue.toAnyEntries : List (String × JsonValue) → List (Value × Value)
  | [] => []
  | (k, v) :: kvs => (.string k, v.toAny) :: JsonValue.toAnyEntries kvs
end

/-- `if reflect.ValueOf(v).Kind() == reflect.Float64 { v = int(v.(float64)) }`: the
conversion truncates. -/
def toInt : Value → Value
  | .float q => .int .int (q.num.tdiv q.den)
  | v => v

/-- The loop over the request's map, its entries in the order `range` visits them: each
value converted, then `Set`. The flag is false when a `Set` panicked; the entries set
before it stay. -/
def setAll : List (String × Value) → Fields → Fields × Bool
  | [], config => (config, true)
  | (k, v) :: rest, config =>
    match set k (toInt v) config with
    | none => (config, false)
    | some config => setAll rest config

/-- What the handler answers; `recovered` is the 500 of gin's `Recovery` after a panic. -/
inductive Response
  | noContent
  | badRequest (message : String)
  | internalServerError (message : String)
  | recovered
deriving DecidableEq, Repr

/-- `Config`, the handler of `POST /config`. `body` is what `BindJSON` gives: an error,
or the map `config` of the request as its entries in the order `range` visits them. -/
def config (encode : Fields → Except (String × Option File) File)
    (body : Except String (List (String × JsonValue))) (st : State File) : State File × Response :=
  match body with
  | .error e => (st, .badRequest e)
  | .ok req =>
    match setAll (req.map fun kv => (kv.1, kv.2.toAny)) st.config with
    | (c, false) => ({ st with config := c }, .recovered)
    | (c, true) =>
      match sync encode { st with config := c } with
      | (st', .error e) => (st', .internalServerError e)
      | (st', .ok ()) => (st', .noContent)

/-! ## The layout is kept -/

section Layout

variable {c c' : Fields}

theorem nodup_commonConf : (commonConf.map Prod.fst).Nodup := by
  decide +kernel

theorem Conforms.map_fst (h : Conforms c) : c.map Prod.fst = commonConf.map Prod.fst := by
  have := congrArg (List.map Prod.fst) h
  simpa [Fields.layout, Function.comp_def] using this

theorem Conforms.set {key : String} {val : Value} (h : Conforms c) (hs : set key val c = some c') :
    Conforms c' := by
  have hnd : (c.map Prod.fst).Nodup := by
    rw [h.map_fst]
    exact nodup_commonConf
  unfold Conforms
  rw [setPath_layout hnd hs]
  exact h

theorem Conforms.setAll (h : Conforms c) : ∀ kvs, Conforms (setAll kvs c).1 := by
  intro kvs
  induction kvs generalizing c with
  | nil => exact h
  | cons kv kvs ih =>
    obtain ⟨k, v⟩ := kv
    rw [setAll]
    cases hs : Conf.set k (toInt v) c with
    | none => exact h
    | some c' => exact ih (h.set hs)

@[simp] theorem sync_config (encode : Fields → Except (String × Option File) File) (st : State File) :
    (sync encode st).1.config = st.config := by
  unfold sync
  split <;> rfl

end Layout

/-! ## Writing the configuration and loading it again -/

/-- A codec that writes the configuration as it is and reads back any configuration of the
layout of `CommonConf`. -/
def plainDecode (f : Fields) : Except String Fields :=
  if Conforms f then .ok f else .error "undecoded keys"

def limitMem (c : Fields) : Option Int :=
  match c.lookup limitMemPath with
  | some (.int _ n) => some n
  | _ => none

/-- The shipped file sets `LimitMem = 2048` (MB). Loaded, it is 2048 MiB in bytes; after an
empty `POST /config`, which syncs, and a restart it is 2048 TiB. -/
theorem loadConfig_config_limitMem :
    let st₀ : State Fields := ⟨zeroConfig, "", fun p =>
      if p = "huatuo-bamai.conf" then some (zeroConfig.put limitMemPath (.int .int64 2048)) else none⟩
    ((loadConfig plainDecode st₀ "huatuo-bamai.conf").toOption.bind fun st => limitMem st.config) =
        some 2147483648 ∧
      ((loadConfig plainDecode st₀ "huatuo-bamai.conf").toOption.map fun st =>
          (config .ok (.ok []) st).2) = some .noContent ∧
      ((loadConfig plainDecode st₀ "huatuo-bamai.conf" >>= fun st =>
          loadConfig plainDecode (config .ok (.ok []) st).1 st.configFile).toOption.bind fun st =>
            limitMem st.config) =
        some 2251799813685248 := by
  decide +kernel

/-! ## What a request does

The loop sets the pairs of the request in the order `range` visits them and panics at the
first that `Set` cannot take; gin's `Recovery` answers the panic. So a request either has all
its pairs set and is synced, or has the pairs before the first bad one set, in memory only. -/

/-- Every pair set in turn, its value converted first: `none` at the first that `Set` cannot
take. -/
def setInOrder (kvs : List (String × Value)) (config : Fields) : Option Fields :=
  kvs.foldlM (fun c kv => set kv.1 (toInt kv.2) c) config

def stringAt (c : Fields) (path : List String) : Option String :=
  match c.lookup path with
  | some (.string s) => some s
  | _ => none

section Request

variable {kvs : List (String × Value)} {c c' : Fields}

/-- When every pair can be set, the loop sets them all. -/
theorem setAll_of_setInOrder (h : setInOrder kvs c = some c') : setAll kvs c = (c', true) := by
  induction kvs generalizing c with
  | nil =>
    have : c = c' := by simpa [setInOrder] using h
    rw [this, setAll]
  | cons kv kvs ih =>
    obtain ⟨k, v⟩ := kv
    cases hs : Conf.set k (toInt v) c with
    | none => simp [setInOrder, hs] at h
    | some c₁ =>
      have h' : setInOrder kvs c₁ = some c' := by simpa [setInOrder, hs] using h
      rw [setAll, hs]
      exact ih h'

theorem setAll_of_setInOrder_eq_none (h : setInOrder kvs c = none) :
    ∃ pre k v rest c₁, kvs = pre ++ (k, v) :: rest ∧ setInOrder pre c = some c₁ ∧
      Conf.set k (toInt v) c₁ = none ∧ setAll kvs c = (c₁, false) := by
  induction kvs generalizing c with
  | nil => simp [setInOrder] at h
  | cons kv kvs ih =>
    obtain ⟨k, v⟩ := kv
    cases hs : Conf.set k (toInt v) c with
    | none => exact ⟨[], k, v, kvs, c, rfl, rfl, hs, by rw [setAll, hs]⟩
    | some c₁ =>
      have h' : setInOrder kvs c₁ = none := by simpa [setInOrder, hs] using h
      obtain ⟨pre, k', v', rest, c₂, rfl, hpre, hk, hall⟩ := ih h'
      refine ⟨(k, v) :: pre, k', v', rest, c₂, rfl, ?_, hk, ?_⟩
      · simpa [setInOrder, hs] using hpre
      · rw [setAll, hs]
        exact hall

theorem Conforms.type_of_mem (h : Conforms c) {p : List String × Value} (hp : p ∈ c) :
    ∃ ty, (p.1, ty) ∈ commonConf ∧ p.2.type = some ty := by
  have hmem : (p.1, p.2.type) ∈ c.layout := List.mem_map.2 ⟨p, hp, rfl⟩
  rw [h] at hmem
  obtain ⟨f, hf, hfe⟩ := List.mem_map.1 hmem
  have hpath : f.1 = p.1 := congrArg Prod.fst hfe
  refine ⟨f.2, ?_, (congrArg Prod.snd hfe).symm⟩
  rw [← hpath]
  exact hf

theorem commonConf_type_unique {path : List String} {ty ty' : GoType} (h : (path, ty) ∈ commonConf)
    (h' : (path, ty') ∈ commonConf) : ty = ty' := by
  have hl := Lib.Keyed.lookup_of_mem nodup_commonConf h
  have hl' := Lib.Keyed.lookup_of_mem nodup_commonConf h'
  rw [hl] at hl'
  exact Option.some.inj hl'

theorem set_number_isSome (h : Conforms c) (key : String) (q : ℚ) :
    (Conf.set key (toInt (.float q)) c).isSome ↔
      (Lib.Strings.split key '.', GoType.int) ∈ commonConf := by
  have hnd : (c.map Prod.fst).Nodup := by
    rw [h.map_fst]
    exact nodup_commonConf
  have hv : (toInt (.float q)).type = some .int := rfl
  unfold Conf.set
  rw [setPath_isSome_iff hnd, hv]
  constructor
  · rintro ⟨t, hmemc, ht⟩
    obtain ⟨ty, hmem, hty⟩ := h.type_of_mem hmemc
    have hint : ty = .int := by
      rw [hty] at ht
      exact Option.some.inj ht
    rw [← hint]
    exact hmem
  · intro hmem
    have hin : Lib.Strings.split key '.' ∈ c.map Prod.fst := by
      rw [h.map_fst]
      exact List.mem_map.2 ⟨_, hmem, rfl⟩
    obtain ⟨p, hp, hpk⟩ := List.mem_map.1 hin
    obtain ⟨ty, hmem', hty⟩ := h.type_of_mem hp
    rw [hpk] at hmem'
    have hint : ty = .int := commonConf_type_unique hmem' hmem
    refine ⟨p.2, ?_, by rw [hty, hint]⟩
    rw [← hpk]
    exact hp

end Request

/-- What `POST /config` does with a request. A body `BindJSON` rejects changes nothing and is
answered 400. When every pair of the map can be set, in the order `range` visits them, all are
set and `Sync` writes the configuration: 204 when it is written, 500 when `Sync` fails, with the
configuration in memory changed all the same. Otherwise the pairs before the first that cannot
be set are set in memory, the file is left alone, and the panic is answered 500. And a JSON
number can be set exactly at the `int` leaves. -/
theorem config_outcome (encode : Fields → Except (String × Option File) File)
    (body : Except String (List (String × JsonValue))) (st : State File) :
    (∀ e, body = .error e → config encode body st = (st, .badRequest e)) ∧
      (∀ req c, body = .ok req → setInOrder (req.map fun kv => (kv.1, kv.2.toAny)) st.config = some c →
        (config encode body st).1.config = c ∧
          (∀ f, encode c = .ok f → config encode body st =
            ({ st with config := c, files := Function.update st.files st.configFile (some f) },
              .noContent)) ∧
          (∀ e p, encode c = .error (e, p) → (config encode body st).2 = .internalServerError e)) ∧
      (∀ req, body = .ok req → setInOrder (req.map fun kv => (kv.1, kv.2.toAny)) st.config = none →
        ∃ pre k v rest c, req.map (fun kv => (kv.1, kv.2.toAny)) = pre ++ (k, v) :: rest ∧
          setInOrder pre st.config = some c ∧ Conf.set k (toInt v) c = none ∧
          config encode body st = ({ st with config := c }, .recovered)) ∧
      (∀ c, Conforms c → ∀ key q,
        (Conf.set key (toInt (.float q)) c).isSome ↔ (Lib.Strings.split key '.', GoType.int) ∈ commonConf) := by
  refine ⟨fun e he => by rw [he]; rfl, fun req c hreq hset => ?_, fun req hreq hset => ?_,
    fun c hc key q => set_number_isSome hc key q⟩
  · -- every pair is set: what is left is `Sync`
    have hall := setAll_of_setInOrder hset
    subst hreq
    have hc := sync_config encode { st with config := c }
    refine ⟨?_, fun f hf => ?_, fun e p he => ?_⟩
    · simp only [config, hall]
      split
      · next st' e hs => rw [hs] at hc; exact hc
      · next st' hs => rw [hs] at hc; exact hc
    · simp [config, hall, sync, hf]
    · cases p <;> simp [config, hall, sync, he]
  · -- the loop panics at the first pair it cannot set
    obtain ⟨pre, k, v, rest, c, hkvs, hpre, hk, hall⟩ := setAll_of_setInOrder_eq_none hset
    subst hreq
    exact ⟨pre, k, v, rest, c, hkvs, hpre, hk, by simp [config, hall]⟩

/-- A request that sets the log level: it is set, in memory and, synced, in the file. -/
theorem config_outcome_logLevel :
    let st₀ : State Fields := ⟨zeroConfig, "huatuo-bamai.conf", fun _ => none⟩
    setInOrder ([("LogLevel", JsonValue.string "debug")].map fun kv => (kv.1, kv.2.toAny)) st₀.config =
        some (zeroConfig.put ["LogLevel"] (.string "debug")) ∧
      (config .ok (.ok [("LogLevel", .string "debug")]) st₀).1.config =
        zeroConfig.put ["LogLevel"] (.string "debug") :=
  have h : setInOrder ([("LogLevel", JsonValue.string "debug")].map fun kv => (kv.1, kv.2.toAny))
      zeroConfig = some (zeroConfig.put ["LogLevel"] (.string "debug")) := by
    rfl
  ⟨h, ((@config_outcome Fields .ok (.ok [("LogLevel", .string "debug")])
    ⟨zeroConfig, "huatuo-bamai.conf", fun _ => none⟩).2.1 _ _ rfl h).1⟩

/-- A request whose map `range` visits `LogLevel` first and then gives `LimitMem`, an `int64`, a
number: the log level is set, the number panics, and the answer is the 500 of `Recovery`. A
number alone for `LimitMem` panics too. -/
theorem config_sets_prefix_then_panics :
    let st₀ : State Fields := ⟨zeroConfig, "huatuo-bamai.conf", fun _ => none⟩
    stringAt st₀.config ["LogLevel"] = some "" ∧
      stringAt (config .ok (.ok [("LogLevel", .string "debug"),
        ("RuntimeCgroup.LimitMem", .number 2048)]) st₀).1.config ["LogLevel"] = some "debug" ∧
      (config .ok (.ok [("LogLevel", .string "debug"),
        ("RuntimeCgroup.LimitMem", .number 2048)]) st₀).2 = .recovered ∧
      (config .ok (.ok [("RuntimeCgroup.LimitMem", .number 2048)]) st₀).2 = .recovered := by
  decide +kernel

end Huatuo.Conf
