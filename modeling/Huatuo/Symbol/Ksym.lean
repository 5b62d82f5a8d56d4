import Huatuo.Lib.Machine
import Huatuo.Lib.Search
import Huatuo.Lib.Strings

/-! The kernel symbol table (internal/symbol/ksymbols.go). `ksymbolCache` is an array of
`ksymbolMax` entries of which the first `ksymbolCounter` are loaded; the state keeps those
entries, and the rest are `Symbol{}`. /proc/kallsyms is the lines a scanner reads from it, or
the error of opening it; `sort.Sort` is any sort by address (`Lib.Search.SortBy`), and a Go
panic is `none`. -/
namespace Huatuo.Ksymbols

open Lib Lib.Search

structure Symbol where
  addr : UInt64
  name : String
  module : String
deriving DecidableEq, Repr

def ksymbolMax : Nat := 300000

/-- `KsymbolStackMaxDepth`, the depth of the stacks the tracers read. -/
def ksymbolStackMaxDepth : Int := 127
def moduleKernel : String := "[kernel]"
def defaultSymbol : Symbol := ⟨0, "", "[unknown]"⟩

/-- `Symbol{}`, what `make` leaves in the entries never loaded. -/
def zeroSymbol : Symbol := ⟨0, "", ""⟩

/-- `ksymbolCache[:ksymbolCounter]` and `ksymbolIsInit`. -/
structure KsymState where
  cache : List Symbol
  isInit : Bool
deriving DecidableEq, Repr

/-- `ksymbolCache[i]`: a loaded entry, `Symbol{}` beyond them, a panic past `ksymbolMax`. -/
def cacheAt (cache : List Symbol) (i : Nat) : Option Symbol :=
  if i < ksymbolMax then some (cache.getD i zeroSymbol) else none

/-- The text symbol one line of /proc/kallsyms names, if it names one. -/
def parseLine (line : String) : Option Symbol :=
  let words := Strings.fieldsFunc line fun c => c = ' ' || c = '\t'
  let textSymbol (addr kind name module : String) : Option Symbol :=
    if kind ≠ "T" ∧ kind ≠ "t" then none
    else
      let (value, err) := Strings.parseUint addr 16
      if err then none else some ⟨value, name, module⟩
  match words with
  | [addr, kind, name] => textSymbol addr kind name moduleKernel
  | [addr, kind, name, module] => textSymbol addr kind name module
  | _ => none

/-- The scanner loop of `loadKAllSymbols` over the entries loaded so far. -/
def loadLoop : List String → List Symbol → Option (List Symbol)
  | [], cache => some cache
  | line :: lines, cache =>
    match parseLine line with
    | none => loadLoop lines cache
    | some sym => if cache.length < ksymbolMax then loadLoop lines (cache ++ [sym]) else none

def loadKAllSymbols (sortSymbols : SortBy Symbol fun s => s.addr.toNat)
    (kallsyms : Except String (List String)) : Option KsymState :=
  match kallsyms with
  | .error _ => some ⟨[defaultSymbol], false⟩
  | .ok lines => (loadLoop lines [defaultSymbol]).map fun cache => ⟨sortSymbols.sort cache, true⟩

/-- The binary search of `ksymbolSearch` on `[i, j)`; it reads only loaded entries. -/
def searchLoop (cache : List Symbol) (key : UInt64) (i j : Nat) : Nat :=
  if i < j then
    let h := (i + j) / 2
    let addr := (cache.getD h zeroSymbol).addr
    if addr = key then h
    else if addr < key then searchLoop cache key (h + 1) j
    else searchLoop cache key i h
  else i
termination_by j - i
decreasing_by all_goals omega

def lookup (cache : List Symbol) (key : UInt64) : Option Symbol := do
  let i := searchLoop cache key 0 cache.length
  let sym ← cacheAt cache i
  if sym.addr = key then return sym
  if i = 0 then cacheAt cache 0 else cacheAt cache (i - 1)

def ksymbolSearch (sortSymbols : SortBy Symbol fun s => s.addr.toNat)
    (kallsyms : Except String (List String)) (st : KsymState) (key : UInt64) :
    Option (Symbol × KsymState) := do
  let st ← if st.isInit then some st else loadKAllSymbols sortSymbols kallsyms
  let sym ← lookup st.cache key
  return (sym, st)

def hexString (n : UInt64) : String :=
  String.ofList (Nat.toDigits 16 n.toNat)

/-- `DumpKernelBackTrace`: the addresses up to the first zero or `maxDepth`, each named by
`ksymbolSearch` unless its symbol has no name. -/
def dumpKernelBackTrace (sortSymbols : SortBy Symbol fun s => s.addr.toNat)
    (kallsyms : Except String (List String)) (st : KsymState) (stack : List UInt64)
    (maxDepth : Int) : Option (List String × KsymState) :=
  let addrs := ((stack.zipIdx.takeWhile fun p => p.1 ≠ 0 ∧ (p.2 : Int) < maxDepth)).map Prod.fst
  addrs.foldlM (fun acc addr => do
      let (sym, st) ← ksymbolSearch sortSymbols kallsyms acc.2 addr
      if sym.name ≠ "" then
        pure (acc.1 ++ [sym.name ++ "/" ++ hexString sym.addr ++ " " ++ sym.module], st)
      else pure (acc.1, st))
    ([], st)

/-! ## Loading -/

theorem loadLoop_eq (lines : List String) (cache : List Symbol) (hc : cache.length ≤ ksymbolMax) :
    loadLoop lines cache =
      if cache.length + (lines.filterMap parseLine).length ≤ ksymbolMax then
        some (cache ++ lines.filterMap parseLine)
      else none := by
  induction lines generalizing cache with
  | nil => simp [loadLoop, hc]
  | cons line lines ih =>
    cases hp : parseLine line with
    | none =>
      rw [loadLoop, hp, List.filterMap_cons_none hp]
      exact ih cache hc
    | some sym =>
      rw [loadLoop, hp, List.filterMap_cons_some hp]
      dsimp only
      by_cases hlt : cache.length < ksymbolMax
      · have hfits : (cache ++ [sym]).length ≤ ksymbolMax := by
          rw [List.length_append, List.length_singleton]
          omega
        rw [if_pos hlt, ih (cache ++ [sym]) hfits]
        simp only [List.length_append, List.length_cons, List.length_nil, List.append_assoc,
          List.singleton_append]
        congr 1
        exact propext (by omega)
      · have hover : ¬cache.length + (sym :: lines.filterMap parseLine).length ≤ ksymbolMax := by
          rw [List.length_cons]
          omega
        rw [if_neg hlt, if_neg hover]

/-! ## The search -/

section Search

variable {cache : List Symbol} {key : UInt64}

/-- The address the loop reads at index `k`, as a number. -/
def addrAt (cache : List Symbol) (k : Nat) : Nat :=
  (cache.getD k zeroSymbol).addr.toNat

def Sorted (cache : List Symbol) : Prop :=
  cache.Pairwise fun a b => a.addr.toNat ≤ b.addr.toNat

theorem addrAt_eq {k : Nat} (hk : k < cache.length) : addrAt cache k = cache[k].addr.toNat := by
  simp [addrAt, List.getD_eq_getElem?_getD, List.getElem?_eq_getElem hk]

theorem addrAt_mono (hs : Sorted cache) {k h : Nat} (hkh : k ≤ h) (hh : h < cache.length) :
    addrAt cache k ≤ addrAt cache h := by
  rw [addrAt_eq (by omega), addrAt_eq hh]
  rcases Nat.lt_or_eq_of_le hkh with hlt | rfl
  · exact List.pairwise_iff_getElem.1 hs k h (by omega) hh hlt
  · exact le_refl _

/-- The loop's invariant: addresses below `key` before `i`, above it from `j` on. -/
def Bracket (cache : List Symbol) (key : UInt64) (i j : Nat) : Prop :=
  i ≤ j ∧ j ≤ cache.length ∧ (∀ k < i, addrAt cache k < key.toNat) ∧
    ∀ k, j ≤ k → k < cache.length → key.toNat < addrAt cache k

/-- The loop stops at an entry whose address is `key`, or where the addresses pass `key`. -/
theorem searchLoop_spec (hs : Sorted cache) {i j : Nat} (hb : Bracket cache key i j) :
    (searchLoop cache key i j < cache.length ∧
      addrAt cache (searchLoop cache key i j) = key.toNat) ∨
      Bracket cache key (searchLoop cache key i j) (searchLoop cache key i j) := by
  induction i, j using searchLoop.induct cache key with
  | case1 i j hij h addr hkey =>
    have hk : (cache.getD ((i + j) / 2) zeroSymbol).addr = key := hkey
    rw [searchLoop, if_pos hij]
    dsimp only
    rw [if_pos hk]
    exact .inl ⟨by have := hb.2.1; omega, by rw [addrAt, hk]⟩
  | case2 i j hij h addr hne hlt ih =>
    have hk : ¬(cache.getD ((i + j) / 2) zeroSymbol).addr = key := hne
    have hl : (cache.getD ((i + j) / 2) zeroSymbol).addr < key := hlt
    rw [searchLoop, if_pos hij]
    dsimp only
    rw [if_neg hk, if_pos hl]
    obtain ⟨-, hjl, hlow, hhigh⟩ := hb
    have hmid : h < cache.length := by omega
    have hlt' : addrAt cache h < key.toNat := UInt64.lt_iff_toNat_lt.1 hlt
    exact ih ⟨by omega, hjl, fun k hk => lt_of_le_of_lt (addrAt_mono hs (by omega) hmid) hlt',
      hhigh⟩
  | case3 i j hij h addr hne hlt ih =>
    have hk : ¬(cache.getD ((i + j) / 2) zeroSymbol).addr = key := hne
    have hl : ¬(cache.getD ((i + j) / 2) zeroSymbol).addr < key := hlt
    rw [searchLoop, if_pos hij]
    dsimp only
    rw [if_neg hk, if_neg hl]
    obtain ⟨-, hjl, hlow, hhigh⟩ := hb
    have hmid : h < cache.length := by omega
    have hgt : key.toNat < addrAt cache h := by
      have hne' : addrAt cache h ≠ key.toNat := fun he => hne (UInt64.toNat_inj.1 he)
      have hge : key.toNat ≤ addrAt cache h := Nat.not_lt.1 fun h' => hlt (UInt64.lt_iff_toNat_lt.2 h')
      omega
    exact ih ⟨by omega, by omega, hlow,
      fun k hk hkl => lt_of_lt_of_le hgt (addrAt_mono hs hk hkl)⟩
  | case4 i j hij =>
    rw [searchLoop, if_neg hij]
    have hji : j = i := by have := hb.1; omega
    subst hji
    exact .inr hb

/-- `s` has the greatest address at most `key` among `table`. -/
def IsFloor (table : List Symbol) (key : UInt64) (s : Symbol) : Prop :=
  s.addr ≤ key ∧ ∀ t ∈ table, ¬(s.addr < t.addr ∧ t.addr ≤ key)

theorem lookup_floor_of_hit (hlen : cache.length < ksymbolMax) {r : Nat}
    (hr : searchLoop cache key 0 cache.length = r) (hrl : r < cache.length)
    (hat : addrAt cache r = key.toNat) :
    ∃ s, lookup cache key = some s ∧ s ∈ cache ∧ IsFloor cache key s := by
  have hcache : cacheAt cache r = some (cache.getD r zeroSymbol) := if_pos (by omega)
  have heq : cache[r].addr = key := UInt64.toNat_inj.1 ((addrAt_eq hrl).symm.trans hat)
  refine ⟨cache[r], ?_, List.getElem_mem hrl, ?_, fun t _ ht => ?_⟩
  · simp [lookup, hr, hcache, List.getElem?_eq_getElem hrl, heq]
  · rw [heq]
    exact UInt64.le_refl key
  · have h1 := UInt64.lt_iff_toNat_lt.1 ht.1
    have h2 := UInt64.le_iff_toNat_le.1 ht.2
    rw [heq] at h1
    omega

theorem lookup_floor_of_miss (hs : Sorted cache) (hlen : cache.length < ksymbolMax)
    (hzero : ∃ d ∈ cache, d.addr = 0) (hkey : key ≠ 0) {r : Nat}
    (hr : searchLoop cache key 0 cache.length = r) (hb : Bracket cache key r r) :
    ∃ s, lookup cache key = some s ∧ s ∈ cache ∧ IsFloor cache key s := by
  obtain ⟨-, hrlen, hlow, hhigh⟩ := hb
  have hcache : cacheAt cache r = some (cache.getD r zeroSymbol) := if_pos (by omega)
  obtain ⟨d, hd, hd0⟩ := hzero
  obtain ⟨kd, hkd, rfl⟩ := List.getElem_of_mem hd
  have hrpos : 0 < r := by
    by_contra h0
    have := hhigh kd (by omega) hkd
    rw [addrAt_eq hkd, hd0, UInt64.toNat_zero] at this
    omega
  have hne : (cache.getD r zeroSymbol).addr ≠ key := by
    intro he
    rcases Nat.lt_or_eq_of_le hrlen with hlt | heq
    · have := hhigh r (le_refl r) hlt
      simp only [addrAt, he] at this
      omega
    · rw [heq] at he
      simp [List.getD_eq_getElem?_getD, zeroSymbol] at he
      exact hkey he.symm
  have hprev : r - 1 < cache.length := by omega
  have hlookup : lookup cache key = some cache[r - 1] := by
    have hat : cacheAt cache (r - 1) = some cache[r - 1] := by
      rw [cacheAt, if_pos (by omega)]
      simp [List.getElem?_eq_getElem hprev]
    simp only [lookup, hr, hcache, Option.bind_eq_bind, Option.bind_some, if_neg hne,
      if_neg (Nat.pos_iff_ne_zero.1 hrpos), hat]
  have hbelow : cache[r - 1].addr.toNat < key.toNat := by
    rw [← addrAt_eq hprev]
    exact hlow (r - 1) (by omega)
  refine ⟨cache[r - 1], hlookup, List.getElem_mem hprev,
    UInt64.le_iff_toNat_le.2 (le_of_lt hbelow), fun t ht hlt => ?_⟩
  obtain ⟨kt, hkt, rfl⟩ := List.getElem_of_mem ht
  have hkt_lt : kt < r := by
    by_contra hge
    have := hhigh kt (by omega) hkt
    rw [addrAt_eq hkt] at this
    exact absurd (UInt64.le_iff_toNat_le.1 hlt.2) (by omega)
  have hmono := addrAt_mono hs (show kt ≤ r - 1 by omega) hprev
  rw [addrAt_eq hkt, addrAt_eq hprev] at hmono
  exact absurd (UInt64.lt_iff_toNat_lt.1 hlt.1) (by omega)

/-- Over a sorted table that fits below `ksymbolMax` and holds an entry at address 0, the
lookup of a non-zero key reads no entry out of range and finds the floor entry. -/
theorem lookup_floor (hs : Sorted cache) (hlen : cache.length < ksymbolMax)
    (hzero : ∃ d ∈ cache, d.addr = 0) (hkey : key ≠ 0) :
    ∃ s, lookup cache key = some s ∧ s ∈ cache ∧ IsFloor cache key s := by
  have hb0 : Bracket cache key 0 cache.length :=
    ⟨Nat.zero_le _, le_refl _, fun _ h => absurd h (Nat.not_lt_zero _),
      fun _ h₁ h₂ => absurd h₂ (by omega)⟩
  rcases searchLoop_spec hs hb0 with ⟨hrl, hat⟩ | hb
  · exact lookup_floor_of_hit hlen rfl hrl hat
  · exact lookup_floor_of_miss hs hlen hzero hkey rfl hb

theorem lookup_eq_none_of_full (hs : Sorted cache) (hlen : cache.length = ksymbolMax)
    (hall : ∀ t ∈ cache, t.addr.toNat < key.toNat) : lookup cache key = none := by
  have hb0 : Bracket cache key 0 cache.length :=
    ⟨Nat.zero_le _, le_refl _, fun _ h => absurd h (Nat.not_lt_zero _),
      fun _ h₁ h₂ => absurd h₂ (by omega)⟩
  have hr : searchLoop cache key 0 cache.length = cache.length := by
    rcases searchLoop_spec hs hb0 with ⟨hrl, hat⟩ | ⟨-, hrl, -, hhigh⟩
    · have := hall _ (List.getElem_mem hrl)
      rw [← addrAt_eq hrl, hat] at this
      omega
    · by_contra hne
      have hlt : searchLoop cache key 0 cache.length < cache.length := by omega
      have h1 := hhigh _ (le_refl _) hlt
      have h2 := hall _ (List.getElem_mem hlt)
      rw [← addrAt_eq hlt] at h2
      omega
  simp only [lookup, hr.trans hlen, cacheAt, lt_irrefl, if_false]
  rfl

end Search

/-! ## The table after loading -/

/-- After loading a /proc/kallsyms of at most `ksymbolMax - 2` text symbols, the lookup of any
non-zero address reads no entry out of range and returns the default entry or a loaded text
symbol, the one with the greatest address at most the key. -/
theorem ksymbolSearch_floor (sortSymbols : SortBy Symbol fun s => s.addr.toNat)
    (lines : List String) (hcount : (lines.filterMap parseLine).length + 2 ≤ ksymbolMax) :
    ∃ st, loadKAllSymbols sortSymbols (.ok lines) = some st ∧
      ∀ key, key ≠ 0 → ∃ s, ksymbolSearch sortSymbols (.ok lines) st key = some (s, st) ∧
        (s = defaultSymbol ∨ s ∈ lines.filterMap parseLine) ∧
        IsFloor (lines.filterMap parseLine) key s := by
  have hload : loadLoop lines [defaultSymbol] = some (defaultSymbol :: lines.filterMap parseLine) := by
    rw [loadLoop_eq lines [defaultSymbol] (by decide), if_pos (by simp only [List.length_singleton]; omega)]
    rfl
  refine ⟨⟨sortSymbols.sort (defaultSymbol :: lines.filterMap parseLine), true⟩,
    by simp [loadKAllSymbols, hload], fun key hkey => ?_⟩
  have hperm := sortSymbols.perm (defaultSymbol :: lines.filterMap parseLine)
  have hlen : (sortSymbols.sort (defaultSymbol :: lines.filterMap parseLine)).length < ksymbolMax := by
    rw [hperm.length_eq, List.length_cons]
    omega
  obtain ⟨s, hs, hmem, hle, hnone⟩ := lookup_floor (sortSymbols.sorted _) hlen
    ⟨defaultSymbol, hperm.mem_iff.2 List.mem_cons_self, rfl⟩ hkey
  refine ⟨s, by simp [ksymbolSearch, hs], ?_, hle,
    fun t ht => hnone t (hperm.mem_iff.2 (List.mem_cons_of_mem _ ht))⟩
  exact List.mem_cons.1 (hperm.mem_iff.1 hmem)

theorem ksymbolSearch_floor_three_lines :
    (["ffffffff81000000 T _stext", "ffffffff81000100 t do_one_initcall",
        "ffffffff82000000 D jiffies"].filterMap parseLine).length + 2 ≤ ksymbolMax ∧
      ∃ st, loadKAllSymbols (SortBy.insertion _) (.ok ["ffffffff81000000 T _stext",
          "ffffffff81000100 t do_one_initcall", "ffffffff82000000 D jiffies"]) = some st ∧
        ∀ key, key ≠ 0 → ∃ s, ksymbolSearch (SortBy.insertion _) (.ok ["ffffffff81000000 T _stext",
            "ffffffff81000100 t do_one_initcall", "ffffffff82000000 D jiffies"]) st key = some (s, st) ∧
          (s = defaultSymbol ∨ s ∈ ["ffffffff81000000 T _stext", "ffffffff81000100 t do_one_initcall",
            "ffffffff82000000 D jiffies"].filterMap parseLine) ∧
          IsFloor (["ffffffff81000000 T _stext", "ffffffff81000100 t do_one_initcall",
            "ffffffff82000000 D jiffies"].filterMap parseLine) key s :=
  ⟨by decide, ksymbolSearch_floor (SortBy.insertion _) _ (by decide)⟩

theorem ksymbolSearch_full_table_of (sortSymbols : SortBy Symbol fun s => s.addr.toNat) :
    ∃ st, loadKAllSymbols sortSymbols (.ok (List.replicate 299999 "ffffffff81000000 T _stext")) =
        some st ∧
      ksymbolSearch sortSymbols (.ok (List.replicate 299999 "ffffffff81000000 T _stext")) st
        0xffffffff82000000 = none := by
  have hparse : parseLine "ffffffff81000000 T _stext" =
      some ⟨0xffffffff81000000, "_stext", moduleKernel⟩ := by decide
  have hload : loadLoop (List.replicate 299999 "ffffffff81000000 T _stext") [defaultSymbol] =
      some (defaultSymbol :: List.replicate 299999 ⟨0xffffffff81000000, "_stext", moduleKernel⟩) := by
    have hfits : [defaultSymbol].length +
        (List.replicate 299999 (⟨0xffffffff81000000, "_stext", moduleKernel⟩ : Symbol)).length ≤
          ksymbolMax := by
      rw [List.length_replicate, List.length_singleton]
      decide
    rw [loadLoop_eq _ _ (by decide), List.filterMap_replicate_of_some hparse, if_pos hfits]
    rfl
  refine ⟨⟨sortSymbols.sort (defaultSymbol ::
    List.replicate 299999 ⟨0xffffffff81000000, "_stext", moduleKernel⟩), true⟩,
    by simp only [loadKAllSymbols, hload, Option.map_some], ?_⟩
  have hperm := sortSymbols.perm (defaultSymbol ::
    List.replicate 299999 ⟨0xffffffff81000000, "_stext", moduleKernel⟩)
  have hfull : (sortSymbols.sort (defaultSymbol ::
      List.replicate 299999 ⟨0xffffffff81000000, "_stext", moduleKernel⟩)).length = ksymbolMax := by
    rw [hperm.length_eq, List.length_cons, List.length_replicate]
    rfl
  have hnone : lookup (sortSymbols.sort (defaultSymbol ::
      List.replicate 299999 ⟨0xffffffff81000000, "_stext", moduleKernel⟩)) 0xffffffff82000000 = none :=
    lookup_eq_none_of_full (sortSymbols.sorted _) hfull (fun t ht => ?_)
  · simp only [ksymbolSearch, if_true, Option.bind_eq_bind, Option.bind_some, hnone,
      Option.bind_none]
  · rcases List.mem_cons.1 (hperm.mem_iff.1 ht) with rfl | ht
    · decide
    · rw [List.eq_of_mem_replicate ht]
      decide

theorem ksymbolSearch_full_table :
    ∃ st, loadKAllSymbols (SortBy.insertion _) (.ok (List.replicate 299999 "ffffffff81000000 T _stext")) =
        some st ∧
      ksymbolSearch (SortBy.insertion _) (.ok (List.replicate 299999 "ffffffff81000000 T _stext")) st
        0xffffffff82000000 = none :=
  ksymbolSearch_full_table_of _

/-! ## The lines of a backtrace -/

section Lines

/-- A symbol whose name and module hold no newline, as the symbols read from the lines of a
scanner do. -/
def Symbol.OneLine (s : Symbol) : Prop :=
  '\n' ∉ s.name.toList ∧ '\n' ∉ s.module.toList

theorem parseLine_oneLine {line : String} {s : Symbol} (h : parseLine line = some s)
    (hl : '\n' ∉ line.toList) : s.OneLine := by
  have hword : ∀ w ∈ Strings.fieldsFunc line (fun c => c = ' ' || c = '\t'), '\n' ∉ w.toList :=
    fun w hw hn => hl (Strings.mem_of_mem_fieldsFunc hw _ hn)
  have hkernel : '\n' ∉ moduleKernel.toList := by decide
  unfold parseLine at h
  dsimp only at h
  split at h
  next addr kind name hw =>
    split_ifs at h
    obtain ⟨-, -, rfl⟩ := h
    exact ⟨hword name (by simp [hw]), hkernel⟩
  next addr kind name module hw =>
    split_ifs at h
    obtain ⟨-, -, rfl⟩ := h
    exact ⟨hword name (by simp [hw]), hword module (by simp [hw])⟩
  next => cases h

/-- The entries of a table read from lines without a newline hold none. -/
def OneLineTable (kallsyms : Except String (List String)) (st : KsymState) : Prop :=
  (∀ lines, kallsyms = .ok lines → ∀ l ∈ lines, '\n' ∉ l.toList) ∧ ∀ s ∈ st.cache, s.OneLine

theorem oneLine_zeroSymbol : zeroSymbol.OneLine := by
  unfold Symbol.OneLine
  decide

theorem oneLine_of_cacheAt {cache : List Symbol} (hc : ∀ s ∈ cache, s.OneLine) {i : Nat}
    {s : Symbol} (h : cacheAt cache i = some s) : s.OneLine := by
  unfold cacheAt at h
  split_ifs at h
  cases h
  rw [List.getD_eq_getElem?_getD]
  cases hi : cache[i]? with
  | none => exact oneLine_zeroSymbol
  | some s => exact hc s (List.mem_of_getElem? hi)

theorem oneLine_of_lookup {cache : List Symbol} (hc : ∀ s ∈ cache, s.OneLine) {key : UInt64}
    {s : Symbol} (h : lookup cache key = some s) : s.OneLine := by
  unfold lookup at h
  obtain ⟨sym, hsym, h⟩ := Option.bind_eq_some_iff.1 h
  split_ifs at h
  · cases h
    exact oneLine_of_cacheAt hc hsym
  · exact oneLine_of_cacheAt hc h
  · exact oneLine_of_cacheAt hc h

theorem oneLine_of_loadKAllSymbols (sortSymbols : SortBy Symbol fun s => s.addr.toNat)
    {kallsyms : Except String (List String)}
    (hk : ∀ lines, kallsyms = .ok lines → ∀ l ∈ lines, '\n' ∉ l.toList) {st : KsymState}
    (h : loadKAllSymbols sortSymbols kallsyms = some st) : ∀ s ∈ st.cache, s.OneLine := by
  have hdefault : defaultSymbol.OneLine := by
    unfold Symbol.OneLine
    decide
  unfold loadKAllSymbols at h
  split at h
  · cases h
    intro s hs
    rw [List.mem_singleton.1 hs]
    exact hdefault
  next lines =>
    obtain ⟨cache, hload, rfl⟩ := Option.map_eq_some_iff.1 h
    rw [loadLoop_eq _ _ (by decide)] at hload
    split_ifs at hload
    cases hload
    intro s hs
    rcases List.mem_cons.1 ((sortSymbols.perm _).mem_iff.1 hs) with rfl | hs
    · exact hdefault
    · obtain ⟨l, hl, hp⟩ := List.mem_filterMap.1 hs
      exact parseLine_oneLine hp (hk lines rfl l hl)

theorem oneLine_of_ksymbolSearch (sortSymbols : SortBy Symbol fun s => s.addr.toNat)
    {kallsyms : Except String (List String)} {st st' : KsymState} (hst : OneLineTable kallsyms st)
    {key : UInt64} {s : Symbol} (h : ksymbolSearch sortSymbols kallsyms st key = some (s, st')) :
    s.OneLine ∧ OneLineTable kallsyms st' := by
  obtain ⟨st₁, hc₁, h⟩ : ∃ st₁ : KsymState, (∀ s ∈ st₁.cache, s.OneLine) ∧
      (lookup st₁.cache key).bind (fun sym => some (sym, st₁)) = some (s, st') := by
    unfold ksymbolSearch at h
    split_ifs at h
    · exact ⟨st, hst.2, by simpa using h⟩
    · obtain ⟨st₁, hst₁, h⟩ := Option.bind_eq_some_iff.1 h
      exact ⟨st₁, oneLine_of_loadKAllSymbols sortSymbols hst.1 hst₁, by simpa using h⟩
  obtain ⟨sym, hsym, h⟩ := Option.bind_eq_some_iff.1 h
  cases h
  exact ⟨oneLine_of_lookup hc₁ hsym, hst.1, hc₁⟩

theorem newline_not_mem_hexString (n : UInt64) : '\n' ∉ (hexString n).toList := by
  rw [hexString, String.toList_ofList]
  exact Strings.newline_not_mem_toDigits 16 n.toNat

theorem oneLine_of_dumpKernelBackTrace (sortSymbols : SortBy Symbol fun s => s.addr.toNat)
    {kallsyms : Except String (List String)} {st st' : KsymState} (hst : OneLineTable kallsyms st)
    {stack : List UInt64} {maxDepth : Int} {lines : List String}
    (h : dumpKernelBackTrace sortSymbols kallsyms st stack maxDepth = some (lines, st')) :
    (∀ l ∈ lines, '\n' ∉ l.toList) ∧ OneLineTable kallsyms st' := by
  refine Machine.foldlM_invariant (fun acc : List String × KsymState =>
    (∀ l ∈ acc.1, '\n' ∉ l.toList) ∧ OneLineTable kallsyms acc.2) ?_
    ⟨fun l hl => absurd hl List.not_mem_nil, hst⟩ h
  rintro ⟨acc, st₁⟩ addr ⟨acc', st₂⟩ ⟨hacc, hst₁⟩ hpass
  obtain ⟨⟨sym, st₃⟩, hsearch, hpass⟩ := Option.bind_eq_some_iff.1 hpass
  obtain ⟨hsym, hst₃⟩ := oneLine_of_ksymbolSearch sortSymbols hst₁ hsearch
  dsimp only at hpass
  split_ifs at hpass
  · cases hpass
    refine ⟨fun l hl => ?_, hst₃⟩
    rcases List.mem_append.1 hl with hl | hl
    · exact hacc l hl
    · rw [List.mem_singleton.1 hl]
      simp only [String.toList_append, List.mem_append, not_or]
      exact ⟨⟨⟨⟨hsym.1, by decide⟩, newline_not_mem_hexString _⟩, by decide⟩, hsym.2⟩
  · cases hpass
    exact ⟨hacc, hst₃⟩

end Lines

end Huatuo.Ksymbols
