import Huatuo.Lib.Search
import Huatuo.Lib.Strings
import Huatuo.Lib.Keyed

/-! The names of user-stack addresses (internal/symbol/usymbols.go). A process is seen through
the files it reaches: the link `/proc/pid/exe`, the ELF files it has open and the lines of
`/proc/pid/maps`. `sort.Slice` is any sort by the start address (`Lib.Search.SortBy`), and a
Go panic is `none`. -/
namespace Huatuo.Usymbols

open Lib Lib.Search

def elftype : Int := 0xc
def libtype : Int := 0xd

structure Symbol where
  name : String
  start : UInt64
  size : UInt64
deriving DecidableEq, Repr

structure Section where
  name : String
  start : UInt64
  end_ : UInt64
  sectiontype : Int
deriving DecidableEq, Repr

structure Elfcache where
  sections : List Section
  symcaches : List Symbol
deriving DecidableEq, Repr

structure Usym where
  elfcaches : List (UInt32 × Elfcache)
  libcaches : List (String × List Symbol)
deriving DecidableEq, Repr

def newUsym : Usym := ⟨[], []⟩

/-! ## What the process shows -/

structure ElfSection where
  name : String
  addr : UInt64
  size : UInt64
deriving DecidableEq, Repr

/-- An `elf.Symbol`; `func` says that `ST_TYPE(Info)` is `STT_FUNC`. -/
structure ElfSymbol where
  name : String
  value : UInt64
  size : UInt64
  func : Bool
deriving DecidableEq, Repr

/-- An `elf.File`: its sections, and what `DynamicSymbols` and `Symbols` return. -/
structure ElfFile where
  sections : List ElfSection
  dynamicSymbols : Except String (List ElfSymbol)
  symbols : Except String (List ElfSymbol)

/-- What `os.Readlink`, `elf.Open` and a `bufio.Scanner` over `os.Open` give for a path. -/
structure Host where
  readlink : String → Except String String
  elfOpen : String → Except String ElfFile
  readLines : String → Except String (List String)

def procPath (pid : UInt32) (file : String) : String :=
  "/proc/" ++ toString pid.toNat ++ "/" ++ file

/-- `filepath.Join(fmt.Sprintf("/proc/%d/root", pid), path)` for a clean absolute path. -/
def rootPath (pid : UInt32) (path : String) : String :=
  procPath pid "root" ++ path

/-! ## Loading the tables -/

def getElfSymbols (f : ElfFile) : List Symbol :=
  let funcs (syms : Except String (List ElfSymbol)) : List Symbol :=
    match syms with
    | .error _ => []
    | .ok syms => (syms.filter (·.func)).map fun sym => ⟨sym.name, sym.value, sym.size⟩
  funcs f.dynamicSymbols ++ funcs f.symbols

def backedArr : List String :=
  ["anon_inode:[perf_event]", "[stack]", "[vvar]", "[vdso]", "[vsyscall]", "[heap]", "//anon",
    "/dev/zero", "/anon_hugepage", "/SYSV"]

def isInBacked (str : String) : Bool :=
  backedArr.any (· = str)

def getExePath (host : Host) (pid : UInt32) : Except String String := do
  let binpath ← host.readlink (procPath pid "exe")
  pure (rootPath pid binpath)

/-- One line of `/proc/pid/maps`: the section of a file-backed mapping, none for a line to
skip, and a panic where the first field has no `-` (`addr[1]`). The parse errors of
`strconv.ParseUint` are ignored, as the source ignores them. -/
def mapsSection (line : String) : Option (Option Section) :=
  match Strings.fields line with
  | field0 :: _ :: _ :: _ :: _ :: path :: _ =>
    match Strings.split field0 '-' with
    | start :: end_ :: _ =>
      let startNum := (Strings.parseUint start 16).1
      let endNum := (Strings.parseUint end_ 16).1
      if !isInBacked path then some (some ⟨path, startNum, endNum, libtype⟩) else some none
    | _ => none
  | _ => some none

/-- `loadElfCaches`: `none` is a panic, `.error` an error return. -/
def loadElfCaches (host : Host) (sortSections : SortBy Section fun s => s.start.toNat)
    (sortSymbols : SortBy Symbol fun s => s.start.toNat) (m : Usym) (pid : UInt32) :
    Option (Except String Usym) :=
  if (m.elfcaches.lookup pid).isSome then some (.ok m)
  else
    match getExePath host pid with
    | .error err => some (.error err)
    | .ok path =>
      if path = "" then some (.error "exepath is nil")
      else
        match host.elfOpen path with
        | .error err => some (.error err)
        | .ok f =>
          let sectionArray : List Section :=
            f.sections.map fun s => ⟨s.name, s.addr, s.addr + s.size, elftype⟩
          match host.readLines (procPath pid "maps") with
          | .error err => some (.error err)
          | .ok lines =>
            (lines.mapM mapsSection).map fun maps =>
              let sectionArray := sortSections.sort (sectionArray ++ maps.filterMap id)
              let tabsymbol := sortSymbols.sort (getElfSymbols f)
              .ok ⟨Keyed.set m.elfcaches pid ⟨sectionArray, tabsymbol⟩, m.libcaches⟩

def loadLibCache (host : Host) (sortSymbols : SortBy Symbol fun s => s.start.toNat) (m : Usym)
    (libPath : String) : Except String Usym :=
  if (m.libcaches.lookup libPath).isSome then .ok m
  else
    match host.elfOpen libPath with
    | .error err => .error err
    | .ok f => .ok ⟨m.elfcaches, Keyed.set m.libcaches libPath (sortSymbols.sort (getElfSymbols f))⟩

/-! ## The lookups -/

def emptySection : Section := ⟨"", 0, 0, 0⟩

/-- `searchSection`; the index `sort.Search` returns is decremented, so an index 0 stands for
-1. -/
def searchSection (m : Usym) (pid : UInt32) (addr : UInt64) : Section :=
  match m.elfcaches.lookup pid with
  | none => emptySection
  | some elf =>
    let progsection := elf.sections
    let index := search progsection.length (at? progsection fun s => addr < s.start)
    if index = progsection.length then emptySection
    else if index = 0 then emptySection
    else
      match progsection[index - 1]? with
      | none => emptySection
      | some s => if s.name ≠ "" ∧ addr ≤ s.end_ ∧ addr ≥ s.start then s else emptySection

def searchSym (addr : UInt64) (symbols : List Symbol) : String :=
  let index := search symbols.length (at? symbols fun s => addr < s.start)
  if index = symbols.length then ""
  else if index = 0 then ""
  else
    match symbols[index - 1]? with
    | none => ""
    | some s => if s.name ≠ "" ∧ addr ≥ s.start ∧ addr < s.start + s.size then s.name else "<unknown>"

/-- `ResolveUstack`, with the caches it leaves. -/
def resolveUstack (host : Host) (sortSections : SortBy Section fun s => s.start.toNat)
    (sortSymbols : SortBy Symbol fun s => s.start.toNat) (m : Usym) (addr : UInt64)
    (pid : UInt32) : Option (String × Usym) :=
  match loadElfCaches host sortSections sortSymbols m pid with
  | none => none
  | some (.error _) => some ("", m)
  | some (.ok m) =>
    let sec := searchSection m pid addr
    if sec.name = "" then some ("", m)
    else if sec.sectiontype = elftype then
      match m.elfcaches.lookup pid with
      | none => some ("", m)
      | some elf => some (searchSym addr elf.symcaches, m)
    else
      let libpath := rootPath pid sec.name
      let addr := addr - sec.start
      match loadLibCache host sortSymbols m libpath with
      | .error _ => some ("", m)
      | .ok m =>
        match m.libcaches.lookup libpath with
        | none => some ("", m)
        | some syms => some (searchSym addr syms, m)

/-! ## What the lookups find -/

section Search

variable {α : Type*} {start : α → UInt64} {l : List α}

theorem at?_lt_toNat (l : List α) (start : α → UInt64) (addr : UInt64) :
    at? l (fun s => addr < start s) = at? l fun s => addr.toNat < (start s).toNat := by
  funext i
  simp [at?, UInt64.lt_iff_toNat_lt]

theorem search_start (hs : l.Pairwise fun a b => (start a).toNat ≤ (start b).toNat)
    (addr : UInt64) :
    search l.length (at? l fun s => addr < start s) ≤ l.length ∧
      (∀ k (hk : k < l.length), k < search l.length (at? l fun s => addr < start s) →
        start l[k] ≤ addr) ∧
      ∀ k (hk : k < l.length), search l.length (at? l fun s => addr < start s) ≤ k →
        addr < start l[k] := by
  rw [at?_lt_toNat]
  obtain ⟨hle, hlow, hhigh⟩ := @search_key_gt α ℕ _ (fun s => (start s).toNat) l hs addr.toNat
  exact ⟨hle, fun k hk hkr => UInt64.le_iff_toNat_le.2 (hlow k hk hkr),
    fun k hk hkr => UInt64.lt_iff_toNat_lt.2 (hhigh k hk hkr)⟩

theorem search_start_eq_length (hs : l.Pairwise fun a b => (start a).toNat ≤ (start b).toNat)
    {addr : UInt64} (hall : ∀ a ∈ l, start a ≤ addr) :
    search l.length (at? l fun s => addr < start s) = l.length := by
  obtain ⟨hle, -, hhigh⟩ := search_start hs addr
  by_contra hne
  have hlt : search l.length (at? l fun s => addr < start s) < l.length := by omega
  have := hhigh _ hlt (le_refl _)
  exact absurd (hall _ (List.getElem_mem hlt)) (UInt64.not_le.2 this)

theorem search_start_eq_succ (hs : l.Pairwise fun a b => (start a).toNat ≤ (start b).toNat)
    {addr : UInt64} {i : Nat} (hi : i + 1 < l.length) (hlo : start (l[i]) ≤ addr)
    (hhi : addr < start (l[i + 1])) :
    search l.length (at? l fun s => addr < start s) = i + 1 := by
  obtain ⟨-, hlow, hhigh⟩ := search_start hs addr
  have hge : i + 1 ≤ search l.length (at? l fun s => addr < start s) := by
    by_contra hlt
    exact absurd (hhigh i (by omega) (by omega)) (UInt64.not_lt.2 hlo)
  have hle : search l.length (at? l fun s => addr < start s) ≤ i + 1 := by
    by_contra hlt
    exact absurd (hlow (i + 1) hi (by omega)) (UInt64.not_le.2 hhi)
  omega

end Search

section Lookups

variable {symbols : List Symbol} {addr : UInt64}

theorem searchSym_past_last (hs : symbols.Pairwise fun a b => a.start.toNat ≤ b.start.toNat)
    (hall : ∀ s ∈ symbols, s.start ≤ addr) : searchSym addr symbols = "" := by
  simp [searchSym, search_start_eq_length hs hall]

/-- Between the start of symbol `i` and the start of the next, the lookup names symbol `i`
when the address lies inside it, and says "<unknown>" otherwise. -/
theorem searchSym_between (hs : symbols.Pairwise fun a b => a.start.toNat ≤ b.start.toNat)
    {i : Nat} (hi : i + 1 < symbols.length) (hlo : symbols[i].start ≤ addr)
    (hhi : addr < symbols[i + 1].start) :
    searchSym addr symbols =
      if symbols[i].name ≠ "" ∧ addr < symbols[i].start + symbols[i].size then symbols[i].name
      else "<unknown>" := by
  have hr := search_start_eq_succ hs hi hlo hhi
  simp only [searchSym, hr, Nat.add_sub_cancel, List.getElem?_eq_getElem (Nat.lt_of_succ_lt hi),
    Nat.succ_ne_zero, if_false, ge_iff_le, hlo, true_and]
  rw [if_neg (by omega)]

/-- Over a table sorted by start, `searchSym` names symbol `i` for an address from its start
up to the next start when the address lies inside it and says "<unknown>" when it does not;
an address at or past the last start gets no name, so the last symbol is never found. -/
theorem searchSym_table (hs : symbols.Pairwise fun a b => a.start.toNat ≤ b.start.toNat) :
    (∀ i (hi : i + 1 < symbols.length), symbols[i].start ≤ addr → addr < symbols[i + 1].start →
      searchSym addr symbols =
        if symbols[i].name ≠ "" ∧ addr < symbols[i].start + symbols[i].size then symbols[i].name
        else "<unknown>") ∧
      ((∀ s ∈ symbols, s.start ≤ addr) → searchSym addr symbols = "") :=
  ⟨fun _ hi hlo hhi => searchSym_between hs hi hlo hhi, searchSym_past_last hs⟩

theorem searchSym_table_main :
    let symbols : List Symbol := [⟨"_start", 0x401000, 0x20⟩, ⟨"main", 0x401020, 0x40⟩]
    symbols.Pairwise (fun a b => a.start.toNat ≤ b.start.toNat) ∧
      (∀ i (hi : i + 1 < symbols.length), symbols[i].start ≤ 0x401030 →
        0x401030 < symbols[i + 1].start →
        searchSym 0x401030 symbols =
          if symbols[i].name ≠ "" ∧ 0x401030 < symbols[i].start + symbols[i].size then symbols[i].name
          else "<unknown>") ∧
        ((∀ s ∈ symbols, s.start ≤ 0x401030) → searchSym 0x401030 symbols = "") := by
  intro symbols
  have hs : symbols.Pairwise (fun a b => a.start.toNat ≤ b.start.toNat) := by decide
  exact ⟨hs, searchSym_table hs⟩

variable {m : Usym} {pid : UInt32} {elf : Elfcache}

end Lookups

/-- A process 42 running /usr/bin/app, a non-PIE executable whose `.text` holds `_start` and
`main`, with the text of libc mapped from file offset 0x1000 (libc's segments have
`p_vaddr = p_offset`, so its link-time address is the mapping's offset plus the distance into
the mapping) and the dynamic loader mapped above it. -/
def appProcess : Host where
  readlink p := if p = "/proc/42/exe" then .ok "/usr/bin/app" else .error "no such file or directory"
  elfOpen p :=
    if p = "/proc/42/root/usr/bin/app" then
      .ok ⟨[⟨"", 0, 0⟩, ⟨".text", 0x401000, 0x100⟩], .error "no symbol section",
        .ok [⟨"_start", 0x401000, 0x20, true⟩, ⟨"main", 0x401020, 0x40, true⟩]⟩
    else if p = "/proc/42/root/usr/lib/libc.so.6" then
      .ok ⟨[⟨".text", 0x1000, 0x2000⟩],
        .ok [⟨"puts", 0x1000, 0x100, true⟩, ⟨"write", 0x2000, 0x80, true⟩], .error "no symbol section"⟩
    else .error "no such file or directory"
  readLines p :=
    if p = "/proc/42/maps" then
      .ok ["00400000-00402000 r-xp 00000000 08:01 1234 /usr/bin/app",
        "7f0000001000-7f0000003000 r-xp 00001000 08:01 99 /usr/lib/libc.so.6",
        "7f0000100000-7f0000101000 r--p 00000000 08:01 98 /usr/lib/ld-linux-x86-64.so.2"]
    else .error "no such file or directory"

/-- Whatever order `sort.Slice` leaves equal starts in: inside `main`, the executable's last
symbol, no name is found, and inside libc's `write` (link-time 0x2010) the name is `puts`, since
the address is taken from the mapping's start without its file offset. -/
theorem resolveUstack_misnames (ss : SortBy Section fun s => s.start.toNat)
    (sy : SortBy Symbol fun s => s.start.toNat) :
    (resolveUstack appProcess ss sy newUsym 0x401030 42).map Prod.fst = some "" ∧
      (resolveUstack appProcess ss sy newUsym 0x7f0000002010 42).map Prod.fst = some "puts" := by
  have hload : loadElfCaches appProcess ss sy newUsym 42 = some (.ok ⟨[(42, ⟨[⟨"", 0, 0, elftype⟩,
      ⟨"/usr/bin/app", 0x400000, 0x402000, libtype⟩, ⟨".text", 0x401000, 0x401100, elftype⟩,
      ⟨"/usr/lib/libc.so.6", 0x7f0000001000, 0x7f0000003000, libtype⟩,
      ⟨"/usr/lib/ld-linux-x86-64.so.2", 0x7f0000100000, 0x7f0000101000, libtype⟩],
      [⟨"_start", 0x401000, 0x20⟩, ⟨"main", 0x401020, 0x40⟩]⟩)], []⟩) := by
    have hread : loadElfCaches appProcess ss sy newUsym 42 = some (.ok ⟨[(42,
        ⟨ss.sort [⟨"", 0, 0, elftype⟩, ⟨".text", 0x401000, 0x401100, elftype⟩,
          ⟨"/usr/bin/app", 0x400000, 0x402000, libtype⟩,
          ⟨"/usr/lib/libc.so.6", 0x7f0000001000, 0x7f0000003000, libtype⟩,
          ⟨"/usr/lib/ld-linux-x86-64.so.2", 0x7f0000100000, 0x7f0000101000, libtype⟩],
        sy.sort [⟨"_start", 0x401000, 0x20⟩, ⟨"main", 0x401020, 0x40⟩]⟩)], []⟩) := rfl
    rw [hread, ss.sort_eq _ ?_ ?_, sy.sort_eq _ ?_ ?_] <;> decide
  have hlib : ∀ (m : Usym) (p : String), m.libcaches = [] → p = "/proc/42/root/usr/lib/libc.so.6" →
      loadLibCache appProcess sy m p =
        .ok ⟨m.elfcaches, [(p, [⟨"puts", 0x1000, 0x100⟩, ⟨"write", 0x2000, 0x80⟩])]⟩ := by
    intro m p hm hp
    subst hp
    have hread : loadLibCache appProcess sy m "/proc/42/root/usr/lib/libc.so.6" =
        .ok ⟨m.elfcaches, Keyed.set m.libcaches "/proc/42/root/usr/lib/libc.so.6"
          (sy.sort [⟨"puts", 0x1000, 0x100⟩, ⟨"write", 0x2000, 0x80⟩])⟩ := by
      simp only [loadLibCache, hm]
      rfl
    rw [hread, sy.sort_eq _ ?_ ?_, hm] <;> first | rfl | decide
  constructor
  · rw [resolveUstack, hload]
    dsimp only
    split_ifs with hname htype
    · exact absurd hname (by decide +kernel)
    · decide +kernel
    · exact absurd htype (by decide +kernel)
  · rw [resolveUstack, hload]
    dsimp only
    split_ifs with hname htype
    · exact absurd hname (by decide +kernel)
    · exact absurd htype (by decide +kernel)
    · rw [hlib]
      · decide +kernel
      · rfl
      · decide +kernel

end Huatuo.Usymbols
