import SamsungHardware.EdidParsing.EdidLibrary

/- What `gEdidData` holds between the calls of libedid.c. The memory is filled block by block from
   the sink, and is kept for all later calls only if every block and the order of the blocks passed
   the checks. -/
namespace EdidCache
open VideoFormats EdidQueries EdidLibrary List

def blockOf (data : List UInt8) (block : Nat) : List UInt8 :=
  (data.drop (block * sizeOfEdidBlock)).take sizeOfEdidBlock

def byteSum (bytes : List UInt8) : Nat := (bytes.map UInt8.toNat).sum

/-- EDID data as the standard has it: a base block that counts the extensions, all blocks with
    their checksums, and a block map in front of several extensions. -/
structure WellFormed (data : List UInt8) (gExtensions : Nat) : Prop where
  size : data.length = (gExtensions + 1) * sizeOfEdidBlock
  sums : ∀ block, block ≤ gExtensions → byteSum (blockOf data block) % 256 = 0
  count : data[126]?.map UInt8.toNat = some gExtensions
  blockMap : 1 < gExtensions → data[sizeOfEdidBlock]? = some 0xF0

def Cached (lib : Library) : Prop :=
  ∀ data, lib.gEdidData = some data → WellFormed data lib.gExtensions

section

/-- The sum of `CalcChecksum` is the sum of the bytes in the type of a byte. -/
theorem foldl_add_toNat (bytes : List UInt8) :
    ∀ sum : UInt8, (bytes.foldl (· + ·) sum).toNat = (sum.toNat + byteSum bytes) % 256 := by
  induction bytes with
  | nil =>
    intro sum
    have bound := sum.toNat_lt
    simp only [foldl_nil, byteSum, map_nil, sum_nil]
    omega
  | cons byte bytes ih =>
    intro sum
    rw [foldl_cons, ih, UInt8.toNat_add]
    simp only [byteSum, map_cons, sum_cons]
    omega

theorem calcChecksum_iff (block : Block) :
    calcChecksum block = true ↔ byteSum block.bytes % 256 = 0 := by
  have sum := foldl_add_toNat block.bytes 0
  rw [UInt8.toNat_zero, Nat.zero_add] at sum
  rw [calcChecksum, beq_iff_eq, ← sum]
  constructor
  · intro zero
    rw [zero]
    rfl
  · intro zero
    exact UInt8.toNat_inj.mp zero

theorem flatten_size (blocks : List Block) :
    (blocks.map Block.bytes).flatten.length = blocks.length * sizeOfEdidBlock := by
  induction blocks with
  | nil => rfl
  | cons first rest ih =>
    rw [map_cons, flatten_cons, length_append, first.size, ih, length_cons,
      Nat.succ_mul, Nat.add_comm]

theorem blockOf_flatten (blocks : List Block) :
    ∀ number block, blocks[number]? = some block →
      blockOf (blocks.map Block.bytes).flatten number = block.bytes := by
  induction blocks with
  | nil =>
    intro number block here
    cases here
  | cons first rest ih =>
    intro number block here
    unfold blockOf
    rw [map_cons, flatten_cons]
    cases number with
    | zero =>
      cases here
      rw [Nat.zero_mul, drop_zero, ← first.size, take_left]
    | succ number =>
      have behind : (number + 1) * sizeOfEdidBlock =
          first.bytes.length + number * sizeOfEdidBlock := by
        rw [first.size, Nat.succ_mul, Nat.add_comm]
      rw [behind, ← drop_drop, drop_left]
      exact ih number block here

variable {out : Outside}

theorem readEDIDBlock_checked {number : Nat} {block : Block}
    (read : readEDIDBlock out number = some block) : calcChecksum block = true :=
  (Option.filter_eq_some_iff.mp read).2

theorem mapM_checked {numbers : List Nat} {blocks : List Block}
    (read : numbers.mapM (readEDIDBlock out) = some blocks) :
    blocks.length = numbers.length ∧ ∀ block ∈ blocks, calcChecksum block = true := by
  induction numbers generalizing blocks with
  | nil =>
    cases read
    exact ⟨rfl, by simp⟩
  | cons number numbers ih =>
    rw [mapM_cons] at read
    simp only [Option.bind_eq_bind, Option.bind_eq_some_iff, Option.pure_def,
      Option.some.injEq] at read
    obtain ⟨block, here, rest, later, rfl⟩ := read
    obtain ⟨length, checked⟩ := ih later
    constructor
    · rw [length_cons, length_cons, length]
    · intro other member
      rcases mem_cons.mp member with rfl | behind
      · exact readEDIDBlock_checked here
      · exact checked other behind

theorem readExtensions_wellFormed {first : Block} {n : Nat} {data : List UInt8}
    (checked : calcChecksum first = true) (count : (first.bytes[0x7E]?.getD 0).toNat = n)
    (read : readExtensions out first n = some data) : WellFormed data n := by
  simp only [readExtensions, Option.bind_eq_bind, Option.bind_eq_some_iff] at read
  obtain ⟨rest, blocks, whole⟩ := read
  split at whole
  · cases whole
  rename_i mapped
  obtain ⟨length, others⟩ := mapM_checked blocks
  rw [extensions, length_range'] at length
  have size := flatten_size (first :: rest)
  rw [length_cons, length] at size
  have inside : 0x7E < first.bytes.length := by rw [first.size]; decide
  cases whole
  refine ⟨size, ?_, ?_, ?_⟩
  · intro number few
    have within : number < (first :: rest).length := by
      rw [length_cons]
      omega
    have bytes := blockOf_flatten (first :: rest) number _ (getElem?_eq_getElem within)
    rw [map_cons, flatten_cons] at bytes
    rw [bytes, ← calcChecksum_iff]
    rcases mem_cons.mp (getElem_mem within) with same | behind
    · rw [same]
      exact checked
    · exact others _ behind
  · rw [getElem?_append_left inside]
    rw [getElem?_eq_getElem inside] at count ⊢
    exact congrArg some count
  · intro several
    by_contra other
    exact mapped ⟨several, other⟩

end

section

variable {lib : Library}

/-- `EDIDRead` fails exactly when nothing is kept, and keeps well-formed data only. -/
theorem edidRead_cached (out : Outside) (cached : Cached lib) :
    Cached (edidRead out lib).1 ∧
      ((edidRead out lib).2 = false ↔ (edidRead out lib).1.gEdidData = none) := by
  unfold edidRead
  cases kept : lib.gEdidData with
  | some data =>
    refine ⟨cached, ?_⟩
    simp [kept]
  | none =>
    cases base : readEDIDBlock out 0 with
    | none =>
      refine ⟨cached, ?_⟩
      simp [kept]
    | some first =>
      dsimp only
      cases out.malloc with
      | false =>
        constructor
        · intro data present
          cases present
        · simp
      | true =>
        cases read : readExtensions out first (first.bytes[0x7E]?.getD 0).toNat with
        | none =>
          constructor
          · intro data present
            cases present
          · simp [edidReset]
        | some data =>
          constructor
          · intro data' present
            cases present
            exact readExtensions_wellFormed (readEDIDBlock_checked base) rfl read
          · simp

theorem edidReset_cached (lib : Library) : Cached (edidReset lib) := by
  intro data present
  cases present

variable (behind : Nat → EdidParams)
include behind

theorem support_keeps (out : Outside) (turns : Nat) (lib : Library) (request : Request) :
    (support behind out turns lib request).2.gEdidData = lib.gEdidData ∧
      (support behind out turns lib request).2.gExtensions = lib.gExtensions := by
  cases request with
  | videoResolution video =>
    simp only [support, edidVideoResolutionSupport, edid3DFormatSupport]
    split
    · exact ⟨rfl, rfl⟩
    split
    · split
      · exact ⟨rfl, rfl⟩
      · exact ⟨rfl, rfl⟩
    · exact ⟨rfl, rfl⟩
  | _ => exact ⟨rfl, rfl⟩

theorem ask_cached (out : Outside) (turns : Nat) (request : Request) (cached : Cached lib) :
    Cached (ask behind out turns lib request).2 := by
  have read := (edidRead_cached out cached).1
  obtain ⟨data, extensions⟩ := support_keeps behind out turns (edidRead out lib).1 request
  unfold ask
  dsimp only
  split
  · intro kept present
    rw [data] at present
    rw [extensions]
    exact read kept present
  · exact read

inductive Event where
  | read (out : Outside)
  | query (out : Outside) (turns : Nat) (request : Request)
  | reset

def step (lib : Library) : Event → Library
  | .read out => (edidRead out lib).1
  | .query out turns request => (ask behind out turns lib request).2
  | .reset => edidReset lib

theorem step_cached (event : Event) (cached : Cached lib) : Cached (step behind lib event) := by
  cases event with
  | read out => exact (edidRead_cached out cached).1
  | query out turns request => exact ask_cached behind out turns request cached
  | reset => exact edidReset_cached lib

theorem foldl_cached (events : List Event) (lib : Library) (cached : Cached lib) :
    Cached (events.foldl (step behind) lib) :=
  List.foldlRecOn events _ cached fun _ cached event _ => step_cached behind event cached

end

/-- After every sequence of reads, queries and resets, whatever the sinks returned, the data that is
    kept is well formed, and a read that then fails leaves no data. -/
theorem edid_cache_well_formed (behind : Nat → EdidParams) (events : List Event) :
    Cached (events.foldl (step behind) initial) ∧
      ∀ out, (edidRead out (events.foldl (step behind) initial)).2 = false ↔
        (edidRead out (events.foldl (step behind) initial)).1.gEdidData = none := by
  have start : Cached initial := by
    intro data present
    cases present
  have cached := foldl_cached behind events initial start
  exact ⟨cached, fun out => (edidRead_cached out cached).2⟩

def oneExtension : Outside :=
  sinkWith [2, 3, 24, 0, 0x44, 4, 5, 16, 1, 0x6E, 3, 0x0C, 0, 0x10, 0, 0, 0x2D, 0xE0, 0, 0, 0, 0, 0, 0]

/-- A sink with one extension is kept. -/
example : (edidRead oneExtension initial).2 = true ∧
    (edidRead oneExtension initial).1.gExtensions = 1 := by
  decide +kernel

end EdidCache
