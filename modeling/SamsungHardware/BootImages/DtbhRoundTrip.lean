import SamsungHardware.BootImages.DtbhLayout

/- Reading a DTBH block back with unpackdtbhimg.c. The table gives every blob the place
   that follows the accumulated header size; the payloads are copied behind the table that
   was really written. The block can be read back exactly when the two places agree. -/
namespace DtbhRoundTrip
open PageRounding ByteBuffer DtbhBlock DtbhLayout Option Nat
open List hiding pure_def mem_map

def readEntry (header : Bytes) (i : Nat) : Option DtEntry := do
  let base := 12 + 32 * i
  let chip ← wordAt header base
  let platform ← wordAt header (base + 4)
  let subtype ← wordAt header (base + 8)
  let hwRev ← wordAt header (base + 12)
  let hwRevEnd ← wordAt header (base + 16)
  let offset ← wordAt header (base + 20)
  let size ← wordAt header (base + 24)
  let space ← wordAt header (base + 28)
  return ⟨chip, platform, subtype, hwRev, hwRevEnd, offset, size, space⟩

/- An index behind the header page reads past the buffer; after a short read the dumped
   buffer still holds uninitialised memory. -/
def dumpEntry (file header : Bytes) (i : Nat) : Except Failure (DtEntry × Bytes) :=
  match readEntry header i with
  | none => .error .undefined
  | some e =>
    match slice file e.offset.toNat e.size.toNat with
    | none => .error .undefined
    | some data => .ok (e, data)

def dumpEntries (file header : Bytes) : Nat → Nat → Except Failure (List (DtEntry × Bytes))
  | _, 0 => .ok []
  | i, left + 1 =>
    match dumpEntry file header i with
    | .error failure => .error failure
    | .ok dump =>
      match dumpEntries file header (i + 1) left with
      | .error failure => .error failure
      | .ok dumps => .ok (dump :: dumps)

/-- The names of the dumped files are left out, so that dumps of entries with equal properties do
    not overwrite each other. A header of no bytes counts as one that could not be read. -/
def unpackdtbhimg (pageSize : Nat) (file : Bytes) : Except Failure (List (DtEntry × Bytes)) :=
  if pageSize = 0 then .error .exited else
  match slice file 0 pageSize with
  | none => .error .exited
  | some header =>
    match wordAt header 8 with
    | none => .error .undefined
    | some entryCount => dumpEntries file header 0 entryCount.toNat

def expected (block : Block) (e : BlobEntry) : Bytes :=
  let payload := block.blobs.getD e.blob []
  payload ++ calloc (e.size.toNat - payload.length)

structure RoundTrip (block : Block) : Prop where
  /-- Every blob has one entry in the table. -/
  covers : (block.entries.map (·.blob)).Perm (List.range block.blobs.length)
  payload : ∀ e ∈ block.entries,
    slice block.image e.offset.toNat e.size.toNat = some (expected block e)
  unpack : ∀ pageSize, 12 + 32 * block.entries.length ≤ pageSize →
    pageSize ≤ block.image.length →
    unpackdtbhimg pageSize block.image =
      .ok (block.entries.map fun e => (e.toDtEntry, expected block e))

def tablePage (k n : Nat) : Nat := (12 + 32 * n) / 2 ^ k * 2 ^ k + 2 ^ k

/-- The header size accumulated over `n` blobs, `12 + 32 * (1 + ... + n) + 4` in 32 bits,
    rounded up to the page. -/
def headerPage (k n : Nat) : Nat :=
  (16 + 16 * (n * (n + 1)) + (2 ^ k - 1)) % 2 ^ 32 / 2 ^ k * 2 ^ k

structure Gathered (fdt : Libfdt) (k : Nat) (g : Gather) : Prop where
  loaded : Loaded g.blobs
  accepted : ∀ b ∈ g.blobs, fdt.checkHeader b = 0
  order : g.entries.map (·.blob) = List.range g.blobs.length
  count : g.entryCount.toNat = g.blobs.length % 2 ^ 32
  header : g.hdrSz.toNat = (12 + 16 * (g.blobs.length * (g.blobs.length + 1))) % 2 ^ 32
  size : g.blobSz.toNat = totalSize (2 ^ k) g.blobs % 2 ^ 32

variable {board : Board} {fdt : Libfdt} {dtb : Bytes} {pagesize : UInt32}

theorem examine_accept {c r e : UInt32} (run : examine board fdt dtb = .accept c r e) :
    fdt.checkHeader dtb = 0 := by
  by_contra refused
  simp [examine, refused] at run

theorem gathered_start (fdt : Libfdt) (k : Nat) : Gathered fdt k .start := by
  refine ⟨?_, ?_, rfl, rfl, rfl, rfl⟩
  · intro b member; simp [Gather.start] at member
  · intro b member; simp [Gather.start] at member

theorem gathered_add {k : Nat} (power : pagesize.toNat = 2 ^ k) {g : Gather}
    (inv : Gathered fdt k g) (small : dtb.length < 2 ^ 31) (accepted : fdt.checkHeader dtb = 0)
    (c r e : UInt32) : Gathered fdt k (addBlob board pagesize g dtb c r e) := by
  have count := inv.count
  have header := inv.header
  have size := inv.size
  have counted : (g.entryCount + 1).toNat = (g.blobs.length + 1) % 2 ^ 32 := by
    rw [UInt32.toNat_add, UInt32.toNat_one]
    omega
  refine ⟨?_, ?_, ?_, ?_, ?_, ?_⟩
  · intro b member
    rcases mem_append.mp member with old | new
    · exact inv.loaded b old
    · rw [mem_singleton.mp new]; exact small
  · intro b member
    rcases mem_append.mp member with old | new
    · exact inv.accepted b old
    · rw [mem_singleton.mp new]; exact accepted
  · simp [addBlob, inv.order, range_succ]
  · simpa [addBlob] using counted
  · have triangle : (g.blobs.length + 1) * (g.blobs.length + 1 + 1) =
        g.blobs.length * (g.blobs.length + 1) + 2 * (g.blobs.length + 1) := by ring
    have sum : (addBlob board pagesize g dtb c r e).hdrSz.toNat =
        (g.hdrSz.toNat + (g.entryCount + 1).toNat * 32 % 2 ^ 32) % 2 ^ 32 := by
      rfl
    have blobs : (addBlob board pagesize g dtb c r e).blobs.length = g.blobs.length + 1 := by
      simp [addBlob]
    rw [sum, blobs, header]
    omega
  · have sum : (addBlob board pagesize g dtb c r e).blobSz.toNat =
        (g.blobSz.toNat + roundUp (2 ^ k) dtb.length) % 2 ^ 32 := by
      rw [addBlob, UInt32.toNat_add, blobStep_toNat power small]
    have total : totalSize (2 ^ k) (addBlob board pagesize g dtb c r e).blobs =
        totalSize (2 ^ k) g.blobs + roundUp (2 ^ k) dtb.length := by
      simp [addBlob, totalSize]
    omega

theorem gather_keeps {P : Gather → Prop}
    (add : ∀ g dtb c r e, dtb.length < 2 ^ 31 → fdt.checkHeader dtb = 0 → P g → P (addBlob board pagesize g dtb c r e))
    (dir : List DirEntry) :
    ∀ {g out : Gather}, P g → gatherBlobs board fdt pagesize dir g = .ok out → P out := by
  induction dir with
  | nil =>
    intro g out inv run
    simp only [gatherBlobs, Except.ok.injEq] at run
    exact run ▸ inv
  | cons de dir ih =>
    intro g out inv run
    rw [gatherBlobs] at run
    split at run
    · exact ih inv run
    · split at run
      · cases run
      · rename_i dtb loaded
        obtain ⟨content, _, loaded⟩ := bind_eq_some_iff.mp loaded
        split at run
        · exact ih inv run
        · cases run
        · rename_i c r e verdict
          exact ih (add g dtb c r e (loadFile_length loaded) (examine_accept verdict) inv) run

theorem gathered_run {k : Nat} (power : pagesize.toNat = 2 ^ k) (dir : List DirEntry)
    {g out : Gather} (inv : Gathered fdt k g) (run : gatherBlobs board fdt pagesize dir g = .ok out) :
    Gathered fdt k out :=
  gather_keeps (P := Gathered fdt k)
    (fun _ _ c r e small accepted inv => gathered_add power inv small accepted c r e)
    dir inv run

def headerBytes (board : Board) (entryCount : UInt32) : Bytes :=
  board.magic ++ le32 board.version ++ le32 entryCount

def tableBytes (entries : List BlobEntry) : Bytes :=
  (entries.map fun e => entryBytes e.toDtEntry).flatten

theorem headerBytes_length (board : Board) (entryCount : UInt32) :
    (headerBytes board entryCount).length = 12 := by
  simp [headerBytes, board.magic_length]

theorem tableBytes_cons (e : BlobEntry) (entries : List BlobEntry) :
    tableBytes (e :: entries) = entryBytes e.toDtEntry ++ tableBytes entries := rfl

theorem tableBytes_append (front back : List BlobEntry) :
    tableBytes (front ++ back) = tableBytes front ++ tableBytes back := by
  simp [tableBytes]

theorem tableBytes_length (entries : List BlobEntry) :
    (tableBytes entries).length = 32 * entries.length := by
  induction entries with
  | nil => rfl
  | cons e entries ih =>
    rw [tableBytes_cons, length_append, entryBytes_length, length_cons]
    omega

theorem writeHeader_fills (board : Board) (entryCount : UInt32) (rest : Nat) :
    writeHeader board entryCount (calloc (12 + rest)) =
      some (headerBytes board entryCount ++ calloc rest) := by
  have zeros : calloc (12 + rest) = [] ++ calloc 4 ++ (calloc 4 ++ (calloc 4 ++ calloc rest)) := by
    rw [← calloc_add, ← calloc_add, nil_append, ← calloc_add]
    congr 1
    omega
  have magic := memcpy_append [] board.magic (calloc 4) (calloc 4 ++ (calloc 4 ++ calloc rest))
    board.magic_length
  have version := memcpy_append board.magic (le32 board.version) (calloc 4)
    (calloc 4 ++ calloc rest) rfl
  have count := memcpy_append (board.magic ++ le32 board.version) (le32 entryCount) (calloc 4)
    (calloc rest) rfl
  simp only [length_append, le32_length, board.magic_length, append_assoc,
    nil_append, length_nil] at magic version count zeros
  simp only [writeHeader, zeros, magic, version, count, bind_eq_bind, bind_some,
    headerBytes, append_assoc]

theorem tablePage_dvd (k n : Nat) : 2 ^ k ∣ tablePage k n :=
  Nat.dvd_add (Nat.dvd_mul_left _ _) (Nat.dvd_refl _)

theorem tablePage_bounds (k n : Nat) :
    12 + 32 * n < tablePage k n ∧ tablePage k n ≤ 12 + 32 * n + 2 ^ k := by
  have split := div_add_mod (12 + 32 * n) (2 ^ k)
  rw [tablePage, mul_comm ((12 + 32 * n) / 2 ^ k)]
  omega

/-- `offset += pagesize - (offset & pagemask)` behind a table of `n` entries. -/
theorem tableOffset_toNat {k n : Nat} (power : pagesize.toNat = 2 ^ k) (offset : UInt32)
    (reach : offset.toNat = 12 + 32 * n) :
    (offset + (pagesize - (offset &&& (pagesize - 1)))).toNat = tablePage k n % 2 ^ 32 := by
  have page := pagesize.toNat_lt
  have split := div_add_mod (12 + 32 * n) (2 ^ k)
  have rest : (pagesize - (offset &&& (pagesize - 1))).toNat = 2 ^ k - offset.toNat % 2 ^ k := by
    rw [UInt32.toNat_sub, and_pagemask_toNat pagesize offset power]
    omega
  rw [UInt32.toNat_add, rest, tablePage, reach, mul_comm ((12 + 32 * n) / 2 ^ k)]
  omega

section
variable {board : Board} {fdt : Libfdt} {pagesize : UInt32} {k : Nat} {g : Gather}
variable {qsort : (BlobEntry → BlobEntry → Int) → List BlobEntry → List BlobEntry}

def finalEntries (qsort : (BlobEntry → BlobEntry → Int) → List BlobEntry → List BlobEntry)
    (pagesize : UInt32) (g : Gather) : List BlobEntry :=
  (qsort dtEntryCmp g.entries).map
    (updateEntry pagesize (blobOffsets pagesize (maskUp pagesize (g.hdrSz + 4)) g.blobs) g.blobs)

theorem headerSize_toNat (power : pagesize.toNat = 2 ^ k) (inv : Gathered fdt k g) :
    (maskUp pagesize (g.hdrSz + 4)).toNat = headerPage k g.blobs.length := by
  rw [maskUp_toNat pagesize _ power, UInt32.toNat_add, inv.header]
  congr 2
  have four : (4 : UInt32).toNat = 4 := rfl
  omega

theorem entries_length (inv : Gathered fdt k g) : g.entries.length = g.blobs.length := by
  simpa using congrArg length inv.order

theorem entries_taken (inv : Gathered fdt k g) (few : g.blobs.length < 2 ^ 32) :
    g.entries.take g.entryCount.toNat = g.entries := by
  apply take_of_length_le
  rw [inv.count, entries_length inv]
  omega

theorem finalEntries_length (sorts : ∀ es, (qsort dtEntryCmp es).Perm es)
    (inv : Gathered fdt k g) : (finalEntries qsort pagesize g).length = g.blobs.length := by
  rw [finalEntries, length_map, (sorts _).length_eq, entries_length inv]

theorem buildBlock_eq (power : pagesize.toNat = 2 ^ k) (inv : Gathered fdt k g)
    (sorts : ∀ es, (qsort dtEntryCmp es).Perm es)
    (order : tablePage k g.blobs.length ≤ headerPage k g.blobs.length)
    (fits : headerPage k g.blobs.length + totalSize (2 ^ k) g.blobs < 2 ^ 32) :
    buildBlock board qsort pagesize g = some
      ⟨headerBytes board g.entryCount ++ tableBytes (finalEntries qsort pagesize g) ++
          calloc (tablePage k g.blobs.length - (12 + 32 * g.blobs.length)) ++
          paddedAll (2 ^ k) g.blobs ++
          calloc (headerPage k g.blobs.length - tablePage k g.blobs.length),
        finalEntries qsort pagesize g, g.blobs⟩ := by
  generalize front : tablePage k g.blobs.length - (12 + 32 * g.blobs.length) = gap
  generalize behind : headerPage k g.blobs.length - tablePage k g.blobs.length = last
  have page := tablePage_bounds k g.blobs.length
  have length : (finalEntries qsort pagesize g).length = g.blobs.length :=
    finalEntries_length sorts inv
  have imageSize : (maskUp pagesize (g.hdrSz + 4) + g.blobSz).toNat =
      headerPage k g.blobs.length + totalSize (2 ^ k) g.blobs := by
    rw [UInt32.toNat_add, headerSize_toNat power inv, inv.size]
    omega
  have zeros : headerPage k g.blobs.length + totalSize (2 ^ k) g.blobs =
      12 + (32 * g.blobs.length + (gap + (totalSize (2 ^ k) g.blobs + last))) := by
    omega
  obtain ⟨next, table, reach⟩ := writeEntries_fills (finalEntries qsort pagesize g)
    (headerBytes board g.entryCount) (calloc (32 * g.blobs.length))
    (calloc (gap + (totalSize (2 ^ k) g.blobs + last))) headerPhysSize (by rw [headerBytes_length]; rfl) (by simp [length])
    (by simp only [headerPhysSize, UInt32.reduceToNat]; omega)
  rw [length] at reach
  have start := tableOffset_toNat (n := g.blobs.length) power next (by rw [reach]; rfl)
  have blobs := writeBlobs_fills power g.blobs
    (headerBytes board g.entryCount ++ tableBytes (finalEntries qsort pagesize g) ++
      calloc gap)
    (next + (pagesize - (next &&& (pagesize - 1)))) last inv.loaded
    (by
      rw [length_append, length_append, headerBytes_length, tableBytes_length]
      simp only [calloc_length]
      omega)
    (by omega)
  simp only [buildBlock, entries_taken inv (by omega), imageSize, zeros, writeHeader_fills,
    bind_eq_bind, bind_some]
  rw [← finalEntries, calloc_add (32 * g.blobs.length), ← append_assoc, table]
  rw [calloc_add gap, ← append_assoc]
  change (writeBlobs pagesize (headerBytes board g.entryCount ++
    tableBytes (finalEntries qsort pagesize g) ++ _ ++ _) _ _).bind _ = _
  rw [blobs]
  rfl

theorem tablePage_lt {n A : Nat} (small : k < 32) (bound : A < 2 ^ 32) (whole : 2 ^ k ∣ A)
    (inside : 12 + 32 * n ≤ A) : tablePage k n < 2 ^ 32 := by
  have page := tablePage_bounds k n
  have positive := Nat.two_pow_pos k
  have space : 2 ^ k ∣ 2 ^ 32 := Nat.pow_dvd_pow 2 (by omega)
  have room : A + 2 ^ k ≤ 2 ^ 32 := by
    have := roundUp_le positive space (show A + 1 ≤ 2 ^ 32 by omega)
    have up : roundUp (2 ^ k) (A + 1) = A + 2 ^ k := by
      obtain ⟨q, rfl⟩ := whole
      rw [roundUp, Nat.mul_comm (2 ^ k) q, show q * 2 ^ k + 1 + (2 ^ k - 1) = (q + 1) * 2 ^ k by
        rw [Nat.succ_mul]; omega, Nat.mul_div_cancel _ positive, Nat.succ_mul]
    omega
  by_contra large
  have edge : 12 + 32 * n + 2 ^ k = 2 ^ 32 := by omega
  by_cases tiny : k ≤ 2
  · interval_cases k <;> omega
  · obtain ⟨j, rfl⟩ : ∃ j, k = j + 3 := ⟨k - 3, by omega⟩
    rw [pow_add] at edge
    omega

variable {p : Nat} {block : Block} {e : BlobEntry}

theorem totalSize_length (positive : 0 < p) (blobs : List Bytes) (filled : ∀ b ∈ blobs, b ≠ []) :
    blobs.length ≤ totalSize p blobs := by
  induction blobs with
  | nil => simp
  | cons b blobs ih =>
    have tail := ih (fun x hx => filled x (by simp [hx]))
    have head : 0 < b.length := length_pos_iff.mpr (filled b (by simp))
    have reach := le_roundUp positive b.length
    rw [totalSize_cons, length_cons]
    omega

theorem writeBlobs_first {dtbh out : Bytes} {offset : UInt32} {blobs : List Bytes}
    (some_blob : blobs ≠ []) (run : writeBlobs pagesize dtbh offset blobs = some out) :
    offset.toNat ≤ dtbh.length := by
  cases blobs with
  | nil => contradiction
  | cons b blobs =>
    obtain ⟨mid, copied, _⟩ := bind_eq_some_iff.mp run
    have := memcpy_bounds copied
    omega

section

variable (power : pagesize.toNat = 2 ^ k)
  (inv : Gathered fdt k g) (sorts : ∀ es, (qsort dtEntryCmp es).Perm es)
include power inv sorts

/-- A run that stays inside its buffer wrapped no size and put the blobs no further than
    the accumulated header. -/
theorem buildBlock_bounds (nonempty : g.blobs ≠ [])
    (filled : ∀ b ∈ g.blobs, b ≠ []) (run : buildBlock board qsort pagesize g = some block) :
    tablePage k g.blobs.length ≤ headerPage k g.blobs.length ∧
      headerPage k g.blobs.length + totalSize (2 ^ k) g.blobs < 2 ^ 32 := by
  have positive := Nat.two_pow_pos k
  have small := exponent_le pagesize power
  obtain ⟨first, header, run⟩ := bind_eq_some_iff.mp run
  obtain ⟨⟨second, next⟩, table, run⟩ := bind_eq_some_iff.mp run
  obtain ⟨third, blobs, run⟩ := bind_eq_some_iff.mp run
  obtain ⟨firstLength, room⟩ := writeHeader_length header
  rw [calloc_length] at firstLength room
  have imageLt := (maskUp pagesize (g.hdrSz + 4) + g.blobSz).toNat_lt
  obtain ⟨secondLength, reach, inside⟩ := writeEntries_bounds _ _ _ _ _ (by omega)
    (by simp only [headerPhysSize, UInt32.reduceToNat]; omega) table
  rw [length_map, (sorts _).length_eq, length_take, entries_length inv] at reach
  have space : 2 ^ k ∣ 2 ^ 32 := pow_dvd_pow 2 (by omega)
  have whole : 2 ^ k ∣ (maskUp pagesize (g.hdrSz + 4) + g.blobSz).toNat := by
    rw [UInt32.toNat_add, Nat.dvd_mod_iff space, inv.size]
    exact Nat.dvd_add (maskUp_dvd _ _ power) ((Nat.dvd_mod_iff space).mpr (totalSize_dvd _ _))
  have twelve : headerPhysSize.toNat = 12 := rfl
  have start := tableOffset_toNat power next reach
  have below : tablePage k (min g.entryCount.toNat g.blobs.length) < 2 ^ 32 :=
    tablePage_lt small imageLt whole (by omega)
  rw [mod_eq_of_lt below] at start
  have all := writeBlobs_bounds power g.blobs second third _ inv.loaded (by omega)
    (by rw [secondLength, firstLength]; exact whole)
    (by rw [start]; exact tablePage_dvd _ _) (writeBlobs_first nonempty blobs) blobs
  rw [start, secondLength, firstLength] at all
  have many := totalSize_length positive g.blobs filled
  have counted : min g.entryCount.toNat g.blobs.length = g.blobs.length := by
    rw [inv.count]
    omega
  rw [counted] at all
  rw [UInt32.toNat_add, headerSize_toNat power inv, inv.size] at all
  have headerLt : headerPage k g.blobs.length < 2 ^ 32 := by
    rw [← headerSize_toNat power inv]
    exact UInt32.toNat_lt _
  omega

theorem finalEntries_member (fits : headerPage k g.blobs.length + totalSize (2 ^ k) g.blobs < 2 ^ 32)
    (member : e ∈ finalEntries qsort pagesize g) :
    ∃ b, g.blobs[e.blob]? = some b ∧ e.size.toNat = roundUp (2 ^ k) b.length ∧
      e.offset.toNat =
        headerPage k g.blobs.length + totalSize (2 ^ k) (g.blobs.take e.blob) := by
  obtain ⟨e0, old, rfl⟩ := List.mem_map.mp member
  have listed : e0.blob ∈ g.entries.map (·.blob) :=
    List.mem_map.mpr ⟨e0, (sorts _).mem_iff.mp old, rfl⟩
  rw [inv.order] at listed
  have inside : e0.blob < g.blobs.length := mem_range.mp listed
  have found : g.blobs[e0.blob]? = some g.blobs[e0.blob] := getElem?_eq_getElem inside
  have short := inv.loaded g.blobs[e0.blob] (getElem_mem inside)
  refine ⟨g.blobs[e0.blob], found, ?_, ?_⟩
  · simp only [updateEntry, getD_eq_getElem?_getD, found, getD_some]
    exact blobStep_toNat power short
  · have placed := blobOffsets_getD power g.blobs (maskUp pagesize (g.hdrSz + 4)) e0.blob
      inv.loaded inside (by rw [headerSize_toNat power inv]; exact fits)
    rw [headerSize_toNat power inv] at placed
    simpa [updateEntry] using placed

end

theorem finalEntries_covers (inv : Gathered fdt k g)
    (sorts : ∀ es, (qsort dtEntryCmp es).Perm es) :
    ((finalEntries qsort pagesize g).map (·.blob)).Perm (range g.blobs.length) := by
  have same : (finalEntries qsort pagesize g).map (·.blob) =
      (qsort dtEntryCmp g.entries).map (·.blob) := by
    simp [finalEntries, updateEntry, Function.comp_def]
  rw [same, ← inv.order]
  exact (sorts _).map _

theorem readEntry_at (before after : Bytes) (e : DtEntry) (i : Nat)
    (place : before.length = 12 + 32 * i) :
    readEntry (before ++ entryBytes e ++ after) i = some e := by
  have word (j : Nat) (x : UInt32) (field : slice (entryBytes e) j 4 = some (le32 x)) :
      wordAt (before ++ entryBytes e ++ after) (12 + 32 * i + j) = some x := by
    rw [wordAt, append_assoc, ← place, slice_right,
      slice_left _ _ _ _ (slice_some field).1, field, bind_some, readLe32_le32]
  have chip := word 0 e.chip rfl
  rw [add_zero] at chip
  simp only [readEntry, chip, word 4 e.platform rfl, word 8 e.subtype rfl, word 12 e.hwRev rfl,
    word 16 e.hwRevEnd rfl, word 20 e.offset rfl, word 24 e.size rfl, word 28 e.space rfl,
    bind_eq_bind, bind_some, pure_def]

theorem readEntry_table (before after : Bytes) (entries : List BlobEntry) (i : Nat)
    (start : before.length = 12) (inside : i < entries.length) :
    readEntry (before ++ tableBytes entries ++ after) i = some entries[i].toDtEntry := by
  have split : entries = entries.take i ++ entries[i] :: entries.drop (i + 1) := by
    rw [← drop_eq_getElem_cons inside, take_append_drop]
  have parts : tableBytes entries = tableBytes (entries.take i) ++
      entryBytes entries[i].toDtEntry ++ tableBytes (entries.drop (i + 1)) := by
    conv => lhs; rw [split]
    rw [tableBytes_append, tableBytes_cons, append_assoc]
  have read := readEntry_at (before ++ tableBytes (entries.take i))
    (tableBytes (entries.drop (i + 1)) ++ after) entries[i].toDtEntry i (by
      rw [length_append, tableBytes_length, length_take]
      omega)
  rw [parts]
  simpa [append_assoc] using read

theorem dumpEntries_all {file header : Bytes} {content : BlobEntry → Bytes}
    (entries : List BlobEntry) : ∀ i,
    (∀ c (inside : c < entries.length), dumpEntry file header (i + c) =
      .ok (entries[c].toDtEntry, content entries[c])) →
    dumpEntries file header i entries.length =
      .ok (entries.map fun e => (e.toDtEntry, content e)) := by
  induction entries with
  | nil => intro i _; rfl
  | cons e entries ih =>
    intro i each
    have first := each 0 (by simp)
    have rest := ih (i + 1) (by
      intro c inside
      have next := each (c + 1) (by simpa using inside)
      rw [show i + 1 + c = i + (c + 1) by omega]
      simpa using next)
    simp only [add_zero, getElem_cons_zero] at first
    simp only [length_cons, dumpEntries, first, rest, map_cons]

/-- An image that starts with its header and table, and whose entries point to their
    payloads, is unpacked entry by entry. -/
theorem unpack_all {board : Board} {entryCount : UInt32} {rest : Bytes}
    (shape : block.image = headerBytes board entryCount ++ tableBytes block.entries ++ rest)
    (count : entryCount.toNat = block.entries.length)
    (payload : ∀ e ∈ block.entries, slice block.image e.offset.toNat e.size.toNat = some (expected block e))
    (pageSize : Nat) (table : 12 + 32 * block.entries.length ≤ pageSize)
    (inside : pageSize ≤ block.image.length) :
    unpackdtbhimg pageSize block.image =
      .ok (block.entries.map fun e => (e.toDtEntry, expected block e)) := by
  have length := headerBytes_length board entryCount
  have page : slice block.image 0 pageSize = some (block.image.take pageSize) := by
    rw [slice, if_pos (by omega), drop_zero]
  obtain ⟨more, cut⟩ : ∃ more, block.image.take pageSize =
      headerBytes board entryCount ++ tableBytes block.entries ++ more := by
    refine ⟨rest.take (pageSize - (12 + 32 * block.entries.length)), ?_⟩
    rw [shape, take_append, take_of_length_le (by
      rw [length_append, length, tableBytes_length]; exact table), length_append,
      length, tableBytes_length]
  have counted : wordAt (block.image.take pageSize) 8 = some entryCount := by
    rw [wordAt, cut, append_assoc, slice_left _ _ _ _ (by rw [length]), headerBytes]
    have found := slice_append (board.magic ++ le32 board.version) (le32 entryCount) []
    rw [append_nil, length_append, board.magic_length] at found
    simp only [le32_length, reduceAdd] at found
    rw [found, bind_some, readLe32_le32]
  rw [unpackdtbhimg, if_neg (by omega), page]
  dsimp only
  rw [counted]
  dsimp only
  rw [count]
  apply dumpEntries_all
  intro c bound
  have read := readEntry_table (headerBytes board entryCount) more block.entries c length bound
  rw [← cut] at read
  rw [dumpEntry, zero_add, read]
  dsimp only
  rw [payload block.entries[c] (getElem_mem bound)]

theorem slices_join {image : Bytes} (blobs : List Bytes) :
    ∀ start,
    start ≤ image.length →
    (∀ j b, blobs[j]? = some b → slice image (start + totalSize p (blobs.take j))
      (roundUp p b.length) = some (padded p b)) →
    slice image start (totalSize p blobs) = some (paddedAll p blobs) := by
  induction blobs with
  | nil =>
    intro start inside _
    rw [slice, if_pos (by simpa [totalSize] using inside)]
    simp [totalSize, paddedAll]
  | cons b blobs ih =>
    intro start _ each
    have first := each 0 b rfl
    have rest := ih (start + roundUp p b.length) (by have := (slice_some first).1; omega) (by
      intro j c found
      have next := each (j + 1) c (by simpa using found)
      rw [take_succ_cons, totalSize_cons, ← add_assoc] at next
      exact next)
    exact slice_join first rest

theorem expected_eq {b : Bytes} (found : block.blobs[e.blob]? = some b)
    (size : e.size.toNat = roundUp p b.length) : expected block e = padded p b := by
  simp [expected, padded, found, size]

/-- With room for the blobs, the block reads back exactly when the blobs were copied to the
    page that the accumulated header size names. -/
theorem roundTrip_iff_pages (power : pagesize.toNat = 2 ^ k) (inv : Gathered fdt k g)
    (sorts : ∀ es, (qsort dtEntryCmp es).Perm es) (marked : ∃ b ∈ g.blobs, ∃ byte ∈ b, byte ≠ 0)
    (order : tablePage k g.blobs.length ≤ headerPage k g.blobs.length)
    (fits : headerPage k g.blobs.length + totalSize (2 ^ k) g.blobs < 2 ^ 32)
    (run : buildBlock board qsort pagesize g = some block) :
    RoundTrip block ↔ headerPage k g.blobs.length = tablePage k g.blobs.length := by
  have positive := Nat.two_pow_pos k
  have page := tablePage_bounds k g.blobs.length
  have length : (finalEntries qsort pagesize g).length = g.blobs.length :=
    finalEntries_length sorts inv
  rw [buildBlock_eq power inv sorts order fits, Option.some.injEq] at run
  have frontLength : (headerBytes board g.entryCount ++
      tableBytes (finalEntries qsort pagesize g) ++
      calloc (tablePage k g.blobs.length - (12 + 32 * g.blobs.length))).length =
        tablePage k g.blobs.length := by
    rw [length_append, length_append, headerBytes_length, tableBytes_length, length,
      calloc_length]
    omega
  constructor
  · intro back
    by_contra apart
    have image : slice block.image (headerPage k g.blobs.length) (totalSize (2 ^ k) g.blobs) =
        some (paddedAll (2 ^ k) g.blobs) := by
      apply slices_join
      · rw [← run, length_append, length_append, calloc_length]
        omega
      · intro j b found
        have inside : j < g.blobs.length := (List.getElem?_eq_some_iff.mp found).1
        have covered := back.covers.mem_iff.mpr (List.mem_range.mpr (by rw [← run]; exact inside))
        obtain ⟨e, member, rfl⟩ := List.mem_map.mp covered
        have read := back.payload e member
        rw [← run] at member
        obtain ⟨c, same, size, offset⟩ := finalEntries_member power inv sorts fits member
        rw [found, Option.some.injEq] at same
        subst c
        rw [expected_eq (by rw [← run]; exact found) size, size, offset] at read
        exact read
    obtain ⟨d, distance⟩ := Nat.exists_eq_add_of_le order
    rw [← run, append_assoc, distance, slice_behind frontLength, Nat.add_sub_cancel_left,
      ← paddedAll_length positive] at image
    have zero := zeros_of_shift _ _ (by omega) image
    obtain ⟨b, member, byte, inside, nonzero⟩ := marked
    apply nonzero
    apply zero
    simp only [paddedAll, List.mem_flatten, List.mem_map]
    exact ⟨padded (2 ^ k) b, ⟨b, member, rfl⟩, List.mem_append_left _ inside⟩
  · intro agree
    have payload : ∀ e ∈ block.entries,
        slice block.image e.offset.toNat e.size.toNat = some (expected block e) := by
      intro e member
      rw [← run] at member
      obtain ⟨b, found, size, offset⟩ := finalEntries_member power inv sorts fits member
      have within := slice_paddedAll positive found
      rw [expected_eq (by rw [← run]; exact found) size, size, offset, ← run, agree,
        append_assoc, slice_behind frontLength,
        slice_left _ _ _ _ (slice_some within).1]
      exact within
    refine ⟨?_, payload, ?_⟩
    · rw [← run]
      exact finalEntries_covers inv sorts
    · apply unpack_all (by rw [← run]; simp only [append_assoc]; rfl) _ payload
      rw [← run, length, inv.count]
      omega

end

theorem load_eq_ok {board : Board} {fdt : Libfdt}
    {qsort : (BlobEntry → BlobEntry → Int) → List BlobEntry → List BlobEntry}
    {dir : List DirEntry} {pagesize : UInt32} {g : Gather} {block : Block}
    (gathered : gatherBlobs board fdt pagesize dir .start = .ok g) :
    loadDtbhBlock board fdt qsort dir pagesize = .ok (some block) ↔
      g.entryCount ≠ 0 ∧ buildBlock board qsort pagesize g = some block := by
  simp only [loadDtbhBlock, gathered]
  by_cases zero : g.entryCount = 0
  · simp [zero]
  · cases buildBlock board qsort pagesize g with
    | none => simp [zero]
    | some built => simp [zero]

theorem entryCount_ne_zero {fdt : Libfdt} {k : Nat} {g : Gather} (inv : Gathered fdt k g)
    (nonempty : g.blobs ≠ []) (small : g.blobs.length < 2 ^ 32) : g.entryCount ≠ 0 := by
  intro zero
  have positive : 0 < g.blobs.length := length_pos_iff.mpr nonempty
  have count := inv.count
  rw [zero, UInt32.toNat_zero] at count
  omega

def HasFdtMagic (dtb : Bytes) : Prop :=
  dtb.take 4 = [0xd0, 0x0d, 0xfe, 0xed] ∨ dtb.take 4 = [0x2f, 0xf2, 0x01, 0x12]

theorem magic_nonzero {dtb : Bytes} (magic : HasFdtMagic dtb) : ∃ byte ∈ dtb, byte ≠ 0 := by
  rcases magic with whole | partly
  · exact ⟨0xd0, mem_of_mem_take (by rw [whole]; simp), by decide⟩
  · exact ⟨0x2f, mem_of_mem_take (by rw [partly]; simp), by decide⟩

/-- For every non-empty directory of accepted blobs and every power-of-two page, the block can
    be read back if and only if the accumulated header size and the table that is written end
    on the same page and the image stays below 2^32 bytes. -/
theorem dtbh_round_trip_iff (board : Board) (fdt : Libfdt)
    (qsort : (BlobEntry → BlobEntry → Int) → List BlobEntry → List BlobEntry)
    (sorts : ∀ es, (qsort dtEntryCmp es).Perm es)
    (magic : ∀ dtb, fdt.checkHeader dtb = 0 → HasFdtMagic dtb)
    (dir : List DirEntry) (pagesize : UInt32) (k : Nat) (power : pagesize.toNat = 2 ^ k)
    (g : Gather) (gathered : gatherBlobs board fdt pagesize dir .start = .ok g)
    (nonempty : g.blobs ≠ []) :
    (∃ block, loadDtbhBlock board fdt qsort dir pagesize = .ok (some block) ∧
        block.blobs = g.blobs ∧ RoundTrip block) ↔
      headerPage k g.blobs.length = tablePage k g.blobs.length ∧
        tablePage k g.blobs.length + totalSize (2 ^ k) g.blobs < 2 ^ 32 := by
  have inv := gathered_run power dir (gathered_start fdt k) gathered
  have filled : ∀ b ∈ g.blobs, b ≠ [] := by
    intro b member
    obtain ⟨byte, inside, _⟩ := magic_nonzero (magic b (inv.accepted b member))
    exact ne_nil_of_mem inside
  have marked : ∃ b ∈ g.blobs, ∃ byte ∈ b, byte ≠ 0 := by
    obtain ⟨b, member⟩ := exists_mem_of_ne_nil _ nonempty
    exact ⟨b, member, magic_nonzero (magic b (inv.accepted b member))⟩
  constructor
  · rintro ⟨block, loaded, _, back⟩
    obtain ⟨_, run⟩ := (load_eq_ok gathered).mp loaded
    obtain ⟨order, fits⟩ := buildBlock_bounds power inv sorts nonempty filled run
    have agree := (roundTrip_iff_pages power inv sorts marked order fits run).mp back
    exact ⟨agree, by omega⟩
  · rintro ⟨agree, fits⟩
    have page := tablePage_bounds k g.blobs.length
    have counted := entryCount_ne_zero inv nonempty (by omega)
    have run : buildBlock board qsort pagesize g = _ :=
      buildBlock_eq power inv sorts (by omega) (by omega)
    refine ⟨_, (load_eq_ok gathered).mpr ⟨counted, run⟩, rfl, ?_⟩
    exact (roundTrip_iff_pages power inv sorts marked (by omega) (by omega) run).mpr agree

def sampleBoard : Board where
  magic := [0x44, 0x54, 0x42, 0x48]
  magic_length := by decide
  version := 2
  model := none
  platform := [0x61]
  subtype := [0x62]
  platformCode := 0x50a6
  subtypeCode := 0x217584da

/-- Only the fields of the header that `fdt_check_header` looks at are decoded: the magic, the
    version and the last compatible version. -/
def sampleFdt : Libfdt where
  checkHeader dtb := if dtb.take 4 = [0xd0, 0x0d, 0xfe, 0xed] ∧ dtb[23]? = some 17 ∧
    dtb[27]? = some 16 then 0 else -9
  getprop _ name :=
    if name = "model_info-platform" then some [0x61, 0]
    else if name = "model_info-subtype" then some [0x62, 0]
    else some [0, 0, 0, 1]

def sampleSort (cmp : BlobEntry → BlobEntry → Int) (es : List BlobEntry) : List BlobEntry :=
  es.mergeSort (fun a b => decide (cmp a b ≤ 0))

/-- A device tree with an empty root node and no reserved memory, for the given boot CPU. -/
def cpuBlob (cpu : UInt8) : Bytes :=
  [0xd0, 0x0d, 0xfe, 0xed, 0, 0, 0, 72, 0, 0, 0, 56, 0, 0, 0, 72, 0, 0, 0, 40, 0, 0, 0, 17,
    0, 0, 0, 16, cpu, cpu, cpu, cpu, 0, 0, 0, 0, 0, 0, 0, 16, 0, 0, 0, 0, 0, 0, 0, 0,
    0, 0, 0, 0, 0, 0, 0, 0, 0, 0, 0, 1, 0, 0, 0, 0, 0, 0, 0, 2, 0, 0, 0, 9]

@[simp] theorem cpuBlob_length (cpu : UInt8) : (cpuBlob cpu).length = 72 := rfl

def sampleDir (cpus : List UInt8) : List DirEntry :=
  cpus.map fun cpu => ⟨[0x61, 0x2e, 0x64, 0x74, 0x62], some (cpuBlob cpu)⟩

theorem sampleSort_perm (es : List BlobEntry) : (sampleSort dtEntryCmp es).Perm es :=
  mergeSort_perm _ _

theorem sampleFdt_magic (dtb : Bytes) (accepted : sampleFdt.checkHeader dtb = 0) :
    HasFdtMagic dtb := by
  left
  by_contra other
  simp [sampleFdt, other] at accepted

theorem gather_sample (pagesize : UInt32) (cpus : List UInt8) : ∀ g, ∃ last,
    gatherBlobs sampleBoard sampleFdt pagesize (sampleDir cpus) g = .ok last ∧
      last.blobs = g.blobs ++ cpus.map cpuBlob := by
  induction cpus with
  | nil => exact fun g => ⟨g, rfl, by simp⟩
  | cons cpu cpus ih =>
    intro g
    obtain ⟨last, run, blobs⟩ := ih (addBlob sampleBoard pagesize g (cpuBlob cpu) 1 1 1)
    refine ⟨last, run, ?_⟩
    rw [blobs, addBlob, append_assoc]
    rfl

theorem dtbh_round_trip_three : ∃ block,
    loadDtbhBlock sampleBoard sampleFdt sampleSort (sampleDir [1, 2, 3]) 2048 =
        .ok (some block) ∧
      block.blobs = [cpuBlob 1, cpuBlob 2, cpuBlob 3] ∧ RoundTrip block := by
  obtain ⟨g, run, blobs⟩ := gather_sample 2048 [1, 2, 3] .start
  have three : g.blobs = [cpuBlob 1, cpuBlob 2, cpuBlob 3] := blobs
  have back := dtbh_round_trip_iff sampleBoard sampleFdt sampleSort sampleSort_perm
    sampleFdt_magic (sampleDir [1, 2, 3]) 2048 11 rfl g run (by simp [three])
  rw [three] at back
  exact back.mpr (by decide)

/-- Eleven blobs on pages of 2048 bytes: the accumulated size asks for two pages, the table
    fills less than one, and no entry points at its blob. -/
theorem eleven_blobs_not_read_back : ∃ block,
    loadDtbhBlock sampleBoard sampleFdt sampleSort (sampleDir (replicate 11 0)) 2048 =
        .ok (some block) ∧
      block.blobs = replicate 11 (cpuBlob 0) ∧ ¬ RoundTrip block := by
  obtain ⟨g, run, blobs⟩ := gather_sample 2048 (replicate 11 0) .start
  have eleven : g.blobs = replicate 11 (cpuBlob 0) := by
    rw [blobs, map_replicate]
    rfl
  have power : (2048 : UInt32).toNat = 2 ^ 11 := rfl
  have inv := gathered_run power _ (gathered_start sampleFdt 11) run
  have header : headerPage 11 g.blobs.length = 4096 := by rw [eleven]; decide
  have table : tablePage 11 g.blobs.length = 2048 := by rw [eleven]; decide
  have total : totalSize (2 ^ 11) g.blobs = 11 * 2048 := by rw [eleven]; decide
  have counted := entryCount_ne_zero inv (by simp [eleven]) (by simp [eleven])
  have built : buildBlock sampleBoard sampleSort 2048 g = _ :=
    buildBlock_eq power inv sampleSort_perm (by omega) (by omega)
  have marked : ∃ b ∈ g.blobs, ∃ byte ∈ b, byte ≠ 0 := by
    rw [eleven]
    exact ⟨cpuBlob 0, mem_replicate.mpr ⟨by decide, rfl⟩, 0xd0, mem_cons_self, by decide⟩
  have apart := roundTrip_iff_pages power inv sampleSort_perm marked (by omega) (by omega) built
  refine ⟨_, (load_eq_ok run).mpr ⟨counted, built⟩, eleven, fun back => ?_⟩
  have same := apart.mp back
  omega

end DtbhRoundTrip
