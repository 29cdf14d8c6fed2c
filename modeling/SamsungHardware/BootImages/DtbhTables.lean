import SamsungHardware.BootImages.DtbhRoundTrip

/- The table of a DTBH block: the order in which dtbimg.c writes the entries, the room that it has
   for them with the page sizes of mkdtbimg.c, and what unpackdtbhimg.c reads of it. -/
namespace DtbhTables
open PageRounding ByteBuffer DtbhBlock DtbhLayout DtbhRoundTrip List UInt32 Nat
open Option hiding mem_map

abbrev Qsort := (BlobEntry → BlobEntry → Int) → List BlobEntry → List BlobEntry

section

variable (a b : BlobEntry)

def lexSign : Int :=
  if a.chip ≠ b.chip then ((a.chip.toNat : Int) - b.chip.toNat).sign
  else ((a.hwRev.toNat : Int) - b.hwRev.toNat).sign

/-- The difference has the sign of the comparison when it is read as an `int`. -/
def Near (x y : UInt32) : Prop := x.toNat < y.toNat + 2 ^ 31 ∧ y.toNat ≤ x.toNat + 2 ^ 31

def Comparable : Prop :=
  if a.chip ≠ b.chip then Near a.chip b.chip else Near a.hwRev b.hwRev

def Precedes : Prop := a.chip < b.chip ∨ a.chip = b.chip ∧ a.hwRev ≤ b.hwRev

instance : DecidableRel Precedes := fun _ _ => inferInstanceAs (Decidable (_ ∨ _))

instance (x y : UInt32) : Decidable (Near x y) := inferInstanceAs (Decidable (_ ∧ _))

instance : DecidableRel Comparable := fun _ _ => inferInstanceAs (Decidable (ite _ _ _))

/-- What is assumed of `qsort`: it sorts when the comparison is a consistent total preorder. -/
structure Sorts (qsort : Qsort) : Prop where
  perm : ∀ cmp es, (qsort cmp es).Perm es
  sorted : ∀ cmp es, (∀ a ∈ es, ∀ b ∈ es, (cmp b a).sign = -(cmp a b).sign) →
    (∀ a ∈ es, ∀ b ∈ es, ∀ c ∈ es, cmp a b ≤ 0 → cmp b c ≤ 0 → cmp a c ≤ 0) →
    (qsort cmp es).Pairwise fun a b => cmp a b ≤ 0

theorem sub_sign_iff (x y : UInt32) :
    (x - y).toBitVec.toInt.sign = ((x.toNat : Int) - y.toNat).sign ↔ Near x y := by
  have first := x.toNat_lt
  have second := y.toNat_lt
  have word : (x - y).toBitVec.toNat = (2 ^ 32 - y.toNat + x.toNat) % 2 ^ 32 :=
    UInt32.toNat_sub x y
  rw [BitVec.toInt_eq_toNat_cond, word, Near]
  rcases lt_trichotomy x.toNat y.toNat with less | same | more
  · rw [Int.sign_eq_neg_one_of_neg (a := (x.toNat : Int) - y.toNat) (by omega),
      Int.sign_eq_neg_one_iff_neg]
    split <;> omega
  · rw [same, Nat.sub_add_cancel (Nat.le_of_lt second)]
    simp
  · rw [Int.sign_eq_one_of_pos (a := (x.toNat : Int) - y.toNat) (by omega), Int.sign_eq_one_iff_pos]
    split <;> omega

theorem dtEntryCmp_sign_iff : (dtEntryCmp a b).sign = lexSign a b ↔ Comparable a b := by
  unfold dtEntryCmp lexSign Comparable
  split
  · exact sub_sign_iff _ _
  · exact sub_sign_iff _ _

theorem lexSign_nonpos_iff : lexSign a b ≤ 0 ↔ Precedes a b := by
  unfold lexSign Precedes
  rw [lt_iff_toNat_lt, le_iff_toNat_le]
  split
  case isTrue apart =>
    have other : a.chip.toNat ≠ b.chip.toNat := fun same => apart (toNat.inj same)
    rw [Int.sign_nonpos_iff]
    simp only [apart, false_and, or_false]
    omega
  case isFalse same =>
    have equal : a.chip = b.chip := Decidable.not_not.mp same
    rw [Int.sign_nonpos_iff, equal]
    simp only [lt_irrefl, true_and, false_or]
    omega

theorem lexSign_swap : lexSign b a = -lexSign a b := by
  by_cases same : a.chip = b.chip
  · rw [lexSign, lexSign, if_neg (not_not.mpr same.symm), if_neg (not_not.mpr same),
      ← Int.sign_neg, Int.neg_sub]
  · rw [lexSign, lexSign, if_pos (Ne.symm same), if_pos same, ← Int.sign_neg, Int.neg_sub]

theorem Precedes.trans {a b c : BlobEntry} (first : Precedes a b) (second : Precedes b c) :
    Precedes a c := by
  unfold Precedes at *
  rcases first with less | ⟨same, less⟩
  · rcases second with less' | ⟨same', -⟩
    · exact Or.inl (UInt32.lt_trans less less')
    · exact Or.inl (same' ▸ less)
  · rw [same]
    rcases second with less' | ⟨same', less'⟩
    · exact Or.inl less'
    · exact Or.inr ⟨same', UInt32.le_trans less less'⟩

theorem cmp_nonpos_iff {a b : BlobEntry} (comparable : Comparable a b) :
    dtEntryCmp a b ≤ 0 ↔ Precedes a b := by
  rw [← lexSign_nonpos_iff, ← (dtEntryCmp_sign_iff a b).mpr comparable, Int.sign_nonpos_iff]

theorem qsort_sorted {qsort : Qsort} (sorts : Sorts qsort) {es : List BlobEntry}
    (comparable : ∀ a ∈ es, ∀ b ∈ es, Comparable a b) :
    (qsort dtEntryCmp es).Pairwise Precedes := by
  have sorted := sorts.sorted dtEntryCmp es ?_ ?_
  · refine sorted.imp_of_mem fun {a b} inside inside' less => ?_
    have known := comparable a ((sorts.perm _ es).mem_iff.mp inside) b
      ((sorts.perm _ es).mem_iff.mp inside')
    exact (cmp_nonpos_iff known).mp less
  · intro a ha b hb
    rw [(dtEntryCmp_sign_iff a b).mpr (comparable a ha b hb),
      (dtEntryCmp_sign_iff b a).mpr (comparable b hb a ha), lexSign_swap]
  · intro a ha b hb c hc
    rw [cmp_nonpos_iff (comparable a ha b hb), cmp_nonpos_iff (comparable b hb c hc),
      cmp_nonpos_iff (comparable a ha c hc)]
    exact Precedes.trans

theorem built_entries {board : Board} {qsort : Qsort} {pagesize : UInt32} {g : Gather}
    {block : Block} (run : buildBlock board qsort pagesize g = some block) :
    ∃ offsets, block.entries = (qsort dtEntryCmp (g.entries.take g.entryCount.toNat)).map
      (updateEntry pagesize offsets g.blobs) := by
  obtain ⟨first, -, run⟩ := bind_eq_some_iff.mp run
  obtain ⟨⟨second, next⟩, -, run⟩ := bind_eq_some_iff.mp run
  obtain ⟨third, -, run⟩ := bind_eq_some_iff.mp run
  cases run
  exact ⟨_, rfl⟩

/-- The sign of `dt_entry_cmp` is that of the order exactly for fields that are less than 2^31
    apart, with 2^31 itself for the smaller one first. A table of such entries is sorted. -/
theorem table_order_iff (board : Board) (fdt : Libfdt) (qsort : Qsort) (sorts : Sorts qsort)
    (dir : List DirEntry) (pagesize : UInt32) (g : Gather)
    (gathered : gatherBlobs board fdt pagesize dir .start = .ok g) :
    (∀ a b : BlobEntry, (dtEntryCmp a b).sign = lexSign a b ↔ Comparable a b) ∧
    ((∀ a ∈ g.entries, ∀ b ∈ g.entries, Comparable a b) → ∀ block,
      loadDtbhBlock board fdt qsort dir pagesize = .ok (some block) →
      block.entries.Pairwise Precedes) := by
  refine ⟨dtEntryCmp_sign_iff, ?_⟩
  intro comparable block loaded
  obtain ⟨-, built⟩ := (load_eq_ok gathered).mp loaded
  obtain ⟨offsets, entries⟩ := built_entries built
  rw [entries, pairwise_map]
  -- the update writes neither `chip` nor `hw_rev`
  exact qsort_sorted sorts fun a ha b hb =>
    comparable a (mem_of_mem_take ha) b (mem_of_mem_take hb)

theorem sampleSort_sorts : Sorts sampleSort where
  perm _ _ := mergeSort_perm _ _
  sorted cmp es swap trans := by
    let le : {e // e ∈ es} → {e // e ∈ es} → Bool := fun a b => decide (cmp a b ≤ 0)
    have attached : (es.attach.mergeSort le).map Subtype.val = sampleSort cmp es := by
      rw [map_mergeSort (s := fun a b => decide (cmp a b ≤ 0)) (fun _ _ _ _ => rfl)]
      simp [sampleSort]
    have sorted : (es.attach.mergeSort le).Pairwise fun a b => le a b = true := by
      apply pairwise_mergeSort
      · intro a b c
        simpa [le] using trans a a.2 b b.2 c c.2
      · intro a b
        have signs := swap a a.2 b b.2
        rcases Int.le_total (cmp a b) 0 with less | more
        · simp [le, less]
        · have other : (cmp b a).sign ≤ 0 := by
            rw [signs]
            exact Int.neg_nonpos_of_nonneg (Int.sign_nonneg_iff.mpr more)
          simp [le, Int.sign_nonpos_iff.mp other]
    rw [← attached, pairwise_map]
    simpa [le] using sorted

/-- The chip is taken from the field of the boot CPU. -/
def chipFdt : Libfdt where
  checkHeader := sampleFdt.checkHeader
  getprop dtb name :=
    if name = "model_info-chip" then some ((dtb.drop 28).take 4) else sampleFdt.getprop dtb name

def chipEntry (chip : UInt32) (blob : Nat) : BlobEntry :=
  ⟨⟨chip, 0x50a6, 0x217584da, 1, 1, 0, 0, 0x20⟩, blob⟩

def chipGather (low high : UInt8) (c d : UInt32) : Gather :=
  ⟨[cpuBlob low, cpuBlob high], 144, [chipEntry c 0, chipEntry d 1], 2, 108⟩

theorem load_chips {low high : UInt8} {c d : UInt32}
    (gathered : gatherBlobs sampleBoard chipFdt 1 (sampleDir [low, high]) .start =
      .ok (chipGather low high c d)) : ∃ block,
    loadDtbhBlock sampleBoard chipFdt sampleSort (sampleDir [low, high]) 1 = .ok (some block) ∧
      block.entries = finalEntries sampleSort 1 (chipGather low high c d) := by
  have power : (1 : UInt32).toNat = 2 ^ 0 := rfl
  have inv := gathered_run power _ (gathered_start chipFdt 0) gathered
  have built : buildBlock sampleBoard sampleSort 1 _ = _ :=
    buildBlock_eq power inv sampleSort_perm (show tablePage 0 2 ≤ headerPage 0 2 by decide)
      (by simp [chipGather, totalSize, roundUp, headerPage])
  exact ⟨_, (load_eq_ok gathered).mpr ⟨by simp [chipGather], built⟩, rfl⟩

theorem near_chips_sorted : ∃ block,
    loadDtbhBlock sampleBoard chipFdt sampleSort (sampleDir [1, 0]) 1 = .ok (some block) ∧
      block.entries.Pairwise Precedes := by
  have gathered : gatherBlobs sampleBoard chipFdt 1 (sampleDir [1, 0]) .start =
    .ok (chipGather 1 0 0x01010101 0) := rfl
  obtain ⟨block, loaded, -⟩ := load_chips gathered
  refine ⟨block, loaded, ?_⟩
  exact (table_order_iff sampleBoard chipFdt sampleSort sampleSort_sorts (sampleDir [1, 0]) 1 _
    gathered).2 (by decide) block loaded

/-- The largest chip is put in front of the smallest. -/
theorem largest_chip_first : ∃ block,
    loadDtbhBlock sampleBoard chipFdt sampleSort (sampleDir [0, 0xff]) 1 = .ok (some block) ∧
      ¬ block.entries.Pairwise Precedes := by
  have gathered : gatherBlobs sampleBoard chipFdt 1 (sampleDir [0, 0xff]) .start =
    .ok (chipGather 0 0xff 0 0xffffffff) := rfl
  obtain ⟨block, loaded, entries⟩ := load_chips gathered
  have order : dtEntryCmp (chipEntry 0 0) (chipEntry 0xffffffff 1) = 1 := by decide
  have swapped : sampleSort dtEntryCmp [chipEntry 0 0, chipEntry 0xffffffff 1] =
      [chipEntry 0xffffffff 1, chipEntry 0 0] := by
    simp [sampleSort, List.mergeSort, order]
  refine ⟨block, loaded, ?_⟩
  rw [entries, finalEntries, chipGather, swapped]
  decide

end

section

/-- The options of mkdtbimg.c. Without `-s` the page size stays 0. -/
structure MkOptions where
  dtimg : Option String := none
  dtDir : Option String := none
  pagesize : UInt32 := 0

def MkOptions.set (strtol : String → UInt32) (isDir : String → Bool) (o : MkOptions)
    (arg : String) (val : Option String) : Except Failure MkOptions :=
  if arg = "--output" ∨ arg = "-o" then .ok { o with dtimg := val }
  else if arg = "--dt_dir" then .ok { o with dtDir := val }
  else if arg = "-p" then .ok o
  else if arg = "-s" then
    match val with
    | none => .error .undefined
    | some val => .ok { o with pagesize := if strtol val = 0 then 2048 else strtol val }
  else if isDir arg then .ok { o with dtDir := some arg }
  else .error .exited

def mkOptions (strtol : String → UInt32) (isDir : String → Bool) :
    List String → MkOptions → Except Failure MkOptions
  | [], o => .ok o
  | [arg], o => o.set strtol isDir arg none
  | arg :: val :: rest, o =>
    match o.set strtol isDir arg (some val) with
    | .error failure => .error failure
    | .ok next => mkOptions strtol isDir rest next

def mkdtbimg (board : Board) (fdt : Libfdt) (qsort : Qsort) (strtol : String → UInt32)
    (readDir : String → Option (List DirEntry)) (args : List String) :
    Except Failure (Option Block) :=
  match mkOptions strtol (fun dir => (readDir dir).isSome) args {} with
  | .error failure => .error failure
  | .ok o =>
    match o.dtimg, o.dtDir.bind readDir with
    | some _, some files => loadDtbhBlock board fdt qsort files o.pagesize
    | _, _ => .error .exited

variable {strtol : String → UInt32} {isDir : String → Bool}

theorem set_pagesize {o next : MkOptions} {arg : String} {val : Option String}
    (other : arg ≠ "-s") (run : o.set strtol isDir arg val = .ok next) :
    next.pagesize = o.pagesize := by
  unfold MkOptions.set at run
  split_ifs at run
  all_goals
    cases run
    rfl

theorem mkOptions_pagesize {args : List String} {o last : MkOptions} (absent : "-s" ∉ args)
    (run : mkOptions strtol isDir args o = .ok last) : last.pagesize = o.pagesize := by
  fun_induction mkOptions strtol isDir args o with
  | case1 o =>
    cases run
    rfl
  | case2 arg o => exact set_pagesize (by grind) run
  | case3 => cases run
  | case4 arg val rest o next step ih =>
    rw [ih (by grind) run, set_pagesize (by grind) step]

/-- The sizes of the blobs, each rounded up, in 32 bits. -/
def rounded (pagesize : UInt32) (blobs : List Bytes) : UInt32 :=
  (blobs.map fun b => maskUp pagesize (ofNat b.length)).sum

def bufferSize (pagesize : UInt32) (blobs : List Bytes) : Nat :=
  let n := ofNat blobs.length
  (maskUp pagesize (16 + 16 * (n * (n + 1))) + rounded pagesize blobs).toNat

/-- Where the first blob is written: behind the table, and behind what is left of its page. -/
def blobStart (pagesize : UInt32) (blobs : List Bytes) : UInt32 :=
  let offset := 12 + 32 * ofNat blobs.length
  offset + (pagesize - (offset &&& (pagesize - 1)))

/-- The table and each of the blobs end inside of the buffer, for any page size. -/
structure Fits (pagesize : UInt32) (blobs : List Bytes) : Prop where
  table : 12 + 32 * (ofNat blobs.length).toNat ≤ bufferSize pagesize blobs
  payloads : ∀ i b, blobs[i]? = some b →
    (blobStart pagesize blobs + rounded pagesize (blobs.take i)).toNat + b.length ≤
      bufferSize pagesize blobs

structure Collected (pagesize : UInt32) (g : Gather) : Prop where
  entries : g.entries.length = g.blobs.length
  count : g.entryCount = ofNat g.blobs.length
  header : g.hdrSz = 12 + 16 * (g.entryCount * (g.entryCount + 1))
  size : g.blobSz = rounded pagesize g.blobs

section

variable {board : Board} {fdt : Libfdt} {qsort : Qsort} {pagesize : UInt32} {g : Gather}

theorem collected_run (dir : List DirEntry)
    (gathered : gatherBlobs board fdt pagesize dir .start = .ok g) : Collected pagesize g := by
  refine gather_keeps (fun g dtb c r e _ _ inv => ?_) dir ⟨rfl, rfl, rfl, rfl⟩ gathered
  refine ⟨?_, ?_, ?_, ?_⟩
  · simp [addBlob, inv.entries]
  · simp [addBlob, inv.count]
  · have triangle : ∀ n : UInt32, 12 + 16 * (n * (n + 1)) + (n + 1) * 32 =
        12 + 16 * ((n + 1) * (n + 1 + 1)) := by
      intro n
      grind
    rw [addBlob, inv.header]
    exact triangle g.entryCount
  · simp [addBlob, inv.size, rounded]

theorem Collected.bufferSize_eq (inv : Collected pagesize g) :
    (maskUp pagesize (g.hdrSz + 4) + g.blobSz).toNat = bufferSize pagesize g.blobs := by
  have header : 12 + 16 * (g.entryCount * (g.entryCount + 1)) + 4 =
      16 + 16 * (g.entryCount * (g.entryCount + 1)) := by grind
  rw [inv.header, inv.size, header, inv.count]
  rfl

theorem memcpy_iff {buf data : Bytes} {off : Nat} :
    (∃ out, memcpy buf off data = some out) ↔ off + data.length ≤ buf.length :=
  ⟨fun ⟨_, run⟩ => memcpy_bounds run, fun room => ⟨_, if_pos room⟩⟩

theorem writeBlobs_iff (blobs : List Bytes) : ∀ (dtbh : Bytes) (offset : UInt32),
    (∃ out, writeBlobs pagesize dtbh offset blobs = some out) ↔
      ∀ i b, blobs[i]? = some b →
        (offset + rounded pagesize (blobs.take i)).toNat + b.length ≤ dtbh.length := by
  induction blobs with
  | nil => simp [writeBlobs]
  | cons first blobs ih =>
    intro dtbh offset
    have later (i : Nat) : offset + rounded pagesize ((first :: blobs).take (i + 1)) =
        offset + maskUp pagesize (ofNat first.length) + rounded pagesize (blobs.take i) := by
      simp [rounded, UInt32.add_assoc]
    constructor
    · rintro ⟨out, run⟩ i b found
      obtain ⟨mid, copied, run⟩ := bind_eq_some_iff.mp run
      cases i with
      | zero =>
        cases found
        simpa [rounded] using memcpy_bounds copied
      | succ i =>
        have rest := (ih mid _).mp ⟨out, run⟩ i b found
        rw [later, ← memcpy_length copied]
        exact rest
    · intro inside
      have room := inside 0 first rfl
      simp only [take_zero, rounded, map_nil, sum_nil, UInt32.add_zero] at room
      obtain ⟨mid, copied⟩ := memcpy_iff.mpr room
      obtain ⟨out, run⟩ := (ih mid (offset + maskUp pagesize (ofNat first.length))).mpr
        fun i b found => by
          rw [← later, memcpy_length copied]
          exact inside (i + 1) b found
      exact ⟨out, by rw [writeBlobs, copied, bind_some, run]⟩

theorem writeEntries_room (entries : List BlobEntry) {dtbh : Bytes} (small : dtbh.length < 2 ^ 32)
    (room : 12 + 32 * entries.length ≤ dtbh.length) :
    ∃ out next, writeEntries dtbh headerPhysSize entries = some (out, next) := by
  have shape : dtbh = dtbh.take 12 ++ (dtbh.drop 12).take (32 * entries.length) ++
      (dtbh.drop 12).drop (32 * entries.length) := by
    rw [append_assoc, take_append_drop, take_append_drop]
  obtain ⟨next, run, -⟩ := writeEntries_fills entries (dtbh.take 12)
    ((dtbh.drop 12).take (32 * entries.length)) ((dtbh.drop 12).drop (32 * entries.length))
    headerPhysSize (by simp only [headerPhysSize, UInt32.reduceToNat, length_take]; omega)
    (by simp only [length_take, length_drop]; omega)
    (by simp only [headerPhysSize, UInt32.reduceToNat]; omega)
  rw [← shape] at run
  exact ⟨_, next, run⟩

/-- The writes are inside of the buffer exactly when the table and the blobs fit, whatever the page
    size. -/
theorem buildBlock_iff (sorts : ∀ es, (qsort dtEntryCmp es).Perm es) (inv : Collected pagesize g) :
    (∃ block, buildBlock board qsort pagesize g = some block) ↔ Fits pagesize g.blobs := by
  have rows (offsets : List UInt32) : ((qsort dtEntryCmp (g.entries.take g.entryCount.toNat)).map
      (updateEntry pagesize offsets g.blobs)).length = (ofNat g.blobs.length).toNat := by
    have less : (ofNat g.blobs.length).toNat ≤ g.blobs.length := by
      rw [toNat_ofNat']
      exact Nat.mod_le _ _
    rw [length_map, (sorts _).length_eq, length_take, inv.entries, inv.count]
    omega
  have small : bufferSize pagesize g.blobs < 2 ^ 32 := UInt32.toNat_lt _
  have reached {next : UInt32} (reach : next.toNat = 12 + 32 * (ofNat g.blobs.length).toNat)
      (room : 12 + 32 * (ofNat g.blobs.length).toNat ≤ bufferSize pagesize g.blobs) :
      next + (pagesize - (next &&& (pagesize - 1))) = blobStart pagesize g.blobs := by
    have whole : next = 12 + 32 * ofNat g.blobs.length := by
      apply toNat.inj
      rw [reach, UInt32.toNat_add, UInt32.toNat_mul]
      simp only [UInt32.reduceToNat]
      omega
    rw [whole]
    rfl
  constructor
  · rintro ⟨block, built⟩
    obtain ⟨first, header, built⟩ := bind_eq_some_iff.mp built
    obtain ⟨⟨second, next⟩, table, built⟩ := bind_eq_some_iff.mp built
    obtain ⟨third, blobs, -⟩ := bind_eq_some_iff.mp built
    obtain ⟨length, twelve⟩ := writeHeader_length header
    rw [calloc_length, inv.bufferSize_eq] at length twelve
    obtain ⟨length', reach, room⟩ := writeEntries_bounds _ _ _ _ _ (by omega)
      (by rw [length]; exact twelve) table
    rw [rows] at reach
    rw [length] at length' room
    have start : next.toNat = 12 + 32 * (ofNat g.blobs.length).toNat := reach
    have inside := (writeBlobs_iff _ _ _).mp ⟨third, blobs⟩
    rw [length'] at inside
    rw [reached start (by omega)] at inside
    exact ⟨by omega, inside⟩
  · rintro ⟨table, payloads⟩
    obtain ⟨rest, whole⟩ := Nat.exists_eq_add_of_le (show 12 ≤ bufferSize pagesize g.blobs by omega)
    have length : (headerBytes board g.entryCount ++ calloc rest).length =
        bufferSize pagesize g.blobs := by
      rw [length_append, headerBytes_length, calloc_length, whole]
    obtain ⟨second, next, entries⟩ := writeEntries_room _ (by rw [length]; exact small)
      (by rw [rows (blobOffsets pagesize (maskUp pagesize (g.hdrSz + 4)) g.blobs), length]
          exact table)
    obtain ⟨length', reach, -⟩ := writeEntries_bounds _ _ _ _ _ (by rw [length]; exact small)
      (by rw [length, whole]; exact Nat.le_add_right 12 rest) entries
    rw [rows] at reach
    have start : next.toNat = 12 + 32 * (ofNat g.blobs.length).toNat := reach
    obtain ⟨third, blobs⟩ := (writeBlobs_iff g.blobs second
      (next + (pagesize - (next &&& (pagesize - 1))))).mpr (by
        rw [reached start table, length', length]
        exact payloads)
    refine ⟨⟨third, (qsort dtEntryCmp (g.entries.take g.entryCount.toNat)).map (updateEntry pagesize
      (blobOffsets pagesize (maskUp pagesize (g.hdrSz + 4)) g.blobs) g.blobs), g.blobs⟩, ?_⟩
    simp only [buildBlock, inv.bufferSize_eq, whole, writeHeader_fills, bind_eq_bind, bind_some,
      entries, blobs]
    rfl

theorem not_fits_zero (blobs : List Bytes) : ¬ Fits 0 blobs := by
  rintro ⟨table, -⟩
  have none_left : ∀ x, maskUp 0 x = 0 := by
    intro x
    simp [maskUp]
  have empty : rounded 0 blobs = 0 := by
    induction blobs with
    | nil => rfl
    | cons b blobs ih => simp [rounded, none_left]
  simp only [bufferSize, none_left, empty, UInt32.add_zero, UInt32.toNat_zero] at table
  omega

end

/-- For every page size the block is built inside of the buffer exactly when the table and each blob
    end in it. Without `-s` the page size is 0, and they never do. For pages of a power of two they
    do exactly when the blobs begin no further than the accumulated header size says and the sizes
    do not wrap. -/
theorem mkdtbimg_inside_iff (board : Board) (fdt : Libfdt) (qsort : Qsort) (sorts : Sorts qsort)
    (magic : ∀ dtb, fdt.checkHeader dtb = 0 → HasFdtMagic dtb) (strtol : String → UInt32)
    (readDir : String → Option (List DirEntry)) (args : List String) (o : MkOptions)
    (parsed : mkOptions strtol (fun dir => (readDir dir).isSome) args {} = .ok o)
    (named : o.dtimg.isSome = true) (files : List DirEntry)
    (opened : o.dtDir.bind readDir = some files) (g : Gather)
    (gathered : gatherBlobs board fdt o.pagesize files .start = .ok g)
    (counted : g.entryCount ≠ 0) :
    ((∃ block, mkdtbimg board fdt qsort strtol readDir args = .ok (some block)) ↔
      Fits o.pagesize g.blobs) ∧
    ("-s" ∉ args → o.pagesize = 0) ∧ (o.pagesize = 0 → ¬ Fits o.pagesize g.blobs) ∧
    ∀ k, o.pagesize.toNat = 2 ^ k → (Fits o.pagesize g.blobs ↔
      tablePage k g.blobs.length ≤ headerPage k g.blobs.length ∧
        headerPage k g.blobs.length + totalSize (2 ^ k) g.blobs < 2 ^ 32) := by
  have runs : mkdtbimg board fdt qsort strtol readDir args =
      loadDtbhBlock board fdt qsort files o.pagesize := by
    obtain ⟨dtimg, output⟩ := isSome_iff_exists.mp named
    rw [mkdtbimg, parsed]
    dsimp only
    rw [output, opened]
  have inside : (∃ block, buildBlock board qsort o.pagesize g = some block) ↔
      Fits o.pagesize g.blobs := buildBlock_iff (sorts.perm _) (collected_run files gathered)
  simp only [runs, load_eq_ok gathered, counted, ne_eq, not_false_eq_true, true_and]
  refine ⟨inside, fun absent => mkOptions_pagesize absent parsed, ?_, ?_⟩
  · intro zero
    rw [zero]
    exact not_fits_zero g.blobs
  · intro k power
    have inv := gathered_run power files (gathered_start fdt k) gathered
    rw [← inside]
    constructor
    · rintro ⟨block, built⟩
      have nonempty : g.blobs ≠ [] := by
        intro empty
        have count := inv.count
        rw [empty] at count
        exact counted (toNat.inj count)
      refine buildBlock_bounds power inv (sorts.perm _) nonempty (fun b member => ?_) built
      obtain ⟨_, inside, _⟩ := magic_nonzero (magic b (inv.accepted b member))
      exact ne_nil_of_mem inside
    · rintro ⟨order, fits⟩
      exact ⟨_, buildBlock_eq power inv (sorts.perm _) order fits⟩

def mkArgs (pagesize : String) : List String :=
  ["-o", "dt.img", "--dt_dir", "dtbs", "-s", pagesize]

/-- Pages of 2048 bytes, and pages of 1000 bytes, whose mask is not one of low bits. -/
theorem two_blobs_inside :
    (∃ block, mkdtbimg sampleBoard sampleFdt sampleSort (fun _ => 2048)
      (fun _ => some (sampleDir [1, 2])) (mkArgs "2048") = .ok (some block)) ∧
    ∃ block, mkdtbimg sampleBoard sampleFdt sampleSort (fun _ => 1000)
      (fun _ => some (sampleDir [1, 2])) (mkArgs "1000") = .ok (some block) := by
  have inside (pagesize : UInt32) (page : String) (given : pagesize ≠ 0)
      (fits : Fits pagesize [cpuBlob 1, cpuBlob 2]) : ∃ block,
      mkdtbimg sampleBoard sampleFdt sampleSort (fun _ => pagesize)
        (fun _ => some (sampleDir [1, 2])) (mkArgs page) = .ok (some block) := by
    obtain ⟨g, run, blobs⟩ := gather_sample pagesize [1, 2] .start
    have two : g.blobs = [cpuBlob 1, cpuBlob 2] := blobs
    have count := (collected_run _ run).count
    refine (mkdtbimg_inside_iff sampleBoard sampleFdt sampleSort sampleSort_sorts sampleFdt_magic
      (fun _ => pagesize) (fun _ => some (sampleDir [1, 2])) (mkArgs page)
      ⟨some "dt.img", some "dtbs", pagesize⟩ ?_ rfl (sampleDir [1, 2]) rfl g run ?_).1.mpr ?_
    · simp [mkOptions, mkArgs, MkOptions.set, given]
    · rw [count, two]
      decide
    · rw [two]
      exact fits
  have fits (pagesize : UInt32) (table : 76 ≤ bufferSize pagesize [cpuBlob 1, cpuBlob 2])
      (first : (blobStart pagesize [cpuBlob 1, cpuBlob 2]).toNat + 72 ≤
        bufferSize pagesize [cpuBlob 1, cpuBlob 2])
      (second : (blobStart pagesize [cpuBlob 1, cpuBlob 2] + rounded pagesize [cpuBlob 1]).toNat +
        72 ≤ bufferSize pagesize [cpuBlob 1, cpuBlob 2]) :
      Fits pagesize [cpuBlob 1, cpuBlob 2] := by
    refine ⟨table, ?_⟩
    intro i b found
    match i with
    | 0 =>
      cases found
      simpa [rounded] using first
    | 1 =>
      cases found
      exact second
  exact ⟨inside 2048 "2048" (by decide) (fits 2048 (by decide) (by decide) (by decide)),
    inside 1000 "1000" (by decide) (fits 1000 (by decide) (by decide) (by decide))⟩

/-- Without an option for the page size the first write is outside the buffer. -/
theorem default_pagesize_outside :
    mkdtbimg sampleBoard sampleFdt sampleSort (fun _ => 2048) (fun _ => some (sampleDir [1]))
      ["-o", "dt.img", "--dt_dir", "dtbs"] = .error .undefined := by
  rfl

end

/-- A dumped file; `none` is memory that was allocated and not read. -/
def dumpedFile (file : Bytes) (e : DtEntry) : List (Option UInt8) :=
  let data := (file.drop e.offset.toNat).take e.size.toNat
  data.map some ++ List.replicate (e.size.toNat - data.length) none

def dumpTable (file header : Bytes) : Nat → Nat → Option (List (List (Option UInt8)))
  | _, 0 => some []
  | i, left + 1 =>
    (readEntry header i).bind fun e =>
      (dumpTable file header (i + 1) left).map (dumpedFile file e :: ·)

/-- The files that unpackdtbhimg.c dumps, or none when it reads behind the header. A header that
    cannot be loaded, as one of no bytes, is not read at all; a short read of a blob is reported
    and dumped. -/
def unpackFiles (pageSize : Nat) (file : Bytes) : Option (List (List (Option UInt8))) :=
  if pageSize = 0 then some [] else
  match slice file 0 pageSize with
  | none => some []
  | some header => do
    let _ ← wordAt header 0
    let _ ← wordAt header 4
    let entryCount ← wordAt header 8
    dumpTable file header 0 entryCount.toNat

def UnpacksSafely (pageSize : Nat) (file : Bytes) : Prop :=
  ∃ files, unpackFiles pageSize file = some files ∧ ∀ dumped ∈ files, none ∉ dumped

variable {file header : Bytes} {off pageSize i : Nat}

theorem wordAt_isSome_iff : (wordAt header off).isSome ↔ off + 4 ≤ header.length := by
  unfold wordAt slice
  split
  case isTrue inside =>
    obtain ⟨a, b, c, d, part⟩ : ∃ a b c d, (header.drop off).take 4 = [a, b, c, d] := by
      match part : (header.drop off).take 4 with
      | [a, b, c, d] => exact ⟨a, b, c, d, rfl⟩
      | [] | [_] | [_, _] | [_, _, _] | _ :: _ :: _ :: _ :: _ :: _ =>
        have length := congrArg List.length part
        simp at length
        omega
    simp [part, readLe32, inside]
  case isFalse outside => simp [outside]

theorem wordAt_take (inside : off + 4 ≤ pageSize) (loaded : pageSize ≤ file.length) :
    wordAt (file.take pageSize) off = wordAt file off := by
  have whole := take_append_drop pageSize file
  rw [wordAt, wordAt]
  nth_rewrite 2 [← whole]
  rw [slice_left _ _ _ _ (by simp; omega)]

theorem readEntry_isSome_iff : (readEntry header i).isSome ↔ 12 + 32 * (i + 1) ≤ header.length := by
  constructor
  · intro read
    by_contra outside
    have absent : wordAt header (12 + 32 * i + 28) = none := by
      rw [← not_isSome_iff_eq_none, wordAt_isSome_iff]
      omega
    simp [readEntry, absent] at read
  · intro inside
    have word (j : Nat) (small : j ≤ 28) : ∃ x, wordAt header (12 + 32 * i + j) = some x :=
      isSome_iff_exists.mp (wordAt_isSome_iff.mpr (by omega))
    choose value found using word
    have chip := found 0 (by decide)
    rw [add_zero] at chip
    simp [readEntry, chip, found]

theorem readEntry_take (inside : 12 + 32 * (i + 1) ≤ pageSize) (loaded : pageSize ≤ file.length) :
    readEntry (file.take pageSize) i = readEntry file i := by
  have same (j : Nat) (small : j ≤ 28) : wordAt (file.take pageSize) (12 + 32 * i + j) =
      wordAt file (12 + 32 * i + j) := wordAt_take (by omega) loaded
  have chip := same 0 (by decide)
  rw [add_zero] at chip
  simp [readEntry, chip, same]

theorem dumpedFile_read_iff (e : DtEntry) : none ∉ dumpedFile file e ↔
    e.size = 0 ∨ e.offset.toNat + e.size.toNat ≤ file.length := by
  have zero : e.size = 0 ↔ e.size.toNat = 0 := by
    rw [← UInt32.toNat_inj]
    rfl
  rw [dumpedFile, zero]
  simp only [mem_append, mem_map, reduceCtorEq, and_false, exists_false, false_or,
    mem_replicate, and_true, length_take, length_drop]
  omega

theorem dumpTable_safe_iff (left : Nat) : ∀ i,
    (∃ files, dumpTable file header i left = some files ∧ ∀ dumped ∈ files, none ∉ dumped) ↔
      ∀ c < left, ∃ e, readEntry header (i + c) = some e ∧ none ∉ dumpedFile file e := by
  induction left with
  | zero => simp [dumpTable]
  | succ left ih =>
    intro i
    have rest := ih (i + 1)
    constructor
    · rintro ⟨files, run, clean⟩ c below
      obtain ⟨e, read, run⟩ := bind_eq_some_iff.mp run
      obtain ⟨others, ran, rfl⟩ := map_eq_some_iff.mp run
      cases c with
      | zero => exact ⟨e, read, clean _ mem_cons_self⟩
      | succ c =>
        have later := rest.mp ⟨others, ran, fun d hd => clean d (mem_cons_of_mem _ hd)⟩ c
          (lt_of_succ_lt_succ below)
        rwa [add_right_comm] at later
    · intro each
      obtain ⟨e, read, clean⟩ := each 0 (succ_pos left)
      obtain ⟨others, run, cleans⟩ := rest.mpr fun c below => by
        have later := each (c + 1) (succ_lt_succ below)
        rwa [← add_assoc, add_right_comm] at later
      refine ⟨dumpedFile file e :: others, ?_, ?_⟩
      · rw [add_zero] at read
        rw [dumpTable, read, bind_some, run]
        rfl
      · simpa [clean] using cleans

def TableInside (pageSize : Nat) (file : Bytes) : Prop :=
  12 ≤ pageSize ∧ ∀ entryCount, wordAt file 8 = some entryCount →
    12 + 32 * entryCount.toNat ≤ pageSize ∧
    ∀ i < entryCount.toNat, ∀ e, readEntry file i = some e →
      e.size = 0 ∨ e.offset.toNat + e.size.toNat ≤ file.length

theorem unpackFiles_loaded (positive : pageSize ≠ 0) (loaded : pageSize ≤ file.length) :
    UnpacksSafely pageSize file ↔ TableInside pageSize file := by
  have page : slice file 0 pageSize = some (file.take pageSize) := by
    rw [slice, if_pos (by omega), drop_zero]
  have length : (file.take pageSize).length = pageSize := by simp [loaded]
  by_cases room : 12 ≤ pageSize
  · have word (j : Nat) (small : j ≤ 8) : ∃ x, wordAt (file.take pageSize) j = some x :=
      isSome_iff_exists.mp (wordAt_isSome_iff.mpr (by omega))
    obtain ⟨magic, first⟩ := word 0 (by decide)
    obtain ⟨version, second⟩ := word 4 (by decide)
    obtain ⟨entryCount, third⟩ := word 8 (by decide)
    have counted : wordAt file 8 = some entryCount := by
      rw [← wordAt_take (by omega) loaded, third]
    simp only [UnpacksSafely, unpackFiles, positive, if_false, page, first, second, third, bind_eq_bind,
      bind_some, dumpTable_safe_iff, zero_add, TableInside, room, counted, true_and,
      some.injEq, forall_eq']
    constructor
    · intro each
      have inside (c : Nat) (below : c < entryCount.toNat) : 12 + 32 * (c + 1) ≤ pageSize := by
        obtain ⟨e, read, -⟩ := each c below
        rw [← length, ← readEntry_isSome_iff, read]
        rfl
      constructor
      · cases count : entryCount.toNat with
        | zero => exact room
        | succ c => exact inside c (by omega)
      · intro c below e read
        obtain ⟨e', read', clean⟩ := each c below
        rw [readEntry_take (inside c below) loaded, read, some_inj] at read'
        exact (dumpedFile_read_iff e).mp (read' ▸ clean)
    · rintro ⟨table, blobs⟩ c below
      have inside : 12 + 32 * (c + 1) ≤ pageSize := by omega
      obtain ⟨e, read⟩ : ∃ e, readEntry (file.take pageSize) c = some e := by
        rw [← isSome_iff_exists, readEntry_isSome_iff, length]
        exact inside
      rw [readEntry_take inside loaded] at read ⊢
      exact ⟨e, read, (dumpedFile_read_iff e).mpr (blobs c below e read)⟩
  · have absent : wordAt (file.take pageSize) 8 = none := by
      rw [← not_isSome_iff_eq_none, wordAt_isSome_iff]
      omega
    simp [UnpacksSafely, unpackFiles, positive, page, absent, TableInside, room]

/-- For every file: nothing is read behind the header and only read bytes are dumped exactly when
    the header cannot be loaded, or the table lies in it and every blob in the file. -/
theorem unpack_inside_iff (pageSize : Nat) (file : Bytes) :
    UnpacksSafely pageSize file ↔
      (pageSize = 0 ∨ file.length < pageSize) ∨ TableInside pageSize file := by
  by_cases zero : pageSize = 0
  · simp [UnpacksSafely, unpackFiles, zero]
  · by_cases short : file.length < pageSize
    · have unread : slice file 0 pageSize = none := if_neg (by omega)
      simp [UnpacksSafely, unpackFiles, unread, short]
    · rw [unpackFiles_loaded zero (Nat.le_of_not_lt short)]
      simp [zero, short]

/-- A table of 64 entries is longer than the default page. A file that ends inside of its blob is
    dumped with a byte that was never read. -/
theorem table_outside_page :
    ¬ UnpacksSafely 2048 (calloc 8 ++ le32 64 ++ calloc 2036) ∧
      ¬ UnpacksSafely 44 (calloc 8 ++ le32 1 ++ calloc 24 ++ le32 45 ++ calloc 4) := by
  constructor
  · rw [unpackFiles_loaded (by decide) (by simp)]
    rintro ⟨-, inside⟩
    have count : wordAt (calloc 8 ++ le32 64 ++ calloc 2036) 8 = some 64 := by
      rw [wordAt, slice_left _ _ _ _ (by simp)]
      rfl
    exact absurd (inside 64 count).1 (by decide)
  · rw [unpackFiles_loaded (by decide) (by simp)]
    rintro ⟨-, inside⟩
    have blob := (inside 1 rfl).2 0 (by decide) ⟨0, 0, 0, 0, 0, 0, 45, 0⟩ rfl
    exact absurd blob (by decide)

end DtbhTables
