import SamsungHardware.BootImages.DtbhBlock

/- Where the loops of `load_dtbh_block` write. Each write loop has two facts: with room
   for everything it produces the expected bytes, and if it stays inside the buffer
   then its 32-bit offsets never wrapped. -/
namespace DtbhLayout
open PageRounding ByteBuffer DtbhBlock Option UInt32
open List hiding map_map

def padded (p : Nat) (b : Bytes) : Bytes := b ++ calloc (roundUp p b.length - b.length)

def paddedAll (p : Nat) (blobs : List Bytes) : Bytes := (blobs.map (padded p)).flatten

def totalSize (p : Nat) (blobs : List Bytes) : Nat :=
  (blobs.map fun b => roundUp p b.length).sum

def Loaded (blobs : List Bytes) : Prop := ∀ b ∈ blobs, b.length < 2 ^ 31

variable {b : Bytes} {pagesize : UInt32} {k : Nat} {board : Board} {p : Nat}

theorem padded_length (positive : 0 < p) (b : Bytes) :
    (padded p b).length = roundUp p b.length := by
  have := le_roundUp positive b.length
  simp only [padded, calloc, length_append, length_replicate]
  omega

theorem paddedAll_length (positive : 0 < p) (blobs : List Bytes) :
    (paddedAll p blobs).length = totalSize p blobs := by
  simp only [paddedAll, totalSize, List.length_flatten, List.map_map]
  congr 1
  apply List.map_congr_left
  intro b _
  exact padded_length positive b

theorem totalSize_cons (p : Nat) (b : Bytes) (rest : List Bytes) :
    totalSize p (b :: rest) = roundUp p b.length + totalSize p rest := by
  simp [totalSize]

theorem totalSize_dvd (p : Nat) (blobs : List Bytes) : p ∣ totalSize p blobs := by
  induction blobs with
  | nil => simp [totalSize]
  | cons b rest ih =>
    exact Nat.dvd_add (roundUp_dvd p _) ih

theorem paddedAll_cons (p : Nat) (b : Bytes) (rest : List Bytes) :
    paddedAll p (b :: rest) = padded p b ++ paddedAll p rest := by
  simp [paddedAll]

theorem paddedAll_append (p : Nat) (front back : List Bytes) :
    paddedAll p (front ++ back) = paddedAll p front ++ paddedAll p back := by
  simp [paddedAll]

theorem blobSize_toNat (small : b.length < 2 ^ 31) : (ofNat b.length).toNat = b.length := by
  rw [toNat_ofNat']
  omega

theorem blobStep_toNat (power : pagesize.toNat = 2 ^ k) (small : b.length < 2 ^ 31) :
    (maskUp pagesize (ofNat b.length)).toNat = roundUp (2 ^ k) b.length := by
  rw [maskUp_exact pagesize _ power (by rw [blobSize_toNat small]; exact small),
    blobSize_toNat small]

theorem blobStep_add (offset : UInt32) (power : pagesize.toNat = 2 ^ k) (small : b.length < 2 ^ 31)
    (fits : offset.toNat + roundUp (2 ^ k) b.length < 2 ^ 32) :
    (offset + maskUp pagesize (UInt32.ofNat b.length)).toNat =
      offset.toNat + roundUp (2 ^ k) b.length := by
  rw [UInt32.toNat_add, blobStep_toNat power small]
  omega

@[simp] theorem entryBytes_length (e : DtEntry) : (entryBytes e).length = 32 := rfl

variable (entries : List BlobEntry)

theorem writeEntries_fills :
    ∀ (done old rest : Bytes)
    (offset : UInt32), done.length = offset.toNat → old.length = 32 * entries.length →
    offset.toNat + 32 * entries.length < 2 ^ 32 →
    ∃ next, writeEntries (done ++ old ++ rest) offset entries =
        some (done ++ (entries.map fun e => entryBytes e.toDtEntry).flatten ++ rest, next) ∧
      next.toNat = offset.toNat + 32 * entries.length := by
  induction entries with
  | nil =>
    intro done old rest offset _ room _
    have empty : old = [] := length_eq_zero_iff.mp (by simpa using room)
    subst old
    exact ⟨offset, by simp [writeEntries], by simp⟩
  | cons e entries ih =>
    intro done old rest offset start room fits
    simp only [length_cons] at room fits
    have step : (offset + entryPhysSize).toNat = offset.toNat + 32 := by
      rw [UInt32.toNat_add]
      simp only [entryPhysSize, UInt32.reduceToNat]
      omega
    have copied : memcpy (done ++ old ++ rest) offset.toNat (entryBytes e.toDtEntry) =
        some ((done ++ entryBytes e.toDtEntry) ++ old.drop 32 ++ rest) := by
      have shape : done ++ old ++ rest = done ++ old.take 32 ++ (old.drop 32 ++ rest) := by
        rw [append_assoc, append_assoc, ← append_assoc (old.take 32),
          take_append_drop]
      rw [shape, ← start, memcpy_append done (entryBytes e.toDtEntry) (old.take 32)
        (old.drop 32 ++ rest) (by simp; omega)]
      simp [append_assoc]
    obtain ⟨next, run, reach⟩ := ih (done ++ entryBytes e.toDtEntry) (old.drop 32) rest
      (offset + entryPhysSize) (by simp [step, start]) (by simp; omega) (by omega)
    refine ⟨next, ?_, by simp only [length_cons]; omega⟩
    rw [writeEntries, copied, bind_some, run]
    simp [append_assoc]

theorem writeEntries_bounds :
    ∀ (dtbh out : Bytes)
    (offset next : UInt32), dtbh.length < 2 ^ 32 → offset.toNat ≤ dtbh.length →
    writeEntries dtbh offset entries = some (out, next) →
    out.length = dtbh.length ∧ next.toNat = offset.toNat + 32 * entries.length ∧
      next.toNat ≤ dtbh.length := by
  induction entries with
  | nil =>
    intro dtbh out offset next _ inside run
    obtain ⟨rfl, rfl⟩ := run
    exact ⟨rfl, by simp, inside⟩
  | cons e entries ih =>
    intro dtbh out offset next small _ run
    obtain ⟨mid, copied, run⟩ := bind_eq_some_iff.mp run
    have room := memcpy_bounds copied
    have same := memcpy_length copied
    simp only [entryBytes_length] at room
    have step : (offset + entryPhysSize).toNat = offset.toNat + 32 := by
      rw [UInt32.toNat_add]
      simp only [entryPhysSize, UInt32.reduceToNat]
      omega
    obtain ⟨length, reach, bound⟩ := ih mid out (offset + entryPhysSize) next
      (by omega) (by omega) run
    simp only [length_cons]
    exact ⟨by omega, by omega, by omega⟩

section

variable (power : pagesize.toNat = 2 ^ k) (blobs : List Bytes)
include power blobs

theorem writeBlobs_fills :
    ∀ (done : Bytes) (offset : UInt32) (extra : Nat),
    Loaded blobs → done.length = offset.toNat →
    offset.toNat + totalSize (2 ^ k) blobs < 2 ^ 32 →
    writeBlobs pagesize (done ++ calloc (totalSize (2 ^ k) blobs + extra)) offset blobs =
      some (done ++ paddedAll (2 ^ k) blobs ++ calloc extra) := by
  have positive : 0 < 2 ^ k := Nat.two_pow_pos k
  induction blobs with
  | nil =>
    intro done offset extra _ _ _
    simp [writeBlobs, totalSize, paddedAll]
  | cons b blobs ih =>
    intro done offset extra loaded start fits
    have small : b.length < 2 ^ 31 := loaded b (by simp)
    have reach := le_roundUp positive b.length
    rw [totalSize_cons] at fits ⊢
    have step := blobStep_add offset power small (by omega)
    have zeros : calloc (roundUp (2 ^ k) b.length + totalSize (2 ^ k) blobs + extra) =
        calloc b.length ++ (calloc (roundUp (2 ^ k) b.length - b.length) ++
          calloc (totalSize (2 ^ k) blobs + extra)) := by
      simp only [calloc, replicate_append_replicate]
      congr 1
      omega
    have copied : memcpy (done ++
          calloc (roundUp (2 ^ k) b.length + totalSize (2 ^ k) blobs + extra)) offset.toNat b =
        some ((done ++ padded (2 ^ k) b) ++ calloc (totalSize (2 ^ k) blobs + extra)) := by
      rw [zeros, ← append_assoc, ← start,
        memcpy_append done b (calloc b.length) _ (by simp [calloc])]
      simp [padded, append_assoc]
    rw [writeBlobs, copied, bind_some,
      ih (done ++ padded (2 ^ k) b) _ extra (fun x hx => loaded x (by simp [hx]))
        (by simp [step, start, padded_length positive]) (by omega),
      paddedAll_cons]
    simp [append_assoc]

/- The buffer length is a multiple of the page, so a blob that ends inside it leaves
   room for its padding too; hence the next offset is still below 2^32. -/
theorem writeBlobs_bounds :
    ∀ (dtbh out : Bytes) (offset : UInt32),
    Loaded blobs → dtbh.length < 2 ^ 32 → 2 ^ k ∣ dtbh.length → 2 ^ k ∣ offset.toNat →
    offset.toNat ≤ dtbh.length → writeBlobs pagesize dtbh offset blobs = some out →
    offset.toNat + totalSize (2 ^ k) blobs ≤ dtbh.length := by
  have positive : 0 < 2 ^ k := Nat.two_pow_pos k
  induction blobs with
  | nil => intro dtbh out offset _ _ _ _ inside _; simpa [totalSize] using inside
  | cons b blobs ih =>
    intro dtbh out offset loaded small whole aligned _ run
    have short : b.length < 2 ^ 31 := loaded b (by simp)
    obtain ⟨mid, copied, run⟩ := bind_eq_some_iff.mp run
    have room := memcpy_bounds copied
    have same := memcpy_length copied
    have page : offset.toNat + roundUp (2 ^ k) b.length ≤ dtbh.length := by
      have gap : 2 ^ k ∣ dtbh.length - offset.toNat := Nat.dvd_sub whole aligned
      have := roundUp_le positive gap (show b.length ≤ dtbh.length - offset.toNat by omega)
      omega
    have step := blobStep_add offset power short (by omega)
    have rest := ih mid out _ (fun x hx => loaded x (by simp [hx])) (by omega)
      (by rw [same]; exact whole)
      (by rw [step]; exact Nat.dvd_add aligned (roundUp_dvd _ _)) (by omega) run
    rw [totalSize_cons]
    omega

theorem blobOffsets_getD :
    ∀ (offset : UInt32) (j : Nat), Loaded blobs → j < blobs.length →
    offset.toNat + totalSize (2 ^ k) blobs < 2 ^ 32 →
    ((blobOffsets pagesize offset blobs).getD j 0).toNat =
      offset.toNat + totalSize (2 ^ k) (blobs.take j) := by
  induction blobs with
  | nil => intro offset j _ inside _; simp at inside
  | cons b blobs ih =>
    intro offset j loaded inside fits
    have short : b.length < 2 ^ 31 := loaded b (by simp)
    rw [totalSize_cons] at fits
    cases j with
    | zero => simp [blobOffsets, totalSize]
    | succ j =>
      have step := blobStep_add offset power short (by omega)
      have tail := ih (offset + maskUp pagesize (ofNat b.length)) j
        (fun x hx => loaded x (by simp [hx])) (by simpa using inside) (by omega)
      simp only [blobOffsets, getD_cons_succ, take_succ_cons, totalSize_cons]
      rw [tail, step]
      omega

end

theorem slice_paddedAll (positive : 0 < p) {blobs : List Bytes} {j : Nat}
    (found : blobs[j]? = some b) :
    slice (paddedAll p blobs) (totalSize p (blobs.take j)) (roundUp p b.length) =
      some (padded p b) := by
  obtain ⟨inside, rfl⟩ := List.getElem?_eq_some_iff.mp found
  have split : blobs = blobs.take j ++ blobs[j] :: blobs.drop (j + 1) := by
    rw [← List.drop_eq_getElem_cons inside, List.take_append_drop]
  have parts : paddedAll p blobs =
      paddedAll p (blobs.take j) ++ padded p blobs[j] ++ paddedAll p (blobs.drop (j + 1)) := by
    conv => lhs; rw [split]
    rw [paddedAll_append, paddedAll_cons, append_assoc]
  rw [parts, ← paddedAll_length positive, ← padded_length positive]
  exact slice_append _ _ _

theorem loadFile_length {content dtb : Bytes} (run : loadFile content = some dtb) :
    dtb.length < 2 ^ 31 := by
  simp only [loadFile] at run
  split at run
  · rename_i small
    cases run
    simp only [length_take]
    omega
  · cases run

theorem writeHeader_length {entryCount : UInt32} {dtbh out : Bytes}
    (run : writeHeader board entryCount dtbh = some out) :
    out.length = dtbh.length ∧ 12 ≤ dtbh.length := by
  obtain ⟨first, magic, run⟩ := bind_eq_some_iff.mp run
  obtain ⟨second, version, run⟩ := bind_eq_some_iff.mp run
  have room := memcpy_bounds run
  rw [memcpy_length run, memcpy_length version, memcpy_length magic]
  rw [memcpy_length version, memcpy_length magic] at room
  exact ⟨rfl, room⟩

theorem writeEntries_length :
    ∀ {dtbh out : Bytes}
    {offset next : UInt32}, writeEntries dtbh offset entries = some (out, next) →
    out.length = dtbh.length := by
  induction entries with
  | nil =>
    intro dtbh out offset next run
    cases run
    rfl
  | cons e entries ih =>
    intro dtbh out offset next run
    obtain ⟨mid, copied, run⟩ := bind_eq_some_iff.mp run
    rw [ih run, memcpy_length copied]

theorem writeBlobs_length (blobs : List Bytes) :
    ∀ {dtbh out : Bytes}
    {offset : UInt32}, writeBlobs pagesize dtbh offset blobs = some out →
    out.length = dtbh.length := by
  induction blobs with
  | nil =>
    intro dtbh out offset run
    cases run
    rfl
  | cons b blobs ih =>
    intro dtbh out offset run
    obtain ⟨mid, copied, run⟩ := bind_eq_some_iff.mp run
    rw [ih run, memcpy_length copied]

theorem loadDtbhBlock_length {fdt : Libfdt}
    {qsort : (BlobEntry → BlobEntry → Int) → List BlobEntry → List BlobEntry} {dir : List DirEntry}
    {block : Block} (run : loadDtbhBlock board fdt qsort dir pagesize = .ok (some block)) :
    block.image.length < 2 ^ 32 := by
  rw [loadDtbhBlock] at run
  split at run
  · cases run
  · rename_i g _
    split at run
    · cases run
    · cases built : buildBlock board qsort pagesize g with
      | none => simp [built] at run
      | some result =>
        simp only [built, Except.ok.injEq, Option.some.injEq] at run
        subst result
        obtain ⟨first, header, built⟩ := bind_eq_some_iff.mp built
        obtain ⟨⟨second, next⟩, table, built⟩ := bind_eq_some_iff.mp built
        obtain ⟨third, blobs, built⟩ := bind_eq_some_iff.mp built
        cases built
        rw [writeBlobs_length _ blobs, writeEntries_length _ table, (writeHeader_length header).1,
          calloc_length]
        exact toNat_lt _

end DtbhLayout
