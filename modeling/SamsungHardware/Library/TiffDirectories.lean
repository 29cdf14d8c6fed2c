import SamsungHardware.Library.ByteMemory

/- Directories of the TIFF format, little-endian: the number of entries, one entry of
   12 bytes for each field, the offset of the next directory, and behind the table the
   values that do not stand in their entries. Offsets count from a base address. -/
namespace TiffDirectories

open ByteMemory Nat

def le : Nat → Nat → List UInt8
  | 0, _ => []
  | k + 1, n => UInt8.ofNat n :: le k (n / 256)

def number : List UInt8 → Nat
  | [] => 0
  | byte :: rest => byte.toNat + 256 * number rest

def numberAt (m : Memory) (p k : Nat) : Nat := number (bytesAt m p k)

@[simp] theorem le_length (k n : Nat) : (le k n).length = k := by
  induction k generalizing n with
  | zero => rfl
  | succ k ih => simp [le, ih]

theorem number_le (k n : Nat) : number (le k n) = n % 256 ^ k := by
  induction k generalizing n with
  | zero => simp [le, number, mod_one]
  | succ k ih =>
    have split : n % 256 ^ (k + 1) = n % 256 + 256 * (n / 256 % 256 ^ k) := by
      rw [pow_succ', mod_mul]
    rw [le, number, ih, UInt8.toNat_ofNat', split]

theorem le_number (bytes : List UInt8) : le bytes.length (number bytes) = bytes := by
  induction bytes with
  | nil => rfl
  | cons byte rest ih =>
    have bound := byte.toNat_lt
    have behind : (byte.toNat + 256 * number rest) / 256 = number rest := by omega
    rw [List.length_cons, le, number, behind, ih, UInt8.ofNat_add, UInt8.ofNat_mul,
      UInt8.ofNat_toNat]
    simp

theorem le_zero (k : Nat) : le k 0 = List.replicate k 0 := by
  induction k with
  | zero => rfl
  | succ k ih => simp [le, ih, List.replicate_succ]

theorem le_extend {k n : Nat} (bound : n < 256 ^ k) (j : Nat) :
    le k n ++ List.replicate j 0 = le (k + j) n := by
  induction k generalizing n with
  | zero =>
    obtain rfl : n = 0 := by omega
    simp [le_zero]
  | succ k ih =>
    have smaller : n / 256 < 256 ^ k := by
      rw [Nat.pow_succ'] at bound
      exact Nat.div_lt_of_lt_mul bound
    rw [le, List.cons_append, ih smaller, Nat.add_right_comm, le]

theorem number_lt (bytes : List UInt8) : number bytes < 256 ^ bytes.length := by
  induction bytes with
  | nil => simp [number]
  | cons byte rest ih =>
    have bound := byte.toNat_lt
    rw [number, List.length_cons, pow_succ']
    omega

theorem numberAt_of_holds {m : Memory} {p k n : Nat} (holds : Holds m p (le k n))
    (bound : n < 256 ^ k) : numberAt m p k = n := by
  have same := holds.bytesAt_eq
  rw [le_length] at same
  rw [numberAt, same, number_le, mod_eq_of_lt bound]

inductive FieldType where
  | byte | ascii | short | long | rational | undefined | slong | srational
  deriving DecidableEq, Repr

def FieldType.code : FieldType → Nat
  | .byte => 1
  | .ascii => 2
  | .short => 3
  | .long => 4
  | .rational => 5
  | .undefined => 7
  | .slong => 9
  | .srational => 10

def FieldType.size : FieldType → Nat
  | .byte | .ascii | .undefined => 1
  | .short => 2
  | .long | .slong => 4
  | .rational | .srational => 8

def typeSize : Nat → Nat
  | 1 | 2 | 7 => 1
  | 3 => 2
  | 4 | 9 => 4
  | 5 | 10 => 8
  | _ => 0

@[simp] theorem typeSize_code (type : FieldType) : typeSize type.code = type.size := by
  cases type <;> rfl

theorem FieldType.size_pos (type : FieldType) : 0 < type.size := by
  cases type <;> decide

theorem FieldType.code_lt (type : FieldType) : type.code < 256 ^ 2 := by
  cases type <;> decide

/-- A field of a directory with its whole value, and whether the writer puts the value
    behind the table. -/
structure Field where
  tag : UInt16
  type : FieldType
  count : Nat
  value : List UInt8
  outside : Bool
  sized : value.length = count * type.size
  small : outside = false → value.length ≤ 4

namespace Field

theorem count_le (f : Field) : f.count ≤ f.value.length := by
  rw [f.sized]
  exact Nat.le_mul_of_pos_right f.count f.type.size_pos

def scalar (tag : UInt16) (type : FieldType) (small : type.size ≤ 4) (value : Nat) : Field where
  tag := tag
  type := type
  count := 1
  value := le type.size value
  outside := false
  sized := by simp
  small _ := by simpa using small

def byte (tag : UInt16) (value : UInt8) : Field := scalar tag .byte (by decide) value.toNat

def short (tag : UInt16) (value : UInt16) : Field := scalar tag .short (by decide) value.toNat

def long (tag : UInt16) (value : Nat) : Field := scalar tag .long (by decide) value

def octets {n : Nat} (tag : UInt16) (type : FieldType) (unit : type.size = 1) (few : n ≤ 4)
    (value : Vector UInt8 n) : Field where
  tag := tag
  type := type
  count := n
  value := value.toList
  outside := false
  sized := by simp [unit]
  small _ := by simpa using few

def behind (tag : UInt16) (type : FieldType) (count : Nat) (value : List UInt8)
    (sized : value.length = count * type.size) : Field where
  tag := tag
  type := type
  count := count
  value := value
  outside := true
  sized := sized
  small inside := by simp at inside

def slot (offset : Nat) (f : Field) : List UInt8 :=
  if f.outside then le 4 offset else f.value ++ List.replicate (4 - f.value.length) 0

def entry (offset : Nat) (f : Field) : List UInt8 :=
  le 2 f.tag.toNat ++ le 2 f.type.code ++ le 4 f.count ++ f.slot offset

def outer (f : Field) : List UInt8 := if f.outside then f.value else []

@[simp] theorem slot_length (offset : Nat) (f : Field) : (f.slot offset).length = 4 := by
  unfold slot
  split
  · exact le_length 4 offset
  · rename_i inside
    have small := f.small (by simpa using inside)
    simp
    omega

@[simp] theorem entry_length (offset : Nat) (f : Field) : (f.entry offset).length = 12 := by
  simp [entry]

@[simp] theorem outer_scalar (tag : UInt16) (type : FieldType) (small : type.size ≤ 4) (value : Nat) :
    (scalar tag type small value).outer = [] := rfl

@[simp] theorem outer_octets {n : Nat} (tag : UInt16) (type : FieldType) (unit : type.size = 1)
    (few : n ≤ 4) (value : Vector UInt8 n) : (octets tag type unit few value).outer = [] := rfl

@[simp] theorem outer_behind (tag : UInt16) (type : FieldType) (count : Nat) (value : List UInt8)
    (sized : value.length = count * type.size) :
    (behind tag type count value sized).outer = value := rfl

end Field

def entries : Nat → List Field → List UInt8
  | _, [] => []
  | offset, f :: rest => f.entry offset ++ entries (offset + f.outer.length) rest

def outers (fields : List Field) : List UInt8 := fields.flatMap Field.outer

def table (start next : Nat) (fields : List Field) : List UInt8 :=
  le 2 fields.length ++ entries (start + 6 + 12 * fields.length) fields ++ le 4 next ++ outers fields

@[simp] theorem entries_length (offset : Nat) (fields : List Field) :
    (entries offset fields).length = 12 * fields.length := by
  induction fields generalizing offset with
  | nil => rfl
  | cons f rest ih =>
    simp only [entries, List.length_append, Field.entry_length, ih, List.length_cons]
    omega

theorem outers_cons (f : Field) (rest : List Field) : outers (f :: rest) = f.outer ++ outers rest :=
  List.flatMap_cons

theorem outers_append (front back : List Field) : outers (front ++ back) = outers front ++ outers back :=
  List.flatMap_append

theorem entries_append (offset : Nat) (front back : List Field) :
    entries offset (front ++ back) =
      entries offset front ++ entries (offset + (outers front).length) back := by
  induction front generalizing offset with
  | nil => simp [entries, outers]
  | cons f rest ih =>
    rw [List.cons_append, entries, entries, ih, outers_cons, List.length_append, List.append_assoc,
      Nat.add_assoc]

@[simp] theorem table_length (start next : Nat) (fields : List Field) :
    (table start next fields).length = 6 + 12 * fields.length + (outers fields).length := by
  simp only [table, List.length_append, le_length, entries_length]
  omega

theorem write_table (m : Memory) (base start next : Nat) (fields : List Field) :
    write (write (write (write m (base + start) (le 2 fields.length)) (base + start + 2)
        (entries (start + 6 + 12 * fields.length) fields))
        (base + (start + 6 + 12 * fields.length)) (outers fields))
        (base + start + 2 + 12 * fields.length) (le 4 next) =
      write m (base + start) (table start next fields) := by
  have front := write_append m (base + start) (le 2 fields.length)
    (entries (start + 6 + 12 * fields.length) fields)
  rw [le_length] at front
  have full := write_append (write m (base + start) (le 2 fields.length ++
      entries (start + 6 + 12 * fields.length) fields)) (base + start + 2 + 12 * fields.length)
    (le 4 next) (outers fields)
  have last := write_append m (base + start) (le 2 fields.length ++
    entries (start + 6 + 12 * fields.length) fields) (le 4 next ++ outers fields)
  have behind : base + start + 2 + 12 * fields.length + (le 4 next).length =
      base + (start + 6 + 12 * fields.length) := by
    rw [le_length]
    omega
  have header : base + start + (le 2 fields.length ++
      entries (start + 6 + 12 * fields.length) fields).length =
      base + start + 2 + 12 * fields.length := by
    simp only [List.length_append, le_length, entries_length]
    omega
  rw [header] at last
  rw [behind] at full
  rw [front, write_comm _ (le_of_eq behind), full, last, table]
  simp only [List.append_assoc]

def place (start : Nat) (fields : List Field) (i : Nat) : Nat :=
  start + 6 + 12 * fields.length + (outers (fields.take i)).length

variable {m : Memory} {f : Field} {fields : List Field}

section

variable {base start next p offset i : Nat}

theorem entries_at (holds : Holds m p (entries offset fields)) (found : fields[i]? = some f) :
    Holds m (p + 12 * i) (f.entry (offset + (outers (fields.take i)).length)) := by
  induction fields generalizing i p offset with
  | nil => simp at found
  | cons g rest ih =>
    cases i with
    | zero =>
      simp only [List.getElem?_cons_zero, Option.some.injEq] at found
      subst found
      exact holds.left
    | succ i =>
      have tail := holds.right
      rw [Field.entry_length] at tail
      have inner := ih tail (by simpa using found)
      rw [List.take_succ_cons, outers_cons, List.length_append, ← Nat.add_assoc, Nat.mul_add,
        Nat.add_comm (12 * i), ← Nat.add_assoc]
      exact inner

theorem outers_at (holds : Holds m p (outers fields)) (found : fields[i]? = some f) :
    Holds m (p + (outers (fields.take i)).length) f.outer := by
  obtain ⟨inside, rfl⟩ := List.getElem?_eq_some_iff.mp found
  have parts : fields = fields.take i ++ fields[i] :: fields.drop (i + 1) := by simp
  rw [parts, outers_append, outers_cons] at holds
  exact holds.right.left

section
variable (holds : Holds m (base + start) (table start next fields))
include holds

theorem table_entry_at (found : fields[i]? = some f) :
    Holds m (base + start + 2 + 12 * i) (f.entry (place start fields i)) := by
  have all := holds.left.left.right
  exact entries_at all found

theorem table_slot_at (found : fields[i]? = some f) :
    Holds m (base + start + 2 + 12 * i + 8) (f.slot (place start fields i)) :=
  (table_entry_at holds found).right

theorem table_value_at (found : fields[i]? = some f) :
    Holds m (base + place start fields i) f.outer := by
  have all := holds.right
  simp only [List.length_append, le_length, entries_length] at all
  have value := outers_at all found
  rw [place]
  convert value using 1
  omega

end

theorem place_le (start : Nat) (found : fields[i]? = some f) (next : Nat) :
    place start fields i + f.outer.length ≤ start + (table start next fields).length := by
  obtain ⟨inside, rfl⟩ := List.getElem?_eq_some_iff.mp found
  have parts : fields = fields.take i ++ fields[i] :: fields.drop (i + 1) := by simp
  have total := congrArg (fun fields => (outers fields).length) parts
  simp only [outers_append, outers_cons, List.length_append] at total
  rw [place, table_length]
  omega

/-- The entry describes the field: where the value stands behind the table, its bytes are
    at the offset that the entry holds. -/
structure Describes (m : Memory) (base p : Nat) (f : Field) : Prop where
  tag : numberAt m p 2 = f.tag.toNat
  type : numberAt m (p + 2) 2 = f.type.code
  count : numberAt m (p + 4) 4 = f.count
  inside : f.outside = false → bytesAt m (p + 8) f.value.length = f.value
  outside : f.outside = true → bytesAt m (base + numberAt m (p + 8) 4) f.value.length = f.value

/-- The directory at an offset counts the fields, describes them one after the other and
    then names the next directory. -/
structure Directory (m : Memory) (base start : Nat) (fields : List Field) (next : Nat) : Prop where
  count : numberAt m (base + start) 2 = fields.length
  entry : ∀ i f, fields[i]? = some f → Describes m base (base + start + 2 + 12 * i) f
  next : numberAt m (base + start + 2 + 12 * fields.length) 4 = next

variable (holds : Holds m (base + start) (table start next fields))
include holds

section

variable (far : start + (table start next fields).length < 2 ^ 32) (found : fields[i]? = some f)
include far found

theorem table_offset_at (outside : f.outside = true) :
    numberAt m (base + start + 2 + 12 * i + 8) 4 = place start fields i := by
  have slot := table_slot_at holds found
  have bound := place_le start found next
  rw [Field.slot, if_pos outside] at slot
  apply numberAt_of_holds slot
  omega

theorem describes_of_holds : Describes m base (base + start + 2 + 12 * i) f := by
  have entry := table_entry_at holds found
  have small : f.count < 256 ^ 4 := by
    have counted := f.count_le
    have bound := place_le start found next
    cases outside : f.outside with
    | false =>
      have := f.small outside
      omega
    | true =>
      rw [Field.outer, if_pos outside] at bound
      omega
  constructor
  case tag => exact numberAt_of_holds entry.left.left.left (UInt16.toNat_lt f.tag)
  case type => exact numberAt_of_holds entry.left.left.right f.type.code_lt
  case count => exact numberAt_of_holds entry.left.right small
  case inside =>
    intro inside
    have slot := table_slot_at holds found
    rw [Field.slot, if_neg (by simp [inside])] at slot
    exact slot.left.bytesAt_eq
  case outside =>
    intro outside
    have value := table_value_at holds found
    rw [Field.outer, if_pos outside] at value
    rw [table_offset_at holds far found outside]
    exact value.bytesAt_eq

end

theorem directory_of_holds (few : fields.length < 2 ^ 16)
    (far : start + (table start next fields).length < 2 ^ 32) (named : next < 2 ^ 32) :
    Directory m base start fields next := by
  constructor
  case count => exact numberAt_of_holds holds.left.left.left few
  case entry =>
    intro i f found
    exact describes_of_holds holds far found
  case next =>
    have last := holds.left.right
    simp only [List.length_append, le_length, entries_length, ← Nat.add_assoc] at last
    exact numberAt_of_holds last named

end

section

structure Span where
  (start length : Nat)
  deriving DecidableEq, Repr

def Span.addresses (span : Span) : Set Nat := Set.Ico span.start (span.start + span.length)

def Tiles : Nat → Nat → List Span → Prop
  | lo, hi, [] => lo = hi
  | lo, hi, span :: rest => span.start = lo ∧ Tiles (lo + span.length) hi rest

theorem Tiles.within {lo hi : Nat} {spans : List Span} (tiles : Tiles lo hi spans) :
    lo ≤ hi ∧ ∀ span ∈ spans, lo ≤ span.start ∧ span.start + span.length ≤ hi := by
  induction spans generalizing lo with
  | nil => exact ⟨le_of_eq tiles, by simp⟩
  | cons first rest ih =>
    obtain ⟨start, tail⟩ := tiles
    obtain ⟨below, inside⟩ := ih tail
    constructor
    · omega
    · intro span member
      rcases List.mem_cons.mp member with rfl | later
      · omega
      · have := inside span later
        omega

theorem Tiles.disjoint {lo hi : Nat} {spans : List Span} (tiles : Tiles lo hi spans) :
    spans.Pairwise fun a b => Disjoint a.addresses b.addresses := by
  induction spans generalizing lo with
  | nil => exact List.Pairwise.nil
  | cons first rest ih =>
    obtain ⟨start, tail⟩ := tiles
    apply List.Pairwise.cons _ (ih tail)
    intro span later
    have inside := tail.within.2 span later
    rw [Span.addresses, Span.addresses, Set.Ico_disjoint_Ico]
    omega

theorem Tiles.append {lo mid hi : Nat} {front back : List Span} (first : Tiles lo mid front)
    (second : Tiles mid hi back) : Tiles lo hi (front ++ back) := by
  induction front generalizing lo with
  | nil =>
    obtain rfl : lo = mid := first
    exact second
  | cons span rest ih => exact ⟨first.1, ih first.2⟩

/-- The spans that the entries from an address on name for the values behind the table. -/
def valueSpans (m : Memory) (base : Nat) : Nat → List Field → List Span
  | _, [] => []
  | p, f :: rest =>
    (if f.outside then [⟨base + numberAt m (p + 8) 4, f.value.length⟩] else []) ++
      valueSpans m base (p + 12) rest

def directorySpans (m : Memory) (base start : Nat) (fields : List Field) : List Span :=
  ⟨base + start, 6 + 12 * fields.length⟩ :: valueSpans m base (base + start + 2) fields

variable {base start next p offset : Nat}

theorem valueSpans_tile (base : Nat) (holds : Holds m p (entries offset fields))
    (far : offset + (outers fields).length < 2 ^ 32) :
    Tiles (base + offset) (base + offset + (outers fields).length)
      (valueSpans m base p fields) := by
  induction fields generalizing p offset with
  | nil => simp [valueSpans, Tiles, outers]
  | cons f rest ih =>
    rw [outers_cons, List.length_append] at far ⊢
    have tail := holds.right
    rw [Field.entry_length] at tail
    have behind := ih tail (by omega)
    rw [← Nat.add_assoc] at behind ⊢
    apply Tiles.append _ behind
    cases outside : f.outside with
    | false => simp [Tiles, Field.outer, outside]
    | true =>
      have slot := holds.left.right
      rw [Field.slot, if_pos outside] at slot
      have named : numberAt m (p + 8) 4 = offset := numberAt_of_holds slot (by omega)
      simp [Tiles, Field.outer, outside, named]

theorem directorySpans_tile {stop : Nat} (holds : Holds m (base + start) (table start next fields))
    (ends : start + (table start next fields).length = stop) (far : stop < 2 ^ 32) :
    Tiles (base + start) (base + stop) (directorySpans m base start fields) := by
  have all := holds.left.left.right
  rw [le_length] at all
  rw [table_length] at ends
  have values := valueSpans_tile base all (by omega)
  constructor
  · rfl
  · change Tiles (base + start + (6 + 12 * fields.length)) _ _
    convert values using 1 <;> omega

end

structure Entry where
  (tag type count : Nat)
  value : List UInt8
  deriving DecidableEq, Repr

def Field.read (f : Field) : Entry := ⟨f.tag.toNat, f.type.code, f.count, f.value⟩

/-- A value of at most four bytes stands in the entry, a longer one at the entry's offset. -/
def readEntry (m : Memory) (base p : Nat) : Entry :=
  let type := numberAt m (p + 2) 2
  let count := numberAt m (p + 4) 4
  let length := count * typeSize type
  ⟨numberAt m p 2, type, count,
    bytesAt m (if length ≤ 4 then p + 8 else base + numberAt m (p + 8) 4) length⟩

def readDirectory (m : Memory) (base start : Nat) : List Entry :=
  (List.range (numberAt m (base + start) 2)).map fun i =>
    readEntry m base (base + start + 2 + 12 * i)

def nextDirectory (m : Memory) (base start : Nat) : Nat :=
  numberAt m (base + start + 2 + 12 * numberAt m (base + start) 2) 4

/-- If the value takes at most four bytes, it stands in the entry. -/
def KeepsSmall (m : Memory) (p : Nat) (f : Field) : Prop :=
  f.value.length ≤ 4 → bytesAt m (p + 8) f.value.length = f.value

variable {base start next p : Nat}

theorem readEntry_iff (described : Describes m base p f) :
    readEntry m base p = f.read ↔ KeepsSmall m p f := by
  have length : numberAt m (p + 4) 4 * typeSize (numberAt m (p + 2) 2) = f.value.length := by
    rw [described.type, described.count, typeSize_code, f.sized]
  rw [readEntry, Field.read, length, described.tag, described.type, described.count]
  simp only [Entry.mk.injEq, true_and, KeepsSmall]
  by_cases short : f.value.length ≤ 4
  · simp [short]
  · have outside : f.outside = true := by
      by_contra inside
      exact short (f.small (by simpa using inside))
    simp [short, described.outside outside]

variable (directory : Directory m base start fields next)
include directory

theorem readDirectory_iff :
    readDirectory m base start = fields.map Field.read ↔
      ∀ i f, fields[i]? = some f → KeepsSmall m (base + start + 2 + 12 * i) f := by
  rw [readDirectory, directory.count]
  constructor
  · intro same i f found
    have inside := (List.getElem?_eq_some_iff.mp found).1
    have here := congrArg (fun entries => entries[i]?) same
    simp only [List.getElem?_map, List.getElem?_range inside, found, Option.map_some,
      Option.some.injEq] at here
    exact (readEntry_iff (directory.entry i f found)).mp here
  · intro keeps
    apply List.ext_getElem
    · simp
    · intro i _ mapped
      have inside : i < fields.length := by simpa using mapped
      have found : fields[i]? = some fields[i] := List.getElem?_eq_getElem inside
      simp only [List.getElem_map, List.getElem_range]
      exact (readEntry_iff (directory.entry i _ found)).mpr (keeps i _ found)

theorem readDirectory_at {i : Nat} (found : fields[i]? = some f) :
    (readDirectory m base start)[i]? = some (readEntry m base (base + start + 2 + 12 * i)) := by
  have inside := (List.getElem?_eq_some_iff.mp found).1
  rw [readDirectory, directory.count, List.getElem?_map, List.getElem?_range inside, Option.map_some]

omit directory in
/-- A value that is written in the entry, or is longer than the entry's four bytes. -/
theorem Describes.keeps (described : Describes m base p f)
    (long : f.outside = true → 4 < f.value.length) : KeepsSmall m p f := by
  intro short
  apply described.inside
  by_contra outside
  have := long (by simpa using outside)
  omega

omit directory in
def lookup (tag : UInt16) (entries : List Entry) : Option Nat :=
  (entries.find? (·.tag = tag.toNat)).map fun entry => number entry.value

theorem readDirectory_tag {i : Nat} (found : fields[i]? = some f) :
    ∃ entry, (readDirectory m base start)[i]? = some entry ∧ entry.tag = f.tag.toNat :=
  ⟨_, readDirectory_at directory found, (directory.entry i f found).tag⟩

theorem lookup_none {tag : UInt16} (fresh : tag ∉ fields.map Field.tag) :
    lookup tag (readDirectory m base start) = none := by
  rw [lookup, Option.map_eq_none_iff, List.find?_eq_none]
  intro entry member same
  obtain ⟨i, here⟩ := List.mem_iff_getElem?.mp member
  have inside : i < fields.length := by
    have bound := (List.getElem?_eq_some_iff.mp here).1
    rw [readDirectory, List.length_map, List.length_range, directory.count] at bound
    exact bound
  obtain ⟨read, stands, tagged⟩ :=
    readDirectory_tag directory (List.getElem?_eq_getElem inside)
  rw [here, Option.some.injEq] at stands
  subst stands
  apply fresh
  have equal : fields[i].tag = tag := UInt16.toNat.inj (tagged.symm.trans (by simpa using same))
  rw [← equal]
  exact List.mem_map_of_mem (List.getElem_mem inside)

theorem lookup_read {i : Nat} (found : fields[i]? = some f) (inside : f.outside = false)
    (fresh : f.tag ∉ (fields.take i).map Field.tag) :
    lookup f.tag (readDirectory m base start) = some (number f.value) := by
  have described := directory.entry i f found
  have here : readEntry m base (base + start + 2 + 12 * i) = f.read :=
    (readEntry_iff described).mpr (described.keeps (by simp [inside]))
  have stands := readDirectory_at directory found
  rw [here] at stands
  obtain ⟨bound, entry⟩ := List.getElem?_eq_some_iff.mp stands
  have first : (readDirectory m base start).find? (·.tag = f.tag.toNat) = some f.read := by
    rw [List.find?_eq_some_iff_getElem]
    refine ⟨by simp [Field.read], i, bound, entry, ?_⟩
    intro j before
    have earlier : j < fields.length := by
      have := (List.getElem?_eq_some_iff.mp found).1
      omega
    obtain ⟨other, read, tagged⟩ := readDirectory_tag directory (List.getElem?_eq_getElem earlier)
    obtain ⟨_, value⟩ := List.getElem?_eq_some_iff.mp read
    rw [value, tagged]
    have differs : fields[j].tag ≠ f.tag := by
      intro same
      apply fresh
      rw [← same]
      apply List.mem_map_of_mem
      rw [List.mem_take_iff_getElem]
      exact ⟨j, by omega, rfl⟩
    have numbers : fields[j].tag.toNat ≠ f.tag.toNat := fun same => differs (UInt16.toNat.inj same)
    simp [numbers]
  rw [lookup, first]
  rfl

theorem Directory.nextDirectory_eq : nextDirectory m base start = next := by
  rw [nextDirectory, directory.count]
  exact directory.next

end TiffDirectories
