import SamsungHardware.EdidParsing.ReadBounds

/- The layout of an EDID that the queries stay inside of. The 3D search, which depends on the
   request in every turn, is not one of them. -/
namespace QueryBounds
open ReadPrograms VideoFormats EdidQueries EdidStructure EdidLibrary ReadBounds List

variable {behind : Nat → EdidParams} {m : Place → UInt8} {n : Nat}

structure BaseInside (d : Nat → UInt8) (n : Nat) : Prop where
  videos : ∀ e ∈ extensions n, ∀ p ∈ blocks d e, p < size n ∧ VideoInside d n p
  vendors : VendorsInside d n
  timings : ∀ e ∈ extensions n, ∀ i ∈ timingsOf d e, TimingInside d n i

theorem ne_zero_of_extension {e : Nat} (extension : e ∈ extensions n) : e ≠ 0 := by
  have range := mem_range'_1.mp extension
  omega

theorem BaseInside.isContainVideoDTD (base : BaseInside (bytes m) n) {e : Nat} (known : e ≤ n)
    (format : VideoFormat) : (isContainVideoDTD behind n e format).Stays m (Inside n) := by
  refine (stays_isContainVideoDTD known format).mpr ?_
  intro i reaches
  have member := mem_of_reached reaches
  by_cases first : e = 0
  · subst first
    exact base_timings_inside (bytes m) i member
  · rw [timingPositions, if_neg first] at member
    have extension : e ∈ extensions n := mem_range'_1.mpr (by omega)
    exact base.timings e extension i member

variable (behind : Nat → EdidParams) (out : Outside) (lib : Library)

/-- The reads of each function for all its arguments. -/
structure ReadsInside : Prop where
  getVSDBOffset : ∀ e ∈ extensions lib.gExtensions,
    (getVSDBOffset lib.gExtensions e).Stays (memory out lib) (Inside lib.gExtensions)
  isContainVIC : ∀ e ∈ extensions lib.gExtensions, ∀ vic,
    (isContainVIC lib.gExtensions e vic).Stays (memory out lib) (Inside lib.gExtensions)
  isContainVideoDTD : ∀ e ≤ lib.gExtensions, ∀ format,
    (isContainVideoDTD behind lib.gExtensions e format).Stays (memory out lib)
      (Inside lib.gExtensions)
  saveVIC : (saveVIC lib.gExtensions).Stays (memory out lib) (Inside lib.gExtensions)
  savedVICs : (lib.value out (EdidQueries.saveVIC lib.gExtensions)).length ≤ numOfVicFor3D
  checkColorimetry : ∀ color,
    (checkColorimetry lib.gExtensions color).Stays (memory out lib) (Inside lib.gExtensions)
  checkColorDepth : ∀ depth space,
    (checkColorDepth lib.gExtensions depth space).Stays (memory out lib) (Inside lib.gExtensions)
  getMaxTMDS : (getMaxTMDS lib.gExtensions).Stays (memory out lib) (Inside lib.gExtensions)
  edidGetCECPhysicalAddress :
    (edidGetCECPhysicalAddress lib.gExtensions).Stays (memory out lib) (Inside lib.gExtensions)
  edidAudioModeSupport : ∀ audio,
    (edidAudioModeSupport lib.gExtensions audio).Stays (memory out lib) (Inside lib.gExtensions)

/-- Where the parts of the EDID have to be. -/
structure Layout : Prop extends BaseInside (bytes (memory out lib)) lib.gExtensions where
  fields : ∀ k ∈ [5, 6, 7], FieldInside (bytes (memory out lib)) lib.gExtensions k
  colors : BlocksInside (bytes (memory out lib)) lib.gExtensions
    (colorimetryBlock (bytes (memory out lib))) (ColorInside (bytes (memory out lib)) lib.gExtensions)
  audio : ∀ request, BlocksInside (bytes (memory out lib)) lib.gExtensions
    (fun p => (audioBlock (bytes (memory out lib)) request p).isSome)
    (AudioInside (bytes (memory out lib)) lib.gExtensions request)

variable {behind out lib}

theorem blocksInside_headers {d : Nat → UInt8} {n : Nat} {stops : Nat → Bool} {Ok : Nat → Prop}
    (base : BaseInside d n) :
    (BlocksInside d n stops fun p => p < size n ∧ Ok p) ↔ BlocksInside d n stops Ok := by
  refine forall_congr' fun e => forall_congr' fun reaches => forall_congr' fun _ =>
    forall_congr' fun p => forall_congr' fun member => ?_
  exact and_iff_right (base.videos e (mem_of_reached reaches) p (mem_of_reached member)).1

theorem ReadsInside.base (reads : ReadsInside behind out lib) :
    BaseInside (bytes (memory out lib)) lib.gExtensions := by
  constructor
  · intro e extension
    exact inside_of_isContainVIC (le_of_extension extension) (reads.isContainVIC e extension 128)
  · intro e extension
    exact (stays_getVSDBOffset (le_of_extension extension)).mp (reads.getVSDBOffset e extension)
  · intro e extension
    have known := le_of_extension extension
    exact inside_of_isContainVideoDTD known (ne_zero_of_extension extension)
      (reads.isContainVideoDTD e known)

theorem ReadsInside.layout (reads : ReadsInside behind out lib) : Layout out lib := by
  have base := reads.base
  refine { base with fields := ?_, colors := ?_, audio := ?_ }
  · intro k member
    simp only [mem_cons, not_mem_nil, or_false] at member
    rcases member with rfl | rfl | rfl
    · exact (stays_edidGetCECPhysicalAddress base.vendors).mp reads.edidGetCECPhysicalAddress
    · have depth := reads.checkColorDepth .cd36 .rgb
      unfold EdidQueries.checkColorDepth at depth
      rw [if_neg (by decide), stays_bind] at depth
      exact (stays_vsdbField base.vendors 6).mp depth.1
    · have clock := reads.getMaxTMDS
      unfold EdidQueries.getMaxTMDS at clock
      rw [stays_bind] at clock
      exact (stays_vsdbField base.vendors 7).mp clock.1
  · have color := reads.checkColorimetry .extendedXvYCC601
    rw [stays_checkColorimetry base.vendors] at color
    exact (blocksInside_headers base).mp (color (by decide))
  · intro request
    have audio := reads.edidAudioModeSupport request
    rw [stays_edidAudioModeSupport base.vendors] at audio
    exact (blocksInside_headers base).mp audio

theorem Layout.reads (layout : Layout out lib) : ReadsInside behind out lib := by
  have base := layout.toBaseInside
  constructor
  · intro e extension
    exact stays_vsdb base.vendors extension
  · intro e extension vic
    exact stays_isContainVIC (le_of_extension extension) (base.videos e extension)
  · intro e known format
    exact base.isContainVideoDTD known format
  · exact stays_saveVIC base.videos
  · exact saveVIC_length
  · intro color
    refine (stays_checkColorimetry base.vendors color).mpr fun _ => ?_
    exact (blocksInside_headers base).mpr layout.colors
  · intro depth space
    refine (stays_ite _ _ _ _).mpr ?_
    split
    · exact stays_pure _ _ _
    · rw [stays_bind, stays_vsdbField base.vendors]
      exact ⟨layout.fields 6 (by decide), stays_pure _ _ _⟩
  · unfold EdidQueries.getMaxTMDS
    rw [stays_bind, stays_vsdbField base.vendors]
    exact ⟨layout.fields 7 (by decide), stays_pure _ _ _⟩
  · exact (stays_edidGetCECPhysicalAddress base.vendors).mpr (layout.fields 5 (by decide))
  · intro request
    rw [stays_edidAudioModeSupport base.vendors]
    exact (blocksInside_headers base).mpr (layout.audio request)

/-- Every read stays inside of the EDID exactly when its parts are where they have to be. -/
theorem reads_inside_iff_layout (behind : Nat → EdidParams) (out : Outside) (lib : Library) :
    ReadsInside behind out lib ↔ Layout out lib :=
  ⟨ReadsInside.layout, Layout.reads⟩

def oddTimings : Outside :=
  sinkWith [2, 3, 19, 0, 0x44, 1, 4, 5, 16, 0x65, 3, 0x0C, 0, 0x10, 0, 0x83, 1, 0, 0]

/-- The clock of the last position of the timing loop is read one byte behind the data. -/
example :
    (edidRead oddTimings initial).2 = true ∧ (edidRead oddTimings initial).1.gExtensions = 1 ∧
    Place.data 256 ∈ (isContainVideoDTD nothingBehind 1 1 .v1280x720p60Hz).trace
      (memory oddTimings (edidRead oddTimings initial).1) ∧
    ¬ Inside 1 (.data 256) := by
  refine ⟨?_, ?_, ?_, ?_⟩
  · decide +kernel
  · decide +kernel
  · decide +kernel
  · exact Nat.lt_irrefl 256

end QueryBounds
