import AlsaDriver.Lib.Digits
import AlsaDriver.Lib.Stores

namespace AlsaDriver.Pcm

open Digits Stores

/-- The linear formats of `snd_pcm_format_t`. -/
inductive LinearFormat where
  | S8 | U8 | S16_LE | S16_BE | U16_LE | U16_BE | S24_LE | S24_BE | U24_LE | U24_BE | S32_LE | S32_BE | U32_LE | U32_BE
  | DSD_U8 | DSD_U16_LE | S24_3LE | S24_3BE | U24_3LE | U24_3BE | S20_3LE | S20_3BE | U20_3LE | U20_3BE
  | S18_3LE | S18_3BE | U18_3LE | U18_3BE
  deriving DecidableEq, Repr

/-- `struct pcm_format_data`: `le` is 1, 0 or -1 where the format has no byte order. -/
structure PcmFormatData where
  width : Nat
  phys : Nat
  le : Int
  signd : Nat
  silence : List Byte

open LinearFormat in
/-- The entries of `pcm_formats`. -/
def pcmFormats : LinearFormat → PcmFormatData
  | S8 => ⟨8, 8, -1, 1, []⟩
  | U8 => ⟨8, 8, -1, 0, [0x80]⟩
  | S16_LE => ⟨16, 16, 1, 1, []⟩
  | S16_BE => ⟨16, 16, 0, 1, []⟩
  | U16_LE => ⟨16, 16, 1, 0, [0x00, 0x80]⟩
  | U16_BE => ⟨16, 16, 0, 0, [0x80, 0x00]⟩
  | S24_LE => ⟨24, 32, 1, 1, []⟩
  | S24_BE => ⟨24, 32, 0, 1, []⟩
  | U24_LE => ⟨24, 32, 1, 0, [0x00, 0x00, 0x80]⟩
  | U24_BE => ⟨24, 32, 0, 0, [0x00, 0x80, 0x00, 0x00]⟩
  | S32_LE => ⟨32, 32, 1, 1, []⟩
  | S32_BE => ⟨32, 32, 0, 1, []⟩
  | U32_LE => ⟨32, 32, 1, 0, [0x00, 0x00, 0x00, 0x80]⟩
  | U32_BE => ⟨32, 32, 0, 0, [0x80, 0x00, 0x00, 0x00]⟩
  | DSD_U8 => ⟨8, 8, 1, 0, []⟩
  | DSD_U16_LE => ⟨16, 16, 1, 0, []⟩
  | S24_3LE => ⟨24, 24, 1, 1, []⟩
  | S24_3BE => ⟨24, 24, 0, 1, []⟩
  | U24_3LE => ⟨24, 24, 1, 0, [0x00, 0x00, 0x80]⟩
  | U24_3BE => ⟨24, 24, 0, 0, [0x80, 0x00, 0x00]⟩
  | S20_3LE => ⟨20, 24, 1, 1, []⟩
  | S20_3BE => ⟨20, 24, 0, 1, []⟩
  | U20_3LE => ⟨20, 24, 1, 0, [0x00, 0x00, 0x08]⟩
  | U20_3BE => ⟨20, 24, 0, 0, [0x08, 0x00, 0x00]⟩
  | S18_3LE => ⟨18, 24, 1, 1, []⟩
  | S18_3BE => ⟨18, 24, 0, 1, []⟩
  | U18_3LE => ⟨18, 24, 1, 0, [0x00, 0x00, 0x02]⟩
  | U18_3BE => ⟨18, 24, 0, 0, [0x02, 0x00, 0x00]⟩

namespace LinearFormat

variable (format : LinearFormat)

def width : Nat := (pcmFormats format).width

def physicalWidth : Nat := (pcmFormats format).phys

def littleEndian : Bool := decide ((pcmFormats format).le > 0)

def signed : Bool := (pcmFormats format).signd == 1

/-- A byte of `snd_pcm_format_silence_64`. -/
def silence (i : Nat) : Byte := (pcmFormats format).silence.getD i 0

end LinearFormat

inductive Host where
  | little
  | big
  deriving DecidableEq, Repr

namespace Host

/-- The word whose bytes in memory are `p`. -/
def word : Host → (Nat → Byte) → BitVec 32
  | little, p => p 3 ++ p 2 ++ p 1 ++ p 0
  | big, p => p 0 ++ p 1 ++ p 2 ++ p 3

def bytes (host : Host) (tmp : BitVec 32) (i : Nat) : Byte :=
  match host with
  | little => tmp.extractLsb' (8 * i) 8
  | big => tmp.extractLsb' (8 * (3 - i)) 8

end Host

def swab32 (x : BitVec 32) : BitVec 32 :=
  x.extractLsb' 0 8 ++ x.extractLsb' 8 8 ++ x.extractLsb' 16 8 ++ x.extractLsb' 24 8

def cpuToLe32 : Host → BitVec 32 → BitVec 32
  | .little, x => x
  | .big, x => swab32 x

def cpuToBe32 : Host → BitVec 32 → BitVec 32
  | .little, x => swab32 x
  | .big, x => x

structure LinearPriv where
  cvtEndian : Bool
  srcOfs : Nat
  dstOfs : Nat
  copyOfs : Nat
  dstBytes : Nat
  copyBytes : Nat
  flip : BitVec 32

/-- `init_data`, of a record that is zero before. -/
def initData (host : Host) (srcFormat dstFormat : LinearFormat) : LinearPriv :=
  let srcBytes := srcFormat.width / 8
  let dstBytes := dstFormat.width / 8
  let srcLe := srcFormat.littleEndian
  let dstLe := dstFormat.littleEndian
  let copyBytes := if srcBytes < dstBytes then srcBytes else dstBytes
  { dstBytes
    cvtEndian := srcLe != dstLe
    copyBytes
    copyOfs := if srcLe then 4 - copyBytes else 0
    srcOfs := if srcLe then srcBytes - copyBytes else srcFormat.physicalWidth / 8 - srcBytes
    dstOfs := if dstLe then 4 - dstBytes else dstFormat.physicalWidth / 8 - dstBytes
    flip :=
      if srcFormat.signed ≠ dstFormat.signed then
        if dstLe then cpuToLe32 host 0x80000000 else cpuToBe32 host 0x80000000
      else 0 }

/-- The bytes that `do_convert` copies to `dst`. -/
def doConvert (host : Host) (data : LinearPriv) (source : Nat → Byte) (src : Nat) : Nat → Byte :=
  let tmp := host.word (store (fun _ => 0) data.copyOfs data.copyBytes fun i => source (src + data.srcOfs + i))
  let tmp := if data.cvtEndian then swab32 tmp else tmp
  let tmp := tmp ^^^ data.flip
  fun i => host.bytes tmp (data.dstOfs + i)

/-- `struct snd_pcm_channel_area`: `first` and `step` are counted in bits. -/
structure PcmChannelArea where
  addr : Nat
  first : Nat
  step : Nat

def PcmChannelArea.at (area : PcmChannelArea) (frame : Nat) : Nat := area.addr + area.first / 8 + frame * (area.step / 8)

structure PluginChannel where
  area : PcmChannelArea
  frames : Nat
  enabled : Bool
  wanted : Bool

def formatSetSilence (format : LinearFormat) (data samples : Nat) (mem : Nat → Byte) : Nat → Byte :=
  let bytes := samples * format.physicalWidth / 8
  if format.signed ∨ format.physicalWidth ≤ 8 then store mem data bytes fun _ => format.silence 0
  else store mem data bytes fun i => format.silence (i % (format.physicalWidth / 8))

/-- `snd_pcm_area_silence` from the first frame of the area on. -/
def areaSilence (area : PcmChannelArea) (samples : Nat) (format : LinearFormat) (mem : Nat → Byte) : Nat → Byte :=
  if area.addr = 0 then mem
  else if area.step = format.physicalWidth ∧ format.physicalWidth ≥ 8 then
    formatSetSilence format (area.addr + area.first / 8) samples mem
  else
    (List.range samples).foldl
      (fun mem frame => store mem (area.at frame) (format.physicalWidth / 8) format.silence) mem

def convertFrames (host : Host) (data : LinearPriv) (source : Nat → Byte) (src dst : PcmChannelArea) (frames : Nat)
    (mem : Nat → Byte) : Nat → Byte :=
  (List.range frames).foldl
    (fun mem frame => store mem (dst.at frame) data.dstBytes (doConvert host data source (src.at frame))) mem

/-- What the body of the loop of `convert` does to the memory. -/
def convertMem (host : Host) (data : LinearPriv) (dstFormat : LinearFormat) (source : Nat → Byte) (src dst : PluginChannel)
    (frames : Nat) (mem : Nat → Byte) : Nat → Byte :=
  if src.enabled then convertFrames host data source src.area dst.area frames mem
  else if dst.wanted then areaSilence dst.area frames dstFormat mem
  else mem

/-- The body of the loop of `convert` over the channels. -/
def convertChannel (host : Host) (data : LinearPriv) (dstFormat : LinearFormat) (source : Nat → Byte)
    (src : Nat → PluginChannel) (frames : Nat) (s : (Nat → PluginChannel) × (Nat → Byte)) (channel : Nat) :
    (Nat → PluginChannel) × (Nat → Byte) :=
  (fun c => if c = channel then { s.1 channel with enabled := (src channel).enabled } else s.1 c,
    convertMem host data dstFormat source (src channel) (s.1 channel) frames s.2)

def convert (host : Host) (data : LinearPriv) (dstFormat : LinearFormat) (channels : Nat) (source : Nat → Byte)
    (src : Nat → PluginChannel) (frames : Nat) (s : (Nat → PluginChannel) × (Nat → Byte)) :
    (Nat → PluginChannel) × (Nat → Byte) :=
  (List.range channels).foldl (convertChannel host data dstFormat source src frames) s

def ENXIO : Int := 6

def PluginChannel.aligned (channel : PluginChannel) : Bool :=
  channel.area.first % 8 == 0 && channel.area.step % 8 == 0

/-- `linear_transfer` of a plugin for two formats; `debug` tells whether the areas are checked. -/
def linearTransfer (host : Host) (debug : Bool) (srcFormat dstFormat : LinearFormat) (channels : Nat) (source : Nat → Byte)
    (src : Nat → PluginChannel) (frames : Nat) (s : (Nat → PluginChannel) × (Nat → Byte)) :
    Int × (Nat → PluginChannel) × (Nat → Byte) :=
  if frames = 0 then (0, s)
  else if debug ∧ ¬ (List.range channels).all fun c => (src c).aligned && (s.1 c).aligned then ( - ENXIO, s)
  else (frames, convert host (initData host srcFormat dstFormat) dstFormat channels source src frames s)

end AlsaDriver.Pcm

namespace AlsaDriver.Pcm

open Digits Stores

namespace LinearFormat

variable (format : LinearFormat)

def digits (mem : Nat → Byte) (a k : Nat) : Byte :=
  if format.littleEndian then mem (a + (format.physicalWidth / 8 - 1 - k)) else mem (a + k)

def sample (mem : Nat → Byte) (a : Nat) : Nat := value (format.physicalWidth / 8) (format.digits mem a) % 2 ^ format.width

theorem sizes : 8 ≤ format.width ∧ format.width ≤ format.physicalWidth ∧ format.physicalWidth ≤ 32 ∧
    format.physicalWidth % 8 = 0 := by
  cases format <;> decide

def byte (mem : Nat → Byte) (a k : Nat) : Byte :=
  if format.littleEndian then mem (a + (format.width / 8 - 1 - k))
  else mem (a + (format.physicalWidth / 8 - format.width / 8 + k))

end LinearFormat

def convertSample (s d : LinearFormat) (x : Nat) : Nat :=
  let y := x * 2 ^ d.width / 2 ^ s.width
  if s.signed = d.signed then y else (y + 2 ^ (d.width - 1)) % 2 ^ d.width

namespace Host

variable (host : Host)

theorem extract_append (a b c d : Byte) {i : Nat} (small : i < 4) : (a ++ b ++ c ++ d).extractLsb' (8 * i) 8 =
    if i = 0 then d else if i = 1 then c else if i = 2 then b else a := by
  have index : i = 0 ∨ i = 1 ∨ i = 2 ∨ i = 3 := by omega
  apply BitVec.eq_of_getLsbD_eq
  intro j inside
  rw [BitVec.getLsbD_extractLsb', BitVec.getLsbD_append, BitVec.getLsbD_append, BitVec.getLsbD_append]
  grind

theorem bytes_word (p : Nat → Byte) {i : Nat} (small : i < 4) : host.bytes (host.word p) i = p i := by
  have index : i = 0 ∨ i = 1 ∨ i = 2 ∨ i = 3 := by omega
  cases host with
  | little =>
    rw [bytes, word, extract_append _ _ _ _ small]
    rcases index with rfl | rfl | rfl | rfl <;> rfl
  | big =>
    rw [bytes, word, extract_append _ _ _ _ (by omega)]
    rcases index with rfl | rfl | rfl | rfl <;> rfl

theorem bytes_swab32 (x : BitVec 32) {i : Nat} (small : i < 4) : host.bytes (swab32 x) i = host.bytes x (3 - i) := by
  have index : i = 0 ∨ i = 1 ∨ i = 2 ∨ i = 3 := by omega
  cases host with
  | little =>
    rw [bytes, swab32, extract_append _ _ _ _ small]
    rcases index with rfl | rfl | rfl | rfl <;> rfl
  | big =>
    rw [bytes, swab32, extract_append _ _ _ _ (by omega)]
    rcases index with rfl | rfl | rfl | rfl <;> rfl

theorem bytes_xor (x y : BitVec 32) (i : Nat) : host.bytes (x ^^^ y) i = host.bytes x i ^^^ host.bytes y i := by
  cases host <;> exact BitVec.extractLsb'_xor

theorem bytes_zero (i : Nat) : host.bytes 0 i = 0 := by
  cases host <;> simp [bytes]

theorem bytes_le32 {i : Nat} (small : i < 4) : host.bytes (cpuToLe32 host 0x80000000) i = if i = 3 then 0x80 else 0 := by
  have index : i = 0 ∨ i = 1 ∨ i = 2 ∨ i = 3 := by omega
  cases host <;> rcases index with rfl | rfl | rfl | rfl <;> decide

theorem bytes_be32 {i : Nat} (small : i < 4) : host.bytes (cpuToBe32 host 0x80000000) i = if i = 0 then 0x80 else 0 := by
  have index : i = 0 ∨ i = 1 ∨ i = 2 ∨ i = 3 := by omega
  cases host <;> rcases index with rfl | rfl | rfl | rfl <;> decide

end Host

variable {host : Host} {s d : LinearFormat} {source : Nat → Byte} {src k : Nat}

theorem initData_copyBytes : (initData host s d).copyBytes = min (s.width / 8) (d.width / 8) := by
  show (if s.width / 8 < d.width / 8 then s.width / 8 else d.width / 8) = _
  split <;> omega

theorem copied (host : Host) (small : k < 4) :
    store (fun _ => 0) (initData host s d).copyOfs (initData host s d).copyBytes
      (fun i => source (src + (initData host s d).srcOfs + i)) (if s.littleEndian then 3 - k else k) =
        justify (min (s.width / 8) (d.width / 8)) (s.byte source src) k := by
  obtain ⟨low, inside, high, whole⟩ := s.sizes
  have first : (initData host s d).copyOfs = if s.littleEndian then 4 - (initData host s d).copyBytes else 0 := rfl
  have ofs : (initData host s d).srcOfs = if s.littleEndian then s.width / 8 - (initData host s d).copyBytes
      else s.physicalWidth / 8 - s.width / 8 := rfl
  rw [first, ofs, initData_copyBytes]
  generalize limit : min (s.width / 8) (d.width / 8) = taken
  have few : taken ≤ s.width / 8 := limit ▸ min_le_left ..
  unfold justify store
  cases le : s.littleEndian with
  | true =>
    simp only [if_true]
    by_cases used : k < taken
    · rw [if_pos (by omega), if_pos used, LinearFormat.byte, if_pos le]
      congr 1
      omega
    · rw [if_neg (by omega), if_neg used]
  | false =>
    simp only [Bool.false_eq_true, if_false]
    by_cases used : k < taken
    · rw [if_pos (by omega), if_pos used, LinearFormat.byte, if_neg (by simp [le])]
      congr 1
      omega
    · rw [if_neg (by omega), if_neg used]

theorem converted (small : k < 4) :
    let data := initData host s d
    let tmp := host.word (store (fun _ => 0) data.copyOfs data.copyBytes fun i => source (src + data.srcOfs + i))
    host.bytes (if data.cvtEndian then swab32 tmp else tmp) (if d.littleEndian then 3 - k else k) =
      justify (min (s.width / 8) (d.width / 8)) (s.byte source src) k := by
  dsimp only
  rw [← copied host small]
  have swap : (initData host s d).cvtEndian = (s.littleEndian != d.littleEndian) := rfl
  rw [swap]
  cases s.littleEndian <;> cases d.littleEndian
  · exact host.bytes_word _ small
  · show host.bytes (swab32 (host.word _)) (3 - k) = store _ _ _ _ k
    rw [host.bytes_swab32 _ (by omega), host.bytes_word _ (by omega), Nat.sub_sub_self (by omega)]
  · show host.bytes (swab32 (host.word _)) k = store _ _ _ _ (3 - k)
    rw [host.bytes_swab32 _ small, host.bytes_word _ (by omega)]
  · exact host.bytes_word _ (show 3 - k < 4 by omega)

theorem flipped (small : k < 4) : host.bytes (initData host s d).flip (if d.littleEndian then 3 - k else k) =
    if s.signed ≠ d.signed ∧ k = 0 then 0x80 else 0 := by
  have flip : (initData host s d).flip = if s.signed ≠ d.signed then
      if d.littleEndian then cpuToLe32 host 0x80000000 else cpuToBe32 host 0x80000000 else 0 := rfl
  rw [flip]
  by_cases signs : s.signed = d.signed
  · have plain : (if s.signed ≠ d.signed ∧ k = 0 then (0x80 : Byte) else 0) = 0 := if_neg fun both => both.1 signs
    rw [if_neg (not_not.mpr signs), plain]
    exact host.bytes_zero _
  · rw [if_pos signs]
    cases d.littleEndian
    · refine (host.bytes_be32 small).trans ?_
      simp [signs]
    · refine (host.bytes_le32 (show 3 - k < 4 by omega)).trans ?_
      simp only [ne_eq, signs, not_false_eq_true, true_and]
      have same : 3 - k = 3 ↔ k = 0 := by omega
      simp only [same]

def storedByte (s d : LinearFormat) (source : Nat → Byte) (src : Nat) : Nat → Byte :=
  if s.signed = d.signed then justify (s.width / 8) (s.byte source src)
  else flipTop (justify (s.width / 8) (s.byte source src))

def Shifted (d : LinearFormat) : Prop := d.littleEndian = false ∧ d.physicalWidth ≠ d.width

theorem doConvert_eq (host : Host) (small : k < d.width / 8) (tight : ¬ Shifted d) :
    doConvert host (initData host s d) source src (if d.littleEndian then d.width / 8 - 1 - k else k) =
      storedByte s d source src k := by
  obtain ⟨low, inside, high, whole⟩ := d.sizes
  have index : (initData host s d).dstOfs + (if d.littleEndian then d.width / 8 - 1 - k else k) =
      if d.littleEndian then 3 - k else k := by
    have ofs : (initData host s d).dstOfs = if d.littleEndian then 4 - d.width / 8 else d.physicalWidth / 8 - d.width / 8 :=
      rfl
    rw [ofs]
    cases le : d.littleEndian with
    | true =>
      show 4 - d.width / 8 + (d.width / 8 - 1 - k) = 3 - k
      omega
    | false =>
      have same : d.physicalWidth = d.width := Decidable.not_not.mp fun differ => tight ⟨le, differ⟩
      show d.physicalWidth / 8 - d.width / 8 + k = k
      omega
  have taken : justify (min (s.width / 8) (d.width / 8)) (s.byte source src) k = justify (s.width / 8) (s.byte source src) k := by
    simp [justify, small]
  unfold doConvert
  rw [index, host.bytes_xor, converted (by omega), flipped (by omega), taken]
  unfold storedByte
  by_cases signs : s.signed = d.signed
  · simp [signs]
  · simp only [signs, ne_eq, not_false_eq_true, true_and, if_false, flipTop]
    split
    · rfl
    · exact BitVec.xor_zero

namespace LinearFormat

variable {format : LinearFormat} {mem : Nat → Byte} {a : Nat}

theorem sample_eq (bytes : format.width % 8 = 0) : format.sample mem a = value (format.width / 8) (format.byte mem a) := by
  obtain ⟨low, inside, high, whole⟩ := format.sizes
  obtain ⟨pad, split⟩ := Nat.exists_eq_add_of_le (Nat.div_le_div_right (c := 8) inside)
  have power : 2 ^ format.width = 256 ^ (format.width / 8) := by
    rw [show 256 = 2 ^ 8 by rfl, ← Nat.pow_mul]
    congr 1
    omega
  unfold sample
  rw [split, Nat.add_comm, power, value_mod]
  apply value_congr
  intro k small
  unfold digits byte
  cases format.littleEndian
  · simp only [Bool.false_eq_true, if_false]
    congr 1
    omega
  · simp only [if_true]
    congr 1
    omega

end LinearFormat

theorem sample_converted {mem : Nat → Byte} {a : Nat} (bytes : s.width % 8 = 0) (bytes' : d.width % 8 = 0)
    (tight : ¬ Shifted d) (holds : ∀ i < d.width / 8, mem (a + i) = doConvert host (initData host s d) source src i) :
    d.sample mem a = convertSample s d (s.sample source src) := by
  obtain ⟨low, inside, high, whole⟩ := d.sizes
  have power (f : LinearFormat) (bytes : f.width % 8 = 0) : 2 ^ f.width = 256 ^ (f.width / 8) := by
    rw [show 256 = 2 ^ 8 by rfl, ← Nat.pow_mul]
    congr 1
    omega
  have digits : value (d.width / 8) (d.byte mem a) = value (d.width / 8) (storedByte s d source src) := by
    apply value_congr
    intro k small
    rw [← doConvert_eq host small tight]
    unfold LinearFormat.byte
    cases le : d.littleEndian with
    | true => exact holds (d.width / 8 - 1 - k) (by omega)
    | false =>
      have same : d.physicalWidth = d.width := Decidable.not_not.mp fun differ => tight ⟨le, differ⟩
      rw [same, Nat.sub_self, Nat.zero_add]
      exact holds k small
  rw [LinearFormat.sample_eq bytes', digits, LinearFormat.sample_eq bytes]
  unfold storedByte convertSample
  rw [power s bytes, power d bytes']
  by_cases signs : s.signed = d.signed
  · rw [if_pos signs, if_pos signs]
    exact value_justify ..
  · obtain ⟨n, size⟩ := Nat.exists_eq_succ_of_ne_zero (show d.width / 8 ≠ 0 by omega)
    have top : 2 ^ (d.width - 1) = 128 * 256 ^ n := by
      rw [show 256 = 2 ^ 8 by rfl, show 128 = 2 ^ 7 by rfl, ← Nat.pow_mul, ← Nat.pow_add]
      congr 1
      omega
    rw [if_neg signs, if_neg signs, top, size, Nat.succ_eq_add_one, value_flipTop, value_justify]

variable {data : LinearPriv} {from_ to_ : PluginChannel} {frames x : Nat} {mem : Nat → Byte}

theorem convertMem_outside (few : data.dstBytes ≤ d.physicalWidth / 8)
    (outside : ∀ f < frames, x < to_.area.at f ∨ to_.area.at f + d.physicalWidth / 8 ≤ x) :
    convertMem host data d source from_ to_ frames mem x = mem x := by
  obtain ⟨low, inside, high, whole⟩ := d.sizes
  unfold convertMem
  split
  · apply foldl_outside
    intro f listed mem
    exact store_outside _ ((outside f (List.mem_range.mp listed)).imp_right (by omega))
  split
  · unfold areaSilence
    split
    · rfl
    split
    · rename_i dense
      have at_ : ∀ f, to_.area.at f = to_.area.addr + to_.area.first / 8 + f * (d.physicalWidth / 8) :=
        fun f => by rw [PcmChannelArea.at, dense.1]
      have size : frames * d.physicalWidth / 8 = frames * (d.physicalWidth / 8) := by
        obtain ⟨p, phys⟩ := Nat.dvd_of_mod_eq_zero whole
        rw [phys, Nat.mul_left_comm, Nat.mul_div_cancel_left _ (by decide), Nat.mul_div_cancel_left _ (by decide)]
      have clear : x < to_.area.addr + to_.area.first / 8 ∨
          to_.area.addr + to_.area.first / 8 + frames * (d.physicalWidth / 8) ≤ x := by
        by_contra covered
        obtain ⟨start, stop⟩ := not_or.mp covered
        obtain ⟨offset, rfl⟩ := Nat.exists_eq_add_of_le (Nat.not_lt.mp start)
        have within : offset < frames * (d.physicalWidth / 8) := by omega
        have frame := outside (offset / (d.physicalWidth / 8)) ((Nat.div_lt_iff_lt_mul (by omega)).mpr within)
        have parts := Nat.div_add_mod' offset (d.physicalWidth / 8)
        have rest := Nat.mod_lt offset (show 0 < d.physicalWidth / 8 by omega)
        rw [at_] at frame
        omega
      unfold formatSetSilence
      rw [size]
      split
      · exact store_outside _ clear
      · exact store_outside _ clear
    · apply foldl_outside
      intro f listed mem
      exact store_outside _ (outside f (List.mem_range.mp listed))
  · rfl

theorem convertMem_inside {f i : Nat} (enabled : from_.enabled = true) (frame : f < frames) (byte : i < data.dstBytes)
    (outside : ∀ g < frames, g ≠ f → to_.area.at f + i < to_.area.at g ∨ to_.area.at g + data.dstBytes ≤ to_.area.at f + i) :
    convertMem host data d source from_ to_ frames mem (to_.area.at f + i) =
      doConvert host data source (from_.area.at f) i := by
  unfold convertMem
  rw [if_pos enabled]
  apply foldl_sets (List.mem_range.mpr frame)
  · intro g listed other mem
    exact store_outside _ (outside g (List.mem_range.mp listed) other)
  · intro mem
    exact store_inside _ byte

theorem convert_mem {channels : Nat} {ins outs : Nat → PluginChannel} :
    (convert host data d channels source ins frames (outs, mem)).2 =
      (List.range channels).foldl (fun mem c => convertMem host data d source (ins c) (outs c) frames mem) mem := by
  have loop : ∀ (l : List Nat) (s : (Nat → PluginChannel) × (Nat → Byte)),
      (∀ c, (s.1 c).area = (outs c).area ∧ (s.1 c).wanted = (outs c).wanted) →
        (l.foldl (convertChannel host data d source ins frames) s).2 =
          l.foldl (fun mem c => convertMem host data d source (ins c) (outs c) frames mem) s.2 := by
    intro l
    induction l with
    | nil => exact fun s _ => rfl
    | cons c rest ih =>
      intro s same
      have first : (convertChannel host data d source ins frames s c).2 =
          convertMem host data d source (ins c) (outs c) frames s.2 := by
        show convertMem host data d source (ins c) (s.1 c) frames s.2 = _
        unfold convertMem
        rw [(same c).1, (same c).2]
      rw [List.foldl_cons, List.foldl_cons, ← first]
      apply ih
      intro c'
      by_cases here : c' = c
      · subst here
        simpa [convertChannel] using same c'
      · simpa [convertChannel, here] using same c'
  exact loop _ (outs, mem) fun c => ⟨rfl, rfl⟩

def Apart (d : LinearFormat) (channels frames : Nat) (outs : Nat → PluginChannel) (c f : Nat) : Prop :=
  ∀ c' < channels, ∀ f' < frames, (c', f') ≠ (c, f) →
    (outs c').area.at f' + d.physicalWidth / 8 ≤ (outs c).area.at f ∨
      (outs c).area.at f + d.physicalWidth / 8 ≤ (outs c').area.at f'

def Converts (s d : LinearFormat) : Prop :=
  ∀ (host : Host) (debug : Bool) (channels frames : Nat) (source mem : Nat → Byte) (ins outs : Nat → PluginChannel)
    (c f : Nat), c < channels → f < frames → (ins c).enabled = true → Apart d channels frames outs c f →
      (linearTransfer host debug s d channels source ins frames (outs, mem)).1 = frames →
        d.sample (linearTransfer host debug s d channels source ins frames (outs, mem)).2.2 ((outs c).area.at f) =
          convertSample s d (s.sample source ((ins c).area.at f))

theorem converts_of (bytes : s.width % 8 = 0) (bytes' : d.width % 8 = 0) (tight : ¬ Shifted d) : Converts s d := by
  intro host debug channels frames source mem ins outs c f channel frame enabled apart done
  obtain ⟨low, inside, high, whole⟩ := d.sizes
  have sizes : (initData host s d).dstBytes = d.width / 8 := rfl
  unfold linearTransfer at done ⊢
  rw [if_neg (by omega)] at done ⊢
  split at done
  · have negative : ( - ENXIO : Int) < 0 := by decide
    exact absurd done (by dsimp only; omega)
  rename_i checked
  rw [if_neg checked]
  apply sample_converted bytes bytes' tight
  intro i small
  show (convert host _ d channels source ins frames (outs, mem)).2 _ = _
  rw [convert_mem]
  apply foldl_sets (List.mem_range.mpr channel)
  · intro c' listed other mem
    apply convertMem_outside (by omega)
    intro f' frame'
    have clear := apart c' (List.mem_range.mp listed) f' frame' fun same => other (congrArg Prod.fst same)
    omega
  · intro mem
    apply convertMem_inside enabled frame (by omega)
    intro g frame' other
    have clear := apart c channel g frame' fun same => other (congrArg Prod.snd same)
    omega

theorem Converts.single (all : Converts s d) (source mem : Nat → Byte) :
    d.sample (store mem 0 (d.width / 8) (doConvert .little (initData .little s d) source 0)) 0 =
      convertSample s d (s.sample source 0) := by
  have frame := all .little false 1 1 source mem (fun _ => ⟨⟨0, 0, 0⟩, 1, true, true⟩) (fun _ => ⟨⟨0, 0, 0⟩, 1, true, true⟩)
    0 0 (by decide) (by decide) rfl (fun c channel f frame other => absurd (by congr <;> omega) other) rfl
  simpa [linearTransfer, convert_mem, convertMem, convertFrames, PcmChannelArea.at, List.range_succ, initData] using frame

/-- A byte of the sample that no conversion stores: the last of a container that is stored too early, or one of three
    that hold no whole number of bytes. -/
theorem unwritten (bad : ¬ (d.width % 8 = 0 ∧ ¬ Shifted d)) (stored : Nat → Byte) :
    d.sample (store (fun _ => 1) 0 (d.width / 8) stored) 0 ≠ 0 ∧
      d.sample (store (fun _ => 1) 0 (d.width / 8) stored) 0 ≠ 2 ^ (d.width - 1) := by
  have first := (stored 0).isLt
  have second := (stored 1).isLt
  have third := (stored 2).isLt
  cases d
  all_goals first
    | exact absurd ⟨rfl, fun both => absurd both.1 (by decide)⟩ bad
    | exact absurd ⟨rfl, fun both => both.2 rfl⟩ bad
    | simp [LinearFormat.sample, LinearFormat.digits, LinearFormat.littleEndian, LinearFormat.physicalWidth,
        LinearFormat.width, pcmFormats, store]
      omega

theorem convertSample_zero : convertSample s d 0 = 0 ∨ convertSample s d 0 = 2 ^ (d.width - 1) := by
  unfold convertSample
  by_cases signs : s.signed = d.signed
  · simp [signs]
  · right
    have positive := d.sizes.1
    have small : 2 ^ (d.width - 1) < 2 ^ d.width := Nat.pow_lt_pow_right (by decide) (by omega)
    simp [signs, Nat.mod_eq_of_lt small]

def bitSeventeen (s : LinearFormat) (x : Nat) : Byte := if x = (if s.littleEndian then 2 else 0) then 1 else 0

theorem unread (bad : s.width % 8 ≠ 0) {i : Nat} (used : i < (initData host s d).copyBytes) :
    bitSeventeen s (0 + (initData host s d).srcOfs + i) = 0 := by
  rw [initData_copyBytes] at used
  have few : s.width / 8 = 2 := by
    cases s <;> first | exact absurd rfl bad | rfl
  have wide : s.physicalWidth = 24 := by
    cases s <;> first | exact absurd rfl bad | rfl
  have ofs : (initData host s d).srcOfs = if s.littleEndian then s.width / 8 - (initData host s d).copyBytes
      else s.physicalWidth / 8 - s.width / 8 := rfl
  rw [ofs, initData_copyBytes, few, wide]
  rw [few] at used
  unfold bitSeventeen
  cases s.littleEndian
  · exact if_neg (by simp)
  · refine if_neg ?_
    simp only [if_true]
    omega

theorem bitSeventeen_heard (bad : s.width % 8 ≠ 0) :
    convertSample s d (s.sample (bitSeventeen s) 0) ≠ convertSample s d (s.sample (fun _ => 0) 0) := by
  cases s
  all_goals first
    | exact absurd rfl bad
    | cases d <;> decide

theorem doConvert_congr {source' : Nat → Byte} (same : ∀ i < (initData host s d).copyBytes,
    source (src + (initData host s d).srcOfs + i) = source' (src + (initData host s d).srcOfs + i)) :
    doConvert host (initData host s d) source src = doConvert host (initData host s d) source' src := by
  have copies : store (fun _ => 0) (initData host s d).copyOfs (initData host s d).copyBytes
      (fun i => source (src + (initData host s d).srcOfs + i)) =
        store (fun _ => 0) (initData host s d).copyOfs (initData host s d).copyBytes
          fun i => source' (src + (initData host s d).srcOfs + i) := by
    funext x
    unfold store
    split
    · exact same _ (by omega)
    · rfl
  unfold doConvert
  rw [copies]

theorem converts_iff (s d : LinearFormat) : Converts s d ↔ s.width % 8 = 0 ∧ d.width % 8 = 0 ∧ ¬ Shifted d := by
  constructor
  · intro all
    have written : d.width % 8 = 0 ∧ ¬ Shifted d := by
      by_contra bad
      obtain ⟨some_, notTop⟩ := unwritten bad (doConvert .little (initData .little s d) (fun _ => 0) 0)
      have frame := all.single (fun _ => 0) fun _ => 1
      have silent : s.sample (fun _ => 0) 0 = 0 := by
        have zero : value (s.physicalWidth / 8) (s.digits (fun _ => 0) 0) = 0 :=
          value_blank fun k small => by simp [LinearFormat.digits]
        rw [LinearFormat.sample, zero, Nat.zero_mod]
      rw [silent] at frame
      rcases convertSample_zero (s := s) (d := d) with zero | top
      · exact some_ (frame.trans zero)
      · exact notTop (frame.trans top)
    refine ⟨Decidable.not_not.mp fun bad => ?_, written⟩
    have silence := all.single (fun _ => 0) fun _ => 0
    have bit := all.single (bitSeventeen s) fun _ => 0
    have blank : doConvert .little (initData .little s d) (bitSeventeen s) 0 =
        doConvert .little (initData .little s d) (fun _ => 0) 0 := doConvert_congr fun i used => unread bad used
    rw [blank] at bit
    exact bitSeventeen_heard bad (bit.symm.trans silence)
  · intro both
    exact converts_of both.1 both.2.1 both.2.2

/-- The most significant byte of the sample is lost, and the others are stored one place too early. -/
theorem s24_be_misplaced : ¬ ∀ s d : LinearFormat, Converts s d := by
  intro all
  have frame := (all .S16_LE .S24_BE).single (fun _ => 0x12) fun _ => 0
  revert frame
  decide

end AlsaDriver.Pcm
