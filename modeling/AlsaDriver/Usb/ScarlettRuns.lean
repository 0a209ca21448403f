import AlsaDriver.Usb.ScarlettCache

namespace AlsaDriver.Usb.Scarlett

open Words Runs

namespace Callbacks

/-- The values that the `info` callback tells the user. -/
def InRange (value : Int) : Callbacks → Prop
  | .ctlSwitch => 0 ≤ value ∧ value ≤ 1
  | .ctl maxValue => -128 + LEVEL_BIAS ≤ value ∧ value ≤ maxValue + LEVEL_BIAS
  | .ctlEnum opt => 0 ≤ value ∧ value < opt.len
  | .ctlSync _ | .ctlSave _ => True

def Advertised (raw : Int) : Callbacks → Prop
  | .ctlSwitch => 0 ≤ raw ∧ raw ≤ 1
  | .ctl maxValue => -128 * 256 ≤ raw ∧ raw ≤ maxValue * 256
  | .ctlEnum opt => opt.start ≤ raw ∧ raw ≤ opt.start + opt.len - 1
  | .ctlSync _ | .ctlSave _ => True

instance (raw : Int) : (b : Callbacks) → Decidable (b.Advertised raw)
  | .ctlSwitch => inferInstanceAs (Decidable (0 ≤ raw ∧ raw ≤ 1))
  | .ctl maxValue => inferInstanceAs (Decidable (-128 * 256 ≤ raw ∧ raw ≤ maxValue * 256))
  | .ctlEnum opt => inferInstanceAs (Decidable (opt.start ≤ raw ∧ raw ≤ opt.start + opt.len - 1))
  | .ctlSync _ | .ctlSave _ => inferInstanceAs (Decidable True)

def Shaped (valLen readLen : Nat) : Callbacks → Prop
  | .ctlSwitch => valLen = 2
  | .ctl maxValue => maxValue = 6 ∧ valLen = 2 ∧ readLen = 2
  | .ctlEnum opt =>
    (opt.start = -1 ∧ valLen = 2 ∨ 0 ≤ opt.start ∧ (valLen = 1 ∨ valLen = 2)) ∧ 1 ≤ opt.len ∧ opt.len < 255 ∧
      opt.start + opt.len ≤ 255
  | .ctlSync _ | .ctlSave _ => True

instance (valLen readLen : Nat) : (b : Callbacks) → Decidable (b.Shaped valLen readLen)
  | .ctlSwitch => inferInstanceAs (Decidable (valLen = 2))
  | .ctl maxValue => inferInstanceAs (Decidable (maxValue = 6 ∧ valLen = 2 ∧ readLen = 2))
  | .ctlEnum opt => inferInstanceAs (Decidable ((opt.start = -1 ∧ valLen = 2 ∨
      0 ≤ opt.start ∧ (valLen = 1 ∨ valLen = 2)) ∧ 1 ≤ opt.len ∧ opt.len < 255 ∧ opt.start + opt.len ≤ 255))
  | .ctlSync _ | .ctlSave _ => inferInstanceAs (Decidable True)

end Callbacks

namespace Control

/-- A value in range is written as an advertised one and read back as it was written, and a register with an
    advertised value is for the user what was written into it. -/
structure Made (c : Control) : Prop where
  raw : ∀ value, c.callbacks.InRange value →
    c.callbacks.Advertised (c.callbacks.rawOf value) ∧ c.callbacks.userOf (c.callbacks.rawOf value) = value
  bytes : ∀ raw old, c.callbacks.Advertised raw →
    c.callbacks.userOf (c.decode (c.encode raw old)) = c.callbacks.userOf raw

variable {c : Control}

theorem readLen_le (c : Control) : c.readLen = 1 ∨ c.readLen = c.valLen := by
  unfold readLen
  split
  · exact .inl rfl
  · exact .inr rfl

theorem toUnsigned_byte {value : Int} (low : 0 ≤ value) (high : value < 256) : (toUnsigned 8 value : Int) = value :=
  toUnsigned_of_range low high

theorem decode_byte {value : Int} (low : 0 ≤ value) (high : value < 256) (len : c.valLen = 1 ∨ c.valLen = 2)
    (old : Nat × Nat) : c.decode (c.encode value old) = value := by
  have same := toUnsigned_byte low high
  have high_ : (toUnsigned 8 (value / 256) : Int) = 0 := by
    rw [Int.ediv_eq_zero_of_lt low high]
    rfl
  obtain one | two := len
  · have read : c.readLen ≠ 2 := by
      obtain read | read := c.readLen_le
      · omega
      · omega
    rw [encode, if_neg (by omega), decode, if_neg read]
    exact same
  · rw [encode, if_pos two, decode]
    dsimp only
    rw [same, high_]
    split
    · rw [if_neg (by omega)]
      omega
    · rfl

theorem decode_word {value : Int} (low : -0x8000 ≤ value) (high : value < 0x8000) (len : c.valLen = 2)
    (read : c.readLen = 2) (old : Nat × Nat) : c.decode (c.encode value old) = value := by
  rw [encode, if_pos len, decode, if_pos read]
  dsimp only
  rw [toUnsigned_cast, toUnsigned_cast]
  split
  · omega
  · omega

theorem decode_off (len : c.valLen = 2) (old : Nat × Nat) : c.decode (c.encode (-1) old) = -1 ∨ c.decode (c.encode (-1) old) = 255 := by
  rw [encode, if_pos len, decode]
  split
  · exact .inl (by decide)
  · exact .inr (by decide)

theorem Made.of_shaped (cache : c.callbacks.usesCache = true) (shaped : c.callbacks.Shaped c.valLen c.readLen) : c.Made := by
  cases callbacks : c.callbacks with
  | ctlSwitch =>
    rw [callbacks] at shaped
    constructor
    · rw [callbacks]
      rintro value ⟨low, high⟩
      have same : toSigned 32 value = value := toSigned_of_range (w := 31) (by omega) (by omega)
      simp only [Callbacks.rawOf, Callbacks.userOf, Callbacks.Advertised, same]
      split
      · simp; omega
      · simp; omega
    · rw [callbacks]
      rintro raw old ⟨low, high⟩
      rw [decode_byte low (by omega) (.inr shaped)]
  | ctl maxValue =>
    rw [callbacks] at shaped
    obtain ⟨rfl, len, read⟩ := shaped
    constructor
    · rw [callbacks]
      rintro value ⟨low, high⟩
      have biased : toSigned 32 (value - LEVEL_BIAS) = value - 128 :=
        toSigned_of_range (w := 31) (by simp only [LEVEL_BIAS] at *; omega) (by simp only [LEVEL_BIAS] at *; omega)
      have scaled : toSigned 32 ((value - 128) * 256) = (value - 128) * 256 :=
        toSigned_of_range (w := 31) (by simp only [LEVEL_BIAS] at *; omega) (by simp only [LEVEL_BIAS] at *; omega)
      simp only [Callbacks.rawOf, Callbacks.userOf, Callbacks.Advertised, clamp, biased, scaled]
      rw [Int.mul_tdiv_cancel _ (by decide)]
      simp only [LEVEL_BIAS] at *
      omega
    · rw [callbacks]
      rintro raw old ⟨low, high⟩
      rw [decode_word (by omega) (by omega) len read]
  | ctlEnum opt =>
    rw [callbacks] at shaped
    obtain ⟨start, some_, few, below⟩ := shaped
    constructor
    · rw [callbacks]
      rintro value ⟨low, high⟩
      have same : toSigned 32 value = value := toSigned_of_range (w := 31) (by omega) (by omega)
      have moved : toSigned 32 (value + opt.start) = value + opt.start :=
        toSigned_of_range (w := 31) (by omega) (by omega)
      simp only [Callbacks.rawOf, Callbacks.userOf, Callbacks.Advertised, clamp, same, moved]
      rw [if_neg (by omega)]
      omega
    · rw [callbacks]
      rintro raw old ⟨low, high⟩
      by_cases off : raw = -1
      · obtain ⟨first, len⟩ : opt.start = -1 ∧ c.valLen = 2 := by omega
        have zero : (Callbacks.ctlEnum opt).userOf (-1) = 0 := by
          simp only [Callbacks.userOf, clamp]
          rw [if_neg (by omega)]
          omega
        rw [off]
        obtain same | same := decode_off len old
        · rw [same]
        · rw [same, zero, Callbacks.userOf, if_pos (by omega)]
      · rw [decode_byte (by omega) (by omega) (by omega)]
  | ctlSync opt =>
    rw [callbacks] at cache
    exact absurd cache Bool.false_ne_true
  | ctlSave opt =>
    rw [callbacks] at cache
    exact absurd cache Bool.false_ne_true

end Control

theorem rawOf_switch (value : Int) : Callbacks.ctlSwitch.Advertised (Callbacks.ctlSwitch.rawOf value) := by
  simp only [Callbacks.rawOf, Callbacks.Advertised]
  split
  · decide
  · decide

def infos : List DeviceInfo := [s8i6Info, s18i6Info, s18i8Info, s18i20Info]

theorem infos_shaped : ∀ info ∈ infos, ∀ c ∈ info.scarlettMixerControls,
    c.callbacks.Shaped c.valLen c.readLen ∧
      ∀ value ∈ c.inits, c.callbacks.usesCache = true ∧ c.callbacks.Advertised value := by
  decide +kernel

theorem infos_numbered : ∀ info ∈ infos, info.controlsFn.outputs.length ≤ 127 ∧ info.matrixIn ≤ 512 := by decide

theorem s8i6_fits : s8i6Info.Fits where
  outputs := by
    simp only [outputSourceName_length, forall_const]
    decide +kernel
  matrixRoute := by decide +kernel
  matrixMix := by decide +kernel
  inputSource := by decide +kernel

theorem s18i8_fits : s18i8Info.Fits where
  outputs := by
    simp only [outputSourceName_length, forall_const]
    decide +kernel
  matrixRoute := by decide +kernel
  matrixMix := by decide +kernel
  inputSource := by decide +kernel

theorem infos_fit {info : DeviceInfo} (known : info ∈ infos) (few : info.matrixOut ≤ 8) : info.Fits := by
  rw [infos, List.mem_cons, List.mem_cons, List.mem_cons, List.mem_singleton] at known
  obtain rfl | rfl | rfl | rfl := known
  · exact s8i6_fits
  · exact DeviceInfo.s18i6_fits
  · exact s18i8_fits
  · exact absurd few (by decide)

def Separate (controls : List Control) : Prop :=
  ∀ (j k : Nat) (a b : Control), controls[j]? = some a → controls[k]? = some b → a.callbacks.usesCache = true →
    b.callbacks.usesCache = true → ∀ ch < a.count, ∀ ch' < b.count, a.register ch = b.register ch' → j = k ∧ ch = ch'

theorem DeviceInfo.separate {info : DeviceInfo} (fits : info.Fits) (few : info.matrixOut ≤ 8)
    (pairs : info.controlsFn.outputs.length ≤ 127) (inputs : info.matrixIn ≤ 512) :
    Separate info.scarlettMixerControls := by
  intro j k a b left right cache cache' ch below ch' below' same
  have request {c : Control} (cache : c.callbacks.usesCache = true) : c.callbacks.request = .cur := by
    cases callbacks : c.callbacks with
    | ctlSwitch => rfl
    | ctl maxValue => rfl
    | ctlEnum opt => rfl
    | ctlSync opt => rw [callbacks] at cache; exact absurd cache Bool.false_ne_true
    | ctlSave opt => rw [callbacks] at cache; exact absurd cache Bool.false_ne_true
  have first := register_place fits few pairs inputs a (List.mem_of_getElem? left) _
    (Control.mem_registers.mpr ⟨ch, below, rfl⟩)
  have second := register_place fits few pairs inputs b (List.mem_of_getElem? right) _
    (Control.mem_registers.mpr ⟨ch', below', rfl⟩)
  have register : (a.callbacks.request, a.index, a.wValue + ch) = (b.callbacks.request, b.index, b.wValue + ch') := by
    rw [request cache, request cache']
    exact congrArg (Prod.mk Request.cur) same
  have place : a.place = b.place := first.symm.trans ((congrArg placeOfRegister register).trans second)
  have differ := List.pairwise_iff_getElem.mp (places_differ fits few)
  obtain ⟨inside, rfl⟩ := List.getElem?_eq_some_iff.mp left
  obtain ⟨inside', rfl⟩ := List.getElem?_eq_some_iff.mp right
  have number : j = k := by
    obtain before | number | behind := Nat.lt_trichotomy j k
    · exact absurd place (differ j k inside inside' before)
    · exact number
    · exact absurd place.symm (differ k j inside' inside behind)
  subst number
  exact ⟨rfl, Nat.add_left_cancel (congrArg Prod.snd same)⟩

namespace Mixer

variable (s : Mixer) (k : Nat) (c : Control)

/-- The value that `get_ctl_value` has for a channel. -/
def current (channel : Nat) : Int :=
  if (s.elems k).cached channel then (s.elems k).cacheVal channel else c.decode (s.device (c.register channel))

/-- A channel the cache of which gives the user `value`. -/
def Holds (channel : Nat) (value : Int) : Prop :=
  (s.elems k).cached channel = true ∧ c.callbacks.userOf ((s.elems k).cacheVal channel) = value

structure Agrees (controls : List Control) (s : Mixer) : Prop where
  sent : ∀ k raw, (k, raw) ∈ s.sent → ∀ c, controls[k]? = some c → c.callbacks.Advertised raw
  cache : ∀ k c, controls[k]? = some c → c.callbacks.usesCache = true → ∀ channel < c.count,
    (s.elems k).cached channel = true →
      c.callbacks.userOf (c.decode (s.device (c.register channel))) = c.callbacks.userOf ((s.elems k).cacheVal channel)

def load (channel : Nat) : Mixer := s.setElem k channel (s.current k c channel)

def store (channel : Nat) (raw : Int) : Mixer :=
  (({ s with sent := (k, raw) :: s.sent } : Mixer).transfer c channel raw).setElem k channel raw

theorem load_cached {channel : Nat} (cached : (s.elems k).cached channel = true) : s.load k c channel = s := by
  have same : s.current k c channel = (s.elems k).cacheVal channel := if_pos cached
  unfold load setElem
  rw [same]
  congr 1
  funext j
  split
  · rename_i here
    subst here
    congr 1
    · funext i
      by_cases other : i = channel
      · rw [other, cached, Bool.or_true]
      · rw [beq_false_of_ne other, Bool.false_or]
    · funext i
      split
      · rename_i here
        rw [here]
      · rfl
  · rfl

theorem getCtlValue_eq (channel : Nat) (read : Bool) :
    s.getCtlValue k c channel read = (s, none) ∨
      s.getCtlValue k c channel read = (s.load k c channel, some (s.current k c channel)) := by
  unfold getCtlValue
  by_cases cached : (s.elems k).cached channel = true
  · right
    rw [if_pos cached, s.load_cached k c cached, current, if_pos cached]
  · rw [if_neg cached]
    cases read with
    | false => exact .inl rfl
    | true =>
      right
      rw [load, current, if_neg cached]
      rfl

theorem setCtlValue_eq (channel : Nat) (raw : Int) (write : Bool) :
    s.setCtlValue k c channel raw write = ({ s with sent := (k, raw) :: s.sent }, false) ∨
      s.setCtlValue k c channel raw write = (s.store k c channel raw, true) := by
  cases write with
  | false => exact .inl rfl
  | true => exact .inr rfl

/-- What an access to `channels` of control `k` leaves as it was. -/
structure Frame (channels : List Nat) (s' : Mixer) : Prop where
  others : ∀ j, j ≠ k → s'.elems j = s.elems j
  written : s'.written = s.written
  holds : ∀ ch, ch ∉ channels → ∀ value, s.Holds k c ch value → s'.Holds k c ch value
  current : ∀ ch, ch ∉ channels → s'.current k c ch = s.current k c ch

variable {s k c}

theorem Frame.refl (channels : List Nat) : s.Frame k c channels s := ⟨fun _ _ => rfl, rfl, fun _ _ _ => id, fun _ _ => rfl⟩

theorem Frame.trans {ch : Nat} {rest : List Nat} {s' s'' : Mixer} (first : s.Frame k c [ch] s')
    (second : s'.Frame k c rest s'') : s.Frame k c (ch :: rest) s'' := by
  have outside {i : Nat} (other : i ∉ ch :: rest) : i ∉ [ch] ∧ i ∉ rest := by
    rw [List.mem_cons, not_or] at other
    exact ⟨List.not_mem_cons_of_ne_of_not_mem other.1 List.not_mem_nil, other.2⟩
  refine ⟨fun j other => (second.others j other).trans (first.others j other), second.written.trans first.written, ?_, ?_⟩
  · intro i other value holds
    exact second.holds i (outside other).2 value (first.holds i (outside other).1 value holds)
  · intro i other
    exact (second.current i (outside other).2).trans (first.current i (outside other).1)

theorem setElem_other {channel : Nat} {value : Int} {j : Nat} (other : j ≠ k) :
    (s.setElem k channel value).elems j = s.elems j := if_neg other

theorem setElem_same (channel : Nat) (value : Int) :
    ((s.setElem k channel value).elems k).cached channel = true ∧
      ((s.setElem k channel value).elems k).cacheVal channel = value := by
  have same : (s.setElem k channel value).elems k = _ := if_pos rfl
  rw [same]
  refine ⟨?_, if_pos rfl⟩
  show (channel == channel || _) = true
  rw [beq_self_eq_true, Bool.true_or]

theorem setElem_keeps {channel i : Nat} (other : i ≠ channel) (value : Int) :
    ((s.setElem k channel value).elems k).cached i = (s.elems k).cached i ∧
      ((s.setElem k channel value).elems k).cacheVal i = (s.elems k).cacheVal i := by
  have same : (s.setElem k channel value).elems k = _ := if_pos rfl
  rw [same]
  refine ⟨?_, if_neg other⟩
  show (i == channel || _) = _
  rw [beq_false_of_ne other, Bool.false_or]

theorem setElem_holds (channel : Nat) (value : Int) :
    (s.setElem k channel value).Holds k c channel (c.callbacks.userOf value) := by
  obtain ⟨cached, cacheVal⟩ := @setElem_same s k channel value
  exact ⟨cached, congrArg c.callbacks.userOf cacheVal⟩

theorem load_frame (channel : Nat) : s.Frame k c [channel] (s.load k c channel) := by
  refine ⟨fun j other => setElem_other other, rfl, ?_, ?_⟩
  · intro i other value holds
    obtain ⟨cached, cacheVal⟩ := @setElem_keeps s k channel i (List.ne_of_not_mem_cons other) (s.current k c channel)
    unfold load Holds
    rw [cached, cacheVal]
    exact holds
  · intro i other
    obtain ⟨cached, cacheVal⟩ := @setElem_keeps s k channel i (List.ne_of_not_mem_cons other) (s.current k c channel)
    unfold load current at *
    rw [cached, cacheVal]
    rfl

theorem store_frame (channel : Nat) (raw : Int) : s.Frame k c [channel] (s.store k c channel raw) := by
  refine ⟨fun j other => setElem_other other, rfl, ?_, ?_⟩
  · intro i other value holds
    obtain ⟨cached, cacheVal⟩ := @setElem_keeps (({ s with sent := (k, raw) :: s.sent } : Mixer).transfer c channel raw) k
      channel i (List.ne_of_not_mem_cons other) raw
    unfold store Holds
    rw [cached, cacheVal]
    exact holds
  · intro i other
    obtain ⟨cached, cacheVal⟩ := @setElem_keeps (({ s with sent := (k, raw) :: s.sent } : Mixer).transfer c channel raw) k
      channel i (List.ne_of_not_mem_cons other) raw
    have register : c.register i ≠ c.register channel := by
      intro same
      exact List.ne_of_not_mem_cons other (Nat.add_left_cancel (congrArg Prod.snd same))
    have device : (s.store k c channel raw).device (c.register i) = s.device (c.register i) := if_neg register
    unfold current
    rw [device]
    unfold store
    rw [cached, cacheVal]
    rfl

section agrees

variable {controls : List Control} (agrees : s.Agrees controls) (here : controls[k]? = some c)

include agrees here

theorem Agrees.load (channel : Nat) : (s.load k c channel).Agrees controls := by
  refine ⟨agrees.sent, fun j a there cache ch below => ?_⟩
  by_cases same : j = k
  · subst same
    obtain rfl : c = a := Option.some.inj (here.symm.trans there)
    by_cases first : ch = channel
    · subst first
      obtain ⟨cached, cacheVal⟩ := @setElem_same s j ch (s.current j c ch)
      intro _
      show _ = c.callbacks.userOf (((s.setElem j ch (s.current j c ch)).elems j).cacheVal ch)
      rw [cacheVal]
      by_cases cached : (s.elems j).cached ch = true
      · rw [current, if_pos cached]
        exact agrees.cache j c there cache ch below cached
      · rw [current, if_neg cached]
        rfl
    · obtain ⟨cached, cacheVal⟩ := @setElem_keeps s j channel ch first (s.current j c channel)
      unfold Mixer.load
      rw [cached, cacheVal]
      exact agrees.cache j c there cache ch below
  · have other : (s.load k c channel).elems j = s.elems j := setElem_other same
    rw [other]
    exact agrees.cache j a there cache ch below

theorem Agrees.store (made : c.Made) (separate : Separate controls) (cache : c.callbacks.usesCache = true) {channel : Nat}
    (below : channel < c.count) {raw : Int} (advertised : c.callbacks.Advertised raw) :
    (s.store k c channel raw).Agrees controls := by
  constructor
  · intro j raw' sent a there
    obtain same | sent := List.mem_cons.mp sent
    · obtain ⟨rfl, rfl⟩ := Prod.mk.inj same
      obtain rfl : c = a := Option.some.inj (here.symm.trans there)
      exact advertised
    · exact agrees.sent j raw' sent a there
  · intro j a there cache' ch below'
    by_cases first : a.register ch = c.register channel
    · obtain ⟨rfl, rfl⟩ := separate j k a c there here cache' cache ch below' channel below first
      obtain rfl : c = a := Option.some.inj (here.symm.trans there)
      have device : (s.store j c ch raw).device (c.register ch) = c.encode raw (s.device (c.register ch)) := if_pos rfl
      intro _
      rw [device, made.bytes _ _ advertised]
      exact (setElem_holds ch raw).2.symm
    · have device : (s.store k c channel raw).device (a.register ch) = s.device (a.register ch) := if_neg first
      rw [device]
      by_cases same : j = k
      · subst same
        obtain rfl : c = a := Option.some.inj (here.symm.trans there)
        have other : ch ≠ channel := fun equal => first (congrArg c.register equal)
        obtain ⟨cached, cacheVal⟩ := @setElem_keeps (({ s with sent := (j, raw) :: s.sent } : Mixer).transfer c channel raw)
          j channel ch other raw
        unfold Mixer.store
        rw [cached, cacheVal]
        exact agrees.cache j c there cache' ch below'
      · have other : (s.store k c channel raw).elems j = s.elems j := setElem_other same
        rw [other]
        exact agrees.cache j a there cache' ch below'

theorem Agrees.fail {raw : Int} (advertised : c.callbacks.Advertised raw) :
    ({ s with sent := (k, raw) :: s.sent } : Mixer).Agrees controls := by
  refine ⟨fun j raw' sent a there => ?_, agrees.cache⟩
  obtain same | sent := List.mem_cons.mp sent
  · obtain ⟨rfl, rfl⟩ := Prod.mk.inj same
    obtain rfl : c = a := Option.some.inj (here.symm.trans there)
    exact advertised
  · exact agrees.sent j raw' sent a there

end agrees

theorem load_holds {channel i : Nat} {value : Int} (holds : s.Holds k c i value) :
    (s.load k c channel).Holds k c i value := by
  by_cases same : i = channel
  · subst same
    rwa [s.load_cached k c holds.1]
  · exact (load_frame channel).holds i (List.not_mem_cons_of_ne_of_not_mem same List.not_mem_nil) value holds

structure Reads (s s' : Mixer) (k : Nat) (c : Control) : Prop where
  others : ∀ j, j ≠ k → s'.elems j = s.elems j
  written : s'.written = s.written
  holds : ∀ i value, s.Holds k c i value → s'.Holds k c i value

theorem getLoop_keeps {controls : List Control} (agrees : s.Agrees controls) (here : controls[k]? = some c)
    (read : Nat → Bool) (channels : List Nat) :
    (getLoop k c read s channels).1.Agrees controls ∧ s.Reads (getLoop k c read s channels).1 k c := by
  induction channels generalizing s with
  | nil => exact ⟨agrees, fun _ _ => rfl, rfl, fun _ _ => id⟩
  | cons channel rest ih =>
    rw [getLoop]
    obtain failed | loaded := s.getCtlValue_eq k c channel (read channel)
    · rw [failed]
      exact ⟨agrees, fun _ _ => rfl, rfl, fun _ _ => id⟩
    · rw [loaded]
      obtain ⟨agrees', reads⟩ := ih (agrees.load here channel)
      have frame : s.Frame k c [channel] _ := load_frame channel
      exact ⟨agrees', fun j other => (reads.others j other).trans (frame.others j other), reads.written,
        fun i value holds => reads.holds i value (load_holds holds)⟩

theorem getLoop_holds {value : Nat → Int} (read : Nat → Bool) {channels : List Nat}
    (holds : ∀ ch ∈ channels, s.Holds k c ch (value ch)) :
    getLoop k c read s channels = (s, some (channels.map value)) := by
  induction channels with
  | nil => rfl
  | cons channel rest ih =>
    obtain ⟨cached, user⟩ := holds channel (List.mem_cons_self ..)
    have first : s.getCtlValue k c channel (read channel) = (s, some ((s.elems k).cacheVal channel)) := by
      rw [getCtlValue, if_pos cached]
    rw [getLoop, first, List.map_cons]
    show ((getLoop k c read s rest).1, (getLoop k c read s rest).2.map (c.callbacks.userOf _ :: ·)) = _
    rw [ih fun ch inside => holds ch (List.mem_cons_of_mem _ inside), user]
    rfl

section put

variable {controls : List Control} (separate : Separate controls) (made : c.Made) (cache : c.callbacks.usesCache = true)
  (here : controls[k]? = some c)

include separate made cache here

theorem putLoop_keeps {value : Nat → Int} (read write : Nat → Bool) {channels : List Nat} (distinct : channels.Nodup)
    (below : ∀ ch ∈ channels, ch < c.count) (agrees : s.Agrees controls)
    (allowed : ∀ ch ∈ channels, c.callbacks.Advertised (c.callbacks.rawOf (value ch)) ∨
      s.current k c ch = c.callbacks.rawOf (value ch)) :
    (putLoop k c value read write s channels).1.Agrees controls ∧
      s.Frame k c channels (putLoop k c value read write s channels).1 ∧
      ((putLoop k c value read write s channels).2 = true → ∀ ch ∈ channels, c.callbacks.InRange (value ch) →
        (putLoop k c value read write s channels).1.Holds k c ch (value ch)) := by
  induction channels generalizing s with
  | nil => exact ⟨agrees, .refl [], fun _ ch inside => absurd inside List.not_mem_nil⟩
  | cons channel rest ih =>
    obtain ⟨first, distinct⟩ := List.nodup_cons.mp distinct
    have below' : ∀ ch ∈ rest, ch < c.count := fun ch inside => below ch (List.mem_cons_of_mem _ inside)
    -- the rest of the loop, after an access to the first channel that left its value in the cache
    have later {s' : Mixer} (agrees' : s'.Agrees controls) (frame : s.Frame k c [channel] s')
        (holds : c.callbacks.InRange (value channel) → s'.Holds k c channel (value channel)) :
        (putLoop k c value read write s' rest).1.Agrees controls ∧
          s.Frame k c (channel :: rest) (putLoop k c value read write s' rest).1 ∧
          ((putLoop k c value read write s' rest).2 = true → ∀ ch ∈ channel :: rest, c.callbacks.InRange (value ch) →
            (putLoop k c value read write s' rest).1.Holds k c ch (value ch)) := by
      have allowed' : ∀ ch ∈ rest, c.callbacks.Advertised (c.callbacks.rawOf (value ch)) ∨
          s'.current k c ch = c.callbacks.rawOf (value ch) := by
        intro ch inside
        have other : ch ∉ [channel] := by
          rw [List.mem_singleton]
          rintro rfl
          exact first inside
        rw [frame.current ch other]
        exact allowed ch (List.mem_cons_of_mem _ inside)
      obtain ⟨agrees'', frame', holds'⟩ := ih distinct below' agrees' allowed'
      refine ⟨agrees'', frame.trans frame', fun done ch inside range => ?_⟩
      obtain rfl | inside := List.mem_cons.mp inside
      · exact frame'.holds ch first _ (holds range)
      · exact holds' done ch inside range
    rw [putLoop]
    obtain failed | loaded := s.getCtlValue_eq k c channel (read channel)
    · rw [failed]
      exact ⟨agrees, .refl _, fun done => absurd done Bool.false_ne_true⟩
    · rw [loaded]
      dsimp only
      have agreesLoad := agrees.load here channel
      have frameLoad : s.Frame k c [channel] (s.load k c channel) := load_frame channel
      split
      · rename_i differs
        have advertised := (allowed channel (List.mem_cons_self ..)).resolve_right differs
        obtain failed | stored := (s.load k c channel).setCtlValue_eq k c channel (c.callbacks.rawOf (value channel))
          (write channel)
        · rw [failed]
          refine ⟨agreesLoad.fail here advertised, ?_, fun done => absurd done Bool.false_ne_true⟩
          have rest' : (s.load k c channel).Frame k c rest _ := .refl rest
          exact frameLoad.trans ⟨rest'.others, rest'.written, rest'.holds, rest'.current⟩
        · rw [stored]
          have frameStore : (s.load k c channel).Frame k c [channel] _ :=
            store_frame channel (c.callbacks.rawOf (value channel))
          apply later (agreesLoad.store here made separate cache (below channel (List.mem_cons_self ..)) advertised)
          · exact ⟨fun j other => (frameStore.others j other).trans (frameLoad.others j other), rfl,
              fun i other v holds => frameStore.holds i other v (frameLoad.holds i other v holds),
              fun i other => (frameStore.current i other).trans (frameLoad.current i other)⟩
          · intro range
            have stored : ((s.load k c channel).store k c channel (c.callbacks.rawOf (value channel))).Holds k c channel
                (c.callbacks.userOf (c.callbacks.rawOf (value channel))) := setElem_holds channel _
            rwa [(made.raw (value channel) range).2] at stored
      · rename_i same
        have same := Decidable.not_not.mp same
        apply later agreesLoad frameLoad
        intro range
        have loaded : (s.load k c channel).Holds k c channel (c.callbacks.userOf (s.current k c channel)) :=
          setElem_holds channel _
        rwa [same, (made.raw (value channel) range).2] at loaded

end put

variable (s)

/-- The user values that a `put` of a level or an option writes are in range, or what the register already has. -/
def Allowed (controls : List Control) : MixerOp → Prop
  | .put k value _ _ => ∀ c, controls[k]? = some c → c.callbacks ≠ .ctlSwitch → ∀ ch < c.count,
    c.callbacks.InRange (value ch) ∨ s.current k c ch = c.callbacks.rawOf (value ch)
  | .get _ _ => True

structure Kept (controls : List Control) (s : Mixer) : Prop where
  agrees : s.Agrees controls
  holds : ∀ k value, s.written k = some value → ∀ c, controls[k]? = some c → ∀ ch < c.count,
    c.callbacks.InRange (value ch) → s.Holds k c ch (value ch)

/-- All values that were sent are advertised, the cache of a channel is for the user what its register is, and a read
    after a successful write of values in range returns them. -/
structure Correct (controls : List Control) (s : Mixer) : Prop where
  agrees : s.Agrees controls
  reads : ∀ k value, s.written k = some value → ∀ c, controls[k]? = some c →
    (∀ ch < c.count, c.callbacks.InRange (value ch)) →
      ∀ read, (getLoop k c read s (List.range c.count)).2 = some ((List.range c.count).map value)

variable {s}

theorem Kept.correct {controls : List Control} (kept : s.Kept controls) : s.Correct controls := by
  refine ⟨kept.agrees, fun k value written c here range read => ?_⟩
  rw [getLoop_holds read fun ch inside =>
    kept.holds k value written c here ch (List.mem_range.mp inside) (range ch (List.mem_range.mp inside))]

section step

variable {controls : List Control} (separate : Separate controls)
  (made : ∀ c ∈ controls, c.callbacks.usesCache = true → c.Made)

include separate made

theorem Kept.exec (kept : s.Kept controls) (op : MixerOp) (allowed : s.Allowed controls op) :
    (s.exec controls op).Kept controls := by
  cases op with
  | get k read =>
    rw [Mixer.exec]
    split
    · rename_i c here
      split
      · obtain ⟨agrees, reads⟩ := getLoop_keeps kept.agrees here read (List.range c.count)
        refine ⟨agrees, fun j value written a there ch below range => ?_⟩
        rw [reads.written] at written
        have holds := kept.holds j value written a there ch below range
        by_cases same : j = k
        · subst same
          obtain rfl : c = a := Option.some.inj (here.symm.trans there)
          exact reads.holds ch _ holds
        · unfold Holds
          rw [reads.others j same]
          exact holds
      · exact kept
    · exact kept
  | put k value read write =>
    rw [Mixer.exec]
    split
    · rename_i c here
      split
      · rename_i cache
        have made' := made c (List.mem_of_getElem? here) cache
        have raw : ∀ ch ∈ List.range c.count, c.callbacks.Advertised (c.callbacks.rawOf (value ch)) ∨
            s.current k c ch = c.callbacks.rawOf (value ch) := by
          intro ch inside
          by_cases switch : c.callbacks = .ctlSwitch
          · rw [switch]
            exact .inl (rawOf_switch (value ch))
          · exact (allowed c here switch ch (List.mem_range.mp inside)).imp_left fun range =>
              (made'.raw (value ch) range).1
        obtain ⟨agrees, frame, holds⟩ := putLoop_keeps separate made' cache here read write List.nodup_range
          (fun ch inside => List.mem_range.mp inside) kept.agrees raw
        refine ⟨⟨agrees.sent, agrees.cache⟩, fun j value' written a there ch below range => ?_⟩
        by_cases same : j = k
        · subst same
          obtain rfl : c = a := Option.some.inj (here.symm.trans there)
          have written' : (if (putLoop j c value read write s (List.range c.count)).2 then some value else none) = some value' :=
            (if_pos rfl).symm.trans written
          split at written'
          · rename_i done
            obtain rfl := Option.some.inj written'
            exact holds done ch (List.mem_range.mpr below) range
          · exact absurd written'.symm (Option.some_ne_none _)
        · have written' : s.written j = some value' := by
            rw [← frame.written]
            exact (if_neg same).symm.trans written
          have kept' := kept.holds j value' written' a there ch below range
          unfold Holds
          show ((putLoop k c value read write s (List.range c.count)).1.elems j).cached ch = true ∧
            a.callbacks.userOf (((putLoop k c value read write s (List.range c.count)).1.elems j).cacheVal ch) = value' ch
          rw [frame.others j same]
          exact kept'
      · exact kept
    · exact kept

theorem initCtl_keeps {k : Nat} {c : Control} (here : controls[k]? = some c) (cache : c.callbacks.usesCache = true)
    (agrees : s.Agrees controls) {raw : Int} (advertised : c.callbacks.Advertised raw) :
    (s.initCtl k c raw).Agrees controls ∧ (s.initCtl k c raw).written = s.written := by
  have loop {channels : List Nat} (below : ∀ ch ∈ channels, ch < c.count) {s : Mixer} (agrees : s.Agrees controls) :
      (channels.foldl (fun s channel => (s.setCtlValue k c channel raw true).1) s).Agrees controls ∧
        (channels.foldl (fun s channel => (s.setCtlValue k c channel raw true).1) s).written = s.written := by
    induction channels generalizing s with
    | nil => exact ⟨agrees, rfl⟩
    | cons channel rest ih =>
      have stored : (s.store k c channel raw).Agrees controls :=
        agrees.store here (made c (List.mem_of_getElem? here) cache) separate cache (below channel (List.mem_cons_self ..))
          advertised
      exact ih (fun ch inside => below ch (List.mem_cons_of_mem _ inside)) stored
  exact loop (fun ch inside => List.mem_range.mp inside) agrees

theorem created_kept (inits : ∀ c ∈ controls, ∀ raw ∈ c.inits, c.callbacks.usesCache = true ∧ c.callbacks.Advertised raw)
    (device : Nat × Nat → Nat × Nat) : (created controls device).Kept controls := by
  have each {k : Nat} {c : Control} (here : controls[k]? = some c) {raws : List Int} (inside : ∀ raw ∈ raws, raw ∈ c.inits)
      {s : Mixer} (agrees : s.Agrees controls) :
      (raws.foldl (fun s value => s.initCtl k c value) s).Agrees controls ∧
        (raws.foldl (fun s value => s.initCtl k c value) s).written = s.written := by
    induction raws generalizing s with
    | nil => exact ⟨agrees, rfl⟩
    | cons raw rest ih =>
      obtain ⟨cache, advertised⟩ := inits c (List.mem_of_getElem? here) raw (inside raw (List.mem_cons_self ..))
      obtain ⟨agrees', written⟩ := initCtl_keeps separate made here cache agrees advertised
      obtain ⟨agrees'', written'⟩ := ih (fun raw later => inside raw (List.mem_cons_of_mem _ later)) agrees'
      exact ⟨agrees'', written'.trans written⟩
  have all {pairs : List (Control × Nat)} (inside : ∀ pair ∈ pairs, controls[pair.2]? = some pair.1) {s : Mixer}
      (agrees : s.Agrees controls) (unwritten : s.written = fun _ => none) :
      (pairs.foldl initAll s).Agrees controls ∧ (pairs.foldl initAll s).written = fun _ => none := by
    induction pairs generalizing s with
    | nil => exact ⟨agrees, unwritten⟩
    | cons pair rest ih =>
      obtain ⟨agrees', written⟩ := each (inside pair (List.mem_cons_self ..)) (fun _ => id) agrees
      exact ih (fun pair later => inside pair (List.mem_cons_of_mem _ later)) agrees' (written.trans unwritten)
  have fresh : (plugged device).Agrees controls :=
    ⟨fun _ _ sent => absurd sent List.not_mem_nil, fun _ _ _ _ _ _ cached => absurd cached Bool.false_ne_true⟩
  obtain ⟨agrees, unwritten⟩ := all (fun pair inside => List.mem_zipIdx_iff_getElem?.mp inside) fresh rfl
  refine ⟨agrees, fun k value written => ?_⟩
  exact absurd ((congrFun unwritten k).symm.trans written).symm (Option.some_ne_none _)

end step

/-- The cache of a device whose matrix has at most 8 outputs agrees with the device as long as the users write values
    in range. -/
theorem cache_agrees (info : DeviceInfo) (known : info ∈ infos) (few : info.matrixOut ≤ 8)
    (device : Nat × Nat → Nat × Nat) (ops : List MixerOp)
    (allowed : Throughout (exec info.scarlettMixerControls) (fun s op _ => s.Allowed info.scarlettMixerControls op)
      (created info.scarlettMixerControls device) ops) :
    (created info.scarlettMixerControls device).Correct info.scarlettMixerControls ∧
      Throughout (exec info.scarlettMixerControls) (fun _ _ s' => s'.Correct info.scarlettMixerControls)
        (created info.scarlettMixerControls device) ops := by
  obtain ⟨pairs, inputs⟩ := infos_numbered info known
  have separate := DeviceInfo.separate (infos_fit known few) few pairs inputs
  have shaped := infos_shaped info known
  have made : ∀ c ∈ info.scarlettMixerControls, c.callbacks.usesCache = true → c.Made :=
    fun c inside cache => .of_shaped cache (shaped c inside).1
  have start := created_kept separate made (fun c inside => (shaped c inside).2) device
  refine ⟨start.correct, Throughout.steps (Kept info.scarlettMixerControls) start allowed fun s op kept allowed => ?_⟩
  have next := kept.exec separate made op allowed
  exact ⟨next.correct, next⟩

theorem s18i6_known : s18i6Info ∈ infos := List.mem_cons_of_mem _ (List.mem_cons_self ..)

def zeros : Nat × Nat → Nat × Nat := fun _ => (0, 0)

theorem cache_agrees_volume :
    (created s18i6Info.scarlettMixerControls zeros).Correct s18i6Info.scarlettMixerControls ∧
      Throughout (exec s18i6Info.scarlettMixerControls) (fun _ _ s' => s'.Correct s18i6Info.scarlettMixerControls)
        (created s18i6Info.scarlettMixerControls zeros)
        [.put 1 (fun _ => 100) (fun _ => true) (fun _ => true), .get 1 fun _ => false] := by
  refine cache_agrees s18i6Info s18i6_known (by decide) zeros _ ⟨?_, trivial, trivial⟩
  intro c here _ ch _
  obtain rfl := Option.some.inj here
  exact .inl ⟨show (0 : Int) ≤ 100 by decide, show (100 : Int) ≤ 134 by decide⟩

/-- A level beyond the one that is advertised goes to the device. -/
theorem level_unchecked : ¬ ∀ info ∈ infos, ∀ (device : Nat × Nat → Nat × Nat) (ops : List MixerOp),
    (created info.scarlettMixerControls device).Correct info.scarlettMixerControls ∧
      Throughout (exec info.scarlettMixerControls) (fun _ _ s' => s'.Correct info.scarlettMixerControls)
        (created info.scarlettMixerControls device) ops := by
  intro all
  have run := (all s18i6Info s18i6_known zeros [.put 1 (fun _ => 300) (fun _ => true) (fun _ => true)]).2
  have bound := run.1.agrees.sent 1 44032 (by decide +kernel) masterVolume rfl
  exact absurd bound.2 (by decide)

end Mixer

end AlsaDriver.Usb.Scarlett
