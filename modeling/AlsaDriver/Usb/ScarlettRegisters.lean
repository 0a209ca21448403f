import Mathlib.Data.List.Nodup
import Mathlib.Data.List.Pairwise
import AlsaDriver.Usb.Scarlett

namespace AlsaDriver.Usb.Scarlett

inductive Place where
  | masterSwitch
  | masterVolume
  | outputSwitch (i : Nat)
  | outputVolume (i : Nat)
  | outputLeft (i : Nat)
  | outputRight (i : Nat)
  | inputSwitch (s : InputSwitch)
  | matrixRoute (i : Nat)
  | matrixMix (i o : Nat)
  | inputSource (i : Nat)
  | clockSource
  | clockSync
  | saveToHw
  deriving DecidableEq

def leading (text : List Char) : Nat := Nat.ofDigitChars 10 (text.takeWhile Char.isDigit) 0

def afterNumber (text : List Char) : List Char := text.dropWhile Char.isDigit

def outputPlace (side : Char) (last : Option Char) (i : Nat) : Place :=
  match side with
  | 'L' => .outputLeft i
  | 'R' => .outputRight i
  | _ => if last = some 'h' then .outputSwitch i else .outputVolume i

def masterPlace (text : List Char) : Place :=
  if text.headD ' ' = 'P' then if text.getLast? = some 'h' then .masterSwitch else .masterVolume
  else outputPlace ((afterNumber text).headD ' ') text.getLast? (leading text - 1)

def matrixPlace (text : List Char) : Place :=
  if (afterNumber text).getD 1 ' ' = 'I' then .matrixRoute (leading text - 1)
  else .matrixMix (leading text - 1) (((afterNumber text).getD 5 ' ').toNat - 65)

def inputPlace (text : List Char) : Place :=
  if text.headD ' ' = 'S' then .inputSource (leading (text.drop 7) - 1)
  else if (afterNumber text).getD 1 ' ' = 'I' then .inputSwitch (.impedance (leading text))
  else .inputSwitch (.pad (leading text))

def placeOfName (name : List Char) : Place :=
  match name.getD 2 ' ' with
  | 's' => masterPlace (name.drop 7)
  | 't' => matrixPlace (name.drop 7)
  | 'p' => inputPlace (name.drop 6)
  | 'm' => if name.length = 19 then .clockSource else .clockSync
  | _ => .saveToHw

abbrev Register := Request × Nat × Nat

def Callbacks.request : Callbacks → Request
  | .ctlSwitch => .cur
  | .ctl _ => .cur
  | .ctlEnum _ => .cur
  | .ctlSync _ => .mem
  | .ctlSave _ => .mem

namespace Control

variable (c : Control)

def registers : List Register := (List.range c.count).map fun ch => (c.callbacks.request, c.index, c.wValue + ch)

def place : Place := placeOfName c.name

end Control

def placeOfRegister : Register → Place
  | (.mem, _, v) => if v = 2 then .clockSync else .saveToHw
  | (.cur, index, v) =>
    match index with
    | 0x0a =>
      if v = 0x100 then .masterSwitch
      else if v < 0x200 then .outputSwitch ((v - 0x101) / 2)
      else if v = 0x200 then .masterVolume
      else .outputVolume ((v - 0x201) / 2)
    | 0x33 => if v % 2 = 0 then .outputLeft (v / 2) else .outputRight (v / 2)
    | 0x01 => if v < 0xa00 then .inputSwitch (.impedance (v - 0x900)) else .inputSwitch (.pad (v - 0xb00))
    | 0x32 => .matrixRoute (v - 0x600)
    | 0x3c => .matrixMix (v / 8) (v % 8)
    | 0x34 => .inputSource v
    | _ => .clockSource

structure DeviceInfo.Fits (info : DeviceInfo) : Prop where
  outputs : ∀ output ∈ info.controlsFn.outputs.zipIdx, (outputSwitchName output.2 output.1).length < 44 ∧
    (outputVolumeName output.2 output.1).length < 44 ∧ ∀ side, (outputSourceName side output.2 output.1).length < 45
  matrixRoute : ∀ i < info.matrixIn, (matrixRouteName i).length < 32
  matrixMix : ∀ i < info.matrixIn, ∀ o < info.matrixOut, (matrixMixName i o).length < 32
  inputSource : ∀ i < info.inputLen, (inputSourceName i).length < 32

section numbers

variable (n : Nat) {c : Char} (digit : c.isDigit = false) (rest : List Char)

theorem decimal_digits {d : Char} (inside : d ∈ decimal n) : d.isDigit = true :=
  Nat.isDigit_of_mem_toDigits (by decide) (by decide) inside

include digit in
theorem leading_decimal : leading (decimal n ++ c :: rest) = n := by
  have digits : ∀ d ∈ decimal n, d.isDigit = true := fun d => decimal_digits n
  unfold leading
  rw [List.takeWhile_append_of_pos digits, List.takeWhile_cons_of_neg (ne_true_of_eq_false digit), List.append_nil]
  exact Nat.ofDigitChars_ten_toDigits

include digit in
theorem afterNumber_decimal : afterNumber (decimal n ++ c :: rest) = c :: rest := by
  have digits : ∀ d ∈ decimal n, d.isDigit = true := fun d => decimal_digits n
  unfold afterNumber
  rw [List.dropWhile_append_of_pos digits, List.dropWhile_cons_of_neg (ne_true_of_eq_false digit)]

include digit in
theorem leading_decimal2 : leading (decimal2 n ++ c :: rest) = n := by
  unfold decimal2
  split
  · exact leading_decimal n digit rest
  · exact leading_decimal n digit rest

include digit in
theorem afterNumber_decimal2 : afterNumber (decimal2 n ++ c :: rest) = c :: rest := by
  unfold decimal2
  split
  · exact afterNumber_decimal n digit rest
  · exact afterNumber_decimal n digit rest

theorem headD_decimal : ((decimal n ++ rest).headD ' ').isDigit = true := by
  have some_ : decimal n ≠ [] := Nat.toDigits_ne_nil
  cases digits : decimal n with
  | nil => exact absurd digits some_
  | cons d others =>
    apply decimal_digits n
    rw [digits]
    exact List.mem_cons_self ..

end numbers

theorem snprintf_eq {size : Nat} {text : List Char} (short : text.length < size) : snprintf size text = text := by
  apply List.take_of_length_le
  omega

theorem masterPlace_decimal (n : Nat) {c : Char} (digit : c.isDigit = false) (rest : List Char) :
    masterPlace (decimal n ++ c :: rest) = outputPlace c (decimal n ++ c :: rest).getLast? (n - 1) := by
  have other : ¬ (decimal n ++ c :: rest).headD ' ' = 'P' := by
    intro same
    have first := headD_decimal n (c :: rest)
    rw [same] at first
    exact absurd first (by decide)
  rw [masterPlace, if_neg other, afterNumber_decimal n digit, leading_decimal n digit]
  rfl

theorem matrixPlace_decimal (n : Nat) {c : Char} (digit : c.isDigit = false) (rest : List Char) :
    matrixPlace (decimal2 n ++ c :: rest) =
      if (c :: rest).getD 1 ' ' = 'I' then .matrixRoute (n - 1)
      else .matrixMix (n - 1) (((c :: rest).getD 5 ' ').toNat - 65) := by
  rw [matrixPlace, afterNumber_decimal2 n digit, leading_decimal2 n digit]

theorem last_append (text : List Char) {tail : List Char} {c : Char} (last : tail.getLast? = some c) :
    (text ++ tail).getLast? = some c := by
  rw [List.getLast?_append, last]
  rfl

section names

variable (i : Nat) (name : List Char)

theorem place_outputSwitchName : placeOfName (outputSwitchName i name) = .outputSwitch i := by
  have text : decimal (i + 1) ++ " (".toList ++ name ++ ") Playback Switch".toList =
      decimal (i + 1) ++ ' ' :: ('(' :: (name ++ ") Playback Switch".toList)) := by
    simp only [List.append_assoc]
    rfl
  show masterPlace (decimal (i + 1) ++ " (".toList ++ name ++ ") Playback Switch".toList) = _
  rw [text, masterPlace_decimal _ rfl, ← text, last_append _ rfl]
  rfl

theorem place_outputVolumeName : placeOfName (outputVolumeName i name) = .outputVolume i := by
  have text : decimal (i + 1) ++ " (".toList ++ name ++ ") Playback Volume".toList =
      decimal (i + 1) ++ ' ' :: ('(' :: (name ++ ") Playback Volume".toList)) := by
    simp only [List.append_assoc]
    rfl
  show masterPlace (decimal (i + 1) ++ " (".toList ++ name ++ ") Playback Volume".toList) = _
  rw [text, masterPlace_decimal _ rfl, ← text, last_append _ rfl]
  rfl

theorem append_around (a b c d e : List Char) (side : Char) :
    a ++ b ++ side :: c ++ d ++ e = a ++ (b ++ side :: (c ++ (d ++ e))) := by
  simp only [List.append_assoc, List.cons_append]

theorem outputSourceName_eq (side : Char) : outputSourceName side i name =
    "Master ".toList ++ (decimal (i + 1) ++ side :: (" (".toList ++ (name ++ ") Source Playback Enum".toList))) :=
  append_around _ _ _ _ _ _

theorem outputSourceName_length (side : Char) :
    (outputSourceName side i name).length = (decimal (i + 1)).length + name.length + 32 := by
  have first : "Master ".toList.length = 7 := rfl
  have open_ : " (".toList.length = 2 := rfl
  have last : ") Source Playback Enum".toList.length = 22 := rfl
  simp only [outputSourceName_eq, List.length_append, List.length_cons, first, open_, last]
  omega

theorem place_outputSourceName {side : Char} (digit : side.isDigit = false) (ignored : ∀ last last', outputPlace side last i =
    outputPlace side last' i) (short : (outputSourceName side i name).length < 45) :
    placeOfName (snprintf 44 (outputSourceName side i name)) = outputPlace side none i := by
  have length : (decimal (i + 1)).length < 36 := by
    rw [outputSourceName_length] at short
    omega
  have text := outputSourceName_eq i name side
  generalize " (".toList ++ (name ++ ") Source Playback Enum".toList) = rest at text
  have cut : (decimal (i + 1) ++ side :: rest).take 36 =
      decimal (i + 1) ++ side :: rest.take (35 - (decimal (i + 1)).length) := by
    rw [List.take_append, List.take_of_length_le (Nat.le_of_lt length),
      show 36 - (decimal (i + 1)).length = 35 - (decimal (i + 1)).length + 1 by omega, List.take_succ_cons]
  have name_ : snprintf 44 (outputSourceName side i name) =
      "Master ".toList ++ (decimal (i + 1) ++ side :: rest.take (35 - (decimal (i + 1)).length)) := by
    rw [← cut, text, snprintf, List.take_append]
    rfl
  rw [name_]
  show masterPlace (decimal (i + 1) ++ side :: _) = _
  rw [masterPlace_decimal _ digit]
  exact ignored _ _

theorem place_matrixRouteName : placeOfName (matrixRouteName i) = .matrixRoute i := by
  show matrixPlace (decimal2 (i + 1) ++ ' ' :: "Input Playback Route".toList) = _
  rw [matrixPlace_decimal _ rfl]
  rfl

theorem place_matrixMixName {o : Nat} (few : o < 8) : placeOfName (matrixMixName i o) = .matrixMix i o := by
  have text : decimal2 (i + 1) ++ " Mix ".toList ++ Char.ofNat ((o + 65) % 256) :: " Playback Volume".toList =
      decimal2 (i + 1) ++ ' ' :: ("Mix ".toList ++ Char.ofNat ((o + 65) % 256) :: " Playback Volume".toList) := by
    rw [List.append_assoc]
    rfl
  show matrixPlace (decimal2 (i + 1) ++ " Mix ".toList ++ Char.ofNat ((o + 65) % 256) :: " Playback Volume".toList) = _
  rw [text, matrixPlace_decimal _ rfl]
  show Place.matrixMix i ((Char.ofNat ((o + 65) % 256)).toNat - 65) = _
  have letter : ∀ o < 8, (Char.ofNat ((o + 65) % 256)).toNat - 65 = o := by decide
  rw [letter o few]

theorem place_inputSourceName : placeOfName (inputSourceName i) = .inputSource i := by
  show Place.inputSource (leading (decimal2 (i + 1) ++ ' ' :: "Capture Route".toList) - 1) = _
  rw [leading_decimal2 _ rfl]
  rfl

theorem inputPlace_decimal (n : Nat) {c : Char} (digit : c.isDigit = false) (rest : List Char) :
    inputPlace (decimal n ++ c :: rest) =
      .inputSwitch (if (c :: rest).getD 1 ' ' = 'I' then .impedance n else .pad n) := by
  have other : ¬ (decimal n ++ c :: rest).headD ' ' = 'S' := by
    intro same
    have first := headD_decimal n (c :: rest)
    rw [same] at first
    exact absurd first (by decide)
  rw [inputPlace, if_neg other, afterNumber_decimal n digit, leading_decimal n digit]
  split
  · rfl
  · rfl

theorem place_inputSwitchName (s : InputSwitch) : placeOfName (inputSwitchName s) = .inputSwitch s := by
  cases s with
  | impedance n =>
    show inputPlace (decimal n ++ ' ' :: "Impedance Switch".toList) = _
    rw [inputPlace_decimal _ rfl]
    rfl
  | pad n =>
    show inputPlace (decimal n ++ ' ' :: "Pad Switch".toList) = _
    rw [inputPlace_decimal _ rfl]
    rfl

end names

def Place.block : Place → Nat
  | .masterSwitch | .masterVolume => 0
  | .outputSwitch _ | .outputVolume _ | .outputLeft _ | .outputRight _ => 1
  | .inputSwitch _ => 2
  | .matrixRoute _ | .matrixMix _ _ => 3
  | .inputSource _ => 4
  | .clockSource | .clockSync | .saveToHw => 5

structure Tidy (k : Nat) (places : List Place) : Prop where
  nodup : places.Nodup
  before : ∀ p ∈ places, p.block < k

theorem Tidy.append {k : Nat} {places next : List Place} (tidy : Tidy k places) (nodup : next.Nodup)
    (block : ∀ p ∈ next, p.block = k) : Tidy (k + 1) (places ++ next) := by
  constructor
  · refine List.nodup_append.mpr ⟨tidy.nodup, nodup, fun p inside q behind same => ?_⟩
    have below := tidy.before p inside
    rw [same, block q behind] at below
    exact Nat.lt_irrefl k below
  · intro p inside
    obtain inside | inside := List.mem_append.mp inside
    · exact Nat.lt_succ_of_lt (tidy.before p inside)
    · rw [block p inside]
      exact Nat.lt_succ_self k

namespace DeviceInfo

variable (info : DeviceInfo)

def outputPlaces (i : Nat) : List Place := [.outputSwitch i, .outputVolume i, .outputLeft i, .outputRight i]

def matrixPlaces (i : Nat) : List Place := .matrixRoute i :: (List.range info.matrixOut).map (.matrixMix i)

def places : List Place :=
  [.masterSwitch, .masterVolume] ++
    (List.range info.controlsFn.outputs.length).flatMap outputPlaces ++ info.controlsFn.inputSwitches.map .inputSwitch ++
    (List.range info.matrixIn).flatMap info.matrixPlaces ++ (List.range info.inputLen).map .inputSource ++
    [.clockSource, .clockSync, .saveToHw]

theorem nodup_outputPlaces (n : Nat) : ((List.range n).flatMap outputPlaces).Nodup := by
  rw [List.nodup_flatMap]
  refine ⟨fun i _ => by simp [outputPlaces], List.nodup_range.imp fun {i j} other => ?_⟩
  have other' : ¬ j = i := fun same => other same.symm
  simp [Function.onFun, outputPlaces, other']

theorem block_outputPlaces (i : Nat) : ∀ p ∈ outputPlaces i, p.block = 1 := by
  simp [outputPlaces, Place.block]

theorem block_matrixPlaces (i : Nat) : ∀ p ∈ info.matrixPlaces i, p.block = 3 := by
  simp [matrixPlaces, Place.block]

theorem block_flatMap {k : Nat} {f : Nat → List Place} (each : ∀ i, ∀ p ∈ f i, p.block = k) (numbers : List Nat) :
    ∀ p ∈ numbers.flatMap f, p.block = k := by
  intro p inside
  obtain ⟨i, -, inside⟩ := List.mem_flatMap.mp inside
  exact each i p inside

theorem nodup_matrixPlaces (n : Nat) : ((List.range n).flatMap info.matrixPlaces).Nodup := by
  rw [List.nodup_flatMap]
  constructor
  · intro i _
    rw [matrixPlaces, List.nodup_cons]
    refine ⟨by simp, List.nodup_range.map fun o p same => ?_⟩
    injection same
  · refine List.nodup_range.imp fun {i j} other => ?_
    simp only [Function.onFun, matrixPlaces, List.disjoint_left]
    intro p left right
    rw [List.mem_cons, List.mem_map] at left right
    obtain rfl | ⟨o, -, rfl⟩ := left
    · obtain same | ⟨o, -, same⟩ := right
      · exact other (Place.matrixRoute.inj same)
      · exact Place.noConfusion same
    · obtain same | ⟨o', -, same⟩ := right
      · exact Place.noConfusion same
      · exact other (Place.matrixMix.inj same).1.symm

theorem nodup_places : info.places.Nodup := by
  have switches : (info.controlsFn.inputSwitches.map Place.inputSwitch).Nodup :=
    info.controlsFn.distinct.map fun _ _ => Place.inputSwitch.inj
  have sources : ((List.range info.inputLen).map Place.inputSource).Nodup :=
    List.nodup_range.map fun _ _ => Place.inputSource.inj
  have tidy : Tidy 1 [Place.masterSwitch, .masterVolume] := ⟨by decide, by decide⟩
  have tidy := tidy.append (nodup_outputPlaces info.controlsFn.outputs.length) (block_flatMap block_outputPlaces _)
  have tidy := tidy.append switches (by simp [Place.block])
  have tidy := tidy.append (info.nodup_matrixPlaces info.matrixIn) (block_flatMap info.block_matrixPlaces _)
  have tidy := tidy.append sources (by simp [Place.block])
  have tidy := @Tidy.append _ _ [.clockSource, .clockSync, .saveToHw] tidy (by decide) (by decide)
  exact tidy.nodup

variable {info}

theorem forall_controls {P : Control → Prop} (masters : P masterSwitch ∧ P masterVolume)
    (outputs : ∀ output ∈ info.controlsFn.outputs.zipIdx, ∀ c ∈ info.addOutputCtls output.2 output.1, P c)
    (switches : ∀ s ∈ info.controlsFn.inputSwitches, P (inputSwitch s))
    (matrix : ∀ i < info.matrixIn, P (info.matrixRoute i) ∧ ∀ o < info.matrixOut, P (info.matrixMix i o))
    (sources : ∀ i < info.inputLen, P (info.inputSource i)) (others : P clockSource ∧ P clockSync ∧ P saveToHw) :
    ∀ c ∈ info.scarlettMixerControls, P c := by
  simp only [scarlettMixerControls, deviceControls, matrixCtls, List.mem_append, List.mem_flatMap, List.mem_map,
    List.mem_range, List.mem_cons, List.not_mem_nil, or_false]
  rintro c (((((rfl | rfl) | (⟨output, inside, inside'⟩ | ⟨s, inside, rfl⟩)) | ⟨i, below, (rfl | ⟨o, below', rfl⟩)⟩) |
    ⟨i, below, rfl⟩) | (rfl | rfl | rfl))
  · exact masters.1
  · exact masters.2
  · exact outputs output inside c inside'
  · exact switches s inside
  · exact (matrix i below).1
  · exact (matrix i below).2 o below'
  · exact sources i below
  · exact others.1
  · exact others.2.1
  · exact others.2.2

section names

variable (fits : info.Fits)

theorem snprintf_output {text : List Char} (short : text.length < 44) : snprintf 44 (snprintf 45 text) = text := by
  rw [snprintf_eq (Nat.lt_succ_of_lt short), snprintf_eq short]

theorem snprintf_matrix {text : List Char} (short : text.length < 32) : snprintf 44 (snprintf 32 text) = text := by
  rw [snprintf_eq short, snprintf_eq (Nat.lt_of_lt_of_le short (by decide))]

section outputs

variable {output : List Char × Nat} (inside : output ∈ info.controlsFn.outputs.zipIdx)

include fits inside

theorem place_outputSwitch : (outputSwitch output.2 output.1).place = .outputSwitch output.2 := by
  show placeOfName (snprintf 44 (snprintf 45 _)) = _
  rw [snprintf_output (fits.outputs output inside).1, place_outputSwitchName]

theorem place_outputVolume : (outputVolume output.2 output.1).place = .outputVolume output.2 := by
  show placeOfName (snprintf 44 (snprintf 45 _)) = _
  rw [snprintf_output (fits.outputs output inside).2.1, place_outputVolumeName]

theorem place_outputLeft : (info.outputLeft output.2 output.1).place = .outputLeft output.2 := by
  have short := (fits.outputs output inside).2.2 'L'
  show placeOfName (snprintf 44 (snprintf 45 _)) = _
  rw [snprintf_eq short, place_outputSourceName _ _ rfl (fun _ _ => rfl) short]
  rfl

theorem place_outputRight : (info.outputRight output.2 output.1).place = .outputRight output.2 := by
  have short := (fits.outputs output inside).2.2 'R'
  show placeOfName (snprintf 44 (snprintf 45 _)) = _
  rw [snprintf_eq short, place_outputSourceName _ _ rfl (fun _ _ => rfl) short]
  rfl

theorem place_output : (info.addOutputCtls output.2 output.1).map Control.place = outputPlaces output.2 := by
  rw [addOutputCtls, List.map_cons, List.map_cons, List.map_cons, List.map_cons, place_outputSwitch fits inside,
    place_outputVolume fits inside, place_outputLeft fits inside, place_outputRight fits inside]
  rfl

end outputs

theorem place_inputSwitch {s : InputSwitch} (numbered : s.number < 10) : (inputSwitch s).place = .inputSwitch s := by
  have digits : (decimal s.number).length = 1 := by
    rw [decimal, Nat.toDigits_of_lt_base numbered]
    rfl
  cases s with
  | impedance n =>
    have short : (inputSwitchName (.impedance n)).length < 44 := by
      show (_ ++ decimal n ++ _).length < 44
      simp [show (decimal n).length = 1 from digits]
    show placeOfName (snprintf 44 _) = _
    rw [snprintf_eq short, place_inputSwitchName]
  | pad n =>
    have short : (inputSwitchName (.pad n)).length < 44 := by
      show (_ ++ decimal n ++ _).length < 44
      simp [show (decimal n).length = 1 from digits]
    show placeOfName (snprintf 44 _) = _
    rw [snprintf_eq short, place_inputSwitchName]

include fits in
theorem place_matrixRoute {i : Nat} (below : i < info.matrixIn) : (info.matrixRoute i).place = .matrixRoute i := by
  show placeOfName (snprintf 44 (snprintf 32 _)) = _
  rw [snprintf_matrix (fits.matrixRoute i below), place_matrixRouteName]

include fits in
theorem place_matrixMix (few : info.matrixOut ≤ 8) {i o : Nat} (below : i < info.matrixIn) (below' : o < info.matrixOut) :
    (info.matrixMix i o).place = .matrixMix i o := by
  show placeOfName (snprintf 44 (matrixMixName i o)) = .matrixMix i o
  rw [snprintf_eq (Nat.lt_of_lt_of_le (fits.matrixMix i below o below') (by decide)),
    place_matrixMixName i (Nat.lt_of_lt_of_le below' few)]

include fits in
theorem place_matrix (few : info.matrixOut ≤ 8) {i : Nat} (below : i < info.matrixIn) :
    (info.matrixCtls i).map Control.place = info.matrixPlaces i := by
  rw [matrixCtls, List.map_cons, List.map_map, place_matrixRoute fits below, matrixPlaces]
  congr 1
  exact List.map_congr_left fun o inside => place_matrixMix fits few below (List.mem_range.mp inside)

include fits in
theorem place_inputSource {i : Nat} (below : i < info.inputLen) : (info.inputSource i).place = .inputSource i := by
  show placeOfName (snprintf 44 (snprintf 32 _)) = _
  rw [snprintf_matrix (fits.inputSource i below), place_inputSourceName]

include fits in
theorem map_place (few : info.matrixOut ≤ 8) : info.scarlettMixerControls.map Control.place = info.places := by
  have outputs : (info.controlsFn.outputs.zipIdx.flatMap fun output => info.addOutputCtls output.2 output.1).map Control.place =
      (List.range info.controlsFn.outputs.length).flatMap outputPlaces := by
    rw [List.map_flatMap, List.flatMap_congr fun output inside => place_output fits inside, List.range_eq_range',
      ← List.zipIdx_map_snd, List.flatMap_map]
  have switches : (info.controlsFn.inputSwitches.map inputSwitch).map Control.place =
      info.controlsFn.inputSwitches.map .inputSwitch := by
    rw [List.map_map]
    exact List.map_congr_left fun s inside => place_inputSwitch (info.controlsFn.numbered s inside)
  have matrix : ((List.range info.matrixIn).flatMap info.matrixCtls).map Control.place =
      (List.range info.matrixIn).flatMap info.matrixPlaces := by
    rw [List.map_flatMap]
    exact List.flatMap_congr fun i inside => place_matrix fits few (List.mem_range.mp inside)
  have sources : ((List.range info.inputLen).map info.inputSource).map Control.place =
      (List.range info.inputLen).map .inputSource := by
    rw [List.map_map]
    exact List.map_congr_left fun i inside => place_inputSource fits (List.mem_range.mp inside)
  simp only [scarlettMixerControls, deviceControls, List.map_append, outputs, switches, matrix, sources, places,
    List.append_assoc]
  rfl

include fits in
theorem places_differ (few : info.matrixOut ≤ 8) : info.scarlettMixerControls.Pairwise fun a b => a.place ≠ b.place := by
  rw [← List.pairwise_map, map_place fits few]
  exact info.nodup_places

end names

end DeviceInfo

theorem Control.mem_registers {c : Control} {r : Register} :
    r ∈ c.registers ↔ ∃ ch < c.count, (c.callbacks.request, c.index, c.wValue + ch) = r := by
  unfold Control.registers
  rw [List.mem_map]
  simp only [List.mem_range]

theorem wValue_eq {offset num : Nat} (below : num < 256) : offset <<< 8 ||| num = offset * 256 + num := by
  rw [← Nat.shiftLeft_add_eq_or_of_lt (i := 8) below, Nat.shiftLeft_eq]

theorem matrixMix_num (i o : Nat) : 0x00 <<< 8 ||| (i <<< 3 + (o &&& 0x07)) = 8 * i + o % 8 := by
  rw [Nat.zero_shiftLeft, Nat.zero_or, Nat.shiftLeft_eq, show 0x07 = 2 ^ 3 - 1 from rfl, Nat.and_two_pow_sub_one_eq_mod]
  omega

theorem matrixRoute_num {i : Nat} (below : i < 512) : 0x06 <<< 8 ||| i = 0x600 + i := by
  show 3 <<< 9 ||| i = _
  rw [← Nat.shiftLeft_add_eq_or_of_lt (i := 9) below]
  rfl

namespace DeviceInfo

variable {info : DeviceInfo}

theorem register_output (i : Nat) (below : i < 127) (name : List Char) :
    (∀ r ∈ (outputSwitch i name).registers, placeOfRegister r = .outputSwitch i) ∧
      (∀ r ∈ (outputVolume i name).registers, placeOfRegister r = .outputVolume i) ∧
      (∀ r ∈ (info.outputLeft i name).registers, placeOfRegister r = .outputLeft i) ∧
      (∀ r ∈ (info.outputRight i name).registers, placeOfRegister r = .outputRight i) := by
  refine ⟨?_, ?_, ?_, ?_⟩
  · intro r inside
    obtain ⟨ch, channel, rfl⟩ := Control.mem_registers.mp inside
    replace channel : ch < 2 := channel
    show placeOfRegister (.cur, 0x0a, (0x01 <<< 8 ||| (2 * i + 1)) + ch) = _
    rw [wValue_eq (by omega), placeOfRegister, if_neg (by omega), if_pos (by omega)]
    congr 1
    omega
  · intro r inside
    obtain ⟨ch, channel, rfl⟩ := Control.mem_registers.mp inside
    replace channel : ch < 2 := channel
    show placeOfRegister (.cur, 0x0a, (0x02 <<< 8 ||| (2 * i + 1)) + ch) = _
    rw [wValue_eq (by omega), placeOfRegister, if_neg (by omega), if_neg (by omega), if_neg (by omega)]
    congr 1
    omega
  · intro r inside
    obtain ⟨ch, channel, rfl⟩ := Control.mem_registers.mp inside
    replace channel : ch < 1 := channel
    show placeOfRegister (.cur, 0x33, (0x00 <<< 8 ||| (2 * i)) + ch) = _
    rw [wValue_eq (by omega), placeOfRegister, if_pos (by omega)]
    congr 1
    omega
  · intro r inside
    obtain ⟨ch, channel, rfl⟩ := Control.mem_registers.mp inside
    replace channel : ch < 1 := channel
    show placeOfRegister (.cur, 0x33, (0x00 <<< 8 ||| (2 * i + 1)) + ch) = _
    rw [wValue_eq (by omega), placeOfRegister, if_neg (by omega)]
    congr 1
    omega

theorem register_inputSwitch {s : InputSwitch} (numbered : s.number < 10) :
    ∀ r ∈ (inputSwitch s).registers, placeOfRegister r = .inputSwitch s := by
  intro r inside
  obtain ⟨ch, channel, rfl⟩ := Control.mem_registers.mp inside
  cases s with
  | impedance n =>
    replace channel : ch < 1 := channel
    replace numbered : n < 10 := numbered
    show placeOfRegister (.cur, 0x01, (0x09 <<< 8 ||| n) + ch) = _
    rw [wValue_eq (by omega), placeOfRegister, if_pos (by omega), show 0x09 * 256 + n + ch - 0x900 = n by omega]
  | pad n =>
    replace channel : ch < 1 := channel
    replace numbered : n < 10 := numbered
    show placeOfRegister (.cur, 0x01, (0x0b <<< 8 ||| n) + ch) = _
    rw [wValue_eq (by omega), placeOfRegister, if_neg (by omega), show 0x0b * 256 + n + ch - 0xb00 = n by omega]

theorem register_matrix (i : Nat) :
    (i < 512 → ∀ r ∈ (info.matrixRoute i).registers, placeOfRegister r = .matrixRoute i) ∧
      ∀ o < 8, ∀ r ∈ (info.matrixMix i o).registers, placeOfRegister r = .matrixMix i o := by
  constructor
  · intro below r inside
    obtain ⟨ch, channel, rfl⟩ := Control.mem_registers.mp inside
    replace channel : ch < 1 := channel
    have value : (0x06 <<< 8 ||| i) + ch - 0x600 = i := by
      rw [matrixRoute_num below]
      omega
    exact congrArg Place.matrixRoute value
  · intro o below r inside
    obtain ⟨ch, channel, rfl⟩ := Control.mem_registers.mp inside
    replace channel : ch < 1 := channel
    have value := matrixMix_num i o
    have row : ((0x00 <<< 8 ||| (i <<< 3 + (o &&& 0x07))) + ch) / 8 = i := by omega
    have column : ((0x00 <<< 8 ||| (i <<< 3 + (o &&& 0x07))) + ch) % 8 = o := by omega
    exact congr (congrArg Place.matrixMix row) column

theorem register_inputSource (i : Nat) : ∀ r ∈ (info.inputSource i).registers, placeOfRegister r = .inputSource i := by
  intro r inside
  obtain ⟨ch, channel, rfl⟩ := Control.mem_registers.mp inside
  replace channel : ch < 1 := channel
  show placeOfRegister (.cur, 0x34, (0x00 <<< 8 ||| i) + ch) = _
  rw [Nat.zero_shiftLeft, Nat.zero_or, placeOfRegister]
  exact congrArg Place.inputSource (by omega)

theorem register_place (fits : info.Fits) (few : info.matrixOut ≤ 8) (pairs : info.controlsFn.outputs.length ≤ 127)
    (inputs : info.matrixIn ≤ 512) :
    ∀ c ∈ info.scarlettMixerControls, ∀ r ∈ c.registers, placeOfRegister r = c.place := by
  apply forall_controls
  · exact ⟨by decide, by decide⟩
  · intro output inside c inside'
    have below := (List.mem_zipIdx (x := output.1) (i := output.2) inside).2.1
    rw [Nat.zero_add] at below
    obtain ⟨switch, volume, left, right⟩ := @register_output info output.2 (by omega) output.1
    rw [addOutputCtls, List.mem_cons, List.mem_cons, List.mem_cons, List.mem_singleton] at inside'
    obtain rfl | rfl | rfl | rfl := inside'
    · rw [place_outputSwitch fits inside]
      exact switch
    · rw [place_outputVolume fits inside]
      exact volume
    · rw [place_outputLeft fits inside]
      exact left
    · rw [place_outputRight fits inside]
      exact right
  · intro s inside
    have numbered := info.controlsFn.numbered s inside
    rw [place_inputSwitch numbered]
    exact register_inputSwitch numbered
  · intro i below
    obtain ⟨route, mix⟩ := @register_matrix info i
    refine ⟨?_, fun o below' => ?_⟩
    · rw [place_matrixRoute fits below]
      exact route (Nat.lt_of_lt_of_le below inputs)
    · rw [place_matrixMix fits few below below']
      exact mix o (Nat.lt_of_lt_of_le below' few)
  · intro i below
    rw [place_inputSource fits below]
    exact register_inputSource i
  · exact ⟨by decide, by decide, by decide⟩

section members

variable (info)

theorem masterVolume_mem : masterVolume ∈ info.scarlettMixerControls := by simp [scarlettMixerControls]

theorem outputSwitch_mem {i : Nat} (below : i < info.controlsFn.outputs.length) :
    outputSwitch i info.controlsFn.outputs[i] ∈ info.scarlettMixerControls := by
  have output : (info.controlsFn.outputs[i], i) ∈ info.controlsFn.outputs.zipIdx := by
    rw [List.mk_mem_zipIdx_iff_getElem?]
    exact List.getElem?_eq_getElem below
  have inside : outputSwitch i info.controlsFn.outputs[i] ∈ info.deviceControls :=
    List.mem_append_left _ (List.mem_flatMap.mpr ⟨_, output, List.mem_cons_self ..⟩)
  simp [scarlettMixerControls, inside]

theorem matrixCtls_mem {i : Nat} (below : i < info.matrixIn) {c : Control} (inside : c ∈ info.matrixCtls i) :
    c ∈ info.scarlettMixerControls := by
  have matrix : c ∈ (List.range info.matrixIn).flatMap info.matrixCtls :=
    List.mem_flatMap.mpr ⟨i, List.mem_range.mpr below, inside⟩
  simp only [scarlettMixerControls, List.mem_append, matrix, or_true, true_or]

theorem matrixMix_mem {i o : Nat} (below : i < info.matrixIn) (below' : o < info.matrixOut) :
    info.matrixMix i o ∈ info.scarlettMixerControls :=
  info.matrixCtls_mem below (List.mem_cons_of_mem _ (List.mem_map.mpr ⟨o, List.mem_range.mpr below', rfl⟩))

theorem clockSync_mem : clockSync ∈ info.scarlettMixerControls := by simp [scarlettMixerControls]

end members

theorem eq_of_shared {ρ : Type} {l : List Control} (f : Control → List ρ)
    (apart : l.Pairwise fun a b => (f a).Disjoint (f b)) {a b : Control} (left : a ∈ l) (right : b ∈ l) {r : ρ}
    (inside : r ∈ f a) (inside' : r ∈ f b) : a = b := by
  have symmetric : Std.Symm fun a b : Control => (f a).Disjoint (f b) :=
    ⟨fun _ _ apart _ inside inside' => apart inside' inside⟩
  by_contra other
  exact apart.forall left right other inside inside'

theorem s18i6_fits : s18i6Info.Fits where
  outputs := by
    simp only [outputSourceName_length, forall_const]
    decide +kernel
  matrixRoute := by decide +kernel
  matrixMix := by decide +kernel
  inputSource := by decide +kernel

end DeviceInfo

end AlsaDriver.Usb.Scarlett
