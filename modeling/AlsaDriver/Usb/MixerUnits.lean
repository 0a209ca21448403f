import AlsaDriver.Lib.Walks
import AlsaDriver.Usb.Descriptors

namespace AlsaDriver.Usb

open Extra

def UAC_VERSION_1 : Nat := 0x00
def UAC_VERSION_2 : Nat := 0x20

def UAC_INPUT_TERMINAL : U8 := 0x02
def UAC_OUTPUT_TERMINAL : U8 := 0x03
def UAC_MIXER_UNIT : U8 := 0x04
def UAC_SELECTOR_UNIT : U8 := 0x05
def UAC_FEATURE_UNIT : U8 := 0x06
def UAC1_PROCESSING_UNIT : U8 := 0x07
def UAC1_EXTENSION_UNIT : U8 := 0x08
def UAC2_EFFECT_UNIT : U8 := 0x07
def UAC2_EXTENSION_UNIT_V2 : U8 := 0x09
def UAC2_SAMPLE_RATE_CONVERTER : U8 := 0x0d

structure UsbAudioTerm where
  id : Nat
  type : Nat
  channels : Nat
  chconfig : Nat
  name : Nat
  deriving DecidableEq

def UsbAudioTerm.zero : UsbAudioTerm := ⟨0, 0, 0, 0, 0⟩

/-- The part of `struct mixer_build` that stays, and the answers that the parser gets from outside: `ignored` for the
    mapping tables, `mappedName` for the names of a selector's inputs, `added` for the memory and the controls that a
    selector needs before and behind the names of its inputs, and for the controls of a processing unit. -/
structure MixerBuild where
  buffer : Extra
  protocol : Nat
  ignored : U8 → Bool
  mappedName : U8 → Nat → Bool
  allocated : U8 → Int
  nameAllocated : U8 → Nat → Bool
  added : U8 → Int

structure Parsed where
  unitbitmap : U8 → Bool
  turned : List U8

namespace MixerBuild

def ENOMEM : Int := 12
def ENODEV : Int := 19
def EINVAL : Int := 22

variable (m : MixerBuild)

def baSourceID (p i : Nat) : U8 := m.buffer.byte (p + 5 + i)

def procSourceID (p i : Nat) : U8 := m.buffer.byte (p + 7 + i)

def findAudioControlUnit (unit : U8) : Option Nat :=
  (searchLoop (m.buffer.sndUsbFindDesc USB_DT_CS_INTERFACE)
    (fun p => 4 ≤ m.buffer.bLength p && UAC_INPUT_TERMINAL ≤ m.buffer.bDescriptorSubtype p &&
      m.buffer.bDescriptorSubtype p ≤ UAC2_SAMPLE_RATE_CONVERTER && m.buffer.bUnitID p == unit)
    (m.buffer.extralen + 1) none).join

/-- The channel configuration behind `bNrChannels` at `p`. -/
def wChannelConfig (p : Nat) : Nat := if m.protocol = UAC_VERSION_1 then m.buffer.le16 (p + 1) else m.buffer.le32 (p + 1)

def virtualType (p : Nat) : Nat := m.buffer.bDescriptorSubtype p * 65536

def uacMixerUnitBNrChannels (p : Nat) : U8 := m.baSourceID p (m.buffer.byte (p + 4))

def uacProcessingUnitBControlSize (p : Nat) : U8 :=
  m.procSourceID p (m.buffer.byte (p + 6) + if m.protocol = UAC_VERSION_1 then 4 else 6)

def lastByte (p : Nat) : U8 := m.buffer.byte (p + m.buffer.bLength p - 1)

/-- The loop of `check_input_term` and the calls that it makes, for so many turns; `none` where it is still going on. -/
def checkInputTermLoop : Nat → U8 → UsbAudioTerm → Option (Int × UsbAudioTerm)
  | 0, _, _ => none
  | turns + 1, id, term =>
    match m.findAudioControlUnit id with
    | none => some (- ENODEV, term)
    | some p =>
      let byte := fun i => m.buffer.byte (p + i)
      let subtype := m.buffer.bDescriptorSubtype p
      let term := { term with id := id }
      if subtype = UAC_INPUT_TERMINAL then
        if m.protocol = UAC_VERSION_1 then
          some (0, { term with
            type := m.buffer.le16 (p + 4)
            channels := byte 7
            chconfig := m.buffer.le16 (p + 8)
            name := byte 11 })
        else
          -- the call clears the whole terminal, and what was read of it before
          match checkInputTermLoop turns (byte 7) UsbAudioTerm.zero with
          | none => none
          | some (err, term) => some (if err < 0 then (err, term) else (0, term))
      else if subtype = UAC_FEATURE_UNIT then checkInputTermLoop turns (byte 4) term
      else if subtype = UAC_MIXER_UNIT then
        some (0, { term with
          type := m.virtualType p
          channels := m.uacMixerUnitBNrChannels p
          chconfig := m.wChannelConfig (p + 5 + byte 4)
          name := m.lastByte p })
      else if subtype = UAC_SELECTOR_UNIT ∨ subtype = UAC2_CLOCK_SELECTOR then
        match checkInputTermLoop turns (m.baSourceID p 0) UsbAudioTerm.zero with
        | none => none
        | some (err, term) =>
          if err < 0 then some (err, term)
          else some (0, { term with type := m.virtualType p, id := id, name := m.lastByte p })
      else if subtype = UAC1_PROCESSING_UNIT ∨ subtype = UAC1_EXTENSION_UNIT ∨ subtype = UAC2_EXTENSION_UNIT_V2 then
        if m.protocol = UAC_VERSION_2 ∧ subtype = UAC2_EFFECT_UNIT then some (0, term)
        else if byte 6 ≠ 0 then checkInputTermLoop turns (m.procSourceID p 0) term
        else
          some (0, { term with
            type := m.virtualType p
            channels := m.procSourceID p (byte 6)
            chconfig := m.wChannelConfig (p + 7 + byte 6)
            name := m.procSourceID p (byte 6 + m.uacProcessingUnitBControlSize p) })
      else if subtype = UAC2_CLOCK_SOURCE then
        some (0, { term with type := m.virtualType p, id := id, name := byte 7 })
      else some (- ENODEV, term)

def checkInputTerm (turns : Nat) (id : U8) : Option (Int × UsbAudioTerm) := m.checkInputTermLoop turns id UsbAudioTerm.zero

def parsePins (parse : U8 → Parsed → Option (Int × Parsed)) : List U8 → Parsed → Option (Int × Parsed)
  | [], s => some (0, s)
  | id :: rest, s =>
    match parse id s with
    | none => none
    | some (err, s) => if err < 0 then some (err, s) else parsePins parse rest s

def parseMixerPins (parse : U8 → Parsed → Option (Int × Parsed)) (check : U8 → Option (Int × UsbAudioTerm)) :
    List U8 → Parsed → Option (Int × Parsed)
  | [], s => some (0, s)
  | id :: rest, s =>
    match parse id s with
    | none => none
    | some (err, s) =>
      if err < 0 then parseMixerPins parse check rest s
      else
        match check id with
        | none => none
        | some (err, _) => if err < 0 then some (err, s) else parseMixerPins parse check rest s

def namePins (check : U8 → Option (Int × UsbAudioTerm)) (unitid : U8) : List (Nat × U8) → Option Int
  | [] => some 0
  | (i, id) :: rest =>
    if m.nameAllocated unitid i then
      if m.mappedName unitid i then namePins check unitid rest
      else (check id).bind fun _ => namePins check unitid rest
    else some (- ENOMEM)

variable (parse : U8 → Parsed → Option (Int × Parsed)) (check : U8 → Option (Int × UsbAudioTerm)) (unitid : U8) (p : Nat)
  (s : Parsed)

def sourceIDs : List U8 := (List.range (m.buffer.byte (p + 4))).map (m.baSourceID p)

def procSourceIDs : List U8 := (List.range (m.buffer.byte (p + 6))).map (m.procSourceID p)

def parseAudioMixerUnit : Option (Int × Parsed) :=
  let inputPins := m.buffer.byte (p + 4)
  if m.buffer.bLength p < 11 ∨ inputPins = 0 ∨ m.uacMixerUnitBNrChannels p = 0 then some (- EINVAL, s)
  else if (m.buffer.bLength p).val ≤ 10 + inputPins then some (0, s)
  else parseMixerPins parse check (m.sourceIDs p) s

def parseAudioFeatureUnit : Option (Int × Parsed) :=
  let csize := m.buffer.byte (p + 5)
  if m.protocol = UAC_VERSION_1 ∧ csize = 0 then some (- EINVAL, s)
  else if (m.buffer.bLength p).val < (if m.protocol = UAC_VERSION_1 then 7 + csize.val else 10) then some (- EINVAL, s)
  else
    let bSourceID := m.buffer.byte (p + 4)
    match parse bSourceID s with
    | none => none
    | some (err, s) =>
      if err < 0 then some (err, s)
      else (check bSourceID).map fun (err, _) => (if err < 0 then err else 0, s)

def buildAudioProcunit : Option (Int × Parsed) :=
  let numIns := m.buffer.byte (p + 6)
  if m.buffer.bLength p < 13 ∨ (m.buffer.bLength p).val < 13 + numIns ∨
      (m.buffer.bLength p).val < numIns + m.uacProcessingUnitBControlSize p then some (- EINVAL, s)
  else (parsePins parse (m.procSourceIDs p) s).map fun (err, s) => (if err < 0 then err else min (m.added unitid) 0, s)

def parseAudioSelectorUnit : Option (Int × Parsed) :=
  let bNrInPins := m.buffer.byte (p + 4)
  if bNrInPins = 0 ∨ (m.buffer.bLength p).val < 5 + bNrInPins then some (- EINVAL, s)
  else
    match parsePins parse (m.sourceIDs p) s with
    | none => none
    | some (err, s) =>
      if err < 0 then some (err, s)
      else if bNrInPins = 1 ∨ m.ignored unitid then some (0, s)
      else if m.allocated unitid < 0 then some (m.allocated unitid, s)
      else (m.namePins check unitid ((List.range bNrInPins).map fun i => (i, m.baSourceID p i))).map fun err =>
        (if err < 0 then err else min (m.added unitid) 0, s)

/-- `parse_audio_unit` with so many calls in each other, and as many turns in `check_input_term`. -/
def parseAudioUnit : Nat → U8 → Parsed → Option (Int × Parsed)
  | 0, _, _ => none
  | turns + 1, unitid, s =>
    if s.unitbitmap unitid then some (0, s)
    else
      let s := { s with unitbitmap := Function.update s.unitbitmap unitid true }
      match m.findAudioControlUnit unitid with
      | none => some (- EINVAL, s)
      | some p =>
        let parse := parseAudioUnit turns
        let check := m.checkInputTerm turns
        let subtype := m.buffer.bDescriptorSubtype p
        let turned := { s with turned := s.turned ++ [unitid] }
        if subtype = UAC_INPUT_TERMINAL ∨ subtype = UAC2_CLOCK_SOURCE then some (0, s)
        else if subtype = UAC_MIXER_UNIT then m.parseAudioMixerUnit parse check p turned
        else if subtype = UAC_SELECTOR_UNIT ∨ subtype = UAC2_CLOCK_SELECTOR then
          m.parseAudioSelectorUnit parse check unitid p turned
        else if subtype = UAC_FEATURE_UNIT then m.parseAudioFeatureUnit parse check p turned
        else if subtype = UAC1_PROCESSING_UNIT then
          if m.protocol = UAC_VERSION_1 then m.buildAudioProcunit parse unitid p turned else some (0, s)
        else if subtype = UAC1_EXTENSION_UNIT ∨ subtype = UAC2_EXTENSION_UNIT_V2 then
          m.buildAudioProcunit parse unitid p turned
        else some (- EINVAL, s)

/-- One output terminal of `snd_usb_mixer_controls`, whose own id is marked first. -/
def parseTerminal (turns p : Nat) (s : Parsed) : Option (Int × Parsed) :=
  if (m.buffer.bLength p).val < (if m.protocol = UAC_VERSION_1 then 9 else 12) then some (0, s)
  else
    let s := { s with unitbitmap := Function.update s.unitbitmap (m.buffer.bUnitID p) true }
    match m.parseAudioUnit turns (m.buffer.byte (p + 7)) s with
    | none => none
    | some (err, s) =>
      if err < 0 ∧ err ≠ - EINVAL then some (err, s)
      else if m.protocol = UAC_VERSION_1 then some (0, s)
      else (m.parseAudioUnit turns (m.buffer.byte (p + 8)) s).map fun (err, s) =>
        (if err < 0 ∧ err ≠ - EINVAL then err else 0, s)

def controlsLoop (turns : Nat) : Nat → Option Nat → Parsed → Option (Int × Parsed)
  | 0, _, _ => none
  | fuel + 1, after, s =>
    match m.buffer.sndUsbFindCsintDesc UAC_OUTPUT_TERMINAL after with
    | none => some (0, s)
    | some p =>
      match m.parseTerminal turns p s with
      | none => none
      | some (err, s) => if err < 0 then some (err, s) else controlsLoop turns fuel (some p) s

def sndUsbMixerControls (turns : Nat) : Option (Int × Parsed) := m.controlsLoop turns turns none ⟨fun _ => false, []⟩

end MixerBuild

end AlsaDriver.Usb
