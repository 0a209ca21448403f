import AlsaDriver.Seq.MidiRoundTrip

namespace AlsaDriver.Seq

namespace SndMidiEvent

variable {dev dev' : SndMidiEvent} {m : SeqMemory} {ev : SndSeqEvent} {type : Nat} {c : Byte}

theorem storeByte_bufsize (stored : dev.storeByte c = some dev') : dev'.bufsize = dev.bufsize := by
  have kept {i : Nat} {update : SndMidiEvent → SndMidiEvent} (set : (dev.setBuf i c).map update = some dev')
      (same : ∀ dev, (update dev).bufsize = dev.bufsize) : dev'.bufsize = dev.bufsize := by
    rw [setBuf] at set
    split at set
    · cases set
      exact same _
    · cases set
  rw [storeByte] at stored
  split at stored
  · exact kept stored (fun _ => rfl)
  · split at stored
    · exact kept stored (fun _ => rfl)
    · exact kept stored (fun _ => rfl)

theorem finishByte_bufsize (dev : SndMidiEvent) (c : Byte) (ev : SndSeqEvent) :
    (dev.finishByte c ev).2.1.bufsize = dev.bufsize := by
  rw [finishByte]
  split
  · dsimp only
    split <;> rfl
  · split
    · split
      · dsimp only
        split <;> rfl
      · rfl
    · rfl

theorem encodeByte_bufsize {ev' : SndSeqEvent} {done : Bool} (step : dev.encodeByte c ev = some (done, dev', ev')) :
    dev'.bufsize = dev.bufsize := by
  rw [encodeByte] at step
  split at step
  · cases step
    rfl
  · obtain ⟨mid, stored, finish⟩ := Option.map_eq_some_iff.mp step
    have size := finishByte_bufsize mid c ev
    rw [finish] at size
    exact size.trans (storeByte_bufsize stored)

theorem encodeStream_bufsize {bytes : List Byte} {outs : List SndSeqEvent} {last : SndSeqEvent}
    (stream : dev.encodeStream bytes ev = some (outs, dev', last)) : dev'.bufsize = dev.bufsize := by
  induction bytes generalizing dev ev outs with
  | nil =>
    cases stream
    rfl
  | cons c rest ih =>
    cases first : dev.encodeByte c ev with
    | none =>
      rw [encodeStream, first] at stream
      cases stream
    | some out =>
      obtain ⟨done, mid, ev'⟩ := out
      rw [encodeStream_cons first] at stream
      obtain ⟨later, run, same⟩ := Option.map_eq_some_iff.mp stream
      obtain ⟨outs', last', final⟩ := later
      cases same
      exact (ih run).trans (encodeByte_bufsize first)

theorem Complete.synced {data : List Byte} (complete : Complete dev type (c :: data)) (command : newType c = type)
    (known : type < 7 ∨ ST_SPECIAL < type ∧ ¬ c < 0xf0) : Synced c dev.settle := by
  obtain ⟨size, length, done, same, front⟩ := complete
  have special : ST_SPECIAL = 8 := rfl
  rcases known with voice | ⟨common, above⟩
  · have kept : dev.settle = dev := if_neg (by omega)
    rw [kept]
    refine ⟨size, length, by rw [same, ST_SYSEX]; omega, ?_⟩
    intro below
    have first : bufAt dev.buf 0 = c := bufAt_front (c :: data) front (Nat.succ_pos _)
    exact ⟨first, by rw [same, ← command, newType_voice below], done⟩
  · have invalid : dev.settle = { dev with type := ST_INVALID } := if_pos (by omega)
    rw [invalid]
    exact ⟨size, length, (by decide : ST_INVALID ≠ ST_SYSEX), fun below => absurd below above⟩

theorem Coded.command (coded : Coded m ev type) :
    newType (commandByte type ev) = type ∧ commandByte type ev &&& 0x80 ≠ 0 ∧
      ¬ MIDI_CMD_COMMON_CLOCK ≤ commandByte type ev ∧ commandByte type ev ≠ MIDI_CMD_COMMON_SYSEX ∧
      (type < 7 ∧ commandByte type ev < 0xf0 ∨
        ST_SPECIAL < type ∧ ¬ commandByte type ev < 0xf0 ∧ commandByte type ev &&& 0xf0 = 0xf0) := by
  have special : ST_SPECIAL = 8 := rfl
  rcases coded.known with voice | ⟨low, high⟩
  · rw [commandByte, if_neg (by omega)]
    obtain ⟨same, command, below, -⟩ := voice_command voice ev.data.channel
    obtain ⟨clock, sysex, -⟩ := voice_byte below
    exact ⟨same, command, clock, sysex, Or.inl ⟨voice, below⟩⟩
  · rw [commandByte, if_pos (by omega)]
    obtain ⟨same, command, group, clock, sysex, above⟩ := common_command low high
    exact ⟨same, command, clock, sysex, Or.inr ⟨low, above, group⟩⟩

theorem Coded.step {dec enc : SndMidiEvent} (coded : Coded m ev type) (synced : Synced dec.lastcmd enc)
    (found : SndSeqEvent) :
    ∃ bytes dec' enc' out, dec.decode m ev = some (bytes, dec') ∧ enc.encodeStream bytes found = some ([out], enc', out) ∧
      midiFields m out = midiFields m ev ∧ Synced dec'.lastcmd enc' := by
  obtain ⟨same, command, clock, sysex, kind⟩ := coded.command
  have known : type < 7 ∨ ST_SPECIAL < type ∧ ¬ commandByte type ev < 0xf0 :=
    kind.imp (fun voice => voice.1) (fun common => ⟨common.1, common.2.1⟩)
  have returned {enc' : SndMidiEvent}
      (complete : Complete enc' type (commandByte type ev :: (statusEvent type).decodeData ev)) :
      midiFields m (enc'.message found) = midiFields m ev := by
    rw [message, complete.type]
    exact coded.fields enc'.buf found complete.front
  rw [decode_message dec coded.some_ coded.found sysex]
  split
  · have other : newType (commandByte type ev) ≠ ST_SYSEX := by
      have value : ST_SYSEX = 8 := rfl
      have special : ST_SPECIAL = 8 := rfl
      omega
    have count := coded.count
    rw [← same] at count
    obtain ⟨enc', complete, stream⟩ :=
      command_message found synced.size synced.length synced.closed command clock other
        (by rw [same]; exact coded.count) coded.low
    rw [same] at complete
    exact ⟨_, _, _, _, rfl, stream, returned complete, complete.synced same known⟩
  · rename_i running
    simp only [not_or, not_not] at running
    obtain ⟨group, last, -⟩ := running
    rcases kind with ⟨voice, below⟩ | ⟨-, -, high⟩
    · rw [last] at synced
      obtain ⟨-, status, -⟩ := synced.running below
      rw [← newType_voice below, same] at status
      obtain ⟨enc', complete, stream⟩ :=
        running_message found synced below (coded.voiced voice) (by rw [status]; exact coded.count) coded.low
      rw [status] at complete
      refine ⟨_, _, _, _, rfl, stream, returned complete, ?_⟩
      rw [last]
      exact complete.synced same known
    · exact absurd high group

/-- A `SYSEX` message is open, with the bytes `cur` of its current chunk in the buffer. -/
structure InSysex (dev : SndMidiEvent) (cur : List Byte) : Prop where
  size : 3 ≤ dev.bufsize
  length : dev.buf.length = dev.bufsize
  type : dev.type = ST_SYSEX
  count : dev.qlen = 1
  read : dev.read = cur.length
  room : cur.length < dev.bufsize
  front : dev.buf.take cur.length = cur

def stored (dev : SndMidiEvent) (c : Byte) : SndMidiEvent :=
  { dev with
    buf := dev.buf.set dev.read c
    read := dev.read + 1 }

variable {cur : List Byte}

theorem InSysex.storeByte (inside : InSysex dev cur) (data : c < 0x80 ∨ c = MIDI_CMD_COMMON_SYSEX_END) :
    dev.storeByte c = some (dev.stored c) := by
  have room := inside.room
  have plain : ¬ (c &&& 0x80 ≠ 0 ∧ (c ≠ MIDI_CMD_COMMON_SYSEX_END ∨ dev.type ≠ ST_SYSEX)) := by
    rintro ⟨command, other⟩
    rcases data with low | last
    · exact command (data_byte low).1
    · exact other.elim (fun differs => differs last) (fun differs => differs inside.type)
  rw [SndMidiEvent.storeByte, if_neg plain, if_pos (by rw [inside.count]; decide), setBuf_inside (by rw [inside.read]; omega)]
  simp [inside.type, SndMidiEvent.stored]

theorem InSysex.front_stored (inside : InSysex dev cur) (c : Byte) :
    (dev.stored c).buf.take (dev.stored c).read = cur ++ [c] := by
  show (dev.buf.set dev.read c).take (dev.read + 1) = cur ++ [c]
  rw [inside.read]
  exact take_set (by rw [inside.length]; exact inside.room) inside.front

def chunkEvent (dev : SndMidiEvent) (ev : SndSeqEvent) : SndSeqEvent :=
  let ev := ev.setLength SNDRV_SEQ_EVENT_LENGTH_VARIABLE
  { ev with
    type := SNDRV_SEQ_EVENT_SYSEX
    data := { ev.data with ext := .kernel dev.read (dev.buf.take dev.read) } }

theorem midiFields_chunkEvent (dev : SndMidiEvent) (ev : SndSeqEvent) {bytes : List Byte}
    (front : dev.buf.take dev.read = bytes) (read : dev.read = bytes.length) :
    midiFields m (dev.chunkEvent ev) = sysexFields bytes := by
  have data : sysexData m (dev.chunkEvent ev) = bytes := by
    show (dev.buf.take dev.read).take dev.read = bytes
    rw [front, read, List.take_length]
  have flags : (dev.chunkEvent ev).flags &&& SNDRV_SEQ_EVENT_LENGTH_MASK = SNDRV_SEQ_EVENT_LENGTH_VARIABLE :=
    setLength_flags ev rfl
  have type : (dev.chunkEvent ev).type = SNDRV_SEQ_EVENT_SYSEX := rfl
  simp only [midiFields, type, flags, data]
  rfl

theorem finishByte_sysex (open_ : dev.qlen ≠ 0) (sysex : dev.type = ST_SYSEX) :
    dev.finishByte c ev =
      if c = MIDI_CMD_COMMON_SYSEX_END ∨ dev.bufsize ≤ dev.read then
        (true, if c ≠ MIDI_CMD_COMMON_SYSEX_END then { dev with read := 0 } else dev.resetEncode, dev.chunkEvent ev)
      else (false, dev, ev) := by
  rw [finishByte, if_neg open_, if_pos sysex]
  rfl

theorem InSysex.byte (inside : InSysex dev cur) (data : c < 0x80) (ev : SndSeqEvent) :
    dev.encodeByte c ev = some (false, dev.stored c, ev) ∧ InSysex (dev.stored c) (cur ++ [c]) ∨
      (cur ++ [c]).length = dev.bufsize ∧
        dev.encodeByte c ev = some (true, { dev.stored c with read := 0 }, (dev.stored c).chunkEvent ev) ∧
        InSysex { dev.stored c with read := 0 } [] := by
  obtain ⟨-, below, other⟩ := data_byte data
  have first := encodeByte_of_store ev below (inside.storeByte (Or.inl data))
  have open_ : (dev.stored c).qlen ≠ 0 := by
    have one : (dev.stored c).qlen = 1 := inside.count
    omega
  rw [finishByte_sysex open_ inside.type] at first
  have read : (dev.stored c).read = (cur ++ [c]).length := by
    rw [List.length_append, ← inside.read]
    rfl
  have longer : (dev.stored c).buf.length = dev.bufsize := by
    rw [stored, List.length_set]
    exact inside.length
  have front := inside.front_stored c
  have room := inside.room
  have size := inside.size
  have grown : (cur ++ [c]).length = cur.length + 1 := by simp
  have same : (dev.stored c).bufsize = dev.bufsize := rfl
  by_cases full : (dev.stored c).bufsize ≤ (dev.stored c).read
  · right
    have some_ : 0 < dev.bufsize := by omega
    rw [if_pos (Or.inr full), if_pos other] at first
    exact ⟨by omega, first, inside.size, longer, inside.type, inside.count, rfl, some_, rfl⟩
  · left
    rw [if_neg (not_or.mpr ⟨other, full⟩)] at first
    rw [read] at front full
    exact ⟨first, inside.size, longer, inside.type, inside.count, read, Nat.lt_of_not_le full, front⟩

theorem InSysex.last (inside : InSysex dev cur) (ev : SndSeqEvent) :
    dev.encodeByte MIDI_CMD_COMMON_SYSEX_END ev =
        some (true, (dev.stored MIDI_CMD_COMMON_SYSEX_END).resetEncode,
          (dev.stored MIDI_CMD_COMMON_SYSEX_END).chunkEvent ev) ∧
      Synced 0xff (dev.stored MIDI_CMD_COMMON_SYSEX_END).resetEncode := by
  have first := encodeByte_of_store ev (by decide) (inside.storeByte (Or.inr rfl))
  have open_ : (dev.stored MIDI_CMD_COMMON_SYSEX_END).qlen ≠ 0 := by
    have one : (dev.stored MIDI_CMD_COMMON_SYSEX_END).qlen = 1 := inside.count
    omega
  rw [finishByte_sysex open_ inside.type, if_pos (Or.inl rfl), if_neg (not_not.mpr rfl)] at first
  have longer : (dev.stored MIDI_CMD_COMMON_SYSEX_END).buf.length = dev.bufsize := by
    rw [stored, List.length_set]
    exact inside.length
  exact ⟨first, inside.size, longer, (by decide : ST_INVALID ≠ ST_SYSEX), fun low => absurd low (by decide)⟩

theorem InSysex.feed {body : List Byte} (inside : InSysex dev cur) (low : ∀ c ∈ body, c < 0x80) (ev : SndSeqEvent) :
    ∃ outs dev' out chunks last,
      dev.encodeStream (body ++ [MIDI_CMD_COMMON_SYSEX_END]) ev = some (outs, dev', out) ∧ Synced 0xff dev' ∧
      (chunks ++ [last]).flatten = cur ++ body ++ [MIDI_CMD_COMMON_SYSEX_END] ∧ (∀ c ∈ chunks, c.length = dev.bufsize) ∧
      last ≠ [] ∧ last.length ≤ dev.bufsize ∧ outs.map (midiFields m) = (chunks ++ [last]).map sysexFields := by
  induction body generalizing dev cur ev with
  | nil =>
    obtain ⟨first, synced⟩ := inside.last ev
    have fields : midiFields m ((dev.stored MIDI_CMD_COMMON_SYSEX_END).chunkEvent ev) =
        sysexFields (cur ++ [MIDI_CMD_COMMON_SYSEX_END]) := by
      apply midiFields_chunkEvent _ _ (inside.front_stored _)
      rw [List.length_append, ← inside.read]
      rfl
    refine ⟨_, _, _, [], cur ++ [MIDI_CMD_COMMON_SYSEX_END], encodeStream_cons first, synced, by simp, by simp, by simp,
      ?_, ?_⟩
    · rw [List.length_append]
      exact inside.room
    · simpa [encodeStream] using fields
  | cons c rest ih =>
    have data := low c (List.mem_cons_self ..)
    have others : ∀ c ∈ rest, c < 0x80 := fun c later => low c (List.mem_cons_of_mem _ later)
    rcases inside.byte data ev with ⟨first, next⟩ | ⟨full, first, next⟩
    · obtain ⟨outs, dev', out, chunks, last, stream, synced, whole, sizes, some_, short, fields⟩ := ih next others ev
      refine ⟨outs, dev', out, chunks, last, ?_, synced, by rw [whole]; simp, sizes, some_, short, fields⟩
      rw [List.cons_append, encodeStream_cons first, stream]
      rfl
    · obtain ⟨outs, dev', out, chunks, last, stream, synced, whole, sizes, some_, short, fields⟩ :=
        ih next others ((dev.stored c).chunkEvent ev)
      have chunk : midiFields m ((dev.stored c).chunkEvent ev) = sysexFields (cur ++ [c]) := by
        apply midiFields_chunkEvent _ _ (inside.front_stored _)
        rw [List.length_append, ← inside.read]
        rfl
      refine ⟨(dev.stored c).chunkEvent ev :: outs, dev', out, (cur ++ [c]) :: chunks, last, ?_, synced, ?_, ?_, some_,
        short, ?_⟩
      · rw [List.cons_append, encodeStream_cons first, stream]
        rfl
      · rw [List.cons_append, List.flatten_cons, whole]
        simp
      · intro d among
        rcases List.mem_cons.mp among with first | later
        · rw [first, full]
        · exact sizes d later
      · rw [List.map_cons, chunk, fields, List.cons_append, List.map_cons]

theorem sysex_step {dec enc : SndMidiEvent} (synced : Synced dec.lastcmd enc) (sysex : ev.type = SNDRV_SEQ_EVENT_SYSEX)
    (lengths : ev.flags &&& SNDRV_SEQ_EVENT_LENGTH_MASK = SNDRV_SEQ_EVENT_LENGTH_VARIABLE) {body : List Byte}
    (data : sysexData m ev = 0xf0 :: body ++ [0xf7]) (low : ∀ c ∈ body, c < 0x80) (found : SndSeqEvent) :
    ∃ bytes dec' enc' outs out, dec.decode m ev = some (bytes, dec') ∧
      enc.encodeStream bytes found = some (outs, enc', out) ∧ Returned enc.bufsize m ev outs ∧
      Synced dec'.lastcmd enc' := by
  have decoded : dec.decode m ev = some (sysexData m ev, dec.resetDecode) := by
    have some_ : ev.type ≠ SNDRV_SEQ_EVENT_NONE := by rw [sysex]; decide
    have entry : findType ev.type = some 8 := by rw [sysex]; decide
    have variable_ : ev.isVariable = true := by rw [SndSeqEvent.isVariable, lengths]; rfl
    rw [decode, if_neg some_, entry]
    exact if_pos variable_
  have begun := encodeByte_of_store found (by decide) (storeByte_command (c := 0xf0) synced.size (by decide) synced.closed)
  set start : SndMidiEvent :=
    { enc with
      buf := enc.buf.set 0 0xf0
      type := newType 0xf0
      read := 1
      qlen := (statusEvent (newType 0xf0)).qlen } with startIs
  have inside : InSysex start [0xf0] := by
    have size := synced.size
    have length := synced.length
    have front : (enc.buf.set 0 0xf0).take 1 = [0xf0] :=
      take_set (c := 0xf0) (by simp; omega : ([] : List Byte).length < enc.buf.length) rfl
    have type : newType 0xf0 = ST_SYSEX := by decide
    have one : (statusEvent (newType 0xf0)).qlen = 1 := by decide
    exact ⟨size, by simpa [startIs] using length, type, one, rfl, by show 1 < enc.bufsize; omega, front⟩
  have more : ¬ ((0xf0 : Byte) = MIDI_CMD_COMMON_SYSEX_END ∨ start.bufsize ≤ start.read) := by
    have room := inside.room
    rw [← inside.read] at room
    exact not_or.mpr ⟨by decide, Nat.not_le_of_lt room⟩
  have one := inside.count
  rw [finishByte_sysex (by omega) inside.type, if_neg more] at begun
  obtain ⟨outs, enc', out, chunks, last, stream, after, whole, sizes, some_, short, fields⟩ := inside.feed low found
  refine ⟨_, _, enc', outs, out, decoded, ?_, ?_, after⟩
  · rw [data, List.cons_append, encodeStream_cons begun]
    show (start.encodeStream (body ++ [MIDI_CMD_COMMON_SYSEX_END]) found).map _ = _
    rw [stream]
    rfl
  · rw [Returned, if_pos sysex]
    exact ⟨chunks, last, by rw [whole, data]; rfl, sizes, some_, short, fields⟩

theorem realTime_entry (realTime : ev.type ∈ realTimeEvents) :
    ∃ type, findType ev.type = some type ∧ MIDI_CMD_COMMON_CLOCK ≤ commandByte type ev ∧
      (statusEvent type).decodeData ev = [] ∧
      (statusEvent (ST_SPECIAL + (commandByte type ev - 0xf0).toNat)).event = ev.type := by
  simp only [realTimeEvents, List.mem_cons, List.not_mem_nil, or_false] at realTime
  rcases realTime with type | type | type | type | type | type <;> rw [type]
  · exact ⟨16, by decide, (by decide : MIDI_CMD_COMMON_CLOCK ≤ (0xf8 : Byte)), rfl,
      (by decide : (statusEvent (ST_SPECIAL + ((0xf8 : Byte) - 0xf0).toNat)).event = SNDRV_SEQ_EVENT_CLOCK)⟩
  · exact ⟨18, by decide, (by decide : MIDI_CMD_COMMON_CLOCK ≤ (0xfa : Byte)), rfl,
      (by decide : (statusEvent (ST_SPECIAL + ((0xfa : Byte) - 0xf0).toNat)).event = SNDRV_SEQ_EVENT_START)⟩
  · exact ⟨19, by decide, (by decide : MIDI_CMD_COMMON_CLOCK ≤ (0xfb : Byte)), rfl,
      (by decide : (statusEvent (ST_SPECIAL + ((0xfb : Byte) - 0xf0).toNat)).event = SNDRV_SEQ_EVENT_CONTINUE)⟩
  · exact ⟨20, by decide, (by decide : MIDI_CMD_COMMON_CLOCK ≤ (0xfc : Byte)), rfl,
      (by decide : (statusEvent (ST_SPECIAL + ((0xfc : Byte) - 0xf0).toNat)).event = SNDRV_SEQ_EVENT_STOP)⟩
  · exact ⟨22, by decide, (by decide : MIDI_CMD_COMMON_CLOCK ≤ (0xfe : Byte)), rfl,
      (by decide : (statusEvent (ST_SPECIAL + ((0xfe : Byte) - 0xf0).toNat)).event = SNDRV_SEQ_EVENT_SENSING)⟩
  · exact ⟨23, by decide, (by decide : MIDI_CMD_COMMON_CLOCK ≤ (0xff : Byte)), rfl,
      (by decide : (statusEvent (ST_SPECIAL + ((0xff : Byte) - 0xf0).toNat)).event = SNDRV_SEQ_EVENT_RESET)⟩

theorem realTime_byte {c : Byte} (high : MIDI_CMD_COMMON_CLOCK ≤ c) :
    c ≠ MIDI_CMD_COMMON_SYSEX ∧ c &&& 0xf0 = 0xf0 ∧ ¬ c < 0xf0 := by
  revert c
  decide

theorem midiFields_realTime {out : SndSeqEvent} (realTime : ev.type ∈ realTimeEvents) (type : out.type = ev.type)
    (flags : out.flags &&& SNDRV_SEQ_EVENT_LENGTH_MASK = ev.flags &&& SNDRV_SEQ_EVENT_LENGTH_MASK) :
    midiFields m out = midiFields m ev := by
  rw [midiFields, midiFields, type, flags]
  simp only [realTimeEvents, List.mem_cons, List.not_mem_nil, or_false] at realTime
  rcases realTime with type | type | type | type | type | type <;> rw [type] <;> rfl

theorem realTime_step {dec enc : SndMidiEvent} (synced : Synced dec.lastcmd enc) (realTime : ev.type ∈ realTimeEvents)
    (fixed : ev.flags &&& SNDRV_SEQ_EVENT_LENGTH_MASK = SNDRV_SEQ_EVENT_LENGTH_FIXED) (found : SndSeqEvent) :
    ∃ bytes dec' out, dec.decode m ev = some (bytes, dec') ∧ enc.encodeStream bytes found = some ([out], enc, out) ∧
      midiFields m out = midiFields m ev ∧ Synced dec'.lastcmd enc := by
  obtain ⟨type, entry, high, data, event⟩ := realTime_entry realTime
  obtain ⟨other, group, above⟩ := realTime_byte high
  have some_ : ev.type ≠ SNDRV_SEQ_EVENT_NONE := by
    intro none_
    rw [none_] at realTime
    exact absurd realTime (by decide)
  have defined : definedRealTime (commandByte type ev) = true := by
    rw [definedRealTime, event]
    simpa using some_
  have first := encodeByte_realTime enc high found
  rw [defined] at first
  rw [decode_message dec some_ entry other, if_pos (Or.inl group), data]
  refine ⟨_, _, realTimeEvent (commandByte type ev) found, rfl, ?_, ?_, ?_⟩
  · rw [encodeStream_cons first]
    rfl
  · apply midiFields_realTime realTime event
    rw [fixed]
    exact setLength_flags _ rfl
  · exact ⟨synced.size, synced.length, synced.closed, fun below => absurd below above⟩

theorem returned_single {bufsize : Nat} {out : SndSeqEvent} (other : ev.type ≠ SNDRV_SEQ_EVENT_SYSEX)
    (fields : midiFields m out = midiFields m ev) : Returned bufsize m ev [out] := by
  rw [Returned, if_neg other, List.map_singleton, fields]

theorem MidiEventOk.kind (ok : MidiEventOk m ev) :
    (∃ type, Coded m ev type) ∨
      ev.type ∈ realTimeEvents ∧ ev.flags &&& SNDRV_SEQ_EVENT_LENGTH_MASK = SNDRV_SEQ_EVENT_LENGTH_FIXED ∨
      ev.type = SNDRV_SEQ_EVENT_SYSEX ∧ ev.flags &&& SNDRV_SEQ_EVENT_LENGTH_MASK = SNDRV_SEQ_EVENT_LENGTH_VARIABLE ∧
        ∃ body, sysexData m ev = 0xf0 :: body ++ [0xf7] ∧ ∀ c ∈ body, c < 0x80 := by
  cases ok with
  | note type fixed channel note velocity => exact Or.inl (coded_note type fixed channel note velocity)
  | controller type fixed channel param low high =>
    exact Or.inl ⟨3, coded_controller type fixed channel param low high⟩
  | program type fixed channel low high => exact Or.inl (coded_program type fixed channel low high)
  | pitchbend type fixed channel low high => exact Or.inl ⟨6, coded_pitchbend type fixed channel low high⟩
  | common type fixed low high => exact Or.inl (coded_common type fixed low high)
  | songpos type fixed low high => exact Or.inl ⟨10, coded_songpos type fixed low high⟩
  | bare type fixed =>
    rcases type with tune | realTime
    · exact Or.inl ⟨14, coded_tuneRequest tune fixed⟩
    · exact Or.inr (Or.inl ⟨realTime, fixed⟩)
  | sysex type lengths body data low => exact Or.inr (Or.inr ⟨type, lengths, body, data, low⟩)

theorem Coded.not_sysex (coded : Coded m ev type) : ev.type ≠ SNDRV_SEQ_EVENT_SYSEX := by
  intro sysex
  have entry : findType SNDRV_SEQ_EVENT_SYSEX = some 8 := by decide
  have found := coded.found
  have special : ST_SPECIAL = 8 := rfl
  rw [sysex, entry] at found
  cases found
  have known := coded.known
  omega

theorem MidiEventOk.step {dec enc : SndMidiEvent} (ok : MidiEventOk m ev) (synced : Synced dec.lastcmd enc)
    (found : SndSeqEvent) :
    ∃ bytes dec' enc' outs out, dec.decode m ev = some (bytes, dec') ∧
      enc.encodeStream bytes found = some (outs, enc', out) ∧ Returned enc.bufsize m ev outs ∧
      Synced dec'.lastcmd enc' := by
  rcases ok.kind with ⟨type, coded⟩ | ⟨realTime, fixed⟩ | ⟨sysex, lengths, body, data, low⟩
  · obtain ⟨bytes, dec', enc', out, decoded, stream, fields, after⟩ := coded.step synced found
    exact ⟨bytes, dec', enc', [out], out, decoded, stream, returned_single coded.not_sysex fields, after⟩
  · obtain ⟨bytes, dec', out, decoded, stream, fields, after⟩ := realTime_step synced realTime fixed found
    have other : ev.type ≠ SNDRV_SEQ_EVENT_SYSEX := by
      intro sysex
      rw [sysex] at realTime
      exact absurd realTime (by decide)
    exact ⟨bytes, dec', enc, [out], out, decoded, stream, returned_single other fields, after⟩
  · exact sysex_step synced sysex lengths data low found

theorem roundTrip_synced {dec enc : SndMidiEvent} {evs : List SndSeqEvent} (ok : ∀ ev ∈ evs, MidiEventOk m ev)
    (synced : Synced dec.lastcmd enc) (found : SndSeqEvent) :
    ∃ bytes groups enc' last, decodeAll dec m evs = some bytes ∧
      enc.encodeStream bytes found = some (groups.flatten, enc', last) ∧
      List.Forall₂ (Returned enc.bufsize m) evs groups := by
  induction evs generalizing dec enc found with
  | nil => exact ⟨[], [], enc, found, rfl, rfl, .nil⟩
  | cons ev rest ih =>
    obtain ⟨bytes, dec', enc', outs, out, decoded, stream, returned, after⟩ :=
      (ok ev (List.mem_cons_self ..)).step synced found
    obtain ⟨later, groups, enc'', last, decodedLater, streamLater, returnedLater⟩ :=
      ih (fun ev inside => ok ev (List.mem_cons_of_mem _ inside)) after out
    rw [encodeStream_bufsize stream] at returnedLater
    refine ⟨bytes ++ later, outs :: groups, enc'', last, ?_, ?_, .cons returned returnedLater⟩
    · rw [decodeAll, decoded]
      dsimp only
      rw [decodedLater]
      rfl
    · rw [encodeStream_append, stream]
      dsimp only [Option.bind_some]
      rw [streamLater]
      rfl

theorem roundTrip (dec enc : SndMidiEvent) (size : 3 ≤ enc.bufsize) (length : enc.buf.length = enc.bufsize)
    (evs : List SndSeqEvent) (ok : ∀ ev ∈ evs, MidiEventOk m ev) (found : SndSeqEvent) :
    ∃ bytes groups enc' last, decodeAll dec.resetDecode m evs = some bytes ∧
      enc.resetEncode.encodeStream bytes found = some (groups.flatten, enc', last) ∧
      List.Forall₂ (Returned enc.bufsize m) evs groups := by
  have synced : Synced dec.resetDecode.lastcmd enc.resetEncode :=
    ⟨size, length, (by decide : ST_INVALID ≠ ST_SYSEX), fun low => absurd low (by decide : ¬ (0xff : Byte) < 0xf0)⟩
  exact roundTrip_synced ok synced found

/-- A note under running status and a `SYSEX` in two chunks. -/
theorem roundTrip_notes :
    let note : SndSeqEvent :=
      { blankEvent with
        type := SNDRV_SEQ_EVENT_NOTEON
        data := { blankEvent.data with channel := 1, note := 60, velocity := 64 } }
    let coder := new 3 false fun _ => 0
    ∃ bytes groups enc' last,
      decodeAll coder.resetDecode emptyMemory [note, note, sysexFields [0xf0, 1, 2, 0xf7]] = some bytes ∧
      coder.resetEncode.encodeStream bytes blankEvent = some (groups.flatten, enc', last) ∧
      List.Forall₂ (Returned 3 emptyMemory) [note, note, sysexFields [0xf0, 1, 2, 0xf7]] groups := by
  intro note coder
  have noteOk : MidiEventOk emptyMemory note := .note (by decide) (by decide) (by decide) (by decide) (by decide)
  have sysexOk : MidiEventOk emptyMemory (sysexFields [0xf0, 1, 2, 0xf7]) := .sysex rfl rfl [1, 2] rfl (by decide)
  apply roundTrip coder coder (Nat.le_refl 3) rfl
  intro ev inside
  simp only [List.mem_cons, List.not_mem_nil, or_false] at inside
  rcases inside with rfl | rfl | rfl
  · exact noteOk
  · exact noteOk
  · exact sysexOk

end SndMidiEvent

end AlsaDriver.Seq
