import Mathlib.Logic.Function.Basic
import Mathlib.Logic.Function.Iterate
import AlsaDriver.Lib.Words
import AlsaDriver.Lib.Runs

namespace AlsaDriver.Pcm

open Function Words

def SHIFT : Nat := 11
def BITS : Nat := 2048

structure RateChannel where
  lastS1 : Int
  lastS2 : Int
  deriving DecidableEq, Repr

/-- What `snd_pcm_plugin_build_rate` is called with. -/
structure RatePlugin where
  srcRate : Nat
  dstRate : Nat
  channels : Nat

namespace RatePlugin

variable (p : RatePlugin)

def expands : Bool := decide (p.srcRate < p.dstRate)

def pitch : Nat :=
  if p.expands then (p.srcRate * 2 ^ SHIFT + p.dstRate / 2) % 2 ^ 32 / p.dstRate
  else (p.dstRate * 2 ^ SHIFT + p.srcRate / 2) % 2 ^ 32 / p.srcRate

end RatePlugin

structure RateData where
  pos : Nat
  oldSrcFrames : Int
  oldDstFrames : Int
  channels : Nat → RateChannel

/-- `rate_init` -/
def RateData.init (data : RateData) (channels : Nat) : RateData :=
  { data with pos := 0, channels := fun channel => if channel < channels then ⟨0, 0⟩ else data.channels channel }

structure RateCursor where
  pos : Nat
  S1 : Int
  S2 : Int
  srcFrames1 : Int
  src : Nat
  out : List Int

namespace RateCursor

variable (pitch : Nat) (samples : Nat → Int) (k : RateCursor)

def read : RateCursor :=
  { k with
    S1 := k.S2
    S2 := if k.srcFrames1 > 0 then samples k.src else k.S2
    src := if k.srcFrames1 > 0 then k.src + 1 else k.src
    srcFrames1 := k.srcFrames1 - 1 }

def val : Int :=
  let val := k.S1 + ((k.S2 - k.S1) * k.pos).tdiv BITS
  if val < -32768 then -32768 else if val > 32767 then 32767 else val

def emit : RateCursor := { k with out := k.out ++ [k.val] }

def wrap : RateCursor := { k with pos := k.pos % BITS }

def advance : RateCursor := { k with pos := (k.pos + pitch) % 2 ^ 32 }

/-- The body of the loop of `resample_expand`. -/
def expandFrame : RateCursor :=
  let k := if BITS ≤ k.pos then k.wrap.read samples else k
  k.emit.advance pitch

/-- The loop of `resample_shrink`, for a number of passes. -/
def shrinkFrames : Nat → Nat → RateCursor → Option RateCursor
  | _, 0, k => some k
  | 0, _ + 1, _ => none
  | passes + 1, dstFrames1 + 1, k =>
    let k := k.read samples
    if BITS ≤ k.pos then shrinkFrames passes dstFrames1 (k.wrap.emit.advance pitch)
    else shrinkFrames passes (dstFrames1 + 1) (k.advance pitch)

end RateCursor

def RatePlugin.resample (p : RatePlugin) (pos : Nat) (voice : RateChannel) (samples : Nat → Int)
    (srcFrames dstFrames : Int) : Option RateCursor :=
  let k : RateCursor := ⟨pos, voice.lastS1, voice.lastS2, srcFrames, 0, []⟩
  if p.expands then some ((RateCursor.expandFrame p.pitch samples)^[dstFrames.toNat] k)
  else RateCursor.shrinkFrames p.pitch samples (dstFrames.toNat * (BITS + 1)) dstFrames.toNat k

inductive RateOut where
  | samples (l : List Int)
  | silence (frames : Int)
  | kept
  deriving DecidableEq, Repr

/-- The channels that `rate_transfer` is called with; their frames are taken as sequences. -/
structure RateChannels where
  enabled : Nat → Bool
  samples : Nat → Nat → Int
  wanted : Nat → Bool

def RateChannels.idle (c : RateChannels) (channel : Nat) (dstFrames : Int) : RateOut :=
  if c.wanted channel then .silence dstFrames else .kept

structure RateLoop where
  pos : Nat
  rchannels : Nat
  channels : Nat → RateChannel
  outs : Nat → RateOut

namespace RatePlugin

variable (p : RatePlugin) (c : RateChannels) (srcFrames dstFrames : Int)

/-- The body of the loop over the channels, the same in `resample_expand` and `resample_shrink`. -/
def resampleChannel (data : RateData) (l : RateLoop) (channel : Nat) : Option RateLoop :=
  let voice := l.channels l.rchannels
  if c.enabled channel then
    (p.resample data.pos voice (c.samples channel) srcFrames dstFrames).map fun k =>
      { pos := k.pos
        rchannels := l.rchannels + 1
        channels := update l.channels l.rchannels ⟨k.S1, k.S2⟩
        outs := update l.outs channel (.samples k.out) }
  else some { l with pos := data.pos, outs := update l.outs channel (c.idle channel dstFrames) }

/-- `data->func` -/
def func (data : RateData) : Option (RateData × (Nat → RateOut)) :=
  ((List.range p.channels).foldlM (p.resampleChannel c srcFrames dstFrames data) ⟨0, 0, data.channels, fun _ => .kept⟩).map
    fun l => ({ data with pos := l.pos, channels := l.channels }, l.outs)

def halve (old : Int) : Nat → Int × Int → Int × Int
  | 0, r => r
  | fuel + 1, r => if old < r.1 then halve old fuel (r.1 / 2, r.2 * 2) else r

def double (old : Int) : Nat → Int × Int → Int × Int
  | 0, r => r
  | fuel + 1, r => if old > r.1 then double old fuel (r.1 * 2, r.2 / 2) else r

def remembered (old result : Int) (frames : Nat) : Option Int :=
  if old > 0 then
    let r := double old old.toNat (halve old frames (frames, result))
    if old = r.1 then some r.2 else none
  else none

/-- `rate_src_frames` -/
def srcFramesOf (data : RateData) (frames : Nat) : Int × RateData :=
  if frames = 0 then (0, data)
  else
    let res : Nat := if p.srcRate < p.dstRate then (frames * p.pitch + BITS / 2) / 2 ^ SHIFT
      else (frames * 2 ^ SHIFT + p.pitch / 2) / p.pitch
    ((remembered data.oldSrcFrames data.oldDstFrames frames).map fun res1 => (res1, data)).getD
      (res, { data with oldSrcFrames := frames, oldDstFrames := res })

/-- `rate_dst_frames` -/
def dstFramesOf (data : RateData) (frames : Nat) : Int × RateData :=
  if frames = 0 then (0, data)
  else
    let res : Nat := if p.srcRate < p.dstRate then (frames * 2 ^ SHIFT + p.pitch / 2) / p.pitch
      else (frames * p.pitch + BITS / 2) / 2 ^ SHIFT
    ((remembered data.oldDstFrames data.oldSrcFrames frames).map fun res1 => (res1, data)).getD
      (res, { data with oldDstFrames := frames, oldSrcFrames := res })

/-- The number of destination frames of a call, where the first channel has room for `room`. -/
def producedBy (data : RateData) (frames room : Nat) : Nat := min (toUnsigned 64 (p.dstFramesOf data frames).1) room

def transfer (room frames : Nat) (data : RateData) : Option (RateData × (Nat → RateOut)) :=
  if frames = 0 then some (data, fun _ => .kept)
  else p.func c (toSigned 32 frames) (toSigned 32 (p.producedBy data frames room)) (p.dstFramesOf data frames).2

end RatePlugin

end AlsaDriver.Pcm

namespace AlsaDriver.Pcm

open Function Runs Words

namespace RateCursor

variable {pitch : Nat} {samples samples' : Nat → Int}

@[simp] theorem pos_read (k : RateCursor) : (k.read samples).pos = k.pos := rfl

@[simp] theorem pos_emit (k : RateCursor) : k.emit.pos = k.pos := rfl

@[simp] theorem pos_wrap (k : RateCursor) : k.wrap.pos = k.pos % BITS := rfl

@[simp] theorem pos_advance (k : RateCursor) : (k.advance pitch).pos = (k.pos + pitch) % 2 ^ 32 := rfl

theorem pos_expandFrame {k k' : RateCursor} (same : k.pos = k'.pos) :
    (k.expandFrame pitch samples).pos = (k'.expandFrame pitch samples').pos := by
  unfold expandFrame
  by_cases passed : BITS ≤ k.pos
  · simp [same ▸ passed, same]
  · simp [same ▸ passed, same]

theorem pos_expandFrames {k k' : RateCursor} (same : k.pos = k'.pos) (n : Nat) :
    ((expandFrame pitch samples)^[n] k).pos = ((expandFrame pitch samples')^[n] k').pos := by
  induction n generalizing k k' with
  | zero => exact same
  | succ n ih => exact ih (pos_expandFrame same)

theorem pos_shrinkFrames {k k' : RateCursor} (same : k.pos = k'.pos) (passes dstFrames1 : Nat) :
    (shrinkFrames pitch samples passes dstFrames1 k).map pos = (shrinkFrames pitch samples' passes dstFrames1 k').map pos := by
  induction passes generalizing k k' dstFrames1 with
  | zero =>
    cases dstFrames1 with
    | zero => simp [shrinkFrames, same]
    | succ n => rfl
  | succ passes ih =>
    cases dstFrames1 with
    | zero => simp [shrinkFrames, same]
    | succ n =>
      unfold shrinkFrames
      by_cases passed : BITS ≤ k.pos
      · have passed' : BITS ≤ k'.pos := same ▸ passed
        simp only [pos_read, passed, passed', if_true]
        exact ih (by simp [same]) n
      · have passed' : ¬ BITS ≤ k'.pos := same ▸ passed
        simp only [pos_read, passed, passed', if_false]
        exact ih (by simp [same]) (n + 1)

end RateCursor

namespace RatePlugin

variable {p : RatePlugin} {pos : Nat} {voice : RateChannel} {samples : Nat → Int} {srcFrames dstFrames : Int}

theorem pos_resample (voice' : RateChannel) (samples' : Nat → Int) :
    (p.resample pos voice samples srcFrames dstFrames).map RateCursor.pos =
      (p.resample pos voice' samples' srcFrames dstFrames).map RateCursor.pos := by
  unfold resample
  dsimp only
  split
  · apply congrArg some
    apply RateCursor.pos_expandFrames
    rfl
  · apply RateCursor.pos_shrinkFrames
    rfl

theorem shrinkFrames_ends {pitch : Nat} (positive : 0 < pitch) (fits : pitch + BITS ≤ 2 ^ 32) (passes dstFrames1 : Nat)
    (k : RateCursor) (enough : (BITS - k.pos) + 1 + dstFrames1 * (BITS + 1) ≤ passes + (BITS + 1)) :
    ∃ k', RateCursor.shrinkFrames pitch samples passes dstFrames1 k = some k' := by
  induction passes generalizing dstFrames1 k with
  | zero =>
    cases dstFrames1 with
    | zero => exact ⟨k, rfl⟩
    | succ n =>
      rw [BITS] at enough
      omega
  | succ passes ih =>
    cases dstFrames1 with
    | zero => exact ⟨k, by rw [RateCursor.shrinkFrames]⟩
    | succ n =>
      unfold RateCursor.shrinkFrames
      by_cases passed : BITS ≤ k.pos
      · simp only [RateCursor.pos_read, passed, if_true]
        apply ih
        rw [BITS] at *
        omega
      · have next : ((k.read samples).advance pitch).pos = k.pos + pitch := by
          rw [RateCursor.pos_advance, RateCursor.pos_read, Nat.mod_eq_of_lt (by omega)]
        simp only [RateCursor.pos_read, passed, if_false]
        apply ih
        rw [next]
        rw [BITS] at *
        omega

theorem resample_returns (positive : 0 < p.pitch) (fits : p.pitch + BITS ≤ 2 ^ 32) :
    ∃ k, p.resample pos voice samples srcFrames dstFrames = some k := by
  unfold resample
  dsimp only
  split
  · exact ⟨_, rfl⟩
  · exact shrinkFrames_ends positive fits _ _ _ (by omega)

theorem resample_none (none_ : dstFrames ≤ 0) :
    p.resample pos voice samples srcFrames dstFrames = some ⟨pos, voice.lastS1, voice.lastS2, srcFrames, 0, []⟩ := by
  have zero : dstFrames.toNat = 0 := Int.toNat_of_nonpos none_
  unfold resample
  rw [zero]
  split
  · rfl
  · rw [RateCursor.shrinkFrames]

end RatePlugin

structure Solo where
  pos : Nat
  voice : RateChannel
  out : RateOut

def Solo.transfer (p : RatePlugin) (enabled : Bool) (idle : RateOut) (samples : Nat → Int) (srcFrames dstFrames : Int)
    (t : Solo) : Solo :=
  (p.resample t.pos t.voice samples srcFrames dstFrames).elim t fun k =>
    if enabled then ⟨k.pos, ⟨k.S1, k.S2⟩, .samples k.out⟩ else ⟨k.pos, t.voice, idle⟩

inductive RateOp where
  | transfer (c : RateChannels) (room frames : Nat)
  | srcFrames (frames : Nat)
  | dstFrames (frames : Nat)
  | prepare

structure RateRun where
  data : RateData
  outs : Nat → RateOut
  solo : Nat → Solo

namespace RatePlugin

variable (p : RatePlugin)

def exec (t : RateRun) : RateOp → RateRun
  | .transfer c room frames =>
    let dstFrames := toSigned 32 (p.producedBy t.data frames room)
    (p.transfer c room frames t.data).elim t fun r =>
      { data := r.1
        outs := r.2
        solo := fun channel =>
          if frames = 0 then { t.solo channel with out := .kept }
          else (t.solo channel).transfer p (c.enabled channel) (c.idle channel dstFrames) (c.samples channel)
            (toSigned 32 frames) dstFrames }
  | .srcFrames frames => { t with data := (p.srcFramesOf t.data frames).2 }
  | .dstFrames frames => { t with data := (p.dstFramesOf t.data frames).2 }
  | .prepare =>
    { t with
      data := t.data.init p.channels
      solo := fun channel => { t.solo channel with pos := 0, voice := ⟨0, 0⟩ } }

/-- The plugin as `snd_pcm_plugin_build_rate` makes it. -/
def rateFresh : RateRun :=
  ⟨⟨0, 0, 0, fun _ => ⟨0, 0⟩⟩, fun _ => .kept, fun _ => ⟨0, ⟨0, 0⟩, .kept⟩⟩

def Follows (t : RateRun) : Prop :=
  ∀ channel < p.channels, t.data.pos = (t.solo channel).pos ∧ t.data.channels channel = (t.solo channel).voice ∧
    t.outs channel = (t.solo channel).out

def Whole (t : RateRun) : RateOp → Prop
  | .transfer c room frames =>
    frames = 0 ∨ toSigned 32 (p.producedBy t.data frames room) ≤ 0 ∨ ∀ channel < p.channels, c.enabled channel = true
  | _ => True

instance (t : RateRun) : (op : RateOp) → Decidable (p.Whole t op)
  | .transfer _ _ _ => inferInstanceAs (Decidable (_ ∨ _ ∨ _))
  | .srcFrames _ => .isTrue trivial
  | .dstFrames _ => .isTrue trivial
  | .prepare => .isTrue trivial

variable {p}

theorem follows_fresh : p.Follows rateFresh := fun _ _ => ⟨rfl, rfl, rfl⟩

theorem dstFramesOf_data (data : RateData) (frames : Nat) :
    (p.dstFramesOf data frames).2.pos = data.pos ∧ (p.dstFramesOf data frames).2.channels = data.channels := by
  unfold dstFramesOf
  split
  · exact ⟨rfl, rfl⟩
  · cases remembered data.oldDstFrames data.oldSrcFrames frames <;> exact ⟨rfl, rfl⟩

theorem srcFramesOf_data (data : RateData) (frames : Nat) :
    (p.srcFramesOf data frames).2.pos = data.pos ∧ (p.srcFramesOf data frames).2.channels = data.channels := by
  unfold srcFramesOf
  split
  · exact ⟨rfl, rfl⟩
  · cases remembered data.oldSrcFrames data.oldDstFrames frames <;> exact ⟨rfl, rfl⟩

variable {c : RateChannels} {srcFrames dstFrames : Int} {data : RateData}

theorem update_below {α : Type} (f g : Nat → α) (n : Nat) :
    update (fun i => if i < n then f i else g i) n (f n) = fun i => if i < n + 1 then f i else g i := by
  funext i
  rw [update_apply]
  by_cases here : i = n
  · simp [here]
  · have before : i < n + 1 ↔ i < n := by omega
    simp only [here, before, if_false]

theorem resampleChannels_all {k : Nat → RateCursor} (n : Nat) (enabled : ∀ channel < n, c.enabled channel = true)
    (each : ∀ channel < n,
      p.resample data.pos (data.channels channel) (c.samples channel) srcFrames dstFrames = some (k channel)) :
    (List.range n).foldlM (p.resampleChannel c srcFrames dstFrames data) ⟨0, 0, data.channels, fun _ => .kept⟩ =
      some ⟨if n = 0 then 0 else (k (n - 1)).pos, n,
        fun i => if i < n then ⟨(k i).S1, (k i).S2⟩ else data.channels i,
        fun i => if i < n then .samples (k i).out else .kept⟩ := by
  induction n with
  | zero => simp
  | succ n ih =>
    rw [List.range_succ, List.foldlM_append, ih (fun i small => enabled i (by omega)) fun i small => each i (by omega)]
    simp only [List.foldlM_cons, List.foldlM_nil, resampleChannel, lt_irrefl, enabled n (by omega), each n (by omega), if_true, if_false,
      Option.bind_eq_bind, Option.bind_some, Option.map_some, Option.pure_def]
    rw [update_below (fun i => (⟨(k i).S1, (k i).S2⟩ : RateChannel)) data.channels n,
      update_below (fun i => RateOut.samples (k i).out) (fun _ => RateOut.kept) n]
    simp

theorem resampleChannels_stuck (some_ : 0 < p.channels) (enabled : c.enabled 0 = true)
    (stuck : p.resample data.pos (data.channels 0) (c.samples 0) srcFrames dstFrames = none) :
    p.func c srcFrames dstFrames data = none := by
  obtain ⟨n, channels⟩ := Nat.exists_eq_succ_of_ne_zero (Nat.pos_iff_ne_zero.mp some_)
  unfold func
  rw [channels, List.range_succ_eq_map, List.foldlM_cons]
  simp [resampleChannel, enabled, stuck]

theorem resampleChannels_none (c : RateChannels) (srcFrames : Int) (data : RateData) (none_ : dstFrames ≤ 0) (n : Nat) : ∃ rchannels,
    (List.range n).foldlM (p.resampleChannel c srcFrames dstFrames data) ⟨0, 0, data.channels, fun _ => .kept⟩ =
      some ⟨if n = 0 then 0 else data.pos, rchannels, data.channels,
        fun i => if i < n then if c.enabled i then .samples [] else c.idle i dstFrames else .kept⟩ := by
  induction n with
  | zero => exact ⟨0, by simp⟩
  | succ n ih =>
    obtain ⟨rchannels, done⟩ := ih
    rw [List.range_succ, List.foldlM_append, done]
    have outs := update_below (fun i => if c.enabled i then RateOut.samples [] else c.idle i dstFrames) (fun _ => RateOut.kept) n
    by_cases enabled : c.enabled n = true
    · refine ⟨rchannels + 1, ?_⟩
      rw [if_pos enabled] at outs
      simp [resampleChannel, enabled, resample_none none_, outs]
    · refine ⟨rchannels, ?_⟩
      rw [if_neg enabled] at outs
      simp [resampleChannel, enabled, outs]

variable {t : RateRun} {room frames : Nat}

theorem func_all (srcFrames dstFrames : Int) (data : RateData) (some_ : 0 < p.channels)
    (enabled : ∀ channel < p.channels, c.enabled channel = true) :
    p.func c srcFrames dstFrames data = none ∨ ∃ (k : Nat → RateCursor) (outs : Nat → RateOut) (data' : RateData),
      p.func c srcFrames dstFrames data = some (data', outs) ∧ ∀ channel < p.channels,
        p.resample data.pos (data.channels channel) (c.samples channel) srcFrames dstFrames = some (k channel) ∧
          data'.pos = (k channel).pos ∧ data'.channels channel = ⟨(k channel).S1, (k channel).S2⟩ ∧
          outs channel = .samples (k channel).out := by
  cases first : p.resample data.pos (data.channels 0) (c.samples 0) srcFrames dstFrames with
  | none => exact Or.inl (resampleChannels_stuck some_ (enabled 0 some_) first)
  | some k0 =>
    have others : ∀ channel, ∃ k, p.resample data.pos (data.channels channel) (c.samples channel) srcFrames dstFrames = some k ∧
        k.pos = k0.pos := by
      intro channel
      have phase : (p.resample data.pos (data.channels channel) (c.samples channel) srcFrames dstFrames).map RateCursor.pos = _ :=
        pos_resample (data.channels 0) (c.samples 0)
      rw [first] at phase
      exact Option.map_eq_some_iff.mp phase
    choose k each phase using others
    refine Or.inr ⟨k, _, _, congrArg (Option.map _) (resampleChannels_all p.channels enabled fun channel _ => each channel), ?_⟩
    intro channel small
    have last : p.channels ≠ 0 := by omega
    simp [each, small, last, phase]

theorem follows_transfer (some_ : 0 < p.channels) (follows : p.Follows t) (whole : p.Whole t (.transfer c room frames)) :
    p.Follows (p.exec t (.transfer c room frames)) := by
  obtain ⟨pos, channels⟩ := p.dstFramesOf_data t.data frames
  unfold exec transfer
  dsimp only
  rcases whole with zero | none_ | enabled
  · rw [if_pos zero]
    intro channel small
    obtain ⟨phase, voice, out⟩ := follows channel small
    simp [zero, phase, voice]
  · by_cases zero : frames = 0
    · rw [if_pos zero]
      intro channel small
      obtain ⟨phase, voice, out⟩ := follows channel small
      simp [zero, phase, voice]
    rw [if_neg zero]
    obtain ⟨rchannels, done⟩ :=
      resampleChannels_none (p := p) c (toSigned 32 frames) (p.dstFramesOf t.data frames).2 none_ p.channels
    unfold func
    rw [done]
    intro channel small
    obtain ⟨phase, voice, out⟩ := follows channel small
    have last : p.channels ≠ 0 := by omega
    cases enabled : c.enabled channel
    · simp [zero, Solo.transfer, resample_none none_, last, small, pos, channels, phase, voice, enabled]
    · simp [zero, Solo.transfer, resample_none none_, last, small, pos, channels, phase, voice, enabled]
  · by_cases zero : frames = 0
    · rw [if_pos zero]
      intro channel small
      obtain ⟨phase, voice, out⟩ := follows channel small
      simp [zero, phase, voice]
    rw [if_neg zero]
    rcases func_all (toSigned 32 frames) (toSigned 32 (p.producedBy t.data frames room)) (p.dstFramesOf t.data frames).2
      some_ enabled with stuck | ⟨k, outs, data', done, each⟩
    · rw [stuck]
      exact follows
    · rw [done]
      intro channel small
      obtain ⟨phase, voice, out⟩ := follows channel small
      obtain ⟨ran, reached, kept, stored⟩ := each channel small
      rw [pos, channels, phase, voice] at ran
      simp [zero, Solo.transfer, ran, enabled channel small, reached, kept, stored]

theorem channels_independent (p : RatePlugin) (some_ : 0 < p.channels) (ops : List RateOp)
    (whole : Throughout p.exec (fun t op _ => p.Whole t op) rateFresh ops) :
    Throughout p.exec (fun _ _ t => p.Follows t) rateFresh ops := by
  apply whole.steps p.Follows follows_fresh
  intro t op follows whole
  suffices next : p.Follows (p.exec t op) from ⟨next, next⟩
  cases op with
  | transfer c room frames => exact follows_transfer some_ follows whole
  | srcFrames frames =>
    obtain ⟨pos, channels⟩ := p.srcFramesOf_data t.data frames
    intro channel small
    obtain ⟨phase, voice, out⟩ := follows channel small
    exact ⟨pos.trans phase, (congrFun channels channel).trans voice, out⟩
  | dstFrames frames =>
    obtain ⟨pos, channels⟩ := p.dstFramesOf_data t.data frames
    intro channel small
    obtain ⟨phase, voice, out⟩ := follows channel small
    exact ⟨pos.trans phase, (congrFun channels channel).trans voice, out⟩
  | prepare =>
    intro channel small
    obtain ⟨phase, voice, out⟩ := follows channel small
    exact ⟨rfl, if_pos small, out⟩

def stereo (left right : Bool) : RateChannels where
  enabled channel := if channel = 0 then left else right
  samples channel frame := 100 * channel + frame
  wanted _ := true

theorem channels_independent_stereo : Throughout (exec ⟨22050, 44100, 2⟩) (fun _ _ t => Follows ⟨22050, 44100, 2⟩ t) rateFresh
    [.transfer (stereo true true) 8 4, .transfer (stereo false true) 8 0, .prepare, .transfer (stereo true true) 8 2] :=
  channels_independent ⟨22050, 44100, 2⟩ (by decide) _ (by decide)

/-- What is kept of the second channel goes to the place of the first one. -/
theorem history_misplaced : ¬ ∀ (p : RatePlugin) (_ : 0 < p.channels) (ops : List RateOp),
    Throughout p.exec (fun _ _ t => p.Follows t) rateFresh ops := by
  intro all
  have run := all ⟨22050, 44100, 2⟩ (by decide) [.transfer (stereo false true) 8 4]
  have second := (run.1 1 (by decide)).2.1
  revert second
  decide

end RatePlugin

end AlsaDriver.Pcm
