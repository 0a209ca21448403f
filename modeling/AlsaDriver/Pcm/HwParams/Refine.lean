import AlsaDriver.Lib.Machine
import AlsaDriver.Pcm.HwParams.Rules

namespace AlsaDriver.Pcm

open Machine

/-- The hardware of a stream as far as `snd_pcm_hw_refine` asks it: its constraints, `hw.info` and
    the `SNDRV_PCM_IOCTL1_FIFO_SIZE` callback, which returns its code and `fifo_size`. -/
structure RefineStream where
  constrs : SndPcmHwConstraints
  info : UInt32
  fifoSize : SndPcmHwParams → Int × UInt64

def SNDRV_PCM_INFO_FIFO_IN_FRAMES : UInt32 := 0x80000000

def refineReset (params : SndPcmHwParams) : SndPcmHwParams :=
  let params := { params with info := 0, fifoSize := 0 }
  let params := if params.requests (.interval .sampleBits) then { params with msbits := 0 } else params
  if params.requests (.interval .rate) then { params with rateNum := 0, rateDen := 0 } else params

def refineMasks (constrs : SndPcmHwConstraints) : List MaskParam → SndPcmHwParams → Int × SndPcmHwParams
  | [], params => (0, params)
  | k :: rest, params =>
    let m := params.space.masks k
    if sndMaskEmpty m then (-EINVAL, params)
    else if !params.requests (.mask k) then refineMasks constrs rest params
    else
      let (changed, m) := sndMaskRefine m (constrs.space.masks k)
      let params := { params with space := params.space.setMask k m }
      let params :=
        if changed != 0 then { params with cmask := params.cmask ||| (HwParam.mask k).bit } else params
      if changed < 0 then (changed, params) else refineMasks constrs rest params

def refineIntervals (constrs : SndPcmHwConstraints) : List IntervalParam → SndPcmHwParams → Int × SndPcmHwParams
  | [], params => (0, params)
  | k :: rest, params =>
    let i := params.space.intervals k
    if sndIntervalEmpty i then (-EINVAL, params)
    else if !params.requests (.interval k) then refineIntervals constrs rest params
    else
      let (changed, i) := sndIntervalRefine i (constrs.space.intervals k)
      let params := { params with space := params.space.setInterval k i }
      let params :=
        if changed != 0 then { params with cmask := params.cmask ||| (HwParam.interval k).bit } else params
      if changed < 0 then (changed, params) else refineIntervals constrs rest params

/-- Where the rule loop stands: `k` is the next rule of the pass. -/
structure RefineState where
  params : SndPcmHwParams
  rstamps : Nat → UInt32
  vstamps : HwParam → UInt32
  stamp : UInt32
  again : Bool
  k : Nat

def refineStart (params : SndPcmHwParams) : RefineState where
  params := params
  rstamps := fun _ => 0
  vstamps := fun v => if params.requests v then 1 else 0
  stamp := 2
  again := false
  k := 0

/-- Whether the pass calls rule `r`, which stands at index `s.k`. -/
def RefineState.fires (s : RefineState) (r : SndPcmHwRule) : Bool :=
  !(r.cond != 0 && r.cond &&& s.params.flags == 0) && r.deps.any fun d => s.vstamps d > s.rstamps s.k

/-- The call of rule `r` in state `s` with the uninitialised local of its function. -/
def RefineState.call (stack : HwSpace → SndInterval) (s : RefineState) (r : SndPcmHwRule) : Int × HwSpace :=
  r.func.call (stack s.params.space) s.params.space

/-- The state after a call that returned `changed` and left the variables in `space`. -/
def RefineState.stamped (s : RefineState) (r : SndPcmHwRule) (changed : Int) (space : HwSpace) : RefineState :=
  let s := { s with
    params := { s.params with space := space }
    rstamps := Function.update s.rstamps s.k s.stamp }
  if changed != 0 then
    { s with
      params := { s.params with cmask := s.params.cmask ||| r.var.bit }
      vstamps := Function.update s.vstamps r.var s.stamp
      again := true }
  else s

/-- One turn of the inner loop of the `do ... while (again)`, or the test at its end. -/
def refineStep (stack : HwSpace → SndInterval) (rules : List SndPcmHwRule) (s : RefineState) :
    Outcome RefineState (Int × SndPcmHwParams) :=
  match rules[s.k]? with
  | none => if s.again then .next { s with again := false, k := 0 } else .halt (0, s.params)
  | some r =>
    if s.fires r then
      let (changed, space) := s.call stack r
      let s := s.stamped r changed space
      if changed < 0 then .halt (changed, s.params)
      else .next { s with stamp := s.stamp + 1, k := s.k + 1 }
    else .next { s with k := s.k + 1 }

/-- At most `n` turns of the rule loop over `params`. -/
abbrev refineLoop (stack : HwSpace → SndInterval) (rules : List SndPcmHwRule) (n : Nat) (params : SndPcmHwParams) :
    Outcome RefineState (Int × SndPcmHwParams) := runFor (refineStep stack rules) n (refineStart params)

def refineFixed (stream : RefineStream) (params : SndPcmHwParams) : SndPcmHwParams :=
  let bits := params.space.intervals .sampleBits
  let params :=
    if params.msbits == 0 && sndIntervalSingle bits then { params with msbits := sndIntervalValue bits } else params
  let rate := params.space.intervals .rate
  let params :=
    if params.rateDen == 0 && sndIntervalSingle rate then
      { params with rateNum := sndIntervalValue rate, rateDen := 1 }
    else params
  if params.info == 0 then { params with info := stream.info &&& ~~~SNDRV_PCM_INFO_FIFO_IN_FRAMES } else params

def refineFinish (stream : RefineStream) (params : SndPcmHwParams) : Int × SndPcmHwParams :=
  let params := refineFixed stream params
  let m := params.space.masks .format
  let channels := params.space.intervals .channels
  if params.fifoSize == 0 && sndMaskMin m == sndMaskMax m &&
      sndIntervalMin channels == sndIntervalMax channels then
    let (changed, size) := stream.fifoSize params
    let params := { params with fifoSize := size }
    if changed < 0 then (changed, params) else (0, { params with rmask := 0 })
  else (0, { params with rmask := 0 })

def refineEnter (constrs : SndPcmHwConstraints) (params : SndPcmHwParams) : Int × SndPcmHwParams :=
  let (err, params) := refineMasks constrs maskParams (refineReset params)
  if err < 0 then (err, params) else refineIntervals constrs intervalParams params

/-- The rule loop is given `fuel` turns; `none` when it has not ended by then. -/
def sndPcmHwRefine (stack : HwSpace → SndInterval) (fuel : Nat) (stream : RefineStream) (params : SndPcmHwParams) :
    Option (Int × SndPcmHwParams) :=
  let (err, params) := refineEnter stream.constrs params
  if err < 0 then some (err, params)
  else
    match refineLoop stack stream.constrs.rules fuel params with
    | .next _ => none
    | .halt (err, params) => if err < 0 then some (err, params) else some (refineFinish stream params)

theorem RefineState.stamped_space (s : RefineState) (r : SndPcmHwRule) (changed : Int) (space : HwSpace) :
    (s.stamped r changed space).params.space = space := by
  unfold RefineState.stamped
  split <;> rfl

theorem RefineState.stamped_k (s : RefineState) (r : SndPcmHwRule) (changed : Int) (space : HwSpace) :
    (s.stamped r changed space).k = s.k := by
  unfold RefineState.stamped
  split <;> rfl

theorem RefineState.stamped_again (s : RefineState) (r : SndPcmHwRule) (changed : Int) (space : HwSpace) :
    (s.stamped r changed space).again = (changed != 0 || s.again) := by
  unfold RefineState.stamped
  split
  · rename_i nonzero
    simp [nonzero]
  · rename_i zero
    simp [zero]

theorem refineStep_next {stack : HwSpace → SndInterval} {rules : List SndPcmHwRule} {s s' : RefineState}
    (move : refineStep stack rules s = .next s') :
    (rules[s.k]? = none ∧ s.again = true ∧ s' = { s with again := false, k := 0 }) ∨
    (∃ r, rules[s.k]? = some r ∧ s.fires r = false ∧ s' = { s with k := s.k + 1 }) ∨
    (∃ r, rules[s.k]? = some r ∧ s.fires r = true ∧ 0 ≤ (s.call stack r).1 ∧
      s'.params.space = (s.call stack r).2 ∧ s'.again = ((s.call stack r).1 != 0 || s.again) ∧
      s'.k = s.k + 1) := by
  unfold refineStep at move
  split at move
  · rename_i last
    split at move
    · rename_i again
      exact Or.inl ⟨last, again, (Outcome.next.inj move).symm⟩
    · cases move
  · rename_i r current
    split at move
    · rename_i fires
      dsimp only at move
      split at move
      · cases move
      · rename_i success
        cases move
        refine Or.inr (Or.inr ⟨r, current, fires, by omega, ?_, ?_, ?_⟩)
        · exact s.stamped_space r _ _
        · exact s.stamped_again r _ _
        · exact congrArg (· + 1) (s.stamped_k r _ _)
    · rename_i idle
      exact Or.inr (Or.inl ⟨r, current, by simpa using idle, (Outcome.next.inj move).symm⟩)

theorem refineStep_halt {stack : HwSpace → SndInterval} {rules : List SndPcmHwRule} {s : RefineState}
    {result : Int × SndPcmHwParams} (stop : refineStep stack rules s = .halt result) :
    (result = (0, s.params)) ∨
    (∃ r, rules[s.k]? = some r ∧ s.fires r = true ∧ (s.call stack r).1 < 0 ∧ result.1 = (s.call stack r).1 ∧
      result.2.space = (s.call stack r).2) := by
  unfold refineStep at stop
  split at stop
  · split at stop
    · cases stop
    · exact Or.inl (Outcome.halt.inj stop).symm
  · rename_i r current
    split at stop
    · rename_i fires
      dsimp only at stop
      split at stop
      · rename_i failure
        cases stop
        exact Or.inr ⟨r, current, fires, failure, rfl, s.stamped_space r _ _⟩
      · cases stop
    · cases stop

end AlsaDriver.Pcm
