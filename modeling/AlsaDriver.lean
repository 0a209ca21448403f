import AlsaDriver.Pcm.HwParams.Termination
import AlsaDriver.Pcm.LinkRuns
import AlsaDriver.Pcm.DmaState
import AlsaDriver.Pcm.GroupAction
import AlsaDriver.Pcm.PointerRuns
import AlsaDriver.Pcm.Tracking
import AlsaDriver.Lib.Chains
import AlsaDriver.Seq.MidiSequences
import AlsaDriver.Seq.PrioqRuns
import AlsaDriver.Seq.FifoSpec
import AlsaDriver.Seq.CheckRuns
import AlsaDriver.Seq.PortRuns
import AlsaDriver.Seq.Deliver
import AlsaDriver.Control.Identity
import AlsaDriver.Control.Events
import AlsaDriver.Control.Authority
import AlsaDriver.Control.Vmaster
import AlsaDriver.Rawmidi.AppendRuns
import AlsaDriver.Compress.ParamsRuns
import AlsaDriver.Compress.RingRuns
import AlsaDriver.Timer.ListRuns
import AlsaDriver.Timer.TickRuns
import AlsaDriver.Timer.UserRuns
import AlsaDriver.Usb.UrbRuns
import AlsaDriver.Usb.FeedbackRuns
import AlsaDriver.Usb.ScarlettRuns
import AlsaDriver.Usb.MidiRuns
import AlsaDriver.Usb.FormatRuns
import AlsaDriver.Firewire.Amdtp
import AlsaDriver.Firewire.PlugRuns
import AlsaDriver.Firewire.Fcp
import AlsaDriver.Pci.Emu10k1Runs
import AlsaDriver.Seq.MidiEmulRuns
import AlsaDriver.Lib.Walks
import AlsaDriver.Usb.MixerRuns
import AlsaDriver.Usb.Clock
import AlsaDriver.Synth.EmuxRuns
import AlsaDriver.Pcm.Silence
import AlsaDriver.Card.SlotRuns
import AlsaDriver.Soc.BiasRuns
import AlsaDriver.Pcm.HwParams.IntervalStep
import AlsaDriver.Seq.MidiDecode
import AlsaDriver.Seq.PortNumbers
import AlsaDriver.Seq.QueueUse
import AlsaDriver.Control.UserCount
import AlsaDriver.Seq.DupRoundTrip
import AlsaDriver.Pcm.HwParams.Ratden
import AlsaDriver.Pcm.HwParams.Ratnum
import AlsaDriver.Control.Addressing
import AlsaDriver.Rawmidi.Params
import AlsaDriver.Timer.StickRuns
import AlsaDriver.Usb.Emagic
import AlsaDriver.Usb.SyncFormat
import AlsaDriver.Usb.Playback
import AlsaDriver.Usb.Capture
import AlsaDriver.Usb.ScarlettReads
import AlsaDriver.Pci.Emu10k1Complete
import AlsaDriver.Pci.CtVmem
import AlsaDriver.Seq.MidiBoundsRuns
import AlsaDriver.Pcm.Linear
import AlsaDriver.Pcm.Rate
import AlsaDriver.Info.Buffer
import AlsaDriver.Info.Lines
import AlsaDriver.Usb.Akai
import AlsaDriver.Control.ElemList
import AlsaDriver.Pci.CtImap
import AlsaDriver.Pci.CtResource
import AlsaDriver.Soc.DapmRuns
import AlsaDriver.Oss.Write
import AlsaDriver.Hda.PathRuns
import AlsaDriver.Card.Ids
import AlsaDriver.Pcm.IndirectPlayback
import AlsaDriver.Pcm.IndirectCapture
import AlsaDriver.I2c.BitBus
import AlsaDriver.Hda.Corb
import AlsaDriver.Hda.Bdl
import AlsaDriver.Memory.Sgbuf
import AlsaDriver.Card.Devices
