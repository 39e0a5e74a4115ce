import Ps2Drivers.Lib.Checked
import Ps2Drivers.Lib.Layout
import Ps2Drivers.Lib.Bytes
import Ps2Drivers.Lib.Heap
import Ps2Drivers.Lib.CString
import Ps2Drivers.Lib.Crc
import Ps2Drivers.Lib.Encoding
import Ps2Drivers.Image.Format
import Ps2Drivers.BootDevice
import Ps2Drivers.Provider.Requirements
import Ps2Drivers.Provider.World
import Ps2Drivers.Provider.Parse
import Ps2Drivers.Lib.Ensures
import Ps2Drivers.Provider.Stage
import Ps2Drivers.Provider.Api
import Ps2Drivers.Provider.Invariant
import Ps2Drivers.Provider.Run
import Ps2Drivers.Image.Manifest
import Ps2Drivers.Image.Pack
import Ps2Drivers.Image.Validate
import Ps2Drivers.Image.RoundTrip
import Ps2Drivers.Image.Accept
import Ps2Drivers.Image.Checksum
import Ps2Drivers.Image.Stream
import Ps2Drivers.Lib.Text
import Ps2Drivers.Image.Lines
import Ps2Drivers.Image.Printed
import Ps2Drivers.Image.Records
import Ps2Drivers.Image.LongLines
import Ps2Drivers.Image.Wrap
import Ps2Drivers.Provider.Corrupt
import Ps2Drivers.Lib.Program
import Ps2Drivers.Provider.Payload
import Ps2Drivers.Provider.Source
import Ps2Drivers.Provider.Consume
import Ps2Drivers.Provider.Closure
import Ps2Drivers.Drivers.Machine
import Ps2Drivers.Drivers.Single
import Ps2Drivers.Drivers.Hdd
import Ps2Drivers.Drivers.Filesystem
import Ps2Drivers.Drivers.Modules
import Ps2Drivers.Drivers.Init
import Ps2Drivers.Drivers.Report
import Ps2Drivers.Drivers.Simulation
import Ps2Drivers.Drivers.Teardown
import Ps2Drivers.Drivers.Frame
import Ps2Drivers.Drivers.Mount
import Ps2Drivers.Drivers.Undo
import Ps2Drivers.Drivers.BootUndo
import Ps2Drivers.Drivers.SwitchOff
import Ps2Drivers.Drivers.Instances
import Ps2Drivers.Drivers.BootStaging
import Ps2Drivers.Drivers.BootResidue
import Ps2Drivers.Drivers.MountRun
import Ps2Drivers.Drivers.Shutdown
import Ps2Drivers.Drivers.Unloading
import Ps2Drivers.Drivers.Ready
import Ps2Drivers.Drivers.Again
import Ps2Drivers.Drivers.Recover
import Ps2Drivers.Drivers.Network
import Ps2Drivers.Drivers.Stacking
import Ps2Drivers.Drivers.Split
import Ps2Drivers.Network.Configure
import Ps2Drivers.Network.Stacks
import Ps2Drivers.Network.Progress
import Ps2Drivers.Lib.Abstract
import Ps2Drivers.Drivers.Contents
import Ps2Drivers.Drivers.Samples
import Ps2Drivers.Provider.Staged
import Ps2Drivers.Drivers.Restage
import Ps2Drivers.Drivers.ImageSample
import Ps2Drivers.Lib.Exchange
import Ps2Drivers.Network.Burst
import Ps2Drivers.Network.BurstRuns
import Ps2Drivers.Lib.Appending
import Ps2Drivers.Image.Torn
import Ps2Drivers.Lib.OneShot
import Ps2Drivers.Provider.Store
import Ps2Drivers.Drivers.StageTest
import Ps2Drivers.Lib.Walk
import Ps2Drivers.Drivers.FailStop
