import ProcessMeter.Agent.Run
import ProcessMeter.Agent.Settings
import ProcessMeter.Agent.Surroundings
import ProcessMeter.Cgroup.Accounting
import ProcessMeter.Cgroup.BlockDevice
import ProcessMeter.Cgroup.Failure
import ProcessMeter.Cgroup.IoCount
import ProcessMeter.Cgroup.Legacy.BlockIo
import ProcessMeter.Cgroup.Legacy.Cpu
import ProcessMeter.Cgroup.Legacy.CpuTime
import ProcessMeter.Cgroup.Legacy.Memory
import ProcessMeter.Cgroup.Membership
import ProcessMeter.Cgroup.Pids
import ProcessMeter.Cgroup.Placement
import ProcessMeter.Cgroup.Pressure
import ProcessMeter.Cgroup.Reading
import ProcessMeter.Cgroup.Unified.Cpu
import ProcessMeter.Cgroup.Unified.Io
import ProcessMeter.Cgroup.Unified.Memory
import ProcessMeter.Files.Failure
import ProcessMeter.Files.Path
import ProcessMeter.Files.Tree
import ProcessMeter.Host
import ProcessMeter.Main
import ProcessMeter.Mount.Record
import ProcessMeter.Mount.Table
import ProcessMeter.Number.Double
import ProcessMeter.Number.Numeral
import ProcessMeter.Number.Shortest
import ProcessMeter.Pattern.Age
import ProcessMeter.Pattern.Automaton
import ProcessMeter.Pattern.Bracket
import ProcessMeter.Pattern.Build
import ProcessMeter.Pattern.CaseFolding
import ProcessMeter.Pattern.Category
import ProcessMeter.Pattern.CharSet
import ProcessMeter.Pattern.CodePoints
import ProcessMeter.Pattern.Escape
import ProcessMeter.Pattern.Flags
import ProcessMeter.Pattern.Formula
import ProcessMeter.Pattern.NamedSet
import ProcessMeter.Pattern.Parser
import ProcessMeter.Pattern.Property
import ProcessMeter.Pattern.Regex
import ProcessMeter.Pattern.Script
import ProcessMeter.Pattern.Search
import ProcessMeter.Pattern.TextBreak
import ProcessMeter.Probe
import ProcessMeter.Process.Failure
import ProcessMeter.Process.History
import ProcessMeter.Process.Identity
import ProcessMeter.Process.NameFilter
import ProcessMeter.Process.Network
import ProcessMeter.Process.Procfs
import ProcessMeter.Process.Record
import ProcessMeter.Process.Sample
import ProcessMeter.Process.Sampler
import ProcessMeter.Process.Session
import ProcessMeter.Process.Table
import ProcessMeter.Process.Top
import ProcessMeter.Report.Controllers
import ProcessMeter.Report.Document
import ProcessMeter.Report.Samples
import ProcessMeter.Stat.Failure
import ProcessMeter.Stat.File
import ProcessMeter.Stat.KeyValue
import ProcessMeter.Stat.Lines
import ProcessMeter.Stat.Scalar
import ProcessMeter.Text.Basic
import ProcessMeter.Text.Map
import ProcessMeter.Text.Utf8
import ProcessMeter.Time
import ProcessMeter.Usage
import ProcessMeter.Proofs.TextMaps
import ProcessMeter.Proofs.NeverOverflows
import ProcessMeter.Proofs.KernelSampler
import ProcessMeter.Proofs.Observation
import ProcessMeter.Proofs.Batch
import ProcessMeter.Proofs.Known
import ProcessMeter.Proofs.Run
import ProcessMeter.Proofs.LatestSample
import ProcessMeter.Proofs.Derivation
import ProcessMeter.Proofs.BatchAlone
import ProcessMeter.Proofs.Presence
import ProcessMeter.Proofs.CounterSums
import ProcessMeter.Proofs.BatchOverflow
import ProcessMeter.Proofs.Placement
import ProcessMeter.Proofs.LexicalPath
import ProcessMeter.Proofs.RootExclusion
import ProcessMeter.Proofs.FileReads
import ProcessMeter.Proofs.ControllerReads
import ProcessMeter.Proofs.ControllerIsolation
import ProcessMeter.Proofs.CgroupUsage
import ProcessMeter.Proofs.Printed
import ProcessMeter.Proofs.StateLine
import ProcessMeter.Proofs.SamplingOutcome
import ProcessMeter.Proofs.Stretch
import ProcessMeter.Proofs.CarryOver
import ProcessMeter.Proofs.SharedHistory
import ProcessMeter.Proofs.EncodedText
import ProcessMeter.Proofs.KeyedLines
import ProcessMeter.Proofs.KeyedFiles
import ProcessMeter.Proofs.SpelledFiles
import ProcessMeter.Proofs.SpelledDevices
import ProcessMeter.Proofs.SpelledControllers
import ProcessMeter.Proofs.WritableFiles
import ProcessMeter.Proofs.WritableRecords
import ProcessMeter.Proofs.WritableControllers
import ProcessMeter.Proofs.MountTables
import ProcessMeter.Proofs.PrintedMounts
import ProcessMeter.Proofs.AskedPaths
import ProcessMeter.Proofs.RootfsConfinement
import ProcessMeter.Proofs.ConsideredPairs
import ProcessMeter.Proofs.RepeatedKeys
import ProcessMeter.Proofs.ReportedLines
import ProcessMeter.Proofs.FirstAndLast
import ProcessMeter.Proofs.CoalescedDevices
import ProcessMeter.Proofs.OctalEscapes
import ProcessMeter.Proofs.BusiestSamples
import ProcessMeter.Proofs.ForeignFigures
import ProcessMeter.Proofs.FirstMounts
import ProcessMeter.Proofs.MountedPaths
import ProcessMeter.Proofs.MembershipFiles
import ProcessMeter.Proofs.StateGrammar
import ProcessMeter.Proofs.CommandLines
import ProcessMeter.Proofs.EnvironmentBlocks
import ProcessMeter.Proofs.NetworkRows
import ProcessMeter.Proofs.NetworkTables
import ProcessMeter.Proofs.NetworkTotals
import ProcessMeter.Proofs.ThrottleFiles
import ProcessMeter.Proofs.MergedThrottles
import ProcessMeter.Proofs.ClockTicks
import ProcessMeter.Proofs.AgentVariables
import ProcessMeter.Proofs.PressureLines
import ProcessMeter.Proofs.PressureFiles
