import ProcessMeter.Cgroup.Reading
import ProcessMeter.Report.Document

/-!
# Reports of cgroups

The documents of all that is read of a cgroup. Every field is there; what is missing is `null`.
-/

namespace ProcessMeter

open Document (field optional optionalNumber ofDuration ofMap)

/-- The document of a kind of waiting. -/
def Stall.document (s : Stall) : Document :=
  .object [
    field "avg10" (.decimal s.average10), field "avg60" (.decimal s.average60),
    field "avg300" (.decimal s.average300), field "total" (ofDuration s.total)]

/-- The document of a pressure file. -/
def Pressure.document (p : Pressure) : Document :=
  .object [field "some" p.some.document, field "full" (optional Stall.document p.full)]

/-- The document of what was moved in one direction. -/
def IoCount.document (c : IoCount) : Document :=
  .object [field "bytes" (.number c.bytes), field "ios" (.number c.operations)]

/-- The document of the tasks of a cgroup. -/
def PidsStat.document (p : PidsStat) : Document :=
  .object [field "current" (.number p.current), field "limit" (optionalNumber p.limit)]

namespace Legacy

/-- The document of the settings of the fair scheduler. -/
def Scheduling.document (s : Scheduling) : Document :=
  .object [
    field "period" (optional ofDuration s.period), field "quota" (optional ofDuration s.quota),
    field "shares" (.number s.shares)]

/-- The document of the throttling. -/
def Throttling.document (t : Throttling) : Document :=
  .object [
    field "nr_periods" (.number t.periods), field "nr_throttled" (.number t.throttledPeriods),
    field "throttled" (ofDuration t.throttledTime)]

/-- The document of the `cpu` subsystem. -/
def Cpu.document (c : Cpu) : Document :=
  .object [
    field "cfs" c.scheduling.document,
    field "throttling" (optional Throttling.document c.throttling)]

/-- The document of times by mode. -/
def ModeTimes.document (t : ModeTimes) : Document :=
  .object [field "user" (ofDuration t.user), field "system" (ofDuration t.system)]

/-- The document of times by processor. -/
def processorTimesDocument (times : List Duration) : Document := .list (times.map ofDuration)

/-- The document of the `cpuacct` subsystem. -/
def CpuTime.document (t : CpuTime) : Document :=
  .object [
    field "total" (ofDuration t.total), field "stats" (optional ModeTimes.document t.modes),
    field "per_cpu" (optional processorTimesDocument t.processors)]

/-- The document of a family of memory files. -/
def MemoryFamily.document (f : MemoryFamily) : Document :=
  .object [
    field "usage" (.number f.usage), field "max_usage" (optionalNumber f.peak),
    field "limit" (optionalNumber f.limit), field "failcnt" (optionalNumber f.failures)]

/-- The document of what the memory holds. -/
def MemoryStat.document (s : MemoryStat) : Document :=
  .object [
    field "cache" (.number s.cache), field "rss" (.number s.rss),
    field "rss_huge" (.number s.rssHuge), field "shmem" (.number s.shmem),
    field "mapped_file" (.number s.mappedFile), field "dirty" (.number s.dirty),
    field "writeback" (.number s.writeback), field "swap" (.number s.swap),
    field "pgfault" (.number s.pageFaults), field "pgmajfault" (.number s.majorPageFaults),
    field "active_anon" (.number s.activeAnon), field "inactive_anon" (.number s.inactiveAnon),
    field "active_file" (.number s.activeFile), field "inactive_file" (.number s.inactiveFile),
    field "unevictable" (.number s.unevictable),
    field "hierarchical_memory_limit" (.number s.hierarchicalLimit),
    field "total_cache" (.number s.totalCache), field "total_rss" (.number s.totalRss)]

/-- The document of the `memory` subsystem. -/
def Memory.document (m : Memory) : Document :=
  .object [
    field "mem" m.memory.document, field "memsw" (optional MemoryFamily.document m.withSwap),
    field "kmem" (optional MemoryFamily.document m.kernel), field "stats" m.stat.document]

/-- The document of a device. -/
def BlockIoDevice.document (d : BlockIoDevice) : Document :=
  .object [
    field "read" d.read.document, field "write" d.write.document, field "total" d.total.document]

/-- The document of the `blkio` subsystem. -/
def BlockIo.document (b : BlockIo) : Document :=
  .object [field "total" b.total.document, field "devices" (ofMap BlockIoDevice.document b.devices)]

end Legacy

namespace Unified

/-- The document of the times. -/
def CpuStat.document (s : CpuStat) : Document :=
  .object [
    field "usage" (ofDuration s.usage), field "user" (ofDuration s.user),
    field "system" (ofDuration s.system), field "nr_periods" (.number s.periods),
    field "nr_throttled" (.number s.throttledPeriods),
    field "throttled" (ofDuration s.throttledTime), field "nr_bursts" (.number s.bursts),
    field "burst" (ofDuration s.burstTime)]

/-- The document of the limit. -/
def CpuLimit.document (l : CpuLimit) : Document :=
  .object [field "quota" (optional ofDuration l.quota), field "period" (ofDuration l.period)]

/-- The document of the `cpu` controller. -/
def Cpu.document (c : Cpu) : Document :=
  .object [
    field "stats" c.stat.document, field "limit" (optional CpuLimit.document c.limit),
    field "weight" (optionalNumber c.weight),
    field "pressure" (optional Pressure.document c.pressure)]

/-- The document of what the memory holds. -/
def MemoryStat.document (s : MemoryStat) : Document :=
  .object [
    field "anon" (.number s.anon), field "file" (.number s.file),
    field "kernel_stack" (.number s.kernelStack), field "pagetables" (.number s.pageTables),
    field "slab" (.number s.slab), field "sock" (.number s.sock), field "shmem" (.number s.shmem),
    field "file_mapped" (.number s.fileMapped), field "file_dirty" (.number s.fileDirty),
    field "file_writeback" (.number s.fileWriteback), field "active_anon" (.number s.activeAnon),
    field "inactive_anon" (.number s.inactiveAnon), field "active_file" (.number s.activeFile),
    field "inactive_file" (.number s.inactiveFile), field "unevictable" (.number s.unevictable),
    field "pgfault" (.number s.pageFaults), field "pgmajfault" (.number s.majorPageFaults)]

/-- The document of the events. -/
def MemoryEvents.document (e : MemoryEvents) : Document :=
  .object [
    field "low" (.number e.low), field "high" (.number e.high), field "max" (.number e.max),
    field "oom" (.number e.outOfMemory), field "oom_kill" (.number e.kills)]

/-- The document of the `memory` controller. -/
def Memory.document (m : Memory) : Document :=
  .object [
    field "usage" (.number m.usage), field "limit" (optionalNumber m.limit),
    field "high" (optionalNumber m.high), field "swap_usage" (optionalNumber m.swapUsage),
    field "swap_limit" (optionalNumber m.swapLimit), field "stats" m.stat.document,
    field "events" (optional MemoryEvents.document m.events),
    field "pressure" (optional Pressure.document m.pressure)]

/-- The document of a device. -/
def IoDevice.document (d : IoDevice) : Document :=
  .object [
    field "read" d.read.document, field "write" d.write.document,
    field "discarded" d.discarded.document]

/-- The document of the `io` controller. -/
def Io.document (i : Io) : Document :=
  .object [
    field "stats" (ofMap IoDevice.document i.devices),
    field "pressure" (optional Pressure.document i.pressure)]

end Unified

/-- The document of a version. -/
def CgroupVersion.document : CgroupVersion → Document
  | .v1 => .text "v1".toList
  | .v2 => .text "v2".toList
  | .hybrid => .text "hybrid".toList

/-- The document of the controllers. -/
def Controllers.document : Controllers → Document
  | .v1 c => .object [
      field "cpu" (optional Legacy.Cpu.document c.cpu),
      field "cpuacct" (optional Legacy.CpuTime.document c.cpuTime),
      field "memory" (optional Legacy.Memory.document c.memory),
      field "blkio" (optional Legacy.BlockIo.document c.blockIo),
      field "pids" (optional PidsStat.document c.pids)]
  | .v2 c => .object [
      field "cpu" (optional Unified.Cpu.document c.cpu),
      field "memory" (optional Unified.Memory.document c.memory),
      field "io" (optional Unified.Io.document c.io),
      field "pids" (optional PidsStat.document c.pids)]

/-- The document of the use of processors. -/
def Usage.CpuShare.document (u : Usage.CpuShare) : Document :=
  .object [field "pct" (.decimal u.share), field "norm_pct" (.decimal u.hostShare)]

/-- The document of a reading. -/
def CgroupReading.document (s : CgroupReading) : Document :=
  .object [
    field "id" (.text s.id), field "path" (.text s.path), field "version" s.version.document,
    field "controllers" s.controllers.document,
    field "cpu_usage" (optional Usage.CpuShare.document s.cpuUsage)]

end ProcessMeter
