import ProcessMeter.Cgroup.Legacy.BlockIo
import ProcessMeter.Cgroup.Legacy.Cpu
import ProcessMeter.Cgroup.Legacy.CpuTime
import ProcessMeter.Cgroup.Legacy.Memory
import ProcessMeter.Cgroup.Pids
import ProcessMeter.Cgroup.Placement
import ProcessMeter.Cgroup.Unified.Cpu
import ProcessMeter.Cgroup.Unified.Io
import ProcessMeter.Cgroup.Unified.Memory
import ProcessMeter.Usage

/-!
# Readings of a cgroup

A reading holds what the controllers of a cgroup report at one moment. Its processor time
becomes a usage once there is an earlier reading of the same cgroup.
-/

namespace ProcessMeter

/-- The subsystems of version 1. One that is not mounted, or cannot be read, is missing. -/
structure LegacyControllers where
  /-- The `cpu` subsystem. -/
  cpu : Option Legacy.Cpu
  /-- The `cpuacct` subsystem. -/
  cpuTime : Option Legacy.CpuTime
  /-- The `memory` subsystem. -/
  memory : Option Legacy.Memory
  /-- The `blkio` subsystem. -/
  blockIo : Option Legacy.BlockIo
  /-- The `pids` subsystem. -/
  pids : Option PidsStat
  deriving DecidableEq, Repr

/-- The controllers of version 2. One that cannot be read is missing. -/
structure UnifiedControllers where
  /-- The `cpu` controller. -/
  cpu : Option Unified.Cpu
  /-- The `memory` controller. -/
  memory : Option Unified.Memory
  /-- The `io` controller. -/
  io : Option Unified.Io
  /-- The `pids` controller. -/
  pids : Option PidsStat
  deriving DecidableEq, Repr

/-- What the controllers of a cgroup report. -/
inductive Controllers where
  /-- The subsystems of version 1. -/
  | v1 (controllers : LegacyControllers)
  /-- The controllers of version 2. -/
  | v2 (controllers : UnifiedControllers)
  deriving DecidableEq, Repr

namespace Controllers

/-- The version of the controllers. -/
def version : Controllers → CgroupVersion
  | .v1 _ => .v1
  | .v2 _ => .v2

/-- The processor time of the cgroup. -/
def cpuTime? : Controllers → Option Duration
  | .v1 c => c.cpuTime.map fun time => time.total
  | .v2 c => c.cpu.map fun cpu => cpu.stat.usage

end Controllers

/-- A cgroup at one moment. -/
structure CgroupReading where
  /-- The last name of the path, empty for the root. -/
  id : Text
  /-- The path of the cgroup within its hierarchy. -/
  path : Path
  /-- The version of its controllers. -/
  version : CgroupVersion
  /-- What its controllers report. -/
  controllers : Controllers
  /-- The processor time used since the previous reading. -/
  cpuUsage : Option Usage.CpuShare
  deriving DecidableEq, Repr

namespace CgroupReading

/-- A reading without a previous one. -/
def ofControllers (path : Path) (controllers : Controllers) : CgroupReading where
  id := Cgroup.id path
  path := path
  version := controllers.version
  controllers := controllers
  cpuUsage := none

/-- The processor time of the cgroup. -/
def cpuTime? (reading : CgroupReading) : Option Duration := reading.controllers.cpuTime?

/-- The usage since an earlier reading, if both are of one cgroup and have processor times. -/
def usageSince? (reading previous : CgroupReading) (elapsed : Duration) (processors : Nat) :
    Option Usage.CpuShare :=
  if previous.path = reading.path ∧ previous.version = reading.version then
    match previous.cpuTime?, reading.cpuTime? with
    | some earlier, some current => Usage.processorTime earlier current elapsed processors
    | _, _ => reading.cpuUsage
  else reading.cpuUsage

/-- The reading with its usage since an earlier one. -/
def since (reading previous : CgroupReading) (elapsed : Duration) (processors : Nat) :
    CgroupReading :=
  { reading with cpuUsage := reading.usageSince? previous elapsed processors }

end CgroupReading

end ProcessMeter
