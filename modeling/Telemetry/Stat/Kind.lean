import Telemetry.Wire.Error

namespace Telemetry.Stat

open Wire

/-! The kinds of agent statistics and what one sample of each kind holds. -/

inductive StatKind where
  | jvmGc
  | cpuLoad
  | totalThreadCount
  | fileDescriptor
  | loadedClass
  | dataSource
deriving DecidableEq, Repr

namespace StatKind

def code : StatKind → UInt8
  | .jvmGc => 1
  | .cpuLoad => 2
  | .totalThreadCount => 3
  | .fileDescriptor => 4
  | .loadedClass => 5
  | .dataSource => 6

def ofCode : UInt8 → Except DecodeError StatKind
  | 1 => .ok .jvmGc
  | 2 => .ok .cpuLoad
  | 3 => .ok .totalThreadCount
  | 4 => .ok .fileDescriptor
  | 5 => .ok .loadedClass
  | 6 => .ok .dataSource
  | code => .error (.invalidType (.statKind code))

end StatKind

inductive GcKind where
  | unknown
  | serial
  | parallel
  | cms
  | g1
deriving DecidableEq, Repr

namespace GcKind

def code : GcKind → Int64
  | .unknown => 0
  | .serial => 1
  | .parallel => 2
  | .cms => 3
  | .g1 => 4

def ofCode (code : Int64) : Except DecodeError GcKind :=
  if code = 0 then .ok .unknown
  else if code = 1 then .ok .serial
  else if code = 2 then .ok .parallel
  else if code = 3 then .ok .cms
  else if code = 4 then .ok .g1
  else .error (.invalidType (.gcKind code))

end GcKind

structure JvmGc where
  gcType : GcKind
  heapUsed : Int64
  heapMax : Int64
  nonHeapUsed : Int64
  nonHeapMax : Int64
  gcOldCount : Int64
  gcOldTime : Int64
deriving DecidableEq, Repr

/-- Load ratios, each given by the bits of its floating-point number. -/
structure CpuLoad where
  jvmCpuLoad : UInt64
  systemCpuLoad : UInt64
deriving DecidableEq, Repr

structure TotalThreadCount where
  totalThreadCount : Int64
deriving DecidableEq, Repr

structure FileDescriptor where
  openFileDescriptorCount : Int64
deriving DecidableEq, Repr

structure LoadedClass where
  loadedClassCount : Int64
  unloadedClassCount : Int64
deriving DecidableEq, Repr

structure DataSource where
  id : Int32
  serviceTypeCode : Int16
  databaseName : Option String
  jdbcUrl : Option String
  activeConnectionSize : Int32
  maxConnectionSize : Int32
deriving DecidableEq, Repr

abbrev StatKind.Value : StatKind → Type
  | .jvmGc => JvmGc
  | .cpuLoad => CpuLoad
  | .totalThreadCount => TotalThreadCount
  | .fileDescriptor => FileDescriptor
  | .loadedClass => LoadedClass
  | .dataSource => DataSource

instance StatKind.decidableEqValue : (kind : StatKind) → DecidableEq kind.Value
  | .jvmGc => inferInstanceAs (DecidableEq JvmGc)
  | .cpuLoad => inferInstanceAs (DecidableEq CpuLoad)
  | .totalThreadCount => inferInstanceAs (DecidableEq TotalThreadCount)
  | .fileDescriptor => inferInstanceAs (DecidableEq FileDescriptor)
  | .loadedClass => inferInstanceAs (DecidableEq LoadedClass)
  | .dataSource => inferInstanceAs (DecidableEq DataSource)

/-! ### CPU loads in thousandths

Loads travel as integers, so a load comes back rounded to three decimal places. -/

/-- The load in thousandths, a half rounded away from zero; what no integer can hold is brought to
the nearest bound, and what is no number becomes zero. -/
def quantize (load : UInt64) : Int64 :=
  ((Float.ofBits load) * 1000).round.toInt64

def dequantize (thousandths : Int64) : UInt64 :=
  (thousandths.toFloat / 1000).toBits

end Telemetry.Stat
