import Praas.Library.ProgramOptions
import Praas.Runtime.WorkerMemory

namespace Praas
namespace Runtime

open Library

/-!
# The program of a session

`SessionFork::fork` prints what it knows of a session into the arguments of a
new program, whose `main` reads them again, constructs a `Session` and opens
the shared memory that the worker has created.

The option parser is the library that `process_exec` uses too, and the same is
relied on of it.
-/

/-! ## Starting the program -/

/-- The arguments of the program that `SessionFork::fork` starts, as the C
strings that they are.  The size is that of the mapping, in bytes. -/
def SessionFork.arguments (entry : SessionFork) (controllerAddress holePuncherAddress : Bytes) :
    List Bytes :=
  [ascii "/dev-praas/bin/runtime_session",
    ascii "--control-plane-addr", untilNul controllerAddress,
    ascii "--hole-puncher-addr", untilNul holePuncherAddress,
    ascii "--session-id", untilNul entry.sessionId,
    ascii "--shared-memory-size", toDecimal entry.memory.size,
    ascii "--max-functions", toDecimal entry.maxFunctions,
    ascii "-v"]

/-- `SharedMemory::open`: the mapping of an object that exists.  The name stays
with the process that created it. -/
def SharedMemory.openExisting (objects : SharedObjects) (sessionId : Bytes) (size shmOpen : Int)
    (mmap : Bool) : Option SharedMemory :=
  if shmOpen = -1 ∨ objects (pathOf sessionId) = none then none
  else if mmap = false ∨ size ≤ 0 then none
  else some ⟨size, shmOpen, pathOf sessionId, true, false⟩

namespace SessionProgram

structure Options where
  ipAddress : Bytes
  holePuncherAddress : Bytes
  sessionId : Bytes
  sharedMemorySize : Int
  maxFunctions : Int
  verbose : Bool

def opts (parser : OptionParser) (arguments : List Bytes) : Options where
  ipAddress := parser.asString arguments (ascii "control-plane-addr")
  holePuncherAddress := parser.asString arguments (ascii "hole-puncher-addr")
  sessionId := parser.asString arguments (ascii "session-id")
  sharedMemorySize := parser.asInt arguments (ascii "shared-memory-size")
  maxFunctions := parser.asInt arguments (ascii "max-functions")
  verbose := parser.asBool arguments (ascii "verbose")

def declared : ProgramOptions where
  strings := [ascii "control-plane-addr", ascii "hole-puncher-addr", ascii "session-id"]
  ints := [ascii "shared-memory-size", ascii "max-functions"]
  flags := [ascii "-v", ascii "--verbose"]

/-- The options and values of the program of an entry. -/
def values (entry : SessionFork) (controllerAddress holePuncherAddress : Bytes) :
    List (Bytes × Bytes) :=
  [(ascii "control-plane-addr", untilNul controllerAddress),
    (ascii "hole-puncher-addr", untilNul holePuncherAddress),
    (ascii "session-id", untilNul entry.sessionId),
    (ascii "shared-memory-size", toDecimal entry.memory.size),
    (ascii "max-functions", toDecimal entry.maxFunctions)]

theorem arguments_commandLine (entry : SessionFork) (controllerAddress holePuncherAddress : Bytes) :
    entry.arguments controllerAddress holePuncherAddress =
      commandLine (ascii "/dev-praas/bin/runtime_session")
        (values entry controllerAddress holePuncherAddress) [ascii "-v"] := rfl

/-- What an entry holds can be printed: its identifier has no terminator, and
its numbers have 32 bits. -/
structure Printable (entry : SessionFork) : Prop where
  free : NulFree entry.sessionId
  size : IsSigned 4 entry.memory.size
  functions : IsSigned 4 entry.maxFunctions

theorem values_wellFormed {entry : SessionFork} (printable : Printable entry)
    (controllerAddress holePuncherAddress : Bytes) :
    declared.WellFormed (values entry controllerAddress holePuncherAddress) [ascii "-v"] where
  once := by
    change (declared.strings ++ declared.ints).Nodup
    decide
  typed := by
    simp only [values, List.forall_mem_cons, List.not_mem_nil, false_implies, implies_true,
      and_true]
    exact ⟨Or.inl (by decide), Or.inl (by decide), Or.inl (by decide),
      Or.inr ⟨by decide, _, printable.size, rfl⟩, Or.inr ⟨by decide, _, printable.functions, rfl⟩⟩
  flagged := by decide

/-- The program reads its session, the size of the memory and the number of
functions as the worker has them. -/
theorem opts_arguments {parser : OptionParser} (takesNext : declared.TakesNext parser)
    {entry : SessionFork} (printable : Printable entry)
    (controllerAddress holePuncherAddress : Bytes) :
    let options := opts parser (entry.arguments controllerAddress holePuncherAddress)
    options.sessionId = entry.sessionId ∧ options.sharedMemorySize = entry.memory.size ∧
      options.maxFunctions = entry.maxFunctions ∧
      options.ipAddress = untilNul controllerAddress ∧
      options.holePuncherAddress = untilNul holePuncherAddress := by
  have wellFormed := values_wellFormed printable controllerAddress holePuncherAddress
  have text := takesNext.string (ascii "/dev-praas/bin/runtime_session") _ _ wellFormed
  have number := takesNext.int (ascii "/dev-praas/bin/runtime_session") _ _ wellFormed
  dsimp only [opts]
  rw [arguments_commandLine]
  refine ⟨?_, ?_, ?_, ?_, ?_⟩
  · exact (text (ascii "session-id") _ (by simp [values]) (by decide)).trans
      (untilNul_of_nulFree printable.free)
  · exact number (ascii "shared-memory-size") _ (by simp [values]) (by decide) printable.size
  · exact number (ascii "max-functions") _ (by simp [values]) (by decide) printable.functions
  · exact text (ascii "control-plane-addr") _ (by simp [values]) (by decide)
  · exact text (ascii "hole-puncher-addr") _ (by simp [values]) (by decide)

end SessionProgram
end Runtime
end Praas
