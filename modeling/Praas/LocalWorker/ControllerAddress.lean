import Praas.ControlPlane.Operations
import Praas.Library.Connection
import Praas.Library.CString
import Praas.Library.ProgramOptions
import Praas.Wire.Messages

namespace Praas

open Library

/-!
# How a process learns the address of the control plane

The control plane fills a process request with its own address, the number of
sessions and the id of the process.  A worker server reads the request; the
local worker hands its fields to `Process::create`, and the serving server
prints them into the arguments of a new program, whose `main` reads them again.

The option parser of that program is a library.  It is a parameter here, of
which it is known that an option takes the argument after it.
-/

/-! ## The fields of a request -/

namespace Wire

namespace ProcessRequest

def maxSessions (request : Request) : Int := decodeInt (request.load 2 2)

def port (request : Request) : Int := decodeInt (request.load 4 4)

/-- The address with the zeros of its field. -/
def ipAddress (request : Request) : Bytes := request.load 8 15

def processId (request : Request) : Bytes := request.load 23 16

section Fill

variable (request : Request) (sessions requestPort : Int) (address id : Bytes)

theorem load_sessions_fill :
    (fill request sessions requestPort address id).load 2 2 =
      encodeInt 2 sessions := by
  unfold fill
  rw [Frame.load_store_disjoint _ 2 2 23 _ _ (by omega),
    Frame.load_store_disjoint _ 2 2 8 _ _ (by omega),
    Frame.load_store_disjoint _ 2 2 4 _ _ (by omega),
    Frame.load_store_same _ 2 2 _ _ (encodeInt_length _ _)]

theorem load_port_fill :
    (fill request sessions requestPort address id).load 4 4 =
      encodeInt 4 requestPort := by
  unfold fill
  rw [Frame.load_store_disjoint _ 4 4 23 _ _ (by omega),
    Frame.load_store_disjoint _ 4 4 8 _ _ (by omega),
    Frame.load_store_same _ 4 4 _ _ (encodeInt_length _ _)]

theorem load_address_fill :
    (fill request sessions requestPort address id).load 8 15 =
      paddedField 15 address := by
  unfold fill
  rw [Frame.load_store_disjoint _ 8 15 23 _ _ (by omega),
    Frame.load_store_same _ 8 15 _ _ (paddedField_length _ _)]

theorem load_id_fill :
    (fill request sessions requestPort address id).load 23 16 =
      paddedField 16 id := by
  unfold fill
  rw [Frame.load_store_same _ 23 16 _ _ (paddedField_length _ _)]

end Fill

end ProcessRequest

end Wire

namespace LocalWorker

open Wire
open ControlPlane (split)

/-! ## Reading a request -/

/-- The read of the worker servers.  The bytes go into the request object,
whatever it holds, and a read of another size is refused. -/
def readRequest (previous : Request) (connection : List Arrival) : Option Request :=
  let got := read expectedLength connection
  if got.count = expectedLength then
    some (previous.store 0 got.bytes (read_fits expectedLength connection))
  else none

/-! ## The program of a process -/

structure CreateArguments where
  processId : Bytes
  ipAddress : Bytes
  port : Int
  holePuncherAddress : Bytes
  maxSessions : Int
  verbose : Bool
  enableSwapping : Bool

/-- The call of `local_worker::Server::start`. -/
def localArguments (request : Request) (holePuncherAddress : Bytes)
    (verbose enableSwapping : Bool) : CreateArguments :=
  ⟨ProcessRequest.processId request, ProcessRequest.ipAddress request, ProcessRequest.port request,
    holePuncherAddress, ProcessRequest.maxSessions request, verbose, enableSwapping⟩

/-- The buffer `addr` of `SubprocessFork::fork`. -/
def forkAddress (request : Request) : Option (Frame 40) := do
  let addr ← strcat (Frame.zeros 40) (ProcessRequest.ipAddress request)
  let addr ← strcat addr (ascii ":")
  strcat addr (toDecimal (ProcessRequest.port request))

/-- The arguments that precede the command of the process under docker. -/
def dockerArguments : List Bytes :=
  [ascii "/usr/bin/docker", ascii "run", ascii "praas/runtime"]

/-- `SubprocessFork::fork`: the arguments given to `execv`, as the C strings
that they are.  There are none when `addr` is overrun. -/
def fork (request : Request) (holePuncherAddress : Bytes) (enableSwapping useDocker : Bool) :
    Option (List Bytes) := do
  let addr ← forkAddress request
  let command := [ascii "/dev-praas/bin/process_exec",
    ascii "--process-id", untilNul (ProcessRequest.processId request),
    ascii "--control-plane-address", untilNul addr.data,
    ascii "--hole-puncher-address", untilNul holePuncherAddress,
    ascii "--max-sessions", toDecimal (ProcessRequest.maxSessions request),
    ascii "--enable-swapping", toDecimal (if enableSwapping then 1 else 0),
    ascii "-v"]
  some (if useDocker then dockerArguments ++ command else command)

structure Options where
  controlPlaneAddress : Bytes
  holePuncherAddress : Bytes
  processId : Bytes
  maxSessions : Int
  enableSwapping : Bool
  verbose : Bool

def opts (parser : OptionParser) (arguments : List Bytes) : Options where
  controlPlaneAddress := parser.asString arguments (ascii "control-plane-address")
  holePuncherAddress := parser.asString arguments (ascii "hole-puncher-address")
  processId := parser.asString arguments (ascii "process-id")
  maxSessions := parser.asInt arguments (ascii "max-sessions")
  enableSwapping := parser.asBool arguments (ascii "enable-swapping")
  verbose := parser.asBool arguments (ascii "verbose")

/-- The options of `process_exec` that are given a value, by the type of the
value, and the arguments of the flags. -/
def declared : ProgramOptions where
  strings :=
    [ascii "process-id", ascii "control-plane-address", ascii "hole-puncher-address"]
  ints := [ascii "max-sessions"]
  flags := [ascii "--enable-swapping", ascii "0", ascii "1", ascii "-v"]

def colon : UInt8 := 58

/-- `main` of `process_exec` up to `Process::create`.  The port is a variable
without an initial value, and the number of sessions is converted to 16 bits. -/
def processMain (parser : OptionParser) (arguments : List Bytes) (uninitialized : Int) :
    CreateArguments :=
  let options := opts parser arguments
  let parts := split options.controlPlaneAddress colon
  ⟨options.processId, parts.1, fromChars parts.2 uninitialized, options.holePuncherAddress,
    Int.bmod options.maxSessions (2 ^ 16), options.verbose, options.enableSwapping⟩

/-! ## The values along the way -/

section Pipeline

variable (earlier : Request) (sessions port : Int) (address processId : Bytes)

theorem maxSessions_fill (signed : IsSigned 2 sessions) :
    ProcessRequest.maxSessions (ProcessRequest.fill earlier sessions port address processId) =
      sessions := by
  rw [ProcessRequest.maxSessions, ProcessRequest.load_sessions_fill,
    decodeInt_encodeInt_of_signed signed]

theorem port_fill (signed : IsSigned 4 port) :
    ProcessRequest.port (ProcessRequest.fill earlier sessions port address processId) = port := by
  rw [ProcessRequest.port, ProcessRequest.load_port_fill, decodeInt_encodeInt_of_signed signed]

theorem ipAddress_fill (free : NulFree address) (short : address.length ≤ 15) :
    untilNul (ProcessRequest.ipAddress
      (ProcessRequest.fill earlier sessions port address processId)) = address := by
  rw [ProcessRequest.ipAddress, ProcessRequest.load_address_fill, untilNul_paddedField free short]

theorem processId_fill (free : NulFree processId) (full : processId.length = 16) :
    ProcessRequest.processId (ProcessRequest.fill earlier sessions port address processId) =
      processId := by
  rw [ProcessRequest.processId, ProcessRequest.load_id_fill, paddedField_full free full]

/-- The address, the colon and the port fit into the buffer of `fork`. -/
theorem forkAddress_fill (free : NulFree address) (short : address.length ≤ 15)
    (signed : IsSigned 4 port) :
    Exists fun addr =>
      forkAddress (ProcessRequest.fill earlier sessions port address processId) = some addr ∧
      untilNul addr.data = address ++ colon :: toDecimal port := by
  have decoded := ipAddress_fill earlier sessions port address processId free short
  have printed : untilNul (toDecimal port) = toDecimal port :=
    untilNul_of_nulFree (nulFree_toDecimal port)
  have digits := toDecimal_length_le signed
  rcases strcat_of_fits (Frame.zeros 40) (ProcessRequest.ipAddress
      (ProcessRequest.fill earlier sessions port address processId)) (by
    rw [untilNul_zeros, decoded, List.length_nil]
    omega) with ⟨first, firstResult, firstText⟩
  rw [untilNul_zeros, decoded, List.nil_append] at firstText
  rcases strcat_of_fits first (ascii ":") (by
    rw [firstText]
    change address.length + 1 < 40
    omega) with ⟨second, secondResult, secondText⟩
  rw [firstText] at secondText
  rcases strcat_of_fits second (toDecimal port) (by
    rw [secondText, printed, List.length_append]
    change address.length + 1 + _ < 40
    omega) with ⟨third, thirdResult, thirdText⟩
  refine ⟨third, ?_, ?_⟩
  · rw [forkAddress, firstResult, Option.bind_eq_bind, Option.bind_some, secondResult,
      Option.bind_some, port_fill earlier sessions port address processId signed, thirdResult]
  · rw [thirdText, secondText, printed, List.append_assoc]
    rfl

theorem fork_fill (free : NulFree address) (short : address.length ≤ 15)
    (signedPort : IsSigned 4 port) (signedSessions : IsSigned 2 sessions)
    (idFree : NulFree processId) (idFull : processId.length = 16) (holePuncherAddress : Bytes)
    (enableSwapping useDocker : Bool) :
    fork (ProcessRequest.fill earlier sessions port address processId) holePuncherAddress
        enableSwapping useDocker =
      some ((if useDocker then dockerArguments else []) ++
        commandLine (ascii "/dev-praas/bin/process_exec")
          [(ascii "process-id", processId),
            (ascii "control-plane-address", address ++ colon :: toDecimal port),
            (ascii "hole-puncher-address", untilNul holePuncherAddress),
            (ascii "max-sessions", toDecimal sessions)]
          [ascii "--enable-swapping", toDecimal (if enableSwapping then 1 else 0), ascii "-v"]) := by
  rcases forkAddress_fill earlier sessions port address processId free short signedPort with
    ⟨addr, result, text⟩
  rw [fork, result, Option.bind_eq_bind, Option.bind_some, text,
    processId_fill earlier sessions port address processId idFree idFull,
    untilNul_of_nulFree idFree,
    maxSessions_fill earlier sessions port address processId signedSessions]
  cases useDocker <;> rfl

end Pipeline

theorem processMain_commandLine {parser : OptionParser} (takesNext : declared.TakesNext parser)
    {sessions port : Int} {address : Bytes} (noColon : colon ∉ address)
    (signedPort : IsSigned 4 port) (signedSessions : IsSigned 2 sessions)
    (processId holePuncherAddress : Bytes) (enableSwapping : Bool) (uninitialized : Int) :
    let created := processMain parser
      (commandLine (ascii "/dev-praas/bin/process_exec")
        [(ascii "process-id", processId),
          (ascii "control-plane-address", address ++ colon :: toDecimal port),
          (ascii "hole-puncher-address", holePuncherAddress),
          (ascii "max-sessions", toDecimal sessions)]
        [ascii "--enable-swapping", toDecimal (if enableSwapping then 1 else 0), ascii "-v"])
      uninitialized
    created.ipAddress = address ∧ created.port = port ∧ created.maxSessions = sessions ∧
      created.processId = processId := by
  have wide : IsSigned 4 sessions := by
    unfold IsSigned at *
    omega
  have wellFormed : declared.WellFormed
      [(ascii "process-id", processId),
        (ascii "control-plane-address", address ++ colon :: toDecimal port),
        (ascii "hole-puncher-address", holePuncherAddress),
        (ascii "max-sessions", toDecimal sessions)]
      [ascii "--enable-swapping", toDecimal (if enableSwapping then 1 else 0), ascii "-v"] := by
    refine ⟨?_, ?_, ?_⟩
    · change (declared.strings ++ declared.ints).Nodup
      decide
    · simp only [List.forall_mem_cons, List.not_mem_nil, false_implies, implies_true, and_true]
      exact ⟨Or.inl (by decide), Or.inl (by decide), Or.inl (by decide),
        Or.inr ⟨by decide, sessions, wide, rfl⟩⟩
    · cases enableSwapping <;> decide
  have id := takesNext.string (ascii "/dev-praas/bin/process_exec") _ _ wellFormed
    (ascii "process-id") processId (by simp) (by decide)
  have controller := takesNext.string (ascii "/dev-praas/bin/process_exec") _ _ wellFormed
    (ascii "control-plane-address") (address ++ colon :: toDecimal port) (by simp) (by decide)
  have number := takesNext.int (ascii "/dev-praas/bin/process_exec") _ _ wellFormed
    (ascii "max-sessions") sessions (by simp) (by decide) wide
  dsimp only [processMain, opts]
  rw [id, controller, number, ControlPlane.split_append noColon,
    fromChars_toDecimal signedPort]
  refine ⟨rfl, rfl, ?_, rfl⟩
  unfold IsSigned at signedSessions
  rw [Int.bmod_eq_iff (by decide)]
  omega

/-- The controller's address, its port, the number of sessions and the process
id reach `Process::create` unchanged, both from the program that the serving
server starts and, with the address read as a C string, from the local worker.
The buffer in which `fork` prints the address is not overrun. -/
theorem controller_address_survives (parser : OptionParser) (takesNext : declared.TakesNext parser)
    (earlier previous : Request) (sessions port : Int) (address processId : Bytes)
    (signedSessions : IsSigned 2 sessions) (signedPort : IsSigned 4 port)
    (free : NulFree address) (short : address.length ≤ 15) (noColon : colon ∉ address)
    (idFree : NulFree processId) (idFull : processId.length = 16) (segments : List Bytes)
    (sent : segments.flatten = (ProcessRequest.fill earlier sessions port address processId).data)
    (whole : (read expectedLength (delivered segments)).count = expectedLength)
    (holePuncherAddress : Bytes) (verbose enableSwapping useDocker : Bool) (uninitialized : Int) :
    Exists fun request => readRequest previous (delivered segments) = some request ∧
      (Exists fun arguments =>
        fork request holePuncherAddress enableSwapping useDocker =
          some ((if useDocker then dockerArguments else []) ++ arguments) ∧
        let created := processMain parser arguments uninitialized
        created.ipAddress = address ∧ created.port = port ∧ created.maxSessions = sessions ∧
          created.processId = processId) ∧
      let created := localArguments request holePuncherAddress verbose enableSwapping
      untilNul created.ipAddress = address ∧ created.port = port ∧
        created.maxSessions = sessions ∧ created.processId = processId := by
  rw [← List.append_nil (ProcessRequest.fill _ _ _ _ _).data] at sent
  rcases read_whole sent whole with ⟨rest, result, _⟩
  refine ⟨ProcessRequest.fill earlier sessions port address processId, ?_, ⟨_, fork_fill earlier
    sessions port address processId free short signedPort signedSessions idFree idFull _ _ _,
    processMain_commandLine takesNext noColon signedPort signedSessions _ _ _ _⟩, ?_⟩
  · unfold readRequest
    simp only [result, Frame.store_whole, if_true]
  · exact ⟨ipAddress_fill earlier sessions port address processId free short,
      port_fill earlier sessions port address processId signedPort,
      maxSessions_fill earlier sessions port address processId signedSessions,
      processId_fill earlier sessions port address processId idFree idFull⟩

/-- The longest address and the smallest port, into a buffer full of ones. -/
theorem longest_address_survives :
    Exists fun request =>
      readRequest ⟨List.replicate 39 255, List.length_replicate⟩
        (delivered [(ProcessRequest.fill Request.new (-1) (-2147483648) (ascii "255.255.255.255")
          (ascii "abcdefghijklmnop")).data]) = some request ∧
      (Exists fun arguments =>
        fork request (ascii "puncher") true true = some (dockerArguments ++ arguments) ∧
        let created := processMain scanningParser arguments 0
        created.ipAddress = ascii "255.255.255.255" ∧ created.port = -2147483648 ∧
          created.maxSessions = -1 ∧ created.processId = ascii "abcdefghijklmnop") ∧
      let created := localArguments request (ascii "puncher") true true
      untilNul created.ipAddress = ascii "255.255.255.255" ∧ created.port = -2147483648 ∧
        created.maxSessions = -1 ∧ created.processId = ascii "abcdefghijklmnop" :=
  controller_address_survives scanningParser (scanningParser_takesNext declared) Request.new
    ⟨List.replicate 39 255, List.length_replicate⟩ (-1) (-2147483648) (ascii "255.255.255.255")
    (ascii "abcdefghijklmnop") (by decide) (by decide) (by decide) (by decide) (by decide)
    (by decide) (by decide) _ List.flatten_singleton (by decide +kernel) (ascii "puncher") true true
    true 0

end LocalWorker
end Praas
