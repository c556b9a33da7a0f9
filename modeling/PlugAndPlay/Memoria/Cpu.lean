import PlugAndPlay.Memoria.Estado

/-!
# The requests of the CPUs and the registration of sticks

`memory_cpu.c`: the context a CPU asks for and sends back, and `registrar_memory_stick`, whose
critical sections are separate definitions because other threads may run between them.
-/

namespace PlugAndPlay.Memoria

/-- `manejar_obtener_contexto_cpu`: a copy of registers and segments; for an unknown pid nothing is
sent. -/
def manejarObtenerContextoCpu (m : KernelMemory) (pid : ℤ) : Option Contexto :=
  (procesosBuscar m.procesos pid).map fun p ↦ ⟨pid, p.registros, p.segmentos⟩

/-- `manejar_actualizar_contexto_cpu`. -/
def manejarActualizarContextoCpu (m : KernelMemory) (ctx : Contexto) : KernelMemory :=
  { m with
    procesos := procesosModificar ctx.pid (fun p ↦ actualizarProcesoDesdeContexto p ctx) m.procesos }

/-- What a stick sends when it registers, and the buffer it brings. -/
structure StickNuevo where
  socket : ℤ
  tamanio : UInt32
  ip : String
  puerto : String
  memoria : ℕ → UInt8

/-- The insertion under `active.lock`: the index and base of the new stick. -/
def registrarInsertar (m : KernelMemory) (stick : StickNuevo) :
    Option (ℕ × UInt32 × KernelMemory) :=
  match conexionesAgregarStick m.ram.tabla stick.socket stick.tamanio stick.ip stick.puerto
      stick.memoria with
  | none => none
  | some (idx, baseFisica, tabla) => some (idx, baseFisica, { m with ram := { m.ram with tabla := tabla } })

/-- The free block under `mutex_memoria`. -/
def registrarBloque (m : KernelMemory) (baseFisica tamanio : UInt32) : KernelMemory :=
  { m with bloquesLibres := bloquesAgregar m.bloquesLibres baseFisica tamanio }

/-- The outbound connection; `-1` when it could not be opened. -/
def registrarOutbound (m : KernelMemory) (idx : ℕ) (outSock : ℤ) : KernelMemory :=
  if outSock = -1 then m
  else
    let tabla := conexionesStickSetOutboundSocket m.ram.tabla idx outSock
    { m with ram := { m.ram with tabla := tabla } }

/-- `registrar_memory_stick` with nothing else running. -/
def registrarMemoryStick (m : KernelMemory) (stick : StickNuevo) (outSock : ℤ) : KernelMemory :=
  match registrarInsertar m stick with
  | none => m
  | some (idx, baseFisica, m) =>
    registrarOutbound (registrarBloque m baseFisica stick.tamanio) idx outSock

end PlugAndPlay.Memoria
