import PlugAndPlay.Memoria.Cpu
import PlugAndPlay.Memoria.Scheduler

/-!
# Operations handled one after the other

The requests Kernel Memory handles, as events, and the runs in which they come one after the other.
A run carries the pids the scheduler has suspended and not yet resumed: it suspends a process that
is not suspended, resumes one that is, and takes no memory away from a suspended one. Since a
suspension that ran out of blocks is answered like any other, the scheduler does not know which of
them went through.
-/

namespace PlugAndPlay.Memoria

inductive Operacion
  | registrarMemoryStick (stick : StickNuevo) (outSock : ℤ)
  | registrarSwap (nuevo : SwapNuevo)
  | crearProceso (pid : ℤ) (instrucciones : List String)
  | solicitarSegmento (pid : ℤ) (id tamanio : UInt32)
  | eliminarSegmento (pid : ℤ) (id : UInt32)
  | finalizarProceso (pid : ℤ)
  | suspenderProceso (pid : ℤ)
  | desSuspenderProceso (pid : ℤ)
  | obtenerEspacioLibre
  | lecturaMemoria (pid : ℤ) (dir tamanio : UInt32)
  | escrituraMemoria (pid : ℤ) (dir tamanio : UInt32) (datos : List UInt8)

/-- The handler of an operation. -/
def atender (qsort : Qsort) (m : KernelMemory) : Operacion → List Mensaje × KernelMemory
  | .registrarMemoryStick stick outSock => ([], registrarMemoryStick m stick outSock)
  | .registrarSwap nuevo => ([], { m with swap := registrarSwap nuevo })
  | .crearProceso pid instrucciones => manejarCrearProceso m pid instrucciones
  | .solicitarSegmento pid id tamanio => manejarSolicitarSegmento qsort m pid id tamanio
  | .eliminarSegmento pid id => manejarEliminarSegmento m pid id
  | .finalizarProceso pid => manejarFinalizarProceso m pid
  | .suspenderProceso pid => manejarSuspenderProceso m pid
  | .desSuspenderProceso pid => manejarDesSuspenderProceso m pid
  | .obtenerEspacioLibre => manejarObtenerEspacioLibre m
  | .lecturaMemoria pid dir tamanio => manejarLecturaMemoria m pid dir tamanio
  | .escrituraMemoria pid dir tamanio datos => manejarEscrituraMemoria m pid dir tamanio datos

/-- A state of a run: Kernel Memory, and the pids of the suspended processes. -/
structure Corrida where
  memoria : KernelMemory
  suspendidos : List ℤ

/-- The requests of a run. The sticks stay below `2 ^ 32` bytes; one swap process connects; no
segment of a suspended process is deleted; suspension and resumption of a process alternate, except
that a refused resumption may come again; and no transfer of a suspension or a resumption fails. -/
def Corrida.Pide (c : Corrida) : Operacion → Prop
  | .registrarMemoryStick stick _ => sumaSticks c.memoria.ram.tabla + stick.tamanio.toNat < 2 ^ 32
  | .registrarSwap _ => c.memoria.swap.socket < 0
  | .eliminarSegmento pid _ => pid ∉ c.suspendidos
  | .suspenderProceso pid => (suspenderProceso c.memoria pid).1 = .sinProceso ∨
      pid ∉ c.suspendidos ∧ (suspenderProceso c.memoria pid).1 ≠ .fallo
  | .desSuspenderProceso pid => (desSuspenderProceso c.memoria pid).1 = .sinProceso ∨
      pid ∈ c.suspendidos ∧ (desSuspenderProceso c.memoria pid).1 ≠ .fallo
  | _ => True

instance (c : Corrida) : (op : Operacion) → Decidable (c.Pide op)
  | .registrarMemoryStick _ _ | .registrarSwap _ => inferInstanceAs (Decidable (_ < _))
  | .eliminarSegmento _ _ => inferInstanceAs (Decidable (_ ∉ _))
  | .suspenderProceso _ | .desSuspenderProceso _ => inferInstanceAs (Decidable (_ ∨ _ ∧ _))
  | .crearProceso _ _ | .solicitarSegmento _ _ _ | .finalizarProceso _ | .obtenerEspacioLibre
  | .lecturaMemoria _ _ _ | .escrituraMemoria _ _ _ _ => inferInstanceAs (Decidable True)

/-- The suspended processes after an operation. -/
def Corrida.suspendidosTras (c : Corrida) : Operacion → List ℤ
  | .suspenderProceso pid =>
    if (suspenderProceso c.memoria pid).1 = .sinProceso then c.suspendidos
    else pid :: c.suspendidos
  | .desSuspenderProceso pid =>
    if (desSuspenderProceso c.memoria pid).1 = .completa then c.suspendidos.filter (· ≠ pid)
    else c.suspendidos
  | .finalizarProceso pid => c.suspendidos.filter (· ≠ pid)
  | _ => c.suspendidos

def Corrida.paso (qsort : Qsort) (c : Corrida) (op : Operacion) : Option Corrida :=
  if c.Pide op then some ⟨(atender qsort c.memoria op).2, c.suspendidosTras op⟩ else none

theorem Corrida.paso_eq_some {qsort : Qsort} {c c' : Corrida} {op : Operacion}
    (h : c.paso qsort op = some c') :
    c.Pide op ∧ c' = ⟨(atender qsort c.memoria op).2, c.suspendidosTras op⟩ := by
  unfold Corrida.paso at h
  split at h
  · exact ⟨‹_›, (Option.some.inj h).symm⟩
  · cases h

/-- Kernel Memory after `*_init`, with any configuration. -/
def Corrida.Inicial (c : Corrida) : Prop :=
  c.memoria.procesos = [] ∧ c.memoria.bloquesLibres = [] ∧ c.memoria.ram.tabla = [] ∧
    c.memoria.swap = Swap.desconectado ∧ c.suspendidos = []

end PlugAndPlay.Memoria
