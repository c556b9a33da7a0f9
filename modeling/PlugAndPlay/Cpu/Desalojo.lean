import PlugAndPlay.Cpu.Ciclo
import PlugAndPlay.Library.Pointwise
import PlugAndPlay.Library.Transitions
import PlugAndPlay.Memoria.Cpu
import PlugAndPlay.Red.IdaYVueltaMensajes

/-!
# Preemption

A process under `ejecutar_ciclo_instruccion`: on a CPU, evicted after any instruction, and dispatched again
to any CPU. Its context goes through Kernel Memory as bytes. The uninterrupted execution is the same loop on
one CPU.
-/

open PlugAndPlay.Library

namespace PlugAndPlay.Cpu

open Memoria
open Red

section Corridas

variable [Recepcion]

/-! ## The context over the sockets -/

/-- What the reader at the other end of a socket gets from a packet, after its operation code. -/
def porSocket {α : Type} (paquete : Paquete) (lector : Lector α) : Option α :=
  (enviarPaquete paquete).bind fun trama ↦
    let recibir : Lector (UInt32 × α) := do
      let codigo ← recibirCodigoOperacion
      let valor ← lector
      pure (codigo, valor)
    match recibir trama with
    | .ok ((_, valor), _) => some valor
    | .error _ => none

/-- `solicitar_contexto_a_memory`, with the answer of Kernel Memory. -/
def solicitarContextoAMemory (m : KernelMemory) (pid : Int32) : Option Contexto :=
  (manejarObtenerContextoCpu m pid.toInt).bind fun ctx ↦
    (porSocket (enviarContextoProceso ctx.registros ctx.tablaSegmentos) recibirContexto).map
      fun (registros, segmentos) ↦ ⟨pid.toInt, registros, segmentos⟩

/-- `actualizar_contexto_en_memory`, up to the acknowledgement. The pid goes as a `uint32_t`. -/
def actualizarContextoEnMemory (m : KernelMemory) (pid : Int32) (contexto : Contexto) :
    Option KernelMemory :=
  (porSocket (enviarActualizarContexto pid.toUInt32 contexto.registros contexto.tablaSegmentos)
    recibirContextoActualizar).map fun (pid, registros, segmentos) ↦
      manejarActualizarContextoCpu m ⟨pid.toInt32.toInt, registros, segmentos⟩

theorem porSocket_eq {α : Type} {paquete : Paquete} {lector : Lector α} {valor : α}
    (hllega : Llega paquete.stream.length) (hrecibe : Recibe lector paquete valor) :
    porSocket paquete lector = some valor := by
  have hlee : (do
      let codigo ← recibirCodigoOperacion
      let valor ← lector
      pure (codigo, valor) : Lector (UInt32 × α)) (serializarPaquete paquete) =
        .ok ((paquete.codigo.valor, valor), []) := hrecibe.conCodigo.whole
  unfold porSocket enviarPaquete
  rw [if_pos hllega.cabe]
  simp only [Option.bind_some, hlee]

/-- The receive buffers hold the context, both ways. -/
def ContextoCabe (segmentos : List Segmento) : Prop := Llega (40 + 16 * segmentos.length)

instance (segmentos : List Segmento) : Decidable (ContextoCabe segmentos) :=
  inferInstanceAs (Decidable (Llega _))

theorem ContextoCabe.obtener {segmentos : List Segmento} (h : ContextoCabe segmentos) (registros : Registros) :
    Llega (enviarContextoProceso registros segmentos).stream.length := by
  have hlargo : (enviarContextoProceso registros segmentos).stream.length = 36 + 16 * segmentos.length := by
    simp only [Paquete.stream, enviarContextoProceso, List.flatten_cons, List.length_append, length_segmentos,
      length_deRegistros, deInt, length_deUint32]
    omega
  have hle := h.2
  rw [hlargo]
  exact ⟨by omega, by omega⟩

theorem ContextoCabe.actualizar {segmentos : List Segmento} (h : ContextoCabe segmentos) (pid : UInt32)
    (registros : Registros) : Llega (enviarActualizarContexto pid registros segmentos).stream.length := by
  have hlargo : (enviarActualizarContexto pid registros segmentos).stream.length =
      40 + 16 * segmentos.length := by
    simp only [Paquete.stream, enviarActualizarContexto, List.flatten_cons, List.length_append,
      length_segmentos, length_deRegistros, deInt, length_deUint32]
    omega
  rw [hlargo]
  exact h

theorem solicitarContextoAMemory_eq {m : KernelMemory} {pid : Int32} {proc : Proceso}
    (hproc : procesosBuscar m.procesos pid.toInt = some proc) (hcabe : ContextoCabe proc.segmentos) :
    solicitarContextoAMemory m pid = some ⟨pid.toInt, proc.registros, proc.segmentos⟩ := by
  have hllega := hcabe.obtener proc.registros
  unfold solicitarContextoAMemory manejarObtenerContextoCpu
  rw [hproc, Option.map_some, Option.bind_some, porSocket_eq hllega (recibe_contexto hllega)]
  rfl

theorem actualizarContextoEnMemory_eq (m : KernelMemory) (pid : Int32) {contexto : Contexto}
    (hpid : contexto.pid = pid.toInt) (hcabe : ContextoCabe contexto.tablaSegmentos) :
    actualizarContextoEnMemory m pid contexto = some (manejarActualizarContextoCpu m contexto) := by
  have hcontexto : (⟨pid.toUInt32.toInt32.toInt, contexto.registros, contexto.tablaSegmentos⟩ :
      Contexto) = contexto := by
    rw [Int32.toInt32_toUInt32, ← hpid]
  have hllega := hcabe.actualizar pid.toUInt32 contexto.registros
  unfold actualizarContextoEnMemory
  rw [porSocket_eq hllega (recibe_contextoActualizar hllega), Option.map_some]
  exact congrArg some (congrArg (manejarActualizarContextoCpu m) hcontexto)

/-! ## Execution without interrupts -/

/-- The loop of `ejecutar_ciclo_instruccion` before an iteration, with the result of the last one. -/
structure Vuelta where
  contexto : Contexto
  tabla : List MemoryStick
  resultado : ResultadoExecute

section Bucle

variable (stringSplit : String → String → List String) (segmentMaxSize : UInt32)
  (sticks : List CpuStick)

/-- `fetch_instruccion` and `execute_instruccion`. -/
def instruccionDelCiclo (procesos : List Proceso) (contexto : Contexto) (tabla : List MemoryStick) :
    Option Efecto :=
  (fetchInstruccion stringSplit procesos contexto).bind
    (executeInstruccion segmentMaxSize sticks contexto tabla)

def Vuelta.siguiente (procesos : List Proceso) (v : Vuelta) : Option Vuelta :=
  if v.resultado = .continuar then
    (instruccionDelCiclo stringSplit segmentMaxSize sticks procesos v.contexto v.tabla).map fun efecto ↦
      ⟨{ v.contexto with registros := efecto.registros }, efecto.tabla, efecto.resultado⟩
  else none

def Vuelta.avanzar (procesos : List Proceso) : ℕ → Vuelta → Option Vuelta
  | 0, v => some v
  | n + 1, v =>
    (v.avanzar procesos n).bind (Vuelta.siguiente stringSplit segmentMaxSize sticks procesos)

/-- The process executes `n` instructions on one CPU, from what Kernel Memory holds. -/
def sinInterrupciones (m : KernelMemory) (pid : Int32) (n : ℕ) : Option Vuelta :=
  (solicitarContextoAMemory m pid).bind fun ctx ↦
    (⟨ctx, m.ram.tabla, .continuar⟩ : Vuelta).avanzar stringSplit segmentMaxSize sticks m.procesos n

end Bucle

/-! ## Execution with evictions -/

/-- Where the CPU of the process is: in the loop, before `actualizar_contexto_en_memory` and before
`DEVOLVER_PROCESO`. -/
inductive FaseCpu
  | ciclo
  | guardar
  | devolver
deriving Repr, DecidableEq

/-- The CPU that has the process. -/
structure EnCpu where
  sticks : List CpuStick
  contexto : Contexto
  interrupcionPendiente : Bool
  fase : FaseCpu

/-- Kernel Memory, the CPU that has the process if there is one, the result of the last instruction and the
number of instructions executed so far. -/
structure Desalojo where
  memoria : KernelMemory
  enCpu : Option EnCpu
  resultado : ResultadoExecute
  ejecutadas : ℕ

/-- A dispatch finds `interrupcion_pendiente` as it is; an interrupt sets it, whatever its motive. A CPU may
hear of more sticks at any time. `otros` is anything that happens outside the process. -/
inductive EventoDesalojo
  | despachar (sticks : List CpuStick) (pendiente : Bool)
  | interrumpir
  | nuevaMemoria (sticks : List CpuStick)
  | ejecutar
  | actualizarContexto
  | devolver
  | otros (memoria : KernelMemory)

end Corridas

namespace Desalojo

section Corridas

variable [Recepcion]

/-- An iteration of the loop: `manejar_resultado_execute` where the result is not `CONTINUAR`, else
`check_interrupt`. -/
def trasInstruccion (s : Desalojo) (c : EnCpu) (efecto : Efecto) : Desalojo :=
  { s with
    memoria := { s.memoria with ram := { s.memoria.ram with tabla := efecto.tabla } }
    resultado := efecto.resultado
    ejecutadas := s.ejecutadas + 1
    enCpu := some { c with
      contexto := { c.contexto with registros := efecto.registros }
      interrupcionPendiente := c.interrupcionPendiente && efecto.resultado ≠ .continuar
      fase := if efecto.resultado = .continuar ∧ c.interrupcionPendiente = false then .ciclo
        else .guardar } }

/-- The scheduler dispatches the process only after it came back, and not after another result than
`CONTINUAR`. -/
def paso (stringSplit : String → String → List String) (segmentMaxSize : UInt32) (pid : Int32)
    (s : Desalojo) : EventoDesalojo → Option Desalojo
  | .despachar sticks pendiente =>
    if s.enCpu.isNone ∧ s.resultado = .continuar then
      (solicitarContextoAMemory s.memoria pid).map fun ctx ↦
        { s with enCpu := some ⟨sticks, ctx, pendiente, .ciclo⟩ }
    else none
  | .interrumpir => s.enCpu.map fun c ↦ { s with enCpu := some { c with interrupcionPendiente := true } }
  | .nuevaMemoria sticks => s.enCpu.map fun c ↦ { s with enCpu := some { c with sticks := sticks } }
  | .ejecutar =>
    s.enCpu.bind fun c ↦
      if c.fase = .ciclo then
        (instruccionDelCiclo stringSplit segmentMaxSize c.sticks s.memoria.procesos c.contexto
          s.memoria.ram.tabla).map (s.trasInstruccion c)
      else none
  | .actualizarContexto =>
    s.enCpu.bind fun c ↦
      if c.fase = .guardar then
        (actualizarContextoEnMemory s.memoria pid c.contexto).map fun m ↦
          { s with memoria := m, enCpu := some { c with fase := .devolver } }
      else none
  | .devolver =>
    s.enCpu.bind fun c ↦ if c.fase = .devolver then some { s with enCpu := none } else none
  | .otros m => some { s with memoria := m }

/-- The process was dispatched for the first time. -/
def Despachado (m : KernelMemory) (pid : Int32) (s : Desalojo) : Prop :=
  s.memoria = m ∧ s.resultado = .continuar ∧ s.ejecutadas = 0 ∧
    ∃ sticks ctx pendiente, solicitarContextoAMemory m pid = some ctx ∧
      Conoce m.ram.tabla sticks m.ram.tabla ∧ s.enCpu = some ⟨sticks, ctx, pendiente, .ciclo⟩

/-- What others may do meanwhile: no compaction or suspension, no write to the segments of the process.
Sticks may register. -/
structure Ajeno (pid : Int32) (m m' : KernelMemory) : Prop where
  proceso : procesosBuscar m'.procesos pid.toInt = procesosBuscar m.procesos pid.toInt
  sticks : Extiende m'.ram.tabla m.ram.tabla
  plana : TablaPlana m'.ram.tabla
  bytes : ∀ proc, procesosBuscar m.procesos pid.toInt = some proc →
    ByteMemory.AgreeOn (EnSegmentos proc.segmentos) (plano m'.ram.tabla) (plano m.ram.tabla)

/-- What happens around the process: every CPU knows at least the sticks that were there when it started. -/
def Entorno (inicial : List MemoryStick) (pid : Int32) (s : Desalojo) : EventoDesalojo → Prop
  | .despachar sticks _ => Conoce inicial sticks s.memoria.ram.tabla
  | .nuevaMemoria sticks => Conoce inicial sticks s.memoria.ram.tabla
  | .otros m => Ajeno pid s.memoria m
  | _ => True

/-- The next instruction makes no access that wraps into its segment. -/
def SinDesborde (stringSplit : String → String → List String) (segmentMaxSize : UInt32)
    (s : Desalojo) : EventoDesalojo → Prop
  | .ejecutar => ∀ c ∈ s.enCpu, ∀ instr ∈ fetchInstruccion stringSplit s.memoria.procesos c.contexto,
    AccesosSinDesborde segmentMaxSize c.contexto instr
  | _ => True

/-- The context of the process: in the CPU, or in Kernel Memory. -/
def contexto (s : Desalojo) (pid : Int32) : Option Contexto :=
  match s.enCpu with
  | some c => some c.contexto
  | none => manejarObtenerContextoCpu s.memoria pid.toInt

/-- The uninterrupted execution of as many instructions leaves the same registers and the same bytes in the
segments, with the same result. -/
def Transparente (stringSplit : String → String → List String) (segmentMaxSize : UInt32)
    (sticks : List CpuStick) (m : KernelMemory) (pid : Int32) (s : Desalojo) : Prop :=
  ∃ v, sinInterrupciones stringSplit segmentMaxSize sticks m pid s.ejecutadas = some v ∧
    s.resultado = v.resultado ∧ s.contexto pid = some v.contexto ∧
    ByteMemory.AgreeOn (EnSegmentos v.contexto.tablaSegmentos) (plano v.tabla) (plano s.memoria.ram.tabla)

/-- The next step of the process is there: the instruction as in the uninterrupted execution, the save and
the dispatch to any CPU. -/
structure Avanza (stringSplit : String → String → List String) (segmentMaxSize : UInt32)
    (sticks : List CpuStick) (m : KernelMemory) (pid : Int32) (s : Desalojo) : Prop where
  ejecutar : ∀ c, s.enCpu = some c → c.fase = .ciclo → s.SinDesborde stringSplit segmentMaxSize .ejecutar →
    ((s.paso stringSplit segmentMaxSize pid .ejecutar).isSome ↔
      (sinInterrupciones stringSplit segmentMaxSize sticks m pid (s.ejecutadas + 1)).isSome)
  guardar : ∀ c, s.enCpu = some c → c.fase = .guardar →
    (s.paso stringSplit segmentMaxSize pid .actualizarContexto).isSome
  despachar : s.enCpu = none → s.resultado = .continuar → ∀ otros pendiente,
    (s.paso stringSplit segmentMaxSize pid (.despachar otros pendiente)).isSome

/-! ## The invariant -/

/-- The uninterrupted execution at the same instruction. -/
structure Corresponde (m : KernelMemory) (pid : Int32) (proc : Proceso) (v : Vuelta) (s : Desalojo) :
    Prop where
  resultado : s.resultado = v.resultado
  contexto : s.contexto pid = some v.contexto
  pid : v.contexto.pid = pid.toInt
  segmentos : v.contexto.tablaSegmentos = proc.segmentos
  mismaTabla : MismaTabla v.tabla m.ram.tabla
  bytes : ByteMemory.AgreeOn (EnSegmentos proc.segmentos) (plano v.tabla) (plano s.memoria.ram.tabla)

/-- The process `proc` of `m` runs as it does without interrupts. -/
structure Fiel (stringSplit : String → String → List String) (segmentMaxSize : UInt32)
    (sticks : List CpuStick) (m : KernelMemory) (pid : Int32) (proc : Proceso) (s : Desalojo) :
    Prop where
  plana : TablaPlana s.memoria.ram.tabla
  extiende : Extiende s.memoria.ram.tabla m.ram.tabla
  proceso : ∃ actual, procesosBuscar s.memoria.procesos pid.toInt = some actual ∧
    actual.instrucciones = proc.instrucciones ∧ actual.segmentos = proc.segmentos
  cabe : ContextoCabe proc.segmentos
  vuelta : ∃ v, sinInterrupciones stringSplit segmentMaxSize sticks m pid s.ejecutadas = some v ∧
    Corresponde m pid proc v s
  conoce : ∀ c, s.enCpu = some c → Conoce m.ram.tabla c.sticks s.memoria.ram.tabla
  enCiclo : ∀ c, s.enCpu = some c → c.fase = .ciclo → s.resultado = .continuar
  guardado : ∀ c, s.enCpu = some c → c.fase = .devolver →
    manejarObtenerContextoCpu s.memoria pid.toInt = some c.contexto

section Fiel

variable {stringSplit : String → String → List String} {segmentMaxSize : UInt32}
  {sticks : List CpuStick} {m : KernelMemory} {pid : Int32} {proc : Proceso} {s s' : Desalojo}

omit [Recepcion] in
/-- On a CPU both executions have the same context. -/
theorem Corresponde.enCpu {v : Vuelta} (h : Corresponde m pid proc v s) {c : EnCpu}
    (hc : s.enCpu = some c) : c.contexto = v.contexto := by
  have hmismo := h.contexto
  rw [Desalojo.contexto, hc] at hmismo
  exact Option.some.inj hmismo

theorem Fiel.transparente (h : Fiel stringSplit segmentMaxSize sticks m pid proc s) :
    s.Transparente stringSplit segmentMaxSize sticks m pid := by
  obtain ⟨v, hv, hcorresponde⟩ := h.vuelta
  refine ⟨v, hv, hcorresponde.resultado, hcorresponde.contexto, ?_⟩
  rw [hcorresponde.segmentos]
  exact hcorresponde.bytes

theorem Fiel.otros (h : Fiel stringSplit segmentMaxSize sticks m pid proc s) {otra : KernelMemory}
    (hajeno : Ajeno pid s.memoria otra) :
    Fiel stringSplit segmentMaxSize sticks m pid proc { s with memoria := otra } := by
  obtain ⟨actual, hactual, hinstrucciones, hsegmentos⟩ := h.proceso
  obtain ⟨v, hv, hcorresponde⟩ := h.vuelta
  have hmismo : manejarObtenerContextoCpu otra pid.toInt =
      manejarObtenerContextoCpu s.memoria pid.toInt := by
    unfold manejarObtenerContextoCpu
    rw [hajeno.proceso]
  have hbytes := hajeno.bytes actual hactual
  rw [hsegmentos] at hbytes
  have hcontexto : contexto { s with memoria := otra } pid = s.contexto pid := by
    unfold contexto
    cases s.enCpu with
    | none => exact hmismo
    | some c => rfl
  exact
    { plana := hajeno.plana
      extiende := hajeno.sticks.trans h.extiende
      proceso := ⟨actual, hajeno.proceso.trans hactual, hinstrucciones, hsegmentos⟩
      cabe := h.cabe
      vuelta := ⟨v, hv,
        { hcorresponde with
          contexto := hcontexto.trans hcorresponde.contexto
          bytes := hcorresponde.bytes.trans hbytes.symm }⟩
      conoce := fun c hc ↦ (h.conoce c hc).extiende hajeno.sticks
      enCiclo := h.enCiclo
      guardado := fun c hc hfase ↦ hmismo.trans (h.guardado c hc hfase) }

/-- A change of the CPU alone. -/
theorem Fiel.cambiarCpu (h : Fiel stringSplit segmentMaxSize sticks m pid proc s) {cpu : Option EnCpu}
    (hcontexto : contexto { s with enCpu := cpu } pid = s.contexto pid)
    (hconoce : ∀ c, cpu = some c → Conoce m.ram.tabla c.sticks s.memoria.ram.tabla)
    (henCiclo : ∀ c, cpu = some c → c.fase = .ciclo → s.resultado = .continuar)
    (hguardado : ∀ c, cpu = some c → c.fase = .devolver →
      manejarObtenerContextoCpu s.memoria pid.toInt = some c.contexto) :
    Fiel stringSplit segmentMaxSize sticks m pid proc { s with enCpu := cpu } := by
  obtain ⟨v, hv, hcorresponde⟩ := h.vuelta
  exact
    { h with
      vuelta := ⟨v, hv,
        { hcorresponde with contexto := hcontexto.trans hcorresponde.contexto }⟩
      conoce := hconoce
      enCiclo := henCiclo
      guardado := hguardado }

/-- What Kernel Memory sends is the context of the process. -/
theorem Fiel.solicitar (h : Fiel stringSplit segmentMaxSize sticks m pid proc s)
    (hnadie : s.enCpu = none) :
    solicitarContextoAMemory s.memoria pid = s.contexto pid := by
  obtain ⟨actual, hactual, -, hsegmentos⟩ := h.proceso
  have hcabe : ContextoCabe actual.segmentos := by
    rw [hsegmentos]
    exact h.cabe
  rw [solicitarContextoAMemory_eq hactual hcabe, contexto, hnadie]
  simp only [manejarObtenerContextoCpu, hactual, Option.map_some]

theorem Fiel.despachar (h : Fiel stringSplit segmentMaxSize sticks m pid proc s)
    {conocidos : List CpuStick} {pendiente : Bool}
    (hconoce : Conoce m.ram.tabla conocidos s.memoria.ram.tabla)
    (hpaso : s.paso stringSplit segmentMaxSize pid (.despachar conocidos pendiente) = some s') :
    Fiel stringSplit segmentMaxSize sticks m pid proc s' := by
  simp only [paso] at hpaso
  split at hpaso
  · rename_i hlibre
    obtain ⟨hnadie, hresultado⟩ := hlibre
    rw [Option.isNone_iff_eq_none] at hnadie
    obtain ⟨ctx, hctx, rfl⟩ := Option.map_eq_some_iff.mp hpaso
    have hcontexto := (h.solicitar hnadie).symm.trans hctx
    apply h.cambiarCpu
    · exact hcontexto.symm
    · intro c hc
      obtain rfl := Option.some.inj hc
      exact hconoce
    · exact fun _ _ _ ↦ hresultado
    · intro c hc hfase
      obtain rfl := Option.some.inj hc
      cases hfase
  · cases hpaso

theorem Fiel.interrumpir (h : Fiel stringSplit segmentMaxSize sticks m pid proc s)
    (hpaso : s.paso stringSplit segmentMaxSize pid .interrumpir = some s') :
    Fiel stringSplit segmentMaxSize sticks m pid proc s' := by
  obtain ⟨c, hc, rfl⟩ := Option.map_eq_some_iff.mp hpaso
  apply h.cambiarCpu
  · simp only [contexto, hc]
  · intro otra hotra
    obtain rfl := Option.some.inj hotra
    exact h.conoce c hc
  · intro otra hotra hfase
    obtain rfl := Option.some.inj hotra
    exact h.enCiclo c hc hfase
  · intro otra hotra hfase
    obtain rfl := Option.some.inj hotra
    exact h.guardado c hc hfase

theorem Fiel.nuevaMemoria (h : Fiel stringSplit segmentMaxSize sticks m pid proc s)
    {conocidos : List CpuStick} (hconoce : Conoce m.ram.tabla conocidos s.memoria.ram.tabla)
    (hpaso : s.paso stringSplit segmentMaxSize pid (.nuevaMemoria conocidos) = some s') :
    Fiel stringSplit segmentMaxSize sticks m pid proc s' := by
  obtain ⟨c, hc, rfl⟩ := Option.map_eq_some_iff.mp hpaso
  apply h.cambiarCpu
  · simp only [contexto, hc]
  · intro otra hotra
    obtain rfl := Option.some.inj hotra
    exact hconoce
  · intro otra hotra hfase
    obtain rfl := Option.some.inj hotra
    exact h.enCiclo c hc hfase
  · intro otra hotra hfase
    obtain rfl := Option.some.inj hotra
    exact h.guardado c hc hfase

theorem Fiel.devolver (h : Fiel stringSplit segmentMaxSize sticks m pid proc s)
    (hpaso : s.paso stringSplit segmentMaxSize pid .devolver = some s') :
    Fiel stringSplit segmentMaxSize sticks m pid proc s' := by
  obtain ⟨c, hc, hpaso⟩ := Option.bind_eq_some_iff.mp hpaso
  split at hpaso
  · rename_i hfase
    obtain rfl := Option.some.inj hpaso
    apply h.cambiarCpu
    · rw [contexto, contexto, hc]
      exact h.guardado c hc hfase
    · exact nofun
    · exact nofun
    · exact nofun
  · cases hpaso

theorem Fiel.actualizarContexto (h : Fiel stringSplit segmentMaxSize sticks m pid proc s)
    (hpaso : s.paso stringSplit segmentMaxSize pid .actualizarContexto = some s') :
    Fiel stringSplit segmentMaxSize sticks m pid proc s' := by
  obtain ⟨c, hc, hpaso⟩ := Option.bind_eq_some_iff.mp hpaso
  split at hpaso
  · obtain ⟨m', hm', rfl⟩ := Option.map_eq_some_iff.mp hpaso
    obtain ⟨v, hv, hcorresponde⟩ := h.vuelta
    have hcontexto : c.contexto = v.contexto := hcorresponde.enCpu hc
    have hpid : c.contexto.pid = pid.toInt := by rw [hcontexto, hcorresponde.pid]
    have hcabe : ContextoCabe c.contexto.tablaSegmentos := by
      rw [hcontexto, hcorresponde.segmentos]
      exact h.cabe
    rw [actualizarContextoEnMemory_eq _ _ hpid hcabe] at hm'
    obtain rfl := Option.some.inj hm'
    obtain ⟨actual, hactual, hinstrucciones, -⟩ := h.proceso
    have hguardado : procesosBuscar (manejarActualizarContextoCpu s.memoria c.contexto).procesos
        pid.toInt = some (actualizarProcesoDesdeContexto actual c.contexto) := by
      rw [← hpid] at hactual ⊢
      exact procesosBuscar_mismo hactual fun _ ↦ rfl
    exact
      { plana := h.plana
        extiende := h.extiende
        proceso := ⟨_, hguardado, hinstrucciones, by
          rw [← hcorresponde.segmentos, ← hcontexto]
          rfl⟩
        cabe := h.cabe
        vuelta := ⟨v, hv,
          { hcorresponde with contexto := congrArg some hcontexto }⟩
        conoce := by
          intro otra hotra
          obtain rfl := Option.some.inj hotra
          exact h.conoce c hc
        enCiclo := by
          intro otra hotra hfase
          obtain rfl := Option.some.inj hotra
          cases hfase
        guardado := by
          intro otra hotra _
          obtain rfl := Option.some.inj hotra
          rw [manejarObtenerContextoCpu, hguardado, Option.map_some, ← hpid]
          rfl }
  · cases hpaso

/-! ### Instructions -/

theorem sinInterrupciones_succ (n : ℕ) :
    sinInterrupciones stringSplit segmentMaxSize sticks m pid (n + 1) =
      (sinInterrupciones stringSplit segmentMaxSize sticks m pid n).bind
        (Vuelta.siguiente stringSplit segmentMaxSize sticks m.procesos) := by
  unfold sinInterrupciones
  rw [Option.bind_assoc]
  rfl

/-- A process that starts in this memory. -/
structure Arranque (sticks : List CpuStick) (m : KernelMemory) (pid : Int32) (proc : Proceso) : Prop where
  proceso : procesosBuscar m.procesos pid.toInt = some proc
  plana : TablaPlana m.ram.tabla
  residentes : Residentes m.ram.tabla proc.segmentos
  cabe : ContextoCabe proc.segmentos
  sticks : MismosSticks sticks m.ram.tabla

/-- Both executions are at the same line of the script. -/
theorem Fiel.fetch (h : Fiel stringSplit segmentMaxSize sticks m pid proc s)
    (harranque : Arranque sticks m pid proc) {ctx : Contexto} (hpid : ctx.pid = pid.toInt) :
    fetchInstruccion stringSplit m.procesos ctx =
      fetchInstruccion stringSplit s.memoria.procesos ctx := by
  obtain ⟨actual, hactual, hinstrucciones, -⟩ := h.proceso
  simp only [fetchInstruccion, manejarObtenerInstruccion, hpid, hactual, harranque.proceso,
    hinstrucciones]

theorem Fiel.instruccion (h : Fiel stringSplit segmentMaxSize sticks m pid proc s)
    (harranque : Arranque sticks m pid proc) {c : EnCpu} (hc : s.enCpu = some c)
    (hsin : s.SinDesborde stringSplit segmentMaxSize .ejecutar) {v : Vuelta}
    (hcorresponde : Corresponde m pid proc v s) :
    Option.Rel (Efecto.Acompana proc.segmentos v.tabla s.memoria.ram.tabla)
      (instruccionDelCiclo stringSplit segmentMaxSize sticks m.procesos v.contexto v.tabla)
      (instruccionDelCiclo stringSplit segmentMaxSize c.sticks s.memoria.procesos c.contexto
        s.memoria.ram.tabla) := by
  have hcontexto : c.contexto = v.contexto := hcorresponde.enCpu hc
  have hsin := hsin c hc
  unfold instruccionDelCiclo
  rw [hcontexto] at hsin ⊢
  rw [h.fetch harranque hcorresponde.pid]
  cases hfetch : fetchInstruccion stringSplit s.memoria.procesos v.contexto with
  | none => exact Option.Rel.none
  | some instr =>
    rw [Option.bind_some, Option.bind_some, ← hcorresponde.segmentos]
    have hextiende := extiende_of_mismaTabla hcorresponde.mismaTabla
    apply executeInstruccion_acompana (harranque.sticks.conoce.extiende hextiende)
      (harranque.plana.of_mismaTabla hcorresponde.mismaTabla) (h.conoce c hc) h.plana
    · rw [hcorresponde.segmentos]
      exact harranque.residentes
    · rw [hcorresponde.segmentos]
      exact hcorresponde.bytes
    · exact hsin instr hfetch

theorem Fiel.ejecutar (h : Fiel stringSplit segmentMaxSize sticks m pid proc s)
    (harranque : Arranque sticks m pid proc) (hsin : s.SinDesborde stringSplit segmentMaxSize .ejecutar)
    (hpaso : s.paso stringSplit segmentMaxSize pid .ejecutar = some s') :
    Fiel stringSplit segmentMaxSize sticks m pid proc s' := by
  obtain ⟨c, hc, hpaso⟩ := Option.bind_eq_some_iff.mp hpaso
  split at hpaso
  · rename_i hfase
    obtain ⟨efecto, hefecto, rfl⟩ := Option.map_eq_some_iff.mp hpaso
    obtain ⟨v, hv, hcorresponde⟩ := h.vuelta
    have hinstruccion := h.instruccion harranque hc hsin hcorresponde
    rw [hefecto] at hinstruccion
    cases hotro : instruccionDelCiclo stringSplit segmentMaxSize sticks m.procesos v.contexto v.tabla with
    | none =>
      rw [hotro] at hinstruccion
      cases hinstruccion
    | some otro =>
      rw [hotro] at hinstruccion
      cases hinstruccion with
      | some hacompana =>
        have hcontinuar : v.resultado = .continuar := by
          rw [← hcorresponde.resultado]
          exact h.enCiclo c hc hfase
        have hsiguiente : v.siguiente stringSplit segmentMaxSize sticks m.procesos =
            some ⟨{ v.contexto with registros := otro.registros }, otro.tabla, otro.resultado⟩ := by
          rw [Vuelta.siguiente, if_pos hcontinuar, hotro, Option.map_some]
        have hcontexto : c.contexto = v.contexto := hcorresponde.enCpu hc
        have hextiende := extiende_of_mismaTabla hacompana.mismaOtra
        exact
          { plana := h.plana.of_mismaTabla hacompana.mismaOtra
            extiende := hextiende.trans h.extiende
            proceso := h.proceso
            cabe := h.cabe
            vuelta := by
              refine ⟨_, by rw [trasInstruccion, sinInterrupciones_succ, hv, Option.bind_some,
                hsiguiente], ?_⟩
              exact
                { resultado := hacompana.resultado.symm
                  contexto := by
                    rw [trasInstruccion, contexto, hcontexto, hacompana.registros]
                  pid := hcorresponde.pid
                  segmentos := hcorresponde.segmentos
                  mismaTabla := hacompana.mismaTabla.trans hcorresponde.mismaTabla
                  bytes := hacompana.bytes }
            conoce := by
              intro otra hotra
              obtain rfl := Option.some.inj hotra
              exact (h.conoce c hc).extiende hextiende
            enCiclo := by
              intro otra hotra hciclo
              obtain rfl := Option.some.inj hotra
              by_contra hno
              have hguardar : ¬ (efecto.resultado = .continuar ∧ c.interrupcionPendiente = false) :=
                fun hambos ↦ hno hambos.1
              simp only [if_neg hguardar] at hciclo
              cases hciclo
            guardado := by
              intro otra hotra hdevolver
              obtain rfl := Option.some.inj hotra
              simp only at hdevolver
              split at hdevolver <;> cases hdevolver }
  · cases hpaso

theorem Fiel.paso (h : Fiel stringSplit segmentMaxSize sticks m pid proc s)
    (harranque : Arranque sticks m pid proc) {e : EventoDesalojo} (hentorno : s.Entorno m.ram.tabla pid e)
    (hsin : s.SinDesborde stringSplit segmentMaxSize e)
    (hpaso : s.paso stringSplit segmentMaxSize pid e = some s') :
    Fiel stringSplit segmentMaxSize sticks m pid proc s' := by
  cases e with
  | despachar => exact h.despachar hentorno hpaso
  | interrumpir => exact h.interrumpir hpaso
  | nuevaMemoria => exact h.nuevaMemoria hentorno hpaso
  | ejecutar => exact h.ejecutar harranque hsin hpaso
  | actualizarContexto => exact h.actualizarContexto hpaso
  | devolver => exact h.devolver hpaso
  | otros otra =>
    obtain rfl := Option.some.inj hpaso
    exact h.otros hentorno

theorem Despachado.fiel (harranque : Arranque sticks m pid proc) (h : s.Despachado m pid) :
    Fiel stringSplit segmentMaxSize sticks m pid proc s := by
  obtain ⟨rfl, hresultado, hejecutadas, conocidos, ctx, pendiente, hctx, hconoce, hcpu⟩ := h
  have hcontexto : ⟨pid.toInt, proc.registros, proc.segmentos⟩ = ctx :=
    Option.some.inj ((solicitarContextoAMemory_eq harranque.proceso harranque.cabe).symm.trans hctx)
  refine ⟨harranque.plana, Extiende.refl _, ⟨proc, harranque.proceso, rfl, rfl⟩, harranque.cabe,
    ⟨⟨ctx, s.memoria.ram.tabla, .continuar⟩, ?_, ?_⟩, ?_, ?_, ?_⟩
  · rw [sinInterrupciones, hctx, Option.bind_some, hejecutadas]
    rfl
  · exact
      { resultado := hresultado
        contexto := by rw [contexto, hcpu]
        pid := by rw [← hcontexto]
        segmentos := by rw [← hcontexto]
        mismaTabla := MismaTabla.refl _
        bytes := ByteMemory.AgreeOn.refl _ _ }
  · intro c hc
    obtain rfl := Option.some.inj (hcpu.symm.trans hc)
    exact hconoce
  · exact fun _ _ _ ↦ hresultado
  · intro c hc hfase
    obtain rfl := Option.some.inj (hcpu.symm.trans hc)
    cases hfase

theorem Fiel.avanza (h : Fiel stringSplit segmentMaxSize sticks m pid proc s)
    (harranque : Arranque sticks m pid proc) :
    s.Avanza stringSplit segmentMaxSize sticks m pid := by
  obtain ⟨v, hv, hcorresponde⟩ := h.vuelta
  constructor
  · intro c hc hfase hsin
    have hcontinuar : v.resultado = .continuar := by
      rw [← hcorresponde.resultado]
      exact h.enCiclo c hc hfase
    have hinstruccion := h.instruccion harranque hc hsin hcorresponde
    rw [sinInterrupciones_succ, hv, Option.bind_some, Vuelta.siguiente, if_pos hcontinuar,
      Option.isSome_map]
    simp only [Desalojo.paso, hc, Option.bind_some, if_pos hfase, Option.isSome_map]
    exact (Pointwise.isSome_iff_of_rel hinstruccion).symm
  · intro c hc hfase
    have hcontexto : c.contexto = v.contexto := hcorresponde.enCpu hc
    have hpid : c.contexto.pid = pid.toInt := by rw [hcontexto, hcorresponde.pid]
    have hcabe : ContextoCabe c.contexto.tablaSegmentos := by
      rw [hcontexto, hcorresponde.segmentos]
      exact h.cabe
    simp only [Desalojo.paso, hc, Option.bind_some, if_pos hfase, Option.isSome_map,
      actualizarContextoEnMemory_eq _ _ hpid hcabe, Option.isSome_some]
  · intro hnadie hresultado conocidos pendiente
    have hsolicitar := h.solicitar hnadie
    rw [hcorresponde.contexto] at hsolicitar
    simp only [Desalojo.paso, hnadie, hresultado, Option.isNone_none, and_self, if_true, hsolicitar,
      Option.map_some, Option.isSome_some]

end Fiel

/-- In every run in which no access wraps into its segment, evictions cannot be seen: at any moment the
registers and the bytes of the segments are those of the uninterrupted execution of as many instructions,
and the process can go on as that execution can. -/
theorem desalojo_transparente (stringSplit : String → String → List String) (segmentMaxSize : UInt32)
    {sticks : List CpuStick} {m : KernelMemory} {pid : Int32} {proc : Proceso}
    (harranque : Arranque sticks m pid proc) {s : Desalojo}
    (h : Reachable (paso stringSplit segmentMaxSize pid) (Despachado m pid)
      (fun s e ↦ s.Entorno m.ram.tabla pid e ∧ s.SinDesborde stringSplit segmentMaxSize e) s) :
    s.Transparente stringSplit segmentMaxSize sticks m pid ∧
      s.Avanza stringSplit segmentMaxSize sticks m pid := by
  have hfiel : Fiel stringSplit segmentMaxSize sticks m pid proc s := by
    apply h.invariant (P := Fiel stringSplit segmentMaxSize sticks m pid proc)
    · exact fun s hs ↦ Despachado.fiel harranque hs
    · exact fun s e s' hs hpermitido hpaso ↦ hs.paso harranque hpermitido.1 hpermitido.2 hpaso
  exact ⟨hfiel.transparente, hfiel.avanza harranque⟩

end Corridas

/-! ## Concrete runs -/

section Pasos

variable [Recepcion] {stringSplit : String → String → List String} {segmentMaxSize : UInt32} {pid : Int32}
  {s : Desalojo} {c : EnCpu}

theorem paso_ejecutar {instr : Instruccion} {efecto : Efecto} (hc : s.enCpu = some c)
    (hfase : c.fase = .ciclo)
    (hfetch : fetchInstruccion stringSplit s.memoria.procesos c.contexto = some instr)
    (hefecto : executeInstruccion segmentMaxSize c.sticks c.contexto s.memoria.ram.tabla instr =
      some efecto) :
    s.paso stringSplit segmentMaxSize pid .ejecutar = some (s.trasInstruccion c efecto) := by
  simp only [paso, hc, Option.bind_some, if_pos hfase, instruccionDelCiclo, hfetch, hefecto,
    Option.map_some]

/-- The CPU saves the context and returns the process. -/
def devuelto (s : Desalojo) (c : EnCpu) : Desalojo :=
  { s with memoria := manejarActualizarContextoCpu s.memoria c.contexto, enCpu := none }

theorem alcanzable_desalojar {inicial : Desalojo → Prop} {permitido : Desalojo → EventoDesalojo → Prop}
    (h : Reachable (paso stringSplit segmentMaxSize pid) inicial permitido s) (hc : s.enCpu = some c)
    (hfase : c.fase = .guardar) (hpid : c.contexto.pid = pid.toInt)
    (hcabe : ContextoCabe c.contexto.tablaSegmentos)
    (hpermitido : ∀ s, permitido s .actualizarContexto ∧ permitido s .devolver) :
    Reachable (paso stringSplit segmentMaxSize pid) inicial permitido (s.devuelto c) := by
  have hguardar : s.paso stringSplit segmentMaxSize pid .actualizarContexto =
      some { s with
        memoria := manejarActualizarContextoCpu s.memoria c.contexto
        enCpu := some { c with fase := .devolver } } := by
    simp only [paso, hc, Option.bind_some, if_pos hfase, actualizarContextoEnMemory_eq _ _ hpid hcabe,
      Option.map_some]
  exact .next (.next h (hpermitido _).1 hguardar) (hpermitido _).2 rfl

end Pasos

section Muestra

local instance recepcionDelContador : Recepcion := recepcionTipica

/-- `string_split` on lines without repeated blanks. -/
def partirEnBlancos (linea _separador : String) : List String :=
  (linea.toList.splitOn ' ').map String.ofList

def procesoContador : Proceso :=
  ⟨1, { Registros.cero with di := 1 }, [⟨0, 3, 8, sinBase⟩], ["SET AX 7", "MOV_OUT AX"]⟩

def memoriaContador : KernelMemory where
  config := ⟨1024, none⟩
  procesos := [procesoContador]
  bloquesLibres := []
  ram := ramTresSticks
  swap := Swap.desconectado

theorem arranque_contador : Arranque cpuTresSticks memoriaContador 1 procesoContador where
  proceso := by decide
  plana := tablaPlana_of_plana plana_ramTresSticks
  residentes := by decide
  cabe := by decide
  sticks := mismosSticks_cpuTresSticks

def contextoContador : Contexto := ⟨1, procesoContador.registros, procesoContador.segmentos⟩

/-- An interrupt is pending. -/
def despachoContador : Desalojo :=
  ⟨memoriaContador, some ⟨cpuTresSticks, contextoContador, true, .ciclo⟩, .continuar, 0⟩

/-- Its first instruction. -/
def setContador : Efecto :=
  (ejecutarSet contextoContador ramTresSticks.tabla ⟨"SET", ["AX", "7"]⟩).avanzarPc

theorem setContador_registros :
    setContador.registros = { contextoContador.registros with ax := 7, pc := 1 } := by decide

/-- A CPU that heard of the sticks in the order of their registration. -/
def cpuEnOrden : List CpuStick := [⟨12, 0, 6, 0⟩, ⟨13, 6, 0, 1⟩, ⟨14, 6, 10, 2⟩]

theorem mismosSticks_cpuEnOrden : MismosSticks cpuEnOrden ramTresSticks.tabla where
  fiel := by
    intro entrada hentrada
    simp only [cpuEnOrden, List.mem_cons, List.not_mem_nil, or_false] at hentrada
    rcases hentrada with rfl | rfl | rfl <;> exact ⟨_, rfl, rfl, rfl, by decide⟩
  todos := by
    intro idx stick hget
    have hlt := (List.getElem?_eq_some_iff.mp hget).1
    have hlargo : ramTresSticks.tabla.length = 3 := rfl
    rw [hlargo] at hlt
    interval_cases idx <;> decide

/-- Evicted after its first instruction. -/
def contadorDesalojado : Desalojo :=
  (despachoContador.trasInstruccion ⟨cpuTresSticks, contextoContador, true, .ciclo⟩ setContador).devuelto
    ⟨cpuTresSticks, { contextoContador with registros := setContador.registros }, false, .guardar⟩

/-- Another stick registers, and another CPU gets the process. -/
def contadorRedespachado : Desalojo :=
  { contadorDesalojado with
    memoria := { contadorDesalojado.memoria with
      ram := (registrarMemoryStick contadorDesalojado.memoria ⟨4, 5, "d", "4", fun _ ↦ 3⟩ 7).ram }
    enCpu := some ⟨cpuEnOrden, { contextoContador with registros := setContador.registros }, false,
      .ciclo⟩ }

abbrev PermitidoContador (s : Desalojo) (e : EventoDesalojo) : Prop :=
  s.Entorno memoriaContador.ram.tabla 1 e ∧ s.SinDesborde partirEnBlancos 1024 e

theorem contadorDesalojado_alcanzable :
    Reachable (paso partirEnBlancos 1024 1) (Despachado memoriaContador 1) PermitidoContador
      contadorDesalojado := by
  have hinicio : Despachado memoriaContador 1 despachoContador :=
    ⟨rfl, rfl, rfl, cpuTresSticks, contextoContador, true,
      solicitarContextoAMemory_eq arranque_contador.proceso arranque_contador.cabe,
      mismosSticks_cpuTresSticks.conoce, rfl⟩
  have hfetch : fetchInstruccion partirEnBlancos memoriaContador.procesos contextoContador =
      some ⟨"SET", ["AX", "7"]⟩ := by decide
  have hset : executeInstruccion 1024 cpuTresSticks contextoContador ramTresSticks.tabla
      ⟨"SET", ["AX", "7"]⟩ = some setContador := by simp [executeInstruccion, setContador]
  have hsin : despachoContador.SinDesborde partirEnBlancos 1024 .ejecutar := by
    intro c hc instr hinstr
    obtain rfl := Option.some.inj hc
    obtain rfl := Option.some.inj (hfetch.symm.trans hinstr)
    simp [AccesosSinDesborde, Instruccion.accesos]
  apply alcanzable_desalojar (.next (.start hinicio) ⟨trivial, hsin⟩ (paso_ejecutar rfl rfl hfetch hset))
  · rfl
  · rfl
  · rfl
  · decide
  · exact fun _ ↦ ⟨⟨trivial, trivial⟩, trivial, trivial⟩

theorem contadorRedespachado_alcanzable :
    Reachable (paso partirEnBlancos 1024 1) (Despachado memoriaContador 1) PermitidoContador
      contadorRedespachado ∧
    Conoce ramTresSticks.tabla cpuEnOrden contadorRedespachado.memoria.ram.tabla ∧
    TablaPlana contadorRedespachado.memoria.ram.tabla := by
  have hextiende : Extiende contadorRedespachado.memoria.ram.tabla ramTresSticks.tabla :=
    ⟨ramTresSticks.tabla, _, rfl, MismaTabla.refl _⟩
  have hplana : TablaPlana contadorRedespachado.memoria.ram.tabla := by
    have hsana : (registrarMemoryStick contadorDesalojado.memoria ⟨4, 5, "d", "4", fun _ ↦ 3⟩ 7).ram.Sana :=
      @Ram.Sana.registrarMemoryStick contadorDesalojado.memoria plana_ramTresSticks.toSana _ 7 (by decide)
    exact ⟨hsana.bases, hsana.abiertos, by decide⟩
  have hajeno : Ajeno 1 contadorDesalojado.memoria contadorRedespachado.memoria := by
    refine ⟨rfl, hextiende, hplana, fun proc hproc address haddress ↦ ?_⟩
    obtain rfl := Option.some.inj hproc
    have hlt : address < sumaSticks ramTresSticks.tabla :=
      enSegmentos_lt arranque_contador.residentes haddress
    exact plano_viejos arranque_contador.plana _ hlt
  have hotros : Reachable (paso partirEnBlancos 1024 1) (Despachado memoriaContador 1)
      PermitidoContador { contadorRedespachado with enCpu := none } :=
    .next (e := .otros contadorRedespachado.memoria) contadorDesalojado_alcanzable ⟨hajeno, trivial⟩ rfl
  have hconoce : Conoce memoriaContador.ram.tabla cpuEnOrden contadorRedespachado.memoria.ram.tabla :=
    mismosSticks_cpuEnOrden.conoce.extiende hextiende
  have hproc : procesosBuscar contadorRedespachado.memoria.procesos (1 : Int32).toInt =
      some { procesoContador with registros := setContador.registros } := rfl
  have hdespacho : ({ contadorRedespachado with enCpu := none } : Desalojo).paso partirEnBlancos 1024 1
      (.despachar cpuEnOrden false) = some contadorRedespachado := by
    have hctx := solicitarContextoAMemory_eq hproc arranque_contador.cabe
    simp only [paso, hctx]
    rfl
  have hpermitido : PermitidoContador { contadorRedespachado with enCpu := none }
      (.despachar cpuEnOrden false) := ⟨hconoce, trivial⟩
  exact ⟨.next hotros hpermitido hdespacho, hconoce, hplana⟩

theorem accesos_movOut : (⟨"MOV_OUT", ["AX"]⟩ : Instruccion).accesos setContador.registros = [(1, 1)] := by
  rw [setContador_registros]
  rfl

theorem movOut_sinDesborde : AccesosSinDesborde 1024
    { contextoContador with registros := setContador.registros } ⟨"MOV_OUT", ["AX"]⟩ := by
  intro acceso hacceso seg _
  rw [accesos_movOut, List.mem_singleton] at hacceso
  rw [hacceso]
  exact Or.inl (by decide)

theorem movOut_ejecuta {tabla : List MemoryStick} (hconoce : Conoce ramTresSticks.tabla cpuEnOrden tabla)
    (hplana : TablaPlana tabla) :
    ∃ efecto, executeInstruccion 1024 cpuEnOrden
      { contextoContador with registros := setContador.registros } tabla ⟨"MOV_OUT", ["AX"]⟩ =
        some efecto := by
  have hsin := movOut_sinDesborde (1, 1) (by rw [accesos_movOut]; exact List.mem_cons_self)
  have hdatos : (StreamReader.littleEndian (1 : UInt32).toNat
      (obtenerValorRegistro setContador.registros "AX").toNat).length = (1 : UInt32).toNat :=
    StreamReader.length_littleEndian _ _
  have hresidentes : Residentes ramTresSticks.tabla
      ({ contextoContador with registros := setContador.registros } : Contexto).tablaSegmentos :=
    arranque_contador.residentes
  have hescribe := hconoce.mmuEscribirRed hplana hresidentes hsin hdatos
  have hdir : direccionPropia 1024 procesoContador.segmentos 1 1 = some 4 := by decide
  have hllega : EscrituraLlega ramTresSticks.tabla [] 4 1 := by decide
  have hdi : setContador.registros.di = 1 := by rw [setContador_registros]; rfl
  simp only [contextoContador, hdir] at hescribe
  obtain ⟨despues, hdespues, -⟩ := hescribe.1 hllega
  refine ⟨(sinMemoria despues .continuar setContador.registros false).avanzarPc, ?_⟩
  have hmmu : ejecutarMovOut 1024 cpuEnOrden { contextoContador with registros := setContador.registros }
      tabla ⟨"MOV_OUT", ["AX"]⟩ = some (sinMemoria despues .continuar setContador.registros false) := by
    unfold ejecutarMovOut
    simp only [hdi]
    exact congrArg (Option.map _) hdespues
  simp only [executeInstruccion, ejecutarInstruccionMmu, hmmu]
  rfl

/-- A process with a write to memory, evicted after its first instruction, with another stick and another CPU
for its second. -/
theorem desalojo_transparente_contador : ∃ s,
    Reachable (paso partirEnBlancos 1024 1) (Despachado memoriaContador 1)
      (fun s e ↦ s.Entorno memoriaContador.ram.tabla 1 e ∧ s.SinDesborde partirEnBlancos 1024 e) s ∧
    s.ejecutadas = 2 ∧
    s.Transparente partirEnBlancos 1024 cpuTresSticks memoriaContador 1 ∧
    s.Avanza partirEnBlancos 1024 cpuTresSticks memoriaContador 1 := by
  obtain ⟨hredespachado, hconoce, hplana⟩ := contadorRedespachado_alcanzable
  have hfetch : fetchInstruccion partirEnBlancos contadorRedespachado.memoria.procesos
      { contextoContador with registros := setContador.registros } = some ⟨"MOV_OUT", ["AX"]⟩ := by
    decide
  have hsin : contadorRedespachado.SinDesborde partirEnBlancos 1024 .ejecutar := by
    intro c hc instr hinstr
    obtain rfl := Option.some.inj hc
    obtain rfl := Option.some.inj (hfetch.symm.trans hinstr)
    exact movOut_sinDesborde
  obtain ⟨efecto, hefecto⟩ := movOut_ejecuta hconoce hplana
  have hpaso : contadorRedespachado.paso partirEnBlancos 1024 1 .ejecutar = some
      (contadorRedespachado.trasInstruccion ⟨cpuEnOrden,
        { contextoContador with registros := setContador.registros }, false, .ciclo⟩ efecto) :=
    paso_ejecutar rfl rfl hfetch hefecto
  have hpermitido : PermitidoContador contadorRedespachado .ejecutar := ⟨trivial, hsin⟩
  have hreachable := Reachable.next hredespachado hpermitido hpaso
  exact ⟨_, hreachable, rfl, desalojo_transparente partirEnBlancos 1024 arranque_contador hreachable⟩

/-- A process that loads the four bytes around the start of its segment. -/
def procesoCarga : Proceso :=
  ⟨1, { Registros.cero with si := 4294967293 }, [⟨0, 3, 8, sinBase⟩], ["NOOP", "MOV_IN EAX"]⟩

/-- Its neighbour owns the three bytes in front. -/
def procesoVecino : Proceso := ⟨2, .cero, [⟨0, 0, 3, sinBase⟩], []⟩

def memoriaCarga : KernelMemory where
  config := ⟨-1, none⟩
  procesos := [procesoCarga, procesoVecino]
  bloquesLibres := []
  ram := ramTresSticks
  swap := Swap.desconectado

theorem arranque_carga : Arranque cpuTresSticks memoriaCarga 1 procesoCarga where
  proceso := by decide
  plana := tablaPlana_of_plana plana_ramTresSticks
  residentes := by decide
  cabe := by decide
  sticks := mismosSticks_cpuTresSticks

/-- Its context before the second instruction. -/
def contextoCarga : Contexto := ⟨1, { procesoCarga.registros with pc := 1 }, procesoCarga.segmentos⟩

/-- What the load does with these bytes. -/
def efectoCarga (tabla : List MemoryStick) (dato : UInt32) : Efecto :=
  ⟨.continuar, { contextoCarga.registros with eax := dato, pc := 2 }, false, tabla⟩

theorem carga_antes : executeInstruccion 4294967295 cpuTresSticks contextoCarga ramTresSticks.tabla
    ⟨"MOV_IN", ["EAX"]⟩ = some (efectoCarga ramTresSticks.tabla 0x07070707) := rfl

/-- The sticks after the neighbour has written 1 to the first byte of its segment. -/
def tablaVecino : List MemoryStick := ramTresSticks.tabla.modify 0 fun stick ↦ stick.manejarEscritura 0 1 [1]

theorem mismaTabla_vecino : MismaTabla tablaVecino ramTresSticks.tabla :=
  mismaTabla_modify _ _ fun s ↦ s.entrada_manejarEscritura _ _ _

theorem carga_despues : executeInstruccion 4294967295 cpuTresSticks contextoCarga tablaVecino
    ⟨"MOV_IN", ["EAX"]⟩ = some (efectoCarga tablaVecino 0x07070701) := rfl

/-- Its context before the first instruction. -/
def contextoNoop : Contexto := ⟨1, procesoCarga.registros, procesoCarga.segmentos⟩

theorem solicitar_carga : solicitarContextoAMemory memoriaCarga 1 = some contextoNoop :=
  solicitarContextoAMemory_eq arranque_carga.proceso arranque_carga.cabe

theorem fetch_noop :
    fetchInstruccion partirEnBlancos memoriaCarga.procesos contextoNoop = some ⟨"NOOP", []⟩ := by
  decide

theorem fetch_carga : fetchInstruccion partirEnBlancos memoriaCarga.procesos contextoCarga =
    some ⟨"MOV_IN", ["EAX"]⟩ := by
  decide

theorem execute_noop : executeInstruccion 4294967295 cpuTresSticks contextoNoop ramTresSticks.tabla ⟨"NOOP", []⟩ =
    some (sinMemoria ramTresSticks.tabla .continuar contextoNoop.registros false).avanzarPc := rfl

/-- The process executes its first instruction and is evicted. -/
def cargaDesalojada : Desalojo :=
  ⟨{ memoriaCarga with
      procesos := [{ procesoCarga with registros := contextoCarga.registros }, procesoVecino] },
    none, .continuar, 1⟩

theorem cargaDesalojada_alcanzable :
    Reachable (paso partirEnBlancos 4294967295 1) (Despachado memoriaCarga 1)
      (fun s e ↦ s.Entorno memoriaCarga.ram.tabla 1 e) cargaDesalojada := by
  let inicio : Desalojo :=
    ⟨memoriaCarga, some ⟨cpuTresSticks, contextoNoop, true, .ciclo⟩, .continuar, 0⟩
  have hinicio : Despachado memoriaCarga 1 inicio :=
    ⟨rfl, rfl, rfl, cpuTresSticks, contextoNoop, true, solicitar_carga, mismosSticks_cpuTresSticks.conoce, rfl⟩
  have hpermitido : Entorno memoriaCarga.ram.tabla 1 inicio .ejecutar := trivial
  have hejecutada : Reachable (paso partirEnBlancos 4294967295 1) (Despachado memoriaCarga 1)
      (fun s e ↦ s.Entorno memoriaCarga.ram.tabla 1 e) _ :=
    .next (.start hinicio) hpermitido (paso_ejecutar rfl rfl fetch_noop execute_noop)
  exact alcanzable_desalojar hejecutada rfl rfl rfl arranque_carga.cabe fun _ ↦ ⟨trivial, trivial⟩

/-- The uninterrupted execution of both instructions. -/
theorem carga_sinInterrupciones : sinInterrupciones partirEnBlancos 4294967295 cpuTresSticks memoriaCarga 1 2 =
    some ⟨{ contextoCarga with registros := (efectoCarga ramTresSticks.tabla 0x07070707).registros },
      ramTresSticks.tabla, .continuar⟩ := by
  have hnoop : (⟨contextoNoop, ramTresSticks.tabla, .continuar⟩ : Vuelta).siguiente partirEnBlancos
      4294967295 cpuTresSticks memoriaCarga.procesos =
        some ⟨contextoCarga, ramTresSticks.tabla, .continuar⟩ := by
    simp only [Vuelta.siguiente, instruccionDelCiclo, fetch_noop, Option.bind_some]
    rfl
  rw [sinInterrupciones_succ, sinInterrupciones_succ, sinInterrupciones, solicitar_carga]
  simp only [Option.bind_some, Vuelta.avanzar]
  refine (congrArg (Option.bind · _) hnoop).trans ?_
  simp only [Option.bind_some, Vuelta.siguiente, instruccionDelCiclo, fetch_carga, carga_antes, if_true,
    Option.map_some]
  rfl

/-- A neighbour writes to its own segment while the process is not on a CPU; the process then loads the byte,
since the sum of offset and size wraps in the bound check of the MMU. -/
theorem desalojo_con_desborde : Arranque cpuTresSticks memoriaCarga 1 procesoCarga ∧ ∃ s,
    Reachable (paso partirEnBlancos 4294967295 1) (Despachado memoriaCarga 1)
      (fun s e ↦ s.Entorno memoriaCarga.ram.tabla 1 e) s ∧
    ¬ s.Transparente partirEnBlancos 4294967295 cpuTresSticks memoriaCarga 1 := by
  refine ⟨arranque_carga, ?_⟩
  -- the neighbour's write
  let memoria : KernelMemory :=
    { cargaDesalojada.memoria with ram := { ramTresSticks with tabla := tablaVecino } }
  have hextiende : Extiende tablaVecino ramTresSticks.tabla := extiende_of_mismaTabla mismaTabla_vecino
  have hajeno : Ajeno 1 cargaDesalojada.memoria memoria := by
    refine ⟨rfl, hextiende, arranque_carga.plana.of_mismaTabla mismaTabla_vecino,
      fun proc hproc address haddress ↦ ?_⟩
    obtain rfl := Option.some.inj hproc
    obtain ⟨seg, hseg, hle, hlt⟩ := haddress
    rw [List.mem_singleton.mp hseg] at hle hlt
    have hdespues : 3 ≤ address := hle
    have hantes : address < 11 := hlt
    show plano tablaVecino address = plano ramTresSticks.tabla address
    interval_cases address <;> rfl
  have hotros : Entorno memoriaCarga.ram.tabla 1 cargaDesalojada (.otros memoria) := hajeno
  -- the second dispatch and the load
  let redespachada : Desalojo :=
    ⟨memoria, some ⟨cpuTresSticks, contextoCarga, false, .ciclo⟩, .continuar, 1⟩
  have hproc : procesosBuscar memoria.procesos (1 : Int32).toInt =
      some { procesoCarga with registros := contextoCarga.registros } := rfl
  have hdespacho : ({ cargaDesalojada with memoria := memoria } : Desalojo).paso partirEnBlancos
      4294967295 1 (.despachar cpuTresSticks false) = some redespachada := by
    have hctx := solicitarContextoAMemory_eq hproc arranque_carga.cabe
    simp only [paso, hctx]
    rfl
  have hconoce : Entorno memoriaCarga.ram.tabla 1 { cargaDesalojada with memoria := memoria }
      (.despachar cpuTresSticks false) :=
    mismosSticks_cpuTresSticks.conoce.extiende hextiende
  have hfetch : fetchInstruccion partirEnBlancos cargaDesalojada.memoria.procesos contextoCarga =
      some ⟨"MOV_IN", ["EAX"]⟩ := by decide
  have hpermitido : Entorno memoriaCarga.ram.tabla 1 redespachada .ejecutar := trivial
  have hcarga : redespachada.paso partirEnBlancos 4294967295 1 .ejecutar = some
      (redespachada.trasInstruccion ⟨cpuTresSticks, contextoCarga, false, .ciclo⟩
        (efectoCarga tablaVecino 0x07070701)) :=
    paso_ejecutar rfl rfl hfetch carga_despues
  have hredespachada := Reachable.next (.next cargaDesalojada_alcanzable hotros rfl) hconoce hdespacho
  refine ⟨_, .next hredespachada hpermitido hcarga, ?_⟩
  rintro ⟨v, hv, -, hcontexto, -⟩
  -- the uninterrupted execution loads the old byte
  obtain rfl := Option.some.inj (carga_sinInterrupciones.symm.trans hv)
  have heax := congrArg (fun contexto ↦ contexto.registros.eax) (Option.some.inj hcontexto)
  exact absurd heax (by decide)

end Muestra

end Desalojo

end PlugAndPlay.Cpu
