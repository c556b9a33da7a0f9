import PlugAndPlay.Cpu.InstruccionesMemoria
import PlugAndPlay.Cpu.MemoriasPrivadasCorridas

/-!
# Instructions over a private memory

A process alone is its registers and its private memory, and its instructions mean something there as long as they
read what the process wrote. The CPU, over the sticks and the segments of the moment, does just that.
-/

open PlugAndPlay.Library PrivateMemory

namespace PlugAndPlay.Cpu

open Memoria
open Red (Recepcion largoPedidoEscritura)
open StreamReader (littleEndian ofLittleEndian)

/-! ## A process alone -/

structure Maquina where
  registros : Registros
  memoria : List (Region UInt32 UInt8)

/-- What an instruction leaves of a process alone. -/
structure EfectoPropio where
  resultado : ResultadoExecute
  registros : Registros
  pcModificado : Bool
  memoria : List (Region UInt32 UInt8)

theorem eq_map_some_of_mapM {cells : List (Option UInt8)} {datos : List UInt8} (h : cells.mapM id = some datos) :
    cells = datos.map some := by
  induction cells generalizing datos with
  | nil =>
    obtain rfl := Option.some.inj h
    rfl
  | cons cell resto ih =>
    rw [List.mapM_cons] at h
    obtain ⟨primero, hprimero, hotros⟩ := Option.bind_eq_some_iff.mp h
    obtain ⟨otros, hmapM, hdatos⟩ := Option.bind_eq_some_iff.mp hotros
    obtain rfl := Option.some.inj hdatos
    rw [ih hmapM, show cell = some primero from hprimero]
    rfl

section Sola

variable [Recepcion]

/-- The access does not wrap, and its pieces arrive wherever it is cut. -/
def Accesible (segmentMaxSize dir tam : UInt32) : Prop :=
  largoPedidoEscritura + tam.toNat ≤ Recepcion.capacidad ∧ (dir % segmentMaxSize).toNat + tam.toNat < 2 ^ 32

instance (segmentMaxSize dir tam : UInt32) : Decidable (Accesible segmentMaxSize dir tam) :=
  inferInstanceAs (Decidable (_ ∧ _))

namespace Maquina

variable (segmentMaxSize : UInt32) (m : Maquina)

/-- What is known of a range of the own memory. -/
def rango (dir tam : UInt32) : Option (List (Option UInt8)) :=
  load (fun _ : Unit ↦ m.memoria) () (dir / segmentMaxSize) (dir % segmentMaxSize).toNat tam.toNat

/-- A read of bytes that are known; past the segments it is a fault. -/
def lee (dir tam : UInt32) : Option (Except ResultadoExecute (List UInt8)) :=
  if Accesible segmentMaxSize dir tam then
    match m.rango segmentMaxSize dir tam with
    | none => some (.error .segFault)
    | some cells => (cells.mapM id).map .ok
  else none

def escribe (dir : UInt32) (datos : List UInt8) (tam : UInt32) :
    Option (ResultadoExecute × List (Region UInt32 UInt8)) :=
  if Accesible segmentMaxSize dir tam then
    match m.rango segmentMaxSize dir tam with
    | none => some (.segFault, m.memoria)
    | some _ =>
      some (.continuar, storeIn (dir / segmentMaxSize) (dir % segmentMaxSize).toNat datos m.memoria)
  else none

/-- An instruction that only looks at the registers. -/
def soloRegistros (resultado : ResultadoExecute) (registros : Registros) (pcModificado : Bool) : EfectoPropio :=
  ⟨resultado, registros, pcModificado, m.memoria⟩

def conEscritura (fin : ResultadoExecute × List (Region UInt32 UInt8)) : EfectoPropio :=
  ⟨fin.1, m.registros, false, fin.2⟩

def movIn : List String → Option EfectoPropio
  | [] => some (m.soloRegistros .error m.registros false)
  | reg :: _ =>
    (m.lee segmentMaxSize m.registros.si (sizeofRegistro reg)).map fun
      | .error resultado => m.soloRegistros resultado m.registros false
      | .ok dato =>
        m.soloRegistros .continuar (asignarValorRegistro m.registros reg (UInt32.ofNat (ofLittleEndian dato))) false

def movOut : List String → Option EfectoPropio
  | [] => some (m.soloRegistros .error m.registros false)
  | reg :: _ =>
    let tamanio := sizeofRegistro reg
    let dato := littleEndian tamanio.toNat (obtenerValorRegistro m.registros reg).toNat
    (m.escribe segmentMaxSize m.registros.di dato tamanio).map m.conEscritura

def copyMem : List String → Option EfectoPropio
  | [] => some (m.soloRegistros .error m.registros false)
  | reg :: _ =>
    let tamanio := obtenerValorRegistro m.registros reg
    match m.lee segmentMaxSize m.registros.si tamanio with
    | none => none
    | some (.error resultado) => some (m.soloRegistros resultado m.registros false)
    | some (.ok dato) => (m.escribe segmentMaxSize m.registros.di dato tamanio).map m.conEscritura

def efectoMmu (instr : Instruccion) : Option EfectoPropio :=
  if instr.nombre = "MOV_IN" then m.movIn segmentMaxSize instr.parametros
  else if instr.nombre = "MOV_OUT" then m.movOut segmentMaxSize instr.parametros
  else if instr.nombre = "COPY_MEM" then m.copyMem segmentMaxSize instr.parametros
  else some (m.soloRegistros .error m.registros false)

/-- The effect of an instruction of the CPU that looks at no memory. -/
def deRegistros (f : Contexto → List MemoryStick → Instruccion → Efecto) (instr : Instruccion) : EfectoPropio :=
  let efecto := f ⟨0, m.registros, []⟩ [] instr
  m.soloRegistros efecto.resultado efecto.registros efecto.pcModificado

end Maquina

/-- The next instruction, unless this one set the program counter. -/
def EfectoPropio.avanzarPc (e : EfectoPropio) : EfectoPropio :=
  if e.pcModificado then e else { e with registros := { e.registros with pc := e.registros.pc + 1 } }

/-- What an instruction does to a process alone; nothing where it reads what the process did not write. -/
def Maquina.efecto (segmentMaxSize : UInt32) (m : Maquina) (instr : Instruccion) : Option EfectoPropio :=
  if instr.nombre = "NOOP" then some (m.soloRegistros .continuar m.registros false).avanzarPc
  else if instr.nombre = "SET" then some (m.deRegistros ejecutarSet instr).avanzarPc
  else if instr.nombre = "SUM" then some (m.deRegistros ejecutarSum instr).avanzarPc
  else if instr.nombre = "SUB" then some (m.deRegistros ejecutarSub instr).avanzarPc
  else if instr.nombre = "JNZ" then some (m.deRegistros ejecutarJnz instr).avanzarPc
  else if esInstruccionCpuMemoria instr.nombre then
    (m.efectoMmu segmentMaxSize instr).map EfectoPropio.avanzarPc
  else if instr.nombre = "EXIT" then some (m.soloRegistros .exitProceso m.registros false).avanzarPc
  else if esSyscall instr.nombre then some (m.soloRegistros .syscall m.registros false).avanzarPc
  else some (m.soloRegistros .error m.registros false)

def EfectoPropio.maquina (e : EfectoPropio) : Maquina := ⟨e.registros, e.memoria⟩

/-! ## Accesses -/

/-- What is read is as long as it was asked to be. -/
theorem Maquina.length_of_lee {segmentMaxSize dir tam : UInt32} (m : Maquina) {dato : List UInt8}
    (h : m.lee segmentMaxSize dir tam = some (.ok dato)) : dato.length = tam.toNat := by
  unfold lee at h
  split at h
  swap
  · cases h
  cases hrango : m.rango segmentMaxSize dir tam with
  | none =>
    rw [hrango] at h
    cases h
  | some cells =>
    rw [hrango] at h
    obtain ⟨datos, hdatos, hok⟩ := Option.map_eq_some_iff.mp h
    obtain rfl : datos = dato := Except.ok.inj hok
    obtain ⟨region, -, hcells⟩ := Option.bind_eq_some_iff.mp hrango
    split at hcells
    · calc datos.length = (datos.map some).length := (List.length_map _).symm
        _ = cells.length := by rw [eq_map_some_of_mapM hdatos]
        _ = tam.toNat := by
          rw [← Option.some.inj hcells]
          exact ByteMemory.length_slice
    · cases hcells

/-- The pieces of an accessible range arrive. -/
theorem Accesible.llega {segmentMaxSize dir tam : UInt32} (h : Accesible segmentMaxSize dir tam)
    (tabla : List MemoryStick) (dirFisica : UInt32) :
    LecturaLlega tabla [] dirFisica tam ∧ EscrituraLlega tabla [] dirFisica tam :=
  ⟨lecturaLlega_of_corta ((Nat.le_add_left _ _).trans h.1), escrituraLlega_of_corta h.1⟩

section Acceso

variable {s : Espejo} {pid : ℤ} {sticks : List CpuStick} {contexto : Contexto} {m : Maquina} {dir tam : UInt32}
  (h : s.Fiel) (haldia : CpuAlDia s.corrida pid sticks contexto) (hmemoria : m.memoria = s.privadas pid)
include h haldia hmemoria

/-- The CPU reads what the process alone reads. -/
theorem mmuLeerRed_of_lee {fin : Except ResultadoExecute (List UInt8)}
    (hlee : m.lee s.corrida.memoria.config.segmentMaxSize.toUInt32 dir tam = some fin) :
    mmuLeerRed s.corrida.memoria.config.segmentMaxSize.toUInt32 s.corrida.memoria.ram.tabla sticks contexto dir tam =
      some fin := by
  unfold Maquina.lee at hlee
  split at hlee
  swap
  · cases hlee
  rename_i haccesible
  have hrango : m.rango s.corrida.memoria.config.segmentMaxSize.toUInt32 dir tam =
      s.corrida.memoria.conocidos s.privadas pid dir tam.toNat := by
    unfold Maquina.rango
    rw [hmemoria]
    rfl
  rw [hrango] at hlee
  rcases mmuLeerRed_alcanza h.reparte h.uso haldia.activo haldia.sticks haldia.segmentos haccesible.2 with
    ⟨seg, dirFisica, halcanza, hred⟩ | ⟨hninguno, hred⟩
  · obtain ⟨cells, hcells, hagrees⟩ := h.conocida halcanza
    rw [hcells] at hlee
    obtain ⟨datos, hdatos, rfl⟩ := Option.map_eq_some_iff.mp hlee
    rw [eq_map_some_of_mapM hdatos] at hagrees
    rw [hred, finDeLectura_of_llega _ (lecturaLlega_iff.mp (haccesible.llega _ _).1), hagrees.eq]
  · rw [h.conocidos_eq_none haldia.activo hninguno] at hlee
    rw [hred]
    exact hlee

/-- The CPU writes what the process alone writes, and nothing else. -/
theorem mmuEscribirRed_of_escribe {datos : List UInt8} (hdatos : datos.length = tam.toNat)
    {fin : ResultadoExecute × List (Region UInt32 UInt8)}
    (hescribe : m.escribe s.corrida.memoria.config.segmentMaxSize.toUInt32 dir datos tam = some fin) :
    ∃ tabla, mmuEscribirRed s.corrida.memoria.config.segmentMaxSize.toUInt32 s.corrida.memoria.ram.tabla sticks
        contexto dir datos tam = some (fin.1, tabla) ∧
      Espejo.Fiel ⟨s.corrida.conTabla tabla, Function.update s.privadas pid fin.2⟩ := by
  unfold Maquina.escribe at hescribe
  split at hescribe
  swap
  · cases hescribe
  rename_i haccesible
  have hrango : m.rango s.corrida.memoria.config.segmentMaxSize.toUInt32 dir tam =
      s.corrida.memoria.conocidos s.privadas pid dir tam.toNat := by
    unfold Maquina.rango
    rw [hmemoria]
    rfl
  rw [hrango] at hescribe
  have hplana : TablaPlana s.corrida.memoria.ram.tabla := ⟨h.uso.sana.bases, h.uso.sana.abiertos, h.reparte.suma⟩
  have hcaso := mmuEscribirRed_conocida hplana haldia.sticks
    (residentes_activo h.reparte h.uso haldia.activo haldia.segmentos) (fun _ _ ↦ .inl haccesible.2) hdatos.ge
  have hfiable : s.Fiable (.guardar pid sticks contexto dir tam datos) := ⟨haldia, haccesible.2, hdatos.ge⟩
  have htodos : datos.take tam.toNat = datos := by rw [← hdatos, List.take_length]
  rcases direccionPropia_alcanza h.reparte h.uso haldia.activo haldia.segmentos dir tam with
    ⟨seg, dirFisica, halcanza, hdir, -⟩ | ⟨hninguno, hdir⟩
  · simp only [hdir] at hcaso
    obtain ⟨tabla, htabla, -⟩ := hcaso.1 (haccesible.llega _ _).2
    obtain ⟨cells, hcells, -⟩ := h.conocida halcanza
    rw [hcells] at hescribe
    obtain rfl := Option.some.inj hescribe
    refine ⟨tabla, htabla, ?_⟩
    have hfiel : Espejo.Fiel ⟨s.corrida.conTabla tabla,
        aplicarEfecto (s.efecto .insercion (.guardar pid sticks contexto dir tam datos)) s.privadas⟩ :=
      h.guardar hfiable htabla
    have hefecto : s.efecto .insercion (.guardar pid sticks contexto dir tam datos) =
        some (s.corrida.memoria.escritura pid dir datos) := by
      simp only [Espejo.efecto, KernelMemory.guardar, htabla, htodos]
      rfl
    rw [hefecto] at hfiel
    rw [hmemoria]
    exact hfiel
  · simp only [hdir] at hcaso
    rw [h.conocidos_eq_none haldia.activo hninguno] at hescribe
    obtain rfl := Option.some.inj hescribe
    refine ⟨_, hcaso, ?_⟩
    rw [hmemoria, Function.update_eq_self]
    exact h

end Acceso

end Sola

/-! ## Instructions -/

/-- The CPU leaves the registers that the process alone would have, and a memory that implements its private one. -/
structure Efecto.Hace (s : Espejo) (pid : ℤ) (e : EfectoPropio) (f : Efecto) : Prop where
  resultado : f.resultado = e.resultado
  registros : f.registros = e.registros
  pcModificado : f.pcModificado = e.pcModificado
  fiel : Espejo.Fiel ⟨s.corrida.conTabla f.tabla, Function.update s.privadas pid e.memoria⟩

/-- Where the process alone has an effect, the CPU has that one. -/
def Implementado (s : Espejo) (pid : ℤ) (propio : Option EfectoPropio) (efecto : Option Efecto) : Prop :=
  ∀ e, propio = some e → ∃ f, efecto = some f ∧ f.Hace s pid e

section Instruccion

variable {s : Espejo} {pid : ℤ} {sticks : List CpuStick} {contexto : Contexto} {m : Maquina}

theorem Efecto.Hace.avanzarPc {e : EfectoPropio} {f : Efecto} (h : f.Hace s pid e) :
    f.avanzarPc.Hace s pid e.avanzarPc := by
  unfold Efecto.avanzarPc EfectoPropio.avanzarPc
  rw [h.pcModificado, h.registros]
  split
  · exact h
  · exact ⟨h.resultado, rfl, rfl, h.fiel⟩

theorem Efecto.Hace.implementado {e : EfectoPropio} {f : Efecto} (h : f.Hace s pid e) :
    Implementado s pid (some e) (some f) := by
  intro e' he
  obtain rfl := Option.some.inj he
  exact ⟨f, rfl, h⟩

theorem Implementado.avanzarPc {propio : Option EfectoPropio} {efecto : Option Efecto}
    (h : Implementado s pid propio efecto) :
    Implementado s pid (propio.map EfectoPropio.avanzarPc) (efecto.map Efecto.avanzarPc) := by
  intro e he
  obtain ⟨sinAvanzar, hsinAvanzar, rfl⟩ := Option.map_eq_some_iff.mp he
  obtain ⟨f, hf, hhace⟩ := h sinAvanzar hsinAvanzar
  rw [hf]
  exact ⟨f.avanzarPc, rfl, hhace.avanzarPc⟩

/-- The CPU and the process alone make the same test. -/
theorem Implementado.ite {p : Prop} [Decidable p] {propio propio' : Option EfectoPropio}
    {efecto efecto' : Option Efecto} (h : Implementado s pid propio efecto)
    (h' : Implementado s pid propio' efecto') :
    Implementado s pid (if p then propio else propio') (if p then efecto else efecto') := by
  by_cases hp : p
  · rw [if_pos hp, if_pos hp]
    exact h
  · rw [if_neg hp, if_neg hp]
    exact h'

/-- An instruction that only looks at the registers. -/
theorem hace_soloRegistros (h : s.Fiel) (hmemoria : m.memoria = s.privadas pid) (resultado : ResultadoExecute)
    (registros : Registros) (pcModificado : Bool) :
    (sinMemoria s.corrida.memoria.ram.tabla resultado registros pcModificado).Hace s pid
      (m.soloRegistros resultado registros pcModificado) := by
  refine ⟨rfl, rfl, rfl, ?_⟩
  show Espejo.Fiel ⟨s.corrida, Function.update s.privadas pid m.memoria⟩
  rw [hmemoria, Function.update_eq_self]
  exact h

theorem SoloRegistros.hace {g : List MemoryStick → Efecto} (hg : SoloRegistros g) (h : s.Fiel)
    (hmemoria : m.memoria = s.privadas pid) :
    (g s.corrida.memoria.ram.tabla).Hace s pid
      (m.soloRegistros (g []).resultado (g []).registros (g []).pcModificado) := by
  obtain ⟨resultado, registros, pcModificado, hg⟩ := hg
  rw [hg, hg]
  exact hace_soloRegistros h hmemoria resultado registros pcModificado

variable [Recepcion] (h : s.Fiel) (haldia : CpuAlDia s.corrida pid sticks contexto)
  (hmemoria : m.memoria = s.privadas pid)
include h haldia hmemoria

/-- A write that the process alone makes too. -/
theorem implementado_conEscritura {dir tam : UInt32} {datos : List UInt8} (hdatos : datos.length = tam.toNat) :
    Implementado s pid
      ((m.escribe s.corrida.memoria.config.segmentMaxSize.toUInt32 dir datos tam).map m.conEscritura)
      ((mmuEscribirRed s.corrida.memoria.config.segmentMaxSize.toUInt32 s.corrida.memoria.ram.tabla sticks contexto
        dir datos tam).map fun fin ↦ sinMemoria fin.2 fin.1 m.registros false) := by
  intro e he
  obtain ⟨fin, hfin, rfl⟩ := Option.map_eq_some_iff.mp he
  obtain ⟨tabla, htabla, hfiel⟩ := mmuEscribirRed_of_escribe h haldia hmemoria hdatos hfin
  rw [htabla]
  exact ⟨_, rfl, rfl, rfl, rfl, hfiel⟩

variable (hregistros : contexto.registros = m.registros) (instr : Instruccion)
include hregistros

theorem implementado_movIn :
    Implementado s pid (m.movIn s.corrida.memoria.config.segmentMaxSize.toUInt32 instr.parametros)
      (ejecutarMovIn s.corrida.memoria.config.segmentMaxSize.toUInt32 sticks contexto s.corrida.memoria.ram.tabla
        instr) := by
  unfold ejecutarMovIn Maquina.movIn
  rw [hregistros]
  cases instr.parametros with
  | nil => exact (hace_soloRegistros h hmemoria _ _ _).implementado
  | cons reg resto =>
    intro e he
    obtain ⟨fin, hfin, rfl⟩ := Option.map_eq_some_iff.mp he
    simp only [mmuLeerRed_of_lee h haldia hmemoria hfin, Option.map_some]
    cases fin with
    | error resultado => exact ⟨_, rfl, hace_soloRegistros h hmemoria _ _ _⟩
    | ok dato => exact ⟨_, rfl, hace_soloRegistros h hmemoria _ _ _⟩

theorem implementado_movOut :
    Implementado s pid (m.movOut s.corrida.memoria.config.segmentMaxSize.toUInt32 instr.parametros)
      (ejecutarMovOut s.corrida.memoria.config.segmentMaxSize.toUInt32 sticks contexto s.corrida.memoria.ram.tabla
        instr) := by
  unfold ejecutarMovOut Maquina.movOut
  rw [hregistros]
  cases instr.parametros with
  | nil => exact (hace_soloRegistros h hmemoria _ _ _).implementado
  | cons reg resto => exact implementado_conEscritura h haldia hmemoria (StreamReader.length_littleEndian _ _)

/-- Where the source is refused, neither looks at the destination. -/
theorem implementado_copyMem :
    Implementado s pid (m.copyMem s.corrida.memoria.config.segmentMaxSize.toUInt32 instr.parametros)
      (ejecutarCopyMem s.corrida.memoria.config.segmentMaxSize.toUInt32 sticks contexto
        s.corrida.memoria.ram.tabla instr) := by
  unfold ejecutarCopyMem Maquina.copyMem
  rw [hregistros]
  cases instr.parametros with
  | nil => exact (hace_soloRegistros h hmemoria _ _ _).implementado
  | cons reg resto =>
    dsimp only
    cases hlee : m.lee s.corrida.memoria.config.segmentMaxSize.toUInt32 m.registros.si
        (obtenerValorRegistro m.registros reg) with
    | none =>
      intro e he
      cases he
    | some fin =>
      rw [mmuLeerRed_of_lee h haldia hmemoria hlee]
      cases fin with
      | error resultado => exact (hace_soloRegistros h hmemoria _ _ _).implementado
      | ok dato => exact implementado_conEscritura h haldia hmemoria (m.length_of_lee hlee)

theorem implementado_mmu :
    Implementado s pid (m.efectoMmu s.corrida.memoria.config.segmentMaxSize.toUInt32 instr)
      (ejecutarInstruccionMmu s.corrida.memoria.config.segmentMaxSize.toUInt32 sticks contexto
        s.corrida.memoria.ram.tabla instr) := by
  unfold ejecutarInstruccionMmu Maquina.efectoMmu
  apply Implementado.ite
  · exact implementado_movIn h haldia hmemoria hregistros instr
  apply Implementado.ite
  · exact implementado_movOut h haldia hmemoria hregistros instr
  apply Implementado.ite
  · exact implementado_copyMem h haldia hmemoria hregistros instr
  · rw [hregistros]
    exact (hace_soloRegistros h hmemoria _ _ _).implementado

/-- The CPU, wherever the segments of the process are, executes an instruction as the process alone does. -/
theorem implementado_executeInstruccion :
    Implementado s pid (m.efecto s.corrida.memoria.config.segmentMaxSize.toUInt32 instr)
      (executeInstruccion s.corrida.memoria.config.segmentMaxSize.toUInt32 sticks contexto
        s.corrida.memoria.ram.tabla instr) := by
  have hsinMemoria : ∀ resultado, Implementado s pid (some (m.soloRegistros resultado m.registros false).avanzarPc)
      (some (sinMemoria s.corrida.memoria.ram.tabla resultado contexto.registros false).avanzarPc) := by
    intro resultado
    rw [hregistros]
    exact (hace_soloRegistros h hmemoria _ _ _).avanzarPc.implementado
  -- these look at no more of the context than its registers
  have hset : ejecutarSet contexto = ejecutarSet ⟨0, contexto.registros, []⟩ := rfl
  have hoperacion : ejecutarOperacion contexto = ejecutarOperacion ⟨0, contexto.registros, []⟩ := rfl
  have hjnz : ejecutarJnz contexto = ejecutarJnz ⟨0, contexto.registros, []⟩ := rfl
  rw [hregistros] at hset hoperacion hjnz
  unfold executeInstruccion Maquina.efecto
  apply Implementado.ite
  · exact hsinMemoria .continuar
  apply Implementado.ite
  · rw [hset]
    exact ((soloRegistros_set _ instr).hace h hmemoria).avanzarPc.implementado
  apply Implementado.ite
  · rw [ejecutarSum, hoperacion]
    exact ((soloRegistros_operacion _ instr _).hace h hmemoria).avanzarPc.implementado
  apply Implementado.ite
  · rw [ejecutarSub, hoperacion]
    exact ((soloRegistros_operacion _ instr _).hace h hmemoria).avanzarPc.implementado
  apply Implementado.ite
  · rw [hjnz]
    exact ((soloRegistros_jnz _ instr).hace h hmemoria).avanzarPc.implementado
  apply Implementado.ite
  · exact (implementado_mmu h haldia hmemoria hregistros instr).avanzarPc
  apply Implementado.ite
  · exact hsinMemoria .exitProceso
  apply Implementado.ite
  · exact hsinMemoria .syscall
  · rw [hregistros]
    exact (hace_soloRegistros h hmemoria _ _ _).implementado

end Instruccion

end PlugAndPlay.Cpu
