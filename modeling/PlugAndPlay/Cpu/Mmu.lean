import PlugAndPlay.Memoria.RamPlana

/-!
# The MMU of a CPU

`cpu_mmu.c`, the stick table of `cpu_memory.c`, and `mmu_leer` and `mmu_escribir` of `cpu_ciclo.c`. The
CPU translates with its own copy of the segment table, cuts the range into pieces, and only then asks
the sticks for them. That the messages of a piece arrive is assumed here; `MmuPlana` has these loops
with the messages.
-/

open PlugAndPlay.Library

namespace PlugAndPlay.Cpu

open Memoria

/-! ## The code -/

/-- `t_cpu_stick`. `proceso` is the stick process behind the socket: its index in the table of Kernel
Memory. -/
structure CpuStick where
  socket : ℤ
  base : UInt32
  size : UInt32
  proceso : ℕ
deriving Repr, DecidableEq

/-- `t_traduccion_fisica`. -/
structure TraduccionFisica where
  stickIndex : ℕ
  dirFisica : UInt32
  bytesEnStick : UInt32
deriving Repr, DecidableEq

/-- `t_resultado_execute`. -/
inductive ResultadoExecute
  | continuar
  | syscall
  | exitProceso
  | segFault
  | error
deriving Repr, DecidableEq

/-- `cpu_buscar_stick_por_dir`. -/
def cpuBuscarStickPorDir (sticks : List CpuStick) (dirGlobal : UInt32) : Option ℕ :=
  sticks.findIdx? fun stick ↦ stick.base ≤ dirGlobal ∧ dirGlobal < stick.base + stick.size

/-- `buscar_segmento`. -/
def buscarSegmento (contexto : Contexto) (numSegmento : UInt32) : Option Segmento :=
  contexto.tablaSegmentos.find? fun seg ↦ seg.id = numSegmento

/-- The loop of `mmu_traducir`. -/
def distribuir : ℕ → List CpuStick → UInt32 → UInt32 → Option (List TraduccionFisica)
  | 0, _, _, _ => some []
  | pasos + 1, sticks, dirActual, bytesRestantes =>
    if bytesRestantes = 0 then some []
    else
      match cpuBuscarStickPorDir sticks dirActual with
      | none => none
      | some idx =>
        match sticks[idx]? with
        | none => none
        | some stick =>
          let dirLocal := dirActual - stick.base
          let espacioEnStick := stick.size - dirLocal
          let chunk := if bytesRestantes < espacioEnStick then bytesRestantes else espacioEnStick
          (distribuir pasos sticks (dirActual + chunk) (bytesRestantes - chunk)).map
            (⟨idx, dirLocal, chunk⟩ :: ·)

/-- `mmu_traducir`: the physical address and the pieces. -/
def mmuTraducir (sticks : List CpuStick) (contexto : Contexto)
    (numSegmento desplazamiento tamanio : UInt32) : Option (UInt32 × List TraduccionFisica) :=
  match buscarSegmento contexto numSegmento with
  | none => none
  | some seg =>
    if desplazamiento + tamanio > seg.limite then none
    else
      let dirFisicaGlobal := seg.base + desplazamiento
      (distribuir tamanio.toNat sticks dirFisicaGlobal tamanio).map (dirFisicaGlobal, ·)

/-- `mmu_traducir_dir_logica`, with the `SEGMENT_MAX_SIZE` that Kernel Memory sent. The CPU dies dividing by a size
of zero, where this is no model of it. -/
def mmuTraducirDirLogica (segmentMaxSize : UInt32) (sticks : List CpuStick) (contexto : Contexto)
    (dirLogica tamanio : UInt32) : Option (UInt32 × List TraduccionFisica) :=
  mmuTraducir sticks contexto (dirLogica / segmentMaxSize) (dirLogica % segmentMaxSize) tamanio

/-- What `cpu_stick_leer` comes to; `espera` when it waits for bytes that the stick did not send. -/
inductive LecturaStick
  | datos (bytes : List UInt8)
  | falla
  | espera
deriving Repr, DecidableEq

/-- `cpu_stick_leer`, with the stick processes of `tabla`. -/
def cpuStickLeer (tabla : List MemoryStick) (sticks : List CpuStick) (pieza : TraduccionFisica) :
    LecturaStick :=
  match sticks[pieza.stickIndex]? with
  | none => .falla
  | some entrada =>
    if entrada.socket = -1 then .falla
    else
      match tabla[entrada.proceso]? with
      | none => .falla
      | some stick =>
        match stick.manejarLectura pieza.dirFisica pieza.bytesEnStick with
        | none => .espera
        | some bytes => .datos bytes

/-- The loop of `mmu_leer` over the pieces; nothing when it waits for ever. -/
def leerPiezas (tabla : List MemoryStick) (sticks : List CpuStick) :
    List TraduccionFisica → Option (Except ResultadoExecute (List UInt8))
  | [] => some (.ok [])
  | pieza :: resto =>
    match cpuStickLeer tabla sticks pieza with
    | .falla => some (.error .error)
    | .espera => none
    | .datos bytes => (leerPiezas tabla sticks resto).map fun leido ↦ leido.map (bytes ++ ·)

/-- `mmu_leer`. -/
def mmuLeer (segmentMaxSize : UInt32) (tabla : List MemoryStick) (sticks : List CpuStick)
    (contexto : Contexto) (dirLogica tam : UInt32) : Option (Except ResultadoExecute (List UInt8)) :=
  match mmuTraducirDirLogica segmentMaxSize sticks contexto dirLogica tam with
  | none => some (.error .segFault)
  | some (_, piezas) => leerPiezas tabla sticks piezas

/-- The loop of `mmu_escribir` over the pieces, with `cpu_stick_escribir`: a stick acknowledges every
write. -/
def escribirPiezas (sticks : List CpuStick) :
    List TraduccionFisica → List MemoryStick → List UInt8 → ResultadoExecute × List MemoryStick
  | [], tabla, _ => (.continuar, tabla)
  | pieza :: resto, tabla, datos =>
    match sticks[pieza.stickIndex]? with
    | none => (.error, tabla)
    | some entrada =>
      if entrada.socket = -1 ∨ tabla[entrada.proceso]?.isNone then (.error, tabla)
      else
        escribirPiezas sticks resto (tabla.modify entrada.proceso fun stick ↦
          stick.manejarEscritura pieza.dirFisica pieza.bytesEnStick datos)
          (datos.drop pieza.bytesEnStick.toNat)

/-- `mmu_escribir`. -/
def mmuEscribir (segmentMaxSize : UInt32) (tabla : List MemoryStick) (sticks : List CpuStick)
    (contexto : Contexto) (dirLogica : UInt32) (datos : List UInt8) (tam : UInt32) :
    ResultadoExecute × List MemoryStick :=
  match mmuTraducirDirLogica segmentMaxSize sticks contexto dirLogica tam with
  | none => (.segFault, tabla)
  | some (_, piezas) => escribirPiezas sticks piezas tabla datos

/-! ## The CPU's pieces are Kernel Memory's requests -/

/-- The CPU is connected to the sticks of Kernel Memory, each under its base and size, in any order. -/
structure MismosSticks (sticks : List CpuStick) (tabla : List MemoryStick) : Prop where
  fiel : ∀ entrada ∈ sticks, ∃ stick, tabla[entrada.proceso]? = some stick ∧
    entrada.base = stick.baseFisica ∧ entrada.size = stick.tamanio ∧ entrada.socket ≠ -1
  todos : ∀ idx stick, tabla[idx]? = some stick → ∃ entrada ∈ sticks, entrada.proceso = idx

/-- The request that a piece stands for. -/
def TraduccionFisica.acceso (sticks : List CpuStick) (pieza : TraduccionFisica) : Option Acceso :=
  sticks[pieza.stickIndex]?.map fun entrada ↦
    ⟨entrada.proceso, pieza.dirFisica, pieza.bytesEnStick⟩

theorem cpuBuscar_eq_none {sticks : List CpuStick} {tabla : List MemoryStick}
    (hsticks : MismosSticks sticks tabla) {dir : UInt32}
    (h : cpuBuscarStickPorDir sticks dir = none) :
    conexionesBuscarStickPorDir tabla dir = none := by
  cases hbusca : conexionesBuscarStickPorDir tabla dir with
  | none => rfl
  | some idx =>
    obtain ⟨hlt, hsirve, _⟩ := List.findIdx?_eq_some_iff_getElem.mp hbusca
    obtain ⟨entrada, hentrada, hproceso⟩ :=
      hsticks.todos idx tabla[idx] (List.getElem?_eq_getElem hlt)
    obtain ⟨stick, hget, hbase, hsize, _⟩ := hsticks.fiel entrada hentrada
    rw [hproceso, List.getElem?_eq_getElem hlt] at hget
    obtain rfl := Option.some.inj hget
    have hno := List.findIdx?_eq_none_iff.mp h entrada hentrada
    simp only [decide_eq_true_eq] at hsirve
    rw [hbase, hsize, decide_eq_false_iff_not] at hno
    exact absurd hsirve.2 hno

section Piezas

variable {sticks : List CpuStick} {tabla : List MemoryStick} (hsticks : MismosSticks sticks tabla)
  (hbases : BasesAcumuladas 0 tabla) (hopen : Alcanzables tabla) (htotal : sumaSticks tabla < 2 ^ 32)
include hsticks hbases hopen htotal

/-- Both searches find the same stick. -/
theorem cpuBuscar_eq_some {dir : UInt32} {idx : ℕ} (h : cpuBuscarStickPorDir sticks dir = some idx) :
    ∃ entrada stick, sticks[idx]? = some entrada ∧ tabla[entrada.proceso]? = some stick ∧
      entrada.base = stick.baseFisica ∧ entrada.size = stick.tamanio ∧
      conexionesBuscarStickPorDir tabla dir = some entrada.proceso := by
  obtain ⟨hlt, hcubre, _⟩ := List.findIdx?_eq_some_iff_getElem.mp h
  obtain ⟨stick, hget, hbase, hsize, _⟩ := hsticks.fiel sticks[idx] (List.getElem_mem hlt)
  have habierto : 0 ≤ stick.outboundSocket := hopen stick (List.mem_of_getElem? hget)
  simp only [decide_eq_true_eq, hbase, hsize] at hcubre
  have hsirve : stick.Sirve dir := ⟨habierto, hcubre⟩
  refine ⟨sticks[idx], stick, List.getElem?_eq_getElem hlt, hget, hbase, hsize, ?_⟩
  rw [conexionesBuscarStickPorDir_eq]
  exact ubicar_of_cubre hbases htotal hget (MemoryStick.sirve_iff_cubre.mp hsirve)

/-- The pieces of the CPU are the requests of Kernel Memory, and there are pieces when Kernel Memory finds
a stick for every address. -/
theorem distribuir_accesos (pasos : ℕ) (dir tam : UInt32) :
    ((accesosIo pasos tabla dir tam).2 = false ∧ distribuir pasos sticks dir tam = none) ∨
      ((accesosIo pasos tabla dir tam).2 = true ∧ ∃ piezas, distribuir pasos sticks dir tam =
        some piezas ∧ piezas.map (TraduccionFisica.acceso sticks) =
          (accesosIo pasos tabla dir tam).1.map some) := by
  induction pasos generalizing dir tam with
  | zero => exact Or.inr ⟨rfl, [], rfl, rfl⟩
  | succ pasos ih =>
    unfold accesosIo distribuir
    by_cases hcero : tam = 0
    · rw [if_pos hcero, if_pos hcero]
      exact Or.inr ⟨rfl, [], rfl, rfl⟩
    · rw [if_neg hcero, if_neg hcero]
      cases hbusca : cpuBuscarStickPorDir sticks dir with
      | none =>
        have hkm := cpuBuscar_eq_none hsticks hbusca
        left
        simp only [siguienteAcceso, hkm, and_self]
      | some idx =>
        obtain ⟨entrada, stick, hentrada, hget, hbase, hsize, hkm⟩ :=
          cpuBuscar_eq_some hsticks hbases hopen htotal hbusca
        have hmayor : ∀ a b : UInt32, (if a < b then a else b) = if b > a then a else b :=
          fun _ _ ↦ rfl
        simp only [siguienteAcceso, hkm, hget, hentrada, hbase, hsize, hmayor]
        obtain ⟨hfalta, hnada⟩ | ⟨hcompleta, piezas, hpiezas, hmapa⟩ :=
          ih (dir + if stick.tamanio - (dir - stick.baseFisica) > tam then tam
              else stick.tamanio - (dir - stick.baseFisica))
            (tam - if stick.tamanio - (dir - stick.baseFisica) > tam then tam
              else stick.tamanio - (dir - stick.baseFisica))
        · exact Or.inl ⟨hfalta, by rw [hnada, Option.map_none]⟩
        · refine Or.inr ⟨hcompleta, _, by rw [hpiezas, Option.map_some], ?_⟩
          simp only [List.map_cons, hmapa, TraduccionFisica.acceso, hentrada, Option.map_some]

end Piezas

/-- Pieces that stand for answered requests read what these requests read. -/
theorem leerPiezas_eq {tabla : List MemoryStick} {sticks : List CpuStick}
    (hsockets : ∀ entrada ∈ sticks, entrada.socket ≠ -1) {piezas : List TraduccionFisica}
    {lista : List Acceso} (hmapa : piezas.map (TraduccionFisica.acceso sticks) = lista.map some)
    {datos : List UInt8} (hdatos : servirLecturas tabla lista = some datos) :
    leerPiezas tabla sticks piezas = some (.ok datos) := by
  induction piezas generalizing lista datos with
  | nil =>
    obtain rfl : lista = [] := List.map_eq_nil_iff.mp hmapa.symm
    obtain rfl := Option.some.inj hdatos
    rfl
  | cons pieza resto ih =>
    cases lista with
    | nil => cases hmapa
    | cons acceso accesos =>
      obtain ⟨hacceso, hresto⟩ := List.cons.inj hmapa
      obtain ⟨entrada, hentrada, rfl⟩ := Option.map_eq_some_iff.mp hacceso
      have hsocket := hsockets entrada (List.mem_of_getElem? hentrada)
      unfold servirLecturas at hdatos
      split at hdatos
      · cases hdatos
      · rename_i stick hget
        split at hdatos
        · cases hdatos
        · rename_i bytes hbytes
          obtain ⟨cola, hcola, rfl⟩ := Option.map_eq_some_iff.mp hdatos
          simp only [leerPiezas, cpuStickLeer, hentrada, if_neg hsocket, hget, hbytes,
            ih hresto hcola, Option.map_some]
          rfl

/-- Pieces that stand for requests inside the buffers write what these requests write. -/
theorem escribirPiezas_eq {tabla : List MemoryStick} {sticks : List CpuStick}
    (hsockets : ∀ entrada ∈ sticks, entrada.socket ≠ -1) {piezas : List TraduccionFisica}
    {lista : List Acceso} (hmapa : piezas.map (TraduccionFisica.acceso sticks) = lista.map some)
    (hdentro : ∀ acceso ∈ lista, acceso.stick < tabla.length) (datos : List UInt8) :
    escribirPiezas sticks piezas tabla datos = (.continuar, servirEscrituras tabla lista datos) := by
  induction piezas generalizing lista tabla datos with
  | nil =>
    obtain rfl : lista = [] := List.map_eq_nil_iff.mp hmapa.symm
    rfl
  | cons pieza resto ih =>
    cases lista with
    | nil => cases hmapa
    | cons acceso accesos =>
      obtain ⟨hacceso, hresto⟩ := List.cons.inj hmapa
      obtain ⟨hcabeza, hcola⟩ := List.forall_mem_cons.mp hdentro
      obtain ⟨entrada, hentrada, rfl⟩ := Option.map_eq_some_iff.mp hacceso
      have hsocket := hsockets entrada (List.mem_of_getElem? hentrada)
      have hesta : ¬ (entrada.socket = -1 ∨ tabla[entrada.proceso]?.isNone = true) := by
        rw [List.getElem?_eq_getElem hcabeza]
        simpa using hsocket
      simp only [escribirPiezas, hentrada, if_neg hesta]
      rw [ih hresto (by simpa using hcola)]
      rfl

end PlugAndPlay.Cpu
