import PlugAndPlay.Cpu.MemoriasPrivadasDatos

/-!
# Runs with private memories

Any run of requests to Kernel Memory, with the writes of the CPUs between them, beside the private memories of the
processes: the first refines the second. A process reads what it wrote, however the bytes got moved meanwhile.
-/

open PlugAndPlay.Library PrivateMemory

namespace PlugAndPlay.Memoria

open Red (Recepcion)

/-! ## The two levels side by side -/

/-- Kernel Memory with its devices, and what is known of the memory of every process. -/
structure Espejo where
  corrida : Corrida
  privadas : Memories ℤ UInt32 UInt8

/-- A request to Kernel Memory, or a write of a CPU. -/
inductive Suceso
  | pedido (op : Operacion)
  | guardar (pid : ℤ) (sticks : List Cpu.CpuStick) (contexto : Contexto) (dir tamanio : UInt32) (datos : List UInt8)

/-- What an operation does to the private memories, by its answer. -/
def Operacion.efecto (m : KernelMemory) (respuesta : List Mensaje) : Operacion → Option (Op ℤ UInt32 UInt8)
  | .solicitarSegmento pid id tamanio =>
    if respuesta.any (Mensaje.esSegmento id tamanio) then some (.make pid id tamanio.toNat) else none
  | .eliminarSegmento pid id => some (.discard pid id)
  | .finalizarProceso pid => some (.clear pid)
  | .escrituraMemoria pid dir tamanio datos =>
    if .ok .escrituraMemoria ∈ respuesta then some (m.escritura pid dir (datos.take tamanio.toNat)) else none
  | .registrarMemoryStick _ _ | .registrarSwap _ | .crearProceso _ _ | .suspenderProceso _ | .desSuspenderProceso _
  | .obtenerEspacioLibre | .lecturaMemoria _ _ _ => none

def aplicarEfecto (efecto : Option (Op ℤ UInt32 UInt8)) (privadas : Memories ℤ UInt32 UInt8) :
    Memories ℤ UInt32 UInt8 :=
  efecto.elim privadas fun op ↦ op.apply privadas

/-- The result of `mmu_escribir` of a CPU that is connected to the sticks of Kernel Memory. -/
def KernelMemory.guardar [Recepcion] (m : KernelMemory) (sticks : List Cpu.CpuStick) (contexto : Contexto)
    (dir tamanio : UInt32) (datos : List UInt8) : Option (Cpu.ResultadoExecute × List MemoryStick) :=
  Cpu.mmuEscribirRed m.config.segmentMaxSize.toUInt32 m.ram.tabla sticks contexto dir datos tamanio

/-- The result of its `mmu_leer`. -/
def KernelMemory.cargar [Recepcion] (m : KernelMemory) (sticks : List Cpu.CpuStick) (contexto : Contexto)
    (dir tamanio : UInt32) : Option (Except Cpu.ResultadoExecute (List UInt8)) :=
  Cpu.mmuLeerRed m.config.segmentMaxSize.toUInt32 m.ram.tabla sticks contexto dir tamanio

/-- What an event does to the private memories. -/
def Espejo.efecto [Recepcion] (qsort : Qsort) (s : Espejo) : Suceso → Option (Op ℤ UInt32 UInt8)
  | .pedido op => op.efecto s.corrida.memoria (atender qsort s.corrida.memoria op).1
  | .guardar pid sticks contexto dir tamanio datos =>
    if (s.corrida.memoria.guardar sticks contexto dir tamanio datos).any fun fin ↦ fin.1 = .continuar then
      some (s.corrida.memoria.escritura pid dir (datos.take tamanio.toNat))
    else none

def Corrida.conTabla (c : Corrida) (tabla : List MemoryStick) : Corrida :=
  { c with memoria := { c.memoria with ram := { c.memoria.ram with tabla := tabla } } }

/-- One event; a write of a CPU that has no end is not one. -/
def Espejo.paso [Recepcion] (qsort : Qsort) (s : Espejo) (suceso : Suceso) : Option Espejo :=
  let privadas := aplicarEfecto (s.efecto qsort suceso) s.privadas
  match suceso with
  | .pedido op => (s.corrida.paso qsort op).map fun corrida ↦ ⟨corrida, privadas⟩
  | .guardar _ sticks contexto dir tamanio datos =>
    (s.corrida.memoria.guardar sticks contexto dir tamanio datos).map fun fin ↦
      ⟨s.corrida.conTabla fin.2, privadas⟩

/-- The end of a request does not wrap. -/
def KernelMemory.SinVuelta (m : KernelMemory) (dir tamanio : UInt32) : Prop :=
  (dir % m.config.segmentMaxSize.toUInt32).toNat + tamanio.toNat < 2 ^ 32

instance (m : KernelMemory) (dir tamanio : UInt32) : Decidable (m.SinVuelta dir tamanio) :=
  inferInstanceAs (Decidable (_ < _))

/-- A CPU that runs a process has its current table, and the sticks of Kernel Memory. -/
structure CpuAlDia (c : Corrida) (pid : ℤ) (sticks : List Cpu.CpuStick) (contexto : Contexto) : Prop where
  activo : pid ∉ c.suspendidos
  segmentos : contexto.tablaSegmentos = c.memoria.segmentosDe pid
  sticks : Cpu.MismosSticks sticks c.memoria.ram.tabla

theorem mismosSticks_iff {sticks : List Cpu.CpuStick} {tabla : List MemoryStick} :
    Cpu.MismosSticks sticks tabla ↔
      (∀ entrada ∈ sticks, ∃ stick ∈ tabla[entrada.proceso]?,
        entrada.base = stick.baseFisica ∧ entrada.size = stick.tamanio ∧ entrada.socket ≠ -1) ∧
      ∀ idx < tabla.length, ∃ entrada ∈ sticks, entrada.proceso = idx := by
  constructor
  · intro h
    refine ⟨h.fiel, fun idx hidx ↦ ?_⟩
    exact h.todos idx _ (List.getElem?_eq_getElem hidx)
  · intro h
    refine ⟨h.1, fun idx stick hget ↦ ?_⟩
    exact h.2 idx (List.getElem?_eq_some_iff.mp hget).1

theorem cpuAlDia_iff {c : Corrida} {pid : ℤ} {sticks : List Cpu.CpuStick} {contexto : Contexto} :
    CpuAlDia c pid sticks contexto ↔ pid ∉ c.suspendidos ∧ contexto.tablaSegmentos = c.memoria.segmentosDe pid ∧
      (∀ entrada ∈ sticks, ∃ stick ∈ c.memoria.ram.tabla[entrada.proceso]?,
        entrada.base = stick.baseFisica ∧ entrada.size = stick.tamanio ∧ entrada.socket ≠ -1) ∧
      ∀ idx < c.memoria.ram.tabla.length, ∃ entrada ∈ sticks, entrada.proceso = idx := by
  rw [← mismosSticks_iff]
  exact ⟨fun h ↦ ⟨h.activo, h.segmentos, h.sticks⟩, fun h ↦ ⟨h.1, h.2.1, h.2.2⟩⟩

instance (c : Corrida) (pid : ℤ) (sticks : List Cpu.CpuStick) (contexto : Contexto) :
    Decidable (CpuAlDia c pid sticks contexto) := decidable_of_iff _ cpuAlDia_iff.symm

/-- The events of the runs. Connections to sticks open, and the last address of RAM has a successor of 32 bits;
the block counts of a suspension do not wrap, and a resumption leaves no bytes behind in RAM; no request wraps,
and a write brings the bytes it announces. -/
def Espejo.Fiable (s : Espejo) : Suceso → Prop
  | .pedido (.registrarMemoryStick stick outSock) =>
    sumaSticks s.corrida.memoria.ram.tabla + stick.tamanio.toNat < 2 ^ 32 - 1 ∧ 0 ≤ outSock
  | .pedido (.suspenderProceso pid) => s.corrida.memoria.SinDesbordes pid
  | .pedido (.desSuspenderProceso pid) =>
    ∀ seg ∈ s.corrida.memoria.segmentosDe pid, seg.Residente → seg.limite = 0
  | .pedido (.lecturaMemoria _ dir tamanio) => s.corrida.memoria.SinVuelta dir tamanio
  | .pedido (.escrituraMemoria _ dir tamanio datos) =>
    s.corrida.memoria.SinVuelta dir tamanio ∧ tamanio.toNat ≤ datos.length
  | .pedido _ => True
  | .guardar pid sticks contexto dir tamanio datos => CpuAlDia s.corrida pid sticks contexto ∧
    s.corrida.memoria.SinVuelta dir tamanio ∧ tamanio.toNat ≤ datos.length

instance (s : Espejo) : (suceso : Suceso) → Decidable (s.Fiable suceso)
  | .pedido (.registrarMemoryStick _ _) | .pedido (.escrituraMemoria _ _ _ _) => inferInstanceAs (Decidable (_ ∧ _))
  | .pedido (.suspenderProceso pid) => inferInstanceAs (Decidable (s.corrida.memoria.SinDesbordes pid))
  | .pedido (.desSuspenderProceso _) => 
    inferInstanceAs (Decidable (∀ seg ∈ s.corrida.memoria.segmentosDe _, seg.Residente → seg.limite = 0))
  | .pedido (.lecturaMemoria _ dir tamanio) => inferInstanceAs (Decidable (s.corrida.memoria.SinVuelta dir tamanio))
  | .pedido (.registrarSwap _) | .pedido (.crearProceso _ _) | .pedido (.solicitarSegmento _ _ _)
  | .pedido (.eliminarSegmento _ _) | .pedido (.finalizarProceso _) | .pedido .obtenerEspacioLibre =>
    inferInstanceAs (Decidable True)
  | .guardar _ _ _ _ _ _ => inferInstanceAs (Decidable (_ ∧ _ ∧ _))

/-- After `*_init`, with connections that do not break. -/
structure Espejo.Inicial (s : Espejo) : Prop where
  corrida : s.corrida.Inicial
  sinCortes : s.corrida.memoria.ram.cortes = []
  privadas : s.privadas = fun _ ↦ []

/-! ## The invariant -/

/-- The private memories are implemented. -/
structure Espejo.Fiel (s : Espejo) : Prop where
  reparte : Repartida True True [] s.corrida.memoria s.corrida.suspendidos
  uso : s.corrida.memoria.EnUso
  refleja : s.corrida.memoria.Reflejan s.privadas

theorem Espejo.Inicial.fiel {s : Espejo} (h : s.Inicial) : s.Fiel := by
  obtain ⟨hprocesos, hlibres, htabla, hswap, _⟩ := h.corrida
  refine ⟨Repartida.inicial hprocesos hlibres htabla, ⟨?_, ?_, ?_⟩, ?_⟩
  · rw [hswap]
    exact Swap.configurado_desconectado
  · rw [htabla]
    decide
  · refine ⟨?_, ?_, h.sinCortes⟩
    · rw [htabla]
      trivial
    · rw [htabla]
      intro stick hstick
      cases hstick
  · intro pid
    have hninguno : procesosBuscar s.corrida.memoria.procesos pid = none := by
      rw [hprocesos]
      rfl
    rw [segmentosDe_of_none hninguno, h.privadas]
    exact .nil

section

variable {qsort : Qsort} {c : Corrida} {s s' : Espejo} {privadas : Memories ℤ UInt32 UInt8}

/-- A request keeps what is known, in the memory it leaves. -/
theorem KernelMemory.Reflejan.atender {op : Operacion} (h : c.memoria.Reflejan privadas) (qsort : Qsort)
    (hrep : Repartida True True [] c.memoria c.suspendidos) (huso : c.memoria.EnUso) (hpide : c.Pide op)
    (hfiable : Espejo.Fiable ⟨c, privadas⟩ (.pedido op)) :
    (atender qsort c.memoria op).2.EnUso ∧ (atender qsort c.memoria op).2.Reflejan
      (aplicarEfecto (op.efecto c.memoria (atender qsort c.memoria op).1) privadas) := by
  cases op with
  | registrarMemoryStick stick outSock =>
    exact ⟨huso.registrarMemoryStick hfiable.1 hfiable.2, h.registrarMemoryStick huso hrep stick outSock⟩
  | registrarSwap nuevo => exact ⟨huso.registrarSwap nuevo, h.registrarSwap huso hpide _⟩
  | crearProceso pid instrucciones => exact ⟨huso.congr rfl rfl, h.crearProceso pid instrucciones⟩
  | solicitarSegmento pid id tamanio =>
    have hsolicita := h.solicitar huso hrep qsort pid id tamanio
    refine ⟨hsolicita.1, ?_⟩
    have hrefleja := hsolicita.2
    show (manejarSolicitarSegmento qsort c.memoria pid id tamanio).2.Reflejan (aplicarEfecto
      (if (manejarSolicitarSegmento qsort c.memoria pid id tamanio).1.any (Mensaje.esSegmento id tamanio) then
        some (.make pid id tamanio.toNat) else none) privadas)
    by_cases hes : (manejarSolicitarSegmento qsort c.memoria pid id tamanio).1.any (Mensaje.esSegmento id tamanio)
    · rw [if_pos hes] at hrefleja ⊢
      exact hrefleja
    · rw [if_neg hes] at hrefleja ⊢
      exact hrefleja
  | eliminarSegmento pid id =>
    refine ⟨huso.congr ?_ (swap_manejarEliminarSegmento _ _ _), h.eliminar pid id⟩
    exact ram_manejarEliminarSegmento _ _ _
  | finalizarProceso pid =>
    refine ⟨huso.congr ?_ (swap_manejarFinalizarProceso _ _), h.finalizar hrep pid⟩
    exact ram_manejarFinalizarProceso _ _
  | suspenderProceso pid =>
    simp only [Memoria.atender, manejarSuspenderProceso_snd]
    exact h.suspender huso hrep Prod.mk.eta.symm hpide hfiable
  | desSuspenderProceso pid =>
    simp only [Memoria.atender, manejarDesSuspenderProceso_snd]
    refine h.desSuspender huso hrep Prod.mk.eta.symm ?_ hfiable
    rcases hpide with hfin | ⟨_, hfin⟩
    · rw [hfin]
      rintro ⟨⟩
    · exact hfin
  | obtenerEspacioLibre => exact ⟨huso, h⟩
  | lecturaMemoria pid dir tamanio =>
    rcases manejarLecturaMemoria_alcanza pid hrep huso hfiable with ⟨seg, _, hlee⟩ | ⟨_, hlee⟩
    · simp only [Memoria.atender, hlee]
      exact ⟨huso, h⟩
    · simp only [Memoria.atender, hlee]
      exact ⟨huso, h⟩
  | escrituraMemoria pid dir tamanio datos =>
    rcases manejarEscrituraMemoria_alcanza pid hrep huso hfiable.1 hfiable.2 with
      ⟨seg, ram, halcanza, hescribe, hescrita⟩ | ⟨_, hescribe⟩
    · simp only [Memoria.atender, hescribe, Operacion.efecto, List.mem_singleton, if_true]
      refine ⟨⟨huso.swap, ?_, hescrita.sana huso.sana⟩, ?_⟩
      · rw [hescrita.mismaTabla.sumaSticks]
        exact huso.total
      · exact h.escribir huso hrep halcanza (List.length_take_le _ _) rfl rfl (funext hescrita.plano)
    · simp only [Memoria.atender, hescribe, Operacion.efecto]
      rw [if_neg (by decide)]
      exact ⟨huso, h⟩

/-- A write of a CPU. -/
theorem Espejo.Fiel.guardar [Recepcion] (h : s.Fiel) {pid : ℤ} {sticks : List Cpu.CpuStick} {contexto : Contexto}
    {dir tamanio : UInt32} {datos : List UInt8} {resultado : Cpu.ResultadoExecute} {tabla : List MemoryStick}
    (hfiable : s.Fiable (.guardar pid sticks contexto dir tamanio datos))
    (hguarda : s.corrida.memoria.guardar sticks contexto dir tamanio datos = some (resultado, tabla)) :
    Espejo.Fiel ⟨s.corrida.conTabla tabla,
      aplicarEfecto (s.efecto qsort (.guardar pid sticks contexto dir tamanio datos)) s.privadas⟩ := by
  obtain ⟨haldia, hsin, hdatos⟩ := hfiable
  have hefecto : s.efecto qsort (.guardar pid sticks contexto dir tamanio datos) =
      if resultado = .continuar then some (s.corrida.memoria.escritura pid dir (datos.take tamanio.toNat))
      else none := by
    simp [Espejo.efecto, hguarda]
  rw [hefecto]
  rcases mmuEscribirRed_alcanza h.reparte h.uso haldia.activo haldia.sticks haldia.segmentos hsin hdatos hguarda with
    ⟨seg, halcanza, rfl, hmisma, hplano⟩ | ⟨_, rfl, rfl⟩
  · have hdisp : SoloDispositivos s.corrida.memoria (s.corrida.conTabla tabla).memoria :=
      ⟨rfl, rfl, rfl, hmisma, rfl⟩
    refine ⟨h.reparte.dispositivos hdisp, ⟨h.uso.swap, ?_, ?_⟩, ?_⟩
    · show sumaSticks tabla < 2 ^ 32 - 1
      rw [hmisma.sumaSticks]
      exact h.uso.total
    · exact ⟨(hmisma.basesAcumuladas 0).mpr h.uso.sana.bases, hmisma.alcanzables.mpr h.uso.sana.abiertos,
        h.uso.sana.sinCortes⟩
    · exact h.refleja.escribir h.uso h.reparte halcanza (List.length_take_le _ _) rfl rfl hplano
  · exact ⟨h.reparte, h.uso, h.refleja⟩

/-- One event. -/
theorem Espejo.Fiel.paso [Recepcion] {suceso : Suceso} (h : s.Fiel) (hfiable : s.Fiable suceso)
    (hpaso : s.paso qsort suceso = some s') : s'.Fiel ∧ s'.corrida.memoria.config = s.corrida.memoria.config := by
  cases suceso with
  | pedido op =>
    obtain ⟨c', hc', rfl⟩ := Option.map_eq_some_iff.mp hpaso
    obtain ⟨hpide, rfl⟩ := Corrida.paso_eq_some hc'
    obtain ⟨huso, hrefleja⟩ := h.refleja.atender qsort h.reparte h.uso hpide hfiable
    exact ⟨⟨h.reparte.paso (Or.inl trivial) (Or.inl trivial) hc', huso, hrefleja⟩, (h.reparte.cambiaForma hc').1⟩
  | guardar pid sticks contexto dir tamanio datos =>
    obtain ⟨⟨resultado, tabla⟩, hguarda, rfl⟩ := Option.map_eq_some_iff.mp hpaso
    exact ⟨h.guardar hfiable hguarda, rfl⟩

theorem Espejo.fiel_alcanzable [Recepcion]
    (hs : Reachable (Espejo.paso qsort) Espejo.Inicial Espejo.Fiable s) : s.Fiel :=
  hs.invariant (P := Espejo.Fiel) (fun _ hinicial ↦ hinicial.fiel)
    fun _ _ _ hfiel hfiable hpaso ↦ (hfiel.paso hfiable hpaso).1

end

/-! ## What a process reads -/

/-- The bytes are what is known of them. -/
def Conocida (conocidos : Option (List (Option UInt8))) (datos : List UInt8) : Prop :=
  ∃ cells, conocidos = some cells ∧ Agrees cells datos

/-- The private memories as every reader sees them. Bytes that Kernel Memory returns are what is known of them,
and it refuses an active process only what is in none of its segments; and so does a CPU that runs the process. -/
structure Espejo.Cumple [Recepcion] (s : Espejo) : Prop where
  lectura : ∀ pid dir tamanio, s.corrida.memoria.SinVuelta dir tamanio →
    (∀ datos, (manejarLecturaMemoria s.corrida.memoria pid dir tamanio).1 = [.lecturaMemoria datos] →
      Conocida (s.corrida.memoria.conocidos s.privadas pid dir tamanio.toNat) datos) ∧
    (pid ∉ s.corrida.suspendidos →
      ((manejarLecturaMemoria s.corrida.memoria pid dir tamanio).1 = [.ok .segmentationFault] ↔
        s.corrida.memoria.conocidos s.privadas pid dir tamanio.toNat = none))
  cpu : ∀ pid sticks contexto dir tamanio, CpuAlDia s.corrida pid sticks contexto →
    s.corrida.memoria.SinVuelta dir tamanio →
    (∀ datos, s.corrida.memoria.cargar sticks contexto dir tamanio = some (.ok datos) →
      Conocida (s.corrida.memoria.conocidos s.privadas pid dir tamanio.toNat) datos) ∧
    (s.corrida.memoria.cargar sticks contexto dir tamanio = some (.error .segFault) ↔
      s.corrida.memoria.conocidos s.privadas pid dir tamanio.toNat = none) ∧
    (tamanio.toNat ≤ Recepcion.capacidad → s.corrida.memoria.conocidos s.privadas pid dir tamanio.toNat ≠ none →
      ∃ datos, s.corrida.memoria.cargar sticks contexto dir tamanio = some (.ok datos))

section

variable {qsort : Qsort} {s : Espejo} {pid : ℤ} {dir tamanio : UInt32}

/-- What is found where a request reaches is what is known of it. -/
theorem Espejo.Fiel.conocida (h : s.Fiel) {seg : Segmento} (halcanza : Alcanza s.corrida.memoria pid dir tamanio seg) :
    Conocida (s.corrida.memoria.conocidos s.privadas pid dir tamanio.toNat)
      (ByteMemory.slice (plano s.corrida.memoria.ram.tabla)
        (seg.base.toNat + (dir % s.corrida.memoria.config.segmentMaxSize.toUInt32).toNat) tamanio.toNat) := by
  obtain ⟨region, hrefleja, hconocidos⟩ := h.refleja.conocidos_alcanza halcanza
  refine ⟨_, hconocidos, (hrefleja.enRam halcanza.residente).agrees ?_⟩
  rw [hrefleja.tamanio]
  exact halcanza.cabe

/-- Nothing is known of what an active process cannot reach. -/
theorem Espejo.Fiel.conocidos_eq_none (h : s.Fiel) (hno : pid ∉ s.corrida.suspendidos)
    (hninguno : ∀ seg, ¬ Alcanza s.corrida.memoria pid dir tamanio seg) :
    s.corrida.memoria.conocidos s.privadas pid dir tamanio.toNat = none := by
  apply Option.not_isSome_iff_eq_none.mp
  intro hsome
  obtain ⟨seg, halcanza⟩ := h.refleja.alcanza_of_conocidos h.reparte h.uso hno hsome
  exact hninguno seg halcanza

theorem Conocida.ne_none {conocidos : Option (List (Option UInt8))} {datos : List UInt8}
    (h : Conocida conocidos datos) : conocidos ≠ none := by
  obtain ⟨cells, hcells, _⟩ := h
  rw [hcells]
  exact Option.some_ne_none _

theorem Espejo.Fiel.cumple [Recepcion] (h : s.Fiel) : s.Cumple := by
  constructor
  · intro pid dir tamanio hsin
    rcases manejarLecturaMemoria_alcanza pid h.reparte h.uso hsin with
      ⟨seg, halcanza, hlee⟩ | ⟨hninguno, hlee⟩
    · have hconocida := h.conocida halcanza
      rw [hlee]
      constructor
      · intro datos hdatos
        injection hdatos with hdatos
        injection hdatos with hdatos
        rw [← hdatos]
        exact hconocida
      · refine fun _ ↦ ⟨fun hfalla ↦ ?_, fun hnone ↦ absurd hnone hconocida.ne_none⟩
        cases hfalla
    · rw [hlee]
      constructor
      · intro datos hdatos
        cases hdatos
      · exact fun hno ↦ ⟨fun _ ↦ h.conocidos_eq_none hno hninguno, fun _ ↦ rfl⟩
  · intro pid sticks contexto dir tamanio haldia hsin
    rcases mmuLeerRed_alcanza h.reparte h.uso haldia.activo haldia.sticks haldia.segmentos hsin with
      ⟨seg, dirFisica, halcanza, hlee⟩ | ⟨hninguno, hlee⟩
    · have hconocida := h.conocida halcanza
      unfold KernelMemory.cargar
      rw [hlee]
      refine ⟨fun datos hdatos ↦ ?_, ⟨fun hfalla ↦ ?_, fun hnone ↦ absurd hnone hconocida.ne_none⟩,
        fun hcorta _ ↦ ?_⟩
      · rw [Cpu.finDeLectura_eq_ok hdatos]
        exact hconocida
      · exact absurd hfalla (Cpu.finDeLectura_ne_segFault _ _)
      · exact ⟨_, Cpu.finDeLectura_of_llega _ (lecturaLlega_iff.mp (lecturaLlega_of_corta hcorta))⟩
    · unfold KernelMemory.cargar
      rw [hlee]
      have hnone := h.conocidos_eq_none haldia.activo hninguno
      exact ⟨nofun, ⟨fun _ ↦ hnone, fun _ ↦ rfl⟩, fun _ hno ↦ absurd hnone hno⟩

end

section Muestra

local instance recepcionDelEspejo : Recepcion := Red.recepcionTipica

def espejoInicial : Espejo := ⟨corridaInicial, fun _ ↦ []⟩

theorem espejoInicial_inicial : espejoInicial.Inicial := ⟨corridaInicial_inicial, rfl, rfl⟩

/-- A CPU connected to the one stick of eight bytes. -/
def cpuDeUnStick : List Cpu.CpuStick := [⟨7, 0, 8, 0⟩]

/-- A process with three bytes next to another one. -/
def sucesosDosProcesos : List Suceso :=
  [.pedido (.registrarMemoryStick stickDeOcho 5), .pedido (.registrarSwap swapDeOcho), .pedido (.crearProceso 1 []),
    .pedido (.crearProceso 2 []), .pedido (.solicitarSegmento 1 0 3)]

end Muestra

/-! ## What was written is read -/

/-- The event neither deletes the segment of the address nor writes any of the bytes there. -/
def Espejo.Respeta [Recepcion] (qsort : Qsort) (pid : ℤ) (dir : UInt32) (cantidad : ℕ) (s : Espejo)
    (suceso : Suceso) : Prop :=
  ∀ op ∈ s.efecto qsort suceso, op.Spares pid (dir / s.corrida.memoria.config.segmentMaxSize.toUInt32)
    (dir % s.corrida.memoria.config.segmentMaxSize.toUInt32).toNat cantidad

instance [Recepcion] (qsort : Qsort) (pid : ℤ) (dir : UInt32) (cantidad : ℕ) (s : Espejo) (suceso : Suceso) :
    Decidable (s.Respeta qsort pid dir cantidad suceso) :=
  inferInstanceAs (Decidable (∀ op ∈ _, Op.Spares _ _ _ _ op))

section

variable {qsort : Qsort} {s s' : Espejo} {suceso : Suceso} {pid : ℤ} {id dir tamanio : UInt32} {offset : ℕ}
  {datos : List UInt8}

theorem Espejo.paso_privadas [Recepcion] (hpaso : s.paso qsort suceso = some s') :
    s'.privadas = aplicarEfecto (s.efecto qsort suceso) s.privadas := by
  cases suceso with
  | pedido op =>
    obtain ⟨_, _, rfl⟩ := Option.map_eq_some_iff.mp hpaso
    rfl
  | guardar pid sticks contexto dir tamanio datos =>
    obtain ⟨_, _, rfl⟩ := Option.map_eq_some_iff.mp hpaso
    rfl

/-- The bytes that a write stores lie in a segment of the process. -/
theorem Espejo.Fiel.escrita [Recepcion] (h : s.Fiel) (hfiable : s.Fiable suceso)
    (hescribe : s.efecto qsort suceso = some (.store pid id offset datos)) :
    (load s.privadas pid id offset datos.length).isSome ∧ offset + datos.length < 2 ^ 32 := by
  have hllega : ∀ {dir tamanio : UInt32} {todos : List UInt8} {seg : Segmento},
      s.corrida.memoria.escritura pid dir (todos.take tamanio.toNat) = .store pid id offset datos →
      tamanio.toNat ≤ todos.length → s.corrida.memoria.SinVuelta dir tamanio →
      Alcanza s.corrida.memoria pid dir tamanio seg →
      (load s.privadas pid id offset datos.length).isSome ∧ offset + datos.length < 2 ^ 32 := by
    intro dir tamanio todos seg heq htodos hsin halcanza
    obtain ⟨rfl, rfl, rfl⟩ : _ ∧ _ ∧ _ := by simpa [KernelMemory.escritura] using heq
    obtain ⟨_, _, hconocidos⟩ := h.refleja.conocidos_alcanza halcanza
    rw [List.length_take_of_le htodos]
    exact ⟨Option.isSome_iff_exists.mpr ⟨_, hconocidos⟩, hsin⟩
  cases suceso with
  | pedido op =>
    cases op with
    | escrituraMemoria otro dir tamanio todos =>
      obtain ⟨hsin, htodos⟩ := hfiable
      simp only [Espejo.efecto, Operacion.efecto] at hescribe
      split at hescribe
      · rename_i hmem
        have hstore := Option.some.inj hescribe
        obtain rfl : otro = pid := (Op.store.inj hstore).1
        simp only [atender] at hmem
        rcases manejarEscrituraMemoria_alcanza otro h.reparte h.uso hsin htodos with
          ⟨seg, ram, halcanza, _⟩ | ⟨_, heq⟩
        · exact hllega hstore htodos hsin halcanza
        · rw [heq] at hmem
          cases List.mem_singleton.mp hmem
      · cases hescribe
    | solicitarSegmento otro nuevo tamanio =>
      simp only [Espejo.efecto, Operacion.efecto] at hescribe
      split at hescribe <;> cases hescribe
    | _ => cases hescribe
  | guardar otro sticks contexto dir tamanio todos =>
    obtain ⟨haldia, hsin, htodos⟩ := hfiable
    simp only [Espejo.efecto] at hescribe
    split at hescribe
    · rename_i hcontinua
      obtain ⟨⟨resultado, tabla⟩, hguarda, hfin⟩ := (Option.any_eq_true _ _).mp hcontinua
      have hstore := Option.some.inj hescribe
      obtain rfl : otro = pid := (Op.store.inj hstore).1
      rcases mmuEscribirRed_alcanza h.reparte h.uso haldia.activo haldia.sticks haldia.segmentos hsin htodos
        hguarda with ⟨seg, halcanza, _⟩ | ⟨_, rfl, _⟩
      · exact hllega hstore htodos hsin halcanza
      · cases of_decide_eq_true hfin
    · cases hescribe

/-- After a write, what was written is known; and it stays known while the events respect it. -/
theorem Espejo.Fiel.sabe [Recepcion] (h : s.Fiel) (hfiable : s.Fiable suceso)
    (hescribe : s.efecto qsort suceso = some (s.corrida.memoria.escritura pid dir datos))
    (hpaso : s.paso qsort suceso = some s') :
    s'.corrida.memoria.conocidos s'.privadas pid dir datos.length = some (datos.map some) := by
  obtain ⟨cells, hcells⟩ := Option.isSome_iff_exists.mp (h.escrita hfiable hescribe).1
  rw [KernelMemory.conocidos, (h.paso hfiable hpaso).2, Espejo.paso_privadas hpaso, hescribe]
  exact load_store hcells

theorem Espejo.Fiel.recuerda [Recepcion] (h : s.Fiel) (hfiable : s.Fiable suceso)
    (hrespeta : s.Respeta qsort pid dir datos.length suceso)
    (hsabe : s.corrida.memoria.conocidos s.privadas pid dir datos.length = some (datos.map some))
    (hpaso : s.paso qsort suceso = some s') :
    s'.corrida.memoria.conocidos s'.privadas pid dir datos.length = some (datos.map some) := by
  rw [KernelMemory.conocidos, (h.paso hfiable hpaso).2, Espejo.paso_privadas hpaso]
  cases hefecto : s.efecto qsort suceso with
  | none => exact hsabe
  | some op => exact (hrespeta op hefecto).load_apply hsabe

/-- Whoever reads bytes of which everything is known reads just them. -/
structure Espejo.Lee [Recepcion] (s : Espejo) (pid : ℤ) (dir tamanio : UInt32) (datos : List UInt8) : Prop where
  memoria : ∀ leidos, (manejarLecturaMemoria s.corrida.memoria pid dir tamanio).1 = [.lecturaMemoria leidos] →
    leidos = datos
  activo : pid ∉ s.corrida.suspendidos →
    (manejarLecturaMemoria s.corrida.memoria pid dir tamanio).1 = [.lecturaMemoria datos]
  cpu : ∀ sticks contexto, CpuAlDia s.corrida pid sticks contexto →
    s.corrida.memoria.cargar sticks contexto dir tamanio ≠ some (.error .segFault) ∧
      (∀ leidos, s.corrida.memoria.cargar sticks contexto dir tamanio = some (.ok leidos) → leidos = datos) ∧
      (tamanio.toNat ≤ Recepcion.capacidad →
        s.corrida.memoria.cargar sticks contexto dir tamanio = some (.ok datos))

theorem Espejo.Fiel.lee [Recepcion] (h : s.Fiel) (hsin : s.corrida.memoria.SinVuelta dir tamanio)
    (hsabe : s.corrida.memoria.conocidos s.privadas pid dir tamanio.toNat = some (datos.map some)) :
    s.Lee pid dir tamanio datos := by
  have hcumple := h.cumple
  have hconocida : ∀ leidos, Conocida (s.corrida.memoria.conocidos s.privadas pid dir tamanio.toNat) leidos →
      leidos = datos := by
    rintro leidos ⟨cells, hcells, hagrees⟩
    rw [hsabe] at hcells
    rw [← Option.some.inj hcells] at hagrees
    exact hagrees.eq
  have hno : s.corrida.memoria.conocidos s.privadas pid dir tamanio.toNat ≠ none := by
    rw [hsabe]
    exact Option.some_ne_none _
  obtain ⟨hdatos, hfalla⟩ := hcumple.lectura pid dir tamanio hsin
  refine ⟨fun leidos hleidos ↦ hconocida leidos (hdatos leidos hleidos), fun hactivo ↦ ?_, ?_⟩
  · rcases manejarLecturaMemoria_alcanza pid h.reparte h.uso hsin with ⟨seg, _, hlee⟩ | ⟨_, hlee⟩
    · rw [hlee] at hdatos ⊢
      rw [hconocida _ (hdatos _ rfl)]
    · rw [hlee] at hfalla
      exact absurd ((hfalla hactivo).mp rfl) hno
  · intro sticks contexto haldia
    obtain ⟨hleidos, hrechaza, htermina⟩ := hcumple.cpu pid sticks contexto dir tamanio haldia hsin
    refine ⟨fun hfalla ↦ hno (hrechaza.mp hfalla), fun leidos heq ↦ hconocida leidos (hleidos leidos heq),
      fun hcorta ↦ ?_⟩
    obtain ⟨leidos, heq⟩ := htermina hcorta hno
    rw [heq, hconocida leidos (hleidos leidos heq)]

end

section Muestra

local instance recepcionDelReanudado : Recepcion := Red.recepcionTipica

end Muestra

end PlugAndPlay.Memoria
