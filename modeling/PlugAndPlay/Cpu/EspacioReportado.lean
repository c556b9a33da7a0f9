import PlugAndPlay.Cpu.DosCaminos
import PlugAndPlay.Memoria.DireccionesSticks
import PlugAndPlay.Memoria.EspacioDirecciones

/-!
# The address space that the handlers report

`SOLICITAR_SEGMENTO` answers with a segment and `ELIMINAR_SEGMENTO` confirms, whatever id they are given. What
they say is true of the address space, as Kernel Memory and the CPUs translate, exactly where the id is the
segment's own and its addresses are 32-bit ones.
-/

open PlugAndPlay.Library

namespace PlugAndPlay.Cpu

open Memoria

/-! ## The translation of the CPUs -/

/-- The physical address that `mmu_traducir_dir_logica` has for one byte, with the table of the process. -/
def vistaCpu (m : KernelMemory) (sticks : List CpuStick) (pid : ℤ) (dir : UInt32) : Option UInt32 :=
  if m.config.segmentMaxSize.toUInt32 = 0 then none
  else (procesosBuscar m.procesos pid).bind fun p ↦
    (mmuTraducirDirLogica m.config.segmentMaxSize.toUInt32 sticks ⟨p.pid, p.registros, p.segmentos⟩ dir 1).map
      Prod.fst

/-- A CPU that knows all sticks has a piece for every byte below the sum of the sizes. -/
theorem exists_distribuir {sticks : List CpuStick} {tabla : List MemoryStick} (hsticks : MismosSticks sticks tabla)
    (hbases : BasesAcumuladas 0 tabla) (hsuma : sumaSticks tabla < 2 ^ 32) {dir : UInt32}
    (hdir : dir.toNat < sumaSticks tabla) : ∃ piezas, distribuir (1 : UInt32).toNat sticks dir 1 = some piezas := by
  obtain ⟨stick, hstick, hdesde, hhasta⟩ := exists_rango hbases hsuma hdir
  have hfin := (packed_rangos hbases hsuma).within stick.rango (List.mem_map_of_mem hstick)
  obtain ⟨i, hi⟩ := List.mem_iff_getElem?.mp hstick
  obtain ⟨entrada, hentrada, hproceso⟩ := hsticks.todos i stick hi
  obtain ⟨otro, hotro, hbase, hsize, _⟩ := hsticks.fiel entrada hentrada
  rw [hproceso, hi] at hotro
  obtain rfl := Option.some.inj hotro
  have hcubre : entrada.base ≤ dir ∧ dir < entrada.base + entrada.size := by
    simp only [MemoryStick.rango] at hdesde hhasta hfin
    rw [hbase, hsize, UInt32.le_iff_toNat_le, UInt32.lt_iff_toNat_lt, toNat_add_of_lt (by omega)]
    exact ⟨hdesde, hhasta⟩
  have hbusca : (cpuBuscarStickPorDir sticks dir).isSome := by
    rw [cpuBuscarStickPorDir, List.findIdx?_isSome]
    exact List.any_eq_true.mpr ⟨entrada, hentrada, decide_eq_true hcubre⟩
  obtain ⟨idx, hidx⟩ := Option.isSome_iff_exists.mp hbusca
  obtain ⟨hlt, _⟩ := List.findIdx?_eq_some_iff_getElem.mp hidx
  have huno : ¬ (1 : UInt32) = 0 := by decide
  show ∃ piezas, distribuir 1 sticks dir 1 = some piezas
  simp only [distribuir, if_neg huno, hidx, List.getElem?_eq_getElem hlt, Option.map_some]
  exact ⟨_, rfl⟩

/-- For the processes that are not suspended, the CPUs translate as Kernel Memory does. -/
def TraducenIgual (suspendidos : List ℤ) (m : KernelMemory) : Prop :=
  ∀ sticks, MismosSticks sticks m.ram.tabla → ∀ pid ∉ suspendidos, ∀ dir,
    vistaCpu m sticks pid dir = m.vista pid dir

theorem traducenIgual {fugas aMedias : Prop} {m : KernelMemory} {suspendidos : List ℤ}
    (h : Repartida fugas aMedias [] m suspendidos) : TraducenIgual suspendidos m := by
  intro sticks hsticks pid hactivo dir
  rw [vistaCpu, KernelMemory.vista]
  by_cases hmax : m.config.segmentMaxSize.toUInt32 = 0
  · rw [if_pos hmax, if_pos hmax]
  rw [if_neg hmax, if_neg hmax]
  cases hp : procesosBuscar m.procesos pid with
  | none => rfl
  | some p =>
    simp only [Option.bind_some, mmuTraducirDirLogica, mmuTraducir, buscarSegmento, traducirDirLogica]
    cases hbusca : p.segmentos.find? fun s ↦ s.id = dir / m.config.segmentMaxSize.toUInt32 with
    | none => rfl
    | some seg =>
      have hdentro := h.segmentos_le hp hactivo seg (List.mem_of_find?_eq_some hbusca)
      have hresto := (dir_partes hmax dir).2
      have hlt := (m.config.segmentMaxSize.toUInt32).toNat_lt
      have huno : (1 : UInt32).toNat = 1 := rfl
      have hsuma := h.suma
      generalize dir % m.config.segmentMaxSize.toUInt32 = desplazamiento at hresto ⊢
      by_cases hpasa : desplazamiento + 1 > seg.limite
      · simp only [if_pos hpasa]
        rfl
      · have hcabe := UInt32.le_iff_toNat_le.mp (UInt32.not_lt.mp hpasa)
        rw [toNat_add_of_lt (by rw [huno]; omega), huno] at hcabe
        have hres : ¬ seg.base = sinBase := by
          intro hbase
          rw [hbase, toNat_sinBase] at hdentro
          omega
        have hfisica : (seg.base + desplazamiento).toNat = seg.base.toNat + desplazamiento.toNat :=
          toNat_add_of_lt (by omega)
        have hpieza : (seg.base + desplazamiento).toNat < sumaSticks m.ram.tabla := by omega
        obtain ⟨piezas, hpiezas⟩ := exists_distribuir hsticks h.bases h.suma hpieza
        simp only [if_neg hpasa, if_neg hres, hpiezas, Option.map_some]

/-! ## Runs -/

/-- What the handlers say of the address space of a process, and when it is true. -/
structure EspacioReportado (qsort : Qsort) (c : Corrida) (pid : ℤ) : Prop where
  cpus : TraducenIgual c.suspendidos c.memoria
  solicitar : ∀ id base tamanio : UInt32, 1 ≤ tamanio.toNat →
    .solicitarSegmento id base tamanio ∈ (manejarSolicitarSegmento qsort c.memoria pid id tamanio).1 →
      (Amplia c.memoria (manejarSolicitarSegmento qsort c.memoria pid id tamanio).2 pid id base tamanio ↔
        c.memoria.segmentoDe pid id = none ∧
          id.toNat * c.memoria.config.segmentMaxSize.toUInt32.toNat + tamanio.toNat ≤ 2 ^ 32)
  eliminar : ∀ id seg, c.memoria.segmentoDe pid id = some seg →
    (Retira c.memoria (manejarEliminarSegmento c.memoria pid id).2 pid id seg.limite ↔
      (seg.limite = 0 ∨
          id.toNat * c.memoria.config.segmentMaxSize.toUInt32.toNat + seg.limite.toNat ≤ 2 ^ 32) ∧
        ∀ otro ∈ c.memoria.segundoDe pid id,
          otro.limite = 0 ∨ 2 ^ 32 ≤ id.toNat * c.memoria.config.segmentMaxSize.toUInt32.toNat)

/-- In every state of every run, a granted request extends the address space of a process that is not suspended
as reported exactly when no segment of the process has the id yet and all its addresses are 32-bit ones; and a
deletion takes exactly the addresses of the segment away unless they are no 32-bit ones or a second segment
with the id comes to light. In a run whose granted requests all extend the address space so, every deletion
takes its addresses away. -/
theorem espacio_reportado (qsort : Qsort) :
    (∀ c, Reachable (Corrida.paso qsort) Corrida.Inicial (fun _ _ ↦ True) c → ∀ pid ∉ c.suspendidos,
      EspacioReportado qsort c pid) ∧
    ∀ c, Reachable (Corrida.paso qsort) Corrida.Inicial (Corrida.IdsPropios qsort) c → ∀ pid ∉ c.suspendidos,
      ∀ id seg, c.memoria.segmentoDe pid id = some seg →
        Retira c.memoria (manejarEliminarSegmento c.memoria pid id).2 pid id seg.limite := by
  constructor
  · intro c hc pid hactivo
    obtain ⟨h, _⟩ := Repartida.alcanzable (fun _ _ _ ↦ Or.inl trivial) hc
    exact
      { cpus := traducenIgual h
        solicitar := fun id base tamanio htamanio hconcede ↦
          (h.concedida qsort hconcede).amplia_iff h
            (h.solicitar (fun hsusp ↦ absurd hsusp hactivo) qsort id tamanio) htamanio
        eliminar := fun id seg hseg ↦ h.retira_iff hactivo (enLimite_alcanzable hc) hseg }
  · intro c hc pid hactivo id seg hseg
    obtain ⟨h, _⟩ := Repartida.alcanzable (fun _ _ _ ↦ Or.inl trivial) hc
    have hpropias := formasPropias_alcanzable hc
    apply (h.retira_iff hactivo (enLimite_alcanzable hc) hseg).mpr
    constructor
    · obtain ⟨p, hp, hfind⟩ := Option.bind_eq_some_iff.mp hseg
      have hcabe := (hpropias p (procesosBuscar_mem hp)).2 seg.forma
        (List.mem_map_of_mem (List.mem_of_find?_eq_some hfind))
      have hid : seg.id = id := by simpa using List.find?_some hfind
      rw [← hid]
      exact Or.inr hcabe
    · rw [segundoDe_eq_none hpropias]
      exact nofun

/-- Six free bytes in two blocks: a request for five compacts the memory and moves the bytes of the other
process, whose segment is deleted. -/
theorem espacio_reportado_fragmentado : ∃ c : Corrida,
    segmentoEn c.memoria.procesos 1 0 = some ⟨0, 3, 2, 0⟩ ∧
      Amplia c.memoria (manejarSolicitarSegmento .insercion c.memoria 1 1 5).2 1 1 2 5 ∧
        Retira c.memoria (manejarEliminarSegmento c.memoria 2 0).2 2 0 2 := by
  have hinicio : Reachable (Corrida.paso .insercion) Corrida.Inicial (fun _ _ ↦ True) corridaInicial :=
    .start corridaInicial_inicial
  obtain ⟨c, hc, hsegmento, hsuspendidos, ⟨hrespuesta, hnada, hcabe⟩, hotro, hsegundo⟩ :=
    hinicio.exists_of_runAllowed
    [.registrarMemoryStick stickDeOcho 5, .crearProceso 1 [], .crearProceso 2 [], .solicitarSegmento 1 0 3,
      .solicitarSegmento 2 0 2, .eliminarSegmento 1 0]
    (fun c ↦ segmentoEn c.memoria.procesos 1 0 = some ⟨0, 3, 2, 0⟩ ∧ c.suspendidos = [] ∧
      (.solicitarSegmento 1 2 5 ∈ (manejarSolicitarSegmento .insercion c.memoria 1 1 5).1 ∧
        c.memoria.segmentoDe 1 1 = none ∧ 1 * c.memoria.config.segmentMaxSize.toUInt32.toNat + 5 ≤ 2 ^ 32) ∧
      c.memoria.segmentoDe 2 0 = some ⟨0, 3, 2, 0⟩ ∧ c.memoria.segundoDe 2 0 = none) (by decide)
  have hactivo : ∀ pid, pid ∉ c.suspendidos := by simp [hsuspendidos]
  refine ⟨c, hsegmento, ?_, ?_⟩
  · exact (((espacio_reportado .insercion).1 c hc 1 (hactivo 1)).solicitar 1 2 5 (by decide) hrespuesta).mpr
      ⟨hnada, hcabe⟩
  · apply (((espacio_reportado .insercion).1 c hc 2 (hactivo 2)).eliminar 0 _ hotro).mpr
    exact ⟨Or.inr (by simp), by simp [hsegundo]⟩

/-- The same id twice: both requests are granted, and the second segment is never found. -/
theorem segmento_tapado : ¬ ∀ (qsort : Qsort) (c : Corrida),
    Reachable (Corrida.paso qsort) Corrida.Inicial (fun _ _ ↦ True) c → ∀ pid ∉ c.suspendidos,
      (∀ id base tamanio : UInt32, 1 ≤ tamanio.toNat →
        .solicitarSegmento id base tamanio ∈ (manejarSolicitarSegmento qsort c.memoria pid id tamanio).1 →
          Amplia c.memoria (manejarSolicitarSegmento qsort c.memoria pid id tamanio).2 pid id base tamanio) ∧
      ∀ id seg, c.memoria.segmentoDe pid id = some seg →
        Retira c.memoria (manejarEliminarSegmento c.memoria pid id).2 pid id seg.limite := by
  intro hespacio
  have hinicio : Reachable (Corrida.paso .insercion) Corrida.Inicial (fun _ _ ↦ True) corridaInicial :=
    .start corridaInicial_inicial
  obtain ⟨c, hc, hsuspendidos, hrespuesta, hvista⟩ := hinicio.exists_of_runAllowed
    [.registrarMemoryStick stickDeOcho 5, .crearProceso 1 [], .solicitarSegmento 1 0 3]
    (fun c ↦ c.suspendidos = [] ∧
      .solicitarSegmento 0 3 2 ∈ (manejarSolicitarSegmento .insercion c.memoria 1 0 2).1 ∧
        c.memoria.vista 1 0 = some 0) (by decide)
  have hactivo : 1 ∉ c.suspendidos := by simp [hsuspendidos]
  have hamplia := (hespacio .insercion c hc 1 hactivo).1 0 3 2 (by decide) hrespuesta
  obtain ⟨dir, _, hdir, hnada, _⟩ := hamplia.nuevas 0 (by decide)
  rw [UInt32.toNat_zero, Nat.zero_mul] at hdir
  obtain rfl : dir = 0 := UInt32.toNat_inj.mp hdir
  rw [hvista] at hnada
  cases hnada

end PlugAndPlay.Cpu
