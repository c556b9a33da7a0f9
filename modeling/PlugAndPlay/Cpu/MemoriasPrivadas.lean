import PlugAndPlay.Library.PrivateMemory
import PlugAndPlay.Cpu.MmuPlana
import PlugAndPlay.Memoria.FormaTablas
import PlugAndPlay.Memoria.HiloScheduler
import PlugAndPlay.Memoria.HilosRam

/-!
# Private memories of the processes

What Kernel Memory, the sticks and SWAP are together for: every process has segments of its own, and what was
written to one of them stays there until it is overwritten or the segment is gone. Compactions, suspensions,
resumptions and whatever other processes do move bytes and change none. This module is the step: each operation
does to the segments of the processes what it is for, wherever their bytes are.
-/

open PlugAndPlay.Library PrivateMemory ByteRange

namespace PlugAndPlay.Memoria

/-! ## Where the bytes of a segment are -/

/-- The segment holds the known bytes of the region: in RAM, or else in its blocks of the swap file. -/
structure Refleja (m : KernelMemory) (seg : Segmento) (region : Region UInt32 UInt8) : Prop where
  nombre : region.name = seg.id
  tamanio : region.size = seg.limite.toNat
  enRam : seg.Residente → Holds (plano m.ram.tabla) seg.base.toNat region
  enSwap : ¬ seg.Residente → seg.limite = 0 ∨
    0 ≤ m.swap.socket ∧ SinDesborde seg.limite m.swap.blockSize ∧ ∃ datos, Guardado m.swap seg datos ∧
      Holds m.swap.archivo (seg.swapBloqueInicio.toNat * m.swap.blockSize.toNat) region

/-- The segments of the process with a pid; there are none where there is no such process. -/
def KernelMemory.segmentosDe (m : KernelMemory) (pid : ℤ) : List Segmento :=
  (tablaDe m.procesos pid).getD []

/-- The segments of every process hold what is known of its regions. -/
def KernelMemory.Reflejan (m : KernelMemory) (privadas : Memories ℤ UInt32 UInt8) : Prop :=
  ∀ pid, List.Forall₂ (Refleja m) (m.segmentosDe pid) (privadas pid)

/-- The answer grants a segment. -/
def Mensaje.esSegmento (id tamanio : UInt32) : Mensaje → Bool
  | .solicitarSegmento otroId _ otroTamanio => otroId = id ∧ otroTamanio = tamanio
  | .ok _ | .lecturaMemoria _ | .obtenerEspacioLibre _ => false

theorem Mensaje.esSegmento_iff {id tamanio : UInt32} {mensaje : Mensaje} :
    mensaje.esSegmento id tamanio ↔ ∃ base, mensaje = .solicitarSegmento id base tamanio := by
  cases mensaje <;> simp [esSegmento]

/-- What the runs considered keep: the swap has blocks of a positive size, every address of RAM has a successor
of 32 bits, and no transfer to a stick fails. -/
structure KernelMemory.EnUso (m : KernelMemory) : Prop where
  swap : m.swap.Configurado
  total : sumaSticks m.ram.tabla < 2 ^ 32 - 1
  sana : m.ram.Sana

section Marco

variable {m m' : KernelMemory} {seg seg' : Segmento} {region : Region UInt32 UInt8} {pid otro : ℤ} {p : Proceso}
  {privadas : Memories ℤ UInt32 UInt8}

theorem segmentosDe_of_buscar (hp : procesosBuscar m.procesos pid = some p) : m.segmentosDe pid = p.segmentos := by
  unfold KernelMemory.segmentosDe tablaDe
  rw [hp]
  rfl

theorem segmentosDe_of_none (hp : procesosBuscar m.procesos pid = none) : m.segmentosDe pid = [] := by
  unfold KernelMemory.segmentosDe tablaDe
  rw [hp]
  rfl

theorem segmentosDe_congr (h : procesosBuscar m'.procesos pid = procesosBuscar m.procesos pid) :
    m'.segmentosDe pid = m.segmentosDe pid := by
  unfold KernelMemory.segmentosDe tablaDe
  rw [h]

theorem segmentosDe_poner (hp : procesosBuscar m.procesos pid = some p) (segmentos : List Segmento) :
    (ponerSegmentos m pid segmentos).segmentosDe pid = segmentos := by
  have hpuesta : procesosBuscar (ponerSegmentos m pid segmentos).procesos pid =
      some { p with segmentos := segmentos } := procesosBuscar_mismo hp fun _ ↦ rfl
  exact segmentosDe_of_buscar hpuesta

theorem segmentosDe_otro (hotro : otro ≠ pid) {f : Proceso → Proceso} (hf : ∀ p, (f p).pid = p.pid)
    (hprocesos : m'.procesos = procesosModificar pid f m.procesos) : m'.segmentosDe otro = m.segmentosDe otro := by
  unfold KernelMemory.segmentosDe
  rw [hprocesos, tablaDe_otro hotro hf]

/-- Where an operation leaves the bytes of a segment alone, and the file of a connected swap only grows. -/
theorem Refleja.marco (h : Refleja m seg region) (hswap : m.swap.Configurado)
    (hram : seg.Residente →
      ∀ address, seg.base.toNat ≤ address → address < seg.base.toNat + seg.limite.toNat →
      plano m'.ram.tabla address = plano m.ram.tabla address)
    (hcrece : 0 ≤ m.swap.socket → SwapCrece m.swap m'.swap) : Refleja m' seg region where
  nombre := h.nombre
  tamanio := h.tamanio
  enRam hres := by
    apply (h.enRam hres).of_same
    intro offset hoffset
    rw [h.tamanio] at hoffset
    exact hram hres _ (Nat.le_add_right _ _) (Nat.add_lt_add_left hoffset _)
  enSwap hno := by
    refine (h.enSwap hno).imp_right ?_
    rintro ⟨hsocket, hsin, datos, hguardado, hholds⟩
    have hcrece := hcrece hsocket
    have hguardado' := hguardado.crece (hswap hsocket) hsin hcrece
    refine ⟨?_, ?_, datos, hguardado', hholds.of_slice ?_⟩
    · rw [hcrece.socket]
      exact hsocket
    · rw [hcrece.blockSize]
      exact hsin
    · rw [h.tamanio, hguardado'.bytes, hguardado.bytes]

/-- An operation that changes neither RAM nor SWAP. -/
theorem Refleja.congr (h : Refleja m seg region) (htabla : m'.ram.tabla = m.ram.tabla) (hswap : m'.swap = m.swap) :
    Refleja m' seg region where
  nombre := h.nombre
  tamanio := h.tamanio
  enRam hres := by
    rw [htabla]
    exact h.enRam hres
  enSwap hno := by
    rw [hswap]
    exact h.enSwap hno

theorem KernelMemory.Reflejan.congr (h : m.Reflejan privadas) (hprocesos : ∀ pid,
    m'.segmentosDe pid = m.segmentosDe pid) (htabla : m'.ram.tabla = m.ram.tabla) (hswap : m'.swap = m.swap) :
    m'.Reflejan privadas := by
  intro pid
  rw [hprocesos pid]
  exact (h pid).imp fun _ _ hseg ↦ hseg.congr htabla hswap

theorem KernelMemory.EnUso.congr (h : m.EnUso) (hram : m'.ram = m.ram) (hswap : m'.swap = m.swap) : m'.EnUso where
  swap := by
    rw [hswap]
    exact h.swap
  total := by
    rw [hram]
    exact h.total
  sana := by
    rw [hram]
    exact h.sana

end Marco

/-! ## Sticks, SWAP and processes -/

section Operaciones

variable {fugas aMedias : Prop} {m m' : KernelMemory} {pid : ℤ} {p : Proceso} {suspendidos : List ℤ}
  {privadas : Memories ℤ UInt32 UInt8}

/-- A resident segment lies in RAM. -/
theorem Repartida.segmento_dentro (h : Repartida fugas aMedias [] m suspendidos) {seg : Segmento}
    (hseg : seg ∈ m.segmentosDe pid) (hres : seg.Residente) :
    seg.base.toNat + seg.limite.toNat ≤ sumaSticks m.ram.tabla := by
  cases hp : procesosBuscar m.procesos pid with
  | none =>
    rw [segmentosDe_of_none hp] at hseg
    cases hseg
  | some p =>
    rw [segmentosDe_of_buscar hp] at hseg
    exact h.residentes.within _ (mem_rangosResidentes (procesosBuscar_mem hp) hseg hres)

/-- A new stick goes behind the others. -/
theorem registrarMemoryStick_viejos (m : KernelMemory) (stick : StickNuevo) (outSock : ℤ) :
    ∃ nuevos, (registrarMemoryStick m stick outSock).ram.tabla = m.ram.tabla ++ nuevos ∧
      sumaSticks nuevos ≤ stick.tamanio.toNat := by
  unfold registrarMemoryStick registrarInsertar conexionesAgregarStick
  by_cases hllena : maxMemorySticks ≤ m.ram.tabla.length
  · simp only [if_pos hllena]
    exact ⟨[], (List.append_nil _).symm, Nat.zero_le _⟩
  · simp only [if_neg hllena]
    unfold registrarOutbound registrarBloque
    split
    · exact ⟨_, rfl, le_rfl⟩
    · simp only [conexionesStickSetOutboundSocket, ListModify.modify_concat]
      exact ⟨_, rfl, le_rfl⟩

theorem KernelMemory.Reflejan.registrarMemoryStick (h : m.Reflejan privadas) (huso : m.EnUso)
    (hrep : Repartida fugas aMedias [] m suspendidos) (stick : StickNuevo) (outSock : ℤ) :
    (registrarMemoryStick m stick outSock).Reflejan privadas := by
  have hplana : Cpu.TablaPlana m.ram.tabla := ⟨huso.sana.bases, huso.sana.abiertos, hrep.suma⟩
  have hprocesos := (registrarMemoryStick_tablas m stick outSock).2
  obtain ⟨nuevos, htabla, _⟩ := registrarMemoryStick_viejos m stick outSock
  intro pid
  have hsegmentos : (Memoria.registrarMemoryStick m stick outSock).segmentosDe pid = m.segmentosDe pid :=
    segmentosDe_congr (by rw [hprocesos])
  rw [hsegmentos]
  refine ((List.forall₂_and_left _ _).mpr ⟨fun seg hseg ↦ hseg, h pid⟩).imp ?_
  rintro seg region ⟨hmem, hseg⟩
  apply hseg.marco huso.swap
  · intro hres address _ hlt
    have hdentro := hrep.segmento_dentro hmem hres
    rw [htabla]
    exact Cpu.plano_viejos hplana nuevos (by omega)
  · intro _
    rw [swap_registrarMemoryStick]
    exact SwapCrece.refl _

theorem KernelMemory.EnUso.registrarMemoryStick (huso : m.EnUso) {stick : StickNuevo} {outSock : ℤ}
    (hsuma : sumaSticks m.ram.tabla + stick.tamanio.toNat < 2 ^ 32 - 1) (habierto : 0 ≤ outSock) :
    (registrarMemoryStick m stick outSock).EnUso where
  swap := by
    rw [swap_registrarMemoryStick]
    exact huso.swap
  total := by
    obtain ⟨nuevos, htabla, hnuevos⟩ := registrarMemoryStick_viejos m stick outSock
    calc sumaSticks (Memoria.registrarMemoryStick m stick outSock).ram.tabla
        = sumaSticks m.ram.tabla + sumaSticks nuevos := by rw [htabla, Cpu.sumaSticks_append]
      _ ≤ sumaSticks m.ram.tabla + stick.tamanio.toNat := Nat.add_le_add_left hnuevos _
      _ < 2 ^ 32 - 1 := hsuma
  sana := huso.sana.registrarMemoryStick stick habierto

/-- The first swap that connects finds nothing that was swapped out. -/
theorem KernelMemory.Reflejan.registrarSwap (h : m.Reflejan privadas) (huso : m.EnUso)
    (hsin : m.swap.socket < 0) (swap : Swap) : { m with swap := swap }.Reflejan privadas := by
  intro pid
  refine (h pid).imp fun seg region hseg ↦ ?_
  apply hseg.marco huso.swap
  · exact fun _ _ _ _ ↦ rfl
  · intro hsocket
    exact absurd hsin (not_lt.mpr hsocket)

theorem KernelMemory.EnUso.registrarSwap (huso : m.EnUso) (nuevo : SwapNuevo) :
    { m with swap := Memoria.registrarSwap nuevo }.EnUso where
  swap _ := UInt32.lt_iff_toNat_lt.mp nuevo.configurado.1
  total := huso.total
  sana := huso.sana

/-- A new process has no segments. -/
theorem KernelMemory.Reflejan.crearProceso (h : m.Reflejan privadas) (pid : ℤ) (instrucciones : List String) :
    (manejarCrearProceso m pid instrucciones).2.Reflejan privadas := by
  refine h.congr (fun otro ↦ ?_) rfl rfl
  have hbuscar : procesosBuscar (manejarCrearProceso m pid instrucciones).2.procesos otro =
      (procesosBuscar m.procesos otro).or (procesosBuscar [⟨pid, .cero, [], instrucciones⟩] otro) :=
    List.find?_append
  cases hp : procesosBuscar m.procesos otro with
  | some p =>
    rw [hp, Option.some_or] at hbuscar
    rw [segmentosDe_of_buscar hp, segmentosDe_of_buscar hbuscar]
  | none =>
    rw [hp, Option.none_or] at hbuscar
    rw [segmentosDe_of_none hp]
    cases hnuevo : procesosBuscar [(⟨pid, .cero, [], instrucciones⟩ : Proceso)] otro with
    | none =>
      rw [hnuevo] at hbuscar
      exact segmentosDe_of_none hbuscar
    | some nuevo =>
      rw [hnuevo] at hbuscar
      rw [segmentosDe_of_buscar hbuscar, List.mem_singleton.mp (procesosBuscar_mem hnuevo)]

/-- An operation on behalf of one process that leaves the others alone. -/
theorem KernelMemory.Reflejan.aplicar (h : m.Reflejan privadas) (op : Op ℤ UInt32 UInt8)
    (hotros : ∀ otro, otro ≠ op.owner → List.Forall₂ (Refleja m) (m.segmentosDe otro) (privadas otro) →
      List.Forall₂ (Refleja m') (m'.segmentosDe otro) (privadas otro))
    (hpropia : List.Forall₂ (Refleja m') (m'.segmentosDe op.owner) (op.onRegions (privadas op.owner))) :
    m'.Reflejan (op.apply privadas) := by
  intro otro
  by_cases hpid : otro = op.owner
  · rw [hpid, op.apply_owner]
    exact hpropia
  · rw [Op.apply_other hpid]
    exact hotros otro hpid (h otro)

theorem KernelMemory.Reflejan.eliminar (h : m.Reflejan privadas) (pid : ℤ) (id : UInt32) :
    (manejarEliminarSegmento m pid id).2.Reflejan ((Op.discard pid id).apply privadas) := by
  have hram := ram_manejarEliminarSegmento m pid id
  have hswap := swap_manejarEliminarSegmento m pid id
  have hborra : (manejarEliminarSegmento m pid id).2.segmentosDe pid =
      (m.segmentosDe pid).eraseP fun seg ↦ seg.id = id := by
    unfold manejarEliminarSegmento
    split
    · rename_i hp
      rw [segmentosDe_of_none hp]
      rfl
    rename_i p hp
    rw [segmentosDe_of_buscar hp]
    split
    · rename_i hfalta
      rw [segmentosDe_of_buscar hp, List.eraseP_of_forall_not]
      exact List.find?_eq_none.mp hfalta
    · exact segmentosDe_poner hp _
  apply h.aplicar
  · intro otro hotro hsegs
    have hmismos : (manejarEliminarSegmento m pid id).2.segmentosDe otro = m.segmentosDe otro :=
      congrArg (fun tabla ↦ Option.getD tabla []) (tablaDe_eliminar hotro id)
    rw [hmismos]
    exact hsegs.imp fun _ _ hseg ↦ hseg.congr (congrArg Ram.tabla hram) hswap
  · show List.Forall₂ _ ((manejarEliminarSegmento m pid id).2.segmentosDe pid) _
    rw [hborra]
    refine (Pointwise.forall₂_eraseP (h pid) ?_).imp fun _ _ hseg ↦ hseg.congr (congrArg Ram.tabla hram) hswap
    intro seg region hseg
    rw [hseg.nombre]

/-- A process with the same pid behind it has no segments. -/
theorem KernelMemory.Reflejan.finalizar (h : m.Reflejan privadas)
    (hrep : Repartida fugas aMedias [] m suspendidos) (pid : ℤ) :
    (manejarFinalizarProceso m pid).2.Reflejan ((Op.clear pid).apply privadas) := by
  have hram := ram_manejarFinalizarProceso m pid
  have hswap := swap_manejarFinalizarProceso m pid
  have hvacia : (manejarFinalizarProceso m pid).2.segmentosDe pid = [] := by
    unfold manejarFinalizarProceso
    split
    · rename_i hp
      exact segmentosDe_of_none hp
    · rename_i p hp
      obtain ⟨antes, despues, heq, hpid, hantes, _, hquitar⟩ := procesosBuscar_split hp
      cases hq : procesosBuscar (procesosQuitar pid m.procesos) pid with
      | none => exact segmentosDe_of_none hq
      | some q =>
        have hsombra := hrep.tablas.sombra
        rw [heq] at hsombra
        have hdetras := (List.pairwise_cons.mp (List.pairwise_append.mp hsombra).2.1).1
        have hmem := procesosBuscar_mem hq
        have hqpid := procesosBuscar_pid hq
        rw [hquitar] at hmem
        apply (segmentosDe_of_buscar hq).trans
        cases List.mem_append.mp hmem with
        | inl hantesq => exact absurd hqpid (hantes q hantesq)
        | inr hdespues => exact hdetras q hdespues (hpid.trans hqpid.symm)
  apply h.aplicar
  · intro otro hotro hsegs
    have hmismos : (manejarFinalizarProceso m pid).2.segmentosDe otro = m.segmentosDe otro :=
      congrArg (fun tabla ↦ Option.getD tabla []) (tablaDe_finalizar hotro)
    rw [hmismos]
    exact hsegs.imp fun _ _ hseg ↦ hseg.congr (congrArg Ram.tabla hram) hswap
  · show List.Forall₂ _ ((manejarFinalizarProceso m pid).2.segmentosDe pid) _
    rw [hvacia]
    exact .nil

/-! ## Allocation -/

/-- Compaction moves the resident segments together with their bytes. -/
theorem KernelMemory.Reflejan.compactar (h : m.Reflejan privadas) (huso : m.EnUso)
    (hjuntos : Packed (rangosResidentes m.procesos) (sumaSticks m.ram.tabla)) (qsort : Qsort) :
    (compactarMemoria qsort m).Reflejan privadas := by
  have htope := huso.total
  have htotal : m.ram.total = sumaSticks m.ram.tabla := m.ram.total_eq (by omega)
  rw [← htotal] at hjuntos
  have hc := compactarMemoria_compactada qsort m.ram.total_lt hjuntos
  have hcabe := bytesResidentes_le m.ram.total_lt hjuntos
  obtain ⟨_, hbytes⟩ := compactarMemoria_bytes qsort huso.sana hjuntos
  have hpares := hc.forall₂ (R := fun seg seg' ↦ ∀ region, Refleja m seg region →
      Refleja (compactarMemoria qsort m) seg' region) (by
    intro proc idx seg seg' hget hget' region hseg
    by_cases hres : seg.Residente
    · obtain ⟨base, hnuevo, hfin, hslice⟩ := hbytes proc idx seg hget hres
      obtain rfl : { seg with base := base } = seg' := Option.some.inj (hnuevo.symm.trans hget')
      refine ⟨hseg.nombre, hseg.tamanio, fun _ ↦ (hseg.enRam hres).of_slice ?_, fun hno ↦ Or.inl ?_⟩
      · rw [hseg.tamanio]
        exact hslice
      · have hcaso : ({ seg with base := base } : Segmento).Residente ∨ seg.limite = 0 :=
          residente_or_limite m.ram.total_lt (hfin.trans hcabe)
        exact hcaso.resolve_left hno
    · obtain rfl : seg = seg' := Option.some.inj ((hc.suspendido proc idx seg hget hres).symm.trans hget')
      apply hseg.marco huso.swap
      · exact fun hsi ↦ absurd hsi hres
      · intro _
        rw [hc.swap]
        exact SwapCrece.refl _)
  intro pid
  have hbuscados := Pointwise.rel_find?_of_forall₂ (f := fun q ↦ q.pid = pid) (g := fun q ↦ q.pid = pid) hpares
    fun q q' hq ↦ by rw [hq.1]
  have hantes := h pid
  unfold KernelMemory.segmentosDe tablaDe procesosBuscar at hantes ⊢
  generalize m.procesos.find? (fun q ↦ q.pid = pid) = antes at hbuscados hantes
  generalize (compactarMemoria qsort m).procesos.find? (fun q ↦ q.pid = pid) = despues at hbuscados ⊢
  cases hbuscados with
  | none =>
    rw [List.forall₂_nil_left_iff.mp hantes]
    exact .nil
  | some hq => exact Pointwise.forall₂_trans hq.2.flip hantes fun _ seg region hseg hrefleja ↦ hseg region hrefleja

theorem KernelMemory.EnUso.compactar (huso : m.EnUso)
    (hjuntos : Packed (rangosResidentes m.procesos) (sumaSticks m.ram.tabla)) (qsort : Qsort) :
    (compactarMemoria qsort m).EnUso := by
  have htope := huso.total
  rw [← m.ram.total_eq (by omega)] at hjuntos
  have hc := compactarMemoria_compactada qsort m.ram.total_lt hjuntos
  refine ⟨?_, ?_, (compactarMemoria_bytes qsort huso.sana hjuntos).1⟩
  · rw [hc.swap]
    exact huso.swap
  · rw [hc.mismaTabla.sumaSticks]
    exact htope

/-- The memories a segment is taken from hold what the one before the request held. -/
theorem Preparada.reflejan {qsort : Qsort} {tamanio : UInt32} (hlugar : Preparada qsort m tamanio m')
    (h : m.Reflejan privadas) (huso : m.EnUso)
    (hjuntos : Packed (rangosResidentes m.procesos) (sumaSticks m.ram.tabla)) :
    m'.Reflejan privadas ∧ m'.EnUso := by
  cases hlugar with
  | intacta => exact ⟨h, huso⟩
  | compactada hasignar =>
    rename_i libres
    have huso' : { m with bloquesLibres := libres }.EnUso := huso.congr rfl rfl
    have h' : { m with bloquesLibres := libres }.Reflejan privadas := h.congr (fun _ ↦ rfl) rfl rfl
    exact ⟨h'.compactar huso' hjuntos qsort, huso'.compactar hjuntos qsort⟩

/-- A new segment at the end of the table, of which nothing is known. -/
theorem KernelMemory.Reflejan.agregar (h : m.Reflejan privadas) (hp : procesosBuscar m.procesos pid = some p)
    {base : UInt32} (hbase : base ≠ sinBase) (id tamanio : UInt32) (libres : List BloqueLibre) :
    (agregarSegmento { m with bloquesLibres := libres } pid id base tamanio).Reflejan
      ((Op.make pid id tamanio.toNat).apply privadas) := by
  have hsegmentos : (agregarSegmento { m with bloquesLibres := libres } pid id base tamanio).segmentosDe pid =
      m.segmentosDe pid ++ [⟨id, base, tamanio, 0⟩] := by
    have hagregada : procesosBuscar (agregarSegmento { m with bloquesLibres := libres } pid id base
        tamanio).procesos pid = some { p with segmentos := p.segmentos ++ [⟨id, base, tamanio, 0⟩] } :=
      procesosBuscar_mismo hp fun _ ↦ rfl
    rw [segmentosDe_of_buscar hagregada, segmentosDe_of_buscar hp]
  apply h.aplicar
  · intro otro hotro hsegs
    have hmismos : (agregarSegmento { m with bloquesLibres := libres } pid id base tamanio).segmentosDe otro =
        m.segmentosDe otro := segmentosDe_otro hotro (f := fun p ↦
      { p with segmentos := p.segmentos ++ [⟨id, base, tamanio, 0⟩] }) (fun _ ↦ rfl) rfl
    rw [hmismos]
    exact hsegs.imp fun _ _ hseg ↦ hseg.congr rfl rfl
  · show List.Forall₂ _ ((agregarSegmento { m with bloquesLibres := libres } pid id base tamanio).segmentosDe pid) _
    rw [hsegmentos]
    refine List.rel_append ((h pid).imp fun _ _ hseg ↦ hseg.congr rfl rfl) (.cons ⟨rfl, rfl, ?_, ?_⟩ .nil)
    · exact fun _ ↦ holds_new id tamanio.toNat
    · exact fun hno ↦ absurd hbase hno

/-- A request for a segment, after a compaction or not: it is granted if the answer says so. -/
theorem KernelMemory.Reflejan.solicitar (h : m.Reflejan privadas) (huso : m.EnUso)
    (hrep : Repartida fugas aMedias [] m suspendidos) (qsort : Qsort) (pid : ℤ) (id tamanio : UInt32) :
    (manejarSolicitarSegmento qsort m pid id tamanio).2.EnUso ∧
      (manejarSolicitarSegmento qsort m pid id tamanio).2.Reflejan
        (if (manejarSolicitarSegmento qsort m pid id tamanio).1.any (Mensaje.esSegmento id tamanio) then
          (Op.make pid id tamanio.toNat).apply privadas else privadas) := by
  have hcaso := manejarSolicitarSegmento_solicitada qsort m pid id tamanio
  generalize manejarSolicitarSegmento qsort m pid id tamanio = fin at hcaso ⊢
  cases hcaso with
  | rechazada hlugar hno =>
    rename_i m₁ avisos libres
    obtain ⟨h₁, huso₁⟩ := hlugar.reflejan h huso hrep.residentes
    refine ⟨huso₁.congr rfl rfl, ?_⟩
    rw [if_neg]
    · exact h₁.congr (fun _ ↦ rfl) rfl rfl
    · rw [List.any_eq_true]
      rintro ⟨mensaje, hmem, hes⟩
      obtain ⟨base, rfl⟩ := Mensaje.esSegmento_iff.mp hes
      exact hno base hmem
  | concedida hlugar hno hmax hp hasignar hbase =>
    rename_i m₁ avisos base libres p₁
    obtain ⟨h₁, huso₁⟩ := hlugar.reflejan h huso hrep.residentes
    refine ⟨huso₁.congr rfl rfl, ?_⟩
    rw [if_pos]
    · exact h₁.agregar hp hbase id tamanio libres
    · rw [List.any_append]
      simp [Mensaje.esSegmento]

end Operaciones

end PlugAndPlay.Memoria
