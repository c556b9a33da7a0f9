import PlugAndPlay.Memoria.IdaYVuelta

/-!
# The ids and the limits of the segments

What an operation does to the ids and the limits in the segment tables: a granted request puts a segment at
the end of one table, a deletion takes the first one with its id out of one, and nothing else changes. A
compaction, a suspension and a resumption only move segments.
-/

open PlugAndPlay.Library

namespace PlugAndPlay.Memoria

/-- What a table says of a segment wherever its bytes are. -/
def Segmento.forma (seg : Segmento) : UInt32 × UInt32 := (seg.id, seg.limite)

def Proceso.forma (p : Proceso) : List (UInt32 × UInt32) := p.segmentos.map Segmento.forma

/-! ## Moves -/

theorem suspenderSegmentos_forma {segmentos segmentos' : List Segmento} {m m' : KernelMemory}
    {fin : FinSuspension} (h : suspenderSegmentos segmentos m = (fin, segmentos', m')) :
    segmentos'.map Segmento.forma = segmentos.map Segmento.forma := by
  induction segmentos generalizing m fin segmentos' m' with
  | nil =>
    obtain ⟨rfl, _⟩ := Prod.mk.inj (Prod.mk.inj h).2
    rfl
  | cons seg resto ih =>
    rcases suspenderSegmentos_cons_cases h with
      ⟨_, rfl, _⟩ | ⟨_, _, _, _, ⟨_, rfl, _⟩ | ⟨_, _, _, hrec, rfl⟩⟩
    · rfl
    · rfl
    · exact congrArg (seg.forma :: ·) (ih hrec)

theorem reservarSegmentos_forma {worstFit : Bool} {segmentos reservas : List Segmento}
    {libres resto : List BloqueLibre}
    (h : reservarSegmentos worstFit segmentos libres = (true, reservas, resto)) :
    reservas.map Segmento.forma = segmentos.map Segmento.forma := by
  have hsin := congrArg (List.map Segmento.forma) (reservarSegmentos_sinBases h)
  rw [List.map_map, List.map_map] at hsin
  exact hsin

theorem Proceso.forma_sinBases (p : Proceso) : p.sinBases.forma = p.forma := by
  rw [Proceso.forma, Proceso.sinBases, List.map_map]
  rfl

theorem Compactada.formas {m m' : KernelMemory} (hc : Compactada m m') :
    m'.procesos.map Proceso.forma = m.procesos.map Proceso.forma := by
  have hsin := congrArg (List.map Proceso.forma) hc.tablas
  simpa only [List.map_map, Function.comp_def, Proceso.forma_sinBases] using hsin

/-- Compaction finds the processes where they were. -/
theorem Compactada.buscarForma {m m' : KernelMemory} (hc : Compactada m m') (pid : ℤ) :
    (procesosBuscar m'.procesos pid).map Proceso.forma = (procesosBuscar m.procesos pid).map Proceso.forma := by
  have hbuscar : ∀ procesos, (procesosBuscar procesos pid).map Proceso.forma =
      (procesosBuscar (procesos.map Proceso.sinBases) pid).map Proceso.forma := by
    intro procesos
    rw [procesosBuscar, procesosBuscar, List.find?_map, Option.map_map]
    exact congrArg (Option.map · _) (funext fun p ↦ p.forma_sinBases.symm)
  calc
    (procesosBuscar m'.procesos pid).map Proceso.forma
    _ = (procesosBuscar (m'.procesos.map Proceso.sinBases) pid).map Proceso.forma := hbuscar _
    _ = (procesosBuscar (m.procesos.map Proceso.sinBases) pid).map Proceso.forma := by rw [hc.tablas]
    _ = (procesosBuscar m.procesos pid).map Proceso.forma := (hbuscar _).symm

/-! ## A request -/

/-- The memories a range may be taken from: as it was, or compacted after a first attempt. -/
inductive Preparada (qsort : Qsort) (m : KernelMemory) (tamanio : UInt32) : KernelMemory → Prop
  | intacta : Preparada qsort m tamanio m
  | compactada {libres : List BloqueLibre}
      (hasignar : bloquesAsignar m.config.worstFit m.bloquesLibres tamanio = (sinBase, libres)) :
    Preparada qsort m tamanio (compactarMemoria qsort { m with bloquesLibres := libres })

/-- The two ends of a request for a segment. -/
inductive Solicitada (qsort : Qsort) (m : KernelMemory) (pid : ℤ) (id tamanio : UInt32) :
    List Mensaje × KernelMemory → Prop
  | rechazada {m₁ : KernelMemory} {avisos : List Mensaje} {libres : List BloqueLibre}
      (hlugar : Preparada qsort m tamanio m₁) (hno : ∀ base, .solicitarSegmento id base tamanio ∉ avisos) :
    Solicitada qsort m pid id tamanio (avisos, { m₁ with bloquesLibres := libres })
  | concedida {m₁ : KernelMemory} {avisos : List Mensaje} {base : UInt32} {libres : List BloqueLibre}
      {p₁ : Proceso} (hlugar : Preparada qsort m tamanio m₁)
      (hno : ∀ base, .solicitarSegmento id base tamanio ∉ avisos)
      (hmax : tamanio ≤ m.config.segmentMaxSize.toUInt32)
      (hp : procesosBuscar m₁.procesos pid = some p₁)
      (hasignar : bloquesAsignar m₁.config.worstFit m₁.bloquesLibres tamanio = (base, libres))
      (hbase : base ≠ sinBase) :
    Solicitada qsort m pid id tamanio (avisos ++ [.solicitarSegmento id base tamanio],
      agregarSegmento { m₁ with bloquesLibres := libres } pid id base tamanio)

theorem manejarSolicitarSegmento_solicitada (qsort : Qsort) (m : KernelMemory) (pid : ℤ) (id tamanio : UInt32) :
    Solicitada qsort m pid id tamanio (manejarSolicitarSegmento qsort m pid id tamanio) := by
  obtain ⟨base, libres, hasignar⟩ : ∃ base libres,
      bloquesAsignar m.config.worstFit m.bloquesLibres tamanio = (base, libres) := ⟨_, _, rfl⟩
  have hfalta : ∀ libres, Solicitada qsort m pid id tamanio
      ([.ok .segmentationFault], { m with bloquesLibres := libres }) :=
    fun libres ↦ .rechazada .intacta (by simp)
  by_cases hmax : tamanio > m.config.segmentMaxSize.toUInt32
  · simp only [manejarSolicitarSegmento, solicitarSinCompactar, if_pos hmax]
    exact hfalta m.bloquesLibres
  cases hp : procesosBuscar m.procesos pid with
  | none =>
    simp only [manejarSolicitarSegmento, solicitarSinCompactar, if_neg hmax, hp]
    exact hfalta m.bloquesLibres
  | some p =>
    simp only [manejarSolicitarSegmento, solicitarSinCompactar, if_neg hmax, hp, hasignar]
    by_cases hbase : base = sinBase
    · by_cases hpocos : bloquesCalcularEspacioLibre libres < tamanio
      · simp only [if_pos hbase, if_pos hpocos]
        exact hfalta libres
      · -- the memory is compacted, and the range is looked for once more
        rw [hbase] at hasignar
        have hlugar : Preparada qsort m tamanio (compactarMemoria qsort { m with bloquesLibres := libres }) :=
          .compactada hasignar
        simp only [if_pos hbase, if_neg hpocos, reasignar]
        generalize compactarMemoria qsort { m with bloquesLibres := libres } = m₁ at hlugar ⊢
        obtain ⟨base₁, libres₁, hasignar₁⟩ : ∃ base libres,
            bloquesAsignar m₁.config.worstFit m₁.bloquesLibres tamanio = (base, libres) := ⟨_, _, rfl⟩
        have hfalta₁ : Solicitada qsort m pid id tamanio
            ([.ok .iniciarCompactacion, .ok .finalizarCompactacion, .ok .segmentationFault],
              { m₁ with bloquesLibres := libres₁ }) := .rechazada hlugar (by simp)
        simp only [hasignar₁]
        by_cases hbase₁ : base₁ = sinBase
        · simp only [if_pos hbase₁]
          exact hfalta₁
        cases hp₁ : procesosBuscar m₁.procesos pid with
        | none =>
          simp only [if_neg hbase₁]
          exact hfalta₁
        | some p₁ =>
          simp only [if_neg hbase₁]
          exact @Solicitada.concedida qsort m pid id tamanio m₁ [.ok .iniciarCompactacion, .ok .finalizarCompactacion]
            base₁ libres₁ p₁ hlugar (by simp) (UInt32.not_lt.mp hmax) hp₁ hasignar₁ hbase₁
    · simp only [if_neg hbase]
      exact @Solicitada.concedida qsort m pid id tamanio m [] base libres p .intacta (by simp)
        (UInt32.not_lt.mp hmax) hp hasignar hbase

section

variable {fugas aMedias : Prop} {m m₁ : KernelMemory} {suspendidos : List ℤ} {qsort : Qsort} {tamanio : UInt32}

/-- The memory a range is taken from is as well divided as before, and its tables are the old ones up to the
bases. -/
theorem Repartida.preparada (h : Repartida fugas aMedias [] m suspendidos)
    (hlugar : Preparada qsort m tamanio m₁) :
    Repartida fugas aMedias [] m₁ suspendidos ∧ m₁.config = m.config ∧
      m₁.procesos.map Proceso.forma = m.procesos.map Proceso.forma ∧
      ∀ pid, (procesosBuscar m₁.procesos pid).map Proceso.forma =
        (procesosBuscar m.procesos pid).map Proceso.forma := by
  cases hlugar with
  | intacta => exact ⟨h, rfl, rfl, fun _ ↦ rfl⟩
  | compactada hasignar =>
    have h₀ := (h.asignar 0 ⟨0, .cero, [], []⟩ hasignar).1 rfl
    have hc := h₀.compactada qsort
    exact ⟨h₀.compactar (fun _ _ ↦ rfl) qsort, hc.config, hc.formas, hc.buscarForma⟩

end

/-! ## Runs -/

/-- What the ids and limits of a table may be after an operation. -/
inductive Corrida.CambiaForma (qsort : Qsort) (c : Corrida) : Operacion → List (UInt32 × UInt32) → Prop
  | nueva {op : Operacion} : CambiaForma qsort c op []
  | igual {op : Operacion} {p : Proceso} (hp : p ∈ c.memoria.procesos) : CambiaForma qsort c op p.forma
  | agregada {pid : ℤ} {id tamanio base : UInt32} {p : Proceso}
      (hp : procesosBuscar c.memoria.procesos pid = some p)
      (hmax : tamanio ≤ c.memoria.config.segmentMaxSize.toUInt32)
      (hconcede : .solicitarSegmento id base tamanio ∈ (manejarSolicitarSegmento qsort c.memoria pid id tamanio).1) :
    CambiaForma qsort c (.solicitarSegmento pid id tamanio) (p.forma ++ [(id, tamanio)])
  | quitada {pid : ℤ} {id : UInt32} {p : Proceso} (hp : p ∈ c.memoria.procesos) :
    CambiaForma qsort c (.eliminarSegmento pid id) (p.forma.eraseP fun forma ↦ forma.1 = id)

theorem mem_procesosModificar {procesos : List Proceso} {pid : ℤ} {p q : Proceso} {f : Proceso → Proceso}
    (hp : procesosBuscar procesos pid = some p) (hq : q ∈ procesosModificar pid f procesos) :
    q = f p ∨ q ∈ procesos := by
  obtain ⟨antes, despues, rfl, _, _, hmod, _⟩ := procesosBuscar_split hp
  rw [hmod] at hq
  rcases List.mem_append.mp hq with hq | hq
  · exact Or.inr (List.mem_append_left _ hq)
  · rcases List.mem_cons.mp hq with rfl | hq
    · exact Or.inl rfl
    · exact Or.inr (List.mem_append_right _ (List.mem_cons_of_mem _ hq))

section

variable {qsort : Qsort} {c : Corrida} {op : Operacion}

/-- Tables with the old ids and limits. -/
theorem cambiaForma_of_mem {procesos : List Proceso}
    (h : procesos.map Proceso.forma = c.memoria.procesos.map Proceso.forma) {p : Proceso} (hp : p ∈ procesos) :
    c.CambiaForma qsort op p.forma := by
  have hforma : p.forma ∈ c.memoria.procesos.map Proceso.forma := h ▸ List.mem_map_of_mem hp
  obtain ⟨q, hq, hforma⟩ := List.mem_map.mp hforma
  exact hforma ▸ .igual hq

/-- The table of one process is exchanged for one with the same ids and limits. -/
theorem cambiaForma_of_poner {pid : ℤ} {p q : Proceso} {segmentos : List Segmento}
    (hp : procesosBuscar c.memoria.procesos pid = some p)
    (hforma : segmentos.map Segmento.forma = p.segmentos.map Segmento.forma)
    (hq : q ∈ (ponerSegmentos c.memoria pid segmentos).procesos) : c.CambiaForma qsort op q.forma := by
  rcases mem_procesosModificar hp hq with rfl | hq
  · have higual : c.CambiaForma qsort op p.forma := .igual (procesosBuscar_mem hp)
    rw [Proceso.forma, ← hforma] at higual
    exact higual
  · exact .igual hq

/-- A request, granted or not. -/
theorem Solicitada.cambiaForma {fugas aMedias : Prop} {pid : ℤ} {id tamanio : UInt32}
    (h : Repartida fugas aMedias [] c.memoria c.suspendidos)
    (hfin : Solicitada qsort c.memoria pid id tamanio (manejarSolicitarSegmento qsort c.memoria pid id tamanio)) :
    (manejarSolicitarSegmento qsort c.memoria pid id tamanio).2.config = c.memoria.config ∧
      ∀ p ∈ (manejarSolicitarSegmento qsort c.memoria pid id tamanio).2.procesos,
        c.CambiaForma qsort (.solicitarSegmento pid id tamanio) p.forma := by
  generalize hrespuesta : manejarSolicitarSegmento qsort c.memoria pid id tamanio = respuesta at hfin ⊢
  cases hfin with
  | rechazada hlugar _ =>
    obtain ⟨_, hconfig, hformas, _⟩ := h.preparada hlugar
    exact ⟨hconfig, fun p hp ↦ cambiaForma_of_mem hformas hp⟩
  | @concedida m₁ avisos base libres p₁ hlugar hno hmax hp₁ hasignar hbase =>
    obtain ⟨_, hconfig, hformas, hbuscar⟩ := h.preparada hlugar
    refine ⟨hconfig, fun q hq ↦ ?_⟩
    rcases mem_procesosModificar hp₁ hq with rfl | hq
    · obtain ⟨p, hp, hforma⟩ := Option.map_eq_some_iff.mp ((hbuscar pid).symm.trans (congrArg _ hp₁))
      have hconcede : .solicitarSegmento id base tamanio ∈
          (manejarSolicitarSegmento qsort c.memoria pid id tamanio).1 := by
        rw [hrespuesta]
        exact List.mem_append_right _ (List.mem_singleton_self _)
      have hnueva := Corrida.CambiaForma.agregada hp hmax hconcede
      rw [hforma] at hnueva
      simp only [Proceso.forma, List.map_append]
      exact hnueva
    · exact cambiaForma_of_mem hformas hq

theorem registrarMemoryStick_tablas (m : KernelMemory) (stick : StickNuevo) (outSock : ℤ) :
    (registrarMemoryStick m stick outSock).config = m.config ∧
      (registrarMemoryStick m stick outSock).procesos = m.procesos := by
  unfold registrarMemoryStick registrarInsertar
  split
  · exact ⟨rfl, rfl⟩
  · rename_i idx base m' hinsertar
    split at hinsertar
    · cases hinsertar
    · simp only [Option.some.injEq, Prod.mk.injEq] at hinsertar
      obtain ⟨_, _, rfl⟩ := hinsertar
      unfold registrarOutbound
      split <;> exact ⟨rfl, rfl⟩

/-- The loop of a suspension changes no id and no limit, and neither the configuration. -/
theorem Repartida.suspender_forma {fugas aMedias : Prop} {m : KernelMemory} {suspendidos : List ℤ} {pid : ℤ}
    (h : Repartida fugas aMedias [] m suspendidos) (hno : pid ∉ suspendidos) :
    (suspenderProceso m pid).2.config = m.config ∧ ((suspenderProceso m pid).2.procesos = m.procesos ∨
      ∃ p segmentos, procesosBuscar m.procesos pid = some p ∧
        segmentos.map Segmento.forma = p.segmentos.map Segmento.forma ∧
        (suspenderProceso m pid).2.procesos = (ponerSegmentos m pid segmentos).procesos) := by
  unfold suspenderProceso
  cases hp : procesosBuscar m.procesos pid with
  | none => exact ⟨rfl, Or.inl rfl⟩
  | some p =>
    simp only
    split
    · exact ⟨rfl, Or.inl rfl⟩
    · obtain ⟨fin, segmentos, m₁, hloop⟩ : ∃ fin segmentos m',
          suspenderSegmentos p.segmentos m = (fin, segmentos, m') := ⟨_, _, _, rfl⟩
      have hs := suspenderSegmentos_suspendidos h.suma h.within_libres (h.segmentos_le hp hno) hloop
      simp only [hloop, ponerSegmentos, hs.procesos]
      exact ⟨hs.config, Or.inr ⟨p, segmentos, rfl, suspenderSegmentos_forma hloop, rfl⟩⟩

/-- What one operation does. -/
theorem Repartida.cambiaForma {fugas aMedias : Prop} {c' : Corrida}
    (h : Repartida fugas aMedias [] c.memoria c.suspendidos) (hpaso : c.paso qsort op = some c') :
    c'.memoria.config = c.memoria.config ∧ ∀ p ∈ c'.memoria.procesos, c.CambiaForma qsort op p.forma := by
  obtain ⟨hpide, rfl⟩ := Corrida.paso_eq_some hpaso
  cases op with
  | registrarMemoryStick stick outSock =>
    obtain ⟨hconfig, hprocesos⟩ := registrarMemoryStick_tablas c.memoria stick outSock
    exact ⟨hconfig, fun p hp ↦ .igual (hprocesos ▸ hp)⟩
  | registrarSwap nuevo => exact ⟨rfl, fun p hp ↦ .igual hp⟩
  | crearProceso pid instrucciones =>
    refine ⟨rfl, fun p hp ↦ ?_⟩
    rcases List.mem_append.mp hp with hp | hp
    · exact .igual hp
    · rw [List.mem_singleton.mp hp]
      exact .nueva
  | solicitarSegmento pid id tamanio =>
    exact Solicitada.cambiaForma h (manejarSolicitarSegmento_solicitada qsort c.memoria pid id tamanio)
  | eliminarSegmento pid id =>
    simp only [atender, manejarEliminarSegmento]
    split
    · exact ⟨rfl, fun p hp ↦ .igual hp⟩
    rename_i p hp
    split
    · exact ⟨rfl, fun p hp ↦ .igual hp⟩
    refine ⟨rfl, fun q hq ↦ ?_⟩
    rcases mem_procesosModificar hp hq with rfl | hq
    · have hquita : c.CambiaForma qsort (.eliminarSegmento pid id) _ := .quitada (procesosBuscar_mem hp)
      rw [Proceso.forma, List.eraseP_map] at hquita
      exact hquita
    · exact .igual hq
  | finalizarProceso pid =>
    simp only [atender, manejarFinalizarProceso]
    split
    · exact ⟨rfl, fun p hp ↦ .igual hp⟩
    · rename_i p hp
      obtain ⟨antes, despues, heq, _, _, _, hquitar⟩ := procesosBuscar_split hp
      refine ⟨rfl, fun q hq ↦ .igual ?_⟩
      rw [hquitar] at hq
      rw [heq]
      rcases List.mem_append.mp hq with hq | hq
      · exact List.mem_append_left _ hq
      · exact List.mem_append_right _ (List.mem_cons_of_mem _ hq)
  | suspenderProceso pid =>
    simp only [atender, manejarSuspenderProceso_snd]
    rcases hpide with hfin | ⟨hno, _⟩
    · have hsin := (h.suspender (Prod.mk.eta (p := suspenderProceso c.memoria pid)).symm).1 hfin
      rw [hsin]
      exact ⟨rfl, fun p hp ↦ .igual hp⟩
    · obtain ⟨hconfig, hprocesos | ⟨p, segmentos, hp, hforma, hprocesos⟩⟩ := h.suspender_forma hno
      · exact ⟨hconfig, fun q hq ↦ .igual (hprocesos ▸ hq)⟩
      · exact ⟨hconfig, fun q hq ↦ cambiaForma_of_poner hp hforma (hprocesos ▸ hq)⟩
  | desSuspenderProceso pid =>
    simp only [atender, manejarDesSuspenderProceso_snd]
    have hfallo : (desSuspenderProceso c.memoria pid).1 ≠ .fallo := by
      rcases hpide with hfin | ⟨_, hno⟩
      · rw [hfin]
        rintro ⟨⟩
      · exact hno
    rcases desSuspenderProceso_cases h Prod.mk.eta.symm hfallo with
      ⟨_, hprocesos, _, _, hconfig, _⟩ | ⟨p, segmentos, libres, _, hp, _, hreservar, htransferir, _⟩
    · exact ⟨hconfig, fun q hq ↦ .igual (hprocesos ▸ hq)⟩
    · have hdisp := transferirSwapARam_soloDispositivos segmentos
        (ponerSegmentos { c.memoria with bloquesLibres := libres } pid segmentos)
      rw [htransferir] at hdisp
      refine ⟨hdisp.config, fun q hq ↦ cambiaForma_of_poner hp (reservarSegmentos_forma hreservar) ?_⟩
      rw [hdisp.procesos] at hq
      exact hq
  | obtenerEspacioLibre => exact ⟨rfl, fun p hp ↦ .igual hp⟩
  | lecturaMemoria pid dir tamanio =>
    have hdisp := manejarLecturaMemoria_soloDispositivos c.memoria pid dir tamanio
    exact ⟨hdisp.config, fun p hp ↦ .igual (hdisp.procesos ▸ hp)⟩
  | escrituraMemoria pid dir tamanio datos =>
    have hdisp := manejarEscrituraMemoria_soloDispositivos c.memoria pid dir tamanio datos
    exact ⟨hdisp.config, fun p hp ↦ .igual (hdisp.procesos ▸ hp)⟩

/-- A condition on the ids and limits of a table that no operation breaks holds in every run. -/
theorem formas_alcanzables {allowed : Corrida → Operacion → Prop} (P : UInt32 → List (UInt32 × UInt32) → Prop)
    (hpaso : ∀ s op forma, allowed s op →
      (∀ p ∈ s.memoria.procesos, P s.memoria.config.segmentMaxSize.toUInt32 p.forma) →
      s.CambiaForma qsort op forma → P s.memoria.config.segmentMaxSize.toUInt32 forma)
    (hc : Reachable (Corrida.paso qsort) Corrida.Inicial allowed c) :
    ∀ p ∈ c.memoria.procesos, P c.memoria.config.segmentMaxSize.toUInt32 p.forma := by
  have hambas : Repartida True True [] c.memoria c.suspendidos ∧
      ∀ p ∈ c.memoria.procesos, P c.memoria.config.segmentMaxSize.toUInt32 p.forma := by
    apply hc.invariant (P := fun c ↦ Repartida True True [] c.memoria c.suspendidos ∧
      ∀ p ∈ c.memoria.procesos, P c.memoria.config.segmentMaxSize.toUInt32 p.forma)
    · intro s hs
      refine ⟨Repartida.inicial hs.1 hs.2.1 hs.2.2.1, ?_⟩
      rw [hs.1]
      exact nofun
    · rintro s op s' ⟨hinv, hformas⟩ hallowed hs'
      refine ⟨hinv.paso (Or.inl trivial) (Or.inl trivial) hs', fun p hp ↦ ?_⟩
      obtain ⟨hconfig, hcambia⟩ := hinv.cambiaForma hs'
      rw [hconfig]
      exact hpaso s op _ hallowed hformas (hcambia p hp)
  exact hambas.2

end

end PlugAndPlay.Memoria
