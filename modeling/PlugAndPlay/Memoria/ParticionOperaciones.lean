import PlugAndPlay.Memoria.Particion

/-!
# Every operation keeps the partition

One lemma for each request of a run, in the order of `Operacion`, and from them the invariant of
all runs. Each lemma says which ranges the handler moves and leaves the rest to
`Repartida.cambiar`.
-/

open PlugAndPlay.Library ByteRange

namespace PlugAndPlay.Memoria

section

variable {fugas aMedias : Prop} {apartados : List ByteRange} {m : KernelMemory} {suspendidos : List ℤ} {pid : ℤ} {p : Proceso}

theorem Repartida.within_apartados (h : Repartida fugas aMedias apartados m suspendidos) :
    Within apartados (sumaSticks m.ram.tabla) :=
  (within_append.mp h.juntos.within).1

theorem Repartida.within_libres (h : Repartida fugas aMedias apartados m suspendidos) :
    Within (rangosLibres m.bloquesLibres) (sumaSticks m.ram.tabla) :=
  ((KernelMemory.within_ocupacion _ _).mp (within_append.mp h.juntos.within).2).1

/-- An operation that registers no stick keeps the partition when it only moves ranges between
the free list and the tables. In runs with leaks it may also lose some. -/
theorem Repartida.cambiar {m' : KernelMemory} {suspendidos' : List ℤ}
    (h : Repartida fugas aMedias apartados m suspendidos)
    (htabla : m'.ram.tabla.map MemoryStick.medidas = m.ram.tabla.map MemoryStick.medidas)
    (hhits : ∀ address, hits m'.ocupacion address = hits m.ocupacion address ∨
      fugas ∧ hits m'.ocupacion address ≤ hits m.ocupacion address)
    (hlibres : Within (rangosLibres m'.bloquesLibres) (sumaSticks m.ram.tabla))
    (htablas : TablasEn aMedias m'.procesos suspendidos' (sumaSticks m.ram.tabla)) :
    Repartida fugas aMedias apartados m' suspendidos' := by
  have hsuma : sumaSticks m'.ram.tabla = sumaSticks m.ram.tabla := sumaSticks_congr htabla
  have hdentro : Within (apartados ++ m'.ocupacion) (sumaSticks m.ram.tabla) :=
    within_append.mpr ⟨h.within_apartados,
      (KernelMemory.within_ocupacion _ _).mpr ⟨hlibres, htablas.within⟩⟩
  refine ⟨(basesAcumuladas_congr htabla).mpr h.bases, ?_, ⟨fun address ↦ ?_, ?_⟩, fun hno ↦ ?_, ?_⟩
  · rw [hsuma]
    exact h.suma
  · have huna := h.juntos.disjoint address
    rw [hits_append] at huna ⊢
    rcases hhits address with heq | ⟨_, hle⟩ <;> omega
  · rw [hsuma]
    exact hdentro
  · rw [hsuma]
    refine (h.cubre hno).congr (fun address ↦ ?_) hdentro
    rcases hhits address with heq | ⟨hfugas, _⟩
    · rw [hits_append, hits_append, heq]
    · exact absurd hfugas hno
  · rw [hsuma]
    exact htablas

theorem Repartida.perm {otros : List ByteRange} (h : Repartida fugas aMedias apartados m suspendidos)
    (hperm : apartados.Perm otros) : Repartida fugas aMedias otros m suspendidos where
  bases := h.bases
  suma := h.suma
  juntos := h.juntos.congr (hits_perm (hperm.symm.append_right _))
    (h.juntos.within.perm (hperm.append_right _))
  cubre hno := (h.cubre hno).congr (hits_perm (hperm.symm.append_right _))
    (h.juntos.within.perm (hperm.append_right _))
  tablas := h.tablas

/-- Free blocks and resident segments share no byte. -/
theorem Repartida.ocupacion (h : Repartida fugas aMedias apartados m suspendidos) :
    Packed m.ocupacion (sumaSticks m.ram.tabla) := by
  refine ⟨fun address ↦ ?_, (within_append.mp h.juntos.within).2⟩
  have huna := h.juntos.disjoint address
  rw [hits_append] at huna
  omega

theorem hits_ponerSegmentos (hp : procesosBuscar m.procesos pid = some p)
    (segmentos : List Segmento) (address : ℕ) :
    hits (rangosResidentes (ponerSegmentos m pid segmentos).procesos) address +
        hits (rangosSegmentos p.segmentos) address =
      hits (rangosResidentes m.procesos) address + hits (rangosSegmentos segmentos) address :=
  hits_procesosModificar hp _ address

/-- Transfers keep the partition, whatever fails. -/
theorem Repartida.dispositivos {m' : KernelMemory} (h : Repartida fugas aMedias apartados m suspendidos)
    (hm : SoloDispositivos m m') : Repartida fugas aMedias apartados m' suspendidos := by
  refine h.cambiar hm.tabla.medidas (fun address ↦ Or.inl ?_) ?_ ?_
  · simp only [KernelMemory.hits_ocupacion, hm.procesos, hm.libres]
  · rw [hm.libres]
    exact h.within_libres
  · rw [hm.procesos]
    exact h.tablas

/-- The segments of a process that is not suspended lie within RAM. -/
theorem Repartida.segmentos_le (h : Repartida fugas aMedias apartados m suspendidos)
    (hp : procesosBuscar m.procesos pid = some p) (hno : pid ∉ suspendidos) :
    ∀ seg ∈ p.segmentos, seg.base.toNat + seg.limite.toNat ≤ sumaSticks m.ram.tabla := by
  refine h.tablas.activo p (procesosBuscar_mem hp) ?_
  rwa [procesosBuscar_pid hp]

theorem Repartida.segmentos_suspendido (h : Repartida fugas aMedias apartados m suspendidos)
    (hp : procesosBuscar m.procesos pid = some p) (hsusp : pid ∈ suspendidos) :
    ∀ seg ∈ p.segmentos, seg.Residente →
      aMedias ∧ seg.base.toNat + seg.limite.toNat ≤ sumaSticks m.ram.tabla := by
  refine h.tablas.suspendido p (procesosBuscar_mem hp) ?_
  rwa [procesosBuscar_pid hp]

/-- Without wrapping, the total RAM the source computes is the sum of the sticks. -/
theorem Ram.total_eq {ram : Ram} (h : sumaSticks ram.tabla < 2 ^ 32) :
    ram.total = sumaSticks ram.tabla := by
  have hsuma : (sumaTamanios 0 ram.tabla).toNat = (0 : UInt32).toNat + sumaSticks ram.tabla :=
    toNat_sumaTamanios (by simpa using h)
  simpa [Ram.total, conexionesTamanioTotalRam_eq] using hsuma

/-! ## Sticks and processes -/

/-- Under `active.lock` the new range is set aside. -/
theorem Repartida.registrarInsertar (h : Repartida fugas aMedias apartados m suspendidos)
    {stick : StickNuevo} (hsuma : sumaSticks m.ram.tabla + stick.tamanio.toNat < 2 ^ 32) {idx : ℕ}
    {base : UInt32} {m' : KernelMemory} (hinsertar : registrarInsertar m stick = some (idx, base, m')) :
    Repartida fugas aMedias (⟨base.toNat, stick.tamanio.toNat⟩ :: apartados) m' suspendidos := by
  unfold Memoria.registrarInsertar conexionesAgregarStick at hinsertar
  by_cases hlleno : maxMemorySticks ≤ m.ram.tabla.length
  · rw [if_pos hlleno] at hinsertar
    cases hinsertar
  rw [if_neg hlleno] at hinsertar
  simp only [Option.some.injEq, Prod.mk.injEq] at hinsertar
  obtain ⟨_, hbase, rfl⟩ := hinsertar
  have hbaseNat : base.toNat = sumaSticks m.ram.tabla := by
    rw [← hbase, ← m.ram.total_eq h.suma]
    rfl
  have hsumaNueva : ∀ nuevo : MemoryStick, nuevo.tamanio = stick.tamanio →
      sumaSticks (m.ram.tabla ++ [nuevo]) = sumaSticks m.ram.tabla + stick.tamanio.toNat := by
    rintro nuevo htamanio
    simp [sumaSticks, htamanio]
  have hocupa : ∀ address,
      hits (⟨base.toNat, stick.tamanio.toNat⟩ :: apartados ++ m.ocupacion) address =
        hits ((apartados ++ m.ocupacion) ++ [⟨sumaSticks m.ram.tabla, stick.tamanio.toNat⟩])
          address := by
    intro address
    rw [hbaseNat]
    exact hits_perm (List.perm_append_singleton _ _).symm address
  have hdentro : Within (⟨base.toNat, stick.tamanio.toNat⟩ :: apartados ++ m.ocupacion)
      (sumaSticks m.ram.tabla + stick.tamanio.toNat) := by
    rw [hbaseNat]
    exact (h.juntos.snoc stick.tamanio.toNat).within.perm (List.perm_append_singleton _ _)
  refine ⟨basesAcumuladas_append.mpr ⟨h.bases, rfl⟩, ?_, ?_, ?_, ?_⟩
  · rw [hsumaNueva _ rfl]
    exact hsuma
  · rw [hsumaNueva _ rfl]
    exact (h.juntos.snoc stick.tamanio.toNat).congr hocupa hdentro
  · intro hno
    rw [hsumaNueva _ rfl]
    exact ((h.cubre hno).snoc stick.tamanio.toNat).congr hocupa hdentro
  · rw [hsumaNueva _ rfl]
    exact h.tablas.mono (Nat.le_add_right _ _)

/-- Under `mutex_memoria` it goes to the free list. -/
theorem Repartida.registrarBloque {base tamanio : UInt32} {otros : List ByteRange}
    (h : Repartida fugas aMedias apartados m suspendidos)
    (hperm : apartados.Perm (⟨base.toNat, tamanio.toNat⟩ :: otros)) :
    Repartida fugas aMedias otros (registrarBloque m base tamanio) suspendidos := by
  have hapartados := h.within_apartados.perm hperm
  obtain ⟨hfin, hotros⟩ := within_cons.mp hapartados
  obtain ⟨hlibres, hhits⟩ := bloquesLiberar_rangos base tamanio h.suma h.within_libres hfin
  have hocupa : ∀ address, hits (otros ++ (Memoria.registrarBloque m base tamanio).ocupacion) address =
      hits (apartados ++ m.ocupacion) address := by
    intro address
    have hlibre := hhits address
    rw [hits_append, hits_append, hits_perm hperm, hits_cons]
    simp only [Memoria.registrarBloque, bloquesAgregar, KernelMemory.hits_ocupacion]
    simp only [hits_cons, hits_nil] at hlibre
    omega
  have hdentro : Within (otros ++ (Memoria.registrarBloque m base tamanio).ocupacion)
      (sumaSticks m.ram.tabla) :=
    within_append.mpr ⟨hotros,
      (KernelMemory.within_ocupacion _ _).mpr ⟨hlibres, h.tablas.within⟩⟩
  exact ⟨h.bases, h.suma, h.juntos.congr hocupa hdentro,
    fun hno ↦ (h.cubre hno).congr hocupa hdentro, h.tablas⟩

theorem Repartida.registrarOutbound (h : Repartida fugas aMedias apartados m suspendidos) (idx : ℕ)
    (outSock : ℤ) : Repartida fugas aMedias apartados (registrarOutbound m idx outSock) suspendidos := by
  unfold Memoria.registrarOutbound
  split
  · exact h
  · exact h.cambiar (medidas_setOutboundSocket _ _ _) (fun _ ↦ Or.inl rfl) h.within_libres h.tablas

theorem Repartida.registrar (h : Repartida fugas aMedias apartados m suspendidos)
    {stick : StickNuevo} (hsuma : sumaSticks m.ram.tabla + stick.tamanio.toNat < 2 ^ 32)
    (outSock : ℤ) :
    Repartida fugas aMedias apartados (registrarMemoryStick m stick outSock) suspendidos := by
  unfold registrarMemoryStick
  split
  · exact h
  · rename_i idx base m' hinsertar
    exact ((h.registrarInsertar hsuma hinsertar).registrarBloque (List.Perm.refl _)).registrarOutbound
      idx outSock

theorem Repartida.crear (h : Repartida fugas aMedias apartados m suspendidos) (instrucciones : List String) :
    Repartida fugas aMedias apartados (manejarCrearProceso m pid instrucciones).2 suspendidos := by
  refine h.cambiar rfl (fun address ↦ Or.inl ?_) h.within_libres (h.tablas.crear rfl)
  simp [manejarCrearProceso]

/-! ## Segments -/

/-- Taking a range out of the free list: nothing is lost when it is refused, and otherwise a new
segment of a process in RAM makes up for it. -/
theorem Repartida.asignar (h : Repartida fugas aMedias apartados m suspendidos) (pid : ℤ) (p : Proceso)
    {tamanio base : UInt32} {libres : List BloqueLibre}
    (hasignar : bloquesAsignar m.config.worstFit m.bloquesLibres tamanio = (base, libres)) :
    (base = sinBase → Repartida fugas aMedias apartados { m with bloquesLibres := libres } suspendidos) ∧
      (base ≠ sinBase → procesosBuscar m.procesos pid = some p → (pid ∈ suspendidos → aMedias) →
        ∀ id, Repartida fugas aMedias apartados
          (agregarSegmento { m with bloquesLibres := libres } pid id base tamanio) suspendidos) := by
  obtain ⟨hlibres, hcaso⟩ := bloquesAsignar_reparto h.suma h.within_libres hasignar
  constructor
  · intro hbase
    rcases hcaso with ⟨_, hhits⟩ | ⟨hno, _⟩
    · refine h.cambiar rfl (fun address ↦ Or.inl ?_) hlibres h.tablas
      simp only [KernelMemory.hits_ocupacion, hhits]
    · exact absurd hbase hno
  · intro hbase hp hmedias id
    rcases hcaso with ⟨hsin, _⟩ | ⟨_, hfin, hhits⟩
    · exact absurd hsin hbase
    · refine h.cambiar rfl (fun address ↦ Or.inl ?_) hlibres ?_
      · have hnuevo := hits_procesosModificar hp
          (fun p ↦ { p with segmentos := p.segmentos ++ [⟨id, base, tamanio, 0⟩] }) address
        have hrango : hits (rangosSegmentos [⟨id, base, tamanio, 0⟩]) address =
            hits [⟨base.toNat, tamanio.toNat⟩] address :=
          hits_rangosSegmentos_singleton h.suma hfin address
        have := hhits address
        simp only [rangosSegmentos_append, hits_append, hrango] at hnuevo
        simp only [KernelMemory.hits_ocupacion, agregarSegmento]
        omega
      · refine h.tablas.modificar hp rfl (fun _ _ ↦ Iff.rfl) (fun hno seg hseg ↦ ?_)
          fun hsusp seg hseg hres ↦ ?_
        · rcases List.mem_append.mp hseg with hseg | hseg
          · exact h.segmentos_le hp hno seg hseg
          · rw [List.mem_singleton.mp hseg]
            exact hfin
        · rcases List.mem_append.mp hseg with hseg | hseg
          · exact h.segmentos_suspendido hp hsusp seg hseg hres
          · rw [List.mem_singleton.mp hseg]
            exact ⟨hmedias hsusp, hfin⟩

/-- The second attempt of a request, made for a process that is still there. -/
theorem Repartida.reasignar (h : Repartida fugas aMedias apartados m suspendidos)
    (hp : procesosBuscar m.procesos pid = some p) (hmedias : pid ∈ suspendidos → aMedias)
    (id tamanio : UInt32) :
    Repartida fugas aMedias apartados (reasignar m pid id tamanio).2 suspendidos := by
  obtain ⟨base, libres, hasignar⟩ : ∃ base libres,
      bloquesAsignar m.config.worstFit m.bloquesLibres tamanio = (base, libres) := ⟨_, _, rfl⟩
  obtain ⟨hrechazo, haceptado⟩ := h.asignar pid p hasignar
  simp only [Memoria.reasignar, hasignar, hp]
  split
  · exact hrechazo ‹_›
  · exact haceptado ‹_› hp hmedias id

theorem Repartida.residentes (h : Repartida fugas aMedias apartados m suspendidos) :
    Packed (rangosResidentes m.procesos) (sumaSticks m.ram.tabla) := by
  refine ⟨fun address ↦ ?_, h.tablas.within⟩
  have := h.ocupacion.disjoint address
  rw [KernelMemory.hits_ocupacion] at this
  omega

theorem Repartida.compactada (h : Repartida fugas aMedias apartados m suspendidos) (qsort : Qsort) :
    Compactada m (compactarMemoria qsort m) :=
  compactarMemoria_compactada qsort h.suma h.residentes

/-- Compaction keeps the partition, if no bytes are set aside: it gives the free list all of RAM
behind the segments. -/
theorem Repartida.compactar (h : Repartida fugas aMedias apartados m suspendidos)
    (hnada : (∃ p ∈ m.procesos, p.segmentos ≠ []) → ∀ address, hits apartados address = 0)
    (qsort : Qsort) :
    Repartida fugas aMedias apartados (compactarMemoria qsort m) suspendidos := by
  have htotal : m.ram.total = sumaSticks m.ram.tabla := m.ram.total_eq h.suma
  have hc := h.compactada qsort
  by_cases hex : ∃ p ∈ m.procesos, p.segmentos ≠ []
  · have hcabe := bytesResidentes_le h.suma h.residentes
    have hpart := hc.particion hex (by rw [htotal]; exact hcabe)
    have hsuma : sumaSticks (compactarMemoria qsort m).ram.tabla = sumaSticks m.ram.tabla :=
      hc.mismaTabla.sumaSticks
    rw [htotal, ← hsuma] at hpart
    have hocupa : ∀ address, hits (apartados ++ (compactarMemoria qsort m).ocupacion) address =
        hits (compactarMemoria qsort m).ocupacion address := by
      intro address
      rw [hits_append, hnada hex, Nat.zero_add]
    have hdentro : Within (apartados ++ (compactarMemoria qsort m).ocupacion)
        (sumaSticks (compactarMemoria qsort m).ram.tabla) := by
      rw [within_append, hsuma]
      rw [hsuma] at hpart
      exact ⟨h.within_apartados, hpart.within⟩
    refine ⟨(hc.mismaTabla.basesAcumuladas 0).mpr h.bases, ?_,
      hpart.packed.congr hocupa hdentro, fun _ ↦ hpart.congr hocupa hdentro, ?_⟩
    · rw [hsuma]
      exact h.suma
    · rw [hsuma]
      exact hc.tablasEn h.tablas hcabe
  · rw [hc.sinSegmentos hex]
    exact h

/-- A request that has to wait for a compaction: the process is there, and only the free list may
have been merged. -/
theorem solicitarSinCompactar_none {m' : KernelMemory} {id tamanio : UInt32}
    (h : solicitarSinCompactar m pid id tamanio = (none, m')) :
    ∃ p libres, procesosBuscar m.procesos pid = some p ∧
      bloquesAsignar m.config.worstFit m.bloquesLibres tamanio = (sinBase, libres) ∧
        m' = { m with bloquesLibres := libres } := by
  unfold solicitarSinCompactar at h
  split at h
  · cases h
  split at h
  · cases h
  rename_i p hp
  obtain ⟨base, libres, hasignar⟩ : ∃ base libres,
      bloquesAsignar m.config.worstFit m.bloquesLibres tamanio = (base, libres) := ⟨_, _, rfl⟩
  simp only [hasignar] at h
  split at h
  · rename_i hbase
    split at h
    · cases h
    · obtain ⟨_, rfl⟩ := Prod.mk.inj h
      exact ⟨p, libres, hp, by rw [hasignar, hbase], rfl⟩
  · cases h

theorem Repartida.demorado (h : Repartida fugas aMedias apartados m suspendidos) {id tamanio : UInt32}
    {m' : KernelMemory} (hsolicitar : solicitarSinCompactar m pid id tamanio = (none, m')) :
    Repartida fugas aMedias apartados m' suspendidos := by
  obtain ⟨p, libres, _, hasignar, rfl⟩ := solicitarSinCompactar_none hsolicitar
  exact (h.asignar pid p hasignar).1 rfl

/-- A request that is answered at once. -/
theorem Repartida.respondido (h : Repartida fugas aMedias apartados m suspendidos)
    (hmedias : pid ∈ suspendidos → aMedias) {id tamanio : UInt32} {respuesta : List Mensaje}
    {m' : KernelMemory} (hsolicitar : solicitarSinCompactar m pid id tamanio = (some respuesta, m')) :
    Repartida fugas aMedias apartados m' suspendidos := by
  unfold solicitarSinCompactar at hsolicitar
  split at hsolicitar
  · obtain ⟨_, rfl⟩ := Prod.mk.inj hsolicitar
    exact h
  split at hsolicitar
  · obtain ⟨_, rfl⟩ := Prod.mk.inj hsolicitar
    exact h
  rename_i p hp
  obtain ⟨base, libres, hasignar⟩ : ∃ base libres,
      bloquesAsignar m.config.worstFit m.bloquesLibres tamanio = (base, libres) := ⟨_, _, rfl⟩
  obtain ⟨hrechazo, haceptado⟩ := h.asignar pid p hasignar
  simp only [hasignar] at hsolicitar
  split at hsolicitar
  · rename_i hbase
    split at hsolicitar
    · obtain ⟨_, rfl⟩ := Prod.mk.inj hsolicitar
      exact hrechazo hbase
    · cases hsolicitar
  · rename_i hbase
    obtain ⟨_, rfl⟩ := Prod.mk.inj hsolicitar
    exact haceptado hbase hp hmedias id

theorem Repartida.solicitar (h : Repartida fugas aMedias [] m suspendidos)
    (hmedias : pid ∈ suspendidos → aMedias) (qsort : Qsort) (id tamanio : UInt32) :
    Repartida fugas aMedias [] (manejarSolicitarSegmento qsort m pid id tamanio).2 suspendidos := by
  unfold manejarSolicitarSegmento
  split
  · rename_i hsolicitar
    exact h.respondido hmedias hsolicitar
  · -- compaction, and a second attempt
    rename_i m₁ hsolicitar
    have h₁ := h.demorado hsolicitar
    obtain ⟨p, _, hp, _, rfl⟩ := solicitarSinCompactar_none hsolicitar
    obtain ⟨p', hp', _⟩ := (h₁.compactada qsort).encontrado hp
    exact (h₁.compactar (fun _ _ ↦ rfl) qsort).reasignar hp' hmedias id tamanio

/-- The first segment with an id and the table without it. -/
theorem eliminar_perm {segmentos : List Segmento} {id : UInt32} {seg : Segmento}
    (h : (segmentos.find? fun s ↦ s.id = id) = some seg) :
    segmentos.Perm (seg :: segmentos.eraseP fun s ↦ s.id = id) := by
  obtain ⟨hid, antes, despues, rfl, hantes⟩ := List.find?_eq_some_iff_append.mp h
  have hno : ∀ s ∈ antes, ¬ (decide (s.id = id)) = true := fun s hs ↦ by simpa using hantes s hs
  have hquita : (seg :: despues).eraseP (fun s ↦ s.id = id) = despues :=
    List.eraseP_cons_of_pos hid
  rw [List.eraseP_append_right _ hno, hquita]
  exact List.perm_middle

/-- The segment that is deleted lies in RAM. -/
theorem Repartida.eliminarDentro (h : Repartida fugas aMedias apartados m suspendidos) {id : UInt32}
    (hdentro : ∀ p ∈ procesosBuscar m.procesos pid, ∀ seg ∈ p.segmentos.find? fun seg ↦ seg.id = id,
      seg.base.toNat + seg.limite.toNat ≤ sumaSticks m.ram.tabla) :
    Repartida fugas aMedias apartados (manejarEliminarSegmento m pid id).2 suspendidos := by
  unfold manejarEliminarSegmento
  split
  · exact h
  rename_i p hp
  split
  · exact h
  rename_i seg hseg
  have hperm := eliminar_perm hseg
  have hfin := hdentro p hp seg hseg
  obtain ⟨hlibres, hhits⟩ := bloquesLiberar_rangos _ _ h.suma h.within_libres hfin
  refine h.cambiar rfl (fun address ↦ Or.inl ?_) hlibres ?_
  · have htabla := hits_ponerSegmentos hp (p.segmentos.eraseP fun s ↦ s.id = id) address
    have hlibre := hhits address
    have hresto : hits (rangosSegmentos (seg :: p.segmentos.eraseP fun s ↦ s.id = id)) address =
        hits [seg.rango] address +
          hits (rangosSegmentos (p.segmentos.eraseP fun s ↦ s.id = id)) address :=
      hits_rangosSegmentos_cons h.suma hfin address
    rw [← hits_perm (rangosSegmentos_perm hperm)] at hresto
    simp only [Segmento.rango] at hresto
    simp only [KernelMemory.hits_ocupacion]
    simp only [ponerSegmentos] at htabla ⊢
    omega
  · apply h.tablas.modificar hp rfl fun _ _ ↦ Iff.rfl
    · exact fun hno s hs ↦ h.segmentos_le hp hno s (List.mem_of_mem_eraseP hs)
    · exact fun hsusp s hs ↦ h.segmentos_suspendido hp hsusp s (List.mem_of_mem_eraseP hs)

theorem Repartida.eliminar (h : Repartida fugas aMedias apartados m suspendidos) (hno : pid ∉ suspendidos) (id : UInt32) :
    Repartida fugas aMedias apartados (manejarEliminarSegmento m pid id).2 suspendidos :=
  h.eliminarDentro fun _ hp seg hseg ↦ h.segmentos_le hp hno seg (List.mem_of_find?_eq_some hseg)

/-! ## The end of a process -/

theorem mem_filter_ne {otro : ℤ} (hotro : otro ≠ pid) :
    otro ∈ suspendidos.filter (· ≠ pid) ↔ otro ∈ suspendidos := by
  simp [hotro]

theorem Repartida.finalizar (h : Repartida fugas aMedias apartados m suspendidos) :
    Repartida fugas aMedias apartados (manejarFinalizarProceso m pid).2 (suspendidos.filter (· ≠ pid)) := by
  unfold manejarFinalizarProceso
  split
  · -- the process is not there, and no process has its pid
    rename_i hp
    have hpid : ∀ q ∈ m.procesos, q.pid ≠ pid := fun q hq hqpid ↦ by
      simpa [hqpid] using List.find?_eq_none.mp hp q hq
    refine h.cambiar rfl (fun _ ↦ Or.inl rfl) h.within_libres
      ⟨fun q hq hs ↦ ?_, fun q hq hs ↦ ?_, ?_⟩
    · exact h.tablas.activo q hq fun hs' ↦ hs ((mem_filter_ne (hpid q hq)).mpr hs')
    · exact h.tablas.suspendido q hq ((mem_filter_ne (hpid q hq)).mp hs)
    · exact h.tablas.sombra
  · rename_i p hp
    have hsegs := (within_rangosResidentes.mp h.tablas.within) p (procesosBuscar_mem hp)
    obtain ⟨hlibres, hhits⟩ := liberarSegmentos_rangos h.suma h.within_libres hsegs
    refine h.cambiar rfl (fun address ↦ Or.inl ?_) hlibres
      (h.tablas.quitar hp fun otro hotro ↦ mem_filter_ne hotro)
    have htabla := hits_procesosQuitar hp address
    have hlibre := hhits address
    simp only [KernelMemory.hits_ocupacion]
    omega

/-! ## Suspension and resumption -/

theorem manejarSuspenderProceso_snd (m : KernelMemory) (pid : ℤ) :
    (manejarSuspenderProceso m pid).2 = (suspenderProceso m pid).2 := by
  unfold manejarSuspenderProceso
  split <;> simp_all

theorem manejarDesSuspenderProceso_snd (m : KernelMemory) (pid : ℤ) :
    (manejarDesSuspenderProceso m pid).2 = (desSuspenderProceso m pid).2 := by
  unfold manejarDesSuspenderProceso
  split <;> simp_all

/-- A suspension of a process that was not suspended, however it ends short of a failed transfer.
Only one that ran to its end leaves no segment in RAM. -/
theorem Repartida.suspender (h : Repartida fugas aMedias apartados m suspendidos) {fin : FinSuspension}
    {m' : KernelMemory} (hfin : suspenderProceso m pid = (fin, m')) :
    (fin = .sinProceso → m' = m) ∧
      (pid ∉ suspendidos → fin ≠ .sinProceso → (fin = .completa ∨ aMedias) →
        Repartida fugas aMedias apartados m' (pid :: suspendidos)) := by
  unfold suspenderProceso at hfin
  split at hfin
  · obtain ⟨rfl, rfl⟩ := Prod.mk.inj hfin
    exact ⟨fun _ ↦ rfl, fun _ hno ↦ absurd rfl hno⟩
  rename_i p hp
  have hotros : ∀ q, q ≠ pid → (q ∈ pid :: suspendidos ↔ q ∈ suspendidos) := by
    intro q hq
    simp [hq]
  split at hfin
  · -- without a swap nothing changes but what the scheduler believes
    obtain ⟨rfl, rfl⟩ := Prod.mk.inj hfin
    refine ⟨fun _ ↦ rfl, fun hno _ hmedias ↦ ?_⟩
    have hmedias : aMedias := hmedias.resolve_left nofun
    have htablas : TablasEn aMedias (procesosModificar pid (fun q ↦ q) m.procesos)
        (pid :: suspendidos) (sumaSticks m.ram.tabla) :=
      h.tablas.modificar hp rfl hotros (fun hno' ↦ absurd List.mem_cons_self hno')
        fun _ seg hseg _ ↦ ⟨hmedias, h.segmentos_le hp hno seg hseg⟩
    have hmismos : procesosModificar pid (fun q ↦ q) m.procesos = m.procesos := by
      obtain ⟨antes, despues, heq, _, _, hmod, _⟩ := procesosBuscar_split hp
      rw [hmod, heq]
    rw [hmismos] at htablas
    exact h.cambiar rfl (fun _ ↦ Or.inl rfl) h.within_libres htablas
  · obtain ⟨fin', segmentos, m₁, hloop⟩ : ∃ fin segmentos m',
        suspenderSegmentos p.segmentos m = (fin, segmentos, m') := ⟨_, _, _, rfl⟩
    rw [hloop] at hfin
    obtain ⟨rfl, rfl⟩ := Prod.mk.inj hfin
    refine ⟨fun hsin ↦ absurd hsin (suspenderSegmentos_fin hloop).1, fun hno _ hmedias ↦ ?_⟩
    have hs := suspenderSegmentos_suspendidos h.suma h.within_libres (h.segmentos_le hp hno) hloop
    refine h.cambiar hs.tabla.medidas (fun address ↦ Or.inl ?_) hs.within ?_
    · have htabla := hits_ponerSegmentos hp segmentos address
      have hlibre := hs.hits address
      simp only [KernelMemory.hits_ocupacion]
      simp only [ponerSegmentos, hs.procesos] at htabla ⊢
      omega
    · rw [ponerSegmentos, hs.procesos]
      refine h.tablas.modificar hp rfl hotros (fun hno' ↦ absurd List.mem_cons_self hno')
        fun _ seg hseg hres ↦ ?_
      rcases hmedias with hfin | hmedias
      · exact absurd hres (hs.completa hfin seg hseg)
      · exact ⟨hmedias, (hs.donde seg hseg).resolve_left (not_not.mpr hres)⟩

/-- What a resumption does, when it is refused and when it succeeds. It places every segment anew:
the range of a segment that was still in RAM is in no list any more. -/
theorem desSuspenderProceso_cases {fin : FinReanudacion} {m' : KernelMemory}
    (h : Repartida fugas aMedias apartados m suspendidos) (hfin : desSuspenderProceso m pid = (fin, m'))
    (hfallo : fin ≠ .fallo) :
    (fin ≠ .completa ∧ m'.procesos = m.procesos ∧ m'.ram = m.ram ∧ m'.swap = m.swap ∧
        m'.config = m.config ∧ Within (rangosLibres m'.bloquesLibres) (sumaSticks m.ram.tabla) ∧
        ∀ address, hits m'.ocupacion address = hits m.ocupacion address) ∨
      ∃ p segmentos libres, fin = .completa ∧ procesosBuscar m.procesos pid = some p ∧
        0 ≤ m.swap.socket ∧
        reservarSegmentos m.config.worstFit p.segmentos m.bloquesLibres =
          (true, segmentos, libres) ∧
        transferirSwapARam segmentos
          (ponerSegmentos { m with bloquesLibres := libres } pid segmentos) = (true, m') ∧
        (∀ seg ∈ segmentos, seg.Residente ∧
          seg.base.toNat + seg.limite.toNat ≤ sumaSticks m.ram.tabla) ∧
        Within (rangosLibres libres) (sumaSticks m.ram.tabla) ∧
        ∀ address, hits m'.ocupacion address + hits (rangosSegmentos p.segmentos) address =
          hits m.ocupacion address := by
  unfold desSuspenderProceso at hfin
  split at hfin
  · obtain ⟨rfl, rfl⟩ := Prod.mk.inj hfin
    exact Or.inl ⟨nofun, rfl, rfl, rfl, rfl, h.within_libres, fun _ ↦ rfl⟩
  rename_i p hp
  split at hfin
  · obtain ⟨rfl, rfl⟩ := Prod.mk.inj hfin
    exact Or.inl ⟨nofun, rfl, rfl, rfl, rfl, h.within_libres, fun _ ↦ rfl⟩
  rename_i hswap
  obtain ⟨reservas, libres, hreservar⟩ : ∃ reservas libres, reservarSegmentosConRollback
      m.config.worstFit p.segmentos m.bloquesLibres = (reservas, libres) := ⟨_, _, rfl⟩
  obtain ⟨hlibres, hcaso⟩ := reservarSegmentosConRollback_cases h.suma h.within_libres hreservar
  rw [hreservar] at hfin
  rcases hcaso with ⟨rfl, hhits⟩ | ⟨segmentos, rfl, hreserva, hsegs, hhits⟩
  · obtain ⟨rfl, rfl⟩ := Prod.mk.inj hfin
    refine Or.inl ⟨nofun, rfl, rfl, rfl, rfl, hlibres, fun address ↦ ?_⟩
    simp only [KernelMemory.hits_ocupacion, hhits]
  · have hdisp := transferirSwapARam_soloDispositivos segmentos
      (ponerSegmentos { m with bloquesLibres := libres } pid segmentos)
    obtain ⟨todo, m₁, htransferir⟩ : ∃ todo m', transferirSwapARam segmentos
        (ponerSegmentos { m with bloquesLibres := libres } pid segmentos) = (todo, m') :=
      ⟨_, _, rfl⟩
    simp only [htransferir] at hfin hdisp
    cases todo with
    | false =>
      obtain ⟨rfl, rfl⟩ := Prod.mk.inj hfin
      exact absurd rfl hfallo
    | true =>
      obtain ⟨rfl, rfl⟩ := Prod.mk.inj hfin
      refine Or.inr ⟨p, segmentos, libres, rfl, hp, not_lt.mp hswap, hreserva, htransferir, hsegs,
        hlibres, fun address ↦ ?_⟩
      have htabla := hits_ponerSegmentos hp segmentos address
      have hlibre := hhits address
      simp only [KernelMemory.hits_ocupacion, hdisp.procesos, hdisp.libres]
      simp only [ponerSegmentos] at htabla ⊢
      omega

/-- The process that is found decides whether there was one. -/
theorem desSuspenderProceso_fin (hp : procesosBuscar m.procesos pid = some p) :
    (desSuspenderProceso m pid).1 ≠ .sinProceso := by
  unfold desSuspenderProceso
  rw [hp]
  simp only
  split
  · exact nofun
  split
  · exact nofun
  split <;> exact nofun

/-- A resumption leaks nothing when no segment with bytes was left in RAM. -/
theorem Repartida.desSuspender (h : Repartida fugas aMedias apartados m suspendidos) {fin : FinReanudacion}
    {m' : KernelMemory} (hfin : desSuspenderProceso m pid = (fin, m')) (hfallo : fin ≠ .fallo)
    (hsin : fugas ∨ ∀ p, procesosBuscar m.procesos pid = some p →
      ∀ seg ∈ p.segmentos, seg.Residente → seg.limite = 0) :
    (fin ≠ .completa → Repartida fugas aMedias apartados m' suspendidos) ∧
      (fin = .completa → Repartida fugas aMedias apartados m' (suspendidos.filter (· ≠ pid))) := by
  rcases desSuspenderProceso_cases h hfin hfallo with
    ⟨hno, hprocesos, hram, _, _, hlibres, hhits⟩ |
    ⟨p, segmentos, libres, rfl, hp, _, _, htransferir, hsegs, hlibres, hhits⟩
  · refine ⟨fun _ ↦ h.cambiar (by rw [hram]) (fun address ↦ Or.inl (hhits address)) hlibres ?_,
      fun hcompleta ↦ absurd hcompleta hno⟩
    rw [hprocesos]
    exact h.tablas
  · have hdisp := transferirSwapARam_soloDispositivos segmentos
      (ponerSegmentos { m with bloquesLibres := libres } pid segmentos)
    rw [htransferir] at hdisp
    refine ⟨fun hno ↦ absurd rfl hno, fun _ ↦
      h.cambiar hdisp.tabla.medidas (fun address ↦ ?_) ?_ ?_⟩
    · have hsuma := hhits address
      rcases hsin with hfugas | hsin
      · exact Or.inr ⟨hfugas, by omega⟩
      · rw [hits_rangosSegmentos_eq_zero (hsin p hp)] at hsuma
        exact Or.inl (by omega)
    · rw [hdisp.libres]
      exact hlibres
    · rw [hdisp.procesos]
      refine h.tablas.modificar hp rfl (fun otro hotro ↦ mem_filter_ne hotro)
        (fun _ seg hseg ↦ (hsegs seg hseg).2) fun hsusp ↦ ?_
      simp at hsusp

/-! ## Data -/

theorem manejarLecturaMemoria_soloDispositivos (m : KernelMemory) (pid : ℤ) (dir tamanio : UInt32) :
    SoloDispositivos m (manejarLecturaMemoria m pid dir tamanio).2 := by
  unfold manejarLecturaMemoria
  split
  · exact SoloDispositivos.refl m
  split
  · exact SoloDispositivos.refl m
  rename_i dirFisica _
  split
  · exact SoloDispositivos.refl m
  have htabla := tabla_memoryIoLeer m.ram dirFisica tamanio
  split
  · rename_i heq
    rw [heq] at htabla
    exact ⟨rfl, rfl, rfl, by rw [← htabla]; exact MismaTabla.refl _, rfl⟩
  · rename_i heq
    rw [heq] at htabla
    exact ⟨rfl, rfl, rfl, by rw [← htabla]; exact MismaTabla.refl _, rfl⟩

theorem manejarEscrituraMemoria_soloDispositivos (m : KernelMemory) (pid : ℤ)
    (dir tamanio : UInt32) (datos : List UInt8) :
    SoloDispositivos m (manejarEscrituraMemoria m pid dir tamanio datos).2 := by
  unfold manejarEscrituraMemoria
  split
  · exact SoloDispositivos.refl m
  split
  · exact SoloDispositivos.refl m
  split
  · exact SoloDispositivos.refl m
  · exact ⟨rfl, rfl, rfl, mismaTabla_memoryIoEscribir _ _ _ _, rfl⟩

/-! ## Runs -/

theorem Repartida.inicial (hprocesos : m.procesos = []) (hlibres : m.bloquesLibres = [])
    (htabla : m.ram.tabla = []) : Repartida fugas aMedias [] m suspendidos := by
  have hpart : Partition m.ocupacion (sumaSticks m.ram.tabla) := by
    rw [htabla, KernelMemory.ocupacion, hprocesos, hlibres]
    exact ⟨fun _ ↦ rfl, within_nil⟩
  refine ⟨?_, ?_, hpart.packed, fun _ ↦ hpart, ?_⟩
  · rw [htabla]
    trivial
  · rw [htabla]
    decide
  · rw [hprocesos]
    exact ⟨by simp, by simp, List.Pairwise.nil⟩

/-- The resumptions of a run without leaks: no segment with bytes was left in RAM. -/
def Corrida.SinFuga (c : Corrida) : Operacion → Prop
  | .desSuspenderProceso pid => ∀ p, procesosBuscar c.memoria.procesos pid = some p →
      ∀ seg ∈ p.segmentos, seg.Residente → seg.limite = 0
  | _ => True

/-- The requests of a run without half-suspended processes: suspensions find enough blocks, and no
memory is asked for on behalf of a suspended process. -/
def Corrida.SinMedias (c : Corrida) : Operacion → Prop
  | .suspenderProceso pid => (suspenderProceso c.memoria pid).1 = .sinProceso ∨
      (suspenderProceso c.memoria pid).1 = .completa
  | .solicitarSegmento pid _ _ => pid ∉ c.suspendidos
  | _ => True

/-- One step of a run. -/
theorem Repartida.paso {qsort : Qsort} {c c' : Corrida} {op : Operacion}
    (h : Repartida fugas aMedias [] c.memoria c.suspendidos) (hfugas : fugas ∨ c.SinFuga op)
    (hmedias : aMedias ∨ c.SinMedias op) (hpaso : c.paso qsort op = some c') :
    Repartida fugas aMedias [] c'.memoria c'.suspendidos := by
  unfold Corrida.paso at hpaso
  split at hpaso
  case isFalse => cases hpaso
  rename_i hpide
  obtain rfl := Option.some.inj hpaso
  cases op with
  | registrarMemoryStick stick outSock => exact h.registrar hpide outSock
  | registrarSwap nuevo => exact ⟨h.bases, h.suma, h.juntos, h.cubre, h.tablas⟩
  | crearProceso pid instrucciones => exact h.crear instrucciones
  | solicitarSegmento pid id tamanio =>
    exact h.solicitar (fun hsusp ↦ hmedias.resolve_right (not_not.mpr hsusp)) qsort id tamanio
  | eliminarSegmento pid id => exact h.eliminar hpide id
  | finalizarProceso pid => exact h.finalizar
  | suspenderProceso pid =>
    obtain ⟨fin, m', hfin⟩ : ∃ fin m', suspenderProceso c.memoria pid = (fin, m') := ⟨_, _, rfl⟩
    obtain ⟨hsin, hresto⟩ := h.suspender hfin
    simp only [Corrida.Pide, Corrida.SinMedias, hfin] at hpide hmedias
    simp only [atender, manejarSuspenderProceso_snd, Corrida.suspendidosTras, hfin]
    split
    · rename_i hno
      rw [hsin hno]
      exact h
    · rename_i hno
      refine hresto (hpide.resolve_left hno).1 hno ?_
      exact hmedias.symm.imp_left fun hcompleta ↦ hcompleta.resolve_left hno
  | desSuspenderProceso pid =>
    obtain ⟨fin, m', hfin⟩ : ∃ fin m', desSuspenderProceso c.memoria pid = (fin, m') :=
      ⟨_, _, rfl⟩
    simp only [Corrida.Pide, hfin] at hpide
    have hfallo : fin ≠ .fallo := by
      rcases hpide with rfl | ⟨_, hno⟩
      · exact nofun
      · exact hno
    obtain ⟨hno, hsi⟩ := h.desSuspender hfin hfallo hfugas
    simp only [atender, manejarDesSuspenderProceso_snd, Corrida.suspendidosTras, hfin]
    split
    · exact hsi ‹_›
    · exact hno ‹_›
  | obtenerEspacioLibre => exact h
  | lecturaMemoria pid dir tamanio =>
    exact h.dispositivos (manejarLecturaMemoria_soloDispositivos _ _ _ _)
  | escrituraMemoria pid dir tamanio datos =>
    exact h.dispositivos (manejarEscrituraMemoria_soloDispositivos _ _ _ _ _)

end

/-- The requests of a run with enough swap blocks. -/
def Corrida.ConBloques (c : Corrida) : Operacion → Prop
  | .suspenderProceso pid => (suspenderProceso c.memoria pid).1 = .sinProceso ∨
      (suspenderProceso c.memoria pid).1 = .completa
  | _ => True

instance (c : Corrida) : (op : Operacion) → Decidable (c.ConBloques op)
  | .suspenderProceso _ => inferInstanceAs (Decidable (_ ∨ _))
  | .registrarMemoryStick _ _ | .registrarSwap _ | .crearProceso _ _ | .solicitarSegmento _ _ _
  | .eliminarSegmento _ _ | .finalizarProceso _ | .desSuspenderProceso _ | .obtenerEspacioLibre
  | .lecturaMemoria _ _ _ | .escrituraMemoria _ _ _ _ => inferInstanceAs (Decidable True)

instance (c : Corrida) : (op : Operacion) → Decidable (c.SinMedias op)
  | .solicitarSegmento _ _ _ => inferInstanceAs (Decidable (_ ∉ _))
  | .suspenderProceso _ => inferInstanceAs (Decidable (_ ∨ _))
  | .registrarMemoryStick _ _ | .registrarSwap _ | .crearProceso _ _ | .eliminarSegmento _ _
  | .finalizarProceso _ | .desSuspenderProceso _ | .obtenerEspacioLibre | .lecturaMemoria _ _ _
  | .escrituraMemoria _ _ _ _ => inferInstanceAs (Decidable True)

/-- Without half-suspended processes nothing leaks: a resumed process has no segment in RAM. -/
theorem Repartida.pasoSinMedias {qsort : Qsort} {c c' : Corrida} {op : Operacion}
    (h : Repartida False False [] c.memoria c.suspendidos) (hmedias : c.SinMedias op)
    (hpaso : c.paso qsort op = some c') : Repartida False False [] c'.memoria c'.suspendidos := by
  refine h.paso (Or.inr ?_) (Or.inr hmedias) hpaso
  unfold Corrida.paso at hpaso
  split at hpaso
  case isFalse => cases hpaso
  rename_i hpide
  cases op with
  | desSuspenderProceso pid =>
    intro p hp seg hseg hres
    have hsusp : pid ∈ c.suspendidos := by
      rcases hpide with hfin | ⟨hsusp, _⟩
      · exact absurd hfin (desSuspenderProceso_fin hp)
      · exact hsusp
    exact (h.segmentos_suspendido hp hsusp seg hseg hres).1.elim
  | _ => trivial

/-- Physical memory is partitioned: in every state of every run in which suspensions find enough
swap blocks and memory is asked for only on behalf of processes that are not suspended, each address
below the sum of the stick sizes lies in exactly one free block or resident segment, and none of
these ends past that sum. -/
theorem memoria_particionada (qsort : Qsort) (c : Corrida)
    (h : Reachable (Corrida.paso qsort) Corrida.Inicial Corrida.SinMedias c) :
    Partition c.memoria.ocupacion (sumaSticks c.memoria.ram.tabla) := by
  have hrepartida : Repartida False False [] c.memoria c.suspendidos :=
    h.invariant (P := fun c ↦ Repartida False False [] c.memoria c.suspendidos)
      (fun _ hc ↦ Repartida.inicial hc.1 hc.2.1 hc.2.2.1)
      fun _ _ _ hinv hmedias hpaso ↦ hinv.pasoSinMedias hmedias hpaso
  exact hrepartida.cubre id

/-- Kernel Memory as it starts, with segments of at most 16 bytes. -/
def corridaInicial : Corrida where
  memoria :=
    { config := ⟨16, none⟩
      procesos := []
      bloquesLibres := []
      ram := ⟨[], [], 0⟩
      swap := .desconectado }
  suspendidos := []

theorem corridaInicial_inicial : corridaInicial.Inicial := ⟨rfl, rfl, rfl, rfl, rfl⟩

def stickDeOcho : StickNuevo := ⟨1, 8, "", "", fun _ ↦ 0⟩

/-- Eight swap blocks of two bytes. -/
def swapDeOcho : SwapNuevo := ⟨3, 2, 16, fun _ ↦ 0, [], configurado_ocho_bloques⟩

/-- Two processes, a compaction to make room for a segment, and a suspension. -/
def operacionesCompactada : List Operacion :=
  [.registrarMemoryStick stickDeOcho 5, .registrarSwap swapDeOcho, .crearProceso 1 [],
    .crearProceso 2 [], .solicitarSegmento 1 0 3, .solicitarSegmento 2 0 2,
    .solicitarSegmento 1 1 2, .eliminarSegmento 1 0, .solicitarSegmento 1 2 4, .suspenderProceso 2,
    .solicitarSegmento 1 3 1]

theorem memoria_particionada_compactada :
    ∃ c : Corrida, (c.suspendidos = [2] ∧ c.memoria.bloquesLibres = [⟨1, 1⟩]) ∧
      Partition c.memoria.ocupacion (sumaSticks c.memoria.ram.tabla) := by
  have hinicio : Reachable (Corrida.paso .insercion) Corrida.Inicial Corrida.SinMedias
      corridaInicial := .start corridaInicial_inicial
  obtain ⟨c, hc, hfin⟩ := hinicio.exists_of_runAllowed operacionesCompactada
    (fun c ↦ c.suspendidos = [2] ∧ c.memoria.bloquesLibres = [⟨1, 1⟩]) (by decide)
  exact ⟨c, hfin, memoria_particionada .insercion c hc⟩

/-- Memory for a suspended process: its resumption places the new segment a second time and the
bytes it had are lost. -/
theorem solicitar_suspendido_pierde :
    ¬ ∀ (qsort : Qsort) (c : Corrida),
      Reachable (Corrida.paso qsort) Corrida.Inicial Corrida.ConBloques c →
        Partition c.memoria.ocupacion (sumaSticks c.memoria.ram.tabla) := by
  intro h
  have hinicio : Reachable (Corrida.paso .insercion) Corrida.Inicial Corrida.ConBloques
      corridaInicial := .start corridaInicial_inicial
  obtain ⟨c, hc, hsuma, hhits⟩ := hinicio.exists_of_runAllowed
    [.registrarMemoryStick stickDeOcho 5, .registrarSwap swapDeOcho, .crearProceso 1 [],
      .solicitarSegmento 1 0 3, .suspenderProceso 1, .solicitarSegmento 1 1 2,
      .desSuspenderProceso 1]
    (fun c ↦ sumaSticks c.memoria.ram.tabla = 8 ∧ hits c.memoria.ocupacion 0 = 0) (by decide)
  have hcover := (h .insercion c hc).cover 0
  rw [hsuma, hhits] at hcover
  simp at hcover

end PlugAndPlay.Memoria
