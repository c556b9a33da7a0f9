import PlugAndPlay.Cpu.MemoriasPrivadas

/-!
# Private memories: SWAP and data

The operations that move bytes. A suspension copies segments to the swap file and a resumption copies them
back; a write changes the segment of one process, and no other. What a read returns is in the end what the
process itself wrote.
-/

open PlugAndPlay.Library PrivateMemory ByteRange

namespace PlugAndPlay.Memoria

section

variable {fugas aMedias : Prop} {m m' : KernelMemory} {pid : ℤ} {p : Proceso} {suspendidos : List ℤ}
  {privadas : Memories ℤ UInt32 UInt8}

/-! ## Suspension -/

/-- A segment that a suspension went over, whether it got to the swap file or not. -/
theorem Refleja.suspender {seg seg' : Segmento} {region : Region UInt32 UInt8} (h : Refleja m seg region)
    (hswap : m.swap.Configurado) (hsocket : 0 ≤ m.swap.socket) (hram : m'.ram = m.ram)
    (hcrece : SwapCrece m.swap m'.swap) (hsin : SinDesborde seg.limite m.swap.blockSize) {top : ℕ}
    (htop : top < 2 ^ 32) (hdentro : seg.base.toNat + seg.limite.toNat ≤ top)
    (hconserva : Conserva (plano m.ram.tabla) m'.swap seg seg') : Refleja m' seg' region := by
  rcases hconserva.donde with rfl | ⟨hno, hguardado⟩
  · apply h.marco hswap
    · intro _ address _ _
      rw [hram]
    · exact fun _ ↦ hcrece
  · refine ⟨h.nombre.trans hconserva.id.symm, ?_, fun hres ↦ absurd hres hno, fun _ ↦ ?_⟩
    · rw [hconserva.limite]
      exact h.tamanio
    rcases residente_or_limite htop hdentro with hres | hcero
    · right
      refine ⟨?_, ?_, _, hguardado, (h.enRam hres).of_slice ?_⟩
      · rw [hcrece.socket]
        exact hsocket
      · rw [hconserva.limite, hcrece.blockSize]
        exact hsin
      · have hbytes := hguardado.bytes
        rw [hconserva.limite] at hbytes
        rw [h.tamanio]
        exact hbytes
    · left
      rw [hconserva.limite]
      exact hcero

/-- A suspension of a process that is not suspended, however far it gets. -/
theorem KernelMemory.Reflejan.suspender (h : m.Reflejan privadas) (huso : m.EnUso)
    (hrep : Repartida fugas aMedias [] m suspendidos) {fin : FinSuspension}
    (hfin : suspenderProceso m pid = (fin, m')) (hpide : fin = .sinProceso ∨ pid ∉ suspendidos ∧ fin ≠ .fallo)
    (hsin : m.SinDesbordes pid) : m'.EnUso ∧ m'.Reflejan privadas := by
  unfold suspenderProceso at hfin
  split at hfin
  · obtain ⟨_, rfl⟩ := Prod.mk.inj hfin
    exact ⟨huso, h⟩
  rename_i p hp
  split at hfin
  · obtain ⟨_, rfl⟩ := Prod.mk.inj hfin
    exact ⟨huso, h⟩
  rename_i hsocket
  obtain ⟨fin', segmentos', m₁, hloop⟩ : ∃ fin segmentos m',
      suspenderSegmentos p.segmentos m = (fin, segmentos, m') := ⟨_, _, _, rfl⟩
  rw [hloop] at hfin
  obtain ⟨rfl, rfl⟩ := Prod.mk.inj hfin
  obtain ⟨hno, hfallo⟩ := hpide.resolve_left (suspenderSegmentos_fin hloop).1
  have hdentro := hrep.segmentos_le hp hno
  have htotal : m.ram.total = sumaSticks m.ram.tabla := m.ram.total_eq hrep.suma
  have hbs := huso.swap (not_lt.mp hsocket)
  have hs := suspenderSegmentos_suspendidos hrep.suma hrep.within_libres hdentro hloop
  have hcrece := suspenderSegmentos_crece hloop hfallo
  obtain ⟨hram, hsegs⟩ := suspenderSegmentos_conserva hloop hfallo huso.sana hbs (hsin p hp)
    (by rw [htotal]; exact hdentro)
  have huso₁ : m₁.EnUso := by
    refine ⟨fun _ ↦ ?_, ?_, ?_⟩
    · rw [hcrece.blockSize]
      exact hbs
    · rw [hram]
      exact huso.total
    · rw [hram]
      exact huso.sana
  refine ⟨huso₁.congr rfl rfl, ?_⟩
  have hp₁ : procesosBuscar m₁.procesos pid = some p := by
    rw [hs.procesos]
    exact hp
  intro otro
  by_cases hotro : otro = pid
  · rw [hotro, segmentosDe_poner hp₁]
    have hreflejan := h pid
    rw [segmentosDe_of_buscar hp] at hreflejan
    refine Pointwise.forall₂_trans hsegs.flip
      ((List.forall₂_and_left _ _).mpr ⟨fun seg hseg ↦ hseg, hreflejan⟩) ?_
    rintro seg' seg region hconserva ⟨hmem, hrefleja⟩
    have hpuesta : Refleja m₁ seg' region := hrefleja.suspender huso.swap (not_lt.mp hsocket) hram hcrece
      (hsin p hp seg hmem) hrep.suma (hdentro seg hmem) hconserva
    exact hpuesta.congr rfl rfl
  · have hmismos : (ponerSegmentos m₁ pid segmentos').segmentosDe otro = m₁.segmentosDe otro :=
      segmentosDe_otro hotro (f := fun q ↦ { q with segmentos := segmentos' }) (fun _ ↦ rfl) rfl
    have higuales : m₁.segmentosDe otro = m.segmentosDe otro := segmentosDe_congr (by rw [hs.procesos])
    rw [hmismos, higuales]
    refine (h otro).imp fun seg region hseg ↦ ?_
    have hpuesta : Refleja m₁ seg region := by
      apply hseg.marco huso.swap
      · intro _ address _ _
        rw [hram]
      · exact fun _ ↦ hcrece
    exact hpuesta.congr rfl rfl

/-! ## Resumption -/

/-- An address of a resident segment is in no free block. -/
theorem Repartida.libre_ajeno (hrep : Repartida fugas aMedias [] m suspendidos) {seg : Segmento}
    (hseg : seg ∈ m.segmentosDe pid) (hres : seg.Residente) {address : ℕ} (hle : seg.base.toNat ≤ address)
    (hlt : address < seg.base.toNat + seg.limite.toNat) : hits (rangosLibres m.bloquesLibres) address = 0 := by
  cases hp : procesosBuscar m.procesos pid with
  | none =>
    rw [segmentosDe_of_none hp] at hseg
    cases hseg
  | some p =>
    rw [segmentosDe_of_buscar hp] at hseg
    have huna := hrep.juntos.disjoint address
    have hocupa : 0 < hits (rangosResidentes m.procesos) address :=
      hits_pos_iff.mpr ⟨_, mem_rangosResidentes (procesosBuscar_mem hp) hseg hres, hle, hlt⟩
    rw [List.nil_append, KernelMemory.hits_ocupacion] at huna
    omega

/-- What the places found for the segments need so that every one of them gets its bytes back. -/
theorem Repartida.restaurables {segmentos reservas : List Segmento} {regiones : List (Region UInt32 UInt8)}
    {libres : List BloqueLibre} (hrep : Repartida fugas aMedias [] m suspendidos) (pid : ℤ)
    (hreservar : reservarSegmentos m.config.worstFit segmentos m.bloquesLibres = (true, reservas, libres))
    (hdentro : ∀ seg ∈ reservas, seg.Residente ∧ seg.base.toNat + seg.limite.toNat ≤ sumaSticks m.ram.tabla)
    (hreflejan : List.Forall₂ (Refleja m) segmentos regiones)
    (hsin : ∀ seg ∈ segmentos, seg.Residente → seg.limite = 0) :
    Restaurables (ponerSegmentos { m with bloquesLibres := libres } pid reservas) reservas := by
  have hsuma := hrep.suma
  have htotal : m.ram.total = sumaSticks m.ram.tabla := m.ram.total_eq hsuma
  obtain ⟨_, _, hhits⟩ := reservarSegmentos_rangos hrep.suma hrep.within_libres hreservar
  have hguardados : ∀ seg ∈ segmentos, SinDesborde seg.limite m.swap.blockSize ∧ (seg.limite ≠ 0 →
      seg.swapBloqueInicio.toNat + (cantidadBloques seg.limite m.swap.blockSize).toNat < 2 ^ 32) := by
    intro seg hseg
    obtain ⟨i, hi⟩ := List.mem_iff_getElem?.mp hseg
    have hvacio : seg.limite = 0 → SinDesborde seg.limite m.swap.blockSize ∧ (seg.limite ≠ 0 →
        seg.swapBloqueInicio.toNat + (cantidadBloques seg.limite m.swap.blockSize).toNat < 2 ^ 32) := by
      intro hcero
      rw [hcero]
      exact ⟨sinDesborde_cero _, fun hno ↦ absurd rfl hno⟩
    by_cases hres : seg.Residente
    · exact hvacio (hsin seg hseg hres)
    obtain ⟨region, _, hrefleja⟩ := Pointwise.exists_of_mem_right hreflejan.flip hseg
    rcases hrefleja.enSwap hres with hcero | ⟨_, hcabe, _, hguardado, _⟩
    · exact hvacio hcero
    · exact ⟨hcabe, fun _ ↦ hguardado.bloques.trans_lt m.swap.nextBlock.toNat_lt⟩
  refine ⟨?_, ?_, ?_⟩
  · intro seg hseg
    show seg.Residente ∧ seg.base.toNat + seg.limite.toNat ≤ m.ram.total
    rw [htotal]
    exact hdentro seg hseg
  · intro seg' hseg'
    obtain ⟨seg, hseg, _, hlimite, hinicio⟩ :=
      Pointwise.exists_of_mem_right (reservarSegmentos_iguales hreservar) hseg'
    rw [hlimite, hinicio]
    exact hguardados seg hseg
  · intro address
    have huna := hrep.juntos.disjoint address
    have hlibres := hhits address
    rw [List.nil_append, KernelMemory.hits_ocupacion] at huna
    omega

/-- A resumption that leaves no bytes behind in RAM. -/
theorem KernelMemory.Reflejan.desSuspender (h : m.Reflejan privadas) (huso : m.EnUso)
    (hrep : Repartida fugas aMedias [] m suspendidos) {fin : FinReanudacion}
    (hfin : desSuspenderProceso m pid = (fin, m')) (hfallo : fin ≠ .fallo)
    (hsin : ∀ seg ∈ m.segmentosDe pid, seg.Residente → seg.limite = 0) : m'.EnUso ∧ m'.Reflejan privadas := by
  have hcrece := hrep.desSuspenderProceso_crece hfin hfallo
  rcases desSuspenderProceso_cases hrep hfin hfallo with
    ⟨_, hprocesos, hram, hswap, _⟩ | ⟨p, reservas, libres, _, hp, hsocket, hreservar, htransferir, hdentro, _⟩
  · exact ⟨huso.congr hram hswap,
      h.congr (fun otro ↦ segmentosDe_congr (by rw [hprocesos])) (congrArg Ram.tabla hram) hswap⟩
  rw [segmentosDe_of_buscar hp] at hsin
  have hreflejan := h pid
  rw [segmentosDe_of_buscar hp] at hreflejan
  have hrestaurables := hrep.restaurables pid hreservar hdentro hreflejan hsin
  obtain ⟨hsana, _, hbytes, hmarco⟩ :=
    transferirSwapARam_bytes htransferir huso.sana (huso.swap hsocket) hrestaurables
  have hdisp := transferirSwapARam_soloDispositivos reservas
    (ponerSegmentos { m with bloquesLibres := libres } pid reservas)
  rw [htransferir] at hdisp
  refine ⟨⟨?_, ?_, hsana⟩, ?_⟩
  · intro _
    rw [hcrece.blockSize]
    exact huso.swap hsocket
  · rw [hdisp.tabla.sumaSticks]
    exact huso.total
  obtain ⟨_, _, hhits⟩ := reservarSegmentos_rangos hrep.suma hrep.within_libres hreservar
  intro otro
  have hmismos : m'.segmentosDe otro =
      (ponerSegmentos { m with bloquesLibres := libres } pid reservas).segmentosDe otro :=
    segmentosDe_congr (by rw [hdisp.procesos])
  rw [hmismos]
  by_cases hotro : otro = pid
  · have hp' : procesosBuscar { m with bloquesLibres := libres }.procesos pid = some p := hp
    rw [hotro, segmentosDe_poner hp']
    -- the table as it was, between the places found and the regions
    refine Pointwise.forall₂_trans (Pointwise.forall₂_mem_right (reservarSegmentos_iguales hreservar)).flip
      ((List.forall₂_and_left _ _).mpr ⟨fun seg hseg ↦ hseg, hreflejan⟩) ?_
    rintro seg' seg region ⟨⟨hid, hlimite, hinicio⟩, hmem'⟩ ⟨hmem, hrefleja⟩
    have hres' := (hdentro seg' hmem').1
    refine ⟨?_, ?_, fun _ ↦ ?_, fun hno ↦ absurd hres' hno⟩
    · rw [hid]
      exact hrefleja.nombre
    · rw [hlimite]
      exact hrefleja.tamanio
    · have hvacia : seg.limite = 0 → Holds (plano m'.ram.tabla) seg'.base.toNat region := by
        intro hcero
        apply holds_of_empty
        rw [hrefleja.tamanio, hcero, UInt32.toNat_zero]
      by_cases hres : seg.Residente
      · exact hvacia (hsin seg hmem hres)
      rcases hrefleja.enSwap hres with hcero | ⟨_, _, _, _, hholds⟩
      · exact hvacia hcero
      · apply hholds.of_slice
        rw [hrefleja.tamanio, ← hlimite, ← hinicio]
        exact hbytes seg' hmem'
  · have higuales : (ponerSegmentos { m with bloquesLibres := libres } pid reservas).segmentosDe otro =
        m.segmentosDe otro :=
      segmentosDe_otro hotro (f := fun q ↦ { q with segmentos := reservas }) (fun _ ↦ rfl) rfl
    rw [higuales]
    refine ((List.forall₂_and_left _ _).mpr ⟨fun seg hseg ↦ hseg, h otro⟩).imp ?_
    rintro seg region ⟨hmem, hrefleja⟩
    apply hrefleja.marco huso.swap
    · intro hres address hle hlt
      apply hmarco
      have hlibre := hrep.libre_ajeno hmem hres hle hlt
      have hsuma := hhits address
      omega
    · exact fun _ ↦ hcrece

/-! ## Reads and writes -/

/-- The bytes asked for are in a resident segment of the process. -/
structure Alcanza (m : KernelMemory) (pid : ℤ) (dir tamanio : UInt32) (seg : Segmento) : Prop where
  nombra : (m.segmentosDe pid).find? (fun s ↦ s.id = dir / m.config.segmentMaxSize.toUInt32) = some seg
  cabe : (dir % m.config.segmentMaxSize.toUInt32).toNat + tamanio.toNat ≤ seg.limite.toNat
  residente : seg.Residente

/-- What is known of the bytes at a logical address of a process. -/
def KernelMemory.conocidos (m : KernelMemory) (privadas : Memories ℤ UInt32 UInt8) (pid : ℤ) (dir : UInt32)
    (cantidad : ℕ) : Option (List (Option UInt8)) :=
  load privadas pid (dir / m.config.segmentMaxSize.toUInt32) (dir % m.config.segmentMaxSize.toUInt32).toNat
    cantidad

/-- The write of a process at a logical address. -/
def KernelMemory.escritura (m : KernelMemory) (pid : ℤ) (dir : UInt32) (datos : List UInt8) :
    Op ℤ UInt32 UInt8 :=
  .store pid (dir / m.config.segmentMaxSize.toUInt32) (dir % m.config.segmentMaxSize.toUInt32).toNat datos

section

variable {dir tamanio : UInt32} {seg : Segmento}

theorem KernelMemory.Reflejan.nombra (h : m.Reflejan privadas) (pid : ℤ) (num : UInt32) :
    Option.Rel (Refleja m) ((m.segmentosDe pid).find? fun s ↦ s.id = num) (find (privadas pid) num) :=
  Pointwise.rel_find?_of_forall₂ (h pid) fun seg region hseg ↦ by rw [hseg.nombre]

/-- What is known of bytes that can be reached. -/
theorem KernelMemory.Reflejan.conocidos_alcanza (h : m.Reflejan privadas)
    (hseg : Alcanza m pid dir tamanio seg) : ∃ region, Refleja m seg region ∧
      m.conocidos privadas pid dir tamanio.toNat = some (ByteMemory.slice region.cells
        (dir % m.config.segmentMaxSize.toUInt32).toNat tamanio.toNat) := by
  have hnombra := h.nombra pid (dir / m.config.segmentMaxSize.toUInt32)
  rw [hseg.nombra] at hnombra
  obtain ⟨region, hregion, hrefleja⟩ : ∃ region,
      find (privadas pid) (dir / m.config.segmentMaxSize.toUInt32) = some region ∧ Refleja m seg region := by
    generalize find (privadas pid) _ = hallada at hnombra ⊢
    cases hnombra with
    | some hrefleja => exact ⟨_, rfl, hrefleja⟩
  refine ⟨region, hrefleja, ?_⟩
  unfold KernelMemory.conocidos load
  rw [hregion, Option.bind_some, if_pos]
  rw [hrefleja.tamanio]
  exact hseg.cabe

/-- Every segment of a process that is not suspended is in RAM. -/
theorem Repartida.activo_residente (hrep : Repartida fugas aMedias [] m suspendidos) (huso : m.EnUso)
    (hno : pid ∉ suspendidos) (hseg : seg ∈ m.segmentosDe pid) :
    seg.Residente ∧ seg.base.toNat + seg.limite.toNat ≤ sumaSticks m.ram.tabla := by
  cases hp : procesosBuscar m.procesos pid with
  | none =>
    rw [segmentosDe_of_none hp] at hseg
    cases hseg
  | some p =>
    rw [segmentosDe_of_buscar hp] at hseg
    have hle := hrep.segmentos_le hp hno seg hseg
    have htope := huso.total
    refine ⟨fun hbase ↦ ?_, hle⟩
    rw [show seg.base = sinBase from hbase, toNat_sinBase] at hle
    omega

/-- An active process reaches everything of which anything may be known. -/
theorem KernelMemory.Reflejan.alcanza_of_conocidos (h : m.Reflejan privadas)
    (hrep : Repartida fugas aMedias [] m suspendidos) (huso : m.EnUso) (hno : pid ∉ suspendidos)
    (hconocidos : (m.conocidos privadas pid dir tamanio.toNat).isSome) : ∃ seg, Alcanza m pid dir tamanio seg := by
  have hnombra := h.nombra pid (dir / m.config.segmentMaxSize.toUInt32)
  unfold KernelMemory.conocidos load at hconocidos
  generalize find (privadas pid) _ = hallada at hnombra hconocidos
  cases hseg : (m.segmentosDe pid).find? fun s ↦ s.id = dir / m.config.segmentMaxSize.toUInt32 with
  | none =>
    rw [hseg] at hnombra
    cases hnombra
    cases hconocidos
  | some seg =>
    rw [hseg] at hnombra
    cases hnombra with
    | some hrefleja =>
      refine ⟨seg, hseg, ?_, (hrep.activo_residente huso hno (List.mem_of_find?_eq_some hseg)).1⟩
      rw [Option.bind_some, hrefleja.tamanio] at hconocidos
      by_contra hlargo
      rw [if_neg hlargo] at hconocidos
      cases hconocidos

/-- How Kernel Memory translates a request whose end does not wrap. -/
theorem traducirDirLogica_alcanza (hrep : Repartida fugas aMedias [] m suspendidos) (huso : m.EnUso)
    (hsin : (dir % m.config.segmentMaxSize.toUInt32).toNat + tamanio.toNat < 2 ^ 32)
    (hp : procesosBuscar m.procesos pid = some p) :
    (∃ seg dirFisica, Alcanza m pid dir tamanio seg ∧ traducirDirLogica m.config p dir tamanio = some dirFisica ∧
        dirFisica ≠ sinBase ∧
        dirFisica.toNat = seg.base.toNat + (dir % m.config.segmentMaxSize.toUInt32).toNat ∧
        dirFisica.toNat + tamanio.toNat ≤ m.ram.total) ∨
      (∀ seg, ¬ Alcanza m pid dir tamanio seg) ∧ traducirDirLogica m.config p dir tamanio = none := by
  have htope := huso.total
  have htotal : m.ram.total = sumaSticks m.ram.tabla := m.ram.total_eq hrep.suma
  have hfin : (dir % m.config.segmentMaxSize.toUInt32 + tamanio).toNat =
      (dir % m.config.segmentMaxSize.toUInt32).toNat + tamanio.toNat := toNat_add_of_lt hsin
  unfold traducirDirLogica
  simp only
  cases hseg : p.segmentos.find? fun s ↦ s.id = dir / m.config.segmentMaxSize.toUInt32 with
  | none =>
    refine Or.inr ⟨fun seg halcanza ↦ ?_, rfl⟩
    have hnombra := halcanza.nombra
    rw [segmentosDe_of_buscar hp, hseg] at hnombra
    cases hnombra
  | some seg =>
    have hunico : ∀ otro, Alcanza m pid dir tamanio otro → otro = seg := by
      intro otro halcanza
      have hnombra := halcanza.nombra
      rw [segmentosDe_of_buscar hp, hseg] at hnombra
      exact (Option.some.inj hnombra).symm
    simp only
    by_cases hcabe : (dir % m.config.segmentMaxSize.toUInt32).toNat + tamanio.toNat ≤ seg.limite.toNat
    · have hno : ¬ dir % m.config.segmentMaxSize.toUInt32 + tamanio > seg.limite := by
        rw [gt_iff_lt, UInt32.lt_iff_toNat_lt, hfin]
        omega
      rw [if_neg hno]
      by_cases hbase : seg.base = sinBase
      · rw [if_pos hbase]
        refine Or.inr ⟨fun otro halcanza ↦ ?_, rfl⟩
        have hres := halcanza.residente
        rw [hunico otro halcanza] at hres
        exact hres hbase
      · rw [if_neg hbase]
        have hmem : seg ∈ m.segmentosDe pid := by
          rw [segmentosDe_of_buscar hp]
          exact List.mem_of_find?_eq_some hseg
        have hdentro := hrep.segmento_dentro hmem hbase
        have hdir : (seg.base + dir % m.config.segmentMaxSize.toUInt32).toNat =
            seg.base.toNat + (dir % m.config.segmentMaxSize.toUInt32).toNat := toNat_add_of_lt (by omega)
        refine Or.inl ⟨seg, _, ⟨?_, hcabe, hbase⟩, rfl, fun hsin ↦ ?_, hdir, ?_⟩
        · rw [segmentosDe_of_buscar hp]
          exact hseg
        · rw [hsin, toNat_sinBase] at hdir
          omega
        · rw [hdir, htotal]
          omega
    · have hpasa : dir % m.config.segmentMaxSize.toUInt32 + tamanio > seg.limite := by
        rw [gt_iff_lt, UInt32.lt_iff_toNat_lt, hfin]
        omega
      rw [if_pos hpasa]
      refine Or.inr ⟨fun otro halcanza ↦ hcabe ?_, rfl⟩
      have hcabe := halcanza.cabe
      rw [hunico otro halcanza] at hcabe
      exact hcabe

/-- The two answers to a read. -/
theorem manejarLecturaMemoria_alcanza (pid : ℤ) (hrep : Repartida fugas aMedias [] m suspendidos)
    (huso : m.EnUso)
    (hsin : (dir % m.config.segmentMaxSize.toUInt32).toNat + tamanio.toNat < 2 ^ 32) :
    (∃ seg, Alcanza m pid dir tamanio seg ∧ manejarLecturaMemoria m pid dir tamanio =
        ([.lecturaMemoria (ByteMemory.slice (plano m.ram.tabla)
          (seg.base.toNat + (dir % m.config.segmentMaxSize.toUInt32).toNat) tamanio.toNat)], m)) ∨
      (∀ seg, ¬ Alcanza m pid dir tamanio seg) ∧
        manejarLecturaMemoria m pid dir tamanio = ([.ok .segmentationFault], m) := by
  unfold manejarLecturaMemoria
  cases hp : procesosBuscar m.procesos pid with
  | none =>
    refine Or.inr ⟨fun seg halcanza ↦ ?_, rfl⟩
    have hnombra := halcanza.nombra
    rw [segmentosDe_of_none hp] at hnombra
    cases hnombra
  | some p =>
    rcases traducirDirLogica_alcanza hrep huso hsin hp with
      ⟨seg, dirFisica, halcanza, htraduce, hbase, hdir, hdentro⟩ | ⟨hno, htraduce⟩
    · refine Or.inl ⟨seg, halcanza, ?_⟩
      simp only [htraduce, if_neg hbase, memoryIoLeer_plano huso.sana hdentro, hdir]
    · exact Or.inr ⟨hno, by simp only [htraduce]⟩

/-- The two answers to a write. -/
theorem manejarEscrituraMemoria_alcanza (pid : ℤ) (hrep : Repartida fugas aMedias [] m suspendidos)
    (huso : m.EnUso)
    (hsin : (dir % m.config.segmentMaxSize.toUInt32).toNat + tamanio.toNat < 2 ^ 32) {datos : List UInt8}
    (hdatos : tamanio.toNat ≤ datos.length) :
    (∃ seg ram, Alcanza m pid dir tamanio seg ∧ manejarEscrituraMemoria m pid dir tamanio datos =
        ([.ok .escrituraMemoria], { m with ram := ram }) ∧
        m.ram.Escrita ram (ByteMemory.overlay (plano m.ram.tabla)
          (seg.base.toNat + (dir % m.config.segmentMaxSize.toUInt32).toNat) (datos.take tamanio.toNat))) ∨
      (∀ seg, ¬ Alcanza m pid dir tamanio seg) ∧
        manejarEscrituraMemoria m pid dir tamanio datos = ([.ok .segmentationFault], m) := by
  unfold manejarEscrituraMemoria
  cases hp : procesosBuscar m.procesos pid with
  | none =>
    refine Or.inr ⟨fun seg halcanza ↦ ?_, rfl⟩
    have hnombra := halcanza.nombra
    rw [segmentosDe_of_none hp] at hnombra
    cases hnombra
  | some p =>
    rcases traducirDirLogica_alcanza hrep huso hsin hp with
      ⟨seg, dirFisica, halcanza, htraduce, hbase, hdir, hdentro⟩ | ⟨hno, htraduce⟩
    · obtain ⟨ram, hescribe, hescrita⟩ := memoryIoEscribir_plano huso.sana hdentro hdatos
      rw [hdir] at hescrita
      refine Or.inl ⟨seg, ram, halcanza, ?_, hescrita⟩
      simp only [htraduce, if_neg hbase, hescribe]
    · exact Or.inr ⟨hno, by simp only [htraduce]⟩

/-! ## Writes -/

/-- No other resident segment, of this process or of another, has an address of the segment. -/
theorem Repartida.segmento_solo (hrep : Repartida fugas aMedias [] m suspendidos)
    (hp : procesosBuscar m.procesos pid = some p) {antes despues : List Segmento}
    (hsegmentos : p.segmentos = antes ++ seg :: despues) (hres : seg.Residente) {address : ℕ}
    (hcontiene : seg.rango.Contains address) :
    (∀ vecino ∈ antes ++ despues, vecino.Residente → ¬ vecino.rango.Contains address) ∧
      ∀ otro, otro ≠ pid →
        ∀ vecino ∈ m.segmentosDe otro, vecino.Residente → ¬ vecino.rango.Contains address := by
  obtain ⟨previos, siguientes, hlista, hpid, _, _, _⟩ := procesosBuscar_split hp
  have hprimero : rangosSegmentos (seg :: despues) = seg.rango :: rangosSegmentos despues := by
    rw [rangosSegmentos_cons, if_pos hres]
    rfl
  have hperm : (rangosResidentes m.procesos).Perm
      (seg.rango :: (rangosSegmentos (antes ++ despues) ++ rangosResidentes (previos ++ siguientes))) := by
    rw [hlista, rangosResidentes_append, rangosResidentes_cons, hsegmentos, rangosSegmentos_append, hprimero,
      rangosSegmentos_append, rangosResidentes_append]
    simp only [List.append_assoc, List.cons_append]
    rw [← List.append_assoc]
    refine List.perm_middle.trans (.cons _ ?_)
    rw [List.append_assoc]
    refine (List.perm_append_comm_assoc _ _ _).trans (.append_left _ ?_)
    exact List.perm_append_comm_assoc _ _ _
  have hjuntos : Packed (seg.rango :: (rangosSegmentos (antes ++ despues) ++
      rangosResidentes (previos ++ siguientes))) (sumaSticks m.ram.tabla) := by
    refine ⟨fun address ↦ ?_, hrep.residentes.within.perm hperm⟩
    rw [← hits_perm hperm]
    exact hrep.residentes.disjoint address
  constructor
  · intro vecino hvecino hvecinoRes
    apply hjuntos.apart _ hcontiene
    apply List.mem_append_left
    exact List.mem_map_of_mem (List.mem_filter.mpr ⟨hvecino, by simpa using hvecinoRes⟩)
  · intro otro hotro vecino hvecino hvecinoRes
    cases hq : procesosBuscar m.procesos otro with
    | none =>
      rw [segmentosDe_of_none hq] at hvecino
      cases hvecino
    | some q =>
      rw [segmentosDe_of_buscar hq] at hvecino
      apply hjuntos.apart _ hcontiene
      apply List.mem_append_right
      apply mem_rangosResidentes _ hvecino hvecinoRes
      have hmem := procesosBuscar_mem hq
      rw [hlista] at hmem
      rcases List.mem_append.mp hmem with hantes | hresto
      · exact List.mem_append_left _ hantes
      · rcases List.mem_cons.mp hresto with rfl | hdespues
        · exact absurd ((procesosBuscar_pid hq).symm.trans hpid) hotro
        · exact List.mem_append_right _ hdespues

/-- A write inside one segment leaves a segment with other addresses alone. -/
theorem Refleja.lejos {vecino : Segmento} {region : Region UInt32 UInt8} (h : Refleja m vecino region)
    (huso : m.EnUso) (hswap : m'.swap = m.swap) {start : ℕ} {datos : List UInt8}
    (hplano : plano m'.ram.tabla = ByteMemory.overlay (plano m.ram.tabla) start datos)
    (hlejos : ∀ address, start ≤ address → address < start + datos.length → vecino.Residente →
      ¬ vecino.rango.Contains address) : Refleja m' vecino region := by
  apply h.marco huso.swap
  · intro hres address hle hlt
    rw [hplano]
    apply ByteMemory.overlay_outside
    by_contra hdentro
    apply hlejos address (by omega) (by omega) hres
    exact ⟨hle, hlt⟩
  · intro _
    rw [hswap]
    exact SwapCrece.refl _

/-- A write of the bytes of one segment is one of its process, and of no other. -/
theorem KernelMemory.Reflejan.escribir (h : m.Reflejan privadas) (huso : m.EnUso)
    (hrep : Repartida fugas aMedias [] m suspendidos) (halcanza : Alcanza m pid dir tamanio seg)
    {datos : List UInt8} (hdatos : datos.length ≤ tamanio.toNat)
    (hprocesos : m'.procesos = m.procesos) (hswap : m'.swap = m.swap)
    (hplano : plano m'.ram.tabla = ByteMemory.overlay (plano m.ram.tabla)
      (seg.base.toNat + (dir % m.config.segmentMaxSize.toUInt32).toNat) datos) :
    m'.Reflejan ((m.escritura pid dir datos).apply privadas) := by
  have hnombra := halcanza.nombra
  have hmem := List.mem_of_find?_eq_some hnombra
  obtain ⟨p, hp⟩ : ∃ p, procesosBuscar m.procesos pid = some p := by
    apply Option.ne_none_iff_exists'.mp
    intro hno
    rw [segmentosDe_of_none hno] at hmem
    cases hmem
  have hmismos : ∀ otro, m'.segmentosDe otro = m.segmentosDe otro := fun otro ↦
    segmentosDe_congr (by rw [hprocesos])
  obtain ⟨hid, antes, despues, hsegmentos, hantes⟩ := List.find?_eq_some_iff_append.mp hnombra
  rw [decide_eq_true_eq] at hid
  have hcabe := halcanza.cabe
  have hsolo : ∀ address, seg.base.toNat + (dir % m.config.segmentMaxSize.toUInt32).toNat ≤ address →
      address < seg.base.toNat + (dir % m.config.segmentMaxSize.toUInt32).toNat + datos.length →
      seg.rango.Contains address := by
    intro address hle hlt
    refine ⟨?_, ?_⟩
    · show seg.base.toNat ≤ address
      omega
    · show address < seg.base.toNat + seg.limite.toNat
      omega
  have hsegs : p.segmentos = antes ++ seg :: despues := by
    rw [← segmentosDe_of_buscar hp]
    exact hsegmentos
  have hlejos := fun address hle hlt ↦ hrep.segmento_solo hp hsegs halcanza.residente (hsolo address hle hlt)
  apply h.aplicar
  · intro otro hotro hreflejan
    rw [hmismos otro]
    refine ((List.forall₂_and_left _ _).mpr ⟨fun vecino hvecino ↦ hvecino, hreflejan⟩).imp ?_
    rintro vecino region ⟨hvecino, hrefleja⟩
    exact hrefleja.lejos huso hswap hplano fun address hle hlt ↦
      (hlejos address hle hlt).2 otro hotro vecino hvecino
  · show List.Forall₂ _ (m'.segmentosDe pid) (storeIn _ _ datos (privadas pid))
    have hreflejan := h pid
    rw [hsegmentos] at hreflejan
    rw [hmismos pid, hsegmentos]
    obtain ⟨regiones, otras, hregiones, hresto, heq⟩ := Pointwise.forall₂_split hreflejan
    obtain ⟨region, siguientes, hregion, hsiguientes, rfl⟩ := List.forall₂_cons_left_iff.mp hresto
    rw [heq, storeIn_append]
    · apply List.rel_append
      · refine ((List.forall₂_and_left _ _).mpr ⟨fun vecino hvecino ↦ hvecino, hregiones⟩).imp ?_
        rintro vecino otra ⟨hvecino, hrefleja⟩
        exact hrefleja.lejos huso hswap hplano fun address hle hlt ↦
          (hlejos address hle hlt).1 vecino (List.mem_append_left _ hvecino)
      · refine .cons ⟨hregion.nombre, hregion.tamanio, fun hres ↦ ?_, fun hno ↦ ?_⟩ ?_
        · rw [hplano]
          exact (hregion.enRam hres).store
        · exact absurd halcanza.residente hno
        · refine ((List.forall₂_and_left _ _).mpr ⟨fun vecino hvecino ↦ hvecino, hsiguientes⟩).imp ?_
          rintro vecino otra ⟨hvecino, hrefleja⟩
          exact hrefleja.lejos huso hswap hplano fun address hle hlt ↦
            (hlejos address hle hlt).1 vecino (List.mem_append_right _ hvecino)
    · intro otra hotra
      obtain ⟨vecino, hvecino, hrefleja⟩ := Pointwise.exists_of_mem_right hregiones hotra
      have hno := hantes vecino hvecino
      rw [hrefleja.nombre]
      simpa using hno
    · exact hregion.nombre.trans hid

/-! ## The CPUs -/

section

variable {sticks : List Cpu.CpuStick} {contexto : Contexto}
  (hrep : Repartida fugas aMedias [] m suspendidos) (huso : m.EnUso) (hno : pid ∉ suspendidos)
  (hsticks : Cpu.MismosSticks sticks m.ram.tabla) (htabla : contexto.tablaSegmentos = m.segmentosDe pid)
  (hsin : (dir % m.config.segmentMaxSize.toUInt32).toNat + tamanio.toNat < 2 ^ 32)
include hrep huso hno htabla

theorem residentes_activo : Cpu.Residentes m.ram.tabla contexto.tablaSegmentos := by
  intro seg hseg
  rw [htabla] at hseg
  exact hrep.activo_residente huso hno hseg

/-- Where a CPU takes a request of a process that is not suspended. -/
theorem direccionPropia_alcanza (dir tamanio : UInt32) :
    (∃ seg dirFisica, Alcanza m pid dir tamanio seg ∧
        Cpu.direccionPropia m.config.segmentMaxSize.toUInt32 contexto.tablaSegmentos dir tamanio =
          some dirFisica ∧
        dirFisica.toNat = seg.base.toNat + (dir % m.config.segmentMaxSize.toUInt32).toNat) ∨
      (∀ seg, ¬ Alcanza m pid dir tamanio seg) ∧
        Cpu.direccionPropia m.config.segmentMaxSize.toUInt32 contexto.tablaSegmentos dir tamanio = none := by
  unfold Cpu.direccionPropia
  rw [htabla]
  cases hseg : (m.segmentosDe pid).find? fun s ↦ s.id = dir / m.config.segmentMaxSize.toUInt32 with
  | none =>
    refine Or.inr ⟨fun seg halcanza ↦ ?_, rfl⟩
    have hnombra := halcanza.nombra
    rw [hseg] at hnombra
    cases hnombra
  | some seg =>
    simp only
    by_cases hcabe : (dir % m.config.segmentMaxSize.toUInt32).toNat + tamanio.toNat ≤ seg.limite.toNat
    · obtain ⟨hres, hdentro⟩ := hrep.activo_residente huso hno (List.mem_of_find?_eq_some hseg)
      have htope := huso.total
      rw [if_pos hcabe]
      exact Or.inl ⟨seg, _, ⟨hseg, hcabe, hres⟩, rfl, toNat_add_of_lt (by omega)⟩
    · rw [if_neg hcabe]
      refine Or.inr ⟨fun otro halcanza ↦ hcabe ?_, rfl⟩
      have hcabe := halcanza.cabe
      rw [Option.some.inj (hseg.symm.trans halcanza.nombra)]
      exact hcabe

variable [Red.Recepcion]
include hsticks hsin

/-- The two ends of `mmu_leer`, as far as the answers of the sticks arrive. -/
theorem mmuLeerRed_alcanza :
    (∃ seg dirFisica, Alcanza m pid dir tamanio seg ∧
        Cpu.mmuLeerRed m.config.segmentMaxSize.toUInt32 m.ram.tabla sticks contexto dir tamanio =
          Cpu.finDeLectura (ByteMemory.slice (plano m.ram.tabla)
            (seg.base.toNat + (dir % m.config.segmentMaxSize.toUInt32).toNat) tamanio.toNat)
              (accesos m.ram.tabla dirFisica tamanio).1) ∨
      (∀ seg, ¬ Alcanza m pid dir tamanio seg) ∧
        Cpu.mmuLeerRed m.config.segmentMaxSize.toUInt32 m.ram.tabla sticks contexto dir tamanio =
          some (.error .segFault) := by
  have hplana : Cpu.TablaPlana m.ram.tabla := ⟨huso.sana.bases, huso.sana.abiertos, hrep.suma⟩
  have hlee := Cpu.mmuLeerRed_conocida hplana hsticks (residentes_activo hrep huso hno htabla)
    (fun _ _ ↦ Or.inl hsin)
  rw [hlee]
  rcases direccionPropia_alcanza hrep huso hno htabla dir tamanio with
    ⟨seg, dirFisica, halcanza, hdir, hfisica⟩ | ⟨hninguno, hdir⟩
  · refine Or.inl ⟨seg, dirFisica, halcanza, ?_⟩
    rw [hdir, ← hfisica]
  · refine Or.inr ⟨hninguno, ?_⟩
    rw [hdir]

/-- The two ends of `mmu_escribir`, if it has one. -/
theorem mmuEscribirRed_alcanza {datos : List UInt8} (hdatos : tamanio.toNat ≤ datos.length)
    {resultado : Cpu.ResultadoExecute} {tabla : List MemoryStick}
    (hescribe : Cpu.mmuEscribirRed m.config.segmentMaxSize.toUInt32 m.ram.tabla sticks contexto dir datos
      tamanio = some (resultado, tabla)) :
    (∃ seg, Alcanza m pid dir tamanio seg ∧ resultado = .continuar ∧ MismaTabla tabla m.ram.tabla ∧
        plano tabla = ByteMemory.overlay (plano m.ram.tabla)
          (seg.base.toNat + (dir % m.config.segmentMaxSize.toUInt32).toNat) (datos.take tamanio.toNat)) ∨
      (∀ seg, ¬ Alcanza m pid dir tamanio seg) ∧ resultado = .segFault ∧ tabla = m.ram.tabla := by
  have hplana : Cpu.TablaPlana m.ram.tabla := ⟨huso.sana.bases, huso.sana.abiertos, hrep.suma⟩
  have hcaso := Cpu.mmuEscribirRed_conocida hplana hsticks (residentes_activo hrep huso hno htabla)
    (fun _ _ ↦ Or.inl hsin) hdatos
  rcases direccionPropia_alcanza hrep huso hno htabla dir tamanio with
    ⟨seg, dirFisica, halcanza, hdir, hfisica⟩ | ⟨hninguno, hdir⟩
  · simp only [hdir] at hcaso
    by_cases hllega : EscrituraLlega m.ram.tabla [] dirFisica tamanio
    · obtain ⟨despues, hdespues, hmisma, hplano⟩ := hcaso.1 hllega
      obtain ⟨rfl, rfl⟩ := Prod.mk.inj (Option.some.inj (hescribe.symm.trans hdespues))
      rw [hfisica] at hplano
      exact Or.inl ⟨seg, halcanza, rfl, hmisma, hplano⟩
    · rw [hcaso.2 hllega] at hescribe
      cases hescribe
  · simp only [hdir] at hcaso
    obtain ⟨rfl, rfl⟩ := Prod.mk.inj (Option.some.inj (hescribe.symm.trans hcaso))
    exact Or.inr ⟨hninguno, rfl, rfl⟩

end

end

end

end PlugAndPlay.Memoria
