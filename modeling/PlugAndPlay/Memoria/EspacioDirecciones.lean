import PlugAndPlay.Library.ListModify
import PlugAndPlay.Memoria.AsignacionCompleta
import PlugAndPlay.Memoria.FormaTablas

/-!
# The address space of a process

The logical addresses that `traducir_dir_logica` accepts for one byte, over all processes. An address is the
id of a segment and an offset; the segment is the first one with the id. A granted request brings the
addresses of its segment when no other segment has the id and the last address is a 32-bit one, and a deletion
takes them away when no second segment with the id comes to light.
-/

open PlugAndPlay.Library PlugAndPlay.Library.ByteRange

namespace PlugAndPlay.Memoria

/-- The physical address of one byte. The translation divides by `SEGMENT_MAX_SIZE`: when it is zero, nothing
is translated. -/
def KernelMemory.vista (m : KernelMemory) (pid : ℤ) (dir : UInt32) : Option UInt32 :=
  if m.config.segmentMaxSize.toUInt32 = 0 then none
  else (procesosBuscar m.procesos pid).bind fun p ↦ traducirDirLogica m.config p dir 1

/-- The segment of a process that an id stands for. -/
def KernelMemory.segmentoDe (m : KernelMemory) (pid : ℤ) (id : UInt32) : Option Segmento :=
  (procesosBuscar m.procesos pid).bind fun p ↦ p.segmentos.find? fun s ↦ s.id = id

/-- The one that the id stands for when the first is gone. -/
def KernelMemory.segundoDe (m : KernelMemory) (pid : ℤ) (id : UInt32) : Option Segmento :=
  (procesosBuscar m.procesos pid).bind fun p ↦ (p.segmentos.filter fun s ↦ s.id = id)[1]?

/-- The physical address of an offset in a segment. -/
def Segmento.byteEn (seg : Segmento) (desplazamiento : UInt32) : Option UInt32 :=
  if desplazamiento.toNat < seg.limite.toNat ∧ seg.Residente then some (seg.base + desplazamiento) else none

/-! ## Addresses -/

theorem dir_partes {max : UInt32} (hmax : max ≠ 0) (dir : UInt32) :
    dir.toNat = (dir / max).toNat * max.toNat + (dir % max).toNat ∧ (dir % max).toNat < max.toNat := by
  have hpos : 0 < max.toNat := Nat.pos_of_ne_zero fun hcero ↦ hmax (UInt32.toNat_inj.mp hcero)
  rw [UInt32.toNat_div, UInt32.toNat_mod]
  exact ⟨(Nat.div_add_mod' _ _).symm, Nat.mod_lt _ hpos⟩

theorem partes_unicas {max dir id : UInt32} {k : ℕ} (hk : k < max.toNat)
    (hdir : dir.toNat = id.toNat * max.toNat + k) : dir / max = id ∧ (dir % max).toNat = k := by
  have hpos : 0 < max.toNat := by omega
  constructor
  · apply UInt32.toNat_inj.mp
    calc
      (dir / max).toNat
      _ = (id.toNat * max.toNat + k) / max.toNat := by rw [UInt32.toNat_div, hdir]
      _ = k / max.toNat + id.toNat := by rw [Nat.add_comm, Nat.add_mul_div_right _ _ hpos]
      _ = id.toNat := by rw [Nat.div_eq_of_lt hk, Nat.zero_add]
  · calc
      (dir % max).toNat
      _ = (id.toNat * max.toNat + k) % max.toNat := by rw [UInt32.toNat_mod, hdir]
      _ = k % max.toNat := by rw [Nat.add_comm, Nat.add_mul_mod_self_right]
      _ = k := Nat.mod_eq_of_lt hk

theorem exists_dir {n : ℕ} (hn : n < 2 ^ 32) : ∃ dir : UInt32, dir.toNat = n :=
  ⟨UInt32.ofNat n, UInt32.toNat_ofNat_of_lt' hn⟩

section

variable {m m' : KernelMemory} {pid : ℤ} {dir id : UInt32}

theorem KernelMemory.vista_sinMaximo (h : m.config.segmentMaxSize.toUInt32 = 0) : m.vista pid dir = none :=
  if_pos h

theorem KernelMemory.vista_eq (hmax : m.config.segmentMaxSize.toUInt32 ≠ 0) (pid : ℤ) (dir : UInt32) :
    m.vista pid dir = (m.segmentoDe pid (dir / m.config.segmentMaxSize.toUInt32)).bind fun seg ↦
      seg.byteEn (dir % m.config.segmentMaxSize.toUInt32) := by
  rw [KernelMemory.vista, if_neg hmax, KernelMemory.segmentoDe, Option.bind_assoc]
  congr 1
  funext p
  have hresto := (dir_partes hmax dir).2
  have hlt := (m.config.segmentMaxSize.toUInt32).toNat_lt
  have huno : (1 : UInt32).toNat = 1 := rfl
  rw [traducirDirLogica]
  cases p.segmentos.find? fun s ↦ s.id = dir / m.config.segmentMaxSize.toUInt32 with
  | none => rfl
  | some seg =>
    generalize dir % m.config.segmentMaxSize.toUInt32 = desplazamiento at hresto ⊢
    have hfin : (desplazamiento + 1).toNat = desplazamiento.toNat + 1 := by
      rw [toNat_add_of_lt (by rw [huno]; omega), huno]
    simp only [Option.bind_some, Segmento.byteEn]
    by_cases hcabe : desplazamiento.toNat < seg.limite.toNat
    · have hno : ¬ desplazamiento + 1 > seg.limite := by
        rw [gt_iff_lt, UInt32.lt_iff_toNat_lt, hfin]
        omega
      rw [if_neg hno]
      by_cases hbase : seg.base = sinBase
      · rw [if_pos hbase, if_neg fun hambas ↦ hambas.2 hbase]
      · rw [if_neg hbase, if_pos ⟨hcabe, hbase⟩]
    · have hpasa : desplazamiento + 1 > seg.limite := by
        rw [gt_iff_lt, UInt32.lt_iff_toNat_lt, hfin]
        omega
      rw [if_pos hpasa, if_neg fun hambas ↦ hcabe hambas.1]

theorem Segmento.byteEn_eq_some {seg : Segmento} {desplazamiento addr : UInt32}
    (h : seg.byteEn desplazamiento = some addr) :
    desplazamiento.toNat < seg.limite.toNat ∧ seg.Residente ∧ addr = seg.base + desplazamiento := by
  unfold Segmento.byteEn at h
  split at h
  · rename_i hambas
    exact ⟨hambas.1, hambas.2, (Option.some.inj h).symm⟩
  · cases h

theorem KernelMemory.vista_eq_some (h : m.vista pid dir = some id) :
    m.config.segmentMaxSize.toUInt32 ≠ 0 ∧
      ∃ seg, m.segmentoDe pid (dir / m.config.segmentMaxSize.toUInt32) = some seg ∧
        seg.byteEn (dir % m.config.segmentMaxSize.toUInt32) = some id := by
  have hmax : m.config.segmentMaxSize.toUInt32 ≠ 0 := by
    intro hcero
    rw [KernelMemory.vista_sinMaximo hcero] at h
    cases h
  rw [KernelMemory.vista_eq hmax] at h
  exact ⟨hmax, Option.bind_eq_some_iff.mp h⟩

end

/-! ## What stays -/

/-- The address is accepted as before, and if it is, it reads the byte it read before. -/
structure Mantiene (m m' : KernelMemory) (pid : ℤ) (dir : UInt32) : Prop where
  estado : (m'.vista pid dir).isSome = (m.vista pid dir).isSome
  byte : m.ram.SinFallos → (m.vista pid dir).isSome → ∃ dato,
    (manejarLecturaMemoria m pid dir 1).1 = [.lecturaMemoria [dato]] ∧
      (manejarLecturaMemoria m' pid dir 1).1 = [.lecturaMemoria [dato]]

/-- A segment and what became of it: perhaps somewhere else in RAM, with the same bytes. -/
structure Movido (ram ram' : Ram) (seg seg' : Segmento) : Prop where
  id : seg'.id = seg.id
  limite : seg'.limite = seg.limite
  residente : seg.limite.toNat ≠ 0 → (seg'.Residente ↔ seg.Residente)
  bytes : ram.SinFallos → seg.Residente →
    ByteMemory.slice (plano ram'.tabla) seg'.base.toNat seg.limite.toNat =
      ByteMemory.slice (plano ram.tabla) seg.base.toNat seg.limite.toNat

theorem Movido.refl {ram ram' : Ram} (h : ram'.tabla = ram.tabla) (seg : Segmento) : Movido ram ram' seg seg :=
  ⟨rfl, rfl, fun _ ↦ Iff.rfl, fun _ _ ↦ by rw [h]⟩

theorem Movido.byteEn {ram ram' : Ram} {seg seg' : Segmento} (h : Movido ram ram' seg seg')
    (desplazamiento : UInt32) : (seg'.byteEn desplazamiento).isSome = (seg.byteEn desplazamiento).isSome := by
  unfold Segmento.byteEn
  rw [h.limite]
  by_cases hcabe : desplazamiento.toNat < seg.limite.toNat
  · have hres := h.residente (by omega)
    simp only [hcabe, true_and, hres]
    split <;> rfl
  · simp only [hcabe, false_and, if_false]

section

variable {fugas aMedias : Prop} {m m' : KernelMemory} {suspendidos suspendidos' : List ℤ} {pid : ℤ}
  {dir addr : UInt32} {seg : Segmento}

theorem Repartida.segmentoDe_dentro (h : Repartida fugas aMedias [] m suspendidos) {id : UInt32}
    (hseg : m.segmentoDe pid id = some seg) (hres : seg.Residente) :
    seg.base.toNat + seg.limite.toNat ≤ sumaSticks m.ram.tabla := by
  obtain ⟨p, hp, hseg⟩ := Option.bind_eq_some_iff.mp hseg
  exact h.residentes.within _ (mem_rangosResidentes (procesosBuscar_mem hp)
    (List.mem_of_find?_eq_some hseg) hres)

/-- An accepted address and the segment it is in. -/
theorem Repartida.vista_donde (h : Repartida fugas aMedias [] m suspendidos)
    (hvista : m.vista pid dir = some addr) :
    ∃ seg, m.segmentoDe pid (dir / m.config.segmentMaxSize.toUInt32) = some seg ∧ seg.Residente ∧
      (dir % m.config.segmentMaxSize.toUInt32).toNat < seg.limite.toNat ∧
      seg.base.toNat + seg.limite.toNat ≤ sumaSticks m.ram.tabla ∧
      addr.toNat = seg.base.toNat + (dir % m.config.segmentMaxSize.toUInt32).toNat := by
  obtain ⟨_, seg, hseg, hbyte⟩ := KernelMemory.vista_eq_some hvista
  obtain ⟨hcabe, hres, rfl⟩ := Segmento.byteEn_eq_some hbyte
  have hdentro := h.segmentoDe_dentro hseg hres
  have hsuma := h.suma
  exact ⟨seg, hseg, hres, hcabe, hdentro, toNat_add_of_lt (by omega)⟩

/-- What a process is answered that reads one byte. -/
theorem Repartida.lectura_vista (h : Repartida fugas aMedias [] m suspendidos) (hsana : m.ram.Sana)
    (hvista : m.vista pid dir = some addr) :
    (manejarLecturaMemoria m pid dir 1).1 = [.lecturaMemoria [plano m.ram.tabla addr.toNat]] := by
  obtain ⟨seg, hseg, hres, hcabe, hdentro, haddr⟩ := h.vista_donde hvista
  obtain ⟨p, hp, hseg⟩ := Option.bind_eq_some_iff.mp hseg
  rw [haddr]
  apply lectura_direccionable hsana hp hseg hcabe hres
  rw [m.ram.total_eq h.suma]
  exact hdentro

/-- An address whose segment is still there. -/
theorem Repartida.mantiene (h : Repartida fugas aMedias [] m suspendidos)
    (h' : Repartida fugas aMedias [] m' suspendidos') (hconfig : m'.config = m.config)
    (hsana : m.ram.SinFallos → m'.ram.Sana)
    (hmovido : Option.Rel (Movido m.ram m'.ram) (m.segmentoDe pid (dir / m.config.segmentMaxSize.toUInt32))
      (m'.segmentoDe pid (dir / m.config.segmentMaxSize.toUInt32))) : Mantiene m m' pid dir := by
  have hestado : (m'.vista pid dir).isSome = (m.vista pid dir).isSome := by
    by_cases hmax : m.config.segmentMaxSize.toUInt32 = 0
    · rw [KernelMemory.vista_sinMaximo hmax, KernelMemory.vista_sinMaximo (hconfig ▸ hmax)]
    · rw [KernelMemory.vista_eq hmax, KernelMemory.vista_eq (hconfig ▸ hmax), hconfig]
      generalize m.segmentoDe pid _ = antes at hmovido ⊢
      generalize m'.segmentoDe pid _ = despues at hmovido ⊢
      cases hmovido with
      | none => rfl
      | some hmovido => exact hmovido.byteEn _
  refine ⟨hestado, fun hfallos hsome ↦ ?_⟩
  obtain ⟨addr, haddr⟩ := Option.isSome_iff_exists.mp hsome
  obtain ⟨addr', haddr'⟩ := Option.isSome_iff_exists.mp (hestado.trans hsome)
  refine ⟨_, h.lectura_vista (h.sana hfallos) haddr, ?_⟩
  rw [h'.lectura_vista (hsana hfallos) haddr']
  -- both addresses have the same offset in the segment
  obtain ⟨seg, hseg, hres, hcabe, _, haddr⟩ := h.vista_donde haddr
  obtain ⟨seg', hseg', _, _, _, haddr'⟩ := h'.vista_donde haddr'
  rw [hconfig] at hseg' haddr'
  rw [hseg, hseg'] at hmovido
  cases hmovido with
  | some hmovido =>
    have hbytes := hmovido.bytes hfallos hres
    rw [haddr, haddr', ByteMemory.eq_of_slice_eq hbytes hcabe]

/-- An address that is rejected before and after. -/
theorem mantiene_of_none (h : m.vista pid dir = none) (h' : m'.vista pid dir = none) : Mantiene m m' pid dir where
  estado := by rw [h, h']
  byte _ hsome := by
    rw [h] at hsome
    cases hsome

end

/-! ## What the handlers do to the tables -/

section

variable {fugas aMedias : Prop} {m m₁ : KernelMemory} {suspendidos : List ℤ} {pid : ℤ}

/-- Compaction moves the segments of all processes, each with its bytes unless a connection breaks. -/
theorem Repartida.movidos_compactar (h : Repartida fugas aMedias [] m suspendidos) (qsort : Qsort) :
    (m.ram.SinFallos → (compactarMemoria qsort m).ram.Sana) ∧ ∀ pid id,
      Option.Rel (Movido m.ram (compactarMemoria qsort m).ram) (m.segmentoDe pid id)
        ((compactarMemoria qsort m).segmentoDe pid id) := by
  have hc := h.compactada qsort
  have hjuntos : Packed (rangosResidentes m.procesos) m.ram.total := m.ram.total_eq h.suma ▸ h.residentes
  have hbytes := fun hfallos ↦ compactarMemoria_bytes qsort (h.sana hfallos) hjuntos
  refine ⟨fun hfallos ↦ (hbytes hfallos).1, fun pid id ↦ ?_⟩
  have htablas := hc.forall₂ (R := Movido m.ram (compactarMemoria qsort m).ram) fun i j seg seg' hget hget' ↦ ?_
  · have hbuscar : Option.Rel _ (procesosBuscar m.procesos pid)
        (procesosBuscar (compactarMemoria qsort m).procesos pid) :=
      Pointwise.rel_find?_of_forall₂ htablas fun p p' hp ↦ by rw [hp.1]
    rw [KernelMemory.segmentoDe, KernelMemory.segmentoDe]
    generalize procesosBuscar m.procesos pid = proceso at hbuscar ⊢
    generalize procesosBuscar (compactarMemoria qsort m).procesos pid = proceso' at hbuscar ⊢
    cases hbuscar with
    | none => exact .none
    | some hp => exact Pointwise.rel_find?_of_forall₂ hp.2 fun seg seg' hseg ↦ by rw [hseg.id]
  · by_cases hres : seg.Residente
    · obtain ⟨base, hnuevo, hfin⟩ := hc.movido i j seg hget hres
      obtain rfl := Option.some.inj (hget'.symm.trans hnuevo)
      refine ⟨rfl, rfl, fun hlimite ↦ iff_of_true (fun hbase ↦ ?_) hres, fun hfallos _ ↦ ?_⟩
      · have hcabe := bytesResidentes_le h.suma h.residentes
        have hsuma := h.suma
        rw [show base = sinBase from hbase, toNat_sinBase] at hfin
        omega
      · obtain ⟨otra, hotra, _, hbytes⟩ := (hbytes hfallos).2 i j seg hget hres
        rw [hotra] at hnuevo
        obtain rfl := (Segmento.mk.inj (Option.some.inj hnuevo)).2.1
        exact hbytes
    · obtain rfl := Option.some.inj (hget'.symm.trans (hc.suspendido i j seg hget hres))
      exact ⟨rfl, rfl, fun _ ↦ Iff.rfl, fun _ hsi ↦ absurd hsi hres⟩

/-- Before the range is taken, the segments may have moved. -/
theorem Repartida.movidos {qsort : Qsort} {tamanio : UInt32} (h : Repartida fugas aMedias [] m suspendidos)
    (hlugar : Preparada qsort m tamanio m₁) :
    (m.ram.SinFallos → m₁.ram.Sana) ∧ ∀ pid id,
      Option.Rel (Movido m.ram m₁.ram) (m.segmentoDe pid id) (m₁.segmentoDe pid id) := by
  cases hlugar with
  | intacta =>
    refine ⟨h.sana, fun pid id ↦ ?_⟩
    cases m.segmentoDe pid id with
    | none => exact .none
    | some seg => exact .some (.refl rfl seg)
  | compactada hasignar =>
    have h₀ := (h.asignar 0 ⟨0, .cero, [], []⟩ hasignar).1 rfl
    exact h₀.movidos_compactar qsort

/-- The table of one process is changed. -/
theorem segmentoDe_modificar {m' : KernelMemory} {p : Proceso} (g : List Segmento → List Segmento)
    (hp : procesosBuscar m.procesos pid = some p)
    (hprocesos : m'.procesos = procesosModificar pid (fun q ↦ { q with segmentos := g q.segmentos }) m.procesos)
    (otro : ℤ) (id : UInt32) :
    m'.segmentoDe otro id =
      if otro = pid then (g p.segmentos).find? fun s ↦ s.id = id else m.segmentoDe otro id := by
  have hf : ∀ q : Proceso, ({ q with segmentos := g q.segmentos } : Proceso).pid = q.pid := fun _ ↦ rfl
  rw [KernelMemory.segmentoDe, hprocesos, procesosBuscar_modificar hf]
  by_cases hotro : otro = pid
  · subst hotro
    rw [if_pos rfl, if_pos rfl, hp]
    rfl
  · rw [if_neg hotro, if_neg hotro, KernelMemory.segmentoDe]

theorem segmentoDe_agregar {p₁ : Proceso} (hp : procesosBuscar m₁.procesos pid = some p₁)
    (libres : List BloqueLibre) (id base tamanio : UInt32) (otro : ℤ) (otroId : UInt32) :
    (agregarSegmento { m₁ with bloquesLibres := libres } pid id base tamanio).segmentoDe otro otroId =
      if otro = pid ∧ otroId = id then (m₁.segmentoDe pid id).or (some ⟨id, base, tamanio, 0⟩)
      else m₁.segmentoDe otro otroId := by
  rw [segmentoDe_modificar (· ++ [⟨id, base, tamanio, 0⟩]) hp rfl]
  by_cases hotro : otro = pid
  · subst hotro
    simp only [if_true, true_and, List.find?_append]
    rw [KernelMemory.segmentoDe, KernelMemory.segmentoDe, hp]
    by_cases hid : otroId = id
    · subst hid
      simp
    · have hno : ¬ id = otroId := fun higual ↦ hid higual.symm
      simp [hid, hno]
  · rw [if_neg hotro, if_neg fun hambos ↦ hotro hambos.1]

theorem segmentoDe_eliminar {p : Proceso} {id : UInt32} (hp : procesosBuscar m.procesos pid = some p)
    (libres : List BloqueLibre) (otro : ℤ) (otroId : UInt32) :
    (ponerSegmentos { m with bloquesLibres := libres } pid
        (p.segmentos.eraseP fun s ↦ s.id = id)).segmentoDe otro otroId =
      if otro = pid ∧ otroId = id then m.segundoDe pid id else m.segmentoDe otro otroId := by
  rw [segmentoDe_modificar (fun _ ↦ p.segmentos.eraseP fun s ↦ s.id = id) hp rfl]
  by_cases hotro : otro = pid
  · subst hotro
    simp only [if_true, true_and]
    rw [KernelMemory.segundoDe, KernelMemory.segmentoDe, hp]
    by_cases hid : otroId = id
    · subst hid
      rw [if_pos rfl, ListModify.find?_eraseP]
      rfl
    · rw [if_neg hid]
      apply ListModify.find?_eraseP_of_disjoint
      intro s hs hotra
      exact hid ((of_decide_eq_true hs).symm.trans (of_decide_eq_true hotra))
  · rw [if_neg hotro, if_neg fun hambos ↦ hotro hambos.1]

end

/-! ## A granted request -/

/-- All addresses stay but the `largo` ones of the process from the start of the segment with the id on. -/
def AjenasQuedan (m m' : KernelMemory) (pid : ℤ) (id : UInt32) (largo : ℕ) : Prop :=
  ∀ (otro : ℤ) (dir : UInt32), (otro = pid → ∀ k < largo,
    dir.toNat ≠ id.toNat * m.config.segmentMaxSize.toUInt32.toNat + k) → Mantiene m m' otro dir

/-- The address space grows by the addresses of a segment: they are 32-bit ones, nothing was translated from
them, and they lead to the bytes of the segment one by one. -/
structure Amplia (m m' : KernelMemory) (pid : ℤ) (id base tamanio : UInt32) : Prop where
  nuevas : ∀ k < tamanio.toNat, ∃ dir addr : UInt32,
    dir.toNat = id.toNat * m.config.segmentMaxSize.toUInt32.toNat + k ∧ m.vista pid dir = none ∧
      m'.vista pid dir = some addr ∧ addr.toNat = base.toNat + k
  dentro : base.toNat + tamanio.toNat ≤ sumaSticks m'.ram.tabla
  ajenas : AjenasQuedan m m' pid id tamanio.toNat

/-- What a granted request does to the segments that the ids stand for. -/
structure Concedida (m m' : KernelMemory) (pid : ℤ) (id base tamanio : UInt32) : Prop where
  config : m'.config = m.config
  maximo : tamanio ≤ m.config.segmentMaxSize.toUInt32
  residente : base ≠ sinBase
  dentro : base.toNat + tamanio.toNat ≤ sumaSticks m'.ram.tabla
  sana : m.ram.SinFallos → m'.ram.Sana
  otros : ∀ otro otroId, ¬ (otro = pid ∧ otroId = id) →
    Option.Rel (Movido m.ram m'.ram) (m.segmentoDe otro otroId) (m'.segmentoDe otro otroId)
  nuevo : m.segmentoDe pid id = none → m'.segmentoDe pid id = some ⟨id, base, tamanio, 0⟩
  tapado : m.segmentoDe pid id ≠ none →
    Option.Rel (Movido m.ram m'.ram) (m.segmentoDe pid id) (m'.segmentoDe pid id)

section

variable {fugas aMedias : Prop} {m m' : KernelMemory} {suspendidos : List ℤ} {pid : ℤ}
  {id base tamanio : UInt32}

theorem Repartida.concedida (h : Repartida fugas aMedias [] m suspendidos) (qsort : Qsort)
    (hconcede : .solicitarSegmento id base tamanio ∈ (manejarSolicitarSegmento qsort m pid id tamanio).1) :
    Concedida m (manejarSolicitarSegmento qsort m pid id tamanio).2 pid id base tamanio := by
  have hfin := manejarSolicitarSegmento_solicitada qsort m pid id tamanio
  generalize manejarSolicitarSegmento qsort m pid id tamanio = respuesta at hconcede hfin ⊢
  cases hfin with
  | rechazada _ hno => exact absurd hconcede (hno base)
  | @concedida m₁ avisos otraBase libres p₁ hlugar hno hmax hp hasignar hbase =>
    obtain rfl : base = otraBase := by
      rcases List.mem_append.mp hconcede with hmem | hmem
      · exact absurd hmem (hno base)
      · exact (Mensaje.solicitarSegmento.inj (List.mem_singleton.mp hmem)).2.1
    obtain ⟨h₁, hconfig, _⟩ := h.preparada hlugar
    obtain ⟨hsana, hmovidos⟩ := h.movidos hlugar
    have hsegmentoDe := segmentoDe_agregar hp libres id base tamanio
    have hmismo := hmovidos pid id
    exact
      { config := hconfig
        maximo := hmax
        residente := hbase
        dentro := (h₁.entregada hp hasignar hbase id).cabe
        sana := hsana
        otros := fun otro otroId hotro ↦ by
          rw [hsegmentoDe, if_neg hotro]
          exact hmovidos otro otroId
        nuevo := fun hnada ↦ by
          rw [hnada] at hmismo
          rw [hsegmentoDe, if_pos ⟨rfl, rfl⟩]
          generalize m₁.segmentoDe pid id = seg at hmismo ⊢
          cases hmismo
          rfl
        tapado := fun halgo ↦ by
          rw [hsegmentoDe, if_pos ⟨rfl, rfl⟩]
          generalize m₁.segmentoDe pid id = seg at hmismo ⊢
          generalize m.segmentoDe pid id = viejo at hmismo halgo ⊢
          cases hmismo with
          | none => exact absurd rfl halgo
          | some hmovido => exact .some hmovido }

/-- The new segment is found when no other one stands before it. -/
theorem Concedida.amplia (hc : Concedida m m' pid id base tamanio) (h : Repartida fugas aMedias [] m suspendidos)
    (h' : Repartida fugas aMedias [] m' suspendidos) (hnada : m.segmentoDe pid id = none)
    (hcabe : id.toNat * m.config.segmentMaxSize.toUInt32.toNat + tamanio.toNat ≤ 2 ^ 32) :
    Amplia m m' pid id base tamanio := by
  have hmaximo := UInt32.le_iff_toNat_le.mp hc.maximo
  have hvacia : ∀ dir, dir / m.config.segmentMaxSize.toUInt32 = id → m.vista pid dir = none := by
    intro dir hdir
    by_cases hmax : m.config.segmentMaxSize.toUInt32 = 0
    · exact KernelMemory.vista_sinMaximo hmax
    · rw [KernelMemory.vista_eq hmax, hdir, hnada]
      rfl
  refine ⟨fun k hk ↦ ?_, hc.dentro, fun otro dir hotro ↦ ?_⟩
  · have hmax : m.config.segmentMaxSize.toUInt32 ≠ 0 := by
      intro hcero
      rw [hcero, UInt32.toNat_zero] at hmaximo
      omega
    obtain ⟨dir, hdir⟩ := exists_dir (n := id.toNat * m.config.segmentMaxSize.toUInt32.toNat + k) (by omega)
    obtain ⟨hid, hresto⟩ := partes_unicas (by omega) hdir
    refine ⟨dir, base + dir % m.config.segmentMaxSize.toUInt32, hdir, hvacia dir hid, ?_, ?_⟩
    · rw [KernelMemory.vista_eq (hc.config ▸ hmax), hc.config, hid, hc.nuevo hnada, Option.bind_some]
      exact if_pos ⟨by rw [hresto]; exact hk, hc.residente⟩
    · have hsuma := h'.suma
      have hdentro := hc.dentro
      rw [toNat_add_of_lt (by omega), hresto]
  · by_cases hpropia : otro = pid ∧ dir / m.config.segmentMaxSize.toUInt32 = id
    · obtain ⟨rfl, hid⟩ := hpropia
      apply mantiene_of_none (hvacia dir hid)
      -- past the end of the new segment
      by_cases hmax : m.config.segmentMaxSize.toUInt32 = 0
      · exact KernelMemory.vista_sinMaximo (hc.config ▸ hmax)
      · rw [KernelMemory.vista_eq (hc.config ▸ hmax), hc.config, hid, hc.nuevo hnada, Option.bind_some]
        apply if_neg
        intro ⟨hlt, _⟩
        have hpartes := (dir_partes hmax dir).1
        rw [hid] at hpartes
        exact hotro rfl _ hlt hpartes
    · exact h.mantiene h' hc.config hc.sana (hc.otros otro _ hpropia)

theorem Concedida.amplia_iff (hc : Concedida m m' pid id base tamanio)
    (h : Repartida fugas aMedias [] m suspendidos) (h' : Repartida fugas aMedias [] m' suspendidos)
    (htamanio : 1 ≤ tamanio.toNat) :
    Amplia m m' pid id base tamanio ↔ m.segmentoDe pid id = none ∧
      id.toNat * m.config.segmentMaxSize.toUInt32.toNat + tamanio.toNat ≤ 2 ^ 32 := by
  refine ⟨fun he ↦ ⟨?_, ?_⟩, fun ⟨hnada, hcabe⟩ ↦ hc.amplia h h' hnada hcabe⟩
  · by_contra halgo
    obtain ⟨dir, addr, hdir, hantes, hdespues, _⟩ := he.nuevas 0 (by omega)
    have hmaximo := UInt32.le_iff_toNat_le.mp hc.maximo
    obtain ⟨hid, _⟩ := partes_unicas (by omega) hdir
    have htapado := hc.tapado halgo
    rw [← hid] at htapado
    have hestado := (h.mantiene h' hc.config hc.sana htapado).estado
    rw [hantes, hdespues] at hestado
    cases hestado
  · obtain ⟨dir, _, hdir, _⟩ := he.nuevas (tamanio.toNat - 1) (by omega)
    have hlt := dir.toNat_lt
    omega

end

/-! ## A deletion -/

/-- The address space shrinks by the `largo` addresses from the start of the segment with the id on: they are
32-bit ones, they were translated, and nothing is translated from them any more. -/
structure Retira (m m' : KernelMemory) (pid : ℤ) (id largo : UInt32) : Prop where
  retiradas : ∀ k < largo.toNat, ∃ dir : UInt32,
    dir.toNat = id.toNat * m.config.segmentMaxSize.toUInt32.toNat + k ∧ (m.vista pid dir).isSome ∧
      m'.vista pid dir = none
  ajenas : AjenasQuedan m m' pid id largo.toNat

/-- What a deletion does to the segments that the ids stand for. -/
structure Eliminada (m m' : KernelMemory) (pid : ℤ) (id : UInt32) : Prop where
  config : m'.config = m.config
  ram : m'.ram = m.ram
  propio : m'.segmentoDe pid id = m.segundoDe pid id
  otros : ∀ otro otroId, ¬ (otro = pid ∧ otroId = id) → m'.segmentoDe otro otroId = m.segmentoDe otro otroId

/-- No limit is above `SEGMENT_MAX_SIZE`. -/
def KernelMemory.EnLimite (m : KernelMemory) : Prop :=
  ∀ p ∈ m.procesos, ∀ seg ∈ p.segmentos, seg.limite ≤ m.config.segmentMaxSize.toUInt32

section

variable {fugas aMedias : Prop} {m m' : KernelMemory} {suspendidos : List ℤ} {pid : ℤ} {id dir : UInt32}
  {seg : Segmento}

/-- The address is accepted when its offset is below the limit of the segment; a process that is not suspended
has all its bytes in RAM. -/
theorem Repartida.vista_isSome_iff (h : Repartida fugas aMedias [] m suspendidos) (hactivo : pid ∉ suspendidos)
    (hmax : m.config.segmentMaxSize.toUInt32 ≠ 0) :
    (m.vista pid dir).isSome ↔ ∃ seg, m.segmentoDe pid (dir / m.config.segmentMaxSize.toUInt32) = some seg ∧
      (dir % m.config.segmentMaxSize.toUInt32).toNat < seg.limite.toNat := by
  constructor
  · intro hsome
    obtain ⟨addr, haddr⟩ := Option.isSome_iff_exists.mp hsome
    obtain ⟨seg, hseg, _, hcabe, _⟩ := h.vista_donde haddr
    exact ⟨seg, hseg, hcabe⟩
  · intro ⟨seg, hseg, hcabe⟩
    have hres : seg.Residente := by
      obtain ⟨p, hp, hfind⟩ := Option.bind_eq_some_iff.mp hseg
      have hdentro := h.segmentos_le hp hactivo seg (List.mem_of_find?_eq_some hfind)
      refine (residente_or_limite h.suma hdentro).resolve_right fun hcero ↦ ?_
      rw [hcero] at hcabe
      exact absurd hcabe (Nat.not_lt_zero _)
    rw [KernelMemory.vista_eq hmax, hseg, Option.bind_some, Segmento.byteEn, if_pos ⟨hcabe, hres⟩]
    rfl

theorem manejarEliminarSegmento_eliminada (hseg : m.segmentoDe pid id = some seg) :
    Eliminada m (manejarEliminarSegmento m pid id).2 pid id := by
  obtain ⟨p, hp, hfind⟩ := Option.bind_eq_some_iff.mp hseg
  simp only [manejarEliminarSegmento, hp, hfind]
  exact
    { config := rfl
      ram := rfl
      propio := by rw [segmentoDe_eliminar hp, if_pos ⟨rfl, rfl⟩]
      otros := fun otro otroId hotro ↦ by rw [segmentoDe_eliminar hp, if_neg hotro] }

theorem KernelMemory.EnLimite.segmentoDe (h : m.EnLimite) (hseg : m.segmentoDe pid id = some seg) :
    seg.limite.toNat ≤ m.config.segmentMaxSize.toUInt32.toNat := by
  obtain ⟨p, hp, hfind⟩ := Option.bind_eq_some_iff.mp hseg
  exact UInt32.le_iff_toNat_le.mp (h p (procesosBuscar_mem hp) seg (List.mem_of_find?_eq_some hfind))

theorem KernelMemory.EnLimite.segundoDe (h : m.EnLimite) (hseg : m.segundoDe pid id = some seg) :
    seg.limite.toNat ≤ m.config.segmentMaxSize.toUInt32.toNat := by
  obtain ⟨p, hp, hget⟩ := Option.bind_eq_some_iff.mp hseg
  exact UInt32.le_iff_toNat_le.mp
    (h p (procesosBuscar_mem hp) seg (List.mem_of_mem_filter (List.mem_of_getElem? hget)))

/-- The addresses of the segment go when no second segment with its id has any. -/
theorem Eliminada.retira (he : Eliminada m m' pid id) (h : Repartida fugas aMedias [] m suspendidos)
    (h' : Repartida fugas aMedias [] m' suspendidos) (hactivo : pid ∉ suspendidos) (hlimites : m.EnLimite)
    (hseg : m.segmentoDe pid id = some seg)
    (hcabe : seg.limite = 0 ∨
      id.toNat * m.config.segmentMaxSize.toUInt32.toNat + seg.limite.toNat ≤ 2 ^ 32)
    (hsegundo : ∀ otro ∈ m.segundoDe pid id,
      otro.limite = 0 ∨ 2 ^ 32 ≤ id.toNat * m.config.segmentMaxSize.toUInt32.toNat) :
    Retira m m' pid id seg.limite := by
  have hmaximo := hlimites.segmentoDe hseg
  by_cases hmax : m.config.segmentMaxSize.toUInt32 = 0
  · rw [hmax, UInt32.toNat_zero] at hmaximo
    refine ⟨fun k hk ↦ by omega, fun otro dir _ ↦ mantiene_of_none ?_ ?_⟩
    · exact KernelMemory.vista_sinMaximo hmax
    · exact KernelMemory.vista_sinMaximo (he.config ▸ hmax)
  have hnada : ∀ dir, dir / m.config.segmentMaxSize.toUInt32 = id → m'.vista pid dir = none := by
    intro dir hid
    apply Option.not_isSome_iff_eq_none.mp
    intro hsome
    obtain ⟨otro, hotro, hlt⟩ := (h'.vista_isSome_iff hactivo (he.config ▸ hmax)).mp hsome
    rw [he.config, hid, he.propio] at hotro
    have hpartes := (dir_partes hmax dir).1
    have hdirlt := dir.toNat_lt
    rw [hid] at hpartes
    rcases hsegundo otro hotro with hlimite | hlejos
    · rw [hlimite, UInt32.toNat_zero] at hlt
      omega
    · omega
  refine ⟨fun k hk ↦ ?_, fun otro dir hotro ↦ ?_⟩
  · have hfin := hcabe.resolve_left fun hlimite ↦ by
      rw [hlimite, UInt32.toNat_zero] at hk
      omega
    obtain ⟨dir, hdir⟩ := exists_dir (n := id.toNat * m.config.segmentMaxSize.toUInt32.toNat + k) (by omega)
    obtain ⟨hid, hresto⟩ := partes_unicas (by omega) hdir
    refine ⟨dir, hdir, (h.vista_isSome_iff hactivo hmax).mpr ⟨seg, ?_, ?_⟩, hnada dir hid⟩
    · rw [hid, hseg]
    · rw [hresto]
      exact hk
  · by_cases hpropia : otro = pid ∧ dir / m.config.segmentMaxSize.toUInt32 = id
    · obtain ⟨rfl, hid⟩ := hpropia
      refine mantiene_of_none (Option.not_isSome_iff_eq_none.mp fun hsome ↦ ?_) (hnada dir hid)
      -- an address of the segment that is none of its first ones
      obtain ⟨seg', hseg', hlt⟩ := (h.vista_isSome_iff hactivo hmax).mp hsome
      rw [hid, hseg] at hseg'
      obtain rfl := Option.some.inj hseg'
      have hpartes := (dir_partes hmax dir).1
      rw [hid] at hpartes
      exact hotro rfl _ hlt hpartes
    · apply h.mantiene h' he.config fun hfallos ↦ he.ram ▸ h.sana hfallos
      rw [he.otros _ _ hpropia]
      cases m.segmentoDe otro _ with
      | none => exact .none
      | some seg => exact .some (.refl (by rw [he.ram]) seg)

/-- A second segment with the id comes to light if it has a 32-bit address. -/
theorem Eliminada.segundo (he : Eliminada m m' pid id) (h : Repartida fugas aMedias [] m suspendidos)
    (h' : Repartida fugas aMedias [] m' suspendidos) (hactivo : pid ∉ suspendidos) (hlimites : m.EnLimite)
    (hseg : m.segmentoDe pid id = some seg) (hr : Retira m m' pid id seg.limite) {otro : Segmento}
    (hotro : m.segundoDe pid id = some otro) (hlimite : otro.limite.toNat ≠ 0) :
    2 ^ 32 ≤ id.toNat * m.config.segmentMaxSize.toUInt32.toNat := by
  by_contra hcerca
  have hmaximo := hlimites.segundoDe hotro
  obtain ⟨dir, hdir⟩ := exists_dir (not_le.mp hcerca)
  obtain ⟨hid, hresto⟩ := partes_unicas (by omega) (hdir.trans (Nat.add_zero _).symm)
  have hmax : m.config.segmentMaxSize.toUInt32 ≠ 0 := fun hmax ↦ by
    rw [hmax, UInt32.toNat_zero] at hmaximo
    omega
  have hsigue : (m'.vista pid dir).isSome := by
    apply (h'.vista_isSome_iff hactivo (he.config ▸ hmax)).mpr
    rw [he.config, hid, he.propio, hresto]
    exact ⟨otro, hotro, by omega⟩
  by_cases hpropio : seg.limite.toNat = 0
  · have hestado := (hr.ajenas pid dir fun _ k hk ↦ by omega).estado
    rw [hsigue] at hestado
    obtain ⟨seg', hseg', hcabe⟩ := (h.vista_isSome_iff hactivo hmax).mp hestado.symm
    rw [hid, hseg] at hseg'
    obtain rfl := Option.some.inj hseg'
    omega
  · obtain ⟨primera, hprimera, _, hnada⟩ := hr.retiradas 0 (by omega)
    obtain rfl : primera = dir := UInt32.toNat_inj.mp (by rw [hprimera, hdir, Nat.add_zero])
    rw [hnada] at hsigue
    cases hsigue

theorem Repartida.retira_iff (h : Repartida fugas aMedias [] m suspendidos) (hactivo : pid ∉ suspendidos)
    (hlimites : m.EnLimite) (hseg : m.segmentoDe pid id = some seg) :
    Retira m (manejarEliminarSegmento m pid id).2 pid id seg.limite ↔
      (seg.limite = 0 ∨ id.toNat * m.config.segmentMaxSize.toUInt32.toNat + seg.limite.toNat ≤ 2 ^ 32) ∧
        ∀ otro ∈ m.segundoDe pid id,
          otro.limite = 0 ∨ 2 ^ 32 ≤ id.toNat * m.config.segmentMaxSize.toUInt32.toNat := by
  have h' := h.eliminar hactivo id
  have he := manejarEliminarSegmento_eliminada hseg
  refine ⟨fun hr ↦ ⟨?_, fun otro hotro ↦ ?_⟩, fun ⟨hcabe, hsegundo⟩ ↦ ?_⟩
  · by_cases hlimite : seg.limite.toNat = 0
    · exact Or.inl (UInt32.toNat_inj.mp hlimite)
    · obtain ⟨dir, hdir, _⟩ := hr.retiradas (seg.limite.toNat - 1) (by omega)
      have hlt := dir.toNat_lt
      exact Or.inr (by omega)
  · by_cases hlimite : otro.limite.toNat = 0
    · exact Or.inl (UInt32.toNat_inj.mp hlimite)
    · exact Or.inr (he.segundo h h' hactivo hlimites hseg hr hotro hlimite)
  · exact he.retira h h' hactivo hlimites hseg hcabe hsegundo

end

/-! ## Runs -/

/-- The requests of a run that are granted only for an id that no segment of the process has, and only where
all addresses of the new segment are 32-bit ones. -/
def Corrida.IdsPropios (qsort : Qsort) (c : Corrida) : Operacion → Prop
  | .solicitarSegmento pid id tamanio => ∀ base,
      .solicitarSegmento id base tamanio ∈ (manejarSolicitarSegmento qsort c.memoria pid id tamanio).1 →
        c.memoria.segmentoDe pid id = none ∧
          id.toNat * c.memoria.config.segmentMaxSize.toUInt32.toNat + tamanio.toNat ≤ 2 ^ 32
  | _ => True

section

variable {qsort : Qsort} {c : Corrida}

theorem enLimite_alcanzable {allowed : Corrida → Operacion → Prop}
    (hc : Reachable (Corrida.paso qsort) Corrida.Inicial allowed c) : c.memoria.EnLimite := by
  have hformas : ∀ p ∈ c.memoria.procesos, ∀ forma ∈ p.forma,
      forma.2 ≤ c.memoria.config.segmentMaxSize.toUInt32 := by
    apply formas_alcanzables (fun max formas ↦ ∀ forma ∈ formas, forma.2 ≤ max) _ hc
    intro s op formas _ hformas hcambia
    cases hcambia with
    | nueva => exact nofun
    | igual hp => exact hformas _ hp
    | agregada hp hmax _ =>
      intro forma hforma
      rcases List.mem_append.mp hforma with hforma | hforma
      · exact hformas _ (procesosBuscar_mem hp) forma hforma
      · rw [List.mem_singleton.mp hforma]
        exact hmax
    | quitada hp => exact fun forma hforma ↦ hformas _ hp forma (List.mem_of_mem_eraseP hforma)
  exact fun p hp seg hseg ↦ hformas p hp seg.forma (List.mem_map_of_mem hseg)

/-- The ids of a table are different, and the addresses of its segments are 32-bit ones. -/
def FormasPropias (max : UInt32) (formas : List (UInt32 × UInt32)) : Prop :=
  (formas.map Prod.fst).Nodup ∧ ∀ forma ∈ formas, forma.1.toNat * max.toNat + forma.2.toNat ≤ 2 ^ 32

theorem formasPropias_alcanzable (hc : Reachable (Corrida.paso qsort) Corrida.Inicial (Corrida.IdsPropios qsort) c) :
    ∀ p ∈ c.memoria.procesos, FormasPropias c.memoria.config.segmentMaxSize.toUInt32 p.forma := by
  apply formas_alcanzables FormasPropias _ hc
  intro s op formas hallowed hformas hcambia
  cases hcambia with
  | nueva => exact ⟨List.nodup_nil, nofun⟩
  | igual hp => exact hformas _ hp
  | @agregada pid id tamanio base p hp hmax hconcede =>
    obtain ⟨hdistintas, hcaben⟩ := hformas p (procesosBuscar_mem hp)
    obtain ⟨hnada, hcabe⟩ := hallowed base hconcede
    constructor
    · rw [List.map_append]
      apply List.Nodup.append hdistintas (List.nodup_singleton _)
      intro otro hotro hmismo
      obtain rfl : otro = id := List.mem_singleton.mp hmismo
      obtain ⟨forma, hforma, rfl⟩ := List.mem_map.mp hotro
      obtain ⟨seg, hseg, rfl⟩ := List.mem_map.mp hforma
      rw [KernelMemory.segmentoDe, hp] at hnada
      exact List.find?_eq_none.mp hnada seg hseg (decide_eq_true rfl)
    · intro forma hforma
      rcases List.mem_append.mp hforma with hforma | hforma
      · exact hcaben forma hforma
      · rw [List.mem_singleton.mp hforma]
        exact hcabe
  | quitada hp =>
    obtain ⟨hdistintas, hcaben⟩ := hformas _ hp
    refine ⟨hdistintas.sublist ((List.eraseP_sublist).map _), fun forma hforma ↦ ?_⟩
    exact hcaben forma (List.mem_of_mem_eraseP hforma)

/-- Where ids are different, no second segment has one. -/
theorem segundoDe_eq_none {max : UInt32} {m : KernelMemory} {pid : ℤ} {id : UInt32}
    (h : ∀ p ∈ m.procesos, FormasPropias max p.forma) : m.segundoDe pid id = none := by
  rw [KernelMemory.segundoDe]
  cases hp : procesosBuscar m.procesos pid with
  | none => rfl
  | some p =>
    have hdistintas := (h p (procesosBuscar_mem hp)).1
    rw [Proceso.forma, List.map_map] at hdistintas
    have hunico := hdistintas.sublist ((List.filter_sublist (p := fun s : Segmento ↦ s.id = id)).map _)
    have higuales : (p.segmentos.filter fun s ↦ s.id = id).map (Prod.fst ∘ Segmento.forma) =
        List.replicate (p.segmentos.filter fun s ↦ s.id = id).length id := by
      apply List.eq_replicate_iff.mpr
      refine ⟨List.length_map _, fun otro hotro ↦ ?_⟩
      obtain ⟨seg, hseg, rfl⟩ := List.mem_map.mp hotro
      exact of_decide_eq_true (List.mem_filter.mp hseg).2
    rw [higuales, List.nodup_replicate] at hunico
    exact List.getElem?_eq_none hunico

end

end PlugAndPlay.Memoria
